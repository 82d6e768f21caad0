import RouteGo.Lib.Table
import RouteGo.Lib.Uuid
import RouteGo.Utils.HttpErrors

/-!
# Routes and their stops

`route.repository.ts` over the tables of `schema.prisma`. A `RouteStore` has no
two stops of one number on a route and no stop without its route; the names of
routes are under no constraint.
-/

namespace RouteGo.Routes

structure Route where
  id : String
  name : String
  deriving DecidableEq, Repr

structure Stop where
  id : String
  routeId : String
  name : String
  sequenceNumber : Nat
  deriving DecidableEq, Repr

instance : Keyed Route String := ⟨Route.id⟩

instance : Keyed Stop String := ⟨Stop.id⟩

@[simp] theorem key_route (r : Route) : key r = r.id := rfl

@[simp] theorem key_stop (s : Stop) : key s = s.id := rfl

/-- `@@unique([routeId, sequenceNumber])` -/
def Stop.place (s : Stop) : String × Nat := (s.routeId, s.sequenceNumber)

structure RouteStore where
  routes : Table Route
  stops : Table Stop
  places : stops.Distinct Stop.place
  owned : ∀ s ∈ stops.rows, ∃ r ∈ routes.rows, r.id = s.routeId

namespace RouteStore

def empty : RouteStore :=
  ⟨Table.empty, Table.empty, List.nodup_nil, fun _ h => absurd h List.not_mem_nil⟩

@[ext]
theorem ext {s s' : RouteStore} (hr : s.routes = s'.routes) (hs : s.stops = s'.stops) : s = s' := by
  cases s; cases s'; cases hr; cases hs; rfl

end RouteStore

/-- A route with its stops by `sequenceNumber`. -/
structure RouteWithStops where
  route : Route
  stops : List Stop

/-- The `uuid`s the database gives to a route and its stops. -/
structure NewIds where
  route : String
  stops : List String

def findByName (store : RouteStore) (name : String) : Option Route :=
  store.routes.rows.find? fun r => decide (r.name = name)

/-- `findUnique` on a `uuid` column. -/
def findRouteById (store : RouteStore) (id : String) : Result (Option Route) :=
  match Uuid.read id with
  | some v => .ok (store.routes.find (Uuid.text v))
  | none => .error prismaError

/-- The rows of `Stop` in the order the database comes upon them. -/
structure Scan (store : RouteStore) where
  rows : List Stop
  perm : rows.Perm store.stops.rows

/-- The stops of a route by `sequenceNumber`. -/
def findStopsByRouteId {store : RouteStore} (scan : Scan store) (routeId : String) :
    Result (List Stop) :=
  match Uuid.read routeId with
  | some v => .ok ((scan.rows.filter fun s => decide (s.routeId = Uuid.text v)).mergeSort
      fun a b => decide (a.sequenceNumber ≤ b.sequenceNumber))
  | none => .error prismaError

/-- The stops of a nested create: `sequenceNumber` is `index + 1`. -/
def stopsFrom (routeId : String) : Nat → List String → List String → List Stop
  | n, id :: ids, name :: names => ⟨id, routeId, name, n⟩ :: stopsFrom routeId (n + 1) ids names
  | _, _, _ => []

theorem mem_stopsFrom {routeId : String} : ∀ {n : Nat} {ids names : List String} {s : Stop},
    s ∈ stopsFrom routeId n ids names → s.routeId = routeId ∧ n ≤ s.sequenceNumber
  | n, id :: ids, name :: names, s, h => by
    rcases List.mem_cons.mp h with rfl | h
    · exact ⟨rfl, Nat.le_refl _⟩
    · obtain ⟨hr, hn⟩ := mem_stopsFrom h
      exact ⟨hr, by omega⟩
  | _, [], _, _, h => by simp [stopsFrom] at h
  | _, _ :: _, [], _, h => by simp [stopsFrom] at h

/-- The numbers only go up. -/
theorem nodup_stopsFrom (routeId : String) : ∀ (n : Nat) (ids names : List String),
    ((stopsFrom routeId n ids names).map Stop.place).Nodup
  | n, id :: ids, name :: names => by
    rw [stopsFrom, List.map_cons, List.nodup_cons]
    refine ⟨fun hm => ?_, nodup_stopsFrom routeId (n + 1) ids names⟩
    obtain ⟨s, hs, hp⟩ := List.mem_map.mp hm
    have hn := (mem_stopsFrom hs).2
    have hseq : s.sequenceNumber = n := congrArg Prod.snd hp
    omega
  | _, [], _ => by simp [stopsFrom]
  | _, _ :: _, [] => by simp [stopsFrom]

/-- A stop of a route that is not there yet takes no place that is. -/
theorem place_ne_of_new {store : RouteStore} {route : Route} (h : store.routes.find route.id = none)
    {n : Nat} {ids names : List String} :
    ∀ x ∈ store.stops.rows, ∀ y ∈ stopsFrom route.id n ids names, x.place ≠ y.place := by
  intro x hx y hy hp
  obtain ⟨r, hr, hid⟩ := store.owned x hx
  have hrid : x.routeId = route.id := (congrArg Prod.fst hp).trans (mem_stopsFrom hy).1
  exact Table.find_eq_none.mp h r hr (hid.trans hrid)

/-- `prisma.route.create` with nested stops, in one transaction; `none` for ids
that are not new. -/
def createRouteWithStops (store : RouteStore) (ids : NewIds) (name : String)
    (stopNames : List String) : Option (RouteWithStops × RouteStore) :=
  if ids.stops.length ≠ stopNames.length then none
  else
    let route : Route := ⟨ids.route, name⟩
    let created := stopsFrom ids.route 1 ids.stops stopNames
    match hr : store.routes.insert route, hs : store.stops.insertAll created with
    | some routes, some stops => some (⟨route, created⟩, {
        routes := routes
        stops := stops
        places := store.places.append (Table.rows_of_insertAll hs) (nodup_stopsFrom _ _ _ _)
          (place_ne_of_new (Table.insert_eq_some.mp hr).1)
        owned := fun s h => by
          rw [Table.rows_of_insertAll hs, List.mem_append] at h
          rcases h with h | h
          · obtain ⟨r, hrow, hid⟩ := store.owned s h
            exact ⟨r, (Table.mem_of_insert hr).mpr (.inl hrow), hid⟩
          · exact ⟨route, (Table.mem_of_insert hr).mpr (.inr rfl), (mem_stopsFrom h).1.symm⟩ })
    | _, _ => none

section
variable {store store' : RouteStore} {ids : NewIds} {name : String} {stopNames : List String}
  {created : RouteWithStops}

theorem findByName_isSome_iff :
    (findByName store name).isSome = true ↔ ∃ r ∈ store.routes.rows, r.name = name := by
  rw [findByName, List.find?_isSome]
  simp

/-- The names are given in their order, and the numbers count up. -/
theorem map_stopsFrom (routeId : String) : ∀ (n : Nat) (ids names : List String),
    ids.length = names.length → (stopsFrom routeId n ids names).map Stop.name = names ∧
      (stopsFrom routeId n ids names).map Stop.sequenceNumber = List.range' n names.length
  | _, [], [], _ => ⟨rfl, rfl⟩
  | n, id :: ids, name :: names, h => by
    obtain ⟨hnames, hnumbers⟩ := map_stopsFrom routeId (n + 1) ids names (Nat.succ.inj h)
    rw [stopsFrom, List.map_cons, List.map_cons, hnames, hnumbers]
    exact ⟨rfl, rfl⟩

theorem createRouteWithStops_some
    (h : createRouteWithStops store ids name stopNames = some (created, store')) :
    created.route = ⟨ids.route, name⟩ ∧ created.stops = stopsFrom ids.route 1 ids.stops stopNames ∧
      store'.routes.rows = store.routes.rows ++ [created.route] ∧
      store'.stops.rows = store.stops.rows ++ created.stops := by
  unfold createRouteWithStops at h
  split at h
  · cases h
  · simp only at h
    split at h
    · next routes stops hr hs =>
      cases h
      exact ⟨rfl, rfl, Table.rows_of_insert hr, Table.rows_of_insertAll hs⟩
    · cases h

/-- The route is new, and there is an id for every stop. -/
theorem createRouteWithStops_new
    (h : createRouteWithStops store ids name stopNames = some (created, store')) :
    store.routes.find ids.route = none ∧ ids.stops.length = stopNames.length := by
  unfold createRouteWithStops at h
  split at h
  · cases h
  · next hlen =>
    simp only at h
    split at h
    · next routes stops hr hs => exact ⟨(Table.insert_eq_some.mp hr).1, not_not.mp hlen⟩
    · cases h

/-- The stops of a route that is not there. -/
theorem filter_stops_of_new {id : String} (h : store.routes.find id = none) :
    store.stops.rows.filter (fun s => decide (s.routeId = id)) = [] := by
  rw [List.filter_eq_nil_iff]
  intro s hs hid
  obtain ⟨r, hr, hrid⟩ := store.owned s hs
  exact Table.find_eq_none.mp h r hr (hrid.trans (of_decide_eq_true hid))

/-- Of the new stops a route has all or none. -/
theorem filter_stopsFrom (routeId id : String) (n : Nat) (ids names : List String) :
    (stopsFrom routeId n ids names).filter (fun s => decide (s.routeId = id)) =
      if routeId = id then stopsFrom routeId n ids names else [] := by
  split
  · next hid =>
    rw [List.filter_eq_self]
    intro s hs
    exact decide_eq_true ((mem_stopsFrom hs).1.trans hid)
  · next hid =>
    rw [List.filter_eq_nil_iff]
    intro s hs hsid
    exact hid ((mem_stopsFrom hs).1.symm.trans (of_decide_eq_true hsid))

/-! ## The stops of a route -/

/-- A route has no two stops of one number, so the order is the same however the
rows are stored. -/
theorem sort_scan (scan : Scan store) (id : String) {stops : List Stop}
    (hs : store.stops.rows.filter (fun s => decide (s.routeId = id)) = stops)
    (hsorted : (stops.map Stop.sequenceNumber).Pairwise (· < ·)) :
    (scan.rows.filter fun s => decide (s.routeId = id)).mergeSort
      (fun a b => decide (a.sequenceNumber ≤ b.sequenceNumber)) = stops := by
  have hnodup : (stops.map Stop.sequenceNumber).Nodup := hsorted.imp Nat.ne_of_lt
  rw [List.pairwise_map] at hsorted
  have hperm : (scan.rows.filter fun s => decide (s.routeId = id)).Perm stops := by
    rw [← hs]
    exact scan.perm.filter _
  have hmerge : ((scan.rows.filter fun s => decide (s.routeId = id)).mergeSort fun a b =>
      decide (a.sequenceNumber ≤ b.sequenceNumber)).Pairwise
      fun a b => a.sequenceNumber ≤ b.sequenceNumber := by
    refine (List.pairwise_mergeSort ?_ ?_ _).imp fun h => of_decide_eq_true h
    · intro a b c hab hbc
      simp only [decide_eq_true_eq] at hab hbc ⊢
      omega
    · intro a b
      simp only [Bool.or_eq_true, decide_eq_true_eq]
      omega
  refine List.Perm.eq_of_pairwise (fun a b ha hb hab hba => ?_) hmerge (hsorted.imp Nat.le_of_lt)
    ((List.mergeSort_perm _ _).trans hperm)
  have ha : a ∈ stops := hperm.mem_iff.mp (List.mem_mergeSort.mp ha)
  exact List.inj_on_of_nodup_map hnodup ha hb (Nat.le_antisymm hab hba)

end

end RouteGo.Routes
