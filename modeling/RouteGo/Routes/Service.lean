import RouteGo.Js.Text
import RouteGo.Lib.CheckInsert
import RouteGo.Routes.Repository

/-!
# `RouteService.createRoute`

`routeService.ts`: a look-up by name, and then the insert. The table of routes
has no unique index behind it, so the names stay distinct in exactly the runs in
which no other call stores a route of the name in between (`namesDistinct_iff`).
-/

namespace RouteGo.Routes

open Js

/-- The body of the request; `none` for `stops` that are no array. -/
structure CreateRouteDto where
  name : Value
  stops : Option (List Value)

/-- What `createRoute` stores. -/
structure RouteData where
  name : String
  stops : List String

def nameRequired : AppError :=
  .ValidationError "Route name is required and must be a non-empty string"

def twoStopsRequired : AppError := .ValidationError "A route must have at least 2 stops"

def invalidStop (position : Nat) : AppError :=
  .ValidationError ("Stop at position " ++ toString position ++ " must be a non-empty string")

/-- The stops from position `n` on, trimmed. -/
def trimStops : Nat → List Value → Result (List String)
  | _, [] => .ok []
  | n, stop :: stops =>
    match stop.trimmed with
    | none => .error (invalidStop n)
    | some t => do
      let ts ← trimStops (n + 1) stops
      return t :: ts

def validateRoute (data : CreateRouteDto) : Result RouteData :=
  match data.name.trimmed with
  | none => .error nameRequired
  | some name =>
    match data.stops with
    | none => .error twoStopsRequired
    | some stops =>
      if stops.length < 2 then .error twoStopsRequired
      else do
        let trimmedStops ← trimStops 1 stops
        return ⟨name, trimmedStops⟩

def nameTaken (name : String) : AppError :=
  .ConflictError ("Route with name '" ++ name ++ "' already exists")

/-- The three stages of `createRoute`. -/
def createRoute :
    CheckInsert RouteStore CreateRouteDto RouteData NewIds RouteWithStops AppError where
  check := validateRoute
  taken store d := (findByName store d.name).isSome
  conflict d := nameTaken d.name
  insert store ids d := (createRouteWithStops store ids d.name d.stops).map .ok
  fault := prismaError

abbrev Call := CheckInsert.Call CreateRouteDto RouteData RouteWithStops AppError

abbrev Event := Pool.Event (CheckInsert.StepIn NewIds) Empty

/-! ## Names -/

def NamesDistinct (store : RouteStore) : Prop := store.routes.Distinct Route.name

instance (store : RouteStore) : Decidable (NamesDistinct store) :=
  inferInstanceAs (Decidable (List.Nodup _))

section
variable {store store' : RouteStore} {ids : NewIds} {d : RouteData} {a : RouteWithStops}

theorem insert_createRoute (h : createRoute.insert store ids d = some (.ok (a, store'))) :
    a.route.name = d.name ∧ store'.routes.rows = store.routes.rows ++ [a.route] := by
  simp only [createRoute, Option.map_eq_some_iff] at h
  obtain ⟨r, hr, heq⟩ := h
  obtain rfl := Except.ok.inj heq
  obtain ⟨hroute, -, hrows, -⟩ := createRouteWithStops_some hr
  exact ⟨by rw [hroute], hrows⟩

theorem taken_iff : createRoute.taken store d = true ↔ ∃ r ∈ store.routes.rows, r.name = d.name :=
  findByName_isSome_iff

/-- A name that nobody has keeps the names distinct. -/
theorem namesDistinct_insert (hn : NamesDistinct store) (ht : createRoute.taken store d = false)
    (h : createRoute.insert store ids d = some (.ok (a, store'))) : NamesDistinct store' := by
  obtain ⟨hname, hrows⟩ := insert_createRoute h
  refine Table.Distinct.append hn hrows (List.nodup_singleton _) fun x hx y hy hxy => ?_
  obtain rfl := List.mem_singleton.mp hy
  exact Bool.eq_false_iff.mp ht (taken_iff.mpr ⟨x, hx, hxy.trans hname⟩)

/-- A name that somebody has is there twice afterwards. -/
theorem not_namesDistinct_insert (ht : createRoute.taken store d = true)
    (h : createRoute.insert store ids d = some (.ok (a, store'))) : ¬ NamesDistinct store' := by
  obtain ⟨hname, hrows⟩ := insert_createRoute h
  obtain ⟨r, hr, hrn⟩ := taken_iff.mp ht
  intro hd
  rw [NamesDistinct, Table.Distinct, hrows, List.map_append, List.nodup_append] at hd
  exact hd.2.2 r.name (List.mem_map_of_mem hr) a.route.name (by simp) (hrn.trans hname.symm)

/-- Routes stay. -/
theorem not_namesDistinct_keep (hn : ¬ NamesDistinct store)
    (h : createRoute.insert store ids d = some (.ok (a, store'))) : ¬ NamesDistinct store' := by
  obtain ⟨-, hrows⟩ := insert_createRoute h
  intro hd
  rw [NamesDistinct, Table.Distinct, hrows, List.map_append, List.nodup_append] at hd
  exact hn hd.1

/-- Of one name. -/
def RouteData.SameName (d d' : RouteData) : Prop := d.name = d'.name

/-- A stored route takes its name, and no other. -/
theorem taken_insert {d d' : RouteData}
    (h : createRoute.insert store ids d' = some (.ok (a, store'))) :
    createRoute.taken store' d = true ↔ createRoute.taken store d = true ∨ d'.SameName d := by
  obtain ⟨hname, hrows⟩ := insert_createRoute h
  rw [taken_iff, taken_iff, hrows, RouteData.SameName, ← hname]
  simp only [List.mem_append, List.mem_singleton, or_and_right, exists_or, exists_eq_left]

theorem insert_ne_error (b : AppError) : createRoute.insert store ids d ≠ some (.error b) := by
  simp [createRoute]

end

/-- Any calls of `createRoute`, none begun, on a store of distinct names. -/
structure Idle (p : Pool RouteStore Call) : Prop where
  names : NamesDistinct p.shared
  fresh : ∀ c ∈ p.procs, c.pc = .start

/-- **Names are distinct** after exactly the runs in which, between the look-up and the
insert of a call, no other call stores a route of its name. -/
theorem namesDistinct_iff {p p' : Pool RouteStore Call} {es : List Event} (hi : Idle p)
    (h : LTS.execAll (Pool.step createRoute.spec) p es = some p') :
    NamesDistinct p'.shared ↔ createRoute.Undisturbed RouteData.SameName p es := by
  rw [← CheckInsert.lookups_iff_undisturbed (fun _ _ _ _ _ h _ => taken_insert h)
    (fun _ _ _ b => insert_ne_error b) hi.fresh]
  exact CheckInsert.iff_allOk_lookups (fun _ h => h)
    (fun _ _ _ _ _ _ hn _ ht h => namesDistinct_insert hn ht h)
    (fun _ _ _ _ _ ht h => not_namesDistinct_insert ht h)
    (fun _ _ _ _ _ hn h => not_namesDistinct_keep hn h) (fun _ _ _ b => insert_ne_error b)
    ⟨hi.names, hi.fresh⟩ h

/-- Two requests for one route. -/
def twoRoutes : Pool RouteStore Call where
  shared := RouteStore.empty
  procs := [⟨⟨.string "A-B", some [.string "A", .string "B"]⟩, .start⟩,
    ⟨⟨.string " A-B ", some [.string "A", .string "B"]⟩, .start⟩]

theorem twoRoutes_idle : Idle twoRoutes := by
  refine ⟨List.nodup_nil, fun c hc => ?_⟩
  simp only [twoRoutes, List.mem_cons, List.not_mem_nil, or_false] at hc
  rcases hc with rfl | rfl <;> rfl

def twoRoutesAfter (es : List Event) : Pool RouteStore Call :=
  (LTS.execAll (Pool.step createRoute.spec) twoRoutes es).getD twoRoutes

/-- The second request comes when the first has stored its route. -/
theorem namesDistinct_iff_inTurn : NamesDistinct (twoRoutesAfter
    [.proc 0 ⟨⟨"r1", []⟩, false⟩, .proc 0 ⟨⟨"r1", ["s1", "s2"]⟩, false⟩,
      .proc 1 ⟨⟨"r2", []⟩, false⟩]).shared := by
  have h : LTS.execAll (Pool.step createRoute.spec) twoRoutes [.proc 0 ⟨⟨"r1", []⟩, false⟩,
      .proc 0 ⟨⟨"r1", ["s1", "s2"]⟩, false⟩, .proc 1 ⟨⟨"r2", []⟩, false⟩] = some _ := rfl
  have hlook : LTS.AllOk (Pool.step createRoute.spec) createRoute.LookupHolds twoRoutes
      [.proc 0 ⟨⟨"r1", []⟩, false⟩, .proc 0 ⟨⟨"r1", ["s1", "s2"]⟩, false⟩,
        .proc 1 ⟨⟨"r2", []⟩, false⟩] := by
    refine ⟨?_, ?_, ?_, trivial⟩
    · intro q d hq hf
      cases hq
    · intro q d hq hf
      cases hq
      rfl
    · intro q d hq hf
      cases hq
  exact (namesDistinct_iff twoRoutes_idle h).mpr <| (CheckInsert.lookups_iff_undisturbed
    (fun _ _ _ _ _ h _ => taken_insert h) (fun _ _ _ b => insert_ne_error b)
      twoRoutes_idle.fresh).mp hlook

/-- Both requests look their name up before either inserts. -/
def raceEvents : List Event :=
  [.proc 0 ⟨⟨"r1", []⟩, false⟩, .proc 1 ⟨⟨"r2", []⟩, false⟩, .proc 0 ⟨⟨"r1", ["s1", "s2"]⟩, false⟩,
    .proc 1 ⟨⟨"r2", ["s3", "s4"]⟩, false⟩]

/-- **One name twice.** -/
theorem exists_name_twice : ¬ ∀ (p p' : Pool RouteStore Call) (es : List Event), Idle p →
    LTS.execAll (Pool.step createRoute.spec) p es = some p' → NamesDistinct p'.shared := by
  intro h
  have hd := h twoRoutes (twoRoutesAfter raceEvents) raceEvents twoRoutes_idle rfl
  exact absurd hd (by decide)

end RouteGo.Routes
