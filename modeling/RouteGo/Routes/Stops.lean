import RouteGo.Routes.Service

/-!
# `RouteService.getRouteStops`

The stops of a route, written with their positions and read back by them. Whatever
calls of `createRoute` run before, in between and after, and however the rows are
stored, what comes back is the list the route was created with (`stops_of_created`).
-/

namespace RouteGo.Routes

open Js

def routeIdRequired : AppError := .ValidationError "Route ID is required"

def routeNotFound : AppError := .NotFoundError "Route not found"

/-- The route is looked up in `store`, its stops are read from what the store has
become by then. -/
def getRouteStops (store : RouteStore) {later : RouteStore} (scan : Scan later) (routeId : Value) :
    Result (List Stop) :=
  match routeId.trimmed with
  | none => .error routeIdRequired
  | some id =>
    match findRouteById store id with
    | .error e => .error e
    | .ok none => .error routeNotFound
    | .ok (some _) => findStopsByRouteId scan id

/-- A request for the route of this id: a text of the `uuid`, with white space or
without. -/
def AsksFor (request : Value) (id : String) : Prop :=
  ∃ t v, request.trimmed = some t ∧ Uuid.read t = some v ∧ Uuid.text v = id

/-! ## What a call has stored -/

/-- The stops of the request are numbered from 1 on, and are the only ones of the
route. -/
structure Stored (store : RouteStore) (dto : CreateRouteDto) (a : RouteWithStops) : Prop where
  route : a.route ∈ store.routes.rows
  only : store.stops.rows.filter (fun s => decide (s.routeId = a.route.id)) = a.stops
  data : ∃ d, validateRoute dto = .ok d ∧ a.stops.map Stop.name = d.stops ∧
    a.stops.map Stop.sequenceNumber = List.range' 1 d.stops.length

section
variable {store store' : RouteStore} {dto : CreateRouteDto} {ids : NewIds} {d : RouteData}
  {a a' : RouteWithStops}

theorem created_of_insert (h : createRoute.insert store ids d = some (.ok (a, store'))) :
    createRouteWithStops store ids d.name d.stops = some (a, store') := by
  simp only [createRoute, Option.map_eq_some_iff] at h
  obtain ⟨r, hr, heq⟩ := h
  obtain rfl := Except.ok.inj heq
  exact hr

theorem stored_insert (hd : validateRoute dto = .ok d)
    (h : createRoute.insert store ids d = some (.ok (a, store'))) : Stored store' dto a := by
  have hc := created_of_insert h
  obtain ⟨hnew, hlen⟩ := createRouteWithStops_new hc
  obtain ⟨hroute, hstops, hroutes, hrows⟩ := createRouteWithStops_some hc
  obtain ⟨hnames, hnumbers⟩ := map_stopsFrom ids.route 1 ids.stops d.stops hlen
  have hid : a.route.id = ids.route := by rw [hroute]
  constructor
  · rw [hroutes]
    exact List.mem_append_right _ (List.mem_singleton_self _)
  · rw [hrows, List.filter_append, hid, filter_stops_of_new hnew, hstops,
      filter_stopsFrom, if_pos rfl]
    rfl
  · rw [hstops]
    exact ⟨d, hd, hnames, hnumbers⟩

/-- Another route adds no stop to this one. -/
theorem Stored.insert (hs : Stored store dto a)
    (h : createRoute.insert store ids d = some (.ok (a', store'))) : Stored store' dto a := by
  have hc := created_of_insert h
  obtain ⟨hnew, -⟩ := createRouteWithStops_new hc
  obtain ⟨-, hstops, hroutes, hrows⟩ := createRouteWithStops_some hc
  have hne : ids.route ≠ a.route.id :=
    fun heq => Table.find_eq_none.mp hnew a.route hs.route heq.symm
  constructor
  · rw [hroutes]
    exact List.mem_append_left _ hs.route
  · rw [hrows, List.filter_append, hs.only, hstops, filter_stopsFrom, if_neg hne, List.append_nil]
  · exact hs.data

end

/-! ## Later requests -/

section
variable {init : RouteStore → Prop} {p : Pool RouteStore Call} {i : Nat} {dto : CreateRouteDto}
  {a : RouteWithStops}

theorem stored_of_returned (h : (createRoute.calls init).Reachable p)
    (hc : p.procs[i]? = some ⟨dto, .done (.ok a)⟩) : Stored p.shared dto a :=
  CheckInsert.returned (R := Stored) (fun _ _ _ _ _ _ hd hi => stored_insert hd hi)
    (fun _ _ _ _ _ _ _ hs hi => hs.insert hi) h hc

end

/-- What was put in comes out. -/
theorem getRouteStops_of_stored {store later : RouteStore} {dto : CreateRouteDto}
    {a : RouteWithStops}
    {request : Value} (hs : Stored store dto a) (hl : Stored later dto a) (scan : Scan later)
    (hr : AsksFor request a.route.id) : getRouteStops store scan request = .ok a.stops := by
  obtain ⟨t, v, ht, hv, hid⟩ := hr
  obtain ⟨d, -, -, hnumbers⟩ := hl.data
  have hfind : findRouteById store t = .ok (some a.route) := by
    rw [findRouteById, hv]
    exact congrArg Except.ok (Table.find_eq_some.mpr ⟨hs.route, hid.symm⟩)
  have hsort := sort_scan scan a.route.id hl.only (by rw [hnumbers]; exact List.pairwise_lt_range')
  simp only [getRouteStops, ht, hfind, findStopsByRouteId, hv, hid, hsort]

/-! ## Lists of texts -/

theorem trimStops_strings {n : Nat} {L ts : List String}
    (h : trimStops n (L.map Value.string) = .ok ts) : ts = L.map trim := by
  induction L generalizing n ts with
  | nil => cases h; rfl
  | cons s L ih =>
    rw [List.map_cons, trimStops] at h
    split at h
    · cases h
    · next t ht =>
      obtain ⟨s', hs, rfl, -⟩ := Value.trimmed_eq_some ht
      cases hs
      cases hrest : trimStops (n + 1) (L.map Value.string) with
      | error e => rw [hrest] at h; cases h
      | ok rest =>
        rw [hrest] at h
        cases h
        rw [ih hrest, List.map_cons]

/-- Every list of texts that are not blank is let through. -/
theorem trimStops_of_nonblank {L : List String} (h : ∀ s ∈ L, trim s ≠ "") (n : Nat) :
    trimStops n (L.map Value.string) = .ok (L.map trim) := by
  induction L generalizing n with
  | nil => rfl
  | cons s L ih =>
    have hs : Value.trimmed (.string s) = some (trim s) := by
      rw [Value.trimmed, if_neg (h s List.mem_cons_self)]
    rw [List.map_cons, trimStops, hs]
    simp only [ih fun x hx => h x (List.mem_cons_of_mem s hx)]
    rfl

theorem validateRoute_strings {name : Value} {L : List String} {d : RouteData}
    (h : validateRoute ⟨name, some (L.map Value.string)⟩ = .ok d) : d.stops = L.map trim := by
  unfold validateRoute at h
  split at h
  · cases h
  · simp only at h
    split at h
    · cases h
    · cases hts : trimStops 1 (L.map Value.string) with
      | error e => rw [hts] at h; cases h
      | ok ts =>
        rw [hts] at h
        cases h
        exact trimStops_strings hts

theorem validateRoute_of_nonblank {name : Value} {t : String} {L : List String}
    (hname : name.trimmed = some t) (hlen : 2 ≤ L.length) (h : ∀ s ∈ L, trim s ≠ "") :
    validateRoute ⟨name, some (L.map Value.string)⟩ = .ok ⟨t, L.map trim⟩ := by
  have hshort : ¬ (L.map Value.string).length < 2 := by
    rw [List.length_map]
    omega
  simp only [validateRoute, hname, if_neg hshort, trimStops_of_nonblank h 1]
  rfl

/-- The stops of a list of texts in their order, numbered from 1. -/
structure InOrder (L : List String) (stops : List Stop) : Prop where
  names : stops.map Stop.name = L.map trim
  numbers : stops.map Stop.sequenceNumber = List.range' 1 L.length
  before : ∀ (i j : Nat) (hi : i < stops.length) (hj : j < stops.length),
    i < j ↔ stops[i].sequenceNumber < stops[j].sequenceNumber

theorem inOrder_of_numbers {L : List String} {stops : List Stop}
    (hnames : stops.map Stop.name = L.map trim)
    (hnumbers : stops.map Stop.sequenceNumber = List.range' 1 L.length) : InOrder L stops := by
  refine ⟨hnames, hnumbers, fun i j hi hj => ?_⟩
  have hseq : ∀ (k : Nat) (hk : k < stops.length), stops[k].sequenceNumber = 1 + k := by
    intro k hk
    have hget := List.getElem_of_eq hnumbers (i := k) (by rwa [List.length_map])
    rwa [List.getElem_map, List.getElem_range', Nat.one_mul] at hget
  rw [hseq i hi, hseq j hj]
  omega

/-- **Stops come back in order.** A call has created a route from the texts `L`;
any request for it, then or later, is answered with `L`. -/
theorem stops_of_created {init : RouteStore → Prop} {p p' p'' : Pool RouteStore Call} {i : Nat}
    {name request : Value} {L : List String} {a : RouteWithStops}
    (h : (createRoute.calls init).Reachable p)
    (hc : p.procs[i]? = some ⟨⟨name, some (L.map Value.string)⟩, .done (.ok a)⟩)
    (hlookup : (createRoute.calls init).Run LTS.always p p')
    (hread : (createRoute.calls init).Run LTS.always p' p'') (scan : Scan p''.shared)
    (hr : AsksFor request a.route.id) :
    ∃ stops, getRouteStops p'.shared scan request = .ok stops ∧ InOrder L stops := by
  have hs := stored_of_returned (h.run hlookup) (CheckInsert.done_run hlookup hc)
  have hl := stored_of_returned ((h.run hlookup).run hread)
    (CheckInsert.done_run hread (CheckInsert.done_run hlookup hc))
  obtain ⟨d, hd, hnames, hnumbers⟩ := hl.data
  have hstops := validateRoute_strings hd
  refine ⟨a.stops, getRouteStops_of_stored hs hl scan hr, inOrder_of_numbers ?_ ?_⟩
  · rw [hnames, hstops]
  · rw [hnumbers, hstops, List.length_map]

/-- A route that calls twice at one place, and another route. -/
def twoLines : Pool RouteStore Call where
  shared := RouteStore.empty
  procs := [⟨⟨.string "Loop", some ([" A", "B ", "A"].map Value.string)⟩, .start⟩,
    ⟨⟨.string "C-D", some (["C", "D"].map Value.string)⟩, .start⟩]

def twoLinesAfter (es : List Event) : Pool RouteStore Call :=
  (LTS.execAll (Pool.step createRoute.spec) twoLines es).getD twoLines

def loopCreated : List Event :=
  [.proc 0 ⟨⟨"", []⟩, false⟩, .proc 1 ⟨⟨"", []⟩, false⟩,
    .proc 0 ⟨⟨"6f1c0a52-9b3e-4d7f-8a21-0c5d6e7f8a9b", ["s1", "s2", "s3"]⟩, false⟩]

def otherCreated : List Event :=
  [.proc 1 ⟨⟨"7f1c0a52-9b3e-4d7f-8a21-0c5d6e7f8a9b", ["s4", "s5"]⟩, false⟩]

/-- The rows from the last one on. -/
def fromTheLast (store : RouteStore) : Scan store := ⟨store.stops.rows.reverse, List.reverse_perm _⟩

/-- The other route is stored between the look-up and the query. -/
theorem stops_of_loop :
    ∃ stops, getRouteStops (twoLinesAfter loopCreated).shared
      (fromTheLast (twoLinesAfter (loopCreated ++ otherCreated)).shared)
      (.string " 6F1C0A529B3E4D7F8A210C5D6E7F8A9B ") = .ok stops ∧ InOrder
      [" A", "B ", "A"] stops := by
  have hi : True ∧ ∀ c ∈ twoLines.procs, c.pc = .start := by
    refine ⟨trivial, fun c hc => ?_⟩
    simp only [twoLines, List.mem_cons, List.not_mem_nil, or_false] at hc
    rcases hc with rfl | rfl <;> rfl
  have hp : LTS.execAll (Pool.step createRoute.spec) twoLines loopCreated =
    some (twoLinesAfter loopCreated) := rfl
  have hp' : LTS.execAll (Pool.step createRoute.spec) (twoLinesAfter loopCreated) otherCreated =
    some (twoLinesAfter (loopCreated ++ otherCreated)) := rfl
  have hc : (twoLinesAfter loopCreated).procs[0]? =
    some ⟨⟨.string "Loop", some ([" A", "B ", "A"].map Value.string)⟩, .done (.ok _)⟩ := rfl
  have hasks : AsksFor (.string " 6F1C0A529B3E4D7F8A210C5D6E7F8A9B ")
      "6f1c0a52-9b3e-4d7f-8a21-0c5d6e7f8a9b" :=
    ⟨"6F1C0A529B3E4D7F8A210C5D6E7F8A9B", _, by decide +kernel, rfl, by decide +kernel⟩
  have h : (createRoute.calls fun _ => True).Reachable (twoLinesAfter loopCreated) :=
    LTS.reachable_of_execAll loopCreated hi hp
  exact stops_of_created h hc (.refl _)
    (LTS.run_of_execAll (LTS.allOk_always _ _ _) hp') _ hasks

end RouteGo.Routes
