import RouteGo.Lib.Tally
import RouteGo.Routes.Stops

/-!
# `RouteService.getAllRoutes`

All routes with their stops, the newest first. The routes are read at one moment and
their stops at a later one, and calls of `createRoute` run before, in between and after.
What comes back is what the calls had returned by then, every route once and with the
stops that `getRouteStops` gives for it (`catalogue_of_run`).
-/

namespace RouteGo.Routes

open Js

/-- The rows of `Route` in the order the database comes upon them. -/
structure RouteScan (store : RouteStore) where
  rows : List Route
  perm : rows.Perm store.routes.rows

/-- `createdAt` is the column of that name. -/
def findAllRoutes (createdAt : Route → Int) {store later : RouteStore} (routes : RouteScan store)
    (scan : Scan later) : List RouteWithStops :=
  (routes.rows.mergeSort fun a b => decide (createdAt b ≤ createdAt a)).map fun route =>
    ⟨route, (scan.rows.filter fun s => decide (s.routeId = route.id)).mergeSort
      fun a b => decide (a.sequenceNumber ≤ b.sequenceNumber)⟩

def getAllRoutes (createdAt : Route → Int) {store later : RouteStore} (routes : RouteScan store)
    (scan : Scan later) : List RouteWithStops := findAllRoutes createdAt routes scan

/-- The route and its stops are those of the request. -/
structure AsAsked (dto : CreateRouteDto) (a : RouteWithStops) : Prop where
  data : ∃ d, validateRoute dto = .ok d ∧ a.route.name = d.name ∧ a.stops.map Stop.name = d.stops
  numbers : a.stops.map Stop.sequenceNumber = List.range' 1 a.stops.length

/-- What `getAllRoutes` answers, of the calls as they stand in `p`. -/
structure Catalogue (createdAt : Route → Int) (p : Pool RouteStore Call) {later : RouteStore}
    (scan : Scan later) (routes : List RouteWithStops) : Prop where
  perm : routes.Perm (CheckInsert.results p)
  newestFirst : routes.Pairwise fun a b => createdAt b.route ≤ createdAt a.route
  asAsked : ∀ a ∈ routes, ∃ (i : Nat) (dto : CreateRouteDto),
    p.procs[i]? = some ⟨dto, .done (.ok a)⟩ ∧ AsAsked dto a
  stops : ∀ a ∈ routes, ∀ request, AsksFor request a.route.id →
    getRouteStops p.shared scan request = .ok a.stops

section
variable {init : RouteStore → Prop} {p p' : Pool RouteStore Call} {i : Nat} {dto : CreateRouteDto}
  {a : RouteWithStops}

theorem name_of_returned (h : (createRoute.calls init).Reachable p)
    (hc : p.procs[i]? = some ⟨dto, .done (.ok a)⟩) :
    ∃ d, validateRoute dto = .ok d ∧ a.route.name = d.name :=
  CheckInsert.returned (R := fun (_ : RouteStore) (dto : CreateRouteDto) (a : RouteWithStops) =>
      ∃ d, validateRoute dto = .ok d ∧ a.route.name = d.name)
    (fun _ _ d _ _ _ hd hi => ⟨d, hd, (insert_createRoute hi).1⟩)
      (fun _ _ _ _ _ _ _ hs _ => hs) h hc

theorem asAsked_of_returned (h : (createRoute.calls init).Reachable p)
    (hc : p.procs[i]? = some ⟨dto, .done (.ok a)⟩) : AsAsked dto a := by
  obtain ⟨d, hd, hnames, hnumbers⟩ := (stored_of_returned h hc).data
  obtain ⟨d', hd', hname⟩ := name_of_returned h hc
  obtain rfl := Except.ok.inj (hd'.symm.trans hd)
  refine ⟨⟨d', hd, hname, hnames⟩, ?_⟩
  have hlen : a.stops.length = d'.stops.length := by rw [← hnames, List.length_map]
  rw [hnumbers, hlen]

/-- The routes in the store are those that were returned. -/
theorem routes_of_reachable (h : (createRoute.calls fun s => s = RouteStore.empty).Reachable p) :
    p.shared.routes.rows.Perm ((CheckInsert.results p).map RouteWithStops.route) :=
  CheckInsert.tally (fun s => s.routes.rows) RouteWithStops.route (fun s hs => by rw [hs]; rfl)
    (fun _ _ _ _ _ hi => (insert_createRoute hi).2) h

/-- A route is read with the stops it was created with. -/
theorem stops_of_stored {later : RouteStore} (hs : Stored later dto a) (scan : Scan later) :
    (scan.rows.filter fun s => decide (s.routeId = a.route.id)).mergeSort
      (fun a b => decide (a.sequenceNumber ≤ b.sequenceNumber)) = a.stops := by
  obtain ⟨d, -, -, hnumbers⟩ := hs.data
  exact sort_scan scan a.route.id hs.only (by rw [hnumbers]; exact List.pairwise_lt_range')

/-- **The catalogue** is what the calls have returned. -/
theorem catalogue_of_run (h : (createRoute.calls fun s => s = RouteStore.empty).Reachable p)
    (hr : (createRoute.calls fun s => s = RouteStore.empty).Run LTS.always p p')
    (createdAt : Route → Int) (routes : RouteScan p.shared) (scan : Scan p'.shared) :
    Catalogue createdAt p scan (getAllRoutes createdAt routes scan) := by
  have hstored : ∀ a ∈ CheckInsert.results p, ∃ (i : Nat) (dto : CreateRouteDto),
      p.procs[i]? = some ⟨dto, .done (.ok a)⟩ ∧ Stored p.shared dto a ∧ Stored p'.shared dto a := by
    intro a ha
    obtain ⟨i, dto, hc⟩ := CheckInsert.mem_results.mp ha
    exact ⟨i, dto, hc, stored_of_returned h hc,
      stored_of_returned (h.run hr) (CheckInsert.done_run hr hc)⟩
  have hperm : (getAllRoutes createdAt routes scan).Perm (CheckInsert.results p) := by
    have hroutes := ((List.mergeSort_perm routes.rows fun a b =>
      decide (createdAt b ≤ createdAt a)).trans routes.perm).trans (routes_of_reachable h)
    refine (hroutes.map _).trans (List.Perm.of_eq ?_)
    rw [List.map_map]
    conv_rhs => rw [← List.map_id (CheckInsert.results p)]
    refine List.map_congr_left fun a ha => ?_
    obtain ⟨i, dto, -, -, hl⟩ := hstored a ha
    simp only [Function.comp_apply, stops_of_stored hl scan, id]
  refine ⟨hperm, ?_, fun a ha => ?_, fun a ha request hreq => ?_⟩
  · rw [getAllRoutes, findAllRoutes, List.pairwise_map]
    refine (List.pairwise_mergeSort ?_ ?_ _).imp fun h => of_decide_eq_true h
    · intro a b c hab hbc
      simp only [decide_eq_true_eq] at hab hbc ⊢
      omega
    · intro a b
      simp only [Bool.or_eq_true, decide_eq_true_eq]
      omega
  · obtain ⟨i, dto, hc, -, -⟩ := hstored a (hperm.mem_iff.mp ha)
    exact ⟨i, dto, hc, asAsked_of_returned h hc⟩
  · obtain ⟨i, dto, -, hs, hl⟩ := hstored a (hperm.mem_iff.mp ha)
    exact getRouteStops_of_stored hs hl scan hreq

end

/-- The rows in the order they were stored. -/
def inPlace (store : RouteStore) : RouteScan store := ⟨store.routes.rows, .refl _⟩

/-- The other route is stored before the stops are read. -/
theorem catalogue_of_loop : Catalogue (fun _ => 0) (twoLinesAfter loopCreated)
    (fromTheLast (twoLinesAfter (loopCreated ++ otherCreated)).shared)
    (getAllRoutes (fun _ => 0) (inPlace (twoLinesAfter loopCreated).shared)
      (fromTheLast (twoLinesAfter (loopCreated ++ otherCreated)).shared)) := by
  have hi : twoLines.shared = RouteStore.empty ∧ ∀ c ∈ twoLines.procs, c.pc = .start := by
    refine ⟨rfl, fun c hc => ?_⟩
    simp only [twoLines, List.mem_cons, List.not_mem_nil, or_false] at hc
    rcases hc with rfl | rfl <;> rfl
  have hp : LTS.execAll (Pool.step createRoute.spec) twoLines loopCreated =
    some (twoLinesAfter loopCreated) := rfl
  have hp' : LTS.execAll (Pool.step createRoute.spec) (twoLinesAfter loopCreated) otherCreated =
    some (twoLinesAfter (loopCreated ++ otherCreated)) := rfl
  exact catalogue_of_run (LTS.reachable_of_execAll loopCreated hi hp)
    (LTS.run_of_execAll (LTS.allOk_always _ _ _) hp') _ _ _

end RouteGo.Routes
