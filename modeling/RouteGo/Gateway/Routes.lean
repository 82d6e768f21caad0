import RouteGo.Lib.Router

/-!
# Routes

What `/api/bookings` and `/api/payments` of the gateway lead to: the routers of
the gateway rewrite the path and choose a service (`booking.routes.ts`,
`payment.routes.ts`), the proxy joins the rest of it, and the routers of the service
choose a handler. A client
reaches the handlers the orchestrator calls as well (`route_confirmBooking`,
`route_releaseBooking`, `route_processRefund`); only a `POST` writes
(`readOnly_of_route`).
-/

namespace RouteGo.Gateway

inductive Method where
  | GET
  | POST
  | other
  deriving DecidableEq

inductive Service where
  | booking
  | bookingOrchestrator
  | payment
  deriving DecidableEq

/-- A handler, with the parameters of its path. -/
inductive Endpoint where
  | checkAvailability (tripId seatId : String)
  | createHold
  | confirmBooking (id : String)
  | releaseBooking (id : String)
  | confirmBookingSaga
  | cancelBookingSaga (id : String)
  | processCharge
  | processRefund (id : String)
  | getPaymentById (id : String)
  deriving DecidableEq

/-! ## Services -/

/-- The first parameter, `req.params.id`. -/
def idOf (f : String → Endpoint) (params : List String) : Endpoint := f (params.headD "")

def bookingRoutes : List (Route Method Endpoint) := [
  ⟨.GET, [.lit "trips", .param, .lit "seats", .param, .lit "availability"],
    fun ps => .checkAvailability (ps.headD "") (ps.tail.headD "")⟩,
  ⟨.POST, [.lit "hold"], fun _ => .createHold⟩,
  ⟨.POST, [.lit "bookings", .lit "hold"], fun _ => .createHold⟩,
  ⟨.POST, [.param, .lit "confirm"], idOf .confirmBooking⟩,
  ⟨.POST, [.lit "bookings", .param, .lit "confirm"], idOf .confirmBooking⟩,
  ⟨.POST, [.param, .lit "release"], idOf .releaseBooking⟩,
  ⟨.POST, [.lit "bookings", .param, .lit "release"], idOf .releaseBooking⟩]

def orchestratorRoutes : List (Route Method Endpoint) := [
  ⟨.POST, [.lit "confirm"], fun _ => .confirmBookingSaga⟩,
  ⟨.POST, [.lit "bookings", .lit "confirm"], fun _ => .confirmBookingSaga⟩,
  ⟨.POST, [.param, .lit "cancel"], idOf .cancelBookingSaga⟩,
  ⟨.POST, [.lit "bookings", .param, .lit "cancel"], idOf .cancelBookingSaga⟩]

def paymentRoutes : List (Route Method Endpoint) := [
  ⟨.POST, [.lit "charge"], fun _ => .processCharge⟩,
  ⟨.POST, [.lit "payments", .lit "charge"], fun _ => .processCharge⟩,
  ⟨.POST, [.param, .lit "refund"], idOf .processRefund⟩,
  ⟨.POST, [.lit "payments", .param, .lit "refund"], idOf .processRefund⟩,
  ⟨.GET, [.param], idOf .getPaymentById⟩,
  ⟨.GET, [.lit "payments", .param], idOf .getPaymentById⟩]

/-- The routers of a service, mounted under its name and at the root. -/
def app (mount : String) (routes : List (Route Method Endpoint)) (m : Method) (path : List String) :
    Option Endpoint := (mounted mount routes m path).or (firstMatch routes m path)

def Service.app : Service → Method → List String → Option Endpoint
  | .booking => Gateway.app "bookings" bookingRoutes
  | .bookingOrchestrator => Gateway.app "bookings" orchestratorRoutes
  | .payment => Gateway.app "payments" paymentRoutes

/-! ## Gateway -/

/-- A request as it is proxied. -/
structure Target where
  service : Service
  path : List String
  deriving DecidableEq

def sagaRoutes : List (Route Method Target) := [
  ⟨.POST, [.lit "confirm"], fun _ => ⟨.bookingOrchestrator, ["bookings", "confirm"]⟩⟩,
  ⟨.POST, [.param, .lit "cancel"],
    fun ps => ⟨.bookingOrchestrator, ["bookings", ps.headD "", "cancel"]⟩⟩]

inductive Mount where
  | bookings
  | payments
  deriving DecidableEq

/-- Where the gateway sends a request for a path under `/api/bookings` or
`/api/payments`. -/
def proxy (m : Method) (path : List String) : Mount → Target
  | .bookings => (firstMatch sagaRoutes m path).getD ⟨.booking, "bookings" :: collapse path⟩
  | .payments => ⟨.payment, "payments" :: collapse path⟩

/-- The handler that answers; `none` is a `404`. -/
def route (m : Method) (mount : Mount) (path : List String) : Option Endpoint :=
  (proxy m path mount).service.app m (proxy m path mount).path

/-! ## What can be reached -/

section
variable {id : String}

/-- Comparisons of the literal segments. -/
theorem sameText_literals : sameText "bookings" "bookings" = true ∧
    sameText "payments" "payments" = true ∧ sameText "cancel" "confirm" = false ∧
    sameText "cancel" "release" = false ∧ sameText "hold" "confirm" = false ∧
    sameText "hold" "release" = false ∧ sameText "confirm" "release" = false ∧
    sameText "charge" "refund" = false ∧ sameText "confirm" "cancel" = false := by decide

/-- The catch-all of the gateway leads to the confirmation of a hold. -/
theorem route_confirmBooking (h : id ≠ "") :
    route .POST .bookings [id, "confirm"] = some (.confirmBooking id) := by
  simp [route, proxy, firstMatch, sagaRoutes, Route.run, matchPath, h, sameText_literals,
    Service.app, app, mounted, bookingRoutes, idOf, sameText_refl, collapse]

theorem route_releaseBooking (h : id ≠ "") :
    route .POST .bookings [id, "release"] = some (.releaseBooking id) := by
  simp [route, proxy, firstMatch, sagaRoutes, Route.run, matchPath, h, sameText_literals,
    Service.app, app, mounted, bookingRoutes, idOf, sameText_refl, collapse]

theorem route_processRefund (h : id ≠ "") :
    route .POST .payments [id, "refund"] = some (.processRefund id) := by
  simp [route, proxy, firstMatch, Route.run, matchPath, h, sameText_literals,
    Service.app, app, mounted, paymentRoutes, idOf, sameText_refl, collapse]

/-- Handlers that write nothing. -/
def Endpoint.readOnly : Endpoint → Bool
  | .checkAvailability _ _ | .getPaymentById _ => true
  | _ => false

theorem readOnly_of_app {mount : String} {routes : List (Route Method Endpoint)} {m : Method}
    {path : List String} {ep : Endpoint} (hm : m ≠ .POST)
    (hr : ∀ r ∈ routes, r.method ≠ .POST → ∀ ps, (r.handler ps).readOnly = true)
    (h : app mount routes m path = some ep) : ep.readOnly = true := by
  obtain ⟨rest, hf⟩ : ∃ rest, firstMatch routes m rest = some ep := by
    rcases Option.or_eq_some_iff.mp h with hmt | ⟨-, hf⟩
    · exact exists_of_mounted hmt
    · exact ⟨path, hf⟩
  obtain ⟨r, hmem, rfl, ps, -, rfl⟩ := exists_of_firstMatch hf
  exact hr r hmem hm ps

/-- Only a `POST` writes. -/
theorem readOnly_of_route {m : Method} {mount : Mount} {path : List String} {ep : Endpoint}
    (hm : m ≠ .POST) (h : route m mount path = some ep) : ep.readOnly = true := by
  unfold route at h
  cases hs : (proxy m path mount).service with
  | booking =>
    rw [hs] at h
    exact readOnly_of_app hm (by simp [bookingRoutes, Endpoint.readOnly]) h
  | bookingOrchestrator =>
    rw [hs] at h
    exact readOnly_of_app hm (by simp [orchestratorRoutes]) h
  | payment =>
    rw [hs] at h
    exact readOnly_of_app hm (by simp [paymentRoutes, idOf, Endpoint.readOnly]) h

example : route .POST .bookings ["", "b1", "release"] = some (.releaseBooking "b1") := by decide

example : route .POST .bookings ["Confirm"] = some .confirmBookingSaga := by decide

example : route .POST .payments ["charge"] = some .processCharge := by decide

end

end RouteGo.Gateway
