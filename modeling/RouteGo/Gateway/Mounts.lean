import RouteGo.Gateway.Routes

/-!
# Mounts

All that the gateway mounts (`app.ts`), and the routers of every service behind it.
Six paths under `/api` lead to the services, `/api/auth` without the middleware.
`/api/bookings` and `/api/payments` are those of `route`. Only a `POST` writes
(`readOnly_of_handler`), and the handlers that are open to everybody are those of
the user service (`handler_auth`).
-/

namespace RouteGo.Gateway

/-- A handler of any service, with the parameters of its path. -/
inductive Handler where
  | health
  | register
  | login
  | createRoute
  | getAllRoutes
  | getRouteStops (id : String)
  | createBus
  | getBusLayout (id : String)
  | createTrip
  | searchTrips
  | getTripWithLayout (id : String)
  | getTripSeats (id : String)
  | booking (ep : Endpoint)
  deriving DecidableEq

/-! ## Services -/

/-- `req.params.id` -/
def withId (f : String → Handler) (params : List String) : Handler := f (params.headD "")

def healthRoutes : List (Route Method Handler) := [⟨.GET, [.lit "health"], fun _ => .health⟩]

def userRoutes : List (Route Method Handler) := [
  ⟨.POST, [.lit "register"], fun _ => .register⟩,
  ⟨.POST, [.lit "login"], fun _ => .login⟩]

def routeRoutes : List (Route Method Handler) := [
  ⟨.POST, [], fun _ => .createRoute⟩,
  ⟨.GET, [], fun _ => .getAllRoutes⟩,
  ⟨.GET, [.param, .lit "stops"], withId .getRouteStops⟩]

def busRoutes : List (Route Method Handler) := [
  ⟨.POST, [], fun _ => .createBus⟩,
  ⟨.GET, [.param, .lit "layout"], withId .getBusLayout⟩]

def tripRoutes : List (Route Method Handler) := [
  ⟨.POST, [], fun _ => .createTrip⟩,
  ⟨.GET, [], fun _ => .searchTrips⟩,
  ⟨.GET, [.param], withId .getTripWithLayout⟩,
  ⟨.GET, [.param, .lit "seats"], withId .getTripSeats⟩]

def userApp (m : Method) (path : List String) : Option Handler :=
  (firstMatch userRoutes m path).or (firstMatch healthRoutes m path)

def routeApp (m : Method) (path : List String) : Option Handler :=
  (firstMatch healthRoutes m path).or
    ((mounted "routes" routeRoutes m path).or (firstMatch routeRoutes m path))

def tripApp (m : Method) (path : List String) : Option Handler :=
  (firstMatch healthRoutes m path).or
    ((mounted "buses" busRoutes m path).or (mounted "trips" tripRoutes m path))

/-! ## Gateway -/

/-- `app.use("/api/…", …)` -/
inductive Entry where
  | auth
  | routes
  | buses
  | trips
  | bookings
  | payments
  deriving DecidableEq

def Entry.name : Entry → String
  | .auth => "auth"
  | .routes => "routes"
  | .buses => "buses"
  | .trips => "trips"
  | .bookings => "bookings"
  | .payments => "payments"

def entries : List Entry := [.auth, .routes, .buses, .trips, .bookings, .payments]

/-- Where a path leads, and what is left of it; for `none` the gateway answers, with its
own health or a `404`. -/
def entryOf : List String → Option (Entry × List String)
  | api :: name :: path =>
    if sameText "api" api then
      (entries.find? fun entry => sameText entry.name name).map fun entry => (entry, path)
    else none
  | _ => none

/-- The handler that answers a request that is proxied; `none` is a `404`. -/
def Entry.handler (m : Method) (path : List String) : Entry → Option Handler
  | .auth => userApp m (collapse path)
  | .routes => routeApp m (collapse path)
  | .buses => tripApp m ("buses" :: collapse path)
  | .trips => tripApp m ("trips" :: collapse path)
  | .bookings => (route m .bookings path).map .booking
  | .payments => (route m .payments path).map .booking

/-- Where a handler of the accounts or of a catalogue is mounted. -/
def Handler.entry : Handler → Option Entry
  | .register | .login => some .auth
  | .createRoute | .getAllRoutes | .getRouteStops _ => some .routes
  | .createBus | .getBusLayout _ => some .buses
  | .createTrip | .searchTrips | .getTripWithLayout _ | .getTripSeats _ => some .trips
  | .health | .booking _ => none

/-! ## What is reached -/

/-- Handlers that write nothing and give no tokens. -/
def Handler.readOnly : Handler → Bool
  | .register | .login | .createRoute | .createBus | .createTrip => false
  | .booking ep => ep.readOnly
  | _ => true

/-- The handler is one of these routes, for the method. -/
def OneOf (routes : List (Route Method Handler)) (m : Method) (hd : Handler) : Prop :=
  ∃ r ∈ routes, r.method = m ∧ ∃ ps, r.handler ps = hd

section
variable {m : Method} {path : List String} {hd : Handler} {entry : Entry} {mount : String}
  {routes routes' : List (Route Method Handler)}

theorem oneOf_of_firstMatch (h : firstMatch routes m path = some hd) : OneOf routes m hd := by
  obtain ⟨r, hr, hm, ps, -, rfl⟩ := exists_of_firstMatch h
  exact ⟨r, hr, hm, ps, rfl⟩

theorem oneOf_of_mounted (h : mounted mount routes m path = some hd) : OneOf routes m hd := by
  obtain ⟨rest, hf⟩ := exists_of_mounted h
  exact oneOf_of_firstMatch hf

/-- Routers one after the other. -/
theorem oneOf_or {a b : Option Handler} (ha : a = some hd → OneOf routes m hd)
    (hb : b = some hd → OneOf routes' m hd) (h : a.or b = some hd) :
    OneOf (routes ++ routes') m hd := by
  rcases Option.or_eq_some_iff.mp h with h | ⟨-, h⟩
  · obtain ⟨r, hr, hm⟩ := ha h
    exact ⟨r, List.mem_append_left _ hr, hm⟩
  · obtain ⟨r, hr, hm⟩ := hb h
    exact ⟨r, List.mem_append_right _ hr, hm⟩

theorem oneOf_userApp (h : userApp m path = some hd) : OneOf (userRoutes ++ healthRoutes) m hd :=
  oneOf_or oneOf_of_firstMatch oneOf_of_firstMatch h

theorem oneOf_routeApp (h : routeApp m path = some hd) :
    OneOf (healthRoutes ++ (routeRoutes ++ routeRoutes)) m hd :=
  oneOf_or oneOf_of_firstMatch (oneOf_or oneOf_of_mounted oneOf_of_firstMatch) h

theorem oneOf_tripApp (h : tripApp m path = some hd) :
    OneOf (healthRoutes ++ (busRoutes ++ tripRoutes)) m hd :=
  oneOf_or oneOf_of_firstMatch (oneOf_or oneOf_of_mounted oneOf_of_mounted) h

theorem readOnly_of_oneOf
    (hr : ∀ r ∈ routes, r.method ≠ .POST → ∀ ps, (r.handler ps).readOnly = true)
    (hm : m ≠ .POST) (h : OneOf routes m hd) : hd.readOnly = true := by
  obtain ⟨r, hmem, rfl, ps, rfl⟩ := h
  exact hr r hmem hm ps

/-- Only a `POST` writes, at any service. -/
theorem readOnly_of_handler (hm : m ≠ .POST) (h : entry.handler m path = some hd) :
    hd.readOnly = true := by
  cases entry with
  | auth =>
    exact readOnly_of_oneOf (by simp [userRoutes, healthRoutes, Handler.readOnly])
      hm (oneOf_userApp h)
  | routes =>
    exact readOnly_of_oneOf (by simp [routeRoutes, healthRoutes, withId, Handler.readOnly]) hm
      (oneOf_routeApp h)
  | buses | trips =>
    exact readOnly_of_oneOf
      (by simp [busRoutes, tripRoutes, healthRoutes, withId, Handler.readOnly]) hm
      (oneOf_tripApp h)
  | bookings | payments =>
    obtain ⟨ep, he, rfl⟩ := Option.map_eq_some_iff.mp h
    exact readOnly_of_route hm he

/-- What is served without a token. -/
theorem handler_auth (h : Entry.auth.handler m path = some hd) :
    hd = .register ∨ hd = .login ∨ hd = .health := by
  obtain ⟨r, hr, -, ps, rfl⟩ := oneOf_userApp h
  simp only [userRoutes, healthRoutes, List.cons_append, List.nil_append, List.mem_cons,
    List.not_mem_nil, or_false] at hr
  rcases hr with rfl | rfl | rfl
  · exact .inl rfl
  · exact .inr (.inl rfl)
  · exact .inr (.inr rfl)

/-- The handlers of a list of routes are mounted at `entry`, or nowhere. -/
theorem entry_of_oneOf (hr : ∀ r ∈ routes, ∀ ps, ∀ x ∈ (r.handler ps).entry, x = entry)
    (h : OneOf routes m hd) : ∀ x ∈ hd.entry, x = entry := by
  obtain ⟨r, hmem, -, ps, rfl⟩ := h
  exact hr r hmem ps

/-- **No handler is reached by the path of another.** -/
theorem entry_of_handler (h : entry.handler m path = some hd) : ∀ x ∈ hd.entry, x = entry := by
  cases entry with
  | auth =>
    exact entry_of_oneOf (by simp [userRoutes, healthRoutes, Handler.entry]) (oneOf_userApp h)
  | routes =>
    exact entry_of_oneOf (by simp [routeRoutes, healthRoutes, withId, Handler.entry])
      (oneOf_routeApp h)
  | buses =>
    have h : tripApp m ("buses" :: collapse path) = some hd := h
    have hother : mounted "trips" tripRoutes m ("buses" :: collapse path) = none := rfl
    rw [tripApp, hother, Option.or_none] at h
    exact entry_of_oneOf (by simp [busRoutes, healthRoutes, withId, Handler.entry])
      (oneOf_or oneOf_of_firstMatch oneOf_of_mounted h)
  | trips =>
    have h : tripApp m ("trips" :: collapse path) = some hd := h
    have hother : mounted "buses" busRoutes m ("trips" :: collapse path) = none := rfl
    rw [tripApp, hother, Option.none_or] at h
    exact entry_of_oneOf (by simp [tripRoutes, healthRoutes, withId, Handler.entry])
      (oneOf_or oneOf_of_firstMatch oneOf_of_mounted h)
  | bookings | payments =>
    obtain ⟨ep, -, rfl⟩ := Option.map_eq_some_iff.mp h
    exact fun x hx => by cases hx

/-- `/api/routes/r1/stops` is `/r1/stops` at the service. -/
example : (entryOf ["api", "Routes", "r1", "stops"]).map
    (fun x => x.1.handler .GET x.2) = some (some (.getRouteStops "r1")) := by decide

end

end RouteGo.Gateway
