import RouteGo.Gateway.Identity
import RouteGo.Gateway.Mounts
import RouteGo.Lib.Project
import RouteGo.Trips.Layouts

/-!
# The platform

All services behind the gateway. Any number of clients send one request each, to any
path; it is let through or answered in one step, and served step by step beside the
others. Requests for one booking or payment are served at once, without a step of another
in between. Without a token a client changes nothing but the accounts
(`unchanged_of_run`).
-/

namespace RouteGo.Gateway

open Js Jwt Orchestrator

/-- What the services are set up with, and the libraries they use. -/
structure Deployment where
  env : Bookings.Env
  users : JWTService String
  gateway : JWTService String
  hashPassword : String → String → String
  comparePassword : String → String → Bool
  finder : Users.Finder
  otherDate : String → Option Int

/-- The stores of all services. -/
structure Platform where
  users : Users.UserStore
  routes : Routes.RouteStore
  trips : Trips.TripStore
  shared : Shared

/-- What the handlers of each service read of a body. -/
structure JsonBody where
  user : Users.RegisterDto := ⟨.undefined, .value .undefined, .undefined, .undefined⟩
  route : Routes.CreateRouteDto := ⟨.undefined, none⟩
  bus : Trips.CreateBusDto := ⟨.undefined, .undefined, .undefined, .undefined, none⟩
  trip : Trips.CreateTripDto := ⟨.undefined, .undefined, .undefined, .undefined, .undefined⟩
  booking : Body := {}

structure HttpRequest where
  method : Method
  path : List String
  headers : Headers := {}
  body : JsonBody := {}

/-! ## Jobs -/

/-- A request for one booking or payment that is served in one step. -/
inductive Settle where
  | confirmBooking (id : String)
  | releaseBooking (id : String) (reason : Value)
  | processRefund (id : String)

def Settle.op : Settle → Op
  | .confirmBooking id => .confirmBooking id
  | .releaseBooking id reason => .releaseBooking id reason
  | .processRefund id => .processRefund id

/-- What is left to be done of a request. -/
inductive Job where
  | register (pc : CheckInsert.Pc Users.RegisterDto Users.User AppError)
  | login
  | createRoute (pc : CheckInsert.Pc Routes.RouteData Routes.RouteWithStops AppError)
  | tripService (pc : CheckInsert.Pc (Trips.BusLayout ⊕ Trips.TripData)
      (Trips.BusWithSeats ⊕ Trips.Trip)
      AppError)
  | task (t : Task)
  | settle (x : Settle)
  | cancel (bookingId : String) (paymentId : Option String) (pc : CancelPc)

/-- `answered`: nothing is left to be done that writes. -/
inductive ClientPc where
  | sent
  | serving (job : Job)
  | loggedIn (r : Users.AuthResponse String)
  | answered

structure Client where
  request : HttpRequest
  pc : ClientPc

/-- The request as the services of bookings and payments get it. -/
def HttpRequest.proxied (q : HttpRequest) (mount : Mount) (path : List String) (payload : Claims) :
    Request :=
  ClientRequest.proxied ⟨q.method, mount, path, q.headers, q.body.booking⟩ payload

def Request.job (r : Request) : Option Job :=
  match r.endpoint with
  | some (.confirmBooking id) => some (.settle (.confirmBooking id))
  | some (.releaseBooking id) => some (.settle (.releaseBooking id r.body.reason))
  | some (.processRefund id) => some (.settle (.processRefund id))
  | some (.cancelBookingSaga id) =>
    some (.cancel id (Orchestrator.Controller.refundId r.body.paymentId) .start)
  | _ => r.task.map .task

/-- The handlers of the other services. -/
def Handler.job : Handler → Option Job
  | .register => some (.register .start)
  | .login => some .login
  | .createRoute => some (.createRoute .start)
  | .createBus | .createTrip => some (.tripService .start)
  | _ => none

def Entry.job (q : HttpRequest) (path : List String) (payload : Claims) : Entry → Option Job
  | .bookings => (q.proxied .bookings path payload).job
  | .payments => (q.proxied .payments path payload).job
  | entry => (entry.handler q.method path).bind Handler.job

/-- Which of the two handlers of the trip service that write the request is for. -/
def HttpRequest.tripDto (q : HttpRequest) : Trips.CreateBusDto ⊕ Trips.CreateTripDto :=
  match entryOf q.path with
  | some (entry, path) =>
    if entry.handler q.method path = some .createTrip then .inr q.body.trip else .inl q.body.bus
  | none => .inl q.body.bus

/-! ## Steps -/

def begin : Option Job → ClientPc
  | some job => .serving job
  | none => .answered

/-- The gateway: all but `/api/auth` passes `authMiddleware`. -/
def passGateway (D : Deployment) (q : HttpRequest) (now : Int) : ClientPc :=
  match entryOf q.path with
  | none => .answered
  | some (.auth, path) => begin ((Entry.auth.handler q.method path).bind Handler.job)
  | some (entry, path) =>
    match Middleware.authorize D.gateway now q.headers.authorization with
    | .error _ => .answered
    | .ok payload => begin (entry.job q path payload)

/-- What a step takes from outside. -/
structure PlatformIn where
  now : Int := 0
  fault : Bool := false
  newUser : Users.NewUser
  newRoute : Routes.NewIds := ⟨"", []⟩
  newTrip : Trips.NewIds ⊕ String := .inr ""
  saga : StepIn := {}

def Job.step (D : Deployment) (P : Platform) (i : Nat) (q : HttpRequest) (e : PlatformIn) :
    Job → Option (Platform × ClientPc)
  | .register pc =>
    ((Users.register D.hashPassword).step P.users q.body.user ⟨e.newUser, e.fault⟩ pc).map
      fun r => ({ P with users := r.1 }, .serving (.register r.2))
  | .login =>
    if e.fault then some (P, .answered)
    else
      match Users.loginRequest D.users D.comparePassword D.finder P.users e.now q.body.user.email
        q.body.user.password with
      | .error _ => some (P, .answered)
      | .ok r => some (P, .loggedIn r)
  | .createRoute pc =>
    (Routes.createRoute.step P.routes q.body.route ⟨e.newRoute, e.fault⟩ pc).map
      fun r => ({ P with routes := r.1 }, .serving (.createRoute r.2))
  | .tripService pc =>
    ((Trips.tripService D.otherDate).step P.trips q.tripDto ⟨e.newTrip, e.fault⟩ pc).map
      fun r => ({ P with trips := r.1 }, .serving (.tripService r.2))
  | .task t => (taskStep D.env P.shared i e.saga t).map
      fun r => ({ P with shared := r.1 }, .serving (.task r.2))
  | .settle x => some ({ P with
      shared := { P.shared with world := P.shared.world.exec D.env x.op } }, .answered)
  | .cancel id paymentId pc => (cancelStep P.shared i id paymentId e.saga pc).map
      fun r => ({ P with shared := r.1 }, .serving (.cancel id paymentId r.2))

def Client.step (D : Deployment) (P : Platform) (i : Nat) (c : Client) (e : PlatformIn) :
    Option (Platform × Client) :=
  match c.pc with
  | .sent => some (P, ⟨c.request, passGateway D c.request e.now⟩)
  | .serving job => (job.step D P i c.request e).map fun r => (r.1, ⟨c.request, r.2⟩)
  | .loggedIn _ | .answered => none

/-- The environment lets time pass. -/
def platform (D : Deployment) : Pool.Spec Platform Client PlatformIn Nat where
  act P i c e := c.step D P i e
  env P d :=
    some { P with shared := { P.shared with world := P.shared.world.exec D.env (.wait d) } }

abbrev PlatformEvent := Pool.Event PlatformIn Nat

/-- Requests that have been sent, and nothing is stored yet. -/
structure Opening (s : Pool Platform Client) : Prop where
  users : s.shared.users = Users.UserStore.empty
  routes : s.shared.routes = Routes.RouteStore.empty
  trips : s.shared.trips = Trips.TripStore.empty
  bookings : s.shared.shared.world.bookings = Table.empty
  payments : s.shared.shared.world.payments = Payments.PaymentTable.empty
  sent : ∀ c ∈ s.procs, c.pc = .sent

def platformRuns (D : Deployment) : LTS (Pool Platform Client) PlatformEvent :=
  Pool.system (platform D) Opening

/-! ## Who is let through -/

/-- Jobs that need no token. -/
def Job.Open : Job → Prop
  | .register _ | .login => True
  | _ => False

/-- A client that is served has sent a `POST`, and a token unless it needs none. -/
def Client.Admitted (D : Deployment) (c : Client) : Prop :=
  ∀ job, c.pc = .serving job → c.request.method = .POST ∧
    (job.Open ∨ ∃ now, Middleware.Authorized D.gateway now c.request.headers.authorization)

section
variable {D : Deployment} {P P' : Platform} {i : Nat} {q : HttpRequest} {e : PlatformIn} {job : Job}
  {pc : ClientPc} {c c' : Client} {now : Int} {payload : Claims} {path : List String}
    {entry : Entry}

theorem begin_serving {o : Option Job} (h : begin o = .serving job) : o = some job := by
  cases o with
  | none => cases h
  | some job' => cases h; rfl

/-- A read leaves nothing to be done. -/
theorem Request.post_of_job {r : Request} (h : r.job = some job) : r.method = .POST := by
  by_contra hm
  have hread : ∀ ep, r.endpoint = some ep → ep.readOnly = true := fun ep he =>
    readOnly_of_route hm he
  unfold Request.job Request.task at h
  cases he : r.endpoint with
  | none => simp [he] at h
  | some ep =>
    have hro := hread ep he
    rw [he] at h
    cases ep with
    | checkAvailability tripId seatId => cases h
    | getPaymentById id => cases h
    | _ => cases hro

theorem Handler.readOnly_of_job {hd : Handler} (h : hd.job = some job) : hd.readOnly = false := by
  cases hd <;> first | rfl | cases h

theorem post_of_bind (h : (entry.handler q.method path).bind Handler.job = some job) :
    q.method = .POST := by
  obtain ⟨hd, hhd, hj⟩ := Option.bind_eq_some_iff.mp h
  by_contra hm
  have hro := readOnly_of_handler hm hhd
  rw [Handler.readOnly_of_job hj] at hro
  cases hro

theorem Entry.post_of_job (h : entry.job q path payload = some job) : q.method = .POST := by
  cases entry with
  | bookings | payments => exact Request.post_of_job h
  | auth | routes | buses | trips => exact post_of_bind h

theorem open_of_auth (h : (Entry.auth.handler q.method path).bind Handler.job = some job) :
    job.Open := by
  obtain ⟨hd, hhd, hj⟩ := Option.bind_eq_some_iff.mp h
  rcases handler_auth hhd with rfl | rfl | rfl
  · cases hj; trivial
  · cases hj; trivial
  · cases hj

/-- How a request comes to be served. -/
theorem passGateway_serving (h : passGateway D q now = .serving job) :
    (∃ path, entryOf q.path = some (.auth, path) ∧
      (Entry.auth.handler q.method path).bind Handler.job = some job) ∨
    ∃ entry path payload, entryOf q.path = some (entry, path) ∧
      entry.job q path payload = some job ∧
      Middleware.authorize D.gateway now q.headers.authorization = .ok payload := by
  unfold passGateway at h
  split at h
  · cases h
  · next path he => exact .inl ⟨path, he, begin_serving h⟩
  · next entry path _ he =>
    split at h
    · cases h
    · next payload ha => exact .inr ⟨entry, path, payload, he, begin_serving h, ha⟩

theorem admitted_of_passGateway : (⟨q, passGateway D q now⟩ : Client).Admitted D := by
  intro job h
  rcases passGateway_serving h with ⟨path, -, hj⟩ | ⟨entry, path, payload, -, hj, ha⟩
  · exact ⟨post_of_bind hj, .inl (open_of_auth hj)⟩
  · obtain ⟨token, hb, hv, hid⟩ := Middleware.authorize_ok.mp ha
    exact ⟨Entry.post_of_job hj, .inr ⟨now, token, payload, hb, hv, hid⟩⟩

/-- A job goes on as one that needs a token, or as one that needs none. -/
theorem Job.open_of_step {job' : Job} (h : job.step D P i q e = some (P', .serving job')) :
    job'.Open ↔ job.Open := by
  cases job with
  | login =>
    simp only [Job.step] at h
    split at h
    · cases h
    · split at h <;> cases h
  | settle x => cases h
  | _ =>
    simp only [Job.step, Option.map_eq_some_iff, Prod.mk.injEq, ClientPc.serving.injEq] at h
    obtain ⟨r, -, -, rfl⟩ := h
    exact Iff.rfl

/-- The steps of a client: through the gateway, or of its job. -/
theorem Client.step_cases (h : c.step D P i e = some (P', c')) :
    (c.pc = .sent ∧ P' = P ∧ c' = ⟨c.request, passGateway D c.request e.now⟩) ∨
    ∃ job pc', c.pc = .serving job ∧ job.step D P i c.request e = some (P', pc') ∧
      c' = ⟨c.request, pc'⟩ := by
  obtain ⟨q, pc⟩ := c
  cases pc with
  | sent => cases h; exact .inl ⟨rfl, rfl, rfl⟩
  | serving job =>
    simp only [Client.step, Option.map_eq_some_iff, Prod.mk.injEq] at h
    obtain ⟨⟨P₁, pc'⟩, hj, rfl, rfl⟩ := h
    exact .inr ⟨job, pc', rfl, hj, rfl⟩
  | loggedIn r => cases h
  | answered => cases h

theorem Client.request_step (h : c.step D P i e = some (P', c')) : c'.request = c.request := by
  rcases Client.step_cases h with ⟨-, -, rfl⟩ | ⟨job, pc', -, -, rfl⟩
  · rfl
  · rfl

theorem Client.Admitted.step (hc : c.Admitted D) (h : c.step D P i e = some (P', c')) :
    c'.Admitted D := by
  rcases Client.step_cases h with ⟨-, -, rfl⟩ | ⟨job, pc', hpc, hj, rfl⟩
  · exact admitted_of_passGateway
  · rintro job' (rfl : pc' = .serving job')
    rw [Job.open_of_step hj]
    exact hc job hpc

theorem admitted_reach {s : Pool Platform Client} (h : (platformRuns D).Reachable s)
    (c : Client) (hc : c ∈ s.procs) : c.Admitted D := by
  obtain ⟨i, hi⟩ := List.mem_iff_getElem?.mp hc
  have hout : Pool.Outline (platform D) LTS.always (fun _ => True) fun _ _ c => c.Admitted D :=
    ⟨fun s e sh hs _ _ => ⟨trivial, hs.2⟩, fun s i c e sh c' hs _ hc ha =>
      ⟨trivial, (hs.2 i c hc).step ha⟩, fun s i c e sh c' j q hs _ _ _ _ hq => hs.2 j q hq⟩
  refine (Pool.invariant hout (fun s hs => ⟨trivial, fun j c hc job hj => ?_⟩) h).2 i c hi
  rw [hs.sent c (List.mem_of_getElem? hc)] at hj
  cases hj

/-! ## Without a token -/

/-- Everything but the accounts and the clock is as it was. -/
structure Untouched (P P' : Platform) : Prop where
  routes : P'.routes = P.routes
  trips : P'.trips = P.trips
  bookings : P'.shared.world.bookings = P.shared.world.bookings
  locks : P'.shared.world.locks = P.shared.world.locks
  payments : P'.shared.world.payments = P.shared.world.payments
  issued : P'.shared.issued = P.shared.issued

theorem Untouched.refl (P : Platform) : Untouched P P := ⟨rfl, rfl, rfl, rfl, rfl, rfl⟩

theorem Untouched.trans {P'' : Platform} (h : Untouched P P') (h' : Untouched P' P'') :
    Untouched P P'' :=
  ⟨h'.routes.trans h.routes, h'.trips.trans h.trips, h'.bookings.trans h.bookings,
    h'.locks.trans h.locks, h'.payments.trans h.payments, h'.issued.trans h.issued⟩

theorem Job.untouched_of_open (ho : job.Open) (h : job.step D P i q e = some (P', pc)) :
    Untouched P P' := by
  cases job with
  | register rpc =>
    simp only [Job.step, Option.map_eq_some_iff, Prod.mk.injEq] at h
    obtain ⟨r, -, rfl, -⟩ := h
    exact ⟨rfl, rfl, rfl, rfl, rfl, rfl⟩
  | login =>
    simp only [Job.step] at h
    split at h
    · cases h; exact .refl P
    · split at h <;> cases h <;> exact .refl P
  | _ => exact ho.elim

/-- The client writes nothing but accounts. -/
def Client.Harmless (D : Deployment) (c : Client) : Prop :=
  c.request.method = .POST →
    ∀ now, ¬ Middleware.Authorized D.gateway now c.request.headers.authorization

theorem Client.untouched_of_step (hc : c.Admitted D) (hn : c.Harmless D)
    (h : c.step D P i e = some (P', c')) :
    Untouched P P' ∧ (c.request.method ≠ .POST → P' = P) := by
  rcases Client.step_cases h with ⟨-, rfl, -⟩ | ⟨job, pc', hpc, hj, -⟩
  · exact ⟨.refl _, fun _ => rfl⟩
  · obtain ⟨hpost, ho | ⟨now, ha⟩⟩ := hc job hpc
    · exact ⟨Job.untouched_of_open ho hj, fun hm => absurd hpost hm⟩
    · exact absurd ha (hn hpost now)

end

theorem requests_step {D : Deployment} {s s' : Pool Platform Client} {ev : PlatformEvent}
    (h : Pool.step (platform D) s ev = some s') :
    s'.procs.map Client.request = s.procs.map Client.request := by
  cases ev with
  | env d =>
    obtain ⟨sh, -, rfl⟩ := Pool.step_env h
    rfl
  | proc i e =>
    obtain ⟨c, sh, c', hc, ha, rfl⟩ := Pool.step_proc h
    exact Pool.map_set_of_eq hc (Client.request_step ha)

/-- What is left of `s` in `t`, when the clients of `s` are harmless. -/
structure Spared (s t : Pool Platform Client) : Prop where
  requests : t.procs.map Client.request = s.procs.map Client.request
  untouched : Untouched s.shared t.shared
  users : (∀ c ∈ s.procs, c.request.method ≠ .POST) → t.shared.users = s.shared.users

/-- A client is the same at any step. -/
theorem Spared.client {s t : Pool Platform Client} (h : Spared s t) {c : Client}
    (hc : c ∈ t.procs) : ∃ c₀ ∈ s.procs, c₀.request = c.request := by
  have hm : c.request ∈ s.procs.map Client.request := h.requests ▸ List.mem_map_of_mem hc
  exact List.mem_map.mp hm

theorem Spared.step {D : Deployment} {s t t' : Pool Platform Client} {ev : PlatformEvent}
    (h : Spared s t) (hn : ∀ c ∈ s.procs, c.Harmless D) (ht : (platformRuns D).Reachable t)
    (hst : Pool.step (platform D) t ev = some t') : Spared s t' := by
  have hreq := (requests_step hst).trans h.requests
  cases ev with
  | env d =>
    obtain ⟨sh, he, rfl⟩ := Pool.step_env hst
    cases he
    exact ⟨hreq, h.untouched.trans ⟨rfl, rfl, rfl, rfl, rfl, rfl⟩, h.users⟩
  | proc i e =>
    obtain ⟨c, sh, c', hc, ha, rfl⟩ := Pool.step_proc hst
    have hmem := List.mem_of_getElem? hc
    obtain ⟨c₀, hc₀, hcq⟩ := h.client hmem
    have hharm : c.Harmless D := by
      have h₀ := hn c₀ hc₀
      unfold Client.Harmless at h₀ ⊢
      rwa [hcq] at h₀
    obtain ⟨hun, hsame⟩ := Client.untouched_of_step (admitted_reach ht c hmem) hharm ha
    refine ⟨hreq, h.untouched.trans hun, fun hm => ?_⟩
    have hnm : c.request.method ≠ .POST := hcq ▸ hm c₀ hc₀
    show sh.users = s.shared.users
    rw [hsame hnm]
    exact h.users hm

/-- **Without a token** nothing changes but accounts, along any run whose clients send
other methods than `POST`, or tokens that the gateway refuses at any time; where none
of them sends a `POST`, no accounts either. -/
theorem unchanged_of_run {D : Deployment} {s s' : Pool Platform Client}
    (h : (platformRuns D).Reachable s) (hr : (platformRuns D).Run LTS.always s s')
    (hn : ∀ c ∈ s.procs, c.Harmless D) : Untouched s.shared s'.shared ∧
      ((∀ c ∈ s.procs, c.request.method ≠ .POST) → s'.shared.users = s.shared.users) := by
  have hspared : Spared s s' := LTS.Run.stable h
    (fun _ _ _ ht hsp _ hst => hsp.step hn ht hst) hr ⟨rfl, .refl _, fun _ => rfl⟩
  exact ⟨hspared.untouched, hspared.users⟩

/-! ### Dora and eve -/

def doras : Deployment where
  env := defaultEnv
  users := Users.doraService "r"
  gateway := Users.doraService "other"
  hashPassword := Users.salted
  comparePassword := Users.endsIn
  finder := Users.firstRow
  otherDate _ := none

def emptyPlatform : Platform :=
  ⟨Users.UserStore.empty, Routes.RouteStore.empty, Trips.TripStore.empty, ⟨emptyWorld, []⟩⟩

def dorasBody : JsonBody := { user := Users.dora }

/-- A registration, a log-in, a hold with the token of the log-in in the name of eve, and
a charge in the name of dora with a text that is no token. -/
def doraAndEve : Pool Platform Client where
  shared := emptyPlatform
  procs := [
    ⟨{ method := .POST, path := ["api", "auth", "register"], body := dorasBody }, .sent⟩,
    ⟨{ method := .POST, path := ["api", "auth", "login"], body := dorasBody }, .sent⟩,
    ⟨{ method := .POST
       path := ["api", "bookings", "hold"]
       headers := { authorization := Users.bearer "aaa.bbb.ccc", xUserId := some "eve" }
       body := { booking := {
        tripId := .string "t1", seatId := .string "s1", fromStopSeq := .ofInt 1,
        toStopSeq := .ofInt 3 } } }, .sent⟩,
    ⟨{ method := .POST
       path := ["api", "payments", "charge"]
       headers := { authorization := Users.bearer "abc", xUserId := some Users.doraId } }, .sent⟩]

def input (now : Int) (rowId : String) : PlatformIn :=
  { now := now, newUser := ⟨Users.doraId, "x"⟩, saga := { rowId := rowId } }

def doraHolds : List PlatformEvent :=
  [.proc 0 (input 0 ""), .proc 0 (input 0 ""), .proc 0 (input 0 ""), .proc 1 (input 0 ""),
    .proc 1 (input 0 ""), .proc 2 (input 899999 ""), .proc 2 (input 0 "b1"), .proc 3 (input 0 "")]

/-- After the first `k` steps. -/
def doraAndEveAt (k : Nat) : Pool Platform Client :=
  (LTS.execAll (Pool.step (platform doras)) doraAndEve (doraHolds.take k)).getD doraAndEve

theorem doraAndEve_opening : Opening (doraAndEveAt 0) := by
  refine ⟨rfl, rfl, rfl, rfl, rfl, fun c hc => ?_⟩
  have hm : c ∈ doraAndEve.procs := hc
  simp only [doraAndEve, List.mem_cons, List.not_mem_nil, or_false] at hm
  rcases hm with rfl | rfl | rfl | rfl <;> rfl

/-- The registration, then the log-in and the hold. -/
theorem doraAndEve_run : (platformRuns doras).Run LTS.always (doraAndEveAt 0) (doraAndEveAt 3) ∧
    (platformRuns doras).Run LTS.always (doraAndEveAt 3) (doraAndEveAt 8) := by
  have h : LTS.execAll (Pool.step (platform doras)) (doraAndEveAt 0) (doraHolds.take 3) =
    some (doraAndEveAt 3) := by rfl
  have h' : LTS.execAll (Pool.step (platform doras)) (doraAndEveAt 3) (doraHolds.drop 3) =
    some (doraAndEveAt 8) := by rfl
  exact ⟨LTS.run_of_execAll (LTS.allOk_always _ _ _) h,
    LTS.run_of_execAll (LTS.allOk_always _ _ _) h'⟩

/-- A registration, and the charge of eve. -/
def strangers : Pool Platform Client where
  shared := emptyPlatform
  procs := [
    ⟨{ method := .POST, path := ["api", "auth", "register"], body := dorasBody }, .sent⟩,
    ⟨{ method := .POST
       path := ["api", "payments", "charge"]
       headers := { authorization := Users.bearer "abc", xUserId := some Users.doraId } }, .sent⟩]

/-- The header bears no token but its own. -/
theorem eq_of_bears {token token' : String} (h : ' ' ∉ token.toList)
    (hb : Middleware.Bears (Users.bearer token) token') : token' = token :=
  hb.inj (Users.bears_bearer h)

theorem strangers_harmless : ∀ c ∈ strangers.procs, c.Harmless doras := by
  intro c hc _ now
  simp only [strangers, List.mem_cons, List.not_mem_nil, or_false] at hc
  rintro ⟨token, payload, hb, hv, -⟩
  rcases hc with rfl | rfl
  · obtain ⟨authHeader, ha, -⟩ := hb
    cases ha
  · rw [eq_of_bears (by decide) hb] at hv
    cases hv

theorem unchanged_of_strangers : ∃ s', (platformRuns doras).Run LTS.always strangers s' ∧
    s'.shared.users.users.rows ≠ [] ∧ Untouched strangers.shared s'.shared := by
  have hp : LTS.execAll (Pool.step (platform doras)) strangers [.proc 0 (input 0 ""),
    .proc 0 (input 0 ""), .proc 1 (input 0 ""), .proc 0 (input 0 "")] = some _ := rfl
  have hr : (platformRuns doras).Run LTS.always strangers _ :=
    LTS.run_of_execAll (LTS.allOk_always _ _ _) hp
  have hi : Opening strangers := by
    refine ⟨rfl, rfl, rfl, rfl, rfl, fun c hc => ?_⟩
    simp only [strangers, List.mem_cons, List.not_mem_nil, or_false] at hc
    rcases hc with rfl | rfl <;> rfl
  exact ⟨_, hr, List.cons_ne_nil _ _, (unchanged_of_run (.of_init hi) hr strangers_harmless).1⟩

end RouteGo.Gateway
