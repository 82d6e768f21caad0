import RouteGo.Gateway.Paid
import RouteGo.Orchestrator.Billing
import RouteGo.Users.Session

/-!
# Whose rows

Requests through the gateway that create rows: a hold, a confirmation, a charge. Any
number of them is served at once, step by step, beside other clients; remote calls of
the confirmation may fail. A row that the step of a request adds is the user's of its
token (`identity_sound`), whose id is the uuid the user service has issued: the
middleware overwrites `x-user-id`, and every handler on the way takes the header before
the body.
-/

namespace RouteGo.Gateway

open Js Jwt Orchestrator
open Bookings (Env Booking BookingTable holdInputs)
open Payments (Payment PaymentTable findById)

/-- The headers the gateway and the handlers read. -/
structure Headers where
  authorization : Header := none
  xUserId : Header := none
  idempotencyKey : Header := none
  xIdempotencyKey : Header := none

/-- A request as a client sends it. -/
structure ClientRequest where
  method : Method
  mount : Mount
  path : List String
  headers : Headers
  body : Body := {}

/-- The request with what a client may claim of the user. -/
def ClientRequest.claim (q : ClientRequest) (xUserId : Header) (userId : Value) : ClientRequest :=
  { q with
    headers := { q.headers with xUserId := xUserId }
    body := { q.body with userId := userId } }

/-- The request as the services get it: its `x-user-id` is that of the token. -/
def ClientRequest.proxied (q : ClientRequest) (payload : Claims) : Request where
  method := q.method
  mount := q.mount
  path := q.path
  tokenUser := onWire payload.id.toText
  key := q.headers.idempotencyKey.map onWire
  xKey := q.headers.xIdempotencyKey.map onWire
  body := q.body

def authenticate (S : JWTService String) (now : Int) (q : ClientRequest) :
    Except HttpError Request :=
  (Middleware.authorize S now q.headers.authorization).map q.proxied

/-! ## Steps -/

/-- What is left of a request to be done. -/
inductive Task where
  | createHold (xUserId : Header) (body : Bookings.Controller.HoldBody)
  | confirmBookingSaga (input : ConfirmBookingInput) (pc : ConfirmPc)
  | processCharge (key xKey xUserId : Header) (body : Payments.Controller.ChargeBody)
  | done

/-- The task of a request that may create rows. -/
def Request.task (q : Request) : Option Task :=
  match q.endpoint with
  | some .createHold => some (.createHold (some q.tokenUser)
      ⟨q.body.tripId, q.body.seatId, q.body.userId, q.body.fromStopSeq, q.body.toStopSeq⟩)
  | some .confirmBookingSaga =>
    match Orchestrator.Controller.confirmInput (some q.tokenUser) (confirmBody q.body) with
    | .error _ => some .done
    | .ok input => some (.confirmBookingSaga input .start)
  | some .processCharge => some (.processCharge q.key q.xKey (some q.tokenUser)
      ⟨q.body.bookingId, q.body.userId, q.body.amount, q.body.currency⟩)
  | _ => none

def taskStep (env : Env) (sh : Shared) (i : Nat) (e : StepIn) : Task → Option (Shared × Task)
  | .createHold xUserId body =>
    some ({ sh with world := sh.world.exec env (.createHold e xUserId body) }, .done)
  | .confirmBookingSaga input pc =>
    (confirmStep env sh i input e pc).map fun r => (r.1, .confirmBookingSaga input r.2)
  | .processCharge key xKey xUserId body =>
    some ({ sh with world := sh.world.exec env (.processCharge
      ⟨e.rowId, e.draw, e.faults.find, e.faults.create⟩ key xKey xUserId body) }, .done)
  | .done => none

def gateway (env : Env) : Pool.Spec Shared Task StepIn Op where
  act sh i t e := taskStep env sh i e t
  env sh op := some { sh with world := sh.world.exec env op }

/-- The rows that are new in `w'` are the user's. -/
structure NewRows (w w' : World) (userId : String) : Prop where
  bookings : ∀ b ∈ w'.bookings.rows, w.bookings.find b.id = none → b.userId = userId
  payments : ∀ p ∈ w'.payments.rows, findById w.payments p.id = none → p.userId = trim userId

/-- The task is one of the user. -/
def Task.Of (userId : String) : Task → Prop
  | .createHold xUserId _ | .processCharge _ _ xUserId _ => xUserId = some userId
  | .confirmBookingSaga input _ => input.userId = userId
  | .done => True

/-- No booking is added. -/
def SameIds (w w' : World) : Prop := ∀ b ∈ w'.bookings.rows, ∃ c ∈ w.bookings.rows, c.id = b.id

section
variable {env : Env} {w w' : World} {sh sh' : Shared} {i : Nat} {e : StepIn} {userId : String}
  {t t' : Task} {input : ConfirmBookingInput} {pc pc' : ConfirmPc}

/-! ## The rows of a step -/

theorem newRows_of_mem
    (hb : ∀ b ∈ w'.bookings.rows, (∃ c ∈ w.bookings.rows, c.id = b.id) ∨ b.userId = userId)
    (hp : ∀ p ∈ w'.payments.rows, p ∈ w.payments.rows ∨ p.userId = trim userId) :
    NewRows w w' userId := by
  constructor
  · intro b hm hnone
    rcases hb b hm with ⟨c, hc, hid⟩ | hu
    · exact absurd hid (Table.find_eq_none.mp hnone c hc)
    · exact hu
  · intro p hm hnone
    rcases hp p hm with hold | hu
    · have hf : findById w.payments p.id = some p := Table.find_key hold
      rw [hf] at hnone
      cases hnone
    · exact hu

theorem sameIds_of_bookings (h : w'.bookings = w.bookings) : SameIds w w' := by
  intro b hb
  rw [h] at hb
  exact ⟨b, hb, rfl⟩

theorem SameIds.refl (w : World) : SameIds w w := sameIds_of_bookings rfl

theorem sameIds_of_setStatus {id : String} {s : Bookings.BookingStatus}
    (h : w'.bookings = Bookings.setStatus w.bookings id s) : SameIds w w' := by
  intro b hb
  rw [h] at hb
  rcases Bookings.mem_setStatus.mp hb with ⟨hb, -⟩ | ⟨c, hc, -, rfl⟩
  · exact ⟨b, hb, rfl⟩
  · exact ⟨c, hc, rfl⟩

theorem sameIds_confirmBooking (id : String) (w : World) : SameIds w (confirmBooking id w).2 := by
  rcases Bookings.confirmBooking_cases w.bookings w.clock id with
    ⟨err, hr⟩ | ⟨b, -, -, ⟨-, hr⟩ | ⟨-, hr⟩⟩
  · exact sameIds_of_bookings (congrArg Prod.snd hr)
  · exact sameIds_of_setStatus (congrArg Prod.snd hr)
  · exact sameIds_of_setStatus (congrArg Prod.snd hr)

theorem sameIds_releaseBooking (id reason : String) (w : World) :
    SameIds w (releaseBooking id reason w).2 := by
  rcases (releaseBooking_effect id reason w).2 with ⟨err, -, hb⟩ | ⟨b, target, -, -, -, hb⟩
  · exact sameIds_of_bookings hb
  · exact sameIds_of_setStatus hb

theorem MayHave.sameIds {served : World} (h : MayHave sh served sh')
    (hs : SameIds sh.world served) : SameIds sh.world sh'.world := by
  rcases h with rfl | rfl
  · exact .refl _
  · exact hs

/-- Only the first step of a saga adds a booking. -/
theorem ConfirmMove.sameIds (hm : ConfirmMove env sh i input e pc sh' pc') (hpc : pc ≠ .start) :
    SameIds sh.world sh'.world := by
  cases hm with
  | reject _ | holdFailed _ | holdThrew _ _ | hold _ _ => exact absurd rfl hpc
  | chargeThrew _ h => exact MayHave.sameIds h (sameIds_of_bookings (bookings_charge e _ _))
  | charged _ _ | declined _ _ => exact sameIds_of_bookings (bookings_charge e _ _)
  | confirmThrew _ h => exact MayHave.sameIds h (sameIds_confirmBooking _ _)
  | confirmed _ => exact sameIds_confirmBooking _ _
  | publishConfirmed _ _ | publishFailedThrew _ | publishFailed _ => exact .refl _
  | releaseThrew _ h => exact MayHave.sameIds h (sameIds_releaseBooking _ _ _)
  | released _ => exact sameIds_releaseBooking _ _ _
  | @compensate b err =>
    show SameIds sh.world (remote e.outcome (releaseBooking b.id "PAYMENT_FAILED") sh.world).2
    rw [remote_snd]
    split
    · exact .refl _
    · exact sameIds_releaseBooking _ _ _

theorem header_of_canonical (hu : Uuid.Canonical userId) (v : Value) :
    Header.or (some userId) v = .string userId := by
  rw [Header.or, if_neg (noSpace_of_canonical hu).1]

theorem userId_hold {q : HoldRequest} (hu : Uuid.Canonical q.userId) {b : Booking}
    (h : b ∈ (createHold env e q w).2.bookings.rows) : b ∈ w.bookings.rows ∨
      b.userId = q.userId := by
  simp only [createHold] at h
  refine (Bookings.Controller.userId_createHold h).imp_right fun hk => ?_
  rw [onWire_of_noSpace (noSpace_of_canonical hu), header_of_canonical hu, Value.toText,
    env.ids.canonical hu] at hk
  exact (Option.some.inj hk).symm

theorem userId_charge {q : ChargeRequest} (hu : Uuid.Canonical q.userId) {p : Payment}
    (h : p ∈ (charge e q w).2.payments.rows) : p ∈ w.payments.rows ∨ p.userId = trim q.userId := by
  simp only [charge] at h
  refine (Payments.Controller.userId_processCharge h).imp_right fun hp => ?_
  rw [hp, onWire_of_noSpace (noSpace_of_canonical hu), header_of_canonical hu]
  rfl

/-- Every step of the confirmation. -/
theorem ConfirmMove.newRows (hm : ConfirmMove env sh i input e pc sh' pc')
    (hu : Uuid.Canonical input.userId) : NewRows sh.world sh'.world input.userId := by
  refine newRows_of_mem (fun b hb => ?_) fun p hp => ?_
  · by_cases hpc : pc = .start
    · subst hpc
      cases hm with
      | reject _ | holdFailed _ => exact .inl ⟨b, hb, rfl⟩
      | holdThrew _ _ | hold _ _ =>
        exact (userId_hold (q := holdRequest input) hu hb).imp_left fun hb => ⟨b, hb, rfl⟩
    · exact .inl (ConfirmMove.sameIds hm hpc b hb)
  · rcases pc.charging_or with ⟨c, rfl⟩ | hpc
    · rcases hm.charging with hch | hch <;> rw [hch] at hp
      · exact .inl hp
      · exact userId_charge (q := chargeRequest input c.id) hu hp
    · rw [hm.payments hpc] at hp
      exact .inl hp

/-- A step of a task of the user. -/
theorem taskStep_of (h : taskStep env sh i e t = some (sh', t')) (ht : t.Of userId)
    (hu : Uuid.Canonical userId) : t'.Of userId ∧ NewRows sh.world sh'.world userId := by
  cases t with
  | createHold xUserId body =>
    obtain rfl : xUserId = some userId := ht
    cases h
    refine ⟨trivial, newRows_of_mem (fun b hb => ?_) fun p hp => .inl hp⟩
    rcases Bookings.Controller.userId_createHold (w := ⟨sh.world.bookings, sh.world.locks⟩) hb with
      hb | hk
    · exact .inl ⟨b, hb, rfl⟩
    · rw [header_of_canonical hu, Value.toText, env.ids.canonical hu] at hk
      exact .inr (Option.some.inj hk).symm
  | confirmBookingSaga input pc =>
    obtain rfl : input.userId = userId := ht
    simp only [taskStep, Option.map_eq_some_iff, Prod.mk.injEq] at h
    obtain ⟨⟨sh₁, pc'⟩, hs, rfl, rfl⟩ := h
    exact ⟨rfl, ConfirmMove.newRows (confirmStep_move hs) hu⟩
  | processCharge key xKey xUserId body =>
    obtain rfl : xUserId = some userId := ht
    cases h
    refine ⟨trivial, newRows_of_mem (fun b hb => .inl ⟨b, hb, rfl⟩) fun p hp => ?_⟩
    refine (Payments.Controller.userId_processCharge hp).imp_right fun hp => ?_
    rw [hp, header_of_canonical hu]
    rfl
  | done => cases h

end

/-! ## Runs -/

/-- The gateway lets the request through at some time, and `t` is what is to be done. -/
def Starts (S : JWTService String) (q : ClientRequest) (t : Task) : Prop :=
  ∃ now r, authenticate S now q = .ok r ∧ r.task = some t

/-- The requests `reqs`, all let through and none begun, on any stores. -/
def served (env : Env) (S : JWTService String) (reqs : List ClientRequest) :
    LTS (Pool Shared Task) (Pool.Event StepIn Op) :=
  Pool.system (gateway env) fun s => List.Forall₂ (Starts S) reqs s.procs

/-- The headers bear an access token of the user, whose id is one the database has given. -/
structure Carries (S : JWTService String) (headers : Headers) (userId : String) : Prop where
  token : ∃ token claims exp, Middleware.Bears headers.authorization token ∧
    S.jwt.Carries token S.config.accessSecret claims exp ∧ claims.tokenType = .string "access" ∧
    claims.id = .string userId
  issued : Uuid.Canonical userId

/-- The row was added between `s` and `s'`. -/
def NewBooking (s s' : Pool Shared Task) (b : Booking) : Prop :=
  b ∈ s'.shared.world.bookings.rows ∧ s.shared.world.bookings.find b.id = none

def NewPayment (s s' : Pool Shared Task) (p : Payment) : Prop :=
  p ∈ s'.shared.world.payments.rows ∧ findById s.shared.world.payments p.id = none

section
variable {env : Env} {S : JWTService String} {reqs reqs' : List ClientRequest}
  {s s' : Pool Shared Task} {q : ClientRequest} {userId : String} {t : Task}

/-- What the client claims of the user is not in the token. -/
theorem carries_claim {xUserId : Header} {claimed : Value} :
    Carries S (q.claim xUserId claimed).headers userId ↔ Carries S q.headers userId :=
  ⟨fun h => ⟨h.token, h.issued⟩, fun h => ⟨h.token, h.issued⟩⟩

/-- The services get the `id` claim as the user. -/
theorem tokenUser_of_authenticate {r : Request} {now : Int} (h : authenticate S now q = .ok r)
    (hc : Carries S q.headers userId) : r.tokenUser = userId := by
  obtain ⟨token, claims, exp, hb, hcarries, -, hid⟩ := hc.token
  unfold authenticate at h
  cases ha : Middleware.authorize S now q.headers.authorization with
  | error e => rw [ha] at h; cases h
  | ok payload =>
    rw [ha] at h
    cases h
    obtain ⟨token', hb', hv, -⟩ := Middleware.authorize_ok.mp ha
    obtain rfl := hb.inj hb'
    obtain ⟨hok, -⟩ := JWTService.verifyAs_ok.mp hv
    show onWire payload.id.toText = userId
    rw [hcarries.signed _ _ _ hok, hid]
    exact onWire_of_noSpace (noSpace_of_canonical hc.issued)

theorem Request.task_of {r : Request} (h : r.task = some t) (hne : r.tokenUser ≠ "") :
    t.Of r.tokenUser := by
  unfold Request.task at h
  split at h
  · cases h; rfl
  · split at h
    · cases h; trivial
    · next input hi =>
      cases h
      unfold Orchestrator.Controller.confirmInput at hi
      simp only at hi
      split at hi
      · cases hi
      · cases hi
        rw [Task.Of, Header.or, if_neg hne]
        rfl
  · cases h; rfl
  · cases h

/-- A request that is let through is done as the user of its token. -/
theorem of_starts (h : Starts S q t) (hc : Carries S q.headers userId) : t.Of userId := by
  obtain ⟨now, r, ha, ht⟩ := h
  have hu := tokenUser_of_authenticate ha hc
  rw [← hu]
  exact Request.task_of ht (by rw [hu]; exact (noSpace_of_canonical hc.issued).1)

/-- Every request with such a token for one of the three handlers can be served. -/
theorem exists_starts (hc : Carries S q.headers userId)
    (he : route q.method q.mount q.path ∈
      [some .createHold, some .confirmBookingSaga, some .processCharge]) : ∃ t, Starts S q t := by
  obtain ⟨token, claims, exp, hb, hcarries, htype, hid⟩ := hc.token
  have hv : S.verifyAccessToken token (1000 * (exp - 1)) = .ok claims :=
    JWTService.verifyAs_carries hcarries htype (by omega)
  have htruthy : claims.id.truthy = true := by
    rw [hid]
    exact decide_eq_true (noSpace_of_canonical hc.issued).1
  have ha := Middleware.authorize_ok.mpr ⟨token, hb, hv, htruthy⟩
  have hr : authenticate S (1000 * (exp - 1)) q = .ok (q.proxied claims) := by
    rw [authenticate, ha]
    rfl
  suffices ∃ t, (q.proxied claims).task = some t from this.imp fun t ht => ⟨_, _, hr, ht⟩
  simp only [List.mem_cons, List.not_mem_nil, or_false] at he
  unfold Request.task Request.endpoint ClientRequest.proxied
  rcases he with he | he | he <;> simp only [he]
  · exact ⟨_, rfl⟩
  · split <;> exact ⟨_, rfl⟩
  · exact ⟨_, rfl⟩

def TaskAssertion (S : JWTService String) (reqs : List ClientRequest) (_ : Shared)
    (i : Nat) (t : Task) : Prop :=
  ∀ q userId, reqs[i]? = some q → Carries S q.headers userId → t.Of userId

theorem taskOutline (env : Env) (S : JWTService String) (reqs : List ClientRequest) :
    Pool.Outline (gateway env) LTS.always (fun _ => True) (TaskAssertion S reqs) where
  env _ _ _ h _ _ := ⟨trivial, fun i p hp => h.2 i p hp⟩
  own _ i p _ _ _ h _ hp ha :=
    ⟨trivial, fun q userId hq hc => (taskStep_of ha (h.2 i p hp q userId hq hc) hc.issued).1⟩
  other _ _ _ _ _ _ j q h _ _ _ _ hq := h.2 j q hq

theorem taskAssertion_reach (h : (served env S reqs).Reachable s) {i : Nat}
    (hp : s.procs[i]? = some t) : TaskAssertion S reqs s.shared i t := by
  refine (Pool.invariant (taskOutline env S reqs) (fun s hi => ⟨trivial, fun i t ht => ?_⟩) h).2 i t
    hp
  intro q userId hq hc
  obtain ⟨hlt, rfl⟩ := List.getElem?_eq_some_iff.mp hq
  obtain ⟨hlt', rfl⟩ := List.getElem?_eq_some_iff.mp ht
  exact of_starts (List.Forall₂.get hi hlt hlt') hc

/-- A step of the request `i` adds rows of the user of its token. -/
theorem newRows_of_step (h : (served env S reqs).Reachable s) {i : Nat} {e : StepIn}
    (hq : reqs[i]? = some q) (hc : Carries S q.headers userId)
    (hst : Pool.step (gateway env) s (.proc i e) = some s') :
    NewRows s.shared.world s'.shared.world userId := by
  obtain ⟨t, sh, t', ht, ha, rfl⟩ := Pool.step_proc hst
  exact (taskStep_of ha (taskAssertion_reach h ht q userId hq hc) hc.issued).2

end

/-- Rows and the users of the requests that add them, in `s`, and in `s` and `s'` for
requests that differ in what the client claims of the user. -/
structure Identified (env : Env) (S : JWTService String) (reqs reqs' : List ClientRequest)
    (s s' : Pool Shared Task) : Prop where
  user : ∀ (i : Nat) e q userId t, reqs[i]? = some q → Carries S q.headers userId →
    Pool.step (gateway env) s (.proc i e) = some t →
    (∀ b, NewBooking s t b → b.userId = userId) ∧ ∀ p, NewPayment s t p → p.userId = trim userId
  same : ∀ (i j : Nat) e e' q userId xUserId claimed t t', reqs[i]? = some q →
    reqs'[j]? = some (q.claim xUserId claimed) → Carries S q.headers userId →
    Pool.step (gateway env) s (.proc i e) = some t →
    Pool.step (gateway env) s' (.proc j e') = some t' →
    (∀ b b', NewBooking s t b → NewBooking s' t' b' → b.userId = b'.userId) ∧
      ∀ p p', NewPayment s t p → NewPayment s' t' p' → p.userId = p'.userId

/-- **Rows are the user's of the token**, whatever else the client sends. -/
theorem identity_sound {env : Env} {S : JWTService String} {reqs reqs' : List ClientRequest}
    {s s' : Pool Shared Task} (h : (served env S reqs).Reachable s)
    (h' : (served env S reqs').Reachable s') : Identified env S reqs reqs' s s' := by
  constructor
  · intro i e q userId t hq hc hst
    have hrows := newRows_of_step h hq hc hst
    exact ⟨fun b hb => hrows.bookings b hb.1 hb.2, fun p hp => hrows.payments p hp.1 hp.2⟩
  · intro i j e e' q userId xUserId claimed t t' hq hq' hc hst hst'
    have hrows := newRows_of_step h hq hc hst
    have hrows' := newRows_of_step h' hq' (carries_claim.mpr hc) hst'
    constructor
    · intro b b' hb hb'
      rw [hrows.bookings b hb.1 hb.2, hrows'.bookings b' hb'.1 hb'.2]
    · intro p p' hp hp'
      rw [hrows.payments p hp.1 hp.2, hrows'.payments p' hp'.1 hp'.2]

/-- A confirmation with the token of dora, in the name of eve. -/
def asEve : ClientRequest where
  method := .POST
  mount := .bookings
  path := ["confirm"]
  headers := { authorization := Users.bearer "aaa.bbb.ccc", xUserId := some "eve" }
  body := {
    tripId := .string "6f1c0a52-9b3e-4d7f-8a21-0c5d6e7f8a9b"
    seatId := .string "0d9b7e41-5c2a-4f60-9e13-7a8b6c5d4e3f"
    userId := .string "eve", fromStopSeq := .ofInt 1, toStopSeq := .ofInt 3, amount := .ofInt 450 }

/-- What it comes to. -/
def dorasInput : ConfirmBookingInput where
  tripId := .string "6f1c0a52-9b3e-4d7f-8a21-0c5d6e7f8a9b"
  seatId := .string "0d9b7e41-5c2a-4f60-9e13-7a8b6c5d4e3f"
  userId := Users.doraId
  fromStopSeq := .ofInt 1
  toStopSeq := .ofInt 3
  amount := .ofInt 450
  currency := .undefined

def dorasTask : Pool Shared Task := ⟨⟨emptyWorld, []⟩, [.confirmBookingSaga dorasInput .start]⟩

/-- The seat is held. -/
def dorasTaskHeld : Pool Shared Task :=
  (Pool.step (gateway uuidEnv) dorasTask (.proc 0 { rowId := "b1" })).getD dorasTask

theorem carries_asEve : Carries (Users.doraService "other") asEve.headers Users.doraId := by
  have hcarries : (Users.doraService "other").jwt.Carries "aaa.bbb.ccc" "s" _ _ :=
    JWTService.carries_of_access (S := Users.doraService "r") Users.listed_lawful (t := 0)
      (p := Users.doraUser.payload) rfl
  exact ⟨⟨_, _, _, Users.bears_bearer (by decide), hcarries, rfl, rfl⟩, _, rfl, by decide +kernel⟩

/-- The first step of the confirmation holds the seat for dora, not for eve. -/
theorem identity_sound_asEve : ∃ b, NewBooking dorasTask dorasTaskHeld b ∧
    b.userId = Users.doraId := by
  have hi : List.Forall₂ (Starts (Users.doraService "other")) [asEve] dorasTask.procs :=
    .cons ⟨0, _, rfl, rfl⟩ .nil
  have hr : (served uuidEnv (Users.doraService "other") [asEve]).Reachable dorasTask := .of_init hi
  have hst : Pool.step (gateway uuidEnv) dorasTask (.proc 0 { rowId := "b1" }) =
    some dorasTaskHeld := rfl
  obtain ⟨hrows, -⟩ := (identity_sound hr hr).user 0 _ asEve Users.doraId _ rfl carries_asEve hst
  have hnew : NewBooking dorasTask dorasTaskHeld ⟨"b1", "6f1c0a52-9b3e-4d7f-8a21-0c5d6e7f8a9b",
    "0d9b7e41-5c2a-4f60-9e13-7a8b6c5d4e3f", Users.doraId, 1, 3, .PENDING, some 300000⟩ :=
    ⟨by decide +kernel, rfl⟩
  exact ⟨_, hnew, hrows _ hnew⟩

end RouteGo.Gateway
