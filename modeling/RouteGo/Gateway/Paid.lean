import RouteGo.Gateway.Routes
import RouteGo.Orchestrator.Controller

/-!
# Confirmed and paid for

Requests through the gateway, handled one after another without faults. Every
confirmed booking is paid for (`confirmedPaid_reach`) as long as nobody confirms
an unpaid hold directly and nobody refunds the payment of a confirmed booking
that is not cancelled with it. The gateway refuses neither
(`exists_confirmed_unpaid`, `exists_confirmed_refunded`).
-/

namespace RouteGo.Gateway

open Js Orchestrator
open Bookings (Env Booking BookingStatus BookingTable holdInputs)
open Payments (ChargeInputs ChargeResult Payment PaymentTable findById)

/-- What the handlers read of a body. -/
structure Body where
  tripId : Value := .undefined
  seatId : Value := .undefined
  userId : Value := .undefined
  fromStopSeq : Value := .undefined
  toStopSeq : Value := .undefined
  bookingId : Value := .undefined
  amount : Value := .undefined
  currency : Value := .undefined
  reason : Value := .undefined
  paymentId : Value := .undefined

/-- A request with a valid token, whose user the gateway puts into `x-user-id`. -/
structure Request where
  method : Method
  mount : Mount
  path : List String
  tokenUser : String
  key : Header := none
  xKey : Header := none
  body : Body := {}

def Request.endpoint (q : Request) : Option Endpoint := route q.method q.mount q.path

/-- Nothing fails. -/
def quiet (e : StepIn) : StepIn := { e with outcome := .replied, faults := {} }

/-- The saga of `input`, one input a step, to its end. -/
def runSaga (env : Env) (w : World) (input : ConfirmBookingInput) (es : List StepIn) :
    Option World :=
  match LTS.execAll (fun s e => confirmStep env s.1 0 input e s.2) (⟨w, []⟩, .start) es with
  | some (sh, .done _ _) => some sh.world
  | _ => none

def confirmBody (b : Body) : Orchestrator.Controller.ConfirmBody :=
  ⟨b.tripId, b.seatId, b.userId, b.fromStopSeq, b.toStopSeq, b.amount, b.currency⟩

/-- The state a handler leaves; `es` is what its steps take from outside. -/
def serve (env : Env) (w : World) (q : Request) (es : List StepIn) : Endpoint → Option World
  | .checkAvailability _ _ | .getPaymentById _ => some w
  | .createHold => some (w.exec env (.createHold (quiet (es.headD {})) (some q.tokenUser)
      ⟨q.body.tripId, q.body.seatId, q.body.userId, q.body.fromStopSeq, q.body.toStopSeq⟩))
  | .confirmBooking id => some (w.exec env (.confirmBooking id))
  | .releaseBooking id => some (w.exec env (.releaseBooking id q.body.reason))
  | .confirmBookingSaga =>
    match Orchestrator.Controller.confirmInput (some q.tokenUser) (confirmBody q.body) with
    | .error _ => some w
    | .ok input => runSaga env w input (es.map quiet)
  | .cancelBookingSaga id => some (cancelBooking ⟨w, []⟩ 0 id
      (Orchestrator.Controller.refundId q.body.paymentId) {}).2.world
  | .processCharge =>
    some (w.exec env (.processCharge ⟨(es.headD {}).rowId, (es.headD {}).draw, false, false⟩
      q.key q.xKey (some q.tokenUser) ⟨q.body.bookingId, q.body.userId, q.body.amount,
        q.body.currency⟩))
  | .processRefund id => some (w.exec env (.processRefund id))

inductive Event where
  | wait (d : Nat)
  | request (q : Request) (es : List StepIn)

def step (env : Env) (w : World) : Event → Option World
  | .wait d => some (w.exec env (.wait d))
  | .request q es => match q.endpoint with
    | some ep => serve env w q es ep
    | none => some w

/-- The runs from empty stores. -/
def requests (env : Env) : LTS World Event :=
  .ofFn (fun w => w.bookings = Table.empty ∧ w.payments = PaymentTable.empty) (step env)

/-! ## Confirmed bookings are paid for -/

def PaidFor (w : World) (bookingId : String) : Prop :=
  ∃ p ∈ w.payments.rows, p.bookingId = bookingId ∧ p.status = .SUCCEEDED

instance (w : World) (bookingId : String) : Decidable (PaidFor w bookingId) :=
  inferInstanceAs (Decidable (∃ p ∈ w.payments.rows, _))

/-- Every confirmed booking is paid for, `out` apart. -/
def ConfirmedPaidBut (out : Option String) (w : World) : Prop :=
  ∀ b ∈ w.bookings.rows, b.status = .CONFIRMED → out = some b.id ∨ PaidFor w b.id

def ConfirmedPaid (w : World) : Prop :=
  ∀ b ∈ w.bookings.rows, b.status = .CONFIRMED → PaidFor w b.id

/-- The refund of a payment that has not been refunded is not for a confirmed
booking, `out` apart, or leaves it another payment. -/
def RefundSpares (w : World) (paymentId : String) (out : Option String) : Prop :=
  ∀ p, findById w.payments (trim paymentId) = some p → p.status = .SUCCEEDED →
    ∀ b ∈ w.bookings.rows, b.id = p.bookingId → b.status = .CONFIRMED → out = some b.id ∨
      ∃ q ∈ w.payments.rows, q.id ≠ p.id ∧ q.bookingId = b.id ∧ q.status = .SUCCEEDED

section
variable {env : Env} {w w' : World} {id paymentId : String} {e : StepIn}

/-- A step after which the confirmed bookings are old ones or paid for. -/
theorem ConfirmedPaid.mono (h : ConfirmedPaid w)
    (hb : ∀ b ∈ w'.bookings.rows, b.status = .CONFIRMED → b ∈ w.bookings.rows ∨ PaidFor w' b.id)
    (hp : ∀ id, PaidFor w id → PaidFor w' id) : ConfirmedPaid w' := by
  intro b hm hs
  rcases hb b hm hs with hm' | hpaid
  · exact hp _ (h b hm' hs)
  · exact hpaid

theorem PaidFor.congr (h : w'.payments = w.payments) (hp : PaidFor w id) : PaidFor w' id := by
  rw [PaidFor, h]; exact hp

theorem PaidFor.append {p : Payment} (h : w'.payments.rows = w.payments.rows ++ [p])
    (hp : PaidFor w id) : PaidFor w' id := by
  obtain ⟨q, hq, hk⟩ := hp
  exact ⟨q, by rw [h]; exact List.mem_append_left _ hq, hk⟩

/-! ### Bookings -/

/-- Only a write of `CONFIRMED` confirms. -/
theorem mem_of_confirmed_setStatus {bookings : BookingTable} {s : BookingStatus} {b : Booking}
    (hs : s ≠ .CONFIRMED) (hb : b ∈ (Bookings.setStatus bookings id s).rows)
    (hc : b.status = .CONFIRMED) : b ∈ bookings.rows ∧ b.id ≠ id := by
  rcases Bookings.mem_setStatus.mp hb with hb | ⟨b', -, -, rfl⟩
  · exact hb
  · exact absurd hc hs

theorem ConfirmedPaid.insert {b : Booking} (h : ConfirmedPaid w) (hp : w'.payments = w.payments)
    (hs : b.status = .PENDING) (hi : w.bookings.insert b = some w'.bookings) :
    ConfirmedPaid w' := by
  refine h.mono (fun c hc hcs => .inl ?_) fun _ => .congr hp
  rcases (Table.mem_of_insert hi).mp hc with hc | rfl
  · exact hc
  · rw [hs] at hcs; cases hcs

theorem ConfirmedPaid.same (h : ConfirmedPaid w) (hb : w'.bookings = w.bookings)
    (hp : w'.payments = w.payments) : ConfirmedPaid w' :=
  h.mono (fun _ hc _ => .inl (hb ▸ hc)) fun _ => .congr hp

/-- A confirmation of a hold that is paid for, if it is still valid. -/
theorem ConfirmedPaid.confirmBooking (h : ConfirmedPaid w)
    (hc : ∀ b, w.bookings.find id = some b → b.status = .PENDING → b.hasExpired w.clock = false →
      PaidFor w id) : ConfirmedPaid (Orchestrator.confirmBooking id w).2 := by
  have hpay := (confirmBooking_effect id w).1
  rcases Bookings.confirmBooking_cases w.bookings w.clock id with
    ⟨err, hr⟩ | ⟨b, hb, hs, ⟨-, hr⟩ | ⟨hx, hr⟩⟩
  · exact h.same (congrArg Prod.snd hr) hpay
  · refine h.mono (fun c hcm hcs => .inl ?_) fun _ => .congr hpay
    have hbk : (Orchestrator.confirmBooking id w).2.bookings = Bookings.setStatus w.bookings
      id .EXPIRED :=
      congrArg Prod.snd hr
    rw [hbk] at hcm
    exact (mem_of_confirmed_setStatus (by decide) hcm hcs).1
  · refine h.mono (fun c hcm hcs => ?_) fun _ => .congr hpay
    have hbk : (Orchestrator.confirmBooking id w).2.bookings =
        Bookings.setStatus w.bookings id .CONFIRMED := congrArg Prod.snd hr
    rw [hbk] at hcm
    rcases Bookings.mem_setStatus.mp hcm with ⟨hcm, -⟩ | ⟨b', -, hid, rfl⟩
    · exact .inl hcm
    · right
      show PaidFor _ b'.id
      rw [hid]
      exact (hc b hb hs hx).congr hpay

/-- A release with any reason. -/
theorem confirmed_of_releaseBooking {bookings : BookingTable} {reason : String} {b : Booking}
    (hb : b ∈ (Bookings.releaseBooking bookings id reason).2.rows) (hc : b.status = .CONFIRMED) :
    b ∈ bookings.rows := by
  rcases Bookings.releaseBooking_cases bookings id reason with
    ⟨err, hr⟩ | ⟨b', target, -, ht, hr⟩ <;> rw [hr] at hb
  · exact hb
  · refine (mem_of_confirmed_setStatus ?_ hb hc).1
    rcases Bookings.targetStatus_cases ht with rfl | rfl <;> decide

theorem ConfirmedPaid.releaseBooking {reason : String} (h : ConfirmedPaid w) :
    ConfirmedPaid (Orchestrator.releaseBooking id reason w).2 :=
  h.mono (fun _ hb hc => .inl (confirmed_of_releaseBooking hb hc)) fun _ => .congr rfl

/-- A cancellation settles what was left out. -/
theorem ConfirmedPaidBut.releaseBooking (h : ConfirmedPaidBut (some id) w) (hid : id ≠ "") :
    ConfirmedPaid (Orchestrator.releaseBooking id "USER_CANCELLED" w).2 := by
  intro b hb hc
  have hpay := (releaseBooking_effect id "USER_CANCELLED" w).1
  have hm : b ∈ w.bookings.rows := confirmed_of_releaseBooking hb hc
  rcases h b hm hc with hout | hp
  · obtain rfl : id = b.id := Option.some.inj hout
    have hf : w.bookings.find b.id = some b := Table.find_key hm
    rw [releaseBooking_of_find hid rfl hf] at hb
    exact absurd rfl (mem_of_confirmed_setStatus (by decide) hb hc).2
  · exact hp.congr hpay

theorem ConfirmedPaid.exec_createHold {xUserId : Header} {body : Bookings.Controller.HoldBody}
    (h : ConfirmedPaid w) : ConfirmedPaid (w.exec env (.createHold e xUserId body)) := by
  rcases Bookings.Controller.createHold_cases env
      (holdInputs w.clock e.rowId e.lockValue e.delays e.faults) ⟨w.bookings, w.locks⟩
        xUserId body with
    ⟨err, -, hb⟩ | ⟨a, b, -, -, -, hg⟩
  · exact h.same hb rfl
  · exact h.insert rfl hg.status hg.insert

/-! ### Payments -/

/-- A refund. -/
theorem ConfirmedPaid.refund {out : Option String} (h : ConfirmedPaid w)
    (hs : RefundSpares w paymentId out) :
    ConfirmedPaidBut out (Orchestrator.refund paymentId w).2 := by
  intro b hb hc
  obtain ⟨hbk, ⟨err, -, hp⟩ | ⟨p, p', hf, hps, -, hp⟩⟩ := refund_effect paymentId w
  · rw [hbk] at hb
    exact .inr ((h b hb hc).congr hp)
  · rw [hbk] at hb
    have keep : ∀ q ∈ w.payments.rows, q.id ≠ p.id → q.bookingId = b.id → q.status = .SUCCEEDED →
        PaidFor (Orchestrator.refund paymentId w).2 b.id := fun q hq hne hqb hqs =>
      ⟨q, by rw [hp]; exact Payments.mem_setStatus.mpr (.inl ⟨hq, hne⟩), hqb, hqs⟩
    obtain ⟨q, hq, hqb, hqs⟩ := h b hb hc
    by_cases hne : q.id = p.id
    · obtain rfl : q = p := PaymentTable.eq_of_id hq (Table.mem_of_find hf) hne
      rcases hs q hf hps b hb hqb.symm hc with hout | ⟨r, hr, hrne, hrb, hrs⟩
      · exact .inl hout
      · exact .inr (keep r hr hrne hrb hrs)
    · exact .inr (keep q hq hne hqb hqs)

/-- The refund of a cancellation, if there is one. -/
theorem ConfirmedPaid.refundIfGiven {sh : Shared} {refunded : Option String} {out : Option String}
    (h : ConfirmedPaid sh.world)
    (hs : ∀ paymentId, refunded = some paymentId → RefundSpares sh.world paymentId out) :
    ConfirmedPaidBut out (refundIfGiven sh refunded .replied).world := by
  have hsame : ConfirmedPaidBut out sh.world := fun b hb hc => .inr (h b hb hc)
  unfold Orchestrator.refundIfGiven
  split
  · next paymentId =>
    split
    · exact hsame
    · exact h.refund (hs paymentId rfl)
  · exact hsame

theorem ConfirmedPaid.cancelBooking {sh : Shared} {refunded : Option String}
    (h : ConfirmedPaid sh.world)
    (hs : ∀ paymentId, refunded = some paymentId → RefundSpares sh.world paymentId (some id)) :
    ConfirmedPaid (Orchestrator.cancelBooking sh 0 id refunded {}).2.world := by
  unfold Orchestrator.cancelBooking
  split
  · exact h
  · next hid =>
    rw [world_releaseAndPublish]
    exact (h.refundIfGiven hs).releaseBooking hid

/-- A charge adds a payment at most. -/
theorem paidFor_processCharge {x : ChargeInputs} {key xKey xUserId : Header}
    {body : Payments.Controller.ChargeBody} (hp : PaidFor w id) :
    PaidFor (w.exec env (.processCharge x key xKey xUserId body)) id := by
  rcases Payments.Controller.processCharge_cases x w.payments key xKey xUserId body with
    ⟨err, hr⟩ | ⟨dto, -, -, -, hr⟩
  · exact hp.congr (congrArg Prod.snd hr)
  · rcases Payments.charge_cases x w.payments dto with
      ⟨err, hc⟩ | ⟨p, -, -, hc⟩ | ⟨p, payments', hch, hc⟩
    · exact hp.congr (congrArg Prod.snd (hr.trans hc))
    · exact hp.congr (congrArg Prod.snd (hr.trans hc))
    · refine hp.append (p := p) ?_
      rw [← hch.rows]
      exact congrArg (fun r => r.2.rows) (hr.trans hc)

/-! ### The confirmation saga -/

def SagaPaid (w : World) : ConfirmPc → Prop
  | .charging b => NoSpace b.id ∧ ∀ p ∈ w.payments.rows, ¬ IsFor b.id p
  | .confirming b _ => PaidFor w b.id
  | _ => True

theorem ConfirmedPaid.createHold (h : ConfirmedPaid w) (q : HoldRequest) :
    ConfirmedPaid (Orchestrator.createHold env e q w).2 := by
  obtain ⟨hp, ⟨err, -, hb⟩ | ⟨b, -, -, hs, hi⟩⟩ := createHold_effect env e q w
  · exact h.same hb hp
  · exact h.insert hp hs hi

/-- The charge of the saga is for its booking. -/
theorem ConfirmedPaid.charge {input : ConfirmBookingInput} (h : ConfirmedPaid w)
    (hid : NoSpace id) : ConfirmedPaid (Orchestrator.charge e (chargeRequest input id) w).2 := by
  obtain ⟨hb, ⟨err, -, hp⟩ | ⟨p, -, -, -, hp⟩ | ⟨p, -, -, -, -, -, hp⟩⟩ :=
    charge_effect e (q := chargeRequest input id) w hid rfl
  · exact h.same hb hp
  · exact h.same hb hp
  · exact h.mono (fun b hm _ => .inl (hb ▸ hm)) fun _ => .append hp

theorem paidFor_charge {input : ConfirmBookingInput} {c : ChargeResult} (hid : NoSpace id)
    (hp : ∀ p ∈ w.payments.rows, ¬ IsFor id p)
    (h : (Orchestrator.charge e (chargeRequest input id) w).1 = .ok c)
    (hs : c.status = .SUCCEEDED) :
    PaidFor (Orchestrator.charge e (chargeRequest input id) w).2 id := by
  obtain ⟨p, hrows, hb, -, hst⟩ := charge_first (q := chargeRequest input id) hid rfl hp h
  exact ⟨p, by rw [hrows]; exact List.mem_append_right _ (List.mem_singleton_self p),
    hb, hst.trans hs⟩

theorem MayHave.confirmedPaid {sh sh' : Shared} (h : MayHave sh w sh') (h0 : ConfirmedPaid sh.world)
    (h1 : ConfirmedPaid w) : ConfirmedPaid sh'.world := by
  rcases h with rfl | rfl
  · exact h0
  · exact h1

theorem ConfirmMove.confirmedPaid {sh sh' : Shared} {i : Nat} {input : ConfirmBookingInput}
    {pc pc' : ConfirmPc} (hm : ConfirmMove env sh i input e pc sh' pc')
    (h : ConfirmedPaid sh.world ∧ SagaPaid sh.world pc) :
    ConfirmedPaid sh'.world ∧ SagaPaid sh'.world pc' := by
  obtain ⟨h, hpc⟩ := h
  cases hm with
  | reject _ | holdFailed _ => exact ⟨h, trivial⟩
  | holdThrew _ _ => exact ⟨h.createHold _, trivial⟩
  | hold hf hb => exact ⟨h.createHold _, createHold_fresh hf hb⟩
  | chargeThrew _ hmay => exact ⟨MayHave.confirmedPaid hmay h (h.charge hpc.1), trivial⟩
  | charged hc hs => exact ⟨h.charge hpc.1, paidFor_charge hpc.1 hpc.2 hc hs⟩
  | declined hc hs => exact ⟨h.charge hpc.1, trivial⟩
  | confirmThrew _ hmay =>
    exact ⟨MayHave.confirmedPaid hmay h (h.confirmBooking fun _ _ _ _ => hpc), trivial⟩
  | confirmed _ => exact ⟨h.confirmBooking fun _ _ _ _ => hpc, trivial⟩
  | publishConfirmed _ _ | publishFailedThrew _ | publishFailed _ => exact ⟨h, trivial⟩
  | releaseThrew _ hmay => exact ⟨MayHave.confirmedPaid hmay h h.releaseBooking, trivial⟩
  | released _ => exact ⟨h.releaseBooking, trivial⟩
  | @compensate b err =>
    refine ⟨?_, trivial⟩
    show ConfirmedPaid
      (remote e.outcome (Orchestrator.releaseBooking b.id "PAYMENT_FAILED") sh.world).2
    rw [remote_snd]
    split
    · exact h
    · exact h.releaseBooking

/-- A saga run to its end. -/
theorem ConfirmedPaid.runSaga {input : ConfirmBookingInput} {es : List StepIn} (h : ConfirmedPaid w)
    (hr : runSaga env w input es = some w') : ConfirmedPaid w' := by
  unfold Gateway.runSaga at hr
  split at hr
  · next sh o res hx =>
    cases hr
    have hreach : (LTS.ofFn (fun s => s = (⟨w, []⟩, .start)) fun s e =>
        confirmStep env s.1 0 input e s.2).Reachable (sh, .done o res) :=
      LTS.reachable_of_execAll es rfl hx
    refine (hreach.invariant (I := fun s => ConfirmedPaid s.1.world ∧ SagaPaid s.1.world s.2)
      (fun s hs => ?_) fun s e s' _ hI _ hs => ?_).1
    · subst hs; exact ⟨h, trivial⟩
    · exact ConfirmMove.confirmedPaid (confirmStep_move hs) hI
  · cases hr

end

/-! ## Runs -/

/-- A direct confirmation of a valid hold names one that is paid for; a refund
spares the confirmed bookings but the one that is cancelled with it. -/
def SparesPaid (w : World) (q : Request) : Endpoint → Prop
  | .confirmBooking id => ∀ b, w.bookings.find id = some b → b.status = .PENDING →
      b.hasExpired w.clock = false → PaidFor w id
  | .processRefund id => RefundSpares w id none
  | .cancelBookingSaga id => ∀ paymentId,
      Orchestrator.Controller.refundId q.body.paymentId = some paymentId →
        RefundSpares w paymentId (some id)
  | _ => True

/-- No segment of the path is escaped or is `.` or `..`, and the payment id of a cancellation
is a segment. -/
def Request.Plain (q : Request) : Prop :=
  (∀ s ∈ q.path, s = "" ∨ PathSegment s) ∧
    ∀ paymentId ∈ Orchestrator.Controller.refundId q.body.paymentId, paymentId = "" ∨
      PathSegment paymentId

instance (q : Request) : Decidable q.Plain :=
  @instDecidableAnd _ _ (List.decidableBAll (fun s => s = "" ∨ PathSegment s) q.path)
    (inferInstanceAs
      (Decidable (∀ paymentId ∈ Orchestrator.Controller.refundId q.body.paymentId, _)))

def Admitted (w : World) : Event → Prop
  | .wait _ => True
  | .request q _ => q.Plain ∧ ∀ ep, q.endpoint = some ep → SparesPaid w q ep

section
variable {env : Env} {w w' : World}

theorem ConfirmedPaid.serve {q : Request} {es : List StepIn} {ep : Endpoint} (h : ConfirmedPaid w)
    (ha : SparesPaid w q ep) (hs : serve env w q es ep = some w') : ConfirmedPaid w' := by
  cases ep with
  | checkAvailability tripId seatId | getPaymentById id => cases hs; exact h
  | createHold => cases hs; exact h.exec_createHold
  | confirmBooking id => cases hs; exact h.confirmBooking ha
  | releaseBooking id =>
    cases hs
    refine h.mono (fun b hb hc => .inl ?_) fun _ => .congr rfl
    have key : ∀ reason : Value,
        b ∈ (Bookings.Controller.releaseBooking w.bookings id reason).2.rows →
          b ∈ w.bookings.rows := by
      intro reason hb
      cases reason <;> exact confirmed_of_releaseBooking hb hc
    exact key q.body.reason hb
  | confirmBookingSaga =>
    simp only [Gateway.serve] at hs
    split at hs
    · cases hs; exact h
    · exact h.runSaga hs
  | cancelBookingSaga id => cases hs; exact h.cancelBooking ha
  | processCharge =>
    cases hs
    exact h.mono (fun _ hb _ => .inl hb) fun _ => paidFor_processCharge
  | processRefund id =>
    cases hs
    intro b hb hc
    rcases h.refund ha b hb hc with hout | hp
    · cases hout
    · exact hp

theorem ConfirmedPaid.step {ev : Event} (h : ConfirmedPaid w) (ha : Admitted w ev)
    (hs : step env w ev = some w') : ConfirmedPaid w' := by
  cases ev with
  | wait d => cases hs; exact h
  | request q es =>
    simp only [Gateway.step] at hs
    split at hs
    · next ep hep => exact h.serve (ha.2 ep hep) hs
    · cases hs; exact h

/-- **Confirmed bookings are paid for**, where the direct requests spare them. -/
theorem confirmedPaid_reach (h : (requests env).Reach Admitted w) : ConfirmedPaid w := by
  refine h.invariant (I := ConfirmedPaid) (fun w hi b hb => ?_) fun w ev w' _ hI ha hs =>
    hI.step ha hs
  rw [hi.1] at hb
  cases hb

end

theorem admitted_of_endpoint {w : World} {q : Request} {es : List StepIn} (ep : Endpoint)
    (hq : q.Plain) (hep : q.endpoint = some ep) (h : SparesPaid w q ep) :
    Admitted w (.request q es) := by
  refine ⟨hq, fun ep' hep' => ?_⟩
  rw [hep] at hep'
  cases hep'
  exact h

def holdBody : Body :=
  { tripId := .string "t1", seatId := .string "s1", fromStopSeq := .ofInt 1, toStopSeq := .ofInt 3 }

def annHolds : Event := .request ⟨.POST, .bookings, ["hold"], "ann", none, none, holdBody⟩
    [{ rowId := "b1" }]

def annPays : Event := .request ⟨.POST, .payments, ["charge"], "ann", some "key", none,
  { bookingId := .string "b1", amount := .ofInt 450 }⟩ [{ rowId := "p1" }]

def annConfirms : Event := .request ⟨.POST, .bookings, ["b1", "confirm"], "ann", none, none, {}⟩ []

def annRefunds : Event := .request ⟨.POST, .payments, ["p1", "refund"], "ann", none, none, {}⟩ []

/-- The state a list of requests leads to. -/
def after (es : List Event) : World := (LTS.execAll (step defaultEnv) emptyWorld es).getD emptyWorld

/-- Hold, pay, and confirm directly. -/
theorem confirmedPaid_reach_ann : ConfirmedPaid (after [annHolds, annPays, annConfirms]) := by
  have h : (requests defaultEnv).Reach Admitted (after [annHolds, annPays, annConfirms]) :=
    LTS.reach_of_execAll [annHolds, annPays, annConfirms] ⟨rfl, rfl⟩
      ⟨admitted_of_endpoint .createHold (by decide) (by decide) trivial,
        admitted_of_endpoint .processCharge (by decide) (by decide) trivial,
        admitted_of_endpoint (.confirmBooking "b1") (by decide) (by decide) fun _ _ _ _ => by
          decide, trivial⟩ rfl
  exact confirmedPaid_reach h

/-- **Confirmed and not paid for**: a hold, and its direct confirmation. -/
theorem exists_confirmed_unpaid : ∃ w, (requests defaultEnv).Reachable w ∧
    w.status "b1" = some .CONFIRMED ∧ w.payments.rows = [] ∧ ¬ ConfirmedPaid w := by
  refine ⟨after [annHolds, annConfirms], LTS.reachable_of_execAll [annHolds, annConfirms]
    ⟨rfl, rfl⟩ rfl, by decide, rfl, fun h => ?_⟩
  have hp := h annsBooking (by decide) rfl
  exact absurd hp (by decide)

/-- Paid for, and refunded directly. -/
theorem exists_confirmed_refunded : ∃ w, (requests defaultEnv).Reachable w ∧
    w.status "b1" = some .CONFIRMED ∧ w.paymentStatus "p1" = some .REFUNDED :=
  ⟨after [annHolds, annPays, annConfirms, annRefunds],
    LTS.reachable_of_execAll [annHolds, annPays, annConfirms, annRefunds] ⟨rfl, rfl⟩ rfl,
    by decide, by decide⟩

end RouteGo.Gateway
