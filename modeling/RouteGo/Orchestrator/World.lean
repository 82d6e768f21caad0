import RouteGo.Bookings.Controller
import RouteGo.Payments.Controller

/-!
# The services behind the orchestrator

`World` is what the remote calls work on: the booking store with its locks, the
payment store, and the clock. A remote call replies, fails without effect, or
takes effect with its reply lost to the 5 s timeout (`remote`). The clients are
`bookingServiceClient.ts` and `paymentServiceClient.ts`, down to the handlers
their requests reach; the ids they paste into a path are segments of it
(`PathSegment`), as the ids of rows are. A request is served at once here, and is a call
of the service at its awaits in `sagasInFlight`.
-/

namespace RouteGo.Orchestrator

open Js Bookings Payments

structure World where
  bookings : BookingTable
  locks : Locks
  payments : PaymentTable
  clock : Int

/-- What becomes of a remote call. -/
inductive Outcome where
  | replied
  | failed
  | lost
  deriving DecidableEq

def unreachable : AppError := .Error "connect ECONNREFUSED"

def timeout : AppError := .Error "timeout of 5000ms exceeded"

/-- The error `axios` throws for an error status. -/
def axiosError (e : AppError) : AppError :=
  .Error ("Request failed with status code " ++ toString e.statusCode)

/-- The request `serve` as a remote call. -/
def remote {α : Type} (o : Outcome) (serve : World → Result α × World) (w : World) :
    Result α × World :=
  match o with
  | .failed => (.error unreachable, w)
  | .lost => (.error timeout, (serve w).2)
  | .replied =>
    let r := serve w
    (match r.1 with
      | .ok a => .ok a
      | .error e => .error (axiosError e), r.2)

/-- What one step of a saga takes from outside. -/
structure StepIn where
  outcome : Outcome := .replied
  rowId : String := ""
  lockValue : String := ""
  delays : HoldDelays := {}
  faults : HoldFaults := {}
  draw : Bool := true

/-! ## Requests -/

/-- `{ tripId, seatId, userId, fromStopSeq, toStopSeq }` of a hold. -/
structure HoldRequest where
  tripId : Value
  seatId : Value
  userId : String
  fromStopSeq : Value
  toStopSeq : Value

/-- `POST /bookings/hold` -/
def createHold (env : Env) (x : StepIn) (q : HoldRequest) (w : World) : Result Booking × World :=
  let inputs := holdInputs w.clock x.rowId x.lockValue x.delays x.faults
  let r := Bookings.Controller.createHold env inputs ⟨w.bookings, w.locks⟩ (some (onWire q.userId))
    ⟨q.tripId.viaJson, q.seatId.viaJson, .string q.userId, q.fromStopSeq.viaJson,
      q.toStopSeq.viaJson⟩
  (r.1, { w with bookings := r.2.bookings, locks := r.2.locks, clock := inputs.tRelease })

/-- `POST /bookings/${bookingId}/confirm`, of a `PathSegment`. -/
def confirmBooking (bookingId : String) (w : World) : Result Booking × World :=
  let r := Bookings.Controller.confirmBooking w.bookings w.clock bookingId
  (r.1, { w with bookings := r.2 })

/-- `POST /bookings/${bookingId}/release`, of a `PathSegment`. -/
def releaseBooking (bookingId reason : String) (w : World) : Result Booking × World :=
  let r := Bookings.Controller.releaseBooking w.bookings bookingId (.string reason)
  (r.1, { w with bookings := r.2 })

structure ChargeRequest where
  bookingId : String
  userId : String
  amount : Value
  currency : Value
  idempotencyKey : String

/-- `data.currency || "INR"` -/
def orINR (currency : Value) : Value := if currency.truthy then currency else .string "INR"

/-- `POST /payments/charge` -/
def charge (x : StepIn) (q : ChargeRequest) (w : World) : Result ChargeResult × World :=
  let r := Payments.Controller.processCharge ⟨x.rowId, x.draw, false, false⟩ w.payments
    (some (onWire q.idempotencyKey)) none (some (onWire q.userId))
    ⟨.string q.bookingId, .undefined, q.amount.viaJson, (orINR q.currency).viaJson⟩
  (r.1, { w with payments := r.2 })

/-- `POST /payments/${paymentId}/refund`, of a `PathSegment`. -/
def refund (paymentId : String) (w : World) : Result Payment × World :=
  let r := Payments.Controller.processRefund w.payments paymentId
  (r.1, { w with payments := r.2 })

/-! ## Other clients -/

/-- A request some other client makes, or time that passes. -/
inductive Op where
  | wait (d : Nat)
  | createHold (x : StepIn) (xUserId : Header) (body : Bookings.Controller.HoldBody)
  | confirmBooking (id : String)
  | releaseBooking (id : String) (reason : Value)
  | processCharge (x : ChargeInputs) (key xKey xUserId : Header)
      (body : Payments.Controller.ChargeBody)
  | processRefund (id : String)

def World.exec (env : Env) (w : World) : Op → World
  | .wait d => { w with clock := w.clock + d }
  | .createHold x xUserId body =>
    let inputs := holdInputs w.clock x.rowId x.lockValue x.delays x.faults
    let r := Bookings.Controller.createHold env inputs ⟨w.bookings, w.locks⟩ xUserId body
    { w with bookings := r.2.bookings, locks := r.2.locks, clock := inputs.tRelease }
  | .confirmBooking id => (confirmBooking id w).2
  | .releaseBooking id reason =>
    { w with bookings := (Bookings.Controller.releaseBooking w.bookings id reason).2 }
  | .processCharge x key xKey xUserId body =>
    { w with payments := (Payments.Controller.processCharge x w.payments key xKey xUserId body).2 }
  | .processRefund id => (refund id w).2

/-! ## What a request does to one booking -/

def idempotencyKeyOf (bookingId : String) : String := "booking-" ++ bookingId

/-- The stored status. -/
def World.status (w : World) (bookingId : String) : Option BookingStatus :=
  (w.bookings.find bookingId).map Booking.status

/-- The payment is one of the booking. -/
def IsFor (bookingId : String) (p : Payment) : Prop :=
  p.bookingId = bookingId ∨ p.idempotencyKey = idempotencyKeyOf bookingId

instance (bookingId : String) (p : Payment) : Decidable (IsFor bookingId p) :=
  inferInstanceAs (Decidable (_ ∨ _))

/-- Charged and not refunded. -/
def World.Paid (w : World) (bookingId : String) : Prop :=
  ∃ p ∈ w.payments.rows, IsFor bookingId p ∧ p.status = .SUCCEEDED

instance (w : World) (bookingId : String) : Decidable (w.Paid bookingId) :=
  inferInstanceAs (Decidable (∃ p ∈ w.payments.rows, _))

/-- The id the database gives to a new row: a `uuid`, which no row has or refers to. -/
def World.Fresh (w : World) (id : String) : Prop :=
  NoSpace id ∧ w.bookings.find id = none ∧ ∀ p ∈ w.payments.rows, ¬ IsFor id p

instance (w : World) (id : String) : Decidable (w.Fresh id) :=
  inferInstanceAs (Decidable (_ ∧ _ ∧ _))

section
variable {env : Env} {x : StepIn} {w w' : World} {id : String}

/-- A remote call that returns has taken effect; one that throws may have. -/
theorem remote_cases {α : Type} (o : Outcome) (serve : World → Result α × World) (w : World) :
    (∃ e, remote o serve w = (.error e, w) ∧ o = .failed) ∨
    (∃ e, remote o serve w = (.error e, (serve w).2) ∧ o ≠ .failed) ∨
    ∃ a, remote o serve w = (.ok a, (serve w).2) ∧ (serve w).1 = .ok a ∧ o = .replied := by
  cases o with
  | failed => exact .inl ⟨_, rfl, rfl⟩
  | lost => exact .inr (.inl ⟨_, rfl, by decide⟩)
  | replied =>
    cases hs : (serve w).1 with
    | ok a => exact .inr (.inr ⟨a, by simp [remote, hs], rfl, rfl⟩)
    | error e => exact .inr (.inl ⟨axiosError e, by simp [remote, hs], by decide⟩)

theorem remote_snd {α : Type} (o : Outcome) (serve : World → Result α × World) (w : World) :
    (remote o serve w).2 = if o = .failed then w else (serve w).2 := by
  cases o <;> rfl

theorem paid_congr (h : w'.payments = w.payments) : w'.Paid id ↔ w.Paid id := by
  rw [World.Paid, World.Paid, h]

theorem status_congr (h : w'.bookings = w.bookings) : w'.status id = w.status id := by
  rw [World.status, World.status, h]

/-- A hold adds a `PENDING` row or leaves the bookings alone; payments are not touched. -/
theorem createHold_effect (env : Env) (x : StepIn) (q : HoldRequest) (w : World) :
    (createHold env x q w).2.payments = w.payments ∧
    ((∃ e, (createHold env x q w).1 = .error e ∧
        (createHold env x q w).2.bookings = w.bookings) ∨
      ∃ b, (createHold env x q w).1 = .ok b ∧ b.id = x.rowId ∧ b.status = .PENDING ∧
        w.bookings.insert b = some (createHold env x q w).2.bookings) := by
  simp only [createHold]
  refine ⟨trivial, ?_⟩
  rcases Bookings.Controller.createHold_cases env
      (holdInputs w.clock x.rowId x.lockValue x.delays x.faults) ⟨w.bookings, w.locks⟩
      (some (onWire q.userId)) ⟨q.tripId.viaJson, q.seatId.viaJson, .string q.userId,
        q.fromStopSeq.viaJson, q.toStopSeq.viaJson⟩ with ⟨e, he, hb⟩ | ⟨a, b, -, hb, hid, hg⟩
  · exact .inl ⟨e, he, hb⟩
  · exact .inr ⟨b, hb, hid, hg.status, hg.insert⟩

/-- A hold that answered is under the id of its row, and not charged for yet. -/
theorem createHold_fresh {env : Env} {q : HoldRequest} {b : Booking} (hf : w.Fresh x.rowId)
    (h : (createHold env x q w).1 = .ok b) :
    NoSpace b.id ∧ ∀ p ∈ (createHold env x q w).2.payments.rows, ¬ IsFor b.id p := by
  obtain ⟨hpay, ⟨err, he, -⟩ | ⟨b', hb', hid, -, -⟩⟩ := createHold_effect env x q w
  · rw [he] at h; cases h
  · rw [hb'] at h
    cases h
    rw [hpay, hid]
    exact ⟨hf.1, hf.2.2⟩

/-- The status after a write to the row of a booking. -/
theorem status_setStatus {bookings : BookingTable} {b : Booking} (s : BookingStatus)
    (hb : bookings.find id = some b) :
    ((Bookings.setStatus bookings id s).find id).map Booking.status = some s := by
  rw [find_setStatus_self s hb]
  rfl

/-- A confirmation that answers has confirmed; else the booking keeps its status
or has run out. -/
theorem confirmBooking_effect (id : String) (w : World) :
    (confirmBooking id w).2.payments = w.payments ∧
    ((∃ b, (confirmBooking id w).1 = .ok b ∧
        (confirmBooking id w).2.status id = some .CONFIRMED) ∨
      ∃ e, (confirmBooking id w).1 = .error e) := by
  refine ⟨rfl, ?_⟩
  rcases Bookings.confirmBooking_cases w.bookings w.clock id with
    ⟨e, hr⟩ | ⟨b, hb, -, ⟨-, hr⟩ | ⟨-, hr⟩⟩
  · exact .inr ⟨e, congrArg Prod.fst hr⟩
  · exact .inr ⟨_, congrArg Prod.fst hr⟩
  · refine .inl ⟨_, congrArg Prod.fst hr, ?_⟩
    show ((Bookings.confirmBooking w.bookings w.clock id).2.find id).map Booking.status = _
    rw [hr]
    exact status_setStatus _ hb

/-- A release writes the status of its reason to the row of its booking, or
throws and changes nothing. -/
theorem releaseBooking_effect (id reason : String) (w : World) :
    (releaseBooking id reason w).2.payments = w.payments ∧
    ((∃ e, (releaseBooking id reason w).1 = .error e ∧
        (releaseBooking id reason w).2.bookings = w.bookings) ∨
      ∃ b target, (releaseBooking id reason w).1 = .ok b ∧ targetStatus reason = some target ∧
        (∃ b', w.bookings.find id = some b') ∧
        (releaseBooking id reason w).2.bookings = Bookings.setStatus w.bookings id target) := by
  refine ⟨rfl, ?_⟩
  rcases Bookings.releaseBooking_cases w.bookings id reason with ⟨e, hr⟩ | ⟨b, target, hb, ht, hr⟩
  · exact .inl ⟨e, congrArg Prod.fst hr, congrArg Prod.snd hr⟩
  · exact .inr ⟨_, target, congrArg Prod.fst hr, ht, ⟨b, hb⟩, congrArg Prod.snd hr⟩

/-- A release of a booking that exists. -/
theorem releaseBooking_of_find {b : Booking} {reason : String} {target : BookingStatus}
    (hid : id ≠ "") (ht : targetStatus reason = some target) (hb : w.bookings.find id = some b) :
    releaseBooking id reason w =
      (.ok (b.withStatus target),
        { w with bookings := Bookings.setStatus w.bookings id target }) := by
  simp [releaseBooking, Bookings.Controller.releaseBooking,
    Bookings.releaseBooking_of_find hid ht hb]

theorem noSpace_idempotencyKeyOf (h : NoSpace id) : NoSpace (idempotencyKeyOf id) :=
  NoSpace.append (by decide) h

theorem idempotencyKey_of_noSpace {k : String} (h : NoSpace k) :
    Payments.Controller.idempotencyKey (some (onWire k)) none = some k := by
  rw [onWire_of_noSpace h]
  have ht : trim k ≠ "" := by rw [trim_of_noSpace h]; exact h.1
  simp [Payments.Controller.idempotencyKey, Header.or, h.1, Payments.Controller.isMissing,
    Value.truthy, Value.toText, ht]

/-- A charge for a booking, under the key of the booking: it throws, answers with
a payment of the key, or adds one for the booking. -/
theorem charge_effect (x : StepIn) {q : ChargeRequest} (w : World) (hid : NoSpace q.bookingId)
    (hk : q.idempotencyKey = idempotencyKeyOf q.bookingId) :
    (charge x q w).2.bookings = w.bookings ∧
    ((∃ e, (charge x q w).1 = .error e ∧ (charge x q w).2.payments = w.payments) ∨
      (∃ p ∈ w.payments.rows, p.idempotencyKey = q.idempotencyKey ∧
        (charge x q w).1 = .ok (replayResult p) ∧ (charge x q w).2.payments = w.payments) ∨
      ∃ p, (charge x q w).1 = .ok (createdResult p.status p) ∧ p.bookingId = q.bookingId ∧
        p.idempotencyKey = q.idempotencyKey ∧ p.status ≠ .REFUNDED ∧
        p.userId = trim (Header.or (some (onWire q.userId)) .undefined).toText ∧
        (charge x q w).2.payments.rows = w.payments.rows ++ [p]) := by
  have hkn : NoSpace q.idempotencyKey := hk ▸ noSpace_idempotencyKeyOf hid
  simp only [charge]
  refine ⟨trivial, ?_⟩
  rcases Payments.Controller.processCharge_cases ⟨x.rowId, x.draw, false, false⟩ w.payments
    (some (onWire q.idempotencyKey)) none (some (onWire q.userId))
    ⟨.string q.bookingId, .undefined, q.amount.viaJson, (orINR q.currency).viaJson⟩ with
    ⟨e, he⟩ | ⟨dto, hkey, hb, hu, hc⟩
  · exact .inl ⟨e, by rw [he], by rw [he]⟩
  · rw [idempotencyKey_of_noSpace hkn, Option.some.injEq] at hkey
    have htk : trim dto.idempotencyKey = q.idempotencyKey := by rw [← hkey, trim_of_noSpace hkn]
    have htb : trim dto.bookingId = q.bookingId := by
      rw [hb]; exact trim_of_noSpace hid
    rw [hc]
    rcases Payments.charge_cases ⟨x.rowId, x.draw, false, false⟩ w.payments dto with
      ⟨e, he⟩ | ⟨p, hp, hpk, hr⟩ | ⟨p, payments', hch, hr⟩
    · exact .inl ⟨e, by rw [he], by rw [he]⟩
    · exact .inr (.inl ⟨p, hp, hpk.trans htk, by rw [hr], by rw [hr]⟩)
    · refine .inr (.inr ⟨p, by rw [hr], hch.bookingId.trans htb,
        hch.idempotencyKey.trans htk, ?_, ?_, ?_⟩)
      · rw [hch.status]
        unfold outcomeStatus
        split <;> decide
      · rw [hch.userId, hu]
      · rw [hr]; exact hch.rows

/-- The first charge for a booking that answers adds a payment for it. -/
theorem charge_first {q : ChargeRequest} {c : ChargeResult} (hid : NoSpace q.bookingId)
    (hk : q.idempotencyKey = idempotencyKeyOf q.bookingId)
    (hp : ∀ p ∈ w.payments.rows, ¬ IsFor q.bookingId p) (h : (charge x q w).1 = .ok c) :
    ∃ p, (charge x q w).2.payments.rows = w.payments.rows ++ [p] ∧ p.bookingId = q.bookingId ∧
      p.idempotencyKey = q.idempotencyKey ∧ p.status = c.status := by
  rcases (charge_effect x w hid hk).2 with
    ⟨err, he, -⟩ | ⟨p, hm, hpk, -, -⟩ | ⟨p, hr, hb, hpk, -, -, hrows⟩
  · rw [he] at h; cases h
  · exact absurd (.inr (hpk.trans hk)) (hp p hm)
  · rw [hr] at h
    cases h
    exact ⟨p, hrows, hb, hpk, rfl⟩

/-- A refund throws and changes nothing, or marks one `SUCCEEDED` payment. -/
theorem refund_effect (paymentId : String) (w : World) :
    (refund paymentId w).2.bookings = w.bookings ∧
    ((∃ e, (refund paymentId w).1 = .error e ∧ (refund paymentId w).2.payments = w.payments) ∨
      ∃ p p', findById w.payments (trim paymentId) = some p ∧ p.status = .SUCCEEDED ∧
        (refund paymentId w).1 = .ok p' ∧
        (refund paymentId w).2.payments = Payments.setStatus w.payments p.id .REFUNDED none) := by
  refine ⟨rfl, ?_⟩
  simp only [refund]
  rcases Payments.Controller.processRefund_cases w.payments paymentId with ⟨e, he⟩ | ⟨p, hp, hs, hr⟩
  · exact .inl ⟨e, by rw [he], by rw [he]⟩
  · exact .inr ⟨p, _, hp, hs, by rw [hr], by rw [hr]⟩

/-- A refund of a payment that has succeeded. -/
theorem refund_of_succeeded {p : Payment} (hid : NoSpace id) (hp : findById w.payments id = some p)
    (hs : p.status = .SUCCEEDED) :
    refund id w = (.ok (p.withStatus .REFUNDED none),
      { w with payments := Payments.setStatus w.payments id .REFUNDED none }) := by
  have ht : trim id = id := trim_of_noSpace hid
  have hk : p.id = id := Table.key_of_find hp
  have hu := Payments.updateStatus_of_find .REFUNDED none hp
  simp [refund, Payments.Controller.processRefund, Payments.refund, ht, hid.1, hp, guardRefund, hs,
    hk, hu]

/-- Nobody is charged by a refund. -/
theorem paid_of_refund {paymentId b : String} (h : (refund paymentId w).2.Paid b) : w.Paid b := by
  obtain ⟨q, hq, hfor, hs⟩ := h
  rcases (refund_effect paymentId w).2 with ⟨e, -, hp⟩ | ⟨p, p', -, -, -, hp⟩ <;> rw [hp] at hq
  · exact ⟨q, hq, hfor, hs⟩
  · rcases Payments.mem_setStatus.mp hq with ⟨hq, -⟩ | ⟨r, -, -, rfl⟩
    · exact ⟨q, hq, hfor, hs⟩
    · cases hs

end

end RouteGo.Orchestrator
