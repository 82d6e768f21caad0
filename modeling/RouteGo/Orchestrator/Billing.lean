import RouteGo.Payments.Lifecycle
import RouteGo.Orchestrator.Reply

/-!
# Payments and their bookings

Any number of sagas and cancellations, interleaved, beside clients that do
anything but charge. Every payment is for a booking of the same user, under the
key of the booking, and a booking has one payment at most; no saga is answered
with the payment of another one (`billed`). The user of a payment is a text and that of
a booking an id: they are one value, and one text if it is spelled as the column of the
booking spells it (`exists_user_respelled`).

A saga knows the row of its hold (`holdOutline`), no two sagas know the same one
(`holdsDiffer`), so until a saga charges nobody has charged for its booking
(`billingOutline`).
-/

namespace RouteGo.Orchestrator

open Js Bookings Payments

/-! ## Rows -/

/-- What a request does that does not charge: payments change in their status only. -/
structure NoCharge (w w' : World) : Prop where
  bookings : Writes w.bookings w'.bookings
  payments : ∀ p' ∈ w'.payments.rows, ∃ p ∈ w.payments.rows, Evolves p p'

/-- The payment is for a booking of the same user, under the key of the booking. -/
structure Booked (C : IdColumn) (w : World) (p : Payment) : Prop where
  key : p.idempotencyKey = idempotencyKeyOf p.bookingId
  row : ∃ b ∈ w.bookings.rows, b.id = p.bookingId ∧ C.keep p.userId = some b.userId

def AllBooked (C : IdColumn) (w : World) : Prop := ∀ p ∈ w.payments.rows, Booked C w p

/-- The row of the booking is there, and the user's. -/
def HasRow (C : IdColumn) (w : World) (userId : String) (b : Booking) : Prop :=
  ∃ r ∈ w.bookings.rows, r.id = b.id ∧ C.keep userId = some r.userId

section
variable {env : Env} {w w' : World} {sh sh' : Shared} {i : Nat} {input : ConfirmBookingInput}
  {e : StepIn} {id userId : String} {b : Booking} {C : IdColumn}

theorem NoCharge.refl (w : World) : NoCharge w w := ⟨.none, fun p hp => ⟨p, hp, .refl p⟩⟩

theorem NoCharge.of_payments (hb : Writes w.bookings w'.bookings) (hp : w'.payments = w.payments) :
    NoCharge w w' := ⟨hb, fun p hm => ⟨p, hp ▸ hm, .refl p⟩⟩

/-- The row of a booking stays. -/
theorem HasRow.kept (h : HasRow C w userId b) (hk : RowsKept w.bookings w'.bookings) :
    HasRow C w' userId b := by
  obtain ⟨r, hr, hid, hu⟩ := h
  obtain ⟨r', hr', hkept⟩ := hk r hr
  refine ⟨r', hr', ?_, ?_⟩ <;> rw [hkept.same]
  · exact hid
  · exact hu

theorem Booked.kept {p : Payment} (h : Booked C w p) (hk : RowsKept w.bookings w'.bookings) :
    Booked C w' p := by
  obtain ⟨r, hr, hid, hu⟩ := h.row
  obtain ⟨r', hr', hkept⟩ := hk r hr
  refine ⟨h.key, r', hr', ?_, ?_⟩ <;> rw [hkept.same]
  · exact hid
  · exact hu

theorem AllBooked.noCharge (h : AllBooked C w) (hn : NoCharge w w') : AllBooked C w' := by
  intro p' hp'
  obtain ⟨p, hp, hev⟩ := hn.payments p' hp'
  obtain ⟨hkey, r, hr, hid, hu⟩ := (h p hp).kept hn.bookings.rowsKept
  refine ⟨?_, r, hr, ?_, ?_⟩
  · rw [hev.idempotencyKey, hev.bookingId, hkey]
  · rw [hev.bookingId, hid]
  · rw [hev.userId, hu]

theorem NoCharge.unbilled (hn : NoCharge w w') (h : ∀ p ∈ w.payments.rows, ¬ IsFor id p) :
    ∀ p ∈ w'.payments.rows, ¬ IsFor id p := by
  intro p' hp' hf
  obtain ⟨p, hp, hev⟩ := hn.payments p' hp'
  rw [IsFor, hev.bookingId, hev.idempotencyKey] at hf
  exact h p hp hf

theorem idempotencyKeyOf_inj {a b : String} (h : idempotencyKeyOf a = idempotencyKeyOf b) :
    a = b := by
  have hl := congrArg String.toList h
  simp only [idempotencyKeyOf, String.toList_append] at hl
  exact String.toList_inj.mp (List.append_cancel_left hl)

/-! ## Requests that do not charge -/

theorem noCharge_createHold (e : StepIn) (q : HoldRequest) (w : World) :
    NoCharge w (createHold env e q w).2 := by
  simp only [createHold]
  exact .of_payments (Bookings.Controller.writes_createHold _ _ ⟨w.bookings, w.locks⟩ _ _) rfl

theorem noCharge_confirmBooking (id : String) (w : World) : NoCharge w (confirmBooking id w).2 :=
  .of_payments (Bookings.Controller.writes_confirmBooking _ _ _) rfl

theorem noCharge_releaseBooking (id reason : String) (w : World) :
    NoCharge w (releaseBooking id reason w).2 :=
  .of_payments (Bookings.Controller.writes_releaseBooking _ _ _) rfl

theorem noCharge_refund (id : String) (w : World) : NoCharge w (refund id w).2 := by
  obtain ⟨hb, ⟨err, -, hp⟩ | ⟨p, p', hf, hs, -, hp⟩⟩ := refund_effect id w
  · exact .of_payments (by rw [hb]; exact .none) hp
  · refine ⟨by rw [hb]; exact .none, fun q hq => ?_⟩
    rw [hp] at hq
    rcases Payments.mem_setStatus.mp hq with ⟨hq, -⟩ | ⟨r, hr, hid, rfl⟩
    · exact ⟨q, hq, .refl q⟩
    · obtain rfl : r = p := PaymentTable.eq_of_id hr (Table.mem_of_find hf) hid
      exact ⟨r, hr, ⟨rfl, rfl, rfl, rfl, rfl, rfl, .inr ⟨hs, rfl⟩⟩⟩

theorem NoCharge.remote {α : Type} {serve : World → Result α × World} (o : Outcome)
    (h : NoCharge w (serve w).2) : NoCharge w (remote o serve w).2 := by
  rw [remote_snd]
  split
  · exact .refl w
  · exact h

theorem MayHave.noCharge {served : World} (h : MayHave sh served sh')
    (hn : NoCharge sh.world served) : NoCharge sh.world sh'.world := by
  rcases h with rfl | rfl
  · exact .refl _
  · exact hn

/-- Requests of other clients. -/
theorem noCharge_exec {op : Op}
    (h : ∀ x key xKey xUserId body, op ≠ .processCharge x key xKey xUserId body)
    (w : World) : NoCharge w (w.exec env op) := by
  cases op with
  | wait d => exact .of_payments .none rfl
  | createHold x xUserId body =>
    exact .of_payments (Bookings.Controller.writes_createHold _ _ ⟨w.bookings, w.locks⟩ _ _) rfl
  | confirmBooking id => exact noCharge_confirmBooking id w
  | releaseBooking id reason =>
    exact .of_payments (Bookings.Controller.writes_releaseBooking _ _ _) rfl
  | processCharge x key xKey xUserId body => exact absurd rfl (h x key xKey xUserId body)
  | processRefund id => exact noCharge_refund id w

theorem bookings_charge (x : StepIn) (q : ChargeRequest) (w : World) :
    (charge x q w).2.bookings = w.bookings := by simp only [charge]

/-- Only a charge touches the payments. -/
theorem ConfirmMove.payments {pc pc' : ConfirmPc} (hm : ConfirmMove env sh i input e pc sh' pc')
    (hpc : ∀ b, pc ≠ .charging b) : sh'.world.payments = sh.world.payments := by
  cases hm with
  | reject _ | holdFailed _ => rfl
  | holdThrew _ _ | hold _ _ => exact (createHold_effect env e (holdRequest input) sh.world).1
  | chargeThrew _ _ | charged _ _ | declined _ _ => exact absurd rfl (hpc _)
  | confirmThrew _ h | releaseThrew _ h => rcases h with rfl | rfl <;> rfl
  | confirmed _ | released _ | publishConfirmed _ _ | publishFailedThrew _ | publishFailed _ => rfl
  | @compensate b err =>
    show (remote e.outcome (releaseBooking b.id "PAYMENT_FAILED") sh.world).2.payments = _
    rw [remote_snd]
    split <;> rfl

theorem ConfirmMove.bookings_of_charging {pc' : ConfirmPc}
    (hm : ConfirmMove env sh i input e (.charging b) sh' pc') :
    sh'.world.bookings = sh.world.bookings := by
  rcases hm.charging with h | h <;> rw [h]
  exact bookings_charge e _ _

theorem ConfirmMove.writes {pc pc' : ConfirmPc} (hm : ConfirmMove env sh i input e pc sh' pc') :
    Writes sh.world.bookings sh'.world.bookings := by
  cases hm with
  | reject _ | holdFailed _ => exact .none
  | holdThrew _ _ | hold _ _ => exact (noCharge_createHold e _ _).bookings
  | chargeThrew _ h =>
    rcases h with rfl | rfl
    · exact .none
    · rw [bookings_charge]; exact .none
  | charged _ _ | declined _ _ => rw [bookings_charge]; exact .none
  | confirmThrew _ h => exact (h.noCharge (noCharge_confirmBooking _ _)).bookings
  | confirmed _ => exact (noCharge_confirmBooking _ _).bookings
  | publishConfirmed _ _ | publishFailedThrew _ | publishFailed _ => exact .none
  | releaseThrew _ h => exact (h.noCharge (noCharge_releaseBooking _ _ _)).bookings
  | released _ => exact (noCharge_releaseBooking _ _ _).bookings
  | compensate => exact (NoCharge.remote _ (noCharge_releaseBooking _ _ _)).bookings

theorem ConfirmMove.noCharge {pc pc' : ConfirmPc} (hm : ConfirmMove env sh i input e pc sh' pc')
    (hpc : ∀ b, pc ≠ .charging b) : NoCharge sh.world sh'.world :=
  .of_payments hm.writes (hm.payments hpc)

theorem CancelMove.noCharge {paymentId : Option String} {pc pc' : CancelPc}
    (hm : CancelMove sh i id paymentId e pc sh' pc') : NoCharge sh.world sh'.world := by
  cases hm with
  | enter _ | publish _ => exact .refl _
  | refund => exact .remote _ (noCharge_refund _ _)
  | release _ => exact .remote _ (noCharge_releaseBooking _ _ _)

end

/-! ## Holds -/

/-- The booking of a call. -/
def Call.hold : Call → Option Booking
  | .confirmBooking _ pc => pc.hold
  | .cancelBooking _ _ _ => none

/-- A saga of a user whose id arrives as it was sent; its hold has a row. -/
def HoldAssertion (C : IdColumn) (w : World) : Call → Prop
  | .confirmBooking input pc => trim input.userId = input.userId ∧
      ∀ b, pc.hold = some b → input.userId ≠ "" ∧ NoSpace b.id ∧ HasRow C w input.userId b
  | .cancelBooking _ _ _ => True

/-- The row is of the seat the input asks for, as its columns spell the ids. -/
structure OfSeat (C : IdColumn) (input : ConfirmBookingInput) (b : Booking) : Prop where
  tripId : ∃ t, input.tripId.viaJson = .string t ∧ C.keep t = some b.tripId
  seatId : ∃ t, input.seatId.viaJson = .string t ∧ C.keep t = some b.seatId

/-- Two sagas with different bookings. -/
def HoldsDiffer (p q : Call) : Prop := ∀ b c, p.hold = some b → q.hold = some c → b.id ≠ c.id

section
variable {env : Env} {w w' : World} {sh sh' : Shared} {i : Nat} {input : ConfirmBookingInput}
  {e : StepIn} {b : Booking} {p p' : Call} {C : IdColumn}

/-- A hold that answered has added the row it answered with. -/
theorem createHold_granted {q : HoldRequest} (h : (createHold env e q w).1 = .ok b) :
    ∃ a, Bookings.Controller.Passes (some (onWire q.userId)) ⟨q.tripId.viaJson, q.seatId.viaJson,
        .string q.userId, q.fromStopSeq.viaJson, q.toStopSeq.viaJson⟩ a ∧ b.id = e.rowId ∧
      Granted env (w.clock + e.delays.acquire + e.delays.query)
        (w.clock + e.delays.acquire + e.delays.query + e.delays.stamp) w.bookings a b
        (createHold env e q w).2.bookings := by
  simp only [createHold] at h ⊢
  rcases Bookings.Controller.createHold_cases env
      (holdInputs w.clock e.rowId e.lockValue e.delays e.faults) ⟨w.bookings, w.locks⟩
      (some (onWire q.userId)) ⟨q.tripId.viaJson, q.seatId.viaJson, .string q.userId,
        q.fromStopSeq.viaJson, q.toStopSeq.viaJson⟩ with ⟨err, he, -⟩ | ⟨a, b', hp, hb, hid, hg⟩
  · rw [he] at h
    cases h
  · rw [hb] at h
    obtain rfl : b' = b := Except.ok.inj h
    exact ⟨a, hp, hid, hg⟩

theorem ofSeat_createHold (h : (createHold env e (holdRequest input) w).1 = .ok b) :
    OfSeat env.ids input b := by
  obtain ⟨a, hp, -, hg⟩ := createHold_granted h
  exact ⟨⟨_, hp.tripId, hg.tripId⟩, ⟨_, hp.seatId, hg.seatId⟩⟩

theorem OfSeat.kept {r r' : Booking} (h : OfSeat C input r) (hk : Kept r r') :
    OfSeat C input r' := by
  rw [hk.same]
  exact ⟨h.tripId, h.seatId⟩

/-- Two rows for one input are of one seat. -/
theorem OfSeat.sameSeat {r r' : Booking} (h : OfSeat C input r) (h' : OfSeat C input r') :
    r.SameSeat r' := by
  obtain ⟨t, ht, htrip⟩ := h.tripId
  obtain ⟨t', ht', htrip'⟩ := h'.tripId
  obtain ⟨u, hu, hseat⟩ := h.seatId
  obtain ⟨u', hu', hseat'⟩ := h'.seatId
  obtain rfl := Value.string.inj (ht.symm.trans ht')
  obtain rfl := Value.string.inj (hu.symm.trans hu')
  exact ⟨Option.some.inj (htrip.symm.trans htrip'), Option.some.inj (hseat.symm.trans hseat')⟩

/-- The row is the user's. -/
theorem createHold_hasRow {q : HoldRequest} (hu : trim q.userId = q.userId)
    (h : (createHold env e q w).1 = .ok b) :
    q.userId ≠ "" ∧ HasRow env.ids (createHold env e q w).2 q.userId b := by
  obtain ⟨a, hp, -, hg⟩ := createHold_granted h
  have hor : Header.or (some (onWire q.userId)) (.string q.userId) = .string q.userId := by
    rw [onWire_of_trim hu, Header.or]
    split <;> rfl
  refine ⟨?_, b, (Table.mem_of_insert hg.insert).mpr (.inr rfl), rfl, ?_⟩
  · have hgiven := hp.given
    rw [hor] at hgiven
    simpa [Value.truthy] using hgiven
  · have hu' := hg.userId
    rwa [hp.userId, hor] at hu'

/-- The first step of a saga has added the row of `b`. -/
structure Started (env : Env) (sh : Shared) (input : ConfirmBookingInput) (e : StepIn) (b : Booking)
    (sh' : Shared) (pc' : ConfirmPc) : Prop where
  fresh : sh.world.Fresh e.rowId
  held : (createHold env e (holdRequest input) sh.world).1 = .ok b
  world : sh'.world = (createHold env e (holdRequest input) sh.world).2
  reply : (∃ err, pc' = .done (some b) (.error err) ∧ e.outcome = .lost) ∨
    (pc' = .charging b ∧ e.outcome = .replied)

/-- A hold whose reply was lost has ended the call. -/
theorem confirmStep_start {pc' : ConfirmPc}
    (h : confirmStep env sh i input e .start = some (sh', pc')) :
    (∃ res, pc' = .done none res) ∨ ∃ b, Started env sh input e b sh' pc' := by
  simp only [confirmStep] at h
  split at h
  · cases h; exact .inl ⟨_, rfl⟩
  · split at h
    · next hf =>
      rcases Orchestrator.remote_cases e.outcome (createHold env e (holdRequest input))
        sh.world with
        ⟨err, hr, ho⟩ | ⟨err, hr, ho⟩ | ⟨b, hr, hb, ho⟩ <;>
        simp only [Shared.remote, hr, Option.some.injEq, Prod.mk.injEq] at h <;>
        obtain ⟨rfl, rfl⟩ := h
      · rw [ho]; exact .inl ⟨_, rfl⟩
      · cases hs : (createHold env e (holdRequest input) sh.world).1 with
        | error err' => cases e.outcome <;> exact .inl ⟨_, rfl⟩
        | ok b =>
          refine .inr ⟨b, hf, hs, rfl, .inl ⟨err, ?_⟩⟩
          cases hx : e.outcome with
          | failed => exact absurd hx ho
          | lost => exact ⟨rfl, rfl⟩
          | replied => simp [hx, remote, hs] at hr
      · exact .inr ⟨b, hf, hb, rfl, .inr ⟨rfl, ho⟩⟩
    · cases h

/-- Only the first step of a saga changes which booking it has. -/
theorem ConfirmMove.hold_cases {pc pc' : ConfirmPc} (hm : ConfirmMove env sh i input e pc sh' pc') :
    pc'.hold = pc.hold ∨ ∃ b, pc'.hold = some b ∧ sh.world.Fresh e.rowId ∧
      (createHold env e (holdRequest input) sh.world).1 = .ok b ∧
      sh'.world = (createHold env e (holdRequest input) sh.world).2 := by
  cases hm with
  | @holdThrew err o hf ho =>
    cases hr : (createHold env e (holdRequest input) sh.world).1 with
    | error err' =>
      rw [hr] at ho
      exact .inl ho.symm
    | ok b =>
      rw [hr] at ho
      exact .inr ⟨b, ho.symm, hf, rfl, rfl⟩
  | hold hf h => exact .inr ⟨_, rfl, hf, h, rfl⟩
  | _ => exact .inl rfl

theorem writes_exec (op : Op) (w : World) : Writes w.bookings (w.exec env op).bookings := by
  by_cases hop : ∃ x key xKey xUserId body, op = .processCharge x key xKey xUserId body
  · obtain ⟨x, key, xKey, xUserId, body, rfl⟩ := hop
    exact .none
  · exact (noCharge_exec (fun x key xKey xUserId body h =>
      hop ⟨x, key, xKey, xUserId, body, h⟩) w).bookings

theorem HoldAssertion.kept (h : HoldAssertion C w p) (hk : RowsKept w.bookings w'.bookings) :
    HoldAssertion C w' p := by
  cases p with
  | confirmBooking input pc =>
    refine ⟨h.1, fun b hb => ?_⟩
    obtain ⟨hu, hn, hr⟩ := h.2 b hb
    exact ⟨hu, hn, hr.kept hk⟩
  | cancelBooking id paymentId pc => trivial

theorem act_writes (ha : (orchestrator env).act sh i p e = some (sh', p')) :
    Writes sh.world.bookings sh'.world.bookings := by
  cases p with
  | confirmBooking input pc => obtain ⟨pc', rfl, hm⟩ := act_confirmBooking ha; exact hm.writes
  | cancelBooking id paymentId pc =>
    obtain ⟨pc', rfl, hm⟩ := act_cancelBooking ha
    exact hm.noCharge.bookings

/-- The hold of a saga is the one it had, or one whose id no row had. -/
theorem act_hold_cases (ha : (orchestrator env).act sh i p e = some (sh', p')) :
    p'.hold = p.hold ∨ ∃ b, p'.hold = some b ∧ sh.world.bookings.find b.id = none := by
  cases p with
  | cancelBooking id paymentId pc =>
    obtain ⟨pc', rfl, -⟩ := act_cancelBooking ha
    exact .inl rfl
  | confirmBooking input pc =>
    obtain ⟨pc', rfl, hm⟩ := act_confirmBooking ha
    rcases hm.hold_cases with h | ⟨b, hb, hf, hr, -⟩
    · exact .inl h
    · obtain ⟨a, -, hid, -⟩ := createHold_granted hr
      exact .inr ⟨b, hb, by rw [hid]; exact hf.2.1⟩

theorem ConfirmMove.holdAssertion {pc pc' : ConfirmPc}
    (hm : ConfirmMove env sh i input e pc sh' pc')
    (h : HoldAssertion env.ids sh.world (.confirmBooking input pc)) :
    HoldAssertion env.ids sh'.world (.confirmBooking input pc') := by
  refine ⟨h.1, fun b hb => ?_⟩
  rcases hm.hold_cases with hold | ⟨c, hc, hf, hr, hw⟩
  · rw [hold] at hb
    exact (h.kept hm.writes.rowsKept).2 b hb
  · obtain rfl : c = b := Option.some.inj (hc.symm.trans hb)
    obtain ⟨hu, hrow⟩ := createHold_hasRow (q := holdRequest input) h.1 hr
    rw [hw]
    exact ⟨hu, (createHold_fresh hf hr).1, hrow⟩

end

theorem holdOutline (env : Env) (ok : Pool Shared Call → Pool.Event StepIn Op → Prop) :
    Pool.Outline (orchestrator env) ok (fun _ => True)
      fun sh _ p => HoldAssertion env.ids sh.world p where
  env s op sh h _ he := by
    cases he
    refine ⟨trivial, fun i p hp => (h.2 i p hp).kept ?_⟩
    exact (writes_exec op s.shared.world).rowsKept
  own s i p e sh p' h _ hp ha := by
    refine ⟨trivial, ?_⟩
    cases p with
    | confirmBooking input pc =>
      obtain ⟨pc', rfl, hm⟩ := act_confirmBooking ha
      exact hm.holdAssertion (h.2 i _ hp)
    | cancelBooking id paymentId pc => obtain ⟨pc', rfl, -⟩ := act_cancelBooking ha; trivial
  other s i p e sh p' j q h _ hp ha _ hq := (h.2 j q hq).kept (act_writes ha).rowsKept

/-! ## Payments -/

/-- Nobody has charged for the booking a saga is about to charge for. -/
def Uncharged (w : World) : Call → Prop
  | .confirmBooking _ (.charging b) => ∀ p ∈ w.payments.rows, ¬ IsFor b.id p
  | _ => True

/-- The user a charge of `userId` is booked to. -/
def chargedUser (userId : String) : String :=
  trim (Header.or (some (onWire userId)) .undefined).toText

/-- What a charge for `b` adds. -/
structure Adds (w w' : World) (userId : String) (b : Booking) : Prop where
  bookings : w'.bookings = w.bookings
  payments : w'.payments = w.payments ∨ ∃ p, w'.payments.rows = w.payments.rows ++ [p] ∧
    p.bookingId = b.id ∧ p.idempotencyKey = idempotencyKeyOf b.id ∧ p.userId = chargedUser userId

section
variable {env : Env} {w w' : World} {sh sh' : Shared} {i : Nat} {input : ConfirmBookingInput}
  {e : StepIn} {userId : String} {b : Booking} {p p' q : Call} {C : IdColumn}

theorem Uncharged.noCharge (h : Uncharged w p) (hn : NoCharge w w') : Uncharged w' p := by
  cases p with
  | confirmBooking input pc =>
    cases pc with
    | charging b => exact hn.unbilled h
    | _ => trivial
  | cancelBooking id paymentId pc => trivial

theorem chargedUser_of_trim (h : trim userId = userId) (hne : userId ≠ "") :
    chargedUser userId = userId := by
  rw [chargedUser, onWire_of_trim h, Header.or, if_neg hne]
  exact h

theorem Adds.refl (w : World) (userId : String) (b : Booking) : Adds w w userId b := ⟨rfl, .inl rfl⟩

theorem adds_charge (hid : NoSpace b.id) :
    Adds w (charge e (chargeRequest input b.id) w).2 input.userId b := by
  obtain ⟨hb, ⟨err, -, hp⟩ | ⟨p, -, -, -, hp⟩ | ⟨p, -, hbk, hk, -, hus, hp⟩⟩ :=
    charge_effect e (q := chargeRequest input b.id) w hid rfl
  · exact ⟨hb, .inl hp⟩
  · exact ⟨hb, .inl hp⟩
  · exact ⟨hb, .inr ⟨p, hp, hbk, hk, hus⟩⟩

theorem ConfirmMove.adds {pc' : ConfirmPc}
    (hm : ConfirmMove env sh i input e (.charging b) sh' pc') (hid : NoSpace b.id) :
    Adds sh.world sh'.world input.userId b := by
  rcases hm.charging with h | h <;> rw [h]
  · exact .refl _ _ b
  · exact adds_charge hid

/-- A charge for a booking of the user. -/
theorem AllBooked.adds (h : AllBooked C w) (ha : Adds w w' userId b)
    (hr : HasRow C w (chargedUser userId) b) : AllBooked C w' := by
  have hk : Writes w.bookings w'.bookings := by rw [ha.bookings]; exact .none
  rcases ha.payments with hp | ⟨p, hp, hid, hkey, hu⟩
  · exact h.noCharge (.of_payments hk hp)
  · intro q hq
    rw [hp, List.mem_append, List.mem_singleton] at hq
    rcases hq with hq | rfl
    · exact (h q hq).kept hk.rowsKept
    · obtain ⟨r, hr, hrid, hru⟩ := hr.kept hk.rowsKept
      exact ⟨by rw [hkey, hid], r, hr, hrid.trans hid.symm, hu ▸ hru⟩

/-- A charge for another booking. -/
theorem Uncharged.adds (h : Uncharged w q) (ha : Adds w w' userId b)
    (hd : ∀ c, q.hold = some c → b.id ≠ c.id) : Uncharged w' q := by
  cases q with
  | cancelBooking id paymentId pc => trivial
  | confirmBooking input pc =>
    cases pc with
    | charging c =>
      intro p hp hf
      rcases ha.payments with heq | ⟨p', heq, hid, hkey, -⟩
      · rw [heq] at hp; exact h p hp hf
      · rw [heq, List.mem_append, List.mem_singleton] at hp
        rcases hp with hp | rfl
        · exact h p hp hf
        · rcases hf with hf | hf
          · exact hd c rfl (hid.symm.trans hf)
          · exact hd c rfl (idempotencyKeyOf_inj (hkey.symm.trans hf))
    | _ => trivial

/-- What the saga learns when it gets its hold. -/
theorem ConfirmMove.uncharged {pc pc' : ConfirmPc} (hm : ConfirmMove env sh i input e pc sh' pc') :
    Uncharged sh'.world (.confirmBooking input pc') := by
  cases hm with
  | hold hf h => exact (createHold_fresh hf h).2
  | _ => trivial

end

/-- No other client charges. -/
def OnlySagasCharge (_ : Pool Shared Call) (ev : Pool.Event StepIn Op) : Prop :=
  ∀ x key xKey xUserId body, ev ≠ .env (.processCharge x key xKey xUserId body)

/-- The sagas know their bookings, each another one. -/
structure HoldsKnown (C : IdColumn) (s : Pool Shared Call) : Prop where
  known : ∀ (i : Nat) p, s.procs[i]? = some p → HoldAssertion C s.shared.world p
  apart : Pool.Apart HoldsDiffer s

theorem billingOutline (env : Env) :
    Pool.Outline (orchestrator env) (fun s ev => OnlySagasCharge s ev ∧ HoldsKnown env.ids s)
      (fun sh => AllBooked env.ids sh.world) (fun sh _ p => Uncharged sh.world p) where
  env s op sh h ho he := by
    cases he
    have hn : NoCharge s.shared.world (s.shared.world.exec env op) :=
      noCharge_exec (fun x key xKey xUserId body hop =>
        ho.1 x key xKey xUserId body (by rw [hop])) _
    exact ⟨h.1.noCharge hn, fun i p hp => (h.2 i p hp).noCharge hn⟩
  own s i p e sh p' h ho hp ha := by
    cases p with
    | cancelBooking id paymentId pc =>
      obtain ⟨pc', rfl, hm⟩ := act_cancelBooking ha
      exact ⟨h.1.noCharge hm.noCharge, trivial⟩
    | confirmBooking input pc =>
      obtain ⟨pc', rfl, hm⟩ := act_confirmBooking ha
      refine ⟨?_, hm.uncharged⟩
      rcases pc.charging_or with ⟨b, rfl⟩ | hpc
      · obtain ⟨hu, hhold⟩ := ho.2.known i _ hp
        obtain ⟨hne, hid, hr⟩ := hhold b rfl
        exact h.1.adds (hm.adds hid) (by rw [chargedUser_of_trim hu hne]; exact hr)
      · exact h.1.noCharge (hm.noCharge hpc)
  other s i p e sh p' j q h ho hp ha hji hq := by
    cases p with
    | cancelBooking id paymentId pc =>
      obtain ⟨pc', rfl, hm⟩ := act_cancelBooking ha
      exact (h.2 j q hq).noCharge hm.noCharge
    | confirmBooking input pc =>
      obtain ⟨pc', rfl, hm⟩ := act_confirmBooking ha
      rcases pc.charging_or with ⟨b, rfl⟩ | hpc
      · obtain ⟨-, hid, -⟩ := (ho.2.known i _ hp).2 b rfl
        refine (h.2 j q hq).adds (hm.adds hid) fun c hc => ?_
        exact ho.2.apart i j _ q hji.symm hp hq b c rfl hc
      · exact (h.2 j q hq).noCharge (hm.noCharge hpc)

/-! ## Runs -/

/-- Any calls yet to begin, and no payments. -/
structure BeforeBilling (s : Pool Shared Call) : Prop where
  payments : s.shared.world.payments.rows = []
  calls : ∀ (i : Nat) p, s.procs[i]? = some p → (∃ input, p = .confirmBooking input .start ∧
    trim input.userId = input.userId) ∨ ∃ id paymentId, p = .cancelBooking id paymentId .start

def billingRuns (env : Env) : LTS (Pool Shared Call) (Pool.Event StepIn Op) :=
  Pool.system (orchestrator env) BeforeBilling

section
variable {env : Env} {s : Pool Shared Call}

theorem BeforeBilling.hold (h : BeforeBilling s) {i : Nat} {p : Call} (hp : s.procs[i]? = some p) :
    p.hold = none := by
  rcases h.calls i p hp with ⟨input, rfl, -⟩ | ⟨id, paymentId, rfl⟩ <;> rfl

theorem holdsKnown_reach (h : (billingRuns env).Reach OnlySagasCharge s) :
    HoldsKnown env.ids s := by
  have hknown : ∀ s, (billingRuns env).Reach OnlySagasCharge s →
      ∀ (i : Nat) p, s.procs[i]? = some p → HoldAssertion env.ids s.shared.world p := by
    intro s hs
    refine (Pool.invariant (holdOutline env OnlySagasCharge) (fun s hi =>
      ⟨trivial, fun i p hp => ?_⟩) hs).2
    rcases hi.calls i p hp with ⟨input, rfl, hu⟩ | ⟨id, paymentId, rfl⟩
    · exact ⟨hu, fun b hb => nomatch hb⟩
    · trivial
  refine ⟨hknown s h, ?_⟩
  refine Pool.apart (R := HoldsDiffer) (fun p q hd b c hb hc => (hd c b hc hb).symm)
    (fun s hi i j p q _ hp _ b c hb _ =>
      ?_) (fun s i p e sh p' j q hs _ hp ha hji hq hd b c hb hc => ?_) h
  · rw [hi.hold hp] at hb
    cases hb
  · rcases act_hold_cases ha with hold | ⟨b', hb', hf⟩
    · exact hd b c (hold ▸ hb) hc
    · obtain rfl : b' = b := Option.some.inj (hb'.symm.trans hb)
      intro hbc
      cases q with
      | cancelBooking id paymentId pc => cases hc
      | confirmBooking input pc =>
        obtain ⟨-, -, r, hr, hrid, -⟩ := (hknown s hs j _ hq).2 c hc
        exact Table.find_eq_none.mp hf r hr (hrid.trans hbc.symm)

theorem billing_reach (h : (billingRuns env).Reach OnlySagasCharge s) :
    Pool.Holds (fun sh => AllBooked env.ids sh.world) (fun sh _ p => Uncharged sh.world p) s := by
  refine Pool.invariant (billingOutline env) (fun s hi => ⟨fun p hp => ?_, fun i p hp => ?_⟩)
    (h.strengthen fun _ hs => holdsKnown_reach hs)
  · rw [hi.payments] at hp
    cases hp
  · rcases hi.calls i p hp with ⟨input, rfl, -⟩ | ⟨id, paymentId, rfl⟩ <;> trivial

end

/-- The payments, the bookings they are for, and what a saga that charges is told. The user
of a payment is that of its booking, as an id and, spelled as the column `C` spells it, as
a text. -/
structure Billed (C : IdColumn) (s : Pool Shared Call) : Prop where
  key : ∀ p ∈ s.shared.world.payments.rows, p.idempotencyKey = "booking-" ++ p.bookingId
  booking : ∀ p ∈ s.shared.world.payments.rows,
    ∃ b, s.shared.world.bookings.find p.bookingId = some b ∧ C.keep p.userId = some b.userId ∧
      (C.Spelled p.userId → b.userId = p.userId)
  once : ∀ p ∈ s.shared.world.payments.rows, ∀ q ∈ s.shared.world.payments.rows,
    p.bookingId = q.bookingId → p = q
  noReplay : ∀ (i : Nat) input b e c, s.procs[i]? = some (.confirmBooking input (.charging b)) →
    (charge e (chargeRequest input b.id) s.shared.world).1 = .ok c →
    c.isIdempotentReplay = false ∧ c.payment.bookingId = b.id

/-- **One payment a booking, and no replays**, under every schedule. -/
theorem billed {env : Env} {s : Pool Shared Call}
    (h : (billingRuns env).Reach OnlySagasCharge s) : Billed env.ids s := by
  obtain ⟨hG, hP⟩ := billing_reach h
  refine ⟨fun p hp => (hG p hp).key, fun p hp => ?_, fun p hp q hq hpq => ?_, ?_⟩
  · obtain ⟨b, hb, hid, hu⟩ := (hG p hp).row
    refine ⟨b, ?_, hu, fun hs => hs.eq hu⟩
    rw [← hid]
    exact Table.find_key hb
  · refine PaymentTable.eq_of_key hp hq ?_
    rw [(hG p hp).key, (hG q hq).key, hpq]
  · intro i input b e c hp hc
    obtain ⟨-, hid, -⟩ := ((holdsKnown_reach h).known i _ hp).2 b rfl
    have hnone : ∀ p ∈ s.shared.world.payments.rows, ¬ IsFor b.id p := hP i _ hp
    rcases (charge_effect e (q := chargeRequest input b.id) s.shared.world hid rfl).2 with
      ⟨err, he, -⟩ | ⟨p, hpm, hk, -, -⟩ | ⟨p, hr, hbk, -⟩
    · rw [he] at hc; cases hc
    · exact absurd (.inr hk) (hnone p hpm)
    · rw [hr] at hc
      cases hc
      exact ⟨rfl, hbk⟩

/-- Two sagas on one seat, for segments that follow each other. -/
def annAndBob : Pool Shared Call :=
  ⟨⟨emptyWorld, []⟩, [.confirmBooking annsInput .start,
    .confirmBooking { annsInput with
      userId := "bob", fromStopSeq := .ofInt 3, toStopSeq := .ofInt 5 } .start]⟩

theorem annAndBob_init : BeforeBilling annAndBob := by
  refine ⟨rfl, fun i p hp => ?_⟩
  match i with
  | 0 => exact .inl ⟨_, (Option.some.inj hp).symm, by decide⟩
  | 1 => exact .inl ⟨_, (Option.some.inj hp).symm, by decide⟩
  | i + 2 => cases hp

def annAndBobAfter (es : List (Pool.Event StepIn Op)) : Pool Shared Call :=
  (LTS.execAll (Pool.step (orchestrator defaultEnv)) annAndBob es).getD annAndBob

/-- The reply to one of the two charges is lost. -/
theorem billed_annAndBob : Billed .texts (annAndBobAfter [.proc 0 { rowId := "b1" },
    .proc 1 { rowId := "b2" }, .proc 0 { rowId := "p1", outcome := .lost },
    .env (.wait 1000), .proc 1 { rowId := "p2" }]) := by
  have h : (billingRuns defaultEnv).Reach OnlySagasCharge
    (annAndBobAfter [.proc 0 { rowId := "b1" },
      .proc 1 { rowId := "b2" }, .proc 0 { rowId := "p1", outcome := .lost },
      .env (.wait 1000), .proc 1 { rowId := "p2" }]) :=
    LTS.reach_of_execAll [.proc 0 { rowId := "b1" }, .proc 1 { rowId := "b2" },
      .proc 0 { rowId := "p1", outcome := .lost }, .env (.wait 1000), .proc 1 { rowId := "p2" }]
      annAndBob_init
        ⟨by simp [OnlySagasCharge], by simp [OnlySagasCharge], by simp [OnlySagasCharge],
        by simp [OnlySagasCharge], by simp [OnlySagasCharge], trivial⟩ rfl
  exact billed h

/-- The payments are for bookings of the same user, as texts. -/
def SameUser (w : World) : Prop :=
  ∀ p ∈ w.payments.rows, ∃ b ∈ w.bookings.find p.bookingId, b.userId = p.userId

instance (w : World) : Decidable (SameUser w) :=
  inferInstanceAs (Decidable (∀ p ∈ w.payments.rows, _))

/-- A saga whose user id is in capitals. -/
def shoutedUser : Pool Shared Call :=
  ⟨⟨emptyWorld, []⟩, [.confirmBooking { annsInput with
    tripId := .string "6f1c0a52-9b3e-4d7f-8a21-0c5d6e7f8a9b"
    seatId := .string "0d9b7e41-5c2a-4f60-9e13-7a8b6c5d4e3f"
    userId := "A1B2C3D4-5E6F-4A0B-8C1D-2E3F4A5B6C7D" } .start]⟩

/-- **Another spelling of the user**: the booking has the id in small letters, the payment
the text of the request. -/
theorem exists_user_respelled : ∃ s, (billingRuns ⟨5, 5000, .uuid⟩).Reach OnlySagasCharge s ∧
    ¬ SameUser s.shared.world := by
  have hinit : BeforeBilling shoutedUser := by
    refine ⟨rfl, fun i p hp => ?_⟩
    match i with
    | 0 => exact .inl ⟨_, (Option.some.inj hp).symm, by decide +kernel⟩
    | i + 1 => cases hp
  refine ⟨_, LTS.reach_of_execAll [.proc 0 { rowId := "b1" }, .proc 0 { rowId := "p1" }] hinit
    ⟨by simp [OnlySagasCharge], by simp [OnlySagasCharge], trivial⟩
    (LTS.execAll_getD (by decide +kernel)), by decide +kernel⟩

end RouteGo.Orchestrator
