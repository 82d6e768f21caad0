import RouteGo.Orchestrator.Compensation
import RouteGo.Orchestrator.Kafka

/-!
# What a call knows

Any sagas and cancellations, interleaved, beside clients that do anything. `Onward` is
what every step does to the stores, and what a call has learnt from the answers it got
(`Call.Known`) stays true along it. No two sagas have the same booking
(`holdsApart_reach`).
-/

namespace RouteGo.Orchestrator

open Js Bookings Payments

/-! ## The stores -/

/-- What any request does to the stores. -/
structure Onward (w w' : World) : Prop where
  bookings : Writes w.bookings w'.bookings
  payments : Grows w.payments w'.payments

/-- The payment is there, under the key of the booking, and has succeeded. -/
def World.PaidBy (w : World) (bookingId paymentId : String) : Prop :=
  ∃ p ∈ w.payments.rows, p.id = paymentId ∧ p.idempotencyKey = idempotencyKeyOf bookingId ∧
    p.status = .SUCCEEDED

/-- The payment was taken under the key of the booking. -/
def World.Took (w : World) (bookingId paymentId : String) : Prop :=
  ∃ p ∈ w.payments.rows, p.id = paymentId ∧ p.idempotencyKey = idempotencyKeyOf bookingId ∧
    p.status ≠ .FAILED

section
variable {env : Env} {w w' : World} {sh sh' : Shared} {i : Nat} {input : ConfirmBookingInput}
  {e : StepIn} {id paymentId : String} {b : Booking} {p p' : Call} {pc pc' : ConfirmPc}

theorem Onward.refl (w : World) : Onward w w := ⟨.none, .refl _⟩

theorem exists_row_kept (hk : RowsKept w.bookings w'.bookings) {r : Booking}
    (h : w.bookings.find id = some r) : ∃ r', w'.bookings.find id = some r' ∧ Kept r r' := by
  obtain ⟨r', hr', hkept⟩ := hk r (Table.mem_of_find h)
  have hid : r'.id = id := by
    rw [hkept.same]
    exact Table.key_of_find h
  refine ⟨r', ?_, hkept⟩
  rw [← hid]
  exact Table.find_key hr'

theorem World.PaidBy.took (h : w.PaidBy id paymentId) : w.Took id paymentId := by
  obtain ⟨p, hp, hid, hk, hs⟩ := h
  exact ⟨p, hp, hid, hk, by rw [hs]; decide⟩

theorem World.Took.onward (h : w.Took id paymentId) (ho : Onward w w') : w'.Took id paymentId := by
  obtain ⟨p, hp, hid, hk, hs⟩ := h
  obtain ⟨p', hp', hev⟩ := ho.payments p hp
  refine ⟨p', hp', hev.id.trans hid, hev.idempotencyKey.trans hk, ?_⟩
  rcases hev.status with heq | ⟨-, heq⟩ <;> rw [heq]
  · exact hs
  · decide

/-! ### Payments -/

theorem grows_processCharge (x : ChargeInputs) (payments : PaymentTable) (key xKey xUserId : Header)
    (body : Payments.Controller.ChargeBody) :
    Grows payments (Payments.Controller.processCharge x payments key xKey xUserId body).2 := by
  rcases Payments.Controller.processCharge_cases x payments key xKey xUserId body with
    ⟨err, he⟩ | ⟨dto, -, -, -, hc⟩
  · rw [he]; exact .refl _
  · rw [hc]
    rcases charge_cases x payments dto with ⟨err, he⟩ | ⟨p, -, -, hr⟩ | ⟨p, payments', hch, hr⟩
    · rw [he]; exact .refl _
    · rw [hr]; exact .refl _
    · rw [hr]; exact .of_append hch.rows

theorem grows_refund (id : String) (w : World) : Grows w.payments (refund id w).2.payments := by
  rcases (refund_effect id w).2 with ⟨err, -, hp⟩ | ⟨p, p', hf, hs, -, hp⟩ <;> rw [hp]
  · exact .refl _
  · refine .refund fun q hq hid => ?_
    obtain rfl := PaymentTable.eq_of_id hq (Table.mem_of_find hf) hid
    rw [hs]
    decide

theorem onward_remote {α : Type} {serve : World → Result α × World} (o : Outcome)
    (h : Onward w (serve w).2) : Onward w (remote o serve w).2 := by
  rw [remote_snd]
  split
  · exact .refl w
  · exact h

theorem onward_refund (id : String) (w : World) : Onward w (refund id w).2 :=
  ⟨(noCharge_refund id w).bookings, grows_refund id w⟩

theorem onward_releaseBooking (id reason : String) (w : World) :
    Onward w (releaseBooking id reason w).2 :=
  ⟨(noCharge_releaseBooking id reason w).bookings, by
    rw [(releaseBooking_effect id reason w).1]; exact .refl _⟩

theorem onward_exec (op : Op) (w : World) : Onward w (w.exec env op) := by
  refine ⟨writes_exec op w, ?_⟩
  cases op with
  | processCharge x key xKey xUserId body => exact grows_processCharge x _ key xKey xUserId body
  | processRefund id => exact grows_refund id w
  | _ => exact .refl _

theorem ConfirmMove.onward (hm : ConfirmMove env sh i input e pc sh' pc') :
    Onward sh.world sh'.world := by
  refine ⟨hm.writes, ?_⟩
  rcases pc.charging_or with ⟨b, rfl⟩ | hpc
  · rcases hm.charging with h | h <;> rw [h]
    · exact .refl _
    · exact grows_processCharge _ _ _ _ _ _
  · rw [hm.payments hpc]
    exact .refl _

theorem CancelMove.onward {paymentId : Option String} {pc pc' : CancelPc}
    (hm : CancelMove sh i id paymentId e pc sh' pc') : Onward sh.world sh'.world := by
  cases hm with
  | enter _ | publish _ => exact .refl _
  | refund => exact onward_remote _ (onward_refund _ _)
  | release _ => exact onward_remote _ (onward_releaseBooking _ _ _)

theorem act_onward (ha : (orchestrator env).act sh i p e = some (sh', p')) :
    Onward sh.world sh'.world := by
  cases p with
  | confirmBooking input pc => obtain ⟨pc', rfl, hm⟩ := act_confirmBooking ha; exact hm.onward
  | cancelBooking id paymentId pc => obtain ⟨pc', rfl, hm⟩ := act_cancelBooking ha; exact hm.onward

/-! ## What a call knows -/

def ConfirmPc.Known (w : World) : ConfirmPc → Prop
  | .confirming b c => w.Took b.id c.paymentId
  | _ => True

def CancelPc.Known (bookingId : String) : CancelPc → Prop
  | .start | .done _ => True
  | .refunding _ | .releasing | .publishing => bookingId ≠ ""

/-- What a call has learnt from the answers it got. -/
def Call.Known (w : World) : Call → Prop
  | .confirmBooking _ pc => pc.Known w ∧
      ∀ b, pc.hold = some b → NoSpace b.id ∧ ∃ r, w.bookings.find b.id = some r
  | .cancelBooking id _ pc => pc.Known id

theorem ConfirmPc.Known.onward (h : pc.Known w) (ho : Onward w w') : pc.Known w' := by
  cases pc with
  | confirming b c => exact World.Took.onward h ho
  | _ => trivial

theorem Call.Known.onward (h : p.Known w) (ho : Onward w w') : p.Known w' := by
  cases p with
  | confirmBooking input pc =>
    refine ⟨h.1.onward ho, fun b hb => ?_⟩
    obtain ⟨hn, r, hr⟩ := h.2 b hb
    obtain ⟨r', hr', -⟩ := exists_row_kept ho.bookings.rowsKept hr
    exact ⟨hn, r', hr'⟩
  | cancelBooking id paymentId pc => exact h

/-- A charge that succeeded answers with a payment that is there. -/
theorem paid_charge {c : ChargeResult} (hid : NoSpace b.id)
    (h : (charge e (chargeRequest input b.id) w).1 = .ok c) (hs : c.status = .SUCCEEDED) :
    (charge e (chargeRequest input b.id) w).2.PaidBy b.id c.paymentId := by
  obtain ⟨-, ⟨err, he, -⟩ | ⟨p, hp, hk, hr, hpay⟩ | ⟨p, hr, -, hk, -, -, hpay⟩⟩ :=
    charge_effect e (q := chargeRequest input b.id) w hid rfl
  · rw [he] at h; cases h
  · rw [hr] at h
    cases h
    exact ⟨p, by rw [hpay]; exact hp, rfl, hk, hs⟩
  · rw [hr] at h
    cases h
    exact ⟨p, by rw [hpay]; exact List.mem_append_right _ (List.mem_singleton_self p), rfl, hk, hs⟩

theorem status_of_released {reason : String} {r : Booking} {target : BookingStatus}
    (ht : targetStatus reason = some target) (h : (releaseBooking id reason w).1 = .ok r) :
    (releaseBooking id reason w).2.status id = some target := by
  obtain ⟨-, ⟨err, he, -⟩ | ⟨r', target', -, ht', ⟨b', hb'⟩, hbk⟩⟩ :=
    releaseBooking_effect id reason w
  · rw [he] at h; cases h
  · obtain rfl : target' = target := Option.some.inj (ht'.symm.trans ht)
    rw [World.status, hbk, find_setStatus_self target' hb']
    rfl

theorem status_of_confirmed {r : Booking} (h : (confirmBooking id w).1 = .ok r) :
    (confirmBooking id w).2.status id = some .CONFIRMED := by
  obtain ⟨-, ⟨r', -, hs⟩ | ⟨err, he⟩⟩ := confirmBooking_effect id w
  · exact hs
  · rw [he] at h; cases h

theorem ConfirmMove.known (hm : ConfirmMove env sh i input e pc sh' pc')
    (h : (Call.confirmBooking input pc).Known sh.world) : pc'.Known sh'.world := by
  cases hm with
  | charged hc hs => exact (paid_charge (h.2 _ rfl).1 hc hs).took
  | _ => trivial

/-- A call learns from each of its steps. -/
theorem Call.Known.step (h : p.Known sh.world)
    (ha : (orchestrator env).act sh i p e = some (sh', p')) : p'.Known sh'.world := by
  have ho := act_onward ha
  cases p with
  | confirmBooking input pc =>
    obtain ⟨pc', rfl, hm⟩ := act_confirmBooking ha
    refine ⟨hm.known h, fun b hb => ?_⟩
    rcases hm.hold_cases with hold | ⟨c, hc, hf, hr, hw⟩
    · exact (h.onward ho).2 b (hold ▸ hb)
    · obtain rfl : c = b := Option.some.inj (hc.symm.trans hb)
      have hrow : sh'.world.RowIs c .PENDING := by
        rw [hw]
        exact rowIs_createHold hr
      exact ⟨(createHold_fresh hf hr).1, _, hrow⟩
  | cancelBooking id paymentId pc =>
    simp only [orchestrator, Option.map_eq_some_iff, Prod.mk.injEq] at ha
    obtain ⟨⟨sh₁, pc'⟩, hs, rfl, rfl⟩ := ha
    cases pc with
    | start =>
      simp only [cancelStep] at hs
      split at hs
      · cases hs; trivial
      · next hid =>
        split at hs
        · split at hs <;> cases hs <;> exact hid
        · cases hs; exact hid
    | refunding q =>
      simp only [cancelStep, Option.some.injEq, Prod.mk.injEq] at hs
      obtain ⟨rfl, rfl⟩ := hs
      exact h
    | releasing =>
      rcases sh.remote_cases e.outcome (releaseBooking id "USER_CANCELLED") with
        ⟨err, sh₁, hr, -⟩ | ⟨r, hr, hc⟩ <;> simp only [cancelStep, hr] at hs <;> cases hs
      · trivial
      · exact h
    | publishing =>
      simp only [cancelStep] at hs
      split at hs <;> cases hs <;> trivial
    | done res => cases hs

end

theorem known_reach {env : Env} {Q : Op → Prop} {s : Pool Shared Call}
    (h : (callRuns env).Reach (ClientsOf Q) s) {i : Nat} {p : Call} (hp : s.procs[i]? = some p) :
    p.Known s.shared.world := by
  have hout : Pool.Outline (orchestrator env) (ClientsOf Q) (fun _ => True)
      fun sh _ p => p.Known sh.world :=
    ⟨fun s op sh hs _
      he => by cases he; exact ⟨trivial, fun j q hq => (hs.2 j q hq).onward (onward_exec op _)⟩,
      fun s j q e sh q' hs _ hq ha => ⟨trivial, (hs.2 j q hq).step ha⟩,
      fun s j q e sh q' k r hs _ _ ha _ hr => (hs.2 k r hr).onward (act_onward ha)⟩
  refine (Pool.invariant hout (fun s hi => ⟨trivial, fun j q hq => ?_⟩) h).2 i p hp
  rcases hi q (List.mem_of_getElem? hq) with ⟨input, rfl⟩ | ⟨id, paymentId, rfl⟩
  · exact ⟨trivial, fun b hb => by cases hb⟩
  · trivial

/-- No two sagas have the same booking. -/
theorem holdsApart_reach {env : Env} {Q : Op → Prop} {s : Pool Shared Call}
    (h : (callRuns env).Reach (ClientsOf Q) s) : Pool.Apart HoldsDiffer s := by
  refine Pool.apart (fun p q hd b c hb hc => (hd c b hc hb).symm)
    (fun s hi i j p q _ hp _ b c hb _ =>
      ?_) (fun s i p e sh p' j q hs _ hp ha hji hq hd b c hb hc => ?_) h
  · rcases hi p (List.mem_of_getElem? hp) with ⟨input, rfl⟩ | ⟨id, paymentId, rfl⟩ <;> cases hb
  · rcases act_hold_cases ha with hold | ⟨b', hb', hf⟩
    · exact hd b c (hold ▸ hb) hc
    · obtain rfl : b' = b := Option.some.inj (hb'.symm.trans hb)
      intro hbc
      cases q with
      | cancelBooking id paymentId pc => cases hc
      | confirmBooking input pc =>
        obtain ⟨-, r, hr⟩ := (known_reach hs hq).2 c hc
        rw [← hbc, hf] at hr
        cases hr

end RouteGo.Orchestrator
