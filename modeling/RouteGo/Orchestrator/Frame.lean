import RouteGo.Orchestrator.Cancel

/-!
# What a cancellation leaves alone

`cancelBooking` takes its two ids from two places. The release writes the row of
the booking id only; the refund writes the row of the payment id, whichever
booking that row is for. So other bookings' payments are safe exactly when the
named payment is not one of them that can be refunded. Both ids are segments of the
paths they are pasted into (`PathId`).
-/

namespace RouteGo.Orchestrator

open Js Bookings Payments

/-- The rows of other bookings are those there were, in both tables. -/
structure Framed (w w' : World) (bookingId : String) : Prop where
  payments : ∀ p : Payment, p.bookingId ≠ bookingId → (p ∈ w'.payments.rows ↔ p ∈ w.payments.rows)
  bookings : ∀ b : Booking, b.id ≠ bookingId → (b ∈ w'.bookings.rows ↔ b ∈ w.bookings.rows)

/-- The payment id names a `SUCCEEDED` payment of another booking, and the request
for its refund arrives. -/
def RefundsForeign (w : World) (bookingId : String) (paymentId : Option String)
    (o : Outcome) : Prop :=
  bookingId ≠ "" ∧ o ≠ .failed ∧ ∃ q p, paymentId = some q ∧ trim q ≠ "" ∧
    findById w.payments (trim q) = some p ∧ p.status = .SUCCEEDED ∧ p.bookingId ≠ bookingId

section
variable {sh : Shared} {w : World} {i : Nat} {id q : String} {paymentId : Option String}
  {p : Payment} {o : Outcome}

theorem refund_of_blank (h : trim q = "") : (refund q w).2.payments = w.payments := by
  simp [refund, Payments.Controller.processRefund, h]

theorem payments_refund (hq : trim q ≠ "") (hp : findById w.payments (trim q) = some p)
    (hs : p.status = .SUCCEEDED) :
    (refund q w).2.payments = Payments.setStatus w.payments p.id .REFUNDED none := by
  have hid : p.id = trim q := Table.key_of_find hp
  have hp' : findById w.payments p.id = some p := by rw [hid]; exact hp
  have hu := updateStatus_of_find .REFUNDED none hp'
  simp [refund, Payments.Controller.processRefund, Payments.refund, hq, trim_trim, hp, guardRefund,
    hs, hu]

theorem payments_refundIfGiven_none :
    (refundIfGiven sh none o).world.payments = sh.world.payments := rfl

theorem payments_refundIfGiven_some (hq : q ≠ "") : (refundIfGiven sh (some q) o).world.payments =
    if o = .failed then sh.world.payments else (refund q sh.world).2.payments := by
  have hw : (refundIfGiven sh (some q) o).world = (remote o (refund q) sh.world).2 := by
    simp only [refundIfGiven, if_neg hq]
    rfl
  rw [hw, remote_snd]
  split <;> rfl

/-- The release touches no payment. -/
theorem payments_cancelBooking (o : CancelOutcomes) (hid : id ≠ "") :
    (cancelBooking sh i id paymentId o).2.world.payments =
      (refundIfGiven sh paymentId o.refund).world.payments := by
  rw [cancelBooking, if_neg hid, world_releaseAndPublish, remote_snd]
  split
  · rfl
  · exact (releaseBooking_effect id "USER_CANCELLED" _).1

/-- The release writes the row of its booking only. -/
theorem bookings_cancelBooking (o : CancelOutcomes) (b : Booking) (hb : b.id ≠ id) :
    b ∈ (cancelBooking sh i id paymentId o).2.world.bookings.rows ↔ b ∈ sh.world.bookings.rows := by
  have hrefund : (refundIfGiven sh paymentId o.refund).world.bookings = sh.world.bookings :=
    bookings_refundIfGiven o.refund
  unfold cancelBooking
  split
  · rfl
  · rw [world_releaseAndPublish, remote_snd]
    split
    · rw [hrefund]
    · rcases (releaseBooking_effect id "USER_CANCELLED"
        (refundIfGiven sh paymentId o.refund).world).2
        with ⟨e, -, hr⟩ | ⟨c, target, -, -, -, hr⟩
      · rw [hr, hrefund]
      · rw [hr, hrefund, Bookings.mem_setStatus]
        constructor
        · rintro (⟨hm, -⟩ | ⟨c, -, hc, rfl⟩)
          · exact hm
          · exact absurd hc hb
        · exact fun hm => .inl ⟨hm, hb⟩

/-- A refund of one payment leaves the rows of other bookings alone. -/
theorem mem_setStatus_of_booking {payments : PaymentTable} {r : Payment} (hr : r ∈ payments.rows)
    (hfor : r.bookingId = id) (s : PaymentStatus) (hp : p.bookingId ≠ id) :
    p ∈ (Payments.setStatus payments r.id s none).rows ↔ p ∈ payments.rows := by
  rw [Payments.mem_setStatus]
  constructor
  · rintro (⟨hm, -⟩ | ⟨c, hc, hcid, rfl⟩)
    · exact hm
    · obtain rfl := PaymentTable.eq_of_id hc hr hcid
      exact absurd hfor hp
  · intro hm
    refine .inl ⟨hm, fun hpid => ?_⟩
    obtain rfl := PaymentTable.eq_of_id hm hr hpid
    exact hp hfor

/-- A refunded payment is no longer the row it was. -/
theorem not_mem_setStatus {payments : PaymentTable} (hs : p.status = .SUCCEEDED) :
    p ∉ (Payments.setStatus payments p.id .REFUNDED none).rows := by
  rw [Payments.mem_setStatus]
  rintro (⟨-, hne⟩ | ⟨c, -, -, hc⟩)
  · exact hne rfl
  · rw [hc] at hs
    cases hs

theorem payments_of_not_foreign (hid : id ≠ "") (h : ¬ RefundsForeign sh.world id paymentId o)
    (hp : p.bookingId ≠ id) :
    p ∈ (refundIfGiven sh paymentId o).world.payments.rows ↔ p ∈ sh.world.payments.rows := by
  cases paymentId with
  | none => rw [payments_refundIfGiven_none]
  | some q =>
    by_cases hq : q = ""
    · rw [refundIfGiven, if_pos hq]
    · rw [payments_refundIfGiven_some hq]
      by_cases ho : o = .failed
      · rw [if_pos ho]
      · rw [if_neg ho]
        by_cases hb : trim q = ""
        · rw [refund_of_blank hb]
        · rcases (refund_effect q sh.world).2 with ⟨e, -, hr⟩ | ⟨r, r', hr, hs, -, heq⟩
          · rw [hr]
          · have hfor : r.bookingId = id := by
              by_contra hne
              exact h ⟨hid, ho, q, r, rfl, hb, hr, hs, hne⟩
            rw [heq]
            exact mem_setStatus_of_booking (Table.mem_of_find hr) hfor .REFUNDED hp

theorem framed_iff (sh : Shared) (i : Nat) (id : String) (paymentId : Option String)
    (o : CancelOutcomes) : Framed sh.world (cancelBooking sh i id paymentId o).2.world id ↔
      ¬ RefundsForeign sh.world id paymentId o.refund := by
  constructor
  · rintro hframe ⟨hid, ho, q, p, rfl, hq, hp, hs, hne⟩
    have hq' : q ≠ "" := by
      rintro rfl
      exact hq rfl
    have hmem := (hframe.payments p hne).mpr (Table.mem_of_find hp)
    rw [payments_cancelBooking o hid, payments_refundIfGiven_some hq', if_neg ho,
      payments_refund hq hp hs] at hmem
    exact not_mem_setStatus hs hmem
  · intro h
    refine ⟨fun p hp => ?_, bookings_cancelBooking o⟩
    by_cases hid : id = ""
    · rw [cancelBooking, if_pos hid]
    · rw [payments_cancelBooking o hid]
      exact payments_of_not_foreign hid h hp

/-- **The frame of a cancellation.** Other bookings and their payments stay as
they are unless the payment id names a refundable payment of another booking. -/
theorem framed_cancelBooking_iff (sh : Shared) (i : Nat) (bookingId : PathId)
    (paymentId : Option PathId) (o : CancelOutcomes) :
    Framed sh.world (cancelBooking sh i bookingId.text (paymentId.map PathId.text) o).2.world
        bookingId.text ↔
      ¬ RefundsForeign sh.world bookingId.text (paymentId.map PathId.text) o.refund :=
  framed_iff sh i _ _ o

end

/-- Ann's confirmed booking, and a booking of Bob's that is held. -/
def annAndBobPaid : Shared where
  world := { annConfirmed.world with
    bookings := ⟨[annsBooking, ⟨"b2", "t1", "s2", "bob", 1, 3, .PENDING, some 300000⟩], by decide⟩ }
  issued := []

/-- **A cancellation of Bob's booking refunds Ann's payment.** -/
theorem exists_foreign_refund : ¬ ∀ (sh : Shared) (i : Nat) (bookingId : PathId)
    (paymentId : Option PathId) (o : CancelOutcomes),
    Framed sh.world (cancelBooking sh i bookingId.text (paymentId.map PathId.text) o).2.world
      bookingId.text := by
  intro h
  have hframe := h annAndBobPaid 0 ⟨"b2", by decide⟩ (some ⟨"p1", by decide⟩) {}
  have hmem := (hframe.payments annsPayment (by decide)).mpr (by decide)
  exact absurd hmem (by decide)

end RouteGo.Orchestrator
