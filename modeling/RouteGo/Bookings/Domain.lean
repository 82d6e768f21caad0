import RouteGo.Js.Number
import RouteGo.Lib.Table
import RouteGo.Utils.HttpErrors

/-!
# Bookings and segment conflicts

The `Booking` row, and `hasSegmentConflict` of `domain/segmentAvailability.ts`:
half-open segments on one seat conflict when each starts before the other ends,
and only `CONFIRMED` and `PENDING` bookings block.
-/

namespace RouteGo.Bookings

open Js

inductive BookingStatus where
  | PENDING
  | CONFIRMED
  | FAILED
  | CANCELLED
  | EXPIRED
  deriving DecidableEq, Repr

def BookingStatus.toText : BookingStatus → String
  | .PENDING => "PENDING"
  | .CONFIRMED => "CONFIRMED"
  | .FAILED => "FAILED"
  | .CANCELLED => "CANCELLED"
  | .EXPIRED => "EXPIRED"

/-- A row of the booking table; `holdExpiresAt` in milliseconds. -/
structure Booking where
  id : String
  tripId : String
  seatId : String
  userId : String
  fromStopSeq : Int
  toStopSeq : Int
  status : BookingStatus
  holdExpiresAt : Option Int
  deriving DecidableEq, Repr

instance : Keyed Booking String := ⟨Booking.id⟩

@[simp] theorem key_booking (b : Booking) : key b = b.id := rfl

/-- Of one trip and seat. -/
def Booking.SameSeat (a b : Booking) : Prop := a.tripId = b.tripId ∧ a.seatId = b.seatId

/-- The segments overlap. -/
def Booking.Overlaps (a b : Booking) : Prop :=
  a.fromStopSeq < b.toStopSeq ∧ b.fromStopSeq < a.toStopSeq

instance (a b : Booking) : Decidable (a.SameSeat b) := inferInstanceAs (Decidable (_ ∧ _))

instance (a b : Booking) : Decidable (a.Overlaps b) := inferInstanceAs (Decidable (_ ∧ _))

theorem Booking.SameSeat.symm {a b : Booking} (h : a.SameSeat b) : b.SameSeat a :=
  ⟨h.1.symm, h.2.symm⟩

theorem Booking.Overlaps.symm {a b : Booking} (h : a.Overlaps b) : b.Overlaps a := ⟨h.2, h.1⟩

structure ExistingBookingSegment where
  fromSeq : Number
  toSeq : Number
  status : BookingStatus

/-- `BLOCKING_STATUSES.has(status)`. -/
def blocking : BookingStatus → Bool
  | .CONFIRMED => true
  | .PENDING => true
  | _ => false

def hasSegmentConflict : List ExistingBookingSegment → Number → Number → Bool
  | [], _, _ => false
  | booking :: rest, requestedFromSeq, requestedToSeq =>
    if !blocking booking.status then hasSegmentConflict rest requestedFromSeq requestedToSeq
    else if booking.fromSeq.lt requestedToSeq && requestedFromSeq.lt booking.toSeq then true
    else hasSegmentConflict rest requestedFromSeq requestedToSeq

/-- The loop finds a conflict when some blocking segment overlaps. -/
theorem hasSegmentConflict_iff (l : List ExistingBookingSegment) (f t : Number) :
    hasSegmentConflict l f t = true ↔
      ∃ b ∈ l, blocking b.status = true ∧ b.fromSeq.lt t = true ∧ f.lt b.toSeq = true := by
  induction l with
  | nil => simp [hasSegmentConflict]
  | cons b rest ih =>
    simp only [hasSegmentConflict, List.mem_cons, exists_eq_or_imp]
    split
    · next hb => rw [ih]; simp at hb; simp [hb]
    · next hb =>
      simp only [Bool.not_eq_true', Bool.not_eq_false] at hb
      split
      · next hc => simpa [hb] using .inl (by simpa using hc)
      · next hc =>
        rw [ih]
        constructor
        · exact .inr
        · rintro (⟨-, h1, h2⟩ | h)
          · exact absurd (by simp [h1, h2]) hc
          · exact h

def segmentsOf (bookings : List Booking) : List ExistingBookingSegment :=
  bookings.map fun b => ⟨.ofInt b.fromStopSeq, .ofInt b.toStopSeq, b.status⟩

theorem segmentsOf_conflict_iff (l : List Booking) (f t : Number) :
    hasSegmentConflict (segmentsOf l) f t = true ↔ ∃ b ∈ l, blocking b.status = true ∧
      (Number.ofInt b.fromStopSeq).lt t = true ∧ f.lt (.ofInt b.toStopSeq) = true := by
  rw [hasSegmentConflict_iff]
  simp [segmentsOf]

/-- Over integers the loop compares as `Overlaps` does. -/
theorem segmentsOf_conflict_ofInt (l : List Booking) (a : Booking) :
    hasSegmentConflict (segmentsOf l) (.ofInt a.fromStopSeq) (.ofInt a.toStopSeq) = true ↔
      ∃ b ∈ l, blocking b.status = true ∧ b.Overlaps a := by
  rw [segmentsOf_conflict_iff]
  simp [Booking.Overlaps]

end RouteGo.Bookings
