import RouteGo.Bookings.Service
import Mathlib.Data.Int.ConditionallyCompleteOrder
import Mathlib.Order.Interval.Set.LinearOrder

/-!
# Availability, leg by leg

A row takes the legs of its half-open segment. Two segments that are not empty
share a leg when each starts before the other ends (`overlaps_iff_legs`), so the
comparison of `hasSegmentConflict` and the query of `findActiveBookingsForSeat`
together say which legs of a seat are taken at an instant.
-/

namespace RouteGo.Bookings

open Js

/-- Half-open intervals that are not empty meet when each starts before the
other ends. -/
theorem Ico_inter_nonempty_iff {α : Type} [LinearOrder α] {a b c d : α} (hab : a < b)
    (hcd : c < d) : (Set.Ico a b ∩ Set.Ico c d).Nonempty ↔ a < d ∧ c < b := by
  rw [Set.Ico_inter_Ico, Set.nonempty_Ico, sup_lt_iff, lt_inf_iff, lt_inf_iff]
  constructor
  · rintro ⟨⟨-, had⟩, hcb, -⟩
    exact ⟨had, hcb⟩
  · rintro ⟨had, hcb⟩
    exact ⟨⟨hab, had⟩, hcb, hcd⟩

def Booking.WellFormed (b : Booking) : Prop := b.fromStopSeq < b.toStopSeq

/-- The legs a row takes; leg `i` runs from stop `i` to the next. -/
def Booking.legs (b : Booking) : Set Int := Set.Ico b.fromStopSeq b.toStopSeq

theorem overlaps_iff_legs {a b : Booking} (ha : a.WellFormed) (hb : b.WellFormed) :
    a.Overlaps b ↔ (a.legs ∩ b.legs).Nonempty :=
  (Ico_inter_nonempty_iff ha hb).symm

/-- The row takes its legs at `t`. -/
def Booking.TakenAt (t : Int) (b : Booking) : Prop :=
  b.status = .CONFIRMED ∨ (b.status = .PENDING ∧ ∀ e, b.holdExpiresAt = some e → t < e)

theorem isActive_iff_takenAt {t : Int} {b : Booking} : isActive t b = true ↔ b.TakenAt t := by
  unfold isActive Booking.TakenAt
  cases b.holdExpiresAt <;> simp

/-- Leg `i` of the seat is occupied at `t`. -/
def Occupied (bookings : BookingTable) (tripId seatId : String) (t i : Int) : Prop :=
  ∃ b ∈ bookings.rows, b.tripId = tripId ∧ b.seatId = seatId ∧ i ∈ b.legs ∧ b.TakenAt t

theorem validateSegment_of_lt {tripId seatId : String} (ht : tripId ≠ "") (hs : seatId ≠ "")
    {p q : Number} (h : p.lt q = true) :
    validateSegment tripId seatId (.number p) (.number q) = .ok ⟨p, q, h⟩ := by
  obtain ⟨hp, hq⟩ := Number.isNaN_of_lt h
  simp only [validateSegment, ht, hs, or_self, ↓reduceIte]
  rw [dif_neg (by simp [hp, hq]), dif_neg (by simp [Number.not_ge_of_lt h])]

/-- The answer is that of the conflict loop over the active rows of the seat. -/
theorem checkAvailability_ofInt {tripId seatId : String} (ht : tripId ≠ "") (hs : seatId ≠ "")
    {f g : Int} (hfg : f < g) (l : List Booking) :
    checkAvailability tripId seatId (.ofInt f) (.ofInt g) (.ok l) =
      .ok (!hasSegmentConflict (segmentsOf l) (.ofInt f) (.ofInt g)) := by
  have hlt : (Number.ofInt f).lt (.ofInt g) = true := by simpa using hfg
  simp only [checkAvailability, Value.ofInt, validateSegment_of_lt ht hs hlt, bind, Except.bind,
    pure, Except.pure]

/-- The loop over the query finds a conflict when a leg of the request is taken. -/
theorem conflict_iff_occupied {bookings : BookingTable} (hw : ∀ b ∈ bookings.rows, b.WellFormed)
    (tripId seatId : String) (t : Int) {f g : Int} (hfg : f < g) :
    hasSegmentConflict (segmentsOf (activeRows bookings tripId seatId t))
        (.ofInt f) (.ofInt g) = true ↔
      ∃ i ∈ Set.Ico f g, Occupied bookings tripId seatId t i := by
  rw [segmentsOf_conflict_iff]
  constructor
  · rintro ⟨b, hb, -, hbg, hfb⟩
    obtain ⟨hrow, htrip, hseat, hact⟩ := mem_activeRows.mp hb
    rw [Number.lt_ofInt, decide_eq_true_eq] at hbg hfb
    obtain ⟨i, hib, hi⟩ := (Ico_inter_nonempty_iff (hw b hrow) hfg).mpr ⟨hbg, hfb⟩
    exact ⟨i, hi, b, hrow, htrip, hseat, hib, isActive_iff_takenAt.mp hact⟩
  · rintro ⟨i, hi, b, hrow, htrip, hseat, hib, htaken⟩
    have hact := isActive_iff_takenAt.mpr htaken
    obtain ⟨hbg, hfb⟩ := (Ico_inter_nonempty_iff (hw b hrow) hfg).mp ⟨i, hib, hi⟩
    refine ⟨b, mem_activeRows.mpr ⟨hrow, htrip, hseat, hact⟩, blocking_of_isActive hact, ?_, ?_⟩
    · simpa using hbg
    · simpa using hfb

/-- Only the rows of the seat that take legs at `t` matter, in whatever order. -/
theorem conflict_congr {bookings bookings' : BookingTable} {tripId seatId : String} {t : Int}
    (h : ∀ b, b.tripId = tripId → b.seatId = seatId → b.TakenAt t →
      (b ∈ bookings.rows ↔ b ∈ bookings'.rows)) (f g : Number) :
    hasSegmentConflict (segmentsOf (activeRows bookings tripId seatId t)) f g =
      hasSegmentConflict (segmentsOf (activeRows bookings' tripId seatId t)) f g := by
  have hmem : ∀ b, b ∈ activeRows bookings tripId seatId t ↔
      b ∈ activeRows bookings' tripId seatId t := fun b => by
    rw [mem_activeRows, mem_activeRows]
    constructor
    · rintro ⟨hb, ht, hs, ha⟩
      exact ⟨(h b ht hs (isActive_iff_takenAt.mp ha)).mp hb, ht, hs, ha⟩
    · rintro ⟨hb, ht, hs, ha⟩
      exact ⟨(h b ht hs (isActive_iff_takenAt.mp ha)).mpr hb, ht, hs, ha⟩
  rw [Bool.eq_iff_iff, segmentsOf_conflict_iff, segmentsOf_conflict_iff]
  simp only [hmem]

/-- **Availability is the legs being free.** For ids that the columns take, `true` when
no leg of the request is occupied, `false` when one is, and no other row has a say. -/
theorem checkAvailability_iff_legs {C : IdColumn} {bookings : BookingTable}
    (hw : ∀ b ∈ bookings.rows, b.WellFormed) {tripId seatId trip seat : String}
    (htrip : tripId ≠ "")
    (hseat : seatId ≠ "") (ht : C.keep tripId = some trip) (hs : C.keep seatId = some seat)
    (t : Int) {f g : Int} (hfg : f < g) :
    (checkAvailability tripId seatId (.ofInt f) (.ofInt g)
        (findActiveBookingsForSeat C bookings tripId seatId t) = .ok true ↔
      ∀ i, f ≤ i → i < g → ¬ Occupied bookings trip seat t i) ∧
    (checkAvailability tripId seatId (.ofInt f) (.ofInt g)
        (findActiveBookingsForSeat C bookings tripId seatId t) = .ok false ↔
      ∃ i, f ≤ i ∧ i < g ∧ Occupied bookings trip seat t i) ∧
    ∀ bookings' : BookingTable, (∀ b, b.tripId = trip → b.seatId = seat → b.TakenAt t →
        (b ∈ bookings.rows ↔ b ∈ bookings'.rows)) →
      checkAvailability tripId seatId (.ofInt f) (.ofInt g)
          (findActiveBookingsForSeat C bookings' tripId seatId t) =
        checkAvailability tripId seatId (.ofInt f) (.ofInt g)
          (findActiveBookingsForSeat C bookings tripId seatId t) := by
  have hconf := conflict_iff_occupied hw trip seat t hfg
  have hiff : (∃ i ∈ Set.Ico f g, Occupied bookings trip seat t i) ↔
      ∃ i, f ≤ i ∧ i < g ∧ Occupied bookings trip seat t i := by
    simp only [Set.mem_Ico, and_assoc]
  rw [hiff] at hconf
  simp only [findActive_of_keep ht hs]
  refine ⟨?_, ?_, fun bookings' h => ?_⟩
  · rw [checkAvailability_ofInt htrip hseat hfg, Except.ok.injEq, Bool.not_eq_true',
      Bool.eq_false_iff, ne_eq, hconf]
    simp only [not_exists, not_and]
  · rw [checkAvailability_ofInt htrip hseat hfg, Except.ok.injEq, Bool.not_eq_false', hconf]
  · rw [checkAvailability_ofInt htrip hseat hfg, checkAvailability_ofInt htrip hseat hfg,
      conflict_congr h]

/-- One confirmed row, from stop 1 to stop 3. -/
def oneRow : BookingTable := ⟨[⟨"a", "t", "1", "ann", 1, 3, .CONFIRMED, none⟩], by decide⟩

/-- The leg after it is free. -/
theorem checkAvailability_iff_legs_adjacent : ¬ Occupied oneRow "t" "1" 0 3 := by
  have hw : ∀ b ∈ oneRow.rows, b.WellFormed := by
    intro b hb
    obtain rfl := List.mem_singleton.mp hb
    show (1 : Int) < 3
    decide
  exact (checkAvailability_iff_legs (C := .texts) hw (by decide) (by decide)
    rfl rfl 0 (f := 3) (g := 4)
    (by decide)).1.mp (by decide) 3 (by decide) (by decide)

end RouteGo.Bookings
