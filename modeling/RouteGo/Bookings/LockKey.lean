import RouteGo.Bookings.Concurrent

/-!
# The lock key and the seat

The key of the lock is made of the texts of a request, while the columns `tripId`
and `seatId` compare values (`@db.Uuid`, `mem_query_iff`). The key tells the texts apart
(`lockKey_inj`), so it belongs to the seat as long as two requests for one seat
spell it alike (`sharesLock_iff`). Two spellings of one seat have two locks
(`exists_two_locks`).
-/

namespace RouteGo.Bookings

/-- The ids of a request are ones the columns take. -/
structure Accepted (a : HoldArgs) : Prop where
  trip : ∃ v, Uuid.read a.tripId = some v
  seat : ∃ v, Uuid.read a.seatId = some v

/-- The requests are for one trip and seat of the store. -/
def SameSeatInStore (a b : HoldArgs) : Prop :=
  Uuid.read a.tripId = Uuid.read b.tripId ∧ Uuid.read a.seatId = Uuid.read b.seatId

/-- The requests contend for one lock exactly if they are for one seat. -/
def SharesLock (a b : HoldArgs) : Prop := a.lockKey = b.lockKey ↔ SameSeatInStore a b

/-- Ids with the same hexadecimal digits are the same text. -/
def SpelledAlike (a b : HoldArgs) : Prop :=
  Uuid.digitsOf a.tripId = Uuid.digitsOf b.tripId →
    Uuid.digitsOf a.seatId = Uuid.digitsOf b.seatId → a.tripId = b.tripId ∧ a.seatId = b.seatId

section
variable {a b : HoldArgs} {bookings : BookingTable} {now : Int}

theorem keep_eq_iff {s t : String} {v w : List Nat} (hs : Uuid.read s = some v)
    (ht : Uuid.read t = some w) :
    IdColumn.uuid.keep s = IdColumn.uuid.keep t ↔ Uuid.read s = Uuid.read t := by
  refine ⟨fun h => ?_, fun h => by simp only [IdColumn.uuid, h]⟩
  simp only [IdColumn.uuid, hs, ht, Option.map_some, Option.some.injEq] at h
  rw [hs, ht, ← Uuid.read_text hs, ← Uuid.read_text ht, h]

/-- The row of one request shows up in the query of another one for its seat. -/
theorem mem_query_iff {r : Booking} {l : List Booking} (ha : Accepted a) (hb : Accepted b)
    (ht : IdColumn.uuid.keep a.tripId = some r.tripId)
    (hs : IdColumn.uuid.keep a.seatId = some r.seatId)
    (hr : r ∈ bookings.rows) (hact : isActive now r = true)
    (hl : findActiveBookingsForSeat .uuid bookings b.tripId b.seatId now = .ok l) :
    r ∈ l ↔ SameSeatInStore a b := by
  obtain ⟨⟨_, hat⟩, _, has⟩ := ha
  obtain ⟨⟨_, hbt⟩, _, hbs⟩ := hb
  obtain ⟨trip, seat, htrip, hseat, rfl⟩ := findActive_ok hl
  rw [mem_activeRows, SameSeatInStore, ← keep_eq_iff hat hbt, ← keep_eq_iff has hbs, ht,
    hs, htrip, hseat, Option.some.injEq, Option.some.injEq]
  exact ⟨fun h => ⟨h.2.1, h.2.2.1⟩, fun h => ⟨hr, h.1, h.2, hact⟩⟩

/-- The key determines the texts it is made of, there being no colon in the first. -/
theorem lockKey_inj {tripId seatId tripId' seatId' : String} (h : ':' ∉ tripId.toList)
    (h' : ':' ∉ tripId'.toList) :
    lockKey tripId seatId = lockKey tripId' seatId' ↔ tripId = tripId' ∧ seatId = seatId' := by
  have hlist : ∀ t s : String, (lockKey t s).toList =
      "lock:trip:".toList ++ (t.toList ++ ':' :: ("seat:".toList ++ s.toList)) := by
    intro t s
    simp [lockKey, String.toList_append]
  rw [← String.toList_inj, hlist, hlist, List.append_cancel_left_eq, append_cons_inj h h',
    List.append_cancel_left_eq, String.toList_inj, String.toList_inj]

theorem sameSeatInStore_iff (ha : Accepted a) (hb : Accepted b) : SameSeatInStore a b ↔
    Uuid.digitsOf a.tripId = Uuid.digitsOf b.tripId ∧ Uuid.digitsOf a.seatId =
      Uuid.digitsOf b.seatId := by
  obtain ⟨⟨_, hat⟩, _, has⟩ := ha
  obtain ⟨⟨_, hbt⟩, _, hbs⟩ := hb
  rw [SameSeatInStore, Uuid.read_eq_iff hat hbt, Uuid.read_eq_iff has hbs]

/-- **The lock belongs to the seat** exactly for requests that, if they are for one
seat, spell it alike. -/
theorem sharesLock_iff (ha : Accepted a) (hb : Accepted b) : SharesLock a b ↔ SpelledAlike a b := by
  obtain ⟨_, hat⟩ := ha.trip
  obtain ⟨_, hbt⟩ := hb.trip
  have hkey : a.lockKey = b.lockKey ↔ a.tripId = b.tripId ∧ a.seatId = b.seatId :=
    lockKey_inj (Uuid.colon_notMem hat) (Uuid.colon_notMem hbt)
  rw [SharesLock, hkey, sameSeatInStore_iff ha hb]
  constructor
  · intro h ht hs
    exact h.mpr ⟨ht, hs⟩
  · intro h
    constructor
    · rintro ⟨ht, hs⟩
      rw [ht, hs]
      exact ⟨rfl, rfl⟩
    · rintro ⟨ht, hs⟩
      exact h ht hs

end

def annsHold : HoldArgs := ⟨"6f1c0a52-9b3e-4d7f-8a21-0c5d6e7f8a9b",
  "0d9b7e41-5c2a-4f60-9e13-7a8b6c5d4e3f", "ann", .ofInt 1, .ofInt 3⟩

/-- The trip in capitals. -/
def bobsHold : HoldArgs :=
  { annsHold with tripId := "6F1C0A52-9B3E-4D7F-8A21-0C5D6E7F8A9B", userId := "bob" }

theorem annsHold_accepted : Accepted annsHold := ⟨⟨_, rfl⟩, ⟨_, rfl⟩⟩

theorem bobsHold_accepted : Accepted bobsHold := ⟨⟨_, rfl⟩, ⟨_, rfl⟩⟩

/-- The stops behind ann's, and then the seat behind hers. -/
def carlsHold : HoldArgs :=
  { annsHold with userId := "carl", fromSeq := .ofInt 3, toSeq := .ofInt 5 }

def daisysHold : HoldArgs :=
  { annsHold with seatId := "0d9b7e41-5c2a-4f60-9e13-7a8b6c5d4e40", userId := "daisy" }

/-- One lock for the seat, and another one for the other seat. -/
theorem sharesLock_iff_others : SharesLock annsHold carlsHold ∧ SharesLock annsHold daisysHold :=
  ⟨(sharesLock_iff annsHold_accepted ⟨⟨_, rfl⟩, ⟨_, rfl⟩⟩).mpr fun _ _ => ⟨rfl, rfl⟩,
    (sharesLock_iff annsHold_accepted ⟨⟨_, rfl⟩, ⟨_, rfl⟩⟩).mpr fun _ hs => absurd hs (by decide)⟩

/-- **Two locks for one seat.** -/
theorem exists_two_locks : ¬ ∀ a b : HoldArgs, Accepted a → Accepted b → SharesLock a b := by
  intro h
  have hkey := (h annsHold bobsHold annsHold_accepted bobsHold_accepted).mpr ⟨by decide, rfl⟩
  exact absurd hkey (by decide)

end RouteGo.Bookings
