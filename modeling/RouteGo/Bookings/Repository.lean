import RouteGo.Bookings.Domain
import RouteGo.Lib.Uuid

/-!
# The booking table

`booking.repository.ts` over the table of `schema.prisma`. A query sees the rows
in some order; no function here depends on it. `isActive now` is the `OR` of
`findActiveBookingsForSeat`: once a hold has run out it never counts again
(`isActive_mono`).

The columns `tripId`, `seatId` and `userId` are ids (`@db.Uuid`): they compare values
and throw for a text that is none. What an id column makes of a text is a parameter. A
booking is found by its id as the column spells it.
-/

namespace RouteGo.Bookings

open Js

abbrev BookingTable := Table Booking

/-- The `OR` of the query, at the instant `now`. -/
def isActive (now : Int) (b : Booking) : Bool :=
  b.status = .CONFIRMED ||
    (b.status = .PENDING &&
      match b.holdExpiresAt with
      | none => true
      | some e => decide (now < e))

/-- The rows that count for a seat. -/
def activeRows (bookings : BookingTable) (tripId seatId : String) (now : Int) : List Booking :=
  bookings.rows.filter fun b => b.tripId = tripId && b.seatId = seatId && isActive now b

def findActiveBookingsForSeat (C : IdColumn) (bookings : BookingTable) (tripId seatId : String)
    (now : Int) : Result (List Booking) :=
  match C.keep tripId, C.keep seatId with
  | some tripId, some seatId => .ok (activeRows bookings tripId seatId now)
  | _, _ => .error prismaError

theorem isActive_mono {t t' : Int} {b : Booking} (htt : t ≤ t') (h : isActive t' b = true) :
    isActive t b = true := by
  unfold isActive at h ⊢
  cases he : b.holdExpiresAt with
  | none => simpa [he] using h
  | some e =>
    simp only [he, Bool.or_eq_true, Bool.and_eq_true, decide_eq_true_eq] at h ⊢
    exact h.imp_right fun ⟨hs, hlt⟩ => ⟨hs, by omega⟩

theorem isActive_of_confirmed {now : Int} {b : Booking} (h : b.status = .CONFIRMED) :
    isActive now b = true := by simp [isActive, h]

theorem blocking_of_isActive {now : Int} {b : Booking} (h : isActive now b = true) :
    blocking b.status = true := by
  unfold isActive at h
  cases hs : b.status <;> simp_all [blocking]

theorem mem_activeRows {bookings : BookingTable} {tripId seatId : String} {now : Int}
    {b : Booking} : b ∈ activeRows bookings tripId seatId now ↔
      b ∈ bookings.rows ∧ b.tripId = tripId ∧ b.seatId = seatId ∧ isActive now b = true := by
  simp [activeRows, and_assoc]

theorem findActive_of_keep {C : IdColumn} {bookings : BookingTable}
    {tripId seatId trip seat : String}
    {now : Int} (ht : C.keep tripId = some trip) (hs : C.keep seatId = some seat) :
    findActiveBookingsForSeat C bookings tripId seatId now =
      .ok (activeRows bookings trip seat now) := by
  simp only [findActiveBookingsForSeat, ht, hs]

/-- The query answers for ids the columns take, with the rows of those values. -/
theorem findActive_ok {C : IdColumn} {bookings : BookingTable} {tripId seatId : String} {now : Int}
    {l : List Booking} (h : findActiveBookingsForSeat C bookings tripId seatId now = .ok l) :
    ∃ trip seat, C.keep tripId = some trip ∧ C.keep seatId = some seat ∧
      l = activeRows bookings trip seat now := by
  unfold findActiveBookingsForSeat at h
  split at h
  · next trip seat ht hs => cases h; exact ⟨trip, seat, ht, hs, rfl⟩
  · cases h

/-- A row of another seat does not show up in the query. -/
theorem activeRows_insert_ne {bookings bookings' : BookingTable} {b : Booking}
    (h : bookings.insert b = some bookings') {tripId seatId : String} {now : Int}
    (hne : ¬ (b.tripId = tripId ∧ b.seatId = seatId)) :
    activeRows bookings' tripId seatId now = activeRows bookings tripId seatId now := by
  have hb : ¬ ((b.tripId = tripId ∧ b.seatId = seatId) ∧ isActive now b = true) :=
    fun hc => hne hc.1
  simp [activeRows, Table.rows_of_insert h, List.filter_append, hb]

structure BookingCreateInput where
  tripId : String
  seatId : String
  userId : String
  fromStopSeq : Value
  toStopSeq : Value
  status : BookingStatus
  holdExpiresAt : Int

/-- `prisma.booking.create`: the database gives the row its `id`, the columns
hold ids and 32-bit integers and the primary key is unique. -/
def createBooking (C : IdColumn) (bookings : BookingTable) (id : String)
    (data : BookingCreateInput) : Result (Booking × BookingTable) :=
  match C.keep data.tripId, C.keep data.seatId, C.keep data.userId, data.fromStopSeq.toInt4,
    data.toStopSeq.toInt4 with
  | some tripId, some seatId, some userId, some f, some t =>
    let row : Booking := ⟨id, tripId, seatId, userId, f, t, data.status, some data.holdExpiresAt⟩
    match bookings.insert row with
    | some bookings' => .ok (row, bookings')
    | none => .error prismaError
  | _, _, _, _, _ => .error prismaError

/-- The row of the data. -/
structure RowOf (C : IdColumn) (data : BookingCreateInput) (b : Booking) : Prop where
  tripId : C.keep data.tripId = some b.tripId
  seatId : C.keep data.seatId = some b.seatId
  userId : C.keep data.userId = some b.userId
  fromStopSeq : data.fromStopSeq.toInt4 = some b.fromStopSeq
  toStopSeq : data.toStopSeq.toInt4 = some b.toStopSeq
  status : b.status = data.status
  holdExpiresAt : b.holdExpiresAt = some data.holdExpiresAt

theorem createBooking_ok {C : IdColumn} {bookings bookings' : BookingTable} {id : String}
    {data : BookingCreateInput} {b : Booking}
    (h : createBooking C bookings id data = .ok (b, bookings')) :
    bookings.insert b = some bookings' ∧ b.id = id ∧ RowOf C data b := by
  unfold createBooking at h
  split at h
  · next tripId seatId userId f t htrip hseat huser hf ht =>
    simp only at h
    split at h
    · next bs hb =>
      cases h
      exact ⟨hb, rfl, htrip, hseat, huser, hf, ht, rfl, rfl⟩
    · cases h
  · cases h

def Booking.withStatus (s : BookingStatus) (b : Booking) : Booking := { b with status := s }

/-- Rewrite the status of the row `id`. -/
def setStatus (bookings : BookingTable) (id : String) (s : BookingStatus) : BookingTable :=
  bookings.modify id (Booking.withStatus s) fun _ => rfl

/-- `prisma.booking.update`, which throws when there is no such row. -/
def updateStatus (bookings : BookingTable) (id : String) (s : BookingStatus) :
    Result Booking × BookingTable :=
  match bookings.find id with
  | some b => (.ok (b.withStatus s), setStatus bookings id s)
  | none => (.error prismaError, bookings)

theorem updateStatus_of_find {bookings : BookingTable} {id : String} {b : Booking}
    (s : BookingStatus) (h : bookings.find id = some b) :
    updateStatus bookings id s = (.ok (b.withStatus s), setStatus bookings id s) := by
  simp [updateStatus, h]

theorem find_setStatus_self {bookings : BookingTable} {id : String} {b : Booking}
    (s : BookingStatus) (h : bookings.find id = some b) :
    (setStatus bookings id s).find id = some (b.withStatus s) := Table.find_modify_self h

theorem find_setStatus_ne {bookings : BookingTable} {id j : String} (s : BookingStatus)
    (h : j ≠ id) : (setStatus bookings id s).find j = bookings.find j := Table.find_modify_ne h

theorem mem_setStatus {bookings : BookingTable} {id : String} {s : BookingStatus} {x : Booking} :
    x ∈ (setStatus bookings id s).rows ↔
      (x ∈ bookings.rows ∧ x.id ≠ id) ∨ ∃ b ∈ bookings.rows, b.id = id ∧ x = b.withStatus s :=
  Table.mem_modify

/-! ## The life of a row -/

/-- What may become of a row. -/
structure Kept (b b' : Booking) : Prop where
  same : b' = b.withStatus b'.status
  settled : b.status ≠ .PENDING → b'.status ≠ .PENDING

def RowsKept (t t' : BookingTable) : Prop := ∀ b ∈ t.rows, ∃ b' ∈ t'.rows, Kept b b'

theorem Kept.refl (b : Booking) : Kept b b := ⟨rfl, fun h => h⟩

theorem Kept.trans {a b c : Booking} (h : Kept a b) (h' : Kept b c) : Kept a c := by
  refine ⟨?_, fun hs => h'.settled (h.settled hs)⟩
  rw [h'.same, h.same]
  rfl

theorem RowsKept.refl (t : BookingTable) : RowsKept t t := fun b hb => ⟨b, hb, .refl b⟩

theorem RowsKept.trans {t t' t'' : BookingTable} (h : RowsKept t t') (h' : RowsKept t' t'') :
    RowsKept t t'' := by
  intro b hb
  obtain ⟨c, hc, hbc⟩ := h b hb
  obtain ⟨d, hd, hcd⟩ := h' c hc
  exact ⟨d, hd, hbc.trans hcd⟩

theorem RowsKept.insert {t t' : BookingTable} {b : Booking} (h : t.insert b = some t') :
    RowsKept t t' := fun c hc => ⟨c, (Table.mem_of_insert h).mpr (.inl hc), .refl c⟩

theorem RowsKept.setStatus {t : BookingTable} {id : String} {s : BookingStatus}
    (hs : s ≠ .PENDING) : RowsKept t (setStatus t id s) := by
  intro b hb
  by_cases hid : b.id = id
  · exact ⟨b.withStatus s, mem_setStatus.mpr (.inr ⟨b, hb, hid, rfl⟩), rfl, fun _ => hs⟩
  · exact ⟨b, mem_setStatus.mpr (.inl ⟨hb, hid⟩), .refl b⟩

/-- What one request does to the table. -/
inductive Writes (t : BookingTable) : BookingTable → Prop
  | none : Writes t t
  | insert {b : Booking} {t' : BookingTable} (h : t.insert b = some t') : Writes t t'
  | confirm {id : String} {b : Booking} (hb : t.find id = some b) (hs : b.status = .PENDING) :
      Writes t (setStatus t id .CONFIRMED)
  | free {id : String} {s : BookingStatus} (hs : blocking s = false) : Writes t (setStatus t id s)

theorem Writes.rowsKept {t t' : BookingTable} (h : Writes t t') : RowsKept t t' := by
  cases h with
  | none => exact .refl t
  | insert h => exact .insert h
  | confirm _ _ => exact .setStatus (by decide)
  | @free id s hs => exact .setStatus fun hp => by rw [hp] at hs; cases hs

/-- A booking that has given its seat up does not take it again. -/
theorem Writes.blocking_eq_false {t t' : BookingTable} {id : String} {b : Booking} (h : Writes t t')
    (hb : t.find id = some b) (hf : blocking b.status = false) :
    ∃ b', t'.find id = some b' ∧ blocking b'.status = false := by
  cases h with
  | none => exact ⟨b, hb, hf⟩
  | @insert c _ h =>
    refine ⟨b, ?_, hf⟩
    rw [Table.find_of_insert h, if_neg, hb]
    rintro rfl
    rw [(Table.insert_eq_some.mp h).1] at hb
    cases hb
  | @confirm j c hc hs =>
    by_cases hj : id = j
    · subst hj
      rw [hb] at hc
      cases hc
      rw [hs] at hf
      cases hf
    · exact ⟨b, by rw [find_setStatus_ne _ hj, hb], hf⟩
  | @free j s hs =>
    by_cases hj : id = j
    · subst hj
      exact ⟨_, find_setStatus_self s hb, hs⟩
    · exact ⟨b, by rw [find_setStatus_ne _ hj, hb], hf⟩

end RouteGo.Bookings
