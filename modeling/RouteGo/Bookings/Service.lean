import RouteGo.Bookings.Repository
import RouteGo.Bookings.LockService

/-!
# `BookingService`

The methods of `booking.service.ts`, each run to its end without interruption.
What a call takes from outside (clock readings, the random lock value, the id
the database gives, which infrastructure calls throw) is an argument. The error
of a `try` block is returned after the `finally` has released the lock.
-/

namespace RouteGo.Bookings

open Js

/-- `config/dotenv.ts`, and what the id columns of the database make of a text. -/
structure Env where
  HOLD_DURATION_MINUTES : ℚ
  LOCK_TTL_MS : Int
  ids : IdColumn

/-- `(env.HOLD_DURATION_MINUTES || 5) * 60 * 1000`, which `Date` cuts to whole
milliseconds. -/
def holdDurationMs (env : Env) : Int :=
  let minutes := if env.HOLD_DURATION_MINUTES = 0 then 5 else env.HOLD_DURATION_MINUTES
  minutes.num * 60 * 1000 / minutes.den

/-- `env.LOCK_TTL_MS || 5000`. -/
def lockTtlMs (env : Env) : Int := if env.LOCK_TTL_MS = 0 then 5000 else env.LOCK_TTL_MS

/-! ## Availability -/

/-- A segment that passed validation. -/
structure Segment where
  fromSeq : Number
  toSeq : Number
  lt : fromSeq.lt toSeq = true

/-- The checks of `checkAvailability`. -/
def validateSegment (tripId seatId : String) (fromSeq toSeq : Value) : Result Segment :=
  if tripId = "" ∨ seatId = "" then .error (.ValidationError "tripId and seatId are required")
  else match fromSeq, toSeq with
    | .number f, .number t =>
      if hn : f.isNaN = true ∨ t.isNaN = true then
        .error (.ValidationError "fromStopSeq and toStopSeq must be valid numbers")
      else if hge : f.ge t = true then
        .error (.ValidationError ("fromStopSeq (" ++ f.toText ++
          ") must be strictly less than toStopSeq (" ++ t.toText ++ ")"))
      else .ok ⟨f, t, by
        simp only [not_or, Bool.not_eq_true] at hn hge
        exact Number.lt_of_not_ge hn.1 hn.2 hge⟩
    | _, _ => .error (.ValidationError "fromStopSeq and toStopSeq must be valid numbers")

theorem validateSegment_ok {tripId seatId : String} {fromSeq toSeq : Value} {seg : Segment}
    (h : validateSegment tripId seatId fromSeq toSeq = .ok seg) :
    fromSeq = .number seg.fromSeq ∧ toSeq = .number seg.toSeq := by
  unfold validateSegment at h
  split at h
  · cases h
  · split at h
    · split at h
      · cases h
      · split at h
        · cases h
        · cases h; exact ⟨rfl, rfl⟩
    · cases h

/-- `checkAvailability`, given what `findActiveBookingsForSeat` answers. -/
def checkAvailability (tripId seatId : String) (fromSeq toSeq : Value)
    (find : Result (List Booking)) : Result Bool := do
  let seg ← validateSegment tripId seatId fromSeq toSeq
  let activeBookings ← find
  return !hasSegmentConflict (segmentsOf activeBookings) seg.fromSeq seg.toSeq

/-! ## Holds -/

structure HoldArgs where
  tripId : String
  seatId : String
  userId : String
  fromSeq : Value
  toSeq : Value

/-- `lock:trip:${tripId}:seat:${seatId}` -/
def lockKey (tripId seatId : String) : String := "lock:trip:" ++ tripId ++ ":seat:" ++ seatId

def userRequired : AppError := .ValidationError "userId is required to create a booking hold"

def seatBusy : AppError :=
  .ConflictError "This seat is being booked by someone else, please retry."

def seatTaken (a : HoldArgs) : AppError :=
  .ConflictError ("Seat " ++ a.seatId ++ " is not available for route segment " ++
    a.fromSeq.toText ++ " -> " ++ a.toSeq.toText)

/-- What `createHold` inserts when it reads the clock at `now`. -/
def holdData (env : Env) (a : HoldArgs) (now : Int) : BookingCreateInput where
  tripId := a.tripId
  seatId := a.seatId
  userId := a.userId
  fromStopSeq := a.fromSeq
  toStopSeq := a.toSeq
  status := .PENDING
  holdExpiresAt := now + holdDurationMs env

/-- What one call of `createHold` takes from outside. -/
structure HoldInputs where
  id : String
  lockValue : String
  tAcquire : Int
  tQuery : Int
  tStamp : Int
  tRelease : Int
  findFails : Bool := false
  createFails : Bool := false
  releaseFails : Bool := false

/-- The time that passes before each clock reading of a `createHold`. -/
structure HoldDelays where
  acquire : Nat := 0
  query : Nat := 0
  stamp : Nat := 0
  release : Nat := 0

structure HoldFaults where
  find : Bool := false
  create : Bool := false
  release : Bool := false

/-- The inputs of a call that starts at `now`. -/
def holdInputs (now : Int) (id lockValue : String) (d : HoldDelays) (f : HoldFaults) :
    HoldInputs where
  id := id
  lockValue := lockValue
  tAcquire := now + d.acquire
  tQuery := now + d.acquire + d.query
  tStamp := now + d.acquire + d.query + d.stamp
  tRelease := now + d.acquire + d.query + d.stamp + d.release
  findFails := f.find
  createFails := f.create
  releaseFails := f.release

structure World where
  bookings : BookingTable
  locks : Locks

def findActive (env : Env) (bookings : BookingTable) (a : HoldArgs) (now : Int) (fails : Bool) :
    Result (List Booking) :=
  if fails then .error prismaError
  else findActiveBookingsForSeat env.ids bookings a.tripId a.seatId now

/-- The `try` block of `createHold`. -/
def holdInLock (env : Env) (x : HoldInputs) (bookings : BookingTable) (a : HoldArgs) :
    Result Booking × BookingTable :=
  match checkAvailability a.tripId a.seatId a.fromSeq a.toSeq
      (findActive env bookings a x.tQuery x.findFails) with
  | .error e => (.error e, bookings)
  | .ok isAvailable =>
    if !isAvailable then (.error (seatTaken a), bookings)
    else if x.createFails then (.error prismaError, bookings)
    else match createBooking env.ids bookings x.id (holdData env a x.tStamp) with
      | .error e => (.error e, bookings)
      | .ok (row, bookings') => (.ok row, bookings')

def createHold (env : Env) (x : HoldInputs) (w : World) (a : HoldArgs) : Result Booking × World :=
  if a.userId = "" then (.error userRequired, w)
  else match acquireLock w.locks (lockKey a.tripId a.seatId) x.lockValue (lockTtlMs env)
    x.tAcquire with
    | .error e => (.error e, w)
    | .ok (none, _) => (.error seatBusy, w)
    | .ok (some lockValue, locks) =>
      let r := holdInLock env x w.bookings a
      -- finally
      let released := releaseLock locks (lockKey a.tripId a.seatId) lockValue x.tRelease
        x.releaseFails
      (r.1, ⟨r.2, released.2⟩)

/-! ## Confirmation and release -/

def bookingIdRequired : AppError := .ValidationError "Booking ID is required"

def bookingNotFound : AppError := .NotFoundError "Booking not found"

def notPending (s : BookingStatus) : AppError :=
  .ConflictError ("Cannot confirm booking with status " ++ s.toText ++
    ". Only PENDING bookings can be confirmed.")

def holdExpired : AppError :=
  .ConflictError "Booking hold has expired. The hold is no longer valid."

/-- `booking.holdExpiresAt && booking.holdExpiresAt.getTime() < Date.now()`. -/
def Booking.hasExpired (b : Booking) (now : Int) : Bool :=
  match b.holdExpiresAt with
  | none => false
  | some e => decide (e < now)

def confirmBooking (bookings : BookingTable) (now : Int) (id : String) :
    Result Booking × BookingTable :=
  if id = "" then (.error bookingIdRequired, bookings)
  else match bookings.find id with
    | none => (.error bookingNotFound, bookings)
    | some booking =>
      if booking.status ≠ .PENDING then (.error (notPending booking.status), bookings)
      else if booking.hasExpired now then
        match updateStatus bookings id .EXPIRED with
        | (.ok _, bookings') => (.error holdExpired, bookings')
        | (.error e, bookings') => (.error e, bookings')
      else updateStatus bookings id .CONFIRMED

def invalidReason : AppError :=
  .ValidationError "Invalid release reason. Must be 'PAYMENT_FAILED' or 'USER_CANCELLED'"

/-- The status a release reason leads to; `none` is an invalid reason. -/
def targetStatus (reason : String) : Option BookingStatus :=
  if reason = "PAYMENT_FAILED" then some .FAILED
  else if reason = "USER_CANCELLED" then some .CANCELLED
  else none

def releaseBooking (bookings : BookingTable) (id : String) (reason : String) :
    Result Booking × BookingTable :=
  if id = "" then (.error bookingIdRequired, bookings)
  else match targetStatus reason with
    | none => (.error invalidReason, bookings)
    | some target =>
      match bookings.find id with
      | none => (.error bookingNotFound, bookings)
      | some _ => updateStatus bookings id target

/-! ## What a call does -/

/-- The stops are integers. -/
def HoldArgs.Whole (a : HoldArgs) : Prop := a.fromSeq.isInteger = true ∧ a.toSeq.isInteger = true

instance (a : HoldArgs) : Decidable a.Whole := inferInstanceAs (Decidable (_ ∧ _))

/-- The arguments pass the checks of `checkAvailability`. -/
def HoldArgs.Valid (a : HoldArgs) : Prop :=
  ∃ seg, validateSegment a.tripId a.seatId a.fromSeq a.toSeq = .ok seg

/-- Integer stops that pass are in order. -/
theorem HoldArgs.Valid.lt {a : HoldArgs} {m n : Int} (h : a.Valid) (hf : a.fromSeq = .ofInt m)
    (ht : a.toSeq = .ofInt n) : m < n := by
  obtain ⟨seg, hv⟩ := h
  obtain ⟨hsf, hst⟩ := validateSegment_ok hv
  have hlt := seg.lt
  rw [← Value.number.inj (hf.symm.trans hsf), ← Value.number.inj (ht.symm.trans hst),
    Number.lt_ofInt] at hlt
  exact of_decide_eq_true hlt

/-- The request shares a leg with the row. -/
def HoldArgs.Meets (a : HoldArgs) (b : Booking) : Prop :=
  ∃ p q, a.fromSeq = .number p ∧ a.toSeq = .number q ∧
    (Number.ofInt b.fromStopSeq).lt q = true ∧ p.lt (.ofInt b.toStopSeq) = true

/-- `b` is the row a successful `createHold` adds: a hold of the stops that are stored
of the request, which meets no active row of its seat, as the query saw them at
`tQuery`. -/
structure Granted (env : Env) (tQuery tStamp : Int) (bookings : BookingTable) (a : HoldArgs)
    (b : Booking) (bookings' : BookingTable) : Prop where
  insert : bookings.insert b = some bookings'
  row : RowOf env.ids (holdData env a tStamp) b
  valid : a.Valid
  clear : ∀ c ∈ bookings.rows, c.SameSeat b → isActive tQuery c = true → ¬ a.Meets c

section
variable {env : Env} {tQuery tStamp t : Int} {bookings bookings' : BookingTable} {a : HoldArgs}
  {b : Booking} {id : String} {seg : Segment}

theorem Granted.tripId (h : Granted env tQuery tStamp bookings a b bookings') :
    env.ids.keep a.tripId = some b.tripId := h.row.tripId

theorem Granted.seatId (h : Granted env tQuery tStamp bookings a b bookings') :
    env.ids.keep a.seatId = some b.seatId := h.row.seatId

theorem Granted.userId (h : Granted env tQuery tStamp bookings a b bookings') :
    env.ids.keep a.userId = some b.userId := h.row.userId

theorem Granted.fromSeq (h : Granted env tQuery tStamp bookings a b bookings') :
    a.fromSeq.toInt4 = some b.fromStopSeq := h.row.fromStopSeq

theorem Granted.toSeq (h : Granted env tQuery tStamp bookings a b bookings') :
    a.toSeq.toInt4 = some b.toStopSeq := h.row.toStopSeq

theorem Granted.status (h : Granted env tQuery tStamp bookings a b bookings') :
    b.status = .PENDING :=
  h.row.status

theorem Granted.expires (h : Granted env tQuery tStamp bookings a b bookings') :
    b.holdExpiresAt = some (tStamp + holdDurationMs env) := h.row.holdExpiresAt

/-- What overlaps the stored stops meets those of the request. -/
theorem Granted.free (h : Granted env tQuery tStamp bookings a b bookings') :
    ∀ c ∈ bookings.rows, c.SameSeat b → isActive tQuery c = true → ¬ c.Overlaps b := by
  intro c hc hseat hact hov
  obtain ⟨p, hp, hf⟩ := Value.number_of_toInt4 h.fromSeq
  obtain ⟨q, hq, ht⟩ := Value.number_of_toInt4 h.toSeq
  exact h.clear c hc hseat hact ⟨p, q, hp, hq, Number.ofInt_lt_of_toInt4 ht hov.1,
    Number.lt_ofInt_of_toInt4 hf hov.2⟩

/-- A validated segment without a conflict, written as it is stored. -/
theorem granted_of_createBooking
    (hv : validateSegment a.tripId a.seatId a.fromSeq a.toSeq = .ok seg)
    (hc : ∀ c ∈ activeRows bookings b.tripId b.seatId tQuery, blocking c.status = true →
      (Number.ofInt c.fromStopSeq).lt seg.toSeq = true →
        seg.fromSeq.lt (.ofInt c.toStopSeq) = false)
    (h : createBooking env.ids bookings id (holdData env a tStamp) = .ok (b, bookings')) :
    Granted env tQuery tStamp bookings a b bookings' := by
  obtain ⟨hi, -, hr⟩ := createBooking_ok h
  refine ⟨hi, hr, ⟨seg, hv⟩, ?_⟩
  rintro c hc' hseat hact ⟨p, q, hp, hq, h1, h2⟩
  obtain ⟨hf, ht⟩ := validateSegment_ok hv
  obtain rfl : seg.fromSeq = p := Value.number.inj (hf.symm.trans hp)
  obtain rfl : seg.toSeq = q := Value.number.inj (ht.symm.trans hq)
  rw [hc c (mem_activeRows.mpr ⟨hc', hseat.1, hseat.2, hact⟩) (blocking_of_isActive hact) h1] at h2
  cases h2

end

/-- The answer of `checkAvailability` is that of the loop over the rows of the seat. -/
theorem checkAvailability_of_segment {tripId seatId : String} {fromSeq toSeq : Value}
    {seg : Segment}
    (hv : validateSegment tripId seatId fromSeq toSeq = .ok seg) (l : List Booking) :
    checkAvailability tripId seatId fromSeq toSeq (.ok l) =
      .ok (!hasSegmentConflict (segmentsOf l) seg.fromSeq seg.toSeq) := by
  simp only [checkAvailability, hv, bind, Except.bind, pure, Except.pure]

/-- `true` is answered for a validated segment, by a query that answers. -/
theorem checkAvailability_true {tripId seatId : String} {fromSeq toSeq : Value}
    {find : Result (List Booking)}
    (h : checkAvailability tripId seatId fromSeq toSeq find = .ok true) :
    ∃ seg l, validateSegment tripId seatId fromSeq toSeq = .ok seg ∧ find = .ok l ∧
      hasSegmentConflict (segmentsOf l) seg.fromSeq seg.toSeq = false := by
  unfold checkAvailability at h
  cases hv : validateSegment tripId seatId fromSeq toSeq with
  | error e => rw [hv] at h; cases h
  | ok seg =>
    cases find with
    | error e => rw [hv] at h; cases h
    | ok l =>
      simp only [hv, bind, Except.bind, pure, Except.pure, Except.ok.injEq, Bool.not_eq_true'] at h
      exact ⟨seg, l, rfl, rfl, h⟩

/-- The loop over the rows of a seat finds nothing in the way. -/
theorem no_conflict {l : List Booking} {f t : Number}
    (h : hasSegmentConflict (segmentsOf l) f t = false) :
    ∀ c ∈ l, blocking c.status = true → (Number.ofInt c.fromStopSeq).lt t = true →
      f.lt (.ofInt c.toStopSeq) = false := by
  intro c hc hb h1
  by_contra h2
  rw [(segmentsOf_conflict_iff l f t).mpr ⟨c, hc, hb, h1, (Bool.not_eq_false _).mp h2⟩] at h
  cases h

/-- What was found free and is then written is a granted hold. -/
theorem granted_of_available {env : Env} {tQuery tStamp : Int} {bookings bookings' : BookingTable}
    {a : HoldArgs} {b : Booking} {id : String}
    (ha : checkAvailability a.tripId a.seatId a.fromSeq a.toSeq
      (findActiveBookingsForSeat env.ids bookings a.tripId a.seatId tQuery) = .ok true)
    (h : createBooking env.ids bookings id (holdData env a tStamp) = .ok (b, bookings')) :
    Granted env tQuery tStamp bookings a b bookings' := by
  obtain ⟨seg, l, hv, hl, hc⟩ := checkAvailability_true ha
  obtain ⟨trip, seat, ht, hs, rfl⟩ := findActive_ok hl
  have hr := (createBooking_ok h).2.2
  have htrip : trip = b.tripId := Option.some.inj (ht.symm.trans hr.tripId)
  have hseat : seat = b.seatId := Option.some.inj (hs.symm.trans hr.seatId)
  rw [htrip, hseat] at hc
  exact granted_of_createBooking hv (no_conflict hc) h

/-- The `try` block throws and leaves the table alone, or adds a row that is granted. -/
theorem holdInLock_cases (env : Env) (x : HoldInputs) (bookings : BookingTable) (a : HoldArgs) :
    (∃ e, holdInLock env x bookings a = (.error e, bookings)) ∨
      ∃ b bookings', holdInLock env x bookings a = (.ok b, bookings') ∧ b.id = x.id ∧
        Granted env x.tQuery x.tStamp bookings a b bookings' := by
  unfold holdInLock
  split
  · next e _ => exact .inl ⟨e, rfl⟩
  · next r hr =>
    split
    · exact .inl ⟨_, rfl⟩
    · next ha =>
      obtain rfl : r = true := by simpa using ha
      split
      · exact .inl ⟨_, rfl⟩
      · split
        · next e _ => exact .inl ⟨e, rfl⟩
        · next b bookings' hb =>
          refine .inr ⟨b, bookings', rfl, (createBooking_ok hb).2.1, granted_of_available ?_ hb⟩
          unfold findActive at hr
          split at hr
          · obtain ⟨-, _, -, hl, -⟩ := checkAvailability_true hr
            cases hl
          · exact hr

/-- `createHold` leaves the table alone or adds one granted row. -/
theorem createHold_cases (env : Env) (x : HoldInputs) (w : World) (a : HoldArgs) :
    (∃ e, (createHold env x w a).1 = .error e ∧ (createHold env x w a).2.bookings = w.bookings) ∨
      ∃ b, (createHold env x w a).1 = .ok b ∧ b.id = x.id ∧
        Granted env x.tQuery x.tStamp w.bookings a b (createHold env x w a).2.bookings := by
  unfold createHold
  split
  · exact .inl ⟨_, rfl, rfl⟩
  · split
    · exact .inl ⟨_, rfl, rfl⟩
    · exact .inl ⟨_, rfl, rfl⟩
    · rcases holdInLock_cases env x w.bookings a with ⟨e, he⟩ | ⟨b, bookings', hb, hid, hg⟩
      · exact .inl ⟨e, by rw [he], by rw [he]⟩
      · exact .inr ⟨b, by rw [hb], hid, by rw [hb]; exact hg⟩

/-- `confirmBooking` throws and leaves the table alone, or finds a `PENDING` row
and writes `EXPIRED` (and throws) or `CONFIRMED`. -/
theorem confirmBooking_cases (bookings : BookingTable) (now : Int) (id : String) :
    (∃ e, confirmBooking bookings now id = (.error e, bookings)) ∨
      ∃ b, bookings.find id = some b ∧ b.status = .PENDING ∧
        ((b.hasExpired now = true ∧
            confirmBooking bookings now id = (.error holdExpired, setStatus bookings id .EXPIRED)) ∨
          (b.hasExpired now = false ∧
            confirmBooking bookings now id =
              (.ok (b.withStatus .CONFIRMED), setStatus bookings id .CONFIRMED))) := by
  unfold confirmBooking
  split
  · exact .inl ⟨_, rfl⟩
  · split
    · exact .inl ⟨_, rfl⟩
    · next b hb =>
      split
      · exact .inl ⟨_, rfl⟩
      · next hs =>
        refine .inr ⟨b, hb, not_not.mp hs, ?_⟩
        cases he : b.hasExpired now with
        | true => simp [updateStatus_of_find _ hb]
        | false => simp [updateStatus_of_find _ hb]

/-- `releaseBooking` throws and leaves the table alone, or writes the status of
its reason over whatever the row had. -/
theorem releaseBooking_cases (bookings : BookingTable) (id reason : String) :
    (∃ e, releaseBooking bookings id reason = (.error e, bookings)) ∨
      ∃ b target, bookings.find id = some b ∧ targetStatus reason = some target ∧
        releaseBooking bookings id reason =
          (.ok (b.withStatus target), setStatus bookings id target) := by
  unfold releaseBooking
  split
  · exact .inl ⟨_, rfl⟩
  · split
    · exact .inl ⟨_, rfl⟩
    · next target ht =>
      split
      · exact .inl ⟨_, rfl⟩
      · next b hb => exact .inr ⟨b, target, hb, ht, updateStatus_of_find _ hb⟩

/-- A release of a booking that exists, with a valid reason. -/
theorem releaseBooking_of_find {bookings : BookingTable} {id reason : String} {b : Booking}
    {target : BookingStatus} (hid : id ≠ "") (ht : targetStatus reason = some target)
    (hb : bookings.find id = some b) :
    releaseBooking bookings id reason =
      (.ok (b.withStatus target), setStatus bookings id target) := by
  simp [releaseBooking, hid, ht, hb, updateStatus_of_find target hb]

theorem targetStatus_cases {reason : String} {s : BookingStatus}
    (h : targetStatus reason = some s) : s = .FAILED ∨ s = .CANCELLED := by
  unfold targetStatus at h
  split at h
  · cases h; exact .inl rfl
  · split at h
    · cases h; exact .inr rfl
    · cases h

end RouteGo.Bookings
