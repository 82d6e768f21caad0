import RouteGo.Bookings.Rows
import RouteGo.Bookings.Occupancy

/-!
# How a `createHold` ends

One call with nothing in between, shorter than its lock's time to live, any of
its three infrastructure calls failing or not. The `try` block has four ways to
throw (`HoldArgs.Raises`) and one to return; the lock is given back on each, and
a failed release changes neither the answer nor the table.
-/

namespace RouteGo.Bookings

open Js

/-! ## The `try` block -/

/-- The stops are numbers in order. -/
def HoldArgs.Ordered (a : HoldArgs) : Prop :=
  ∃ p q, a.fromSeq = .number p ∧ a.toSeq = .number q ∧ p.lt q = true

/-- A live row of the seat is in the way. -/
def HoldArgs.Blocked (C : IdColumn) (t : Int) (rows : List Booking) (a : HoldArgs) : Prop :=
  ∃ b ∈ rows, a.For C b.tripId b.seatId ∧ isActive t b = true ∧ a.Meets b

/-- `findActiveBookingsForSeat` as the call makes it. -/
def findCall (env : Env) (x : HoldInputs) (bookings : BookingTable) (a : HoldArgs) :
    Result (List Booking) :=
  findActive env bookings a x.tQuery x.findFails

/-- `createBooking` as the call makes it. -/
def createCall (env : Env) (x : HoldInputs) (bookings : BookingTable) (a : HoldArgs) :
    Result (Booking × BookingTable) :=
  if x.createFails then .error prismaError
  else createBooking env.ids bookings x.id (holdData env a x.tStamp)

/-- The errors of the `try` block. -/
inductive HoldArgs.Raises (env : Env) (x : HoldInputs) (bookings : BookingTable) (a : HoldArgs) :
    AppError → Prop
  | segment {e : AppError} (h : validateSegment a.tripId a.seatId a.fromSeq a.toSeq = .error e) :
      Raises env x bookings a e
  | find (hv : a.Valid) {e : AppError} (h : findCall env x bookings a = .error e) :
      Raises env x bookings a e
  | taken (hv : a.Valid) {l : List Booking} (hf : findCall env x bookings a = .ok l)
      (h : a.Blocked env.ids x.tQuery bookings.rows) : Raises env x bookings a (seatTaken a)
  | create (hv : a.Valid) {l : List Booking} (hf : findCall env x bookings a = .ok l)
      (hb : ¬ a.Blocked env.ids x.tQuery bookings.rows) {e : AppError}
      (h : createCall env x bookings a = .error e) : Raises env x bookings a e

/-- The way out that returns. -/
structure HoldArgs.Returns (env : Env) (x : HoldInputs) (bookings : BookingTable) (a : HoldArgs)
    (b : Booking) (bookings' : BookingTable) : Prop where
  valid : a.Valid
  found : ∃ l, findCall env x bookings a = .ok l
  free : ¬ a.Blocked env.ids x.tQuery bookings.rows
  created : createCall env x bookings a = .ok (b, bookings')

theorem HoldArgs.valid_iff {a : HoldArgs} : a.Valid ↔ a.tripId ≠ "" ∧ a.seatId ≠ "" ∧
    a.Ordered := by
  constructor
  · rintro ⟨seg, hv⟩
    obtain ⟨hf, ht⟩ := validateSegment_ok hv
    unfold validateSegment at hv
    split at hv
    · cases hv
    · next hids =>
      rw [not_or] at hids
      exact ⟨hids.1, hids.2, seg.fromSeq, seg.toSeq, hf, ht, seg.lt⟩
  · rintro ⟨htrip, hseat, p, q, hp, hq, hlt⟩
    exact ⟨⟨p, q, hlt⟩, by rw [hp, hq]; exact validateSegment_of_lt htrip hseat hlt⟩

section
variable {env : Env} {x : HoldInputs} {bookings bookings' : BookingTable} {a : HoldArgs}
  {b : Booking} {e : AppError} {w : World}

theorem findCall_ok {l : List Booking} (h : findCall env x bookings a = .ok l) :
    ∃ trip seat, a.For env.ids trip seat ∧ l = activeRows bookings trip seat x.tQuery := by
  unfold findCall findActive at h
  split at h
  · cases h
  · obtain ⟨trip, seat, ht, hs, hl⟩ := findActive_ok h
    exact ⟨trip, seat, ⟨ht, hs⟩, hl⟩

theorem conflict_iff_blocked {seg : Segment} {l : List Booking}
    (hv : validateSegment a.tripId a.seatId a.fromSeq a.toSeq = .ok seg)
    (hl : findCall env x bookings a = .ok l) :
    hasSegmentConflict (segmentsOf l) seg.fromSeq seg.toSeq = true ↔
      a.Blocked env.ids x.tQuery bookings.rows := by
  obtain ⟨trip, seat, hfor, rfl⟩ := findCall_ok hl
  obtain ⟨hf, ht⟩ := validateSegment_ok hv
  rw [segmentsOf_conflict_iff]
  constructor
  · rintro ⟨b, hb, -, h1, h2⟩
    obtain ⟨hrow, rfl, rfl, hact⟩ := mem_activeRows.mp hb
    exact ⟨b, hrow, hfor, hact, _, _, hf, ht, h1, h2⟩
  · rintro ⟨b, hrow, hforb, hact, p, q, hp, hq, h1, h2⟩
    obtain rfl : seg.fromSeq = p := Value.number.inj (hf.symm.trans hp)
    obtain rfl : seg.toSeq = q := Value.number.inj (ht.symm.trans hq)
    have htrip := Option.some.inj (hforb.1.symm.trans hfor.1)
    have hseat := Option.some.inj (hforb.2.symm.trans hfor.2)
    exact ⟨b, mem_activeRows.mpr ⟨hrow, htrip, hseat, hact⟩, blocking_of_isActive hact, h1, h2⟩

/-- The `try` block returns the new row, or throws and leaves the table alone. -/
theorem holdInLock_outcome (env : Env) (x : HoldInputs) (bookings : BookingTable) (a : HoldArgs) :
    (∃ b bookings', holdInLock env x bookings a = (.ok b, bookings') ∧
        a.Returns env x bookings b bookings') ∨
      ∃ e, holdInLock env x bookings a = (.error e, bookings) ∧ a.Raises env x bookings e := by
  cases hv : validateSegment a.tripId a.seatId a.fromSeq a.toSeq with
  | error e =>
    exact .inr ⟨e, by simp [holdInLock, checkAvailability, hv, bind, Except.bind], .segment hv⟩
  | ok seg =>
    cases hl : findCall env x bookings a with
    | error e =>
      have hcheck : checkAvailability a.tripId a.seatId a.fromSeq a.toSeq
          (findActive env bookings a x.tQuery x.findFails) = .error e := by
        rw [← findCall, hl]
        simp [checkAvailability, hv, bind, Except.bind]
      exact .inr ⟨e, by simp [holdInLock, hcheck], .find ⟨seg, hv⟩ hl⟩
    | ok l =>
      have hcheck : checkAvailability a.tripId a.seatId a.fromSeq a.toSeq
          (findActive env bookings a x.tQuery x.findFails) =
            .ok (!hasSegmentConflict (segmentsOf l) seg.fromSeq seg.toSeq) := by
        rw [← findCall, hl, checkAvailability_of_segment hv]
      by_cases hb : a.Blocked env.ids x.tQuery bookings.rows
      · have hc := (conflict_iff_blocked hv hl).mpr hb
        exact .inr ⟨seatTaken a, by simp [holdInLock, hcheck, hc], .taken ⟨seg, hv⟩ hl hb⟩
      · have hc := Bool.eq_false_iff.mpr fun h => hb ((conflict_iff_blocked hv hl).mp h)
        cases hcr : createCall env x bookings a with
        | error e =>
          refine .inr ⟨e, ?_, .create ⟨seg, hv⟩ hl hb hcr⟩
          unfold createCall at hcr
          cases hcf : x.createFails <;> simp_all [holdInLock]
        | ok r =>
          refine .inl ⟨r.1, r.2, ?_, ⟨⟨seg, hv⟩, ⟨l, hl⟩, hb, hcr⟩⟩
          unfold createCall at hcr
          cases hcf : x.createFails <;> simp_all [holdInLock]

/-- The two ways out exclude each other. -/
theorem HoldArgs.Returns.not_raises (h : a.Returns env x bookings b bookings') :
    ¬ a.Raises env x bookings e := by
  rintro (hs | ⟨-, hf⟩ | ⟨-, -, hb⟩ | ⟨-, -, -, hc⟩)
  · obtain ⟨seg, hv⟩ := h.valid
    rw [hv] at hs
    cases hs
  · obtain ⟨l, hl⟩ := h.found
    rw [hl] at hf
    cases hf
  · exact h.free hb
  · rw [h.created] at hc
    cases hc

theorem HoldArgs.Returns.createBooking (h : a.Returns env x bookings b bookings') :
    Bookings.createBooking env.ids bookings x.id (holdData env a x.tStamp) =
      .ok (b, bookings') := by
  have hc := h.created
  unfold createCall at hc
  split at hc
  · cases hc
  · exact hc

/-! ## The lock around it -/

theorem acquireLock_of_free {locks : Locks} {key v : String} {ttl now : Int} (ht : 0 < ttl)
    (h : locks.holder key now = none) :
    ∃ locks', acquireLock locks key v ttl now = .ok (some v, locks') ∧
      locks'.entry key = some ⟨v, now + ttl⟩ ∧ ∀ k, k ≠ key → locks'.entry k = locks.entry k := by
  have hset : locks.setNX key v ttl now = some _ := Leases.setNX_eq_some.mpr ⟨h, rfl⟩
  refine ⟨_, ?_, Leases.setNX_self hset, fun k hk => Leases.setNX_ne hset hk⟩
  rw [acquireLock, if_neg (by omega), hset]

theorem releaseLock_own {locks : Locks} {key v : String} {d now : Int}
    (h : locks.entry key = some ⟨v, d⟩) (hd : now < d) :
    (releaseLock locks key v now false).2.entry key = none := by
  simp [releaseLock, Leases.delIf, Leases.holder_of_entry h hd]

theorem releaseLock_ne {locks : Locks} {key v k : String} {now : Int} (fails : Bool)
    (hk : k ≠ key) : (releaseLock locks key v now fails).2.entry k = locks.entry k := by
  cases fails with
  | true => rfl
  | false => exact Leases.delIf_ne hk

/-- How a call ends that found the lock free: what it returns and throws, and
what it leaves in the table and of the lock. -/
structure Entered (env : Env) (x : HoldInputs) (w : World) (a : HoldArgs)
    (r : Result Booking × World) : Prop where
  returns_iff : (∃ b, r.1 = .ok b) ↔
    a.tripId ≠ "" ∧ a.seatId ≠ "" ∧ a.Ordered ∧ ¬ a.Blocked env.ids x.tQuery w.bookings.rows ∧
      (∃ l, findCall env x w.bookings a = .ok l) ∧ ∃ row, createCall env x w.bookings a = .ok row
  returned : ∀ b, r.1 = .ok b → b.id = x.id ∧ b.status = .PENDING ∧
    Granted env x.tQuery x.tStamp w.bookings a b r.2.bookings ∧
      r.2.bookings.rows = w.bookings.rows ++ [b]
  thrown : ∀ e, r.1 = .error e → a.Raises env x w.bookings e ∧ r.2.bookings = w.bookings
  freed : x.releaseFails = false → r.2.locks.entry (lockKey a.tripId a.seatId) = none
  kept : x.releaseFails = true →
    r.2.locks.holder (lockKey a.tripId a.seatId) x.tRelease = some x.lockValue
  others : ∀ k, k ≠ lockKey a.tripId a.seatId → r.2.locks.entry k = w.locks.entry k

theorem granted_of_returns (h : a.Returns env x bookings b bookings') :
    b.id = x.id ∧ b.status = .PENDING ∧ Granted env x.tQuery x.tStamp bookings a b bookings' := by
  obtain ⟨l, hl⟩ := h.found
  obtain ⟨seg, hv⟩ := h.valid
  have hc := Bool.eq_false_iff.mpr fun hc => h.free ((conflict_iff_blocked hv hl).mp hc)
  have hcheck : checkAvailability a.tripId a.seatId a.fromSeq a.toSeq
      (findActiveBookingsForSeat env.ids bookings a.tripId a.seatId x.tQuery) = .ok true := by
    obtain ⟨trip, seat, hfor, rfl⟩ := findCall_ok hl
    rw [findActive_of_keep hfor.1 hfor.2, checkAvailability_of_segment hv, hc]
    rfl
  have hg := granted_of_available hcheck h.createBooking
  exact ⟨(createBooking_ok h.createBooking).2.1, hg.status, hg⟩

theorem createHold_of_held (hu : a.userId ≠ "") (ht : 0 < lockTtlMs env)
    (h : w.locks.holder (lockKey a.tripId a.seatId) x.tAcquire ≠ none) :
    createHold env x w a = (.error seatBusy, w) := by
  obtain ⟨v, hv⟩ := Option.ne_none_iff_exists'.mp h
  have hac : acquireLock w.locks (lockKey a.tripId a.seatId) x.lockValue
    (lockTtlMs env) x.tAcquire = .ok (none, w.locks) := by
    rw [acquireLock, if_neg (by omega), Leases.setNX_eq_none hv]
  simp [createHold, hu, hac]

theorem createHold_of_free (hu : a.userId ≠ "") (h0 : x.tAcquire ≤ x.tRelease)
    (hshort : x.tRelease < x.tAcquire + lockTtlMs env)
    (h : w.locks.holder (lockKey a.tripId a.seatId) x.tAcquire = none) :
    Entered env x w a (createHold env x w a) := by
  obtain ⟨locks, hac, hown, hothers⟩ := acquireLock_of_free (v := x.lockValue)
    (show 0 < lockTtlMs env by omega) h
  have hr : createHold env x w a = ((holdInLock env x w.bookings a).1,
      ⟨(holdInLock env x w.bookings a).2,
        (releaseLock locks (lockKey a.tripId a.seatId) x.lockValue x.tRelease
          x.releaseFails).2⟩) := by
    simp [createHold, hu, hac]
  rw [hr]
  refine ⟨?_, ?_, ?_, fun hf => ?_, fun hf => ?_, fun k hk => ?_⟩
  · rcases holdInLock_outcome env x w.bookings a with ⟨b, bookings', hh, hret⟩ | ⟨e, hh, hraise⟩
    · obtain ⟨htrip, hseat, hord⟩ := HoldArgs.valid_iff.mp hret.valid
      exact ⟨fun _ => ⟨htrip, hseat, hord, hret.free, hret.found, _, hret.created⟩,
        fun _ => ⟨b, by rw [hh]⟩⟩
    · rw [hh]
      constructor
      · rintro ⟨b, hb⟩
        cases hb
      · rintro ⟨htrip, hseat, hord, hfree, hfound, row, hcr⟩
        have hret : a.Returns env x w.bookings row.1 row.2 :=
          ⟨HoldArgs.valid_iff.mpr ⟨htrip, hseat, hord⟩, hfound, hfree, hcr⟩
        exact absurd hraise hret.not_raises
  · intro b hb
    rcases holdInLock_outcome env x w.bookings a with ⟨b', bookings', hh, hret⟩ | ⟨e, hh, -⟩
    · rw [hh] at hb ⊢
      cases hb
      obtain ⟨hid, hst, hg⟩ := granted_of_returns hret
      exact ⟨hid, hst, hg, Table.rows_of_insert hg.insert⟩
    · rw [hh] at hb
      cases hb
  · intro e he
    rcases holdInLock_outcome env x w.bookings a with ⟨b, bookings', hh, -⟩ | ⟨e', hh, hraise⟩
    · rw [hh] at he
      cases he
    · rw [hh] at he ⊢
      cases he
      exact ⟨hraise, rfl⟩
  · rw [hf]
    exact releaseLock_own hown hshort
  · rw [hf]
    exact Leases.holder_of_entry hown hshort
  · rw [← hothers k hk]
    exact releaseLock_ne _ hk

/-- **Every way a hold can end.** Without a user or with the lock held it throws
and nothing changes; else it is as `Entered` says. -/
theorem createHold_outcome (env : Env) (x : HoldInputs) (w : World) (a : HoldArgs)
    (h0 : x.tAcquire ≤ x.tRelease) (hshort : x.tRelease < x.tAcquire + lockTtlMs env) :
    (a.userId = "" → createHold env x w a = (.error userRequired, w)) ∧
    (a.userId ≠ "" → w.locks.holder (lockKey a.tripId a.seatId) x.tAcquire ≠ none →
      createHold env x w a = (.error seatBusy, w)) ∧
    (a.userId ≠ "" → w.locks.holder (lockKey a.tripId a.seatId) x.tAcquire = none →
      Entered env x w a (createHold env x w a)) := by
  refine ⟨fun hu => ?_, fun hu h => ?_, fun hu h => ?_⟩
  · simp [createHold, hu]
  · exact createHold_of_held hu (by omega) h
  · exact createHold_of_free hu h0 hshort h

end

/-- A refused insert and a release script that throws. -/
theorem createHold_outcome_release_fails :
    (createHold ⟨5, 5000, .texts⟩ (holdInputs 0 "a" "x" {} { create := true, release := true })
      ⟨Table.empty, Leases.empty⟩ ⟨"t", "1", "ann", .ofInt 1, .ofInt 2⟩).2.locks.holder
        (lockKey "t" "1") 0 = some "x" :=
  ((createHold_outcome ⟨5, 5000, .texts⟩
    (holdInputs 0 "a" "x" {} { create := true, release := true })
    ⟨Table.empty, Leases.empty⟩ ⟨"t", "1", "ann", .ofInt 1, .ofInt 2⟩ (by decide) (by decide)).2.2
      (by decide) rfl).kept rfl

end RouteGo.Bookings
