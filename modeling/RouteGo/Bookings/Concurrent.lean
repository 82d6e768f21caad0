import RouteGo.Bookings.Service
import RouteGo.Lib.Pool

/-!
# Interleaved calls of `BookingService`

Every `await` of `createHold`, `confirmBooking` and `releaseBooking` is a point
where other calls run and time passes. A step of a call is one operation of
Redis or of the database, or the code between two of them that reads the clock.
`HoldMove`, `ConfirmMove` and `ReleaseMove` say once what the steps of each
method do.

`writes` and `released` are the history of a run, which no step reads.
-/

namespace RouteGo.Bookings

/-- The `crypto.randomUUID()` of each call; no two are equal. -/
structure Tokens where
  gen : Nat → String
  inj : Function.Injective gen

/-- Tokens `x`, `xx`, `xxx`, … -/
def unaryTokens : Tokens where
  gen n := String.ofList (List.replicate (n + 1) 'x')
  inj m n h := by simpa using congrArg List.length (String.ofList_injective h)

/-- What a `createHold` knows of the lock it took. -/
structure Held where
  lockValue : String
  acquiredAt : Int

def Held.deadline (env : Env) (l : Held) : Int := l.acquiredAt + lockTtlMs env

/-- A `createBooking` that succeeded, with the clock readings of its call;
`release` is the instant of its `releaseLock` and whether the script threw. -/
structure Write where
  call : Nat
  args : HoldArgs
  id : String
  lock : Held
  tQuery : Int
  tStamp : Int
  tWrite : Int
  row : Booking
  release : Option (Int × Bool)

structure Shared where
  bookings : BookingTable
  locks : Locks
  clock : Int
  writes : List Write
  released : List String

/-- What a step takes from outside: the id the database gives to a row, and
whether the operation throws, without effect. -/
structure StepIn where
  rowId : String := ""
  fault : Bool := false

inductive HoldPc where
  | start
  | locked (l : Held)
  | querying (l : Held) (now : Int)
  | available (l : Held) (now : Int)
  | inserting (l : Held) (now stamp : Int)
  | releasing (l : Held) (res : Result Booking)
  | done (res : Result Booking)

inductive ConfirmPc where
  | start
  | found (booking : Booking)
  | expiring
  | confirming
  | done (res : Result Booking)

inductive ReleasePc where
  | start
  | writing (targetStatus : BookingStatus)
  | done (res : Result Booking)

inductive Call where
  | createHold (a : HoldArgs) (pc : HoldPc)
  | confirmBooking (id : String) (pc : ConfirmPc)
  | releaseBooking (id reason : String) (pc : ReleasePc)

def HoldArgs.lockKey (a : HoldArgs) : String := Bookings.lockKey a.tripId a.seatId

/-- `checkAvailability` for the arguments of a hold. -/
def HoldArgs.available (a : HoldArgs) (find : Result (List Booking)) : Result Bool :=
  checkAvailability a.tripId a.seatId a.fromSeq a.toSeq find

/-- Record the release of call `i`. -/
def closeWrite (i : Nat) (t : Int) (fails : Bool) (w : Write) : Write :=
  if w.call = i then { w with release := some (t, fails) } else w

@[simp] theorem closeWrite_call (j : Nat) (t : Int) (f : Bool) (w : Write) :
    (closeWrite j t f w).call = w.call := by unfold closeWrite; split <;> rfl

@[simp] theorem closeWrite_args (j : Nat) (t : Int) (f : Bool) (w : Write) :
    (closeWrite j t f w).args = w.args := by unfold closeWrite; split <;> rfl

@[simp] theorem closeWrite_row (j : Nat) (t : Int) (f : Bool) (w : Write) :
    (closeWrite j t f w).row = w.row := by unfold closeWrite; split <;> rfl

@[simp] theorem closeWrite_lock (j : Nat) (t : Int) (f : Bool) (w : Write) :
    (closeWrite j t f w).lock = w.lock := by unfold closeWrite; split <;> rfl

def holdStep (env : Env) (T : Tokens) (sh : Shared) (i : Nat) (a : HoldArgs) (e : StepIn) :
    HoldPc → Option (Shared × HoldPc)
  | .start =>
    if a.userId = "" then some (sh, .done (.error userRequired))
    else if e.fault then some (sh, .done (.error redisError))
    else match acquireLock sh.locks a.lockKey (T.gen i) (lockTtlMs env) sh.clock with
      | .error err => some (sh, .done (.error err))
      | .ok (none, _) => some (sh, .done (.error seatBusy))
      | .ok (some lockValue, locks) =>
        some ({ sh with locks := locks }, .locked ⟨lockValue, sh.clock⟩)
  | .locked l =>
    match validateSegment a.tripId a.seatId a.fromSeq a.toSeq with
    | .error err => some (sh, .releasing l (.error err))
    | .ok _ => some (sh, .querying l sh.clock)
  | .querying l now =>
    match a.available (findActive env sh.bookings a now e.fault) with
    | .error err => some (sh, .releasing l (.error err))
    | .ok isAvailable =>
      if !isAvailable then some (sh, .releasing l (.error (seatTaken a)))
      else some (sh, .available l now)
  | .available l now => some (sh, .inserting l now sh.clock)
  | .inserting l now stamp =>
    if e.fault then some (sh, .releasing l (.error prismaError))
    else match createBooking env.ids sh.bookings e.rowId (holdData env a stamp) with
      | .error err => some (sh, .releasing l (.error err))
      | .ok (row, bookings) =>
        let write : Write := ⟨i, a, e.rowId, l, now, stamp, sh.clock, row, none⟩
        some ({ sh with bookings := bookings, writes := sh.writes ++ [write] },
          .releasing l (.ok row))
  | .releasing l res =>
    let released := releaseLock sh.locks a.lockKey l.lockValue sh.clock e.fault
    some ({ sh with
      locks := released.2
      writes := sh.writes.map (closeWrite i sh.clock e.fault) }, .done res)
  | .done _ => none

/-- `prisma.booking.update` as a step. -/
def writeStatus (sh : Shared) (id : String) (s : BookingStatus) (fault : Bool) :
    Result Booking × Shared :=
  if fault then (.error prismaError, sh)
  else
    let r := updateStatus sh.bookings id s
    (r.1, { sh with bookings := r.2 })

def confirmStep (sh : Shared) (id : String) (e : StepIn) : ConfirmPc → Option (Shared × ConfirmPc)
  | .start =>
    if id = "" then some (sh, .done (.error bookingIdRequired))
    else if e.fault then some (sh, .done (.error prismaError))
    else match sh.bookings.find id with
      | none => some (sh, .done (.error bookingNotFound))
      | some booking => some (sh, .found booking)
  | .found booking =>
    if booking.status ≠ .PENDING then some (sh, .done (.error (notPending booking.status)))
    else if booking.hasExpired sh.clock then some (sh, .expiring)
    else some (sh, .confirming)
  | .expiring =>
    match writeStatus sh id .EXPIRED e.fault with
    | (.error err, sh') => some (sh', .done (.error err))
    | (.ok _, sh') => some (sh', .done (.error holdExpired))
  | .confirming =>
    let r := writeStatus sh id .CONFIRMED e.fault
    some (r.2, .done r.1)
  | .done _ => none

def releaseStep (sh : Shared) (id reason : String) (e : StepIn) :
    ReleasePc → Option (Shared × ReleasePc)
  | .start =>
    if id = "" then some (sh, .done (.error bookingIdRequired))
    else match targetStatus reason with
      | none => some (sh, .done (.error invalidReason))
      | some target =>
        if e.fault then some (sh, .done (.error prismaError))
        else match sh.bookings.find id with
          | none => some (sh, .done (.error bookingNotFound))
          | some _ => some (sh, .writing target)
  | .writing target =>
    match writeStatus sh id target e.fault with
    | (.error err, sh') => some (sh', .done (.error err))
    | (.ok b, sh') => some ({ sh' with released := id :: sh'.released }, .done (.ok b))
  | .done _ => none

def callStep (env : Env) (T : Tokens) (sh : Shared) (i : Nat) (p : Call) (e : StepIn) :
    Option (Shared × Call) :=
  match p with
  | .createHold a pc => (holdStep env T sh i a e pc).map fun r => (r.1, .createHold a r.2)
  | .confirmBooking id pc => (confirmStep sh id e pc).map fun r => (r.1, .confirmBooking id r.2)
  | .releaseBooking id reason pc =>
    (releaseStep sh id reason e pc).map fun r => (r.1, .releaseBooking id reason r.2)

/-- The environment lets `d` milliseconds pass. -/
def service (env : Env) (T : Tokens) : Pool.Spec Shared Call StepIn Nat where
  act sh i p e := callStep env T sh i p e
  env sh d := some { sh with clock := sh.clock + d }

/-! ## What a step does -/

/-- The moves of a `createHold`. -/
inductive HoldMove (env : Env) (T : Tokens) (sh : Shared) (i : Nat) (a : HoldArgs) :
    HoldPc → Shared → HoldPc → Prop
  | fail (err) : HoldMove env T sh i a .start sh (.done (.error err))
  | acquire {locks} (hu : a.userId ≠ "") (ht : 0 < lockTtlMs env)
      (h : sh.locks.setNX a.lockKey (T.gen i) (lockTtlMs env) sh.clock = some locks) :
      HoldMove env T sh i a .start { sh with locks := locks } (.locked ⟨T.gen i, sh.clock⟩)
  | ask {l} : HoldMove env T sh i a (.locked l) sh (.querying l sh.clock)
  | answer {l now}
      (h : a.available (findActiveBookingsForSeat env.ids sh.bookings a.tripId a.seatId now) =
        .ok true) : HoldMove env T sh i a (.querying l now) sh (.available l now)
  | stamp {l now} : HoldMove env T sh i a (.available l now) sh (.inserting l now sh.clock)
  | write {l now stamp rowId row bookings}
      (h : createBooking env.ids sh.bookings rowId (holdData env a stamp) = .ok (row, bookings)) :
      HoldMove env T sh i a (.inserting l now stamp)
        { sh with
          bookings := bookings
          writes := sh.writes ++ [⟨i, a, rowId, l, now, stamp, sh.clock, row, none⟩] }
        (.releasing l (.ok row))
  | refuse₁ {l} (err) : HoldMove env T sh i a (.locked l) sh (.releasing l (.error err))
  | refuse₂ {l now} (err) : HoldMove env T sh i a (.querying l now) sh (.releasing l (.error err))
  | refuse₃ {l now stamp} (err) :
      HoldMove env T sh i a (.inserting l now stamp) sh (.releasing l (.error err))
  | release {l res} (fails : Bool) : HoldMove env T sh i a (.releasing l res)
      { sh with
        locks := (releaseLock sh.locks a.lockKey l.lockValue sh.clock fails).2
        writes := sh.writes.map (closeWrite i sh.clock fails) }
      (.done res)

theorem holdStep_move {env : Env} {T : Tokens} {sh sh' : Shared} {i : Nat} {a : HoldArgs}
    {e : StepIn} {pc pc' : HoldPc} (h : holdStep env T sh i a e pc = some (sh', pc')) :
    HoldMove env T sh i a pc sh' pc' := by
  cases pc with
  | start =>
    simp only [holdStep] at h
    split at h
    · cases h; exact .fail _
    · next hu =>
      split at h
      · cases h; exact .fail _
      · split at h
        · cases h; exact .fail _
        · cases h; exact .fail _
        · next hl =>
          cases h
          obtain ⟨rfl, ht, hs⟩ := acquireLock_ok hl
          exact .acquire hu ht hs
  | locked l =>
    simp only [holdStep] at h
    split at h <;> cases h
    · exact .refuse₁ _
    · exact .ask
  | querying l now =>
    simp only [holdStep] at h
    split at h
    · cases h; exact .refuse₂ _
    · next b hb =>
      cases b with
      | false => cases h; exact .refuse₂ _
      | true =>
        cases h
        cases hf : e.fault with
        | false => exact .answer (by simpa [findActive, hf] using hb)
        | true =>
          -- a query that throws never answers
          obtain ⟨-, _, -, hl, -⟩ := checkAvailability_true hb
          simp [findActive, hf] at hl
  | available l now => cases h; exact .stamp
  | inserting l now stamp =>
    simp only [holdStep] at h
    split at h
    · cases h; exact .refuse₃ _
    · split at h
      · cases h; exact .refuse₃ _
      · next hb => cases h; exact .write hb
  | releasing l res => cases h; exact .release e.fault
  | done res => cases h

/-- The moves of a `confirmBooking`. -/
inductive ConfirmMove (sh : Shared) (id : String) : ConfirmPc → Shared → ConfirmPc → Prop
  | fail {pc} (err) : ConfirmMove sh id pc sh (.done (.error err))
  | find {booking} (h : sh.bookings.find id = some booking) :
      ConfirmMove sh id .start sh (.found booking)
  | guardExpired {booking} (hp : booking.status = .PENDING)
      (he : booking.hasExpired sh.clock = true) : ConfirmMove sh id (.found booking) sh .expiring
  | guardPassed {booking} (hp : booking.status = .PENDING)
      (he : booking.hasExpired sh.clock = false) : ConfirmMove sh id (.found booking) sh .confirming
  | expire : ConfirmMove sh id .expiring { sh with bookings := setStatus sh.bookings id .EXPIRED }
      (.done (.error holdExpired))
  | confirm {b} (hb : sh.bookings.find id = some b) : ConfirmMove sh id .confirming
      { sh with bookings := setStatus sh.bookings id .CONFIRMED }
      (.done (.ok (b.withStatus .CONFIRMED)))

/-- A status write throws without effect or rewrites the row. -/
theorem writeStatus_cases (sh : Shared) (id : String) (s : BookingStatus) (fault : Bool) :
    (∃ err, writeStatus sh id s fault = (.error err, sh)) ∨
      ∃ b, sh.bookings.find id = some b ∧ writeStatus sh id s fault =
        (.ok (b.withStatus s), { sh with bookings := setStatus sh.bookings id s }) := by
  unfold writeStatus
  split
  · exact .inl ⟨_, rfl⟩
  · cases hf : sh.bookings.find id with
    | none => exact .inl ⟨prismaError, by simp [updateStatus, hf]⟩
    | some b => exact .inr ⟨b, rfl, by simp [updateStatus_of_find s hf]⟩

theorem confirmStep_move {sh sh' : Shared} {id : String} {e : StepIn} {pc pc' : ConfirmPc}
    (h : confirmStep sh id e pc = some (sh', pc')) : ConfirmMove sh id pc sh' pc' := by
  cases pc with
  | start =>
    simp only [confirmStep] at h
    split at h
    · cases h; exact .fail _
    · split at h
      · cases h; exact .fail _
      · split at h
        · cases h; exact .fail _
        · next hb => cases h; exact .find hb
  | found booking =>
    simp only [confirmStep] at h
    split at h
    · cases h; exact .fail _
    · next hp =>
      split at h
      · next he => cases h; exact .guardExpired (not_not.mp hp) he
      · next he => cases h; exact .guardPassed (not_not.mp hp) (Bool.eq_false_iff.mpr he)
  | expiring =>
    rcases writeStatus_cases sh id .EXPIRED e.fault with ⟨err, hw⟩ | ⟨b, -, hw⟩ <;>
      simp only [confirmStep, hw] at h <;> cases h
    · exact .fail _
    · exact .expire
  | confirming =>
    rcases writeStatus_cases sh id .CONFIRMED e.fault with ⟨err, hw⟩ | ⟨b, hb, hw⟩ <;>
      simp only [confirmStep, hw] at h <;> cases h
    · exact .fail _
    · exact .confirm hb
  | done res => cases h

/-- The moves of a `releaseBooking`. -/
inductive ReleaseMove (sh : Shared) (id reason : String) : ReleasePc → Shared → ReleasePc → Prop
  | fail {pc} (err) : ReleaseMove sh id reason pc sh (.done (.error err))
  | find {target b} (ht : targetStatus reason = some target)
      (hb : sh.bookings.find id = some b) : ReleaseMove sh id reason .start sh (.writing target)
  | write {target b} (hb : sh.bookings.find id = some b) :
      ReleaseMove sh id reason (.writing target)
        { sh with
          bookings := setStatus sh.bookings id target
          released := id :: sh.released }
        (.done (.ok (b.withStatus target)))

theorem releaseStep_move {sh sh' : Shared} {id reason : String} {e : StepIn} {pc pc' : ReleasePc}
    (h : releaseStep sh id reason e pc = some (sh', pc')) :
    ReleaseMove sh id reason pc sh' pc' := by
  cases pc with
  | start =>
    simp only [releaseStep] at h
    split at h
    · cases h; exact .fail _
    · split at h
      · cases h; exact .fail _
      · next ht =>
        split at h
        · cases h; exact .fail _
        · split at h
          · cases h; exact .fail _
          · next hb => cases h; exact .find ht hb
  | writing target =>
    rcases writeStatus_cases sh id target e.fault with ⟨err, hw⟩ | ⟨b, hb, hw⟩ <;>
      simp only [releaseStep, hw] at h <;> cases h
    · exact .fail _
    · exact .write hb
  | done res => cases h

theorem ConfirmMove.frame {sh sh' : Shared} {id : String} {pc pc' : ConfirmPc}
    (hm : ConfirmMove sh id pc sh' pc') : sh'.locks = sh.locks ∧ sh'.clock = sh.clock ∧
      sh'.writes = sh.writes ∧ sh'.released = sh.released := by
  cases hm <;> exact ⟨rfl, rfl, rfl, rfl⟩

theorem ReleaseMove.frame {sh sh' : Shared} {id reason : String} {pc pc' : ReleasePc}
    (hm : ReleaseMove sh id reason pc sh' pc') : sh'.locks = sh.locks ∧ sh'.clock = sh.clock ∧
      sh'.writes = sh.writes := by
  cases hm <;> exact ⟨rfl, rfl, rfl⟩

theorem act_createHold {env : Env} {T : Tokens} {sh sh' : Shared} {i : Nat} {a : HoldArgs}
    {pc : HoldPc} {p : Call} {e : StepIn}
    (h : (service env T).act sh i (.createHold a pc) e = some (sh', p)) :
    ∃ pc', p = .createHold a pc' ∧ HoldMove env T sh i a pc sh' pc' := by
  simp only [service, callStep, Option.map_eq_some_iff, Prod.mk.injEq] at h
  obtain ⟨⟨sh₁, pc'⟩, hs, rfl, rfl⟩ := h
  exact ⟨pc', rfl, holdStep_move hs⟩

theorem act_confirmBooking {env : Env} {T : Tokens} {sh sh' : Shared} {i : Nat} {id : String}
    {pc : ConfirmPc} {p : Call} {e : StepIn}
    (h : (service env T).act sh i (.confirmBooking id pc) e = some (sh', p)) :
    ∃ pc', p = .confirmBooking id pc' ∧ ConfirmMove sh id pc sh' pc' := by
  simp only [service, callStep, Option.map_eq_some_iff, Prod.mk.injEq] at h
  obtain ⟨⟨sh₁, pc'⟩, hs, rfl, rfl⟩ := h
  exact ⟨pc', rfl, confirmStep_move hs⟩

theorem act_releaseBooking {env : Env} {T : Tokens} {sh sh' : Shared} {i : Nat}
    {id reason : String} {pc : ReleasePc} {p : Call} {e : StepIn}
    (h : (service env T).act sh i (.releaseBooking id reason pc) e = some (sh', p)) :
    ∃ pc', p = .releaseBooking id reason pc' ∧ ReleaseMove sh id reason pc sh' pc' := by
  simp only [service, callStep, Option.map_eq_some_iff, Prod.mk.injEq] at h
  obtain ⟨⟨sh₁, pc'⟩, hs, rfl, rfl⟩ := h
  exact ⟨pc', rfl, releaseStep_move hs⟩

end RouteGo.Bookings
