import RouteGo.Bookings.Live
import RouteGo.Bookings.Mutex

/-!
# Holds at the same time

The check of `createHold` and its insert are two operations, and the lock does
not travel with the insert. What the check found stays true while the lease of
the call counts (`StillFree`), so a write made in time adds a hold that could
have been granted at that very instant; the live rows stay disjoint in every
run whose writes are made in time, the ids being compared as exact strings by the
lock and by the store. Nothing stops a call whose lease has run out
from writing: `exists_late_write`.
-/

namespace RouteGo.Bookings

def Write.inputs (w : Write) : HoldInputs where
  id := w.id
  lockValue := w.lock.lockValue
  tAcquire := w.lock.acquiredAt
  tQuery := w.tQuery
  tStamp := w.tStamp
  tRelease := (w.release.map Prod.fst).getD w.tWrite
  releaseFails := (w.release.map Prod.snd).getD false

/-- Only calls of `createHold`, none begun, which spell the ids of a seat alike, no lock
held, on a store whose live rows are disjoint. -/
structure HoldsFrom (C : IdColumn) (N : LiveNotion) (start : BookingTable) (s : Pool Shared Call) :
    Prop where
  bookings : s.shared.bookings = start
  locks : s.shared.locks = Leases.empty
  writes : s.shared.writes = []
  disjoint : SeatDisjoint (N.Live s.shared.clock) start
  fresh : ∀ p ∈ s.procs, ∃ a, p = .createHold a .start
  alike : Pool.Apart (Call.Alike C) s

def concurrentHolds (env : Env) (T : Tokens) (N : LiveNotion) (start : BookingTable) :
    LTS (Pool Shared Call) (Pool.Event StepIn Nat) :=
  Pool.system (service env T) (HoldsFrom env.ids N start)

/-- A row is written before the TTL of its call has elapsed. -/
def WritesInLease (env : Env) (s : Pool Shared Call) : Pool.Event StepIn Nat → Prop
  | .proc i _ => ∀ a l now stamp, s.procs[i]? = some (.createHold a (.inserting l now stamp)) →
      s.shared.clock < l.deadline env
  | .env _ => True

/-! ## Assertions -/

def Unwritten (sh : Shared) (i : Nat) : Prop := ∀ w ∈ sh.writes, w.call ≠ i

def Wrote (sh : Shared) (i : Nat) (a : HoldArgs) (b : Booking) : Prop :=
  ∃ w ∈ sh.writes, w.call = i ∧ w.args = a ∧ w.row = b

/-- The answer of the availability query is still the answer. -/
def StillFree (env : Env) (sh : Shared) (a : HoldArgs) (l : Held) (now : Int) : Prop :=
  sh.clock < l.deadline env →
    a.available (findActiveBookingsForSeat env.ids sh.bookings a.tripId a.seatId now) = .ok true

def Outcome (sh : Shared) (i : Nat) (a : HoldArgs) : Result Booking → Prop
  | .ok b => Wrote sh i a b
  | .error _ => Unwritten sh i

def HoldAssertion (env : Env) (sh : Shared) (i : Nat) (a : HoldArgs) : HoldPc → Prop
  | .start | .locked _ => Unwritten sh i
  | .querying _ now => now ≤ sh.clock ∧ Unwritten sh i
  | .available l now | .inserting l now _ =>
    now ≤ sh.clock ∧ StillFree env sh a l now ∧ Unwritten sh i
  | .releasing _ res | .done res => Outcome sh i a res

def RaceAssertion (env : Env) (sh : Shared) (i : Nat) : Call → Prop
  | .createHold a pc => HoldAssertion env sh i a pc
  | _ => False

/-- The store grew by the written rows only, and no leg is held twice. -/
structure Sold (N : LiveNotion) (start : BookingTable) (sh : Shared) : Prop where
  rows : sh.bookings.rows = start.rows ++ sh.writes.map Write.row
  disjoint : SeatDisjoint (N.Live sh.clock) sh.bookings
  once : (sh.writes.map Write.call).Nodup

/-- Every call owns the lock it took. -/
def Locked (env : Env) (T : Tokens) (s : Pool Shared Call) : Prop :=
  ∀ i a pc l, s.procs[i]? = some (.createHold a pc) → pc.held = some l → Owns env T s.shared i a l

section
variable {env : Env} {T : Tokens} {N : LiveNotion} {start : BookingTable} {sh sh' : Shared}
  {i j : Nat} {a b : HoldArgs} {l : Held}

/-- Another call's steps leave the written rows of a call as they are. -/
structure SameWrites (sh sh' : Shared) (i : Nat) : Prop where
  unwritten : Unwritten sh i → Unwritten sh' i
  wrote : ∀ {a b}, Wrote sh i a b → Wrote sh' i a b

theorem SameWrites.of_eq (h : sh'.writes = sh.writes) : SameWrites sh sh' i :=
  ⟨fun hu => by rwa [Unwritten, h], fun hw => by rwa [Wrote, h]⟩

theorem SameWrites.append {w : Write} (h : sh'.writes = sh.writes ++ [w]) (hw : w.call ≠ i) :
    SameWrites sh sh' i := by
  refine ⟨fun hu v hv => ?_, fun ⟨v, hv, hc⟩ => ⟨v, by rw [h]; exact List.mem_append_left _ hv, hc⟩⟩
  rw [h, List.mem_append, List.mem_singleton] at hv
  rcases hv with hv | rfl
  · exact hu v hv
  · exact hw

theorem SameWrites.close {t : Int} {f : Bool} (h : sh'.writes = sh.writes.map (closeWrite j t f)) :
    SameWrites sh sh' i := by
  refine ⟨fun hu v hv => ?_, fun ⟨v, hv, hc⟩ => ⟨closeWrite j t f v, ?_, by simpa using hc⟩⟩
  · rw [h, List.mem_map] at hv
    obtain ⟨w, hw, rfl⟩ := hv
    simpa using hu w hw
  · rw [h]; exact List.mem_map_of_mem hv

theorem HoldAssertion.frame {pc : HoldPc} (h : HoldAssertion env sh i a pc)
    (hc : sh.clock ≤ sh'.clock) (hw : SameWrites sh sh' i)
    (hf : ∀ l now, pc.held = some l → StillFree env sh a l now → StillFree env sh' a l now) :
    HoldAssertion env sh' i a pc := by
  cases pc with
  | start | locked => exact hw.unwritten h
  | querying l now => exact ⟨h.1.trans hc, hw.unwritten h.2⟩
  | available l now | inserting l now stamp =>
    exact ⟨h.1.trans hc, hf l now rfl h.2.1, hw.unwritten h.2.2⟩
  | releasing l res | done res =>
    cases res with
    | ok b => exact hw.wrote h
    | error e => exact hw.unwritten h

/-- The `try` block could have been run at once when its row was written. -/
theorem holdInLock_of_write {bookings bookings' : BookingTable} {w : Write}
    (ha : w.args.available (findActiveBookingsForSeat env.ids bookings w.args.tripId w.args.seatId
      w.tQuery) = .ok true)
    (hc : createBooking env.ids bookings w.id (holdData env w.args w.tStamp) =
      .ok (w.row, bookings')) :
    holdInLock env w.inputs bookings w.args = (.ok w.row, bookings') := by
  simp only [HoldArgs.available] at ha
  simp [holdInLock, findActive, Write.inputs, ha, hc]

theorem granted_of_write {bookings bookings' : BookingTable} {w : Write}
    (h : holdInLock env w.inputs bookings w.args = (.ok w.row, bookings')) :
    Granted env w.tQuery w.tStamp bookings w.args w.row bookings' := by
  rcases holdInLock_cases env w.inputs bookings w.args with ⟨e, he⟩ | ⟨b, bs, hb, -, hg⟩
  · rw [he] at h; cases h
  · rw [hb] at h; cases h; exact hg

/-- The step of a call that writes. -/
theorem Sold.write {bookings : BookingTable} {w : Write} (h : Sold N start sh)
    (hg : Granted env w.tQuery w.tStamp sh.bookings w.args w.row bookings)
    (hq : w.tQuery ≤ sh.clock) (hu : Unwritten sh w.call) :
    Sold N start { sh with bookings := bookings, writes := sh.writes ++ [w] } where
  rows := by
    simp only [Table.rows_of_insert hg.insert, h.rows, List.map_append, List.map_cons,
      List.map_nil, List.append_assoc]
  disjoint := hg.seatDisjoint N hq h.disjoint
  once := by
    simp only [List.map_append, List.map_cons, List.map_nil]
    refine List.Nodup.append h.once (List.nodup_singleton _) ?_
    simp only [List.disjoint_singleton, List.mem_map, not_exists, not_and]
    exact hu

theorem Sold.close {t : Int} {f : Bool} {locks : Locks} (h : Sold N start sh) :
    Sold N start { sh with locks := locks, writes := sh.writes.map (closeWrite j t f) } where
  rows := by
    have hr : Write.row ∘ closeWrite j t f = Write.row := funext fun w => closeWrite_row j t f w
    simp only [List.map_map, hr, h.rows]
  disjoint := h.disjoint
  once := by
    have hc : Write.call ∘ closeWrite j t f = Write.call := funext fun w => closeWrite_call j t f w
    simp only [List.map_map, hc, h.once]

/-- The row of another seat is not in the way. -/
theorem StillFree.insert {row : Booking} {bookings : BookingTable} {writes : List Write} {now : Int}
    (h : StillFree env sh a l now) (hins : sh.bookings.insert row = some bookings)
    (hne : a.For env.ids row.tripId row.seatId → sh.clock < l.deadline env → False) :
    StillFree env { sh with bookings := bookings, writes := writes } a l now := by
  intro hlt
  obtain ⟨-, _, -, hl, -⟩ := checkAvailability_true (h hlt)
  obtain ⟨trip, seat, ht, hs, -⟩ := findActive_ok hl
  have hold := h hlt
  rw [findActive_of_keep ht hs] at hold ⊢
  rw [activeRows_insert_ne hins]
  · exact hold
  · rintro ⟨rfl, rfl⟩
    exact hne ⟨ht, hs⟩ hlt

/-- The moves of a call, its write being made in time. -/
theorem HoldMove.sold {pc pc' : HoldPc} (hm : HoldMove env T sh i a pc sh' pc')
    (hG : Sold N start sh) (hP : HoldAssertion env sh i a pc)
    (hin : ∀ l now stamp, pc = .inserting l now stamp → sh.clock < l.deadline env) :
    Sold N start sh' ∧ HoldAssertion env sh' i a pc' := by
  cases hm with
  | fail err => exact ⟨hG, hP⟩
  | acquire hu ht hs => exact ⟨⟨hG.rows, hG.disjoint, hG.once⟩, hP⟩
  | ask => exact ⟨hG, le_rfl, hP⟩
  | answer hav => exact ⟨hG, hP.1, fun _ => hav, hP.2⟩
  | stamp => exact ⟨hG, hP⟩
  | @write l now stamp rowId row bookings hc =>
    obtain ⟨hq, hf, hu⟩ := hP
    have hg := granted_of_write (w := ⟨i, a, rowId, l, now, stamp, sh.clock, row, none⟩)
      (holdInLock_of_write (hf (hin l now stamp rfl)) hc)
    exact ⟨hG.write hg hq hu, _, List.mem_append_right _ (List.mem_singleton_self _), rfl, rfl, rfl⟩
  | refuse₁ err => exact ⟨hG, hP⟩
  | refuse₂ err => exact ⟨hG, hP.2⟩
  | refuse₃ err => exact ⟨hG, hP.2.2⟩
  | release fails =>
    have hd : HoldAssertion env sh i a (.done _) := hP
    exact ⟨hG.close, hd.frame le_rfl (.close rfl) fun _ _ hl => by cases hl⟩

/-- A call keeps what it knows while another one moves. -/
theorem HoldMove.race_other {pc pc' qc : HoldPc}
    (hm : HoldMove env T sh j b pc sh' pc') (hji : j ≠ i)
    (hin : ∀ l now stamp, pc = .inserting l now stamp → sh.clock < l.deadline env)
    (hj : ∀ l, pc.held = some l → Owns env T sh j b l)
    (hi : ∀ l, qc.held = some l → Owns env T sh i a l) (halike : b.Alike env.ids a)
    (h : HoldAssertion env sh i a qc) : HoldAssertion env sh' i a qc := by
  cases hm with
  | fail _ | ask | answer _ | stamp | refuse₁ _ | refuse₂ _ | refuse₃ _ => exact h
  | acquire _ _ _ => exact h.frame le_rfl (.of_eq rfl) fun _ _ _ hf => hf
  | release fails => exact h.frame le_rfl (.close rfl) fun _ _ _ hf => hf
  | @write k now stamp rowId row bookings hc =>
    refine h.frame le_rfl (.append rfl hji) fun l tq hl hf => ?_
    obtain ⟨hins, -, hrow⟩ := createBooking_ok hc
    refine hf.insert hins fun hfor hlt => ?_
    -- two calls in time on one seat would hold one lock
    exact hji ((hj k rfl).exclusive (hi l hl) (hin k now stamp rfl) hlt
      (halike.lockKey_eq ⟨hrow.tripId, hrow.seatId⟩ hfor))

theorem raceOutline (env : Env) (T : Tokens) (N : LiveNotion) (start : BookingTable) :
    Pool.Outline (service env T)
      (fun s e => WritesInLease env s e ∧ Locked env T s ∧ Pool.Apart (Call.Alike env.ids) s)
      (Sold N start) (RaceAssertion env) where
  env s d sh h _ he := by
    cases he
    refine ⟨⟨h.1.rows, h.1.disjoint.mono fun _ => N.antitone (by simp), h.1.once⟩, fun i p hp => ?_⟩
    have hi := h.2 i p hp
    cases p with
    | createHold a pc =>
      exact HoldAssertion.frame hi (by simp) (.of_eq rfl) fun l now _ hf hlt =>
        hf (by simp at hlt; omega)
    | confirmBooking | releaseBooking => exact hi
  own s i p e sh p' h ho hp ha := by
    have hi := h.2 i p hp
    cases p with
    | createHold a pc =>
      obtain ⟨pc', rfl, hm⟩ := act_createHold ha
      exact hm.sold h.1 hi fun l now stamp hpc => ho.1 a l now stamp (by rw [hp, hpc])
    | confirmBooking | releaseBooking => exact hi.elim
  other s i p e sh p' j q h ho hp ha hji hq := by
    have hi := h.2 i p hp
    have hj := h.2 j q hq
    cases p with
    | createHold a pc =>
      obtain ⟨pc', rfl, hm⟩ := act_createHold ha
      cases q with
      | createHold b qc =>
        exact hm.race_other (Ne.symm hji)
          (fun l now stamp hpc => ho.1 a l now stamp (by rw [hp, hpc]))
          (fun l hl => ho.2.1 i a pc l hp hl) (fun l hl => ho.2.1 j b qc l hq hl)
          (ho.2.2 i j _ _ (Ne.symm hji) hp hq) hj
      | confirmBooking | releaseBooking => exact hj
    | confirmBooking | releaseBooking => exact hi.elim

end

/-! ## Runs -/

section
variable {env : Env} {T : Tokens} {N : LiveNotion} {start : BookingTable} {s : Pool Shared Call}
  {ok : Pool Shared Call → Pool.Event StepIn Nat → Prop}

theorem locked_reach (h : (concurrentHolds env T N start).Reach ok s) : Locked env T s := by
  intro i a pc l hp hl
  refine owns_reach (fun s hi p hp => ?_) h hp hl
  obtain ⟨b, rfl⟩ := hi.fresh p hp
  rfl

theorem sold_reach (h : (concurrentHolds env T N start).Reach (WritesInLease env) s) :
    Pool.Holds (Sold N start) (RaceAssertion env) s := by
  refine Pool.invariant (raceOutline env T N start) (fun s hi => ?_)
    (h.strengthen fun _ hr => ⟨locked_reach hr, alike_reach (fun _ hi => hi.alike) hr⟩)
  refine ⟨⟨by simp [hi.bookings, hi.writes], by rw [hi.bookings]; exact hi.disjoint,
    by simp [hi.writes]⟩, fun i p hp => ?_⟩
  obtain ⟨a, rfl⟩ := hi.fresh p (List.mem_of_getElem? hp)
  simp [RaceAssertion, HoldAssertion, Unwritten, hi.writes]

def Call.held : Call → Option Held
  | .createHold _ pc => pc.held
  | _ => none

/-- No call holds a lock whose TTL has elapsed at `t`. -/
def HeldInTime (env : Env) (s : Pool Shared Call) (t : Int) : Prop :=
  ∀ p ∈ s.procs, ∀ l ∈ p.held, t < l.deadline env

instance (env : Env) (s : Pool Shared Call) (t : Int) : Decidable (HeldInTime env s t) :=
  inferInstanceAs (Decidable (∀ p ∈ s.procs, ∀ l ∈ p.held, t < l.deadline env))

/-- No TTL elapses between the `acquireLock` and the `releaseLock` of a call. -/
def LeaseOk (env : Env) (s : Pool Shared Call) : Pool.Event StepIn Nat → Prop
  | .env d => HeldInTime env s (s.shared.clock + d)
  | .proc _ _ => True

instance (env : Env) (s : Pool Shared Call) : ∀ e, Decidable (LeaseOk env s e)
  | .env _ => inferInstanceAs (Decidable (HeldInTime env s _))
  | .proc _ _ => .isTrue trivial

def InTime (env : Env) (sh : Shared) (_ : Nat) (p : Call) : Prop :=
  ∀ l ∈ p.held, sh.clock < l.deadline env

theorem HoldMove.clock {env : Env} {T : Tokens} {sh sh' : Shared} {i : Nat} {a : HoldArgs}
    {pc pc' : HoldPc} (hm : HoldMove env T sh i a pc sh' pc') : sh'.clock = sh.clock := by
  cases hm <;> rfl

theorem HoldMove.inTime {env : Env} {T : Tokens} {sh sh' : Shared} {i : Nat} {a : HoldArgs}
    {pc pc' : HoldPc} (hm : HoldMove env T sh i a pc sh' pc')
    (h : ∀ l, pc.held = some l → sh.clock < l.deadline env) (l : Held) (hl : pc'.held = some l) :
    sh'.clock < l.deadline env := by
  cases hm with
  | fail err => cases hl
  | acquire hu ht hs => cases hl; simpa [Held.deadline] using ht
  | ask | answer _ | stamp | write _ | refuse₁ _ | refuse₂ _ | refuse₃ _ => exact h l hl
  | release fails => cases hl

theorem service_clock {env : Env} {T : Tokens} {sh sh' : Shared} {i : Nat}
    {p p' : Call} {e : StepIn}
    (h : (service env T).act sh i p e = some (sh', p')) : sh'.clock = sh.clock := by
  cases p with
  | createHold a pc => obtain ⟨pc', -, hm⟩ := act_createHold h; exact hm.clock
  | confirmBooking id pc => obtain ⟨pc', -, hm⟩ := act_confirmBooking h; exact hm.frame.2.1
  | releaseBooking id reason pc => obtain ⟨pc', -, hm⟩ := act_releaseBooking h; exact hm.frame.2.1

theorem inTimeOutline (env : Env) (T : Tokens) :
    Pool.Outline (service env T) (LeaseOk env) (fun _ => True) (InTime env) where
  env s d sh _ ho he := by
    cases he
    exact ⟨trivial, fun i p hp => ho p (List.mem_of_getElem? hp)⟩
  own s i p e sh p' h _ hp ha := by
    refine ⟨trivial, ?_⟩
    cases p with
    | createHold a pc => obtain ⟨pc', rfl, hm⟩ := act_createHold ha; exact hm.inTime (h.2 i _ hp)
    | confirmBooking id pc =>
      obtain ⟨pc', rfl, -⟩ := act_confirmBooking ha; simp [InTime, Call.held]
    | releaseBooking id reason pc =>
      obtain ⟨pc', rfl, -⟩ := act_releaseBooking ha; simp [InTime, Call.held]
  other s i p e sh p' j q h _ hp ha _ hq l hl := by
    rw [service_clock ha]
    exact h.2 j q hq l hl

/-- A call that holds its lock is in time. -/
theorem heldInTime_reach (h : (concurrentHolds env T N start).Reach (LeaseOk env) s) :
    HeldInTime env s s.shared.clock := by
  have hI := Pool.invariant (inTimeOutline env T) (fun s hi => ⟨trivial, fun j p hj => ?_⟩) h
  · intro p hp l hl
    obtain ⟨i, hi⟩ := List.getElem?_of_mem hp
    exact hI.2 i p hi l hl
  · obtain ⟨b, rfl⟩ := hi.fresh p (List.mem_of_getElem? hj)
    intro k hk
    cases hk

theorem writesInLease_reach (h : (concurrentHolds env T N start).Reach (LeaseOk env) s) :
    (concurrentHolds env T N start).Reach (WritesInLease env) s := by
  refine (h.strengthen fun s hr => heldInTime_reach hr).mono fun s e ho => ?_
  cases e with
  | env d => trivial
  | proc i e => exact fun a l now stamp hp => ho.2 _ (List.mem_of_getElem? hp) l rfl

end

/-- **What the lock gives.** A row written before the TTL of its call has elapsed
is written under the call's own token, and when all rows are, no two live holds
overlap. The calls spell the ids of a seat alike, so that the lock and the store compare
them as exact strings. -/
theorem lock_in_time (env : Env) (T : Tokens) (N : LiveNotion) (start : BookingTable) :
    (∀ s, (concurrentHolds env T N start).Reachable s → ∀ i a l now stamp,
      s.procs[i]? = some (.createHold a (.inserting l now stamp)) →
      s.shared.clock < l.deadline env →
      s.shared.locks.holder a.lockKey s.shared.clock = some (T.gen i)) ∧
    ∀ s, (concurrentHolds env T N start).Reach (WritesInLease env) s →
      SeatDisjoint (N.Live s.shared.clock) s.shared.bookings := by
  refine ⟨fun s h i a l now stamp hp hl => ?_, fun s h => (sold_reach h).1.disjoint⟩
  exact (locked_reach h i a _ l hp rfl).holder hl

/-- Two calls for one leg, from the empty store. -/
def twoHolds : Pool Shared Call where
  shared := ⟨Table.empty, Leases.empty, 0, [], []⟩
  procs := [.createHold ⟨"t", "1", "ann", .ofInt 1, .ofInt 2⟩ .start,
    .createHold ⟨"t", "1", "bob", .ofInt 1, .ofInt 2⟩ .start]

theorem twoHolds_init (N : LiveNotion) : HoldsFrom .texts N Table.empty twoHolds := by
  refine ⟨rfl, rfl, rfl, SeatDisjoint.empty, fun p hp => ?_, alike_texts _⟩
  simp only [twoHolds, List.mem_cons, List.not_mem_nil, or_false] at hp
  rcases hp with rfl | rfl <;> exact ⟨_, rfl⟩

/-- The first call runs to its end, the second as far as the query. -/
def timelyRun : List (Pool.Event StepIn Nat) :=
  [.proc 0 {}, .proc 0 {}, .env 200, .proc 0 {}, .proc 0 {}, .proc 0 { rowId := "a" }, .env 4000,
    .proc 0 {}, .proc 1 {}, .proc 1 {}, .proc 1 {}]

/-- The state a list of events leads to from `twoHolds`. -/
def twoHoldsAfter (es : List (Pool.Event StepIn Nat)) : Pool Shared Call :=
  (LTS.execAll (Pool.step (service ⟨5, 5000, .texts⟩ unaryTokens)) twoHolds es).getD twoHolds

theorem lock_in_time_timelyRun :
    (twoHoldsAfter (timelyRun.take 5)).shared.locks.holder (lockKey "t" "1") 200 =
      some (unaryTokens.gen 0) ∧
    SeatDisjoint (expiryLive.Live 4200) (twoHoldsAfter timelyRun).shared.bookings := by
  have h := lock_in_time ⟨5, 5000, .texts⟩ unaryTokens expiryLive Table.empty
  refine ⟨h.1 (twoHoldsAfter (timelyRun.take 5)) ?_ 0 ⟨"t", "1", "ann", .ofInt 1, .ofInt 2⟩
    ⟨unaryTokens.gen 0, 0⟩ 0 200 rfl (by decide), ?_⟩
  · exact LTS.reachable_of_execAll (timelyRun.take 5) (twoHolds_init _) rfl
  · refine h.2 (twoHoldsAfter timelyRun) (writesInLease_reach ?_)
    exact LTS.reach_of_execAll timelyRun (twoHolds_init _) (by decide) rfl

/-- The first call checks and then waits for its TTL; the second runs as far as
its write. -/
def lateRun : List (Pool.Event StepIn Nat) :=
  [.proc 0 {}, .proc 0 {}, .proc 0 {}, .proc 0 {}, .env 5000,
    .proc 1 {}, .proc 1 {}, .proc 1 {}, .proc 1 {}, .proc 1 { rowId := "b" }]

/-- **A late write.** The first call then writes under the lock of the second, and
both holds of the leg are live. -/
theorem exists_late_write : ∃ s s', (concurrentHolds ⟨5, 5000, .texts⟩ unaryTokens expiryLive
      Table.empty).Reachable s ∧
    Pool.step (service ⟨5, 5000, .texts⟩ unaryTokens) s (.proc 0 { rowId := "a" }) = some s' ∧
    s'.shared.writes.length = s.shared.writes.length + 1 ∧
    s.shared.locks.holder (lockKey "t" "1") s.shared.clock = some (unaryTokens.gen 1) ∧
    ¬ SeatDisjoint (expiryLive.Live s'.shared.clock) s'.shared.bookings := by
  refine ⟨twoHoldsAfter lateRun, twoHoldsAfter (lateRun ++ [.proc 0 { rowId := "a" }]),
    LTS.reachable_of_execAll lateRun (twoHolds_init _) rfl, rfl, by decide, by decide,
    fun h => ?_⟩
  exact h ⟨"a", "t", "1", "ann", 1, 2, .PENDING, some 300000⟩ (by decide)
    ⟨"b", "t", "1", "bob", 1, 2, .PENDING, some 305000⟩ (by decide) (by decide) (by decide)
    (.inr ⟨rfl, 300000, rfl, by decide⟩) (.inr ⟨rfl, 305000, rfl, by decide⟩) (by decide)

end RouteGo.Bookings
