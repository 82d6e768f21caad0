import RouteGo.Bookings.Race

/-!
# Interleaved holds are sequential

In a run in which no TTL elapses while a call holds its lock, the calls that
wrote a row can be run one after another, in the order of their writes and with
their own clock readings: `createHold` then returns the same rows and builds the
same store (`linearizable`).

The table part is `Chain`: each `try` block, run at once when its row was
written, succeeds. The lock part is that the lease of an earlier write stays
behind only where its release failed, and then the next call of the seat came
after the deadline (`LocksAfter`).
-/

namespace RouteGo.Bookings

/-- `createHold` one after another. -/
def runHolds (env : Env) (w : World) : List Write → List (Result Booking) × World
  | [] => ([], w)
  | x :: xs =>
    let r := createHold env x.inputs w x.args
    let rest := runHolds env r.2 xs
    (r.1 :: rest.1, rest.2)

theorem runHolds_append (env : Env) (w : World) (xs ys : List Write) :
    runHolds env w (xs ++ ys) =
      ((runHolds env w xs).1 ++ (runHolds env (runHolds env w xs).2 ys).1,
        (runHolds env (runHolds env w xs).2 ys).2) := by
  induction xs generalizing w with
  | nil => rfl
  | cons x xs ih => simp only [List.cons_append, runHolds, ih]

/-- The `try` blocks succeed one after another, with the rows written. -/
inductive Chain (env : Env) (start : BookingTable) : List Write → BookingTable → Prop
  | nil : Chain env start [] start
  | snoc {ws bookings w bookings'} (h : Chain env start ws bookings)
      (hw : holdInLock env w.inputs bookings w.args = (.ok w.row, bookings')) :
      Chain env start (ws ++ [w]) bookings'

def Write.deadline (env : Env) (w : Write) : Int := w.lock.deadline env

/-- The release of the call is still to come, or its script threw. -/
def Write.Holding (w : Write) : Prop := w.release = none ∨ ∃ t, w.release = some (t, true)

/-- What is known of a write, whoever made it. -/
structure Write.Ok (env : Env) (T : Tokens) (w : Write) : Prop where
  user : w.args.userId ≠ ""
  ttl : 0 < lockTtlMs env
  token : w.lock.lockValue = T.gen w.call
  release : w.inputs.tRelease < w.deadline env

/-- A call came to the lock of `w` after its lease, if it was not given back. -/
def Write.Before (env : Env) (w : Write) (a : HoldArgs) (l : Held) : Prop :=
  w.args.lockKey = a.lockKey → w.Holding → w.deadline env ≤ l.acquiredAt

section
variable {env : Env} {T : Tokens} {start bookings bookings' : BookingTable} {ws : List Write}
  {w v : Write} {sh sh' : Shared} {i j : Nat} {a b : HoldArgs} {l k : Held}

theorem Chain.close {t : Int} {f : Bool} (h : Chain env start ws bookings) :
    Chain env start (ws.map (closeWrite j t f)) bookings := by
  induction h with
  | nil => exact .nil
  | @snoc ws bs w bs' _ hw ih =>
    rw [List.map_append, List.map_singleton]
    refine ih.snoc ?_
    -- the `try` block does not read the release
    rw [closeWrite_args, closeWrite_row, ← hw]
    unfold closeWrite
    split <;> rfl

theorem Write.holding_of_fails (h : w.inputs.releaseFails = true) : w.Holding := by
  cases hr : w.release with
  | none => exact .inl hr
  | some r =>
    obtain ⟨t, f⟩ := r
    simp only [Write.inputs, hr, Option.map_some, Option.getD_some] at h
    exact .inr ⟨t, by rw [hr, h]⟩

/-- The leases left behind are those of failed releases. -/
def LocksAfter (env : Env) (ws : List Write) (L : Locks) : Prop :=
  ∀ key lease, L.entry key = some lease → ∃ w ∈ ws, w.args.lockKey = key ∧
    lease = ⟨w.lock.lockValue, w.deadline env⟩ ∧ w.inputs.releaseFails = true

/-- One more call: it gets the lock, and its `try` block succeeds. -/
theorem createHold_of_chain {L : Locks} (hL : LocksAfter env ws L) (hok : w.Ok env T)
    (hb : ∀ v ∈ ws, v.Before env w.args w.lock)
    (hw : holdInLock env w.inputs bookings w.args = (.ok w.row, bookings')) :
    ∃ L', createHold env w.inputs ⟨bookings, L⟩ w.args = (.ok w.row, ⟨bookings', L'⟩) ∧
      LocksAfter env (ws ++ [w]) L' := by
  have hfree : L.holder w.args.lockKey w.lock.acquiredAt = none := by
    cases he : L.entry w.args.lockKey with
    | none => exact Leases.holder_of_free he
    | some lease =>
      obtain ⟨v, hv, hkey, rfl, hf⟩ := hL _ _ he
      have := hb v hv hkey (Write.holding_of_fails hf)
      simp only [Leases.holder, he, if_neg (not_lt.mpr this)]
  obtain ⟨L₁, hs⟩ : ∃ L₁, L.setNX w.args.lockKey w.lock.lockValue (lockTtlMs env)
      w.lock.acquiredAt = some L₁ := ⟨_, Leases.setNX_eq_some.mpr ⟨hfree, rfl⟩⟩
  refine ⟨(releaseLock L₁ w.args.lockKey w.lock.lockValue w.inputs.tRelease
    w.inputs.releaseFails).2, ?_, ?_⟩
  · have ha : acquireLock L w.args.lockKey w.lock.lockValue (lockTtlMs env) w.lock.acquiredAt =
        .ok (some w.lock.lockValue, L₁) := by
      simp [acquireLock, not_le.mpr hok.ttl, hs]
    simp only [HoldArgs.lockKey] at ha
    simp only [createHold, if_neg hok.user]
    simp only [show w.inputs.lockValue = w.lock.lockValue from rfl,
      show w.inputs.tAcquire = w.lock.acquiredAt from rfl, ha, hw]
    rfl
  · intro key lease he
    by_cases hkey : key = w.args.lockKey
    · subst hkey
      cases hf : w.inputs.releaseFails with
      | true =>
        rw [hf] at he
        have he' : L₁.entry w.args.lockKey = some lease := he
        rw [Leases.setNX_self hs, Option.some.injEq] at he'
        exact ⟨w, by simp, rfl, he'.symm, hf⟩
      | false =>
        -- released in time: nothing stays behind
        rw [hf] at he
        simp only [releaseLock, Bool.false_eq_true, if_false, Leases.delIf,
          Leases.holder_of_entry (Leases.setNX_self hs) hok.release, if_true,
          Function.update_self] at he
        cases he
    · have he' : L.entry key = some lease := by
        rw [← Leases.setNX_ne hs hkey, ← he]
        cases w.inputs.releaseFails with
        | true => rfl
        | false => exact (Leases.delIf_ne hkey).symm
      obtain ⟨v, hv, h⟩ := hL key lease he'
      exact ⟨v, List.mem_append_left _ hv, h⟩

/-- The whole history, from no lock at all. -/
theorem runHolds_of_chain (hc : Chain env start ws bookings) (hok : ∀ w ∈ ws, w.Ok env T)
    (hp : ws.Pairwise fun v w => v.Before env w.args w.lock) :
    ∃ L, runHolds env ⟨start, Leases.empty⟩ ws = (ws.map fun w => .ok w.row, ⟨bookings, L⟩) ∧
      LocksAfter env ws L := by
  induction hc with
  | nil => exact ⟨Leases.empty, rfl, fun _ _ he => by cases he⟩
  | @snoc ws bs w bs' _ hw ih =>
    rw [List.pairwise_append] at hp
    obtain ⟨L, hr, hL⟩ := ih (fun v hv => hok v (List.mem_append_left _ hv)) hp.1
    obtain ⟨L', hr', hL'⟩ := createHold_of_chain hL (hok w (by simp))
      (fun v hv => hp.2.2 v hv w (List.mem_singleton_self w)) hw
    refine ⟨L', ?_, hL'⟩
    simp only [runHolds_append, hr, runHolds, hr', List.map_append, List.map_cons, List.map_nil]

/-- What the history of a run keeps to. -/
structure History (env : Env) (T : Tokens) (start : BookingTable) (sh : Shared) : Prop where
  chain : Chain env start sh.writes sh.bookings
  ok : ∀ w ∈ sh.writes, w.Ok env T
  stays : ∀ w ∈ sh.writes, w.Holding → sh.clock < w.deadline env →
    sh.locks.entry w.args.lockKey = some ⟨T.gen w.call, w.deadline env⟩
  before : sh.writes.Pairwise fun v w => v.Before env w.args w.lock

/-- A call in possession of its lock came after the leases of all other writes,
and has not released its own. -/
structure InTurn (env : Env) (sh : Shared) (i : Nat) (a : HoldArgs) (l : Held) : Prop where
  user : a.userId ≠ ""
  ttl : 0 < lockTtlMs env
  others : ∀ w ∈ sh.writes, w.call ≠ i → w.Before env a l
  own : ∀ w ∈ sh.writes, w.call = i → w.release = none ∧ w.lock = l

def TurnAssertion (env : Env) (sh : Shared) (i : Nat) : Call → Prop
  | .createHold a pc => ∀ l, pc.held = some l → InTurn env sh i a l
  | _ => False

/-- What the earlier invariants give in a state. -/
structure Known (env : Env) (T : Tokens) (N : LiveNotion) (start : BookingTable)
    (s : Pool Shared Call) : Prop where
  locked : Locked env T s
  inTime : HeldInTime env s s.shared.clock
  sold : Pool.Holds (Sold N start) (RaceAssertion env) s

theorem holding_of_close {t : Int} {f : Bool} (h : (closeWrite i t f w).Holding)
    (hn : w.call = i → w.release = none) : w.Holding := by
  by_cases hc : w.call = i
  · exact .inl (hn hc)
  · rwa [closeWrite, if_neg hc] at h

theorem Write.Before.close {t : Int} {f : Bool} (h : w.Before env a l)
    (hn : w.call = i → w.release = none) : (closeWrite i t f w).Before env a l := by
  intro hkey hh
  rw [closeWrite_args] at hkey
  rw [Write.deadline, closeWrite_lock]
  exact h hkey (holding_of_close hh hn)

theorem InTurn.frame (h : InTurn env sh i a l) (hw : sh'.writes = sh.writes) :
    InTurn env sh' i a l := ⟨h.user, h.ttl, by rw [hw]; exact h.others, by rw [hw]; exact h.own⟩

/-- A lock that is taken was given back or has run out. -/
theorem History.acquire {locks : Locks} (h : History env T start sh)
    (hs : sh.locks.setNX a.lockKey (T.gen i) (lockTtlMs env) sh.clock = some locks) :
    History env T start { sh with locks := locks } ∧
      ∀ w ∈ sh.writes, w.Before env a ⟨T.gen i, sh.clock⟩ := by
  have hrun : ∀ w ∈ sh.writes, w.args.lockKey = a.lockKey → w.Holding →
      ¬ sh.clock < w.deadline env := by
    intro w hw hkey hh hlt
    have he := h.stays w hw hh hlt
    rw [hkey] at he
    rw [Leases.setNX_eq_none (Leases.holder_of_entry he hlt)] at hs
    cases hs
  refine ⟨⟨h.chain, h.ok, fun w hw hh hlt => ?_, h.before⟩,
    fun w hw hkey hh => not_lt.mp (hrun w hw hkey hh)⟩
  by_cases hkey : w.args.lockKey = a.lockKey
  · exact absurd hlt (hrun w hw hkey hh)
  · exact (Leases.setNX_ne hs hkey).trans (h.stays w hw hh hlt)

/-- A row written in turn, under the lock. -/
theorem History.write {bookings : BookingTable} {now stamp : Int} {rowId : String} {row : Booking}
    (h : History env T start sh) (hturn : InTurn env sh i a l) (hown : Owns env T sh i a l)
    (hl : sh.clock < l.deadline env) (hu : Unwritten sh i)
    (hw : holdInLock env (Write.inputs ⟨i, a, rowId, l, now, stamp, sh.clock, row, none⟩)
      sh.bookings a = (.ok row, bookings)) :
    History env T start { sh with
      bookings := bookings
      writes := sh.writes ++ [⟨i, a, rowId, l, now, stamp, sh.clock, row, none⟩] } where
  chain := h.chain.snoc hw
  ok w hm := by
    rcases List.mem_append.mp hm with hm | hm
    · exact h.ok w hm
    · cases List.mem_singleton.mp hm
      exact ⟨hturn.user, hturn.ttl, hown.token, hl⟩
  stays w hm hh hlt := by
    rcases List.mem_append.mp hm with hm | hm
    · exact h.stays w hm hh hlt
    · cases List.mem_singleton.mp hm
      exact hown.entry hl
  before := by
    refine List.pairwise_append.mpr ⟨h.before, List.pairwise_singleton _ _, fun v hv w hm => ?_⟩
    cases List.mem_singleton.mp hm
    exact hturn.others v hv (hu v hv)

/-- A call gives its lock back, or fails to. -/
theorem History.release {fails : Bool} (h : History env T start sh) (hturn : InTurn env sh i a l)
    (hown : Owns env T sh i a l) (hl : sh.clock < l.deadline env) :
    History env T start { sh with
      locks := (releaseLock sh.locks a.lockKey l.lockValue sh.clock fails).2
      writes := sh.writes.map (closeWrite i sh.clock fails) } where
  chain := h.chain.close
  ok w hm := by
    obtain ⟨v, hv, rfl⟩ := List.mem_map.mp hm
    have hok := h.ok v hv
    by_cases hc : v.call = i
    · obtain ⟨-, rfl⟩ := hturn.own v hv hc
      rw [closeWrite, if_pos hc]
      exact ⟨hok.user, hok.ttl, hok.token, hl⟩
    · rwa [closeWrite, if_neg hc]
  stays w hm hh hlt := by
    obtain ⟨v, hv, rfl⟩ := List.mem_map.mp hm
    have he := h.stays v hv (holding_of_close hh fun hc => (hturn.own v hv hc).1)
      (by rwa [Write.deadline, closeWrite_lock] at hlt)
    rw [Write.deadline, closeWrite_args, closeWrite_lock, closeWrite_call]
    cases fails with
    | true => exact he
    | false =>
      simp only [releaseLock, Bool.false_eq_true, if_false]
      by_cases hc : v.call = i
      · -- the call gave its lock back
        rw [closeWrite, if_pos hc] at hh
        rcases hh with hh | ⟨t, hh⟩ <;> simp at hh
      · by_cases hkey : v.args.lockKey = a.lockKey
        · rw [← hkey, hown.token]
          exact Leases.delIf_other he fun hg => hc (T.inj hg)
        · rw [Leases.delIf_ne hkey]; exact he
  before := by
    rw [List.pairwise_map]
    refine h.before.imp_of_mem fun {v w} hv _ hb => ?_
    rw [closeWrite_args, closeWrite_lock]
    exact hb.close fun hc => (hturn.own v hv hc).1

theorem HoldMove.history {pc pc' : HoldPc} (hm : HoldMove env T sh i a pc sh' pc')
    (hG : History env T start sh) (hP : ∀ l, pc.held = some l → InTurn env sh i a l)
    (hown : ∀ l, pc.held = some l → Owns env T sh i a l)
    (hin : ∀ l, pc.held = some l → sh.clock < l.deadline env)
    (hrace : HoldAssertion env sh i a pc) :
    History env T start sh' ∧ ∀ l, pc'.held = some l → InTurn env sh' i a l := by
  cases hm with
  | fail err => exact ⟨hG, fun l hl => by cases hl⟩
  | acquire hu ht hs =>
    obtain ⟨hG', hb⟩ := hG.acquire hs
    refine ⟨hG', fun l hl => ?_⟩
    cases hl
    exact ⟨hu, ht, fun w hw _ => hb w hw, fun w hw hc => absurd hc (hrace w hw)⟩
  | ask | answer _ | stamp | refuse₁ _ | refuse₂ _ | refuse₃ _ => exact ⟨hG, hP⟩
  | @write k now stamp rowId row bookings hc =>
    obtain ⟨-, hf, hu⟩ := hrace
    have hw := holdInLock_of_write (w := ⟨i, a, rowId, k, now, stamp, sh.clock, row, none⟩)
      (hf (hin k rfl)) hc
    refine ⟨hG.write (hP k rfl) (hown k rfl) (hin k rfl) hu hw, fun l hl => ?_⟩
    cases hl
    have ht := hP k rfl
    refine ⟨ht.user, ht.ttl, fun w hm hc => ?_, fun w hm hc => ?_⟩ <;>
      rcases List.mem_append.mp hm with hm | hm
    · exact ht.others w hm hc
    · cases List.mem_singleton.mp hm; exact absurd rfl hc
    · exact ht.own w hm hc
    · cases List.mem_singleton.mp hm; exact ⟨rfl, rfl⟩
  | @release k res fails =>
    exact ⟨hG.release (hP k rfl) (hown k rfl) (hin k rfl), fun l hl => by cases hl⟩

theorem HoldMove.turn_other {pc pc' : HoldPc} (hm : HoldMove env T sh j b pc sh' pc') (hji : j ≠ i)
    (hturn : ∀ k, pc.held = some k → InTurn env sh j b k)
    (hown : ∀ k, pc.held = some k → Owns env T sh j b k)
    (hin : ∀ k, pc.held = some k → sh.clock < k.deadline env)
    (hi : Owns env T sh i a l) (hl : sh.clock < l.deadline env) (h : InTurn env sh i a l) :
    InTurn env sh' i a l := by
  cases hm with
  | fail _ | ask | answer _ | stamp | refuse₁ _ | refuse₂ _ | refuse₃ _ => exact h
  | acquire _ _ _ => exact h.frame rfl
  | @write k now stamp rowId row bookings hc =>
    refine ⟨h.user, h.ttl, fun w hm hc => ?_, fun w hm hc => ?_⟩ <;>
      rcases List.mem_append.mp hm with hm | hm
    · exact h.others w hm hc
    · cases List.mem_singleton.mp hm
      exact fun hkey _ => absurd ((hown k rfl).exclusive hi (hin k rfl) hl hkey) hji
    · exact h.own w hm hc
    · cases List.mem_singleton.mp hm; exact absurd hc hji
  | @release k res fails =>
    refine ⟨h.user, h.ttl, fun w hm hc => ?_, fun w hm hc => ?_⟩ <;>
      obtain ⟨v, hv, rfl⟩ := List.mem_map.mp hm <;> rw [closeWrite_call] at hc
    · exact (h.others v hv hc).close fun hcj => ((hturn k rfl).own v hv hcj).1
    · rw [closeWrite, if_neg (by rw [hc]; exact Ne.symm hji)]
      exact h.own v hv hc

theorem historyOutline (env : Env) (T : Tokens) (N : LiveNotion) (start : BookingTable) :
    Pool.Outline (service env T) (fun s e => LeaseOk env s e ∧ Known env T N start s)
      (History env T start) (TurnAssertion env) where
  env s d sh h _ he := by
    cases he
    refine ⟨⟨h.1.chain, h.1.ok, fun w hw hh hlt => h.1.stays w hw hh (by simp at hlt; omega),
      h.1.before⟩, fun i p hp => ?_⟩
    have hi := h.2 i p hp
    cases p with
    | createHold a pc => exact fun l hl => (hi l hl).frame rfl
    | confirmBooking | releaseBooking => exact hi
  own s i p e sh p' h ho hp ha := by
    have hi := h.2 i p hp
    cases p with
    | createHold a pc =>
      obtain ⟨pc', rfl, hm⟩ := act_createHold ha
      exact hm.history h.1 hi (fun l hl => ho.2.locked i a pc l hp hl)
        (fun l hl => ho.2.inTime _ (List.mem_of_getElem? hp) l hl) (ho.2.sold.2 i _ hp)
    | confirmBooking | releaseBooking => exact hi.elim
  other s i p e sh p' j q h ho hp ha hji hq := by
    have hi := h.2 i p hp
    have hj := h.2 j q hq
    cases p with
    | createHold a pc =>
      obtain ⟨pc', rfl, hm⟩ := act_createHold ha
      cases q with
      | createHold b qc =>
        exact fun l hl => hm.turn_other (Ne.symm hji) hi (fun k hk => ho.2.locked i a pc k hp hk)
          (fun k hk => ho.2.inTime _ (List.mem_of_getElem? hp) k hk) (ho.2.locked j b qc l hq hl)
          (ho.2.inTime _ (List.mem_of_getElem? hq) l hl) (hj l hl)
      | confirmBooking | releaseBooking => exact hj
    | confirmBooking | releaseBooking => exact hi.elim

end

/-! ## Runs -/

section
variable {env : Env} {T : Tokens} {N : LiveNotion} {start : BookingTable} {s : Pool Shared Call}

theorem known_reach (h : (concurrentHolds env T N start).Reach (LeaseOk env) s) :
    Known env T N start s :=
  ⟨locked_reach h, heldInTime_reach h, sold_reach (writesInLease_reach h)⟩

theorem history_reach (h : (concurrentHolds env T N start).Reach (LeaseOk env) s) :
    History env T start s.shared := by
  refine (Pool.invariant (historyOutline env T N start) (fun s hi => ?_)
    (h.strengthen fun _ hr => known_reach hr)).1
  refine ⟨⟨?_, by simp [hi.writes], by simp [hi.writes], by simp [hi.writes]⟩, fun i p hp => ?_⟩
  · rw [hi.writes, hi.bookings]; exact .nil
  · obtain ⟨a, rfl⟩ := hi.fresh p (List.mem_of_getElem? hp)
    intro l hl
    cases hl

/-- The calls of a run against the same calls one after another. -/
structure Linearized (env : Env) (N : LiveNotion) (start : BookingTable) (s : Pool Shared Call) :
    Prop where
  /-- In the order of their writes the calls return the rows they wrote, and
  leave the store of the run. -/
  sequential : ∃ locks, runHolds env ⟨start, Leases.empty⟩ s.shared.writes =
    (s.shared.writes.map fun w => .ok w.row, ⟨s.shared.bookings, locks⟩)
  once : (s.shared.writes.map Write.call).Nodup
  returned : ∀ i a b, s.procs[i]? = some (.createHold a (.done (.ok b))) → Wrote s.shared i a b
  thrown : ∀ i a e, s.procs[i]? = some (.createHold a (.done (.error e))) → Unwritten s.shared i
  rows : s.shared.bookings.rows = start.rows ++ s.shared.writes.map Write.row
  disjoint : SeatDisjoint (N.Live s.shared.clock) s.shared.bookings

/-- **Interleaved holds are sequential holds.** -/
theorem linearizable (h : (concurrentHolds env T N start).Reach (LeaseOk env) s) :
    Linearized env N start s := by
  have hh := history_reach h
  obtain ⟨hG, hP⟩ := sold_reach (writesInLease_reach h)
  obtain ⟨L, hL, -⟩ := runHolds_of_chain hh.chain hh.ok hh.before
  exact ⟨⟨L, hL⟩, hG.once, fun i a b hp => hP i _ hp, fun i a e hp => hP i _ hp, hG.rows,
    hG.disjoint⟩

theorem linearizable_timelyRun :
    Linearized ⟨5, 5000, .texts⟩ expiryLive Table.empty (twoHoldsAfter timelyRun) := by
  refine linearizable (T := unaryTokens) ?_
  exact LTS.reach_of_execAll timelyRun (twoHolds_init _) (by decide) rfl

end

end RouteGo.Bookings
