import RouteGo.Bookings.Concurrent

/-!
# Runs of the lock service

Any clients call `acquireLock` and `releaseLock` in any order, with any keys,
times to live and values, while time passes and leases run out. A lease that
counts is respected until it is released with its own token or its deadline
comes (`LockGuarantees.excludes`), and a client that comes late frees nobody
else's lock (`LockGuarantees.late`).
-/

namespace RouteGo.Bookings

/-- `acquired` counts the calls of `acquireLock`, each of which draws a token. -/
structure LockState where
  locks : Locks
  clock : Int
  acquired : Nat

inductive LockOp where
  | wait (d : Nat)
  | acquireLock (key : String) (ttlMs : Int)
  | releaseLock (key lockValue : String) (fails : Bool)

/-- The next call of `acquireLock`. -/
def LockState.acquire (T : Tokens) (s : LockState) (key : String) (ttlMs : Int) :
    Result (Option String × Locks) :=
  Bookings.acquireLock s.locks key (T.gen s.acquired) ttlMs s.clock

def LockState.release (s : LockState) (key lockValue : String) (fails : Bool) : Bool × Locks :=
  Bookings.releaseLock s.locks key lockValue s.clock fails

def lockStep (T : Tokens) (s : LockState) : LockOp → LockState
  | .wait d => { s with clock := s.clock + d }
  | .acquireLock key ttlMs =>
    match s.acquire T key ttlMs with
    | .ok (_, locks) => { s with locks := locks, acquired := s.acquired + 1 }
    | .error _ => { s with acquired := s.acquired + 1 }
  | .releaseLock key lockValue fails => { s with locks := (s.release key lockValue fails).2 }

/-- From no locks. -/
def lockRuns (T : Tokens) : LTS LockState LockOp :=
  .ofFn (fun s => s.locks = Leases.empty ∧ s.acquired = 0) fun s op => some (lockStep T s op)

/-- The token of the entry of `key`, if the entry has not expired. -/
def LockState.unexpired (s : LockState) (key : String) : Option String := s.locks.holder key s.clock

/-- The call takes the lock: it returns its token. -/
def LockState.Takes (T : Tokens) (s : LockState) (key : String) (ttlMs : Int) : Prop :=
  ∃ locks, s.acquire T key ttlMs = .ok (some (T.gen s.acquired), locks)

/-- The lock is not released with `lockValue`. -/
def Keeps (key lockValue : String) (_ : LockState) (op : LockOp) : Prop :=
  ∀ fails, op ≠ .releaseLock key lockValue fails

section
variable {T : Tokens} {s s' : LockState} {key : String} {ttlMs : Int}

/-! ## Single calls -/

/-- Redis refuses a time to live that is not positive. -/
theorem acquire_throws_iff : (∃ e, s.acquire T key ttlMs = .error e) ↔ ttlMs ≤ 0 := by
  unfold LockState.acquire acquireLock
  split
  · next ht => exact ⟨fun _ => ht, fun _ => ⟨_, rfl⟩⟩
  · next ht =>
    refine ⟨?_, fun h => absurd h ht⟩
    rintro ⟨e, he⟩
    split at he <;> cases he

/-- A call that returns says whether the key was free. -/
theorem acquire_returns {r : Option String} {locks : Locks}
    (h : s.acquire T key ttlMs = .ok (r, locks)) :
    (s.unexpired key = none ∧ r = some (T.gen s.acquired) ∧
        s.locks.setNX key (T.gen s.acquired) ttlMs s.clock = some locks) ∨
      (s.unexpired key ≠ none ∧ r = none ∧ locks = s.locks) := by
  unfold LockState.acquire acquireLock at h
  split at h
  · cases h
  · split at h
    · next L hL => cases h; exact .inl ⟨(Leases.setNX_eq_some.mp hL).1, rfl, hL⟩
    · next hL =>
      cases h
      refine .inr ⟨fun hn => ?_, rfl, rfl⟩
      rw [Leases.setNX_eq_some.mpr ⟨hn, rfl⟩] at hL
      cases hL

/-- A held key is refused. -/
theorem acquire_of_held {v : String} (ht : 0 < ttlMs) (h : s.unexpired key = some v) :
    s.acquire T key ttlMs = .ok (none, s.locks) := by
  unfold LockState.acquire acquireLock
  rw [if_neg (by omega), Leases.setNX_eq_none h]

theorem release_iff {v : String} : (s.release key v false).1 = true ↔ s.unexpired key = some v := by
  unfold LockState.release releaseLock Leases.delIf LockState.unexpired
  simp only [Bool.false_eq_true, if_false]
  split
  · next h => simp [h]
  · next h => simp [h]

theorem release_removes {v : String} (h : (s.release key v false).1 = true) :
    (s.release key v false).2 = ⟨Function.update s.locks.entry key none⟩ := by
  have hh := release_iff.mp h
  unfold LockState.unexpired at hh
  simp [LockState.release, releaseLock, Leases.delIf, hh]

theorem release_leaves {v : String} {fails : Bool} (h : (s.release key v fails).1 = false) :
    (s.release key v fails).2 = s.locks := by
  unfold LockState.release releaseLock Leases.delIf at h ⊢
  split
  · rfl
  · next hf =>
    rw [if_neg hf] at h
    split at h
    · cases h
    · next hh => simp [hh]

/-! ## Runs -/

theorem clock_le_lockStep (op : LockOp) : s.clock ≤ (lockStep T s op).clock := by
  cases op with
  | wait d => simp only [lockStep]; omega
  | acquireLock key ttlMs => simp only [lockStep]; split <;> exact le_rfl
  | releaseLock key v fails => exact le_rfl

theorem acquired_le_lockStep (op : LockOp) : s.acquired ≤ (lockStep T s op).acquired := by
  cases op with
  | wait d => exact le_rfl
  | acquireLock key ttlMs => simp only [lockStep]; split <;> exact Nat.le_succ _
  | releaseLock key v fails => exact le_rfl

theorem acquired_le_run (h : (lockRuns T).Run LTS.always s s') : s.acquired ≤ s'.acquired := by
  refine h.keep (P := fun x => s.acquired ≤ x.acquired) (fun x op x' hx _ hst => ?_) le_rfl
  cases hst
  exact hx.trans (acquired_le_lockStep op)

/-- The entry of a lease that counts survives every call but its own release. -/
theorem entry_lockStep {v : String} {d : Int} {op : LockOp} (hk : Keeps key v s op)
    (hd : (lockStep T s op).clock < d) (h : s.locks.entry key = some ⟨v, d⟩) :
    (lockStep T s op).locks.entry key = some ⟨v, d⟩ := by
  have hnow : s.clock < d := lt_of_le_of_lt (clock_le_lockStep op) hd
  have hheld : s.unexpired key = some v := Leases.holder_of_entry h hnow
  cases op with
  | wait n => exact h
  | acquireLock key' ttlMs =>
    simp only [lockStep]
    split
    · next r locks hr =>
      rcases acquire_returns hr with ⟨hfree, -, hset⟩ | ⟨-, -, rfl⟩
      · by_cases hkk : key = key'
        · subst hkk
          rw [hheld] at hfree
          cases hfree
        · show locks.entry key = _
          rw [Leases.setNX_ne hset hkk]
          exact h
      · exact h
    · exact h
  | releaseLock key' v' fails =>
    show (s.release key' v' fails).2.entry key = _
    unfold LockState.release releaseLock
    split
    · exact h
    · by_cases hkk : key = key'
      · subst hkk
        have hv : v ≠ v' := fun hv => hk fails (by rw [hv])
        exact Leases.delIf_other h hv
      · rw [Leases.delIf_ne hkk]
        exact h

/-- A lock that was taken is held until its deadline or its own release. -/
theorem held_run (ht : s.Takes T key ttlMs)
    (hr : (lockRuns T).Run (Keeps key (T.gen s.acquired))
      (lockStep T s (.acquireLock key ttlMs)) s')
    (hd : s'.clock < s.clock + ttlMs) : s'.unexpired key = some (T.gen s.acquired) := by
  obtain ⟨locks, ha⟩ := ht
  have hstart : (lockStep T s (.acquireLock key ttlMs)).locks.entry key =
      some ⟨T.gen s.acquired, s.clock + ttlMs⟩ := by
    simp only [lockStep, ha]
    rcases acquire_returns ha with ⟨-, -, hset⟩ | ⟨-, hn, -⟩
    · exact Leases.setNX_self hset
    · cases hn
  have hentry := hr.keep (P := fun x => x.clock < s.clock + ttlMs →
      x.locks.entry key = some ⟨T.gen s.acquired, s.clock + ttlMs⟩)
    (fun x op x' hx hk hst => by
      cases hst
      intro hlt
      exact entry_lockStep hk hlt (hx (lt_of_le_of_lt (clock_le_lockStep op) hlt)))
    (fun _ => hstart) hd
  exact Leases.holder_of_entry hentry hd

end

/-- What the calls from `s` on may rely on. -/
structure LockGuarantees (T : Tokens) (s : LockState) : Prop where
  throws : ∀ key ttlMs, (∃ e, s.acquire T key ttlMs = .error e) ↔ ttlMs ≤ 0
  acquires : ∀ key ttlMs r locks, s.acquire T key ttlMs = .ok (r, locks) →
    (r = some (T.gen s.acquired) ↔ s.unexpired key = none) ∧
      (r = none ↔ s.unexpired key ≠ none)
  /-- From the call that takes the lock to its deadline or its own release. -/
  excludes : ∀ key ttlMs s', s.Takes T key ttlMs →
    (lockRuns T).Run (Keeps key (T.gen s.acquired)) (lockStep T s (.acquireLock key ttlMs)) s' →
    s'.clock < s.clock + ttlMs → ∀ ttl, 0 < ttl → s'.acquire T key ttl = .ok (none, s'.locks)
  releases : ∀ key v, (s.release key v false).1 = true ↔ s.unexpired key = some v
  removes : ∀ key v, s.unexpired key = some v →
    (s.release key v false).2 = ⟨Function.update s.locks.entry key none⟩
  leaves : ∀ key v fails, (s.release key v fails).1 = false → (s.release key v fails).2 = s.locks
  /-- The token of an earlier lease does not free the lock of a later one. -/
  late : ∀ key ttlMs ttlMs' s₁ s₂, s.Takes T key ttlMs →
    (lockRuns T).Run LTS.always (lockStep T s (.acquireLock key ttlMs)) s₁ → s₁.Takes T key ttlMs' →
    (lockRuns T).Run (Keeps key (T.gen s₁.acquired)) (lockStep T s₁ (.acquireLock key ttlMs')) s₂ →
    s₂.clock < s₁.clock + ttlMs' →
      s₂.release key (T.gen s.acquired) false = (false, s₂.locks)

/-- **The lock.** -/
theorem lock_guarantees (T : Tokens) (s : LockState) : LockGuarantees T s where
  throws _ _ := acquire_throws_iff
  acquires key ttlMs r locks h := by
    rcases acquire_returns h with ⟨hfree, rfl, -⟩ | ⟨hheld, rfl, -⟩
    · simp [hfree]
    · simp [hheld]
  excludes key ttlMs s' ht hr hd ttl hpos := acquire_of_held hpos (held_run ht hr hd)
  releases _ _ := release_iff
  removes key v h := release_removes (release_iff.mpr h)
  leaves _ _ _ := release_leaves
  late key ttlMs ttlMs' s₁ s₂ ht hr ht' hr' hd := by
    have hheld := held_run ht' hr' hd
    have hlt : s.acquired < s₁.acquired := by
      obtain ⟨locks, ha⟩ := ht
      have hstep : (lockStep T s (.acquireLock key ttlMs)).acquired = s.acquired + 1 := by
        simp only [lockStep, ha]
      have hle := acquired_le_run hr
      omega
    have hne : T.gen s₁.acquired ≠ T.gen s.acquired := fun h => by
      have := T.inj h
      omega
    have hfalse : (s₂.release key (T.gen s.acquired) false).1 = false := by
      rw [Bool.eq_false_iff, ne_eq, release_iff, hheld, Option.some.injEq]
      exact hne
    exact Prod.ext hfalse (release_leaves hfalse)

end RouteGo.Bookings
