import RouteGo.Bookings.Concurrent

/-!
# The lock of a seat

`Owns`: as long as the lease of a call counts, the lock of its seat carries the
token of the call. It holds of every call between its `acquireLock` and its
`releaseLock`, in every run, and it says nothing once the TTL has elapsed. Two
calls whose leases count do not hold the same lock (`Owns.exclusive`). The lock is
made of texts and the store compares values, so the lock of a seat is one only for
calls that spell its ids alike (`Call.Alike`).
-/

namespace RouteGo.Bookings

/-- The lock a call holds at a point of `createHold`. -/
def HoldPc.held : HoldPc → Option Held
  | .locked l | .querying l _ | .available l _ | .inserting l _ _ | .releasing l _ => some l
  | .start | .done _ => none

structure Owns (env : Env) (T : Tokens) (sh : Shared) (i : Nat) (a : HoldArgs)
    (l : Held) : Prop where
  token : l.lockValue = T.gen i
  past : l.acquiredAt ≤ sh.clock
  entry : sh.clock < l.deadline env → sh.locks.entry a.lockKey = some ⟨T.gen i, l.deadline env⟩

def LockAssertion (env : Env) (T : Tokens) (sh : Shared) (i : Nat) : Call → Prop
  | .createHold a pc => ∀ l, pc.held = some l → Owns env T sh i a l
  | _ => True

section
variable {env : Env} {T : Tokens} {sh sh' : Shared} {i j : Nat} {a b : HoldArgs} {l k : Held}

theorem Owns.exclusive (h : Owns env T sh i a l) (h' : Owns env T sh j b k)
    (hl : sh.clock < l.deadline env) (hk : sh.clock < k.deadline env)
    (hkey : a.lockKey = b.lockKey) : i = j := by
  have he := h.entry hl
  rw [hkey, h'.entry hk] at he
  simp only [Option.some.injEq, Lease.mk.injEq] at he
  exact T.inj he.1.symm

theorem Owns.holder (h : Owns env T sh i a l) (hl : sh.clock < l.deadline env) :
    sh.locks.holder a.lockKey sh.clock = some (T.gen i) :=
  Leases.holder_of_entry (h.entry hl) hl

theorem Owns.frame (h : Owns env T sh i a l) (hc : sh.clock ≤ sh'.clock)
    (he : sh'.locks.entry a.lockKey = sh.locks.entry a.lockKey) : Owns env T sh' i a l :=
  ⟨h.token, h.past.trans hc, fun hl => he ▸ h.entry (by omega)⟩

/-- The moves of a call keep what it holds. -/
theorem HoldMove.owns_self {pc pc' : HoldPc} (hm : HoldMove env T sh i a pc sh' pc')
    (h : ∀ l, pc.held = some l → Owns env T sh i a l) (l : Held) (hl : pc'.held = some l) :
    Owns env T sh' i a l := by
  cases hm with
  | fail err => cases hl
  | acquire hu ht hs =>
    cases hl
    exact ⟨rfl, le_rfl, fun _ => Leases.setNX_self hs⟩
  | ask | answer _ | stamp | refuse₁ _ | refuse₂ _ | refuse₃ _ => exact h l hl
  | write hc => exact (h l hl).frame le_rfl rfl
  | release fails => cases hl

/-- The moves of another call do not take the lock away. -/
theorem HoldMove.owns_other {pc pc' : HoldPc} (hm : HoldMove env T sh j b pc sh' pc')
    (hself : ∀ k, pc.held = some k → Owns env T sh j b k) (hji : j ≠ i)
    (h : Owns env T sh i a l) : Owns env T sh' i a l := by
  cases hm with
  | fail _ | ask | answer _ | stamp | refuse₁ _ | refuse₂ _ | refuse₃ _ => exact h
  | write _ => exact h.frame le_rfl rfl
  | acquire hu ht hs =>
    refine ⟨h.token, h.past, fun hl => ?_⟩
    by_cases hk : a.lockKey = b.lockKey
    · -- the lock is held, so it was not taken
      rw [← hk, Leases.setNX_eq_none (h.holder hl)] at hs
      cases hs
    · exact (Leases.setNX_ne hs hk).trans (h.entry hl)
  | release fails =>
    refine ⟨h.token, h.past, fun hl => ?_⟩
    cases fails with
    | true => exact h.entry hl
    | false =>
      simp only [releaseLock, Bool.false_eq_true, if_false]
      by_cases hk : a.lockKey = b.lockKey
      · rw [← hk, (hself _ rfl).token]
        exact Leases.delIf_other (h.entry hl) fun hg => hji (T.inj hg).symm
      · rw [Leases.delIf_ne hk]; exact h.entry hl

theorem LockAssertion.frame {p : Call} (h : LockAssertion env T sh i p) (hc : sh.clock ≤ sh'.clock)
    (hl : sh'.locks = sh.locks) : LockAssertion env T sh' i p := by
  cases p with
  | createHold a pc => exact fun l hp => (h l hp).frame hc (by rw [hl])
  | confirmBooking | releaseBooking => trivial

theorem lockOutline (env : Env) (T : Tokens) :
    Pool.Outline (service env T) LTS.always (fun _ => True) (LockAssertion env T) where
  env s d sh h _ he := by
    cases he
    exact ⟨trivial, fun i p hp => (h.2 i p hp).frame (by simp) rfl⟩
  own s i p e sh p' h _ hp ha := by
    refine ⟨trivial, ?_⟩
    cases p with
    | createHold a pc =>
      obtain ⟨pc', rfl, hm⟩ := act_createHold ha
      exact hm.owns_self (h.2 i _ hp)
    | confirmBooking id pc => obtain ⟨pc', rfl, -⟩ := act_confirmBooking ha; trivial
    | releaseBooking id reason pc => obtain ⟨pc', rfl, -⟩ := act_releaseBooking ha; trivial
  other s i p e sh p' j q h _ hp ha hji hq := by
    cases p with
    | createHold a pc =>
      obtain ⟨pc', rfl, hm⟩ := act_createHold ha
      cases q with
      | createHold b qc =>
        exact fun l hl => hm.owns_other (h.2 i _ hp) (Ne.symm hji) (h.2 j _ hq l hl)
      | confirmBooking | releaseBooking => trivial
    | confirmBooking id pc =>
      obtain ⟨pc', rfl, hm⟩ := act_confirmBooking ha
      exact (h.2 j q hq).frame hm.frame.2.1.ge hm.frame.1
    | releaseBooking id reason pc =>
      obtain ⟨pc', rfl, hm⟩ := act_releaseBooking ha
      exact (h.2 j q hq).frame hm.frame.2.1.ge hm.frame.1

end

/-- No call has begun. -/
def Call.Fresh : Call → Prop
  | .createHold _ pc => pc = .start
  | .confirmBooking _ pc => pc = .start
  | .releaseBooking _ _ pc => pc = .start

/-- **The lock carries the token of its holder**, as long as the lease counts. -/
theorem owns_reach {env : Env} {T : Tokens} {init : Pool Shared Call → Prop}
    {ok : Pool Shared Call → Pool.Event StepIn Nat → Prop} {s : Pool Shared Call}
    (hinit : ∀ s, init s → ∀ p ∈ s.procs, p.Fresh)
    (h : (Pool.system (service env T) init).Reach ok s)
    {i : Nat} {a : HoldArgs} {pc : HoldPc} (hp : s.procs[i]? = some (.createHold a pc)) {l : Held}
    (hl : pc.held = some l) : Owns env T s.shared i a l := by
  have hI := Pool.invariant (lockOutline env T) (fun s hi =>
    ⟨trivial, fun j p hj => ?_⟩) h.reachable
  · exact hI.2 i _ hp l hl
  · have hf := hinit s hi p (List.mem_of_getElem? hj)
    cases p with
    | createHold b qc => cases hf; intro k hk; cases hk
    | confirmBooking | releaseBooking => trivial

/-! ## Spellings of a seat -/

/-- The request is for this seat of the store. -/
def HoldArgs.For (C : IdColumn) (a : HoldArgs) (trip seat : String) : Prop :=
  C.keep a.tripId = some trip ∧ C.keep a.seatId = some seat

/-- The requests, if they are for one seat of the store, spell its ids alike. -/
def HoldArgs.Alike (C : IdColumn) (a b : HoldArgs) : Prop :=
  ∀ trip seat, a.For C trip seat → b.For C trip seat → a.tripId = b.tripId ∧ a.seatId = b.seatId

/-- Ids are compared as exact strings by the lock and by the store. -/
def Call.Alike (C : IdColumn) : Call → Call → Prop
  | .createHold a _, .createHold b _ => a.Alike C b
  | _, _ => True

theorem HoldArgs.Alike.symm {C : IdColumn} {a b : HoldArgs} (h : a.Alike C b) : b.Alike C a := by
  intro trip seat hb ha
  obtain ⟨ht, hs⟩ := h trip seat ha hb
  exact ⟨ht.symm, hs.symm⟩

theorem Call.Alike.symm {C : IdColumn} {p q : Call} (h : p.Alike C q) : q.Alike C p := by
  cases p with
  | createHold a pc =>
    cases q with
    | createHold b qc => exact HoldArgs.Alike.symm h
    | confirmBooking | releaseBooking => trivial
  | confirmBooking | releaseBooking => cases q <;> trivial

theorem HoldArgs.Alike.lockKey_eq {C : IdColumn} {a b : HoldArgs} {trip seat : String}
    (h : a.Alike C b) (ha : a.For C trip seat) (hb : b.For C trip seat) :
    a.lockKey = b.lockKey := by
  obtain ⟨ht, hs⟩ := h trip seat ha hb
  rw [HoldArgs.lockKey, HoldArgs.lockKey, ht, hs]

theorem HoldArgs.alike_texts (a b : HoldArgs) : a.Alike .texts b := by
  rintro trip seat ⟨hat, has⟩ ⟨hbt, hbs⟩
  exact ⟨Option.some.inj (hat.trans hbt.symm), Option.some.inj (has.trans hbs.symm)⟩

/-- A call keeps its request. -/
theorem alike_act {env : Env} {T : Tokens} {C : IdColumn} {sh sh' : Shared} {i : Nat}
    {p p' q : Call}
    {e : StepIn} (ha : (service env T).act sh i p e = some (sh', p')) (h : p.Alike C q) :
    p'.Alike C q := by
  cases p with
  | createHold a pc =>
    obtain ⟨pc', rfl, -⟩ := act_createHold ha
    cases q <;> exact h
  | confirmBooking id pc => obtain ⟨pc', rfl, -⟩ := act_confirmBooking ha; trivial
  | releaseBooking id reason pc => obtain ⟨pc', rfl, -⟩ := act_releaseBooking ha; trivial

theorem alike_reach {env : Env} {T : Tokens} {C : IdColumn} {init : Pool Shared Call → Prop}
    {ok : Pool Shared Call → Pool.Event StepIn Nat → Prop} {s : Pool Shared Call}
    (hinit : ∀ s, init s → Pool.Apart (Call.Alike C) s)
    (h : (Pool.system (service env T) init).Reach ok s) : Pool.Apart (Call.Alike C) s := by
  exact Pool.apart (fun p q hpq => hpq.symm) hinit
    (fun s i p e sh p' j q _ _ _ ha _ _ hR => alike_act ha hR) h

/-- A pool of calls whose column has one spelling for each value. -/
theorem alike_texts (s : Pool Shared Call) : Pool.Apart (Call.Alike .texts) s := by
  intro i j p q _ _ _
  cases p with
  | createHold a pc =>
    cases q with
    | createHold b qc => exact HoldArgs.alike_texts a b
    | confirmBooking | releaseBooking => trivial
  | confirmBooking | releaseBooking => cases q <;> trivial

end RouteGo.Bookings
