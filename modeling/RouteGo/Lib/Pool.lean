import RouteGo.Lib.LTS

/-!
# Interleaved processes

A `Pool` is a shared state and a list of processes. An event is a step of the
environment or of one process; a step of process `i` reads and writes the
shared state and its own local state only. `Pool.invariant` is the proof rule
for assertions of the processes: the own step establishes the next assertion,
the steps of others and of the environment do not interfere with it; `Pool.apart`
is the rule for what holds between two processes. `Spec.record` keeps a history,
which no step reads. `Solo` is what one process does alone, which is a run of the
pool (`Solo.run`).
-/

universe u v w x y

structure Pool (σ : Type u) (π : Type v) where
  shared : σ
  procs : List π

namespace Pool

inductive Event (ε : Type w) (η : Type x) where
  | env (e : η)
  | proc (i : Nat) (e : ε)

variable {σ : Type u} {π : Type v} {ε : Type w} {η : Type x}

/-- How process `i` and the environment step. -/
structure Spec (σ : Type u) (π : Type v) (ε : Type w) (η : Type x) where
  act : σ → Nat → π → ε → Option (σ × π)
  env : σ → η → Option σ

def step (S : Spec σ π ε η) (s : Pool σ π) : Event ε η → Option (Pool σ π)
  | .env e => (S.env s.shared e).map fun sh => { s with shared := sh }
  | .proc i e => s.procs[i]?.bind fun p =>
      (S.act s.shared i p e).map fun r => ⟨r.1, s.procs.set i r.2⟩

def system (S : Spec σ π ε η) (init : Pool σ π → Prop) : LTS (Pool σ π) (Event ε η) :=
  LTS.ofFn init (step S)

variable {S : Spec σ π ε η} {s s' : Pool σ π}

theorem step_env {e : η} (h : step S s (.env e) = some s') :
    ∃ sh, S.env s.shared e = some sh ∧ s' = ⟨sh, s.procs⟩ := by
  simp only [step, Option.map_eq_some_iff] at h
  obtain ⟨sh, h1, rfl⟩ := h
  exact ⟨sh, h1, rfl⟩

theorem step_proc {i : Nat} {e : ε} (h : step S s (.proc i e) = some s') :
    ∃ p sh p', s.procs[i]? = some p ∧ S.act s.shared i p e = some (sh, p') ∧
      s' = ⟨sh, s.procs.set i p'⟩ := by
  simp only [step, Option.bind_eq_some_iff, Option.map_eq_some_iff] at h
  obtain ⟨p, hp, ⟨sh, p'⟩, ha, rfl⟩ := h
  exact ⟨p, sh, p', hp, ha, rfl⟩

theorem getElem?_set_self_of {l : List π} {i : Nat} {p p' : π} (h : l[i]? = some p) :
    (l.set i p')[i]? = some p' := by
  rw [List.getElem?_set_self (List.getElem?_eq_some_iff.mp h).1]

theorem getElem?_set_cases {l : List π} {i j : Nat} {p q : π} (h : (l.set i p)[j]? = some q) :
    (j = i ∧ q = p) ∨ (j ≠ i ∧ l[j]? = some q) := by
  by_cases hji : j = i
  · subst hji
    left
    have hlt : j < l.length := by simpa using (List.getElem?_eq_some_iff.mp h).1
    rw [List.getElem?_set_self hlt] at h
    exact ⟨rfl, (Option.some.inj h).symm⟩
  · right
    rw [List.getElem?_set_ne (Ne.symm hji)] at h
    exact ⟨hji, h⟩

/-- The shared state satisfies `G` and every process its assertion. -/
def Holds (G : σ → Prop) (P : σ → Nat → π → Prop) (s : Pool σ π) : Prop :=
  G s.shared ∧ ∀ i p, s.procs[i]? = some p → P s.shared i p

/-- What is to be proved of the steps for `Holds G P` to be an invariant. -/
structure Outline (S : Spec σ π ε η) (ok : Pool σ π → Event ε η → Prop) (G : σ → Prop)
    (P : σ → Nat → π → Prop) : Prop where
  /-- A step of the environment. -/
  env : ∀ (s : Pool σ π) e sh, Holds G P s → ok s (.env e) → S.env s.shared e = some sh →
    G sh ∧ ∀ i p, s.procs[i]? = some p → P sh i p
  /-- A step of process `i`, and its own next assertion. -/
  own : ∀ (s : Pool σ π) i p e sh p', Holds G P s → ok s (.proc i e) → s.procs[i]? = some p →
    S.act s.shared i p e = some (sh, p') → G sh ∧ P sh i p'
  /-- A step of process `i` does not interfere with the assertion of `j`. -/
  other : ∀ (s : Pool σ π) i p e sh p' j q, Holds G P s → ok s (.proc i e) →
    s.procs[i]? = some p → S.act s.shared i p e = some (sh, p') → j ≠ i →
    s.procs[j]? = some q → P sh j q

variable {ok : Pool σ π → Event ε η → Prop} {G : σ → Prop} {P : σ → Nat → π → Prop}

theorem Outline.step (O : Outline S ok G P) {e : Event ε η} (h : Holds G P s) (ho : ok s e)
    (hs : Pool.step S s e = some s') : Holds G P s' := by
  cases e with
  | env e =>
    obtain ⟨sh, he, rfl⟩ := step_env hs
    obtain ⟨hG, hP⟩ := O.env s e sh h ho he
    exact ⟨hG, hP⟩
  | proc i e =>
    obtain ⟨p, sh, p', hp, ha, rfl⟩ := step_proc hs
    obtain ⟨hG, hP⟩ := O.own s i p e sh p' h ho hp ha
    refine ⟨hG, fun j q hq => ?_⟩
    rcases getElem?_set_cases hq with ⟨rfl, rfl⟩ | ⟨hji, hq⟩
    · exact hP
    · exact O.other s i p e sh p' j q h ho hp ha hji hq

/-- **Proof rule for interleaved processes.** -/
theorem invariant {init : Pool σ π → Prop} (O : Outline S ok G P)
    (hinit : ∀ s, init s → Holds G P s) (h : (system S init).Reach ok s) : Holds G P s :=
  h.invariant hinit fun _ _ _ _ hI ho hs => O.step hI ho hs

/-- What holds between any two processes. -/
def Apart (R : π → π → Prop) (s : Pool σ π) : Prop :=
  ∀ (i j : Nat) p q, i ≠ j → s.procs[i]? = some p → s.procs[j]? = some q → R p q

/-- **Pair rule.** A symmetric relation of the processes that the step of either
one keeps. -/
theorem apart {init : Pool σ π → Prop} {R : π → π → Prop} (hsymm : ∀ p q, R p q → R q p)
    (hinit : ∀ s, init s → Apart R s)
    (hstep : ∀ (s : Pool σ π) i p e sh p' j q, (system S init).Reach ok s → ok s (.proc i e) →
      s.procs[i]? = some p → S.act s.shared i p e = some (sh, p') → j ≠ i →
      s.procs[j]? = some q → R p q → R p' q)
    (h : (system S init).Reach ok s) : Apart R s := by
  refine h.invariant hinit fun s ev s' hr hI ho hst => ?_
  cases ev with
  | env e =>
    obtain ⟨sh, -, rfl⟩ := step_env hst
    exact hI
  | proc k e =>
    obtain ⟨p, sh, p', hp, ha, rfl⟩ := step_proc hst
    intro i j q r hij hq hr'
    rcases getElem?_set_cases hq with ⟨rfl, rfl⟩ | ⟨hik, hqi⟩ <;>
      rcases getElem?_set_cases hr' with ⟨rfl, rfl⟩ | ⟨hjk, hrj⟩
    · exact absurd rfl hij
    · exact hstep s i p e sh q j r hr ho hp ha hjk hrj (hI i j p r hij hp hrj)
    · exact hsymm _ _ (hstep s j p e sh r i q hr ho hp ha hik hqi (hI j i p q hij.symm hp hqi))
    · exact hI i j q r hij hqi hrj

/-! ## Histories -/

section
variable {α : Type y} {note : σ → Nat → π → ε → List α} {x x' : σ × List α} {i : Nat} {p p' : π}

/-- `S` with a record of the run: a step of a process appends what `note` says of it. -/
def Spec.record (S : Spec σ π ε η) (note : σ → Nat → π → ε → List α) : Spec (σ × List α) π ε η where
  act x i p e := (S.act x.1 i p e).map fun r => ((r.1, x.2 ++ note x.1 i p e), r.2)
  env x e := (S.env x.1 e).map fun sh => (sh, x.2)

theorem act_record {e : ε} (h : (S.record note).act x i p e = some (x', p')) :
    S.act x.1 i p e = some (x'.1, p') ∧ x'.2 = x.2 ++ note x.1 i p e := by
  simp only [Spec.record, Option.map_eq_some_iff, Prod.mk.injEq] at h
  obtain ⟨⟨sh, q⟩, ha, rfl, rfl⟩ := h
  exact ⟨ha, rfl⟩

theorem env_record {e : η} (h : (S.record note).env x e = some x') :
    S.env x.1 e = some x'.1 ∧ x'.2 = x.2 := by
  simp only [Spec.record, Option.map_eq_some_iff] at h
  obtain ⟨sh, he, rfl⟩ := h
  exact ⟨he, rfl⟩

end

/-! ## One process alone -/

/-- A step of process `i` or of the environment, seen by process `i`. -/
def SoloStep (S : Spec σ π ε η) (i : Nat) (x y : σ × π) : Prop :=
  (∃ e, S.env x.1 e = some y.1 ∧ y.2 = x.2) ∨ ∃ e, S.act x.1 i x.2 e = some y

/-- Process `i` runs alone. -/
def Solo (S : Spec σ π ε η) (i : Nat) : σ × π → σ × π → Prop :=
  Relation.ReflTransGen (SoloStep S i)

section
variable {i : Nat} {x y : σ × π} {sh sh' : σ} {p p' : π}

theorem Solo.refl (x : σ × π) : Solo S i x x := Relation.ReflTransGen.refl

theorem Solo.env (h : Solo S i x (sh, p)) (e : η) (he : S.env sh e = some sh') :
    Solo S i x (sh', p) := Relation.ReflTransGen.tail h (.inl ⟨e, he, rfl⟩)

theorem Solo.act (h : Solo S i x (sh, p)) (e : ε) (ha : S.act sh i p e = some (sh', p')) :
    Solo S i x (sh', p') := Relation.ReflTransGen.tail h (.inr ⟨e, ha⟩)

/-- What a process does alone is a run in which the others rest. -/
theorem Solo.run {init : Pool σ π → Prop} (h : Solo S i x y) (hp : s.procs[i]? = some x.2)
    (hs : s.shared = x.1) : (system S init).Run LTS.always s ⟨y.1, s.procs.set i y.2⟩ := by
  induction h with
  | refl =>
    have hset : s.procs.set i x.2 = s.procs := by
      apply List.ext_getElem?
      intro j
      rw [List.getElem?_set]
      split
      · next hij => subst hij; rw [hp]; simp [(List.getElem?_eq_some_iff.mp hp).1]
      · rfl
    rw [hset, ← hs]
    exact .refl s
  | @tail y z _ hyz ih =>
    rcases hyz with ⟨e, he, hz⟩ | ⟨e, ha⟩
    · refine ih.snoc (e := .env e) trivial ?_
      show step S _ (.env e) = _
      rw [step, he, hz]
      rfl
    · refine ih.snoc (e := .proc i e) trivial ?_
      show step S _ (.proc i e) = _
      rw [step, getElem?_set_self_of hp, Option.bind_some, ha, Option.map_some, List.set_set]

end

end Pool
