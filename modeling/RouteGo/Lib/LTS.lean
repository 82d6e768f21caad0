import Mathlib.Logic.Relation
import Mathlib.Data.List.Basic

/-!
# Labelled transition systems

`M.Run ok s s'`: `M` goes from `s` to `s'`, every step taken in a state and
under a label that `ok` admits; `M.Reach ok` starts at an initial state.
`Reach.invariant` and `Run.stable` are the two induction rules: what holds
initially and is kept by the admitted steps holds in every reached state, and
what the admitted steps keep is never lost. `Run.stutters` and `Run.simulates` read
the runs of one system as runs of another. `LTS.ofFn` is a system whose steps are computed,
`execAll` runs it on a list of labels.
-/

universe u v w x

structure LTS (σ : Type u) (ε : Type v) where
  init : σ → Prop
  step : σ → ε → σ → Prop

namespace LTS

variable {σ : Type u} {ε : Type v}

/-- No step is excluded. -/
abbrev always : σ → ε → Prop := fun _ _ => True

/-- One admitted step. -/
def Next (M : LTS σ ε) (ok : σ → ε → Prop) (s s' : σ) : Prop := ∃ e, ok s e ∧ M.step s e s'

def Run (M : LTS σ ε) (ok : σ → ε → Prop) : σ → σ → Prop := Relation.ReflTransGen (M.Next ok)

def Reach (M : LTS σ ε) (ok : σ → ε → Prop) (s : σ) : Prop := ∃ s₀, M.init s₀ ∧ M.Run ok s₀ s

/-- The states of all runs. -/
abbrev Reachable (M : LTS σ ε) : σ → Prop := M.Reach always

variable {M : LTS σ ε} {ok ok' : σ → ε → Prop} {s s' s'' : σ} {e : ε}

theorem Run.refl (s : σ) : M.Run ok s s := Relation.ReflTransGen.refl

theorem Run.trans (h : M.Run ok s s') (h' : M.Run ok s' s'') : M.Run ok s s'' :=
  Relation.ReflTransGen.trans h h'

theorem Run.snoc (h : M.Run ok s s') (ho : ok s' e) (hs : M.step s' e s'') : M.Run ok s s'' :=
  Relation.ReflTransGen.tail h ⟨e, ho, hs⟩

theorem Run.mono (hm : ∀ s e, ok s e → ok' s e) (h : M.Run ok s s') : M.Run ok' s s' :=
  Relation.ReflTransGen.mono (r := M.Next ok) (p := M.Next ok')
    (fun _ _ ⟨e, ho, hs⟩ => ⟨e, hm _ e ho, hs⟩) _ _ h

theorem Reach.of_init (h : M.init s) : M.Reach ok s := ⟨s, h, .refl s⟩

theorem Reach.run (h : M.Reach ok s) (hr : M.Run ok s s') : M.Reach ok s' := by
  obtain ⟨s₀, hi, h0⟩ := h
  exact ⟨s₀, hi, h0.trans hr⟩

theorem Reach.snoc (h : M.Reach ok s) (ho : ok s e) (hs : M.step s e s') : M.Reach ok s' :=
  h.run ((Run.refl s).snoc ho hs)

theorem Reach.mono (hm : ∀ s e, ok s e → ok' s e) (h : M.Reach ok s) : M.Reach ok' s := by
  obtain ⟨s₀, hi, h0⟩ := h
  exact ⟨s₀, hi, h0.mono hm⟩

theorem Reach.reachable (h : M.Reach ok s) : M.Reachable s := h.mono fun _ _ _ => trivial

/-- **Invariant rule.** The step may use that its state is reached. -/
theorem Reach.invariant {I : σ → Prop} (hinit : ∀ s, M.init s → I s)
    (hstep : ∀ s e s', M.Reach ok s → I s → ok s e → M.step s e s' → I s')
    (h : M.Reach ok s) : I s := by
  obtain ⟨s₀, hi, hr⟩ := h
  induction hr with
  | refl => exact hinit _ hi
  | tail hr hn ih =>
    obtain ⟨e, ho, hs⟩ := hn
    exact hstep _ e _ ⟨s₀, hi, hr⟩ ih ho hs

/-- What holds in every reached state may be assumed of the states stepped from. -/
theorem Reach.strengthen {I : σ → Prop} (hI : ∀ s, M.Reach ok s → I s) (h : M.Reach ok s) :
    M.Reach (fun s e => ok s e ∧ I s) s :=
  h.invariant (fun _ hi => .of_init hi)
    fun s _ _ hr ih ho hs => ih.snoc ⟨ho, hI s hr⟩ hs

/-- What every admitted step keeps is kept by every run, from any state. -/
theorem Run.keep {P : σ → Prop} (hstep : ∀ s e s', P s → ok s e → M.step s e s' → P s')
    (h : M.Run ok s s') (hp : P s) : P s' := by
  induction h with
  | refl => exact hp
  | tail _ hn ih =>
    obtain ⟨e, ho, hst⟩ := hn
    exact hstep _ e _ ih ho hst

/-- **Stability rule.** What every admitted step of a reached state keeps is
kept by every run from one. -/
theorem Run.stable {P : σ → Prop} (hs : M.Reach ok s)
    (hstep : ∀ s e s', M.Reach ok s → P s → ok s e → M.step s e s' → P s')
    (h : M.Run ok s s') (hp : P s) : P s' := by
  have key : M.Reach ok s' ∧ P s' := by
    induction h with
    | refl => exact ⟨hs, hp⟩
    | tail _ hn ih =>
      obtain ⟨e, ho, hst⟩ := hn
      exact ⟨ih.1.snoc ho hst, hstep _ e _ ih.1 ih.2 ho hst⟩
  exact key.2

/-- What holds in every state of a run may be assumed of the states stepped from. -/
theorem Run.strengthen {I : σ → Prop} (hs : M.Reach ok s)
    (hI : ∀ t, M.Reach ok t → M.Run ok s t → I t) (h : M.Run ok s s') :
    M.Run (fun t e => ok t e ∧ I t) s s' := by
  induction h with
  | refl => exact .refl s
  | tail hr hn ih =>
    obtain ⟨e, ho, hst⟩ := hn
    exact ih.snoc ⟨ho, hI _ (hs.run hr) hr⟩ hst

/-- **Preorder rule.** A reflexive and transitive relation that holds across
every admitted step of a reached state holds across every run from one. -/
theorem Run.preorder {R : σ → σ → Prop} (hrefl : ∀ s, R s s)
    (htrans : ∀ a b c, R a b → R b c → R a c) (hs : M.Reach ok s)
    (hstep : ∀ s e s', M.Reach ok s → ok s e → M.step s e s' → R s s')
    (h : M.Run ok s s') : R s s' :=
  Run.stable (P := R s) hs (fun _ e _ hr hp ho hst => htrans _ _ _ hp (hstep _ e _ hr ho hst)) h
    (hrefl s)

/-- **Stuttering rule.** Where every admitted step of a reached state is, in what `f`
reads, an admitted step of `N` or none, every run from one is a run of `N`. -/
theorem Run.stutters {τ : Type w} {δ : Type x} {N : LTS τ δ} {okN : τ → δ → Prop} {f : σ → τ}
    (hok : ∀ s e, ok s e → ok' s e) (hs : M.Reach ok' s)
    (hstep : ∀ s e s', M.Reach ok' s → ok s e → M.step s e s' →
      f s' = f s ∨ ∃ d, okN (f s) d ∧ N.step (f s) d (f s'))
    (h : M.Run ok s s') : N.Run okN (f s) (f s') := by
  refine (h.keep (P := fun t => M.Reach ok' t ∧ N.Run okN (f s) (f t))
    (fun t e t' ⟨hr, hn⟩ ho hst => ⟨hr.snoc (hok t e ho) hst, ?_⟩) ⟨hs, .refl _⟩).2
  rcases hstep t e t' hr ho hst with heq | ⟨d, hd, hn'⟩
  · rw [heq]
    exact hn
  · exact hn.snoc hd hn'

/-- **Simulation rule.** Where every admitted step of a reached state is, in what `f`
reads, an admitted step of `N`, every run from one is a run of `N`. -/
theorem Run.simulates {τ : Type w} {δ : Type x} {N : LTS τ δ} {okN : τ → δ → Prop} {f : σ → τ}
    (hok : ∀ s e, ok s e → ok' s e) (hs : M.Reach ok' s)
    (hstep : ∀ s e s', M.Reach ok' s → ok s e → M.step s e s' →
      ∃ d, okN (f s) d ∧ N.step (f s) d (f s'))
    (h : M.Run ok s s') : N.Run okN (f s) (f s') :=
  h.stutters hok hs fun s e s' hr ho hst => .inr (hstep s e s' hr ho hst)

/-! ## Histories -/

/-- `P` was so on the way to `s`. -/
def Was (M : LTS σ ε) (ok : σ → ε → Prop) (P : σ → Prop) (s : σ) : Prop :=
  ∃ t, M.Reach ok t ∧ M.Run ok t s ∧ P t

theorem Was.of_now {P : σ → Prop} (h : M.Reach ok s) (hp : P s) : M.Was ok P s :=
  ⟨s, h, .refl s, hp⟩

theorem Was.snoc {P : σ → Prop} {e : ε} (h : M.Was ok P s) (ho : ok s e) (hst : M.step s e s') :
    M.Was ok P s' := by
  obtain ⟨t, ht, hr, hp⟩ := h
  exact ⟨t, ht, hr.snoc ho hst, hp⟩

/-! ## Computed systems -/

/-- The system that steps by `f`; `none` is a label that is not enabled. -/
def ofFn (init : σ → Prop) (f : σ → ε → Option σ) : LTS σ ε := ⟨init, fun s e s' => f s e = some s'⟩

/-- Run the labels in order. -/
def execAll (f : σ → ε → Option σ) : σ → List ε → Option σ
  | s, [] => some s
  | s, e :: es => (f s e).bind fun s' => execAll f s' es

/-- Every label of the list is admitted in the state it is run in. -/
def AllOk (f : σ → ε → Option σ) (ok : σ → ε → Prop) : σ → List ε → Prop
  | _, [] => True
  | s, e :: es => ok s e ∧ match f s e with
    | some s' => AllOk f ok s' es
    | none => True

instance AllOk.decidable (f : σ → ε → Option σ) [∀ s e, Decidable (ok s e)] :
    ∀ (s : σ) (es : List ε), Decidable (AllOk f ok s es)
  | _, [] => .isTrue trivial
  | s, e :: es =>
    have : Decidable (match f s e with | some s' => AllOk f ok s' es | none => True) :=
      match f s e with
      | some s' => AllOk.decidable f s' es
      | none => .isTrue trivial
    inferInstanceAs (Decidable (_ ∧ _))

theorem allOk_of_mem (f : σ → ε → Option σ) : ∀ {es : List ε} (s : σ), (∀ e ∈ es, ∀ s, ok s e) →
    AllOk f ok s es
  | [], _, _ => trivial
  | e :: es, s, h => by
    refine ⟨h e List.mem_cons_self s, ?_⟩
    cases f s e with
    | some s' => exact allOk_of_mem f s' fun e he => h e (List.mem_cons_of_mem _ he)
    | none => trivial

theorem allOk_always (f : σ → ε → Option σ) (s : σ) (es : List ε) : AllOk f always s es :=
  allOk_of_mem f s fun _ _ _ => trivial

theorem execAll_append {f : σ → ε → Option σ} {es es' : List ε} {s : σ} :
    execAll f s (es ++ es') = (execAll f s es).bind fun t => execAll f t es' := by
  induction es generalizing s with
  | nil => rfl
  | cons e es ih =>
    cases hs : f s e with
    | none => simp [execAll, hs]
    | some t => simp [execAll, hs, ih]

/-- Admitted is every step that the labels before it lead to. -/
theorem allOk_iff {f : σ → ε → Option σ} {es : List ε} {s : σ} : AllOk f ok s es ↔
    ∀ before e after t, es = before ++ e :: after → execAll f s before = some t → ok t e := by
  induction es generalizing s with
  | nil => simp [AllOk]
  | cons e es ih =>
    constructor
    · rintro ⟨ho, hok⟩ before e' after t heq h
      cases before with
      | nil =>
        obtain ⟨rfl, -⟩ := List.cons.inj heq
        obtain rfl := Option.some.inj h
        exact ho
      | cons e₀ before =>
        obtain ⟨rfl, rfl⟩ := List.cons.inj heq
        obtain ⟨m, hm, h⟩ := Option.bind_eq_some_iff.mp h
        rw [hm] at hok
        exact ih.mp hok before e' after t rfl h
    · intro h
      refine ⟨h [] e es s rfl rfl, ?_⟩
      cases hm : f s e with
      | none => trivial
      | some m =>
        refine ih.mpr fun before e' after t heq ht =>
          h (e :: before) e' after t (by rw [heq]; rfl) ?_
        rw [execAll, hm, Option.bind_some, ht]

theorem run_of_execAll {init : σ → Prop} {f : σ → ε → Option σ} :
    ∀ {es : List ε} {s s' : σ}, AllOk f ok s es → execAll f s es = some s' →
      (ofFn init f).Run ok s s'
  | [], s, s', _, h => by
    obtain rfl : s = s' := by simpa [execAll] using h
    exact .refl s
  | e :: es, s, s', hok, h => by
    simp only [execAll, Option.bind_eq_some_iff] at h
    obtain ⟨m, hm, hr⟩ := h
    obtain ⟨ho, hok⟩ := hok
    rw [hm] at hok
    exact ((Run.refl s).snoc ho hm).trans (run_of_execAll hok hr)

theorem reach_of_execAll {init : σ → Prop} {f : σ → ε → Option σ} (es : List ε) (hi : init s)
    (hok : AllOk f ok s es) (h : execAll f s es = some s') : (ofFn init f).Reach ok s' :=
  ⟨s, hi, run_of_execAll hok h⟩

theorem reachable_of_execAll {init : σ → Prop} {f : σ → ε → Option σ} (es : List ε) (hi : init s)
    (h : execAll f s es = some s') : (ofFn init f).Reachable s' :=
  reach_of_execAll es hi (allOk_always f s es) h

/-- The state that is computed. -/
theorem execAll_getD {f : σ → ε → Option σ} {es : List ε} (h : (execAll f s es).isSome = true) :
    execAll f s es = some ((execAll f s es).getD s) := by
  obtain ⟨s', hs⟩ := Option.isSome_iff_exists.mp h
  rw [hs, Option.getD_some]

/-- A run that ends without a mark was admitted at every step, where the step that
is not admitted leaves a mark and no step takes one away. -/
theorem allOk_of_execAll {init : σ → Prop} {f : σ → ε → Option σ} {Q : σ → Prop}
    (hmark : ∀ s e s', (ofFn init f).Reachable s → ¬ ok s e → f s e = some s' → Q s')
    (hkeep : ∀ s e s', Q s → f s e = some s' → Q s') :
    ∀ {es : List ε} {s s' : σ}, (ofFn init f).Reachable s → execAll f s es = some s' → ¬ Q s' →
      AllOk f ok s es
  | [], _, _, _, _, _ => trivial
  | e :: es, s, s', hr, h, hq => by
    simp only [execAll, Option.bind_eq_some_iff] at h
    obtain ⟨m, hm, h⟩ := h
    have hkeeps : ∀ {es : List ε} {s : σ}, Q s → execAll f s es = some s' → Q s' := by
      intro es
      induction es with
      | nil =>
        intro s hs h
        obtain rfl : s = s' := by simpa [execAll] using h
        exact hs
      | cons e es ih =>
        intro s hs h
        simp only [execAll, Option.bind_eq_some_iff] at h
        obtain ⟨m, hm, h⟩ := h
        exact ih (hkeep s e m hs hm) h
    refine ⟨?_, ?_⟩
    · by_contra ho
      exact hq (hkeeps (hmark s e m hr ho hm) h)
    · rw [hm]
      exact allOk_of_execAll hmark hkeep (hr.snoc trivial hm) h hq

/-- A system in which every label is enabled runs by folding. -/
theorem reachable_foldl {init : σ → Prop} (f : σ → ε → σ) (es : List ε) (hi : init s) :
    (ofFn init fun s e => some (f s e)).Reachable (es.foldl f s) := by
  refine reachable_of_execAll es hi ?_
  clear hi
  induction es generalizing s with
  | nil => rfl
  | cons e es ih => exact ih

end LTS
