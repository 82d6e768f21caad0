import Mathlib.Data.List.Induction
import RouteGo.Lib.Pool

/-!
# Check, look up, insert

Calls that check their request, look whether what they are to insert is taken,
and insert it if it is not. Steps of other calls run between the look-up and the
insert, so only what the insert itself keeps is an invariant (`invariant`); what
relies on the look-up holds in the runs in which its answer is still true when
the call inserts (`invariant_of_lookups`), and, where an insert of what is taken
breaks it for good, in no others (`iff_allOk_lookups`). Its answer is still true just if
no other call has stored what clashes since (`lookups_iff_undisturbed`). A call that throws leaves
the state alone (`unchanged`), what is in the state was put there by a call that
returned it (`origin`), and what a call has returned stays true (`returned`).
-/

universe u v w x y z t

/-- Such a service. `insert` is `none` for new identifiers that are not new. -/
structure CheckInsert (σ : Type u) (ρ : Type v) (δ : Type w) (ι : Type x) (α : Type y)
    (β : Type z) where
  check : ρ → Except β δ
  taken : σ → δ → Bool
  conflict : δ → β
  insert : σ → ι → δ → Option (Except β (α × σ))
  fault : β

namespace CheckInsert

inductive Pc (δ : Type w) (α : Type y) (β : Type z) where
  | start
  | inserting (data : δ)
  | done (res : Except β α)
  deriving DecidableEq

structure Call (ρ : Type v) (δ : Type w) (α : Type y) (β : Type z) where
  request : ρ
  pc : Pc δ α β
  deriving DecidableEq

/-- The identifiers for new rows, and whether the operation is made to throw,
without effect. -/
structure StepIn (ι : Type x) where
  ids : ι
  fault : Bool

variable {σ : Type u} {ρ : Type v} {δ : Type w} {ι : Type x} {α : Type y} {β : Type z}

def step (C : CheckInsert σ ρ δ ι α β) (s : σ) (q : ρ) (e : StepIn ι) :
    Pc δ α β → Option (σ × Pc δ α β)
  | .start =>
    match C.check q with
    | .error b => some (s, .done (.error b))
    | .ok d =>
      if e.fault then some (s, .done (.error C.fault))
      else if C.taken s d then some (s, .done (.error (C.conflict d)))
      else some (s, .inserting d)
  | .inserting d =>
    if e.fault then some (s, .done (.error C.fault))
    else match C.insert s e.ids d with
      | none => none
      | some (.error b) => some (s, .done (.error b))
      | some (.ok (a, s')) => some (s', .done (.ok a))
  | .done _ => none

def spec (C : CheckInsert σ ρ δ ι α β) : Pool.Spec σ (Call ρ δ α β) (StepIn ι) Empty where
  act s _ c e := (C.step s c.request e c.pc).map fun r => (r.1, ⟨c.request, r.2⟩)
  env _ e := e.elim

/-- Any calls, none begun, from a state that satisfies `init`. -/
def calls (C : CheckInsert σ ρ δ ι α β) (init : σ → Prop) :
    LTS (Pool σ (Call ρ δ α β)) (Pool.Event (StepIn ι) Empty) :=
  Pool.system C.spec fun s => init s.shared ∧ ∀ c ∈ s.procs, c.pc = .start

variable {C : CheckInsert σ ρ δ ι α β} {s s' : σ} {i : Nat} {c c' : Call ρ δ α β} {e : StepIn ι}

/-! ## One step -/

/-- What a step does: the call throws, or passes its look-up, or inserts and
returns. -/
inductive Moves (C : CheckInsert σ ρ δ ι α β) (s : σ) (c : Call ρ δ α β) (e : StepIn ι) (s' : σ)
    (c' : Call ρ δ α β) : Prop
  | throw (b : β) (hpc : c'.pc = .done (.error b)) (hs : s' = s)
  | pass (d : δ) (hpc : c'.pc = .inserting d) (hc : C.check c.request = .ok d)
      (ht : C.taken s d = false) (hs : s' = s)
  | insert (d : δ) (a : α) (hpc : c.pc = .inserting d) (hpc' : c'.pc = .done (.ok a))
      (hf : e.fault = false) (hi : C.insert s e.ids d = some (.ok (a, s')))

theorem act_moves (h : C.spec.act s i c e = some (s', c')) :
    c'.request = c.request ∧ C.Moves s c e s' c' := by
  obtain ⟨q, pc⟩ := c
  simp only [spec, Option.map_eq_some_iff, Prod.mk.injEq] at h
  obtain ⟨⟨s₁, pc'⟩, hs, rfl, rfl⟩ := h
  refine ⟨rfl, ?_⟩
  cases pc with
  | start =>
    simp only [step] at hs
    split at hs
    · next b _ => cases hs; exact .throw b rfl rfl
    · next d hc =>
      split at hs
      · cases hs; exact .throw C.fault rfl rfl
      · split at hs
        · cases hs; exact .throw (C.conflict d) rfl rfl
        · next ht => cases hs; exact .pass d rfl hc (Bool.eq_false_iff.mpr ht) rfl
  | inserting d =>
    simp only [step] at hs
    split at hs
    · cases hs; exact .throw C.fault rfl rfl
    · next hf =>
      split at hs
      · cases hs
      · next b _ => cases hs; exact .throw b rfl rfl
      · next a s₁ hi => cases hs; exact .insert d a rfl rfl (Bool.eq_false_iff.mpr hf) hi
  | done res => cases hs

/-- A step changes the state only when its call returns. -/
theorem unchanged (h : C.spec.act s i c e = some (s', c')) (hn : ∀ a, c'.pc ≠ .done (.ok a)) :
    s' = s := by
  cases (act_moves h).2 with
  | throw b hpc hs => exact hs
  | pass d hpc hc ht hs => exact hs
  | insert d a hpc hpc' hf hi => exact absurd hpc' (hn a)

/-- The state after a step of any call. -/
theorem shared_of_step {p p' : Pool σ (Call ρ δ α β)} {ev : Pool.Event (StepIn ι) Empty}
    (h : Pool.step C.spec p ev = some p') : p'.shared = p.shared ∨
      ∃ d ids a, C.insert p.shared ids d = some (.ok (a, p'.shared)) := by
  cases ev with
  | env e => exact e.elim
  | proc i e =>
    obtain ⟨c, s', c', -, ha, rfl⟩ := Pool.step_proc h
    cases (act_moves ha).2 with
    | throw b hpc hs => exact .inl hs
    | pass d hpc hc ht hs => exact .inl hs
    | insert d a hpc hpc' hf hi => exact .inr ⟨d, e.ids, a, hi⟩

/-- An insert that is not made to throw inserts. -/
theorem insert_of_step {p p' : Pool σ (Call ρ δ α β)} {q : ρ} {d : δ}
    (hall : ∀ s d ids b, C.insert s ids d ≠ some (.error b))
    (hq : p.procs[i]? = some ⟨q, .inserting d⟩) (hf : e.fault = false)
    (h : Pool.step C.spec p (.proc i e) = some p') :
    ∃ a, C.insert p.shared e.ids d = some (.ok (a, p'.shared)) := by
  obtain ⟨c, s', c', hc, ha, rfl⟩ := Pool.step_proc h
  obtain rfl := Option.some.inj (hq.symm.trans hc)
  cases hins : C.insert p.shared e.ids d with
  | none => simp [spec, step, hf, hins] at ha
  | some r =>
    cases r with
    | error b => exact absurd hins (hall _ _ _ b)
    | ok r =>
      obtain ⟨a, s₁⟩ := r
      simp only [spec, step, hf, hins, Bool.false_eq_true, if_false, Option.map_some,
        Option.some.injEq, Prod.mk.injEq] at ha
      obtain ⟨rfl, -⟩ := ha
      exact ⟨a, rfl⟩

/-- A call that has ended takes no step. -/
theorem not_done_of_act {res : Except β α} (h : C.spec.act s i c e = some (s', c')) :
    c.pc ≠ .done res := by
  intro hd
  simp [spec, step, hd] at h

/-- A call that has ended stays as it is. -/
theorem done_set {p : Pool σ (Call ρ δ α β)} {j : Nat} {q : ρ} {res : Except β α}
    (hj : p.procs[j]? = some ⟨q, .done res⟩) (hc : p.procs[i]? = some c)
    (ha : C.spec.act p.shared i c e = some (s', c')) :
    (p.procs.set i c')[j]? = some ⟨q, .done res⟩ := by
  have hji : j ≠ i := by
    rintro rfl
    obtain rfl := Option.some.inj (hc.symm.trans hj)
    exact not_done_of_act ha rfl
  rw [List.getElem?_set_ne (Ne.symm hji)]
  exact hj

theorem done_run {init : σ → Prop} {p p' : Pool σ (Call ρ δ α β)} {j : Nat} {q : ρ}
    {res : Except β α} (hr : (C.calls init).Run LTS.always p p')
    (hj : p.procs[j]? = some ⟨q, .done res⟩) : p'.procs[j]? = some ⟨q, .done res⟩ := by
  refine hr.keep (P := fun p => p.procs[j]? = some ⟨q, .done res⟩) (fun p ev p' hj _ hst => ?_) hj
  cases ev with
  | env e => exact e.elim
  | proc i e =>
    obtain ⟨c, s', c', hc, ha, rfl⟩ := Pool.step_proc hst
    exact done_set hj hc ha

/-! ## Invariants -/

/-- What a call is about to insert has passed its checks. -/
def Call.Checked (C : CheckInsert σ ρ δ ι α β) (c : Call ρ δ α β) : Prop :=
  ∀ d, c.pc = .inserting d → C.check c.request = .ok d

/-- The answer of the look-up is still true when a call inserts. -/
def LookupHolds (C : CheckInsert σ ρ δ ι α β) (p : Pool σ (Call ρ δ α β)) :
    Pool.Event (StepIn ι) Empty → Prop
  | .env _ => True
  | .proc i e => ∀ q d, p.procs[i]? = some ⟨q, .inserting d⟩ → e.fault = false →
      C.taken p.shared d = false

theorem Call.Checked.act (ha : C.spec.act s i c e = some (s', c')) : c'.Checked C := by
  obtain ⟨hq, hm⟩ := act_moves ha
  intro d hd
  cases hm with
  | throw b hpc hs => rw [hpc] at hd; cases hd
  | pass d hpc hc ht hs =>
    rw [hpc] at hd
    cases hd
    rw [hq]
    exact hc
  | insert d a hpc hpc' hf hi => rw [hpc'] at hd; cases hd

theorem Call.eta {q : ρ} {pc : Pc δ α β} (hq : c.request = q) (hpc : c.pc = pc) : c = ⟨q, pc⟩ := by
  subst hq hpc
  rfl

/-- What every insert keeps, the steps before it being admitted by `ok`. -/
theorem outline {ok : Pool σ (Call ρ δ α β) → Pool.Event (StepIn ι) Empty → Prop} {G : σ → Prop}
    (hins : ∀ (p : Pool σ (Call ρ δ α β)) i q d e a s', G p.shared → ok p (.proc i e) →
      p.procs[i]? = some ⟨q, .inserting d⟩ → C.check q = .ok d → e.fault = false →
      C.insert p.shared e.ids d = some (.ok (a, s')) → G s') :
    Pool.Outline C.spec ok G fun _ _ c => c.Checked C where
  env _ e := e.elim
  own p i c e s' c' h ho hc ha := by
    refine ⟨?_, .act ha⟩
    cases (act_moves ha).2 with
    | throw b hpc hs => rw [hs]; exact h.1
    | pass d hpc hc ht hs => rw [hs]; exact h.1
    | insert d a hpc hpc' hf hi =>
      have hp : p.procs[i]? = some ⟨c.request, .inserting d⟩ := by rw [hc, Call.eta rfl hpc]
      exact hins p i c.request d e a s' h.1 ho hp (h.2 i c hc d hpc) hf hi
  other _ _ _ _ _ _ j q h _ _ _ _ hq := h.2 j q hq

theorem holds_init {G init : σ → Prop} (h0 : ∀ s, init s → G s) (p : Pool σ (Call ρ δ α β))
    (h : init p.shared ∧ ∀ c ∈ p.procs, c.pc = .start) :
    Pool.Holds G (fun _ _ c => c.Checked C) p := by
  refine ⟨h0 _ h.1, fun i c hc d hd => ?_⟩
  rw [h.2 c (List.mem_of_getElem? hc)] at hd
  cases hd

/-- **Insert rule.** What every insert of checked data keeps holds in every
reachable state. -/
theorem invariant {G init : σ → Prop} (h0 : ∀ s, init s → G s)
    (hins : ∀ s q d ids a s', G s → C.check q = .ok d →
      C.insert s ids d = some (.ok (a, s')) → G s')
    {p : Pool σ (Call ρ δ α β)} (h : (C.calls init).Reachable p) : G p.shared :=
  (Pool.invariant (outline fun _ _ q d e a s' hG _ _ hc _ hi => hins _ q d e.ids a s' hG hc hi)
    (holds_init h0) h).1

/-- **Look-up rule.** What an insert of data that are not taken keeps holds in the
runs in which the look-ups are still true. -/
theorem invariant_of_lookups {G init : σ → Prop} (h0 : ∀ s, init s → G s)
    (hins : ∀ s q d ids a s', G s → C.check q = .ok d → C.taken s d = false →
      C.insert s ids d = some (.ok (a, s')) → G s')
    {p : Pool σ (Call ρ δ α β)} (h : (C.calls init).Reach C.LookupHolds p) : G p.shared :=
  (Pool.invariant (outline fun _ _ q d e a s' hG ho hp hc hf hi =>
    hins _ q d e.ids a s' hG hc (ho q d hp hf) hi) (holds_init h0) h).1

/-- **The look-ups are needed**, where an insert of what is taken breaks `G` for
good: `G` holds after exactly the runs in which they are still true. -/
theorem iff_allOk_lookups {G init : σ → Prop} (h0 : ∀ s, init s → G s)
    (hins : ∀ s q d ids a s', G s → C.check q = .ok d → C.taken s d = false →
      C.insert s ids d = some (.ok (a, s')) → G s')
    (htaken : ∀ s d ids a s', C.taken s d = true → C.insert s ids d = some (.ok (a, s')) → ¬ G s')
    (hkeep : ∀ s d ids a s', ¬ G s → C.insert s ids d = some (.ok (a, s')) → ¬ G s')
    (hall : ∀ s d ids b, C.insert s ids d ≠ some (.error b))
    {p p' : Pool σ (Call ρ δ α β)} {es : List (Pool.Event (StepIn ι) Empty)}
    (hi : init p.shared ∧ ∀ c ∈ p.procs, c.pc = .start)
    (h : LTS.execAll (Pool.step C.spec) p es = some p') :
    G p'.shared ↔ LTS.AllOk (Pool.step C.spec) C.LookupHolds p es := by
  constructor
  · intro hG
    have hp : (C.calls init).Reachable p := LTS.Reach.of_init hi
    refine LTS.allOk_of_execAll (Q := fun p => ¬ G p.shared) (fun p ev p' _ ho hst => ?_)
      (fun p ev p' hn hst => ?_) hp h (not_not.mpr hG)
    · cases ev with
      | env e => exact e.elim
      | proc i e =>
        simp only [LookupHolds, not_forall, Bool.not_eq_false] at ho
        obtain ⟨q, d, hq, hf, ht⟩ := ho
        obtain ⟨a, hins'⟩ := insert_of_step hall hq hf hst
        exact htaken _ d _ a _ ht hins'
    · rcases shared_of_step hst with hs | ⟨d, ids, a, hi⟩
      · rw [hs]
        exact hn
      · exact hkeep _ d ids a _ hn hi
  · intro hok
    exact invariant_of_lookups h0 hins (LTS.reach_of_execAll es hi hok h)

/-! ## Between the look-up and the insert -/

/-- The step inserts data that clash with `d`. -/
def Stores (_ : CheckInsert σ ρ δ ι α β) (clash : δ → δ → Prop) (d : δ)
    (p : Pool σ (Call ρ δ α β)) : Pool.Event (StepIn ι) Empty → Prop
  | .env _ => False
  | .proc j e => ∃ q d', p.procs[j]? = some ⟨q, .inserting d'⟩ ∧ e.fault = false ∧ clash d' d

/-- Along the events from `p`, call `i` looks `d` up by the step to `looked`, and comes to
insert it after the steps `between`. -/
inductive Window (C : CheckInsert σ ρ δ ι α β) (p : Pool σ (Call ρ δ α β)) (i : Nat) (d : δ)
    (looked : Pool σ (Call ρ δ α β)) (between : List (Pool.Event (StepIn ι) Empty)) :
    List (Pool.Event (StepIn ι) Empty) → Prop
  | mk {before after : List (Pool.Event (StepIn ι) Empty)} {e₀ e : StepIn ι} {q : ρ}
      {looking inserting : Pool σ (Call ρ δ α β)}
      (hl : LTS.execAll (Pool.step C.spec) p before = some looking)
      (hp : Pool.step C.spec looking (.proc i e₀) = some looked)
      (hd : looked.procs[i]? = some ⟨q, .inserting d⟩)
      (hb : LTS.execAll (Pool.step C.spec) looked between = some inserting)
      (hi : inserting.procs[i]? = some ⟨q, .inserting d⟩) (hf : e.fault = false) :
      Window C p i d looked between (before ++ .proc i e₀ :: (between ++ .proc i e :: after))

/-- Between the look-up and the insert of a call, no call stores what clashes. -/
def Undisturbed (C : CheckInsert σ ρ δ ι α β) (clash : δ → δ → Prop) (p : Pool σ (Call ρ δ α β))
    (es : List (Pool.Event (StepIn ι) Empty)) : Prop :=
  ∀ i d looked between, C.Window p i d looked between es →
    LTS.AllOk (Pool.step C.spec) (fun t ev => ¬ C.Stores clash d t ev) looked between

section
variable {p p' looked : Pool σ (Call ρ δ α β)} {q q' : ρ} {d d' : δ} {clash : δ → δ → Prop}
  {es between : List (Pool.Event (StepIn ι) Empty)} {ev : Pool.Event (StepIn ι) Empty}

/-- What a call is to insert after a step of its own was not taken. -/
theorem not_taken_of_lookup (h : Pool.step C.spec p (.proc i e) = some p')
    (hd : p'.procs[i]? = some ⟨q, .inserting d⟩) : C.taken p'.shared d = false := by
  obtain ⟨c, s', c', hc, ha, rfl⟩ := Pool.step_proc h
  obtain rfl : c' = ⟨q, .inserting d⟩ :=
    Option.some.inj ((Pool.getElem?_set_self_of hc).symm.trans hd)
  obtain ⟨hq, hm⟩ := act_moves ha
  cases hm with
  | throw b hpc hs => cases hpc
  | insert d₀ a hpc hpc' hf hi => cases hpc'
  | pass d₀ hpc hcheck ht hs =>
    cases hpc
    rw [hs]
    exact ht

/-- Whoever is to insert has looked up before. -/
theorem window_of_inserting (h0 : ∀ c ∈ p.procs, c.pc = .start) :
    ∀ {es : List (Pool.Event (StepIn ι) Empty)} {p' : Pool σ (Call ρ δ α β)},
      LTS.execAll (Pool.step C.spec) p es = some p' → p'.procs[i]? = some ⟨q, .inserting d⟩ →
      ∃ before e₀ between looking looked, es = before ++ .proc i e₀ :: between ∧
        LTS.execAll (Pool.step C.spec) p before = some looking ∧
        Pool.step C.spec looking (.proc i e₀) = some looked ∧
        looked.procs[i]? = some ⟨q, .inserting d⟩ ∧
        LTS.execAll (Pool.step C.spec) looked between = some p' := by
  intro es
  induction es using List.reverseRecOn with
  | nil =>
    intro p' h hd
    obtain rfl := Option.some.inj h
    cases h0 _ (List.mem_of_getElem? hd)
  | append_singleton es ev ih =>
    intro p' h hd
    rw [LTS.execAll_append, Option.bind_eq_some_iff] at h
    obtain ⟨m, hm, hst⟩ := h
    rw [LTS.execAll, Option.bind_eq_some_iff] at hst
    obtain ⟨p₁, hst, h₁⟩ := hst
    obtain rfl := Option.some.inj h₁
    cases ev with
    | env e => exact e.elim
    | proc j e =>
      by_cases hij : i = j
      -- its own step is the look-up
      · subst hij
        exact ⟨es, e, [], m, p₁, rfl, hm, hst, hd, rfl⟩
      · have hd' : m.procs[i]? = some ⟨q, .inserting d⟩ := by
          obtain ⟨c, s', c', -, -, rfl⟩ := Pool.step_proc hst
          rw [← hd]
          show _ = (m.procs.set j c')[i]?
          rw [List.getElem?_set_ne (Ne.symm hij)]
        obtain ⟨before, e₀, between, looking, looked, rfl, hl, hp, hi, hb⟩ := ih hm hd'
        refine ⟨before, e₀, between ++ [.proc j e], looking, looked, by simp, hl, hp, hi, ?_⟩
        rw [LTS.execAll_append, hb, Option.bind_some, LTS.execAll, hst]
        rfl

section
variable (hclash : ∀ s ids d' a s', C.insert s ids d' = some (.ok (a, s')) →
    ∀ d, C.taken s' d = true ↔ C.taken s d = true ∨ clash d' d)
  (hall : ∀ s d ids b, C.insert s ids d ≠ some (.error b))
include hclash

/-- What is taken stays so, and what a step stores is taken. -/
theorem taken_step (h : Pool.step C.spec p ev = some p') :
    (C.taken p.shared d = true → C.taken p'.shared d = true) ∧
      (C.taken p'.shared d = true → C.taken p.shared d = true ∨ C.Stores clash d p ev) := by
  cases ev with
  | env e => exact e.elim
  | proc i e =>
    obtain ⟨c, s', c', hc, ha, rfl⟩ := Pool.step_proc h
    cases (act_moves ha).2 with
    | throw b hpc hs => rw [hs]; exact ⟨id, .inl⟩
    | pass d₀ hpc hcheck ht hs => rw [hs]; exact ⟨id, .inl⟩
    | insert d₀ a hpc hpc' hf hi =>
      rw [hclash _ _ _ _ _ hi d]
      refine ⟨.inl, fun ht => ht.imp_right fun hcl => ?_⟩
      exact ⟨c.request, d₀, by rw [hc, Call.eta rfl hpc], hf, hcl⟩

include hall

theorem taken_of_stores (hs : C.Stores clash d p ev) (h : Pool.step C.spec p ev = some p') :
    C.taken p'.shared d = true := by
  cases ev with
  | env e => exact e.elim
  | proc i e =>
    obtain ⟨q, d₀, hq, hf, hcl⟩ := hs
    obtain ⟨a, hins⟩ := insert_of_step hall hq hf h
    exact (hclash _ _ _ _ _ hins d).mpr (.inr hcl)

/-- **Taken since the look-up** is what another call has stored since. -/
theorem taken_iff_stored (ht : C.taken p.shared d = false)
    (h : LTS.execAll (Pool.step C.spec) p es = some p') : C.taken p'.shared d = false ↔
      LTS.AllOk (Pool.step C.spec) (fun t ev => ¬ C.Stores clash d t ev) p es := by
  constructor
  · intro hfree
    have hp : (LTS.ofFn (fun _ => True) (Pool.step C.spec)).Reachable p := .of_init trivial
    refine LTS.allOk_of_execAll (Q := fun t => C.taken t.shared d = true)
      (fun t ev t' _ hs hst => taken_of_stores hclash hall (not_not.mp hs) hst)
      (fun t ev t' hq hst => (taken_step hclash hst).1 hq) hp h (by simp [hfree])
  · intro hok
    have hr : (LTS.ofFn (fun _ => True) (Pool.step C.spec)).Run _ p p' := LTS.run_of_execAll hok h
    refine hr.keep (P := fun t => C.taken t.shared d = false) (fun t ev t' hf hns hst => ?_) ht
    rw [Bool.eq_false_iff]
    exact fun ht' => ((taken_step hclash hst).2 ht').elim (by simp [hf]) hns

/-- **The look-ups hold** in exactly the runs in which no call is disturbed. -/
theorem lookups_iff_undisturbed (h0 : ∀ c ∈ p.procs, c.pc = .start) :
    LTS.AllOk (Pool.step C.spec) C.LookupHolds p es ↔ C.Undisturbed clash p es := by
  constructor
  · intro hok i d looked between hw
    cases hw with
    | @mk before after e₀ e q looking inserting hl hp hd hb hi hf =>
      have hrun : LTS.execAll (Pool.step C.spec) p (before ++ .proc i e₀ :: between) =
        some inserting := by
        rw [LTS.execAll_append, hl, Option.bind_some, LTS.execAll, hp, Option.bind_some, hb]
      refine (taken_iff_stored hclash hall (not_taken_of_lookup hp hd) hb).mp ?_
      exact LTS.allOk_iff.mp hok _ (.proc i e) after inserting (by simp) hrun q d hi hf
  · intro hu
    refine LTS.allOk_iff.mpr fun before ev after t heq ht => ?_
    cases ev with
    | env e => trivial
    | proc i e =>
      intro q d hq hf
      obtain ⟨before, e₀, between, looking, looked, rfl, hl, hp, hd, hb⟩ :=
        window_of_inserting h0 ht hq
      refine (taken_iff_stored hclash hall (not_taken_of_lookup hp hd) hb).mpr
        (hu i d looked between ?_)
      rw [heq, List.append_assoc, List.cons_append]
      exact .mk hl hp hd hb hq hf

end

end

/-! ## Where the contents come from -/

/-- A call has returned `a`. -/
def Returned (p : Pool σ (Call ρ δ α β)) (a : α) : Prop :=
  ∃ (i : Nat) (q : ρ), p.procs[i]? = some ⟨q, .done (.ok a)⟩

theorem Returned.set {p : Pool σ (Call ρ δ α β)} {a : α} (h : Returned p a)
    (hc : p.procs[i]? = some c) (ha : C.spec.act p.shared i c e = some (s', c')) :
    Returned ⟨s', p.procs.set i c'⟩ a := by
  obtain ⟨j, q, hj⟩ := h
  exact ⟨j, q, done_set hj hc ha⟩

/-- **Origin rule.** What is in the state is what the calls that returned have
put there, if an insert adds no more than what it returns. -/
theorem origin {κ : Type t} (contents : σ → κ → Prop) (yields : α → κ → Prop) {init : σ → Prop}
    (h0 : ∀ s, init s → ∀ k, ¬ contents s k)
    (hins : ∀ s d ids a s', C.insert s ids d = some (.ok (a, s')) →
      ∀ k, contents s' k → contents s k ∨ yields a k)
    {p : Pool σ (Call ρ δ α β)} (h : (C.calls init).Reachable p) :
    ∀ k, contents p.shared k → ∃ a, Returned p a ∧ yields a k := by
  refine h.invariant (I := fun p => ∀ k, contents p.shared k → ∃ a, Returned p a ∧ yields a k)
    (fun p (hi : init p.shared ∧ ∀ c ∈ p.procs, c.pc = .start) k hk => absurd hk (h0 _ hi.1 k))
    fun p ev p' _ hI _ hst => ?_
  cases ev with
  | env e => exact e.elim
  | proc i e =>
    obtain ⟨c, s', c', hc, ha, rfl⟩ := Pool.step_proc hst
    intro k hk
    have hold : contents p.shared k → ∃ a, Returned ⟨s', p.procs.set i c'⟩ a ∧ yields a k := by
      intro hk
      obtain ⟨a, hr, hy⟩ := hI k hk
      exact ⟨a, hr.set hc ha, hy⟩
    cases (act_moves ha).2 with
    | throw b hpc hs => rw [hs] at hk; exact hold hk
    | pass d hpc hc ht hs => rw [hs] at hk; exact hold hk
    | insert d a hpc hpc' hf hi =>
      rcases hins _ d e.ids a _ hi k hk with hk | hy
      · exact hold hk
      · refine ⟨a, ⟨i, c'.request, ?_⟩, hy⟩
        show (p.procs.set i c')[i]? = _
        rw [Pool.getElem?_set_self_of hc, Call.eta rfl hpc']

/-- A call has passed its checks, and its result is as `R` says. -/
def Call.Yields (C : CheckInsert σ ρ δ ι α β) (R : σ → ρ → α → Prop) (s : σ)
    (c : Call ρ δ α β) : Prop :=
  c.Checked C ∧ ∀ a, c.pc = .done (.ok a) → R s c.request a

section
variable {R : σ → ρ → α → Prop}
  (hown : ∀ s q d ids a s', C.check q = .ok d → C.insert s ids d = some (.ok (a, s')) → R s' q a)
  (hkeep : ∀ s q a d ids a' s', R s q a → C.insert s ids d = some (.ok (a', s')) → R s' q a)
include hown hkeep

theorem resultOutline :
    Pool.Outline C.spec LTS.always (fun _ => True) fun s _ c => c.Yields C R s where
  env _ e := e.elim
  own p i c e s' c' hp _ hc ha := by
    refine ⟨trivial, .act ha, fun a hd => ?_⟩
    obtain ⟨hq, hm⟩ := act_moves ha
    cases hm with
    | throw b hpc hs => rw [hpc] at hd; cases hd
    | pass d hpc hc ht hs => rw [hpc] at hd; cases hd
    | insert d a' hpc hpc' hf hi =>
      rw [hpc'] at hd
      cases hd
      rw [hq]
      exact hown _ _ d e.ids a s' ((hp.2 i c hc).1 d hpc) hi
  other p i c e s' c' j q hp _ hc ha _ hq := by
    refine ⟨(hp.2 j q hq).1, fun a hd => ?_⟩
    have hr := (hp.2 j q hq).2 a hd
    cases (act_moves ha).2 with
    | throw b hpc hs => rw [hs]; exact hr
    | pass d hpc hc ht hs => rw [hs]; exact hr
    | insert d a' hpc hpc' hf hi => exact hkeep _ _ a d e.ids a' s' hr hi

/-- **Result rule.** What holds of a request and its result when the call inserts,
and is kept by the other inserts, holds of every call that has returned. -/
theorem returned {init : σ → Prop} {p : Pool σ (Call ρ δ α β)} (h : (C.calls init).Reachable p)
    {q : ρ} {a : α} (hc : p.procs[i]? = some ⟨q, .done (.ok a)⟩) : R p.shared q a := by
  have hinit : ∀ p : Pool σ (Call ρ δ α β), (init p.shared ∧ ∀ c ∈ p.procs, c.pc = .start) →
      Pool.Holds (fun _ => True) (fun s _ c => c.Yields C R s) p := by
    refine fun p hp => ⟨trivial, fun j c hc => ?_⟩
    have hpc := hp.2 c (List.mem_of_getElem? hc)
    refine ⟨fun d hd => ?_, fun a hd => ?_⟩
    · rw [hpc] at hd; cases hd
    · rw [hpc] at hd; cases hd
  exact ((Pool.invariant (resultOutline hown hkeep) hinit h).2 i _ hc).2 a rfl

end

end CheckInsert
