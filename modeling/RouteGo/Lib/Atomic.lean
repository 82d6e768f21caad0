import Mathlib.Data.List.Nodup
import RouteGo.Lib.CheckInsert

/-!
# Calls that take effect at one moment

An `Object` answers a call in one step. Interleaved calls are as good as calls of
the object one after another when each of their steps is the one moment of its
call or leaves the object alone (`Moments`): in every reached state the calls that
have had their moment, in the order of these, return from the object what they
have returned and lead it where it is (`Linear`), and later steps only add to that
order (`Pool.linear_of_run`), so that a call that has returned comes before every call
that begins later.

A service that checks, looks up and inserts is such a system when its insert
refuses what its look-up finds (`CheckInsert.serial_of_run`): the race between the
two is seen in no result but an error of the insert.
-/

universe u v w x y z t

/-- `none` for an input that the object is never given. -/
abbrev Object (τ : Type u) (ω : Type v) (ρ : Type w) := τ → ω → Option (ρ × τ)

namespace Object

variable {τ : Type u} {ω : Type v} {ρ : Type w} {O : Object τ ω ρ}

/-- The operations one after another. -/
def runAll (O : Object τ ω ρ) : τ → List ω → Option (List ρ × τ)
  | t, [] => some ([], t)
  | t, o :: os => (O t o).bind fun r => (runAll O r.2 os).map fun rest => (r.1 :: rest.1, rest.2)

theorem runAll_snoc {t t' t'' : τ} {os : List ω} {rs : List ρ} {o : ω} {r : ρ}
    (h : O.runAll t os = some (rs, t')) (ho : O t' o = some (r, t'')) :
    O.runAll t (os ++ [o]) = some (rs ++ [r], t'') := by
  induction os generalizing t rs with
  | nil =>
    cases h
    simp only [List.nil_append, runAll, ho, Option.bind_some, Option.map_some]
  | cons o₁ os ih =>
    simp only [runAll, Option.bind_eq_some_iff, Option.map_eq_some_iff] at h
    obtain ⟨⟨r₁, t₁⟩, h1, ⟨rest, t₂⟩, h2, heq⟩ := h
    cases heq
    simp only [List.cons_append, runAll, h1, Option.bind_some, ih h2, Option.map_some]

/-- The last operation of a sequence. -/
theorem runAll_snoc_inv {t t'' : τ} {os : List ω} {rs : List ρ} {o : ω}
    (h : O.runAll t (os ++ [o]) = some (rs, t'')) :
    ∃ rs' r t', rs = rs' ++ [r] ∧ O.runAll t os = some (rs', t') ∧ O t' o = some (r, t'') := by
  induction os generalizing t rs with
  | nil =>
    simp only [List.nil_append, runAll, Option.map_some, Option.bind_eq_some_iff] at h
    obtain ⟨⟨r, t₁⟩, h1, heq⟩ := h
    cases heq
    exact ⟨[], r, t, rfl, rfl, h1⟩
  | cons o₁ os ih =>
    simp only [List.cons_append, runAll, Option.bind_eq_some_iff, Option.map_eq_some_iff] at h
    obtain ⟨⟨r₁, t₁⟩, h1, ⟨rest, t₂⟩, h2, heq⟩ := h
    cases heq
    obtain ⟨rs', r, t', rfl, hrun, hO⟩ := ih h2
    refine ⟨r₁ :: rs', r, t', rfl, ?_, hO⟩
    simp only [runAll, h1, Option.bind_some, hrun, Option.map_some]

end Object

namespace Pool

variable {σ : Type u} {π : Type v} {ε : Type w} {η : Type x} {τ : Type y} {ω : Type z} {ρ : Type t}

/-- A call that has had its moment, with what it asked for and what it was answered. -/
structure Entry (ω : Type z) (ρ : Type t) where
  call : Nat
  op : ω
  res : ρ
  deriving DecidableEq

/-- How the processes are calls of an object. -/
structure View (σ : Type u) (π : Type v) (τ : Type y) (ω : Type z) (ρ : Type t) where
  abs : σ → τ
  /-- The call has had its moment, as this operation with this result. -/
  Did : π → ω → ρ → Prop
  /-- The call has a result that the object is to answer for. -/
  Owes : π → Prop

/-- The calls of `ws`, one after another, explain the state. -/
structure Linear (V : View σ π τ ω ρ) (O : Object τ ω ρ) (start : τ) (s : Pool σ π)
    (ws : List (Entry ω ρ)) : Prop where
  run : O.runAll start (ws.map Entry.op) = some (ws.map Entry.res, V.abs s.shared)
  once : (ws.map Entry.call).Nodup
  did : ∀ w ∈ ws, ∃ q, s.procs[w.call]? = some q ∧ V.Did q w.op w.res
  all : ∀ (i : Nat) q, s.procs[i]? = some q → V.Owes q → ∃ w ∈ ws, w.call = i

/-- What is to be shown of the steps that `ok` admits in the states that `K` is known
of. -/
structure Moments (S : Spec σ π ε η) (ok : Pool σ π → Event ε η → Prop) (V : View σ π τ ω ρ)
    (O : Object τ ω ρ) (K : Pool σ π → Prop) : Prop where
  env : ∀ (s : Pool σ π) e sh, K s → S.env s.shared e = some sh → V.abs sh = V.abs s.shared
  act : ∀ (s : Pool σ π) i p e sh p', K s → ok s (.proc i e) → s.procs[i]? = some p →
    S.act s.shared i p e = some (sh, p') →
    (V.abs sh = V.abs s.shared ∧ (∀ o r, V.Did p o r → V.Did p' o r) ∧ (V.Owes p' → V.Owes p)) ∨
    ∃ o r, O (V.abs s.shared) o = some (r, V.abs sh) ∧ (∀ o r, ¬ V.Did p o r) ∧ V.Did p' o r

section
variable {S : Spec σ π ε η} {ok : Pool σ π → Event ε η → Prop} {V : View σ π τ ω ρ}
  {O : Object τ ω ρ} {K : Pool σ π → Prop} {start : τ} {s s' : Pool σ π} {ws : List (Entry ω ρ)}

theorem Linear.step {e : Event ε η} (M : Moments S ok V O K) (hl : Linear V O start s ws) (hK : K s)
    (ho : ok s e) (h : Pool.step S s e = some s') : ∃ more, Linear V O start s' (ws ++ more) := by
  cases e with
  | env e =>
    obtain ⟨sh, he, rfl⟩ := step_env h
    refine ⟨[], ?_⟩
    rw [List.append_nil]
    exact ⟨by rw [hl.run, M.env s e sh hK he], hl.once, hl.did, hl.all⟩
  | proc i e =>
    obtain ⟨p, sh, p', hp, ha, rfl⟩ := step_proc h
    have hself : (s.procs.set i p')[i]? = some p' := getElem?_set_self_of hp
    have hother : ∀ j, j ≠ i → (s.procs.set i p')[j]? = s.procs[j]? :=
      fun j hj => List.getElem?_set_ne (Ne.symm hj)
    rcases M.act s i p e sh p' hK ho hp ha with ⟨habs, hdid, howes⟩ | ⟨o, r, hO, hnot, hdid⟩
    · refine ⟨[], ?_⟩
      rw [List.append_nil]
      refine ⟨by rw [hl.run, habs], hl.once, fun w hw => ?_, fun j q hq hq' => ?_⟩
      · obtain ⟨q, hq, hd⟩ := hl.did w hw
        by_cases hwi : w.call = i
        · rw [hwi] at hq ⊢
          obtain rfl := Option.some.inj (hp.symm.trans hq)
          exact ⟨p', hself, hdid _ _ hd⟩
        · exact ⟨q, (hother _ hwi).trans hq, hd⟩
      · rcases getElem?_set_cases hq with ⟨rfl, rfl⟩ | ⟨-, hq⟩
        · exact hl.all j p hp (howes hq')
        · exact hl.all j q hq hq'
    · -- the call has its moment, and had none before
      have hnew : ∀ w ∈ ws, w.call ≠ i := by
        intro w hw hwi
        obtain ⟨q, hq, hd⟩ := hl.did w hw
        rw [hwi] at hq
        obtain rfl := Option.some.inj (hp.symm.trans hq)
        exact hnot _ _ hd
      refine ⟨[⟨i, o, r⟩], ?_, ?_, fun w hw => ?_, fun j q hq hq' => ?_⟩
      · rw [List.map_append, List.map_append]
        exact Object.runAll_snoc hl.run hO
      · rw [List.map_append]
        refine List.nodup_append.mpr ⟨hl.once, List.nodup_singleton _, fun a ha b hb hab => ?_⟩
        obtain ⟨w, hw, rfl⟩ := List.mem_map.mp ha
        exact hnew w hw (hab.trans (List.mem_singleton.mp hb))
      · rcases List.mem_append.mp hw with hw | hw
        · obtain ⟨q, hq, hd⟩ := hl.did w hw
          exact ⟨q, (hother _ (hnew w hw)).trans hq, hd⟩
        · obtain rfl := List.mem_singleton.mp hw
          exact ⟨p', hself, hdid⟩
      · rcases getElem?_set_cases hq with ⟨rfl, rfl⟩ | ⟨-, hq⟩
        · exact ⟨_, List.mem_append_right _ (List.mem_singleton_self _), rfl⟩
        · obtain ⟨w, hw, hwj⟩ := hl.all j q hq hq'
          exact ⟨w, List.mem_append_left _ hw, hwj⟩

/-- What explains a state is the beginning of what explains a later one. -/
theorem Linear.run_extend {init : Pool σ π → Prop} (M : Moments S ok V O K)
    (hK : ∀ s, (system S init).Reach ok s → K s) (hs : (system S init).Reach ok s)
    (hl : Linear V O start s ws)
    (h : (system S init).Run ok s s') : ∃ more, Linear V O start s' (ws ++ more) := by
  refine LTS.Run.stable (P := fun s' => ∃ more, Linear V O start s' (ws ++ more)) hs
    (fun s e s' hr ⟨more, hl⟩ ho hst => ?_) h ⟨[], by rwa [List.append_nil]⟩
  obtain ⟨more', hl'⟩ := hl.step M (hK s hr) ho hst
  exact ⟨more ++ more', by rwa [← List.append_assoc]⟩

/-- **Linearization.** In every run the calls that have had their moment explain the
state, and what explains it earlier is a beginning of what explains it later. -/
theorem linear_of_run {init : Pool σ π → Prop} {s₀ : Pool σ π} (M : Moments S ok V O K)
    (hK : ∀ s, (system S init).Reach ok s → K s) (hi : init s₀)
    (h0 : ∀ (i : Nat) q, s₀.procs[i]? = some q → ¬ V.Owes q)
    (h : (system S init).Run ok s₀ s) (h' : (system S init).Run ok s s') :
    ∃ ws more, Linear V O (V.abs s₀.shared) s ws ∧
      Linear V O (V.abs s₀.shared) s' (ws ++ more) := by
  have hstart : Linear V O (V.abs s₀.shared) s₀ [] :=
    ⟨rfl, List.nodup_nil, fun w hw => absurd hw List.not_mem_nil, fun i q hq ho =>
      absurd ho (h0 i q hq)⟩
  have hr : (system S init).Reach ok s₀ := LTS.Reach.of_init hi
  obtain ⟨ws, hws⟩ := hstart.run_extend M hK hr h
  rw [List.nil_append] at hws
  obtain ⟨more, hmore⟩ := hws.run_extend M hK (hr.run h) h'
  exact ⟨ws, more, hws, hmore⟩

end

end Pool

/-! ## Check, look up, insert -/

namespace CheckInsert

variable {σ : Type u} {ρ : Type v} {δ : Type w} {ι : Type x} {α : Type y} {β : Type z}

/-- The service in one step; the insert may still refuse what the look-up does not find. -/
def once (C : CheckInsert σ ρ δ ι α β) : Object σ (ρ × ι) (Except β α) := fun s x =>
  match C.check x.1 with
  | .error b => some (.error b, s)
  | .ok d =>
    if C.taken s d then some (.error (C.conflict d), s)
    else match C.insert s x.2 d with
      | none => none
      | some (.error b) => some (.error b, s)
      | some (.ok (a, s')) => some (.ok a, s')

/-- Any result but an error of the database, which changed nothing: the calls that it
refused are left out of the order. -/
def Answer (C : CheckInsert σ ρ δ ι α β) : Except β α → Prop
  | .ok _ => True
  | .error b => b ≠ C.fault ∧ ∀ s ids d, C.insert s ids d ≠ some (.error b)

/-- A call has its moment when it returns. -/
def view (C : CheckInsert σ ρ δ ι α β) : Pool.View σ (Call ρ δ α β) σ (ρ × ι) (Except β α) where
  abs s := s
  Did c o r := c = ⟨o.1, .done r⟩
  Owes c := ∃ r, c.pc = .done r ∧ C.Answer r

/-- The calls that were answered, one after another. -/
abbrev Serial (C : CheckInsert σ ρ δ ι α β) (start : σ) (p : Pool σ (Call ρ δ α β))
    (ws : List (Pool.Entry (ρ × ι) (Except β α))) : Prop :=
  Pool.Linear C.view C.once start p ws

variable {C : CheckInsert σ ρ δ ι α β}

/-- An insert that goes through finds nothing in its way. -/
def Backed (C : CheckInsert σ ρ δ ι α β) : Prop :=
  ∀ s ids d a s', C.insert s ids d = some (.ok (a, s')) → C.taken s d = false

theorem checked_of_reachable {init : σ → Prop} {p : Pool σ (Call ρ δ α β)}
    (h : (C.calls init).Reachable p) (c : Call ρ δ α β) (hc : c ∈ p.procs) : c.Checked C := by
  obtain ⟨i, hi⟩ := List.mem_iff_getElem?.mp hc
  exact (Pool.invariant (outline fun _ _ _ _ _ _ _ _ _ _ _ _ _ => trivial)
    (holds_init (G := fun _ => True) fun _ _ => trivial) h).2 i c hi

theorem moments (hC : C.Backed) :
    Pool.Moments C.spec LTS.always C.view C.once fun p => ∀ c ∈ p.procs, c.Checked C where
  env _ e := e.elim
  act p i c e s' c' hp _ hc ha := by
    obtain ⟨q, pc⟩ := c
    have hchecked : (⟨q, pc⟩ : Call ρ δ α β).Checked C := hp _ (List.mem_of_getElem? hc)
    have hdone : ∀ o r, ¬ C.view.Did (⟨q, pc⟩ : Call ρ δ α β) o r := by
      intro (o : ρ × ι) r hd
      have hpc : pc = .done r := congrArg Call.pc hd
      exact not_done_of_act ha hpc
    simp only [spec, Option.map_eq_some_iff, Prod.mk.injEq] at ha
    obtain ⟨⟨s₁, pc'⟩, hs, rfl, rfl⟩ := ha
    cases pc with
    | start =>
      simp only [step] at hs
      split at hs
      · next b hb =>
        cases hs
        exact .inr ⟨(q, e.ids), .error b, by simp only [view, once, hb], hdone, rfl⟩
      · next d hd =>
        split at hs
        · cases hs
          refine .inl ⟨rfl, fun o r h => absurd h (hdone o r), ?_⟩
          rintro ⟨r, hr, ha⟩
          cases hr
          exact absurd rfl ha.1
        · split at hs
          · next ht =>
            cases hs
            exact .inr ⟨(q, e.ids),
              .error (C.conflict d), by simp only [view, once, hd, ht, if_true], hdone, rfl⟩
          · cases hs
            refine .inl ⟨rfl, fun o r h => absurd h (hdone o r), ?_⟩
            rintro ⟨r, hr, -⟩
            cases hr
    | inserting d =>
      have hd : C.check q = .ok d := hchecked d rfl
      simp only [step] at hs
      split at hs
      · cases hs
        refine .inl ⟨rfl, fun o r h => absurd h (hdone o r), ?_⟩
        rintro ⟨r, hr, ha⟩
        cases hr
        exact absurd rfl ha.1
      · split at hs
        · cases hs
        · next b hb =>
          cases hs
          refine .inl ⟨rfl, fun o r h => absurd h (hdone o r), ?_⟩
          rintro ⟨r, hr, ha⟩
          cases hr
          exact absurd hb (ha.2 _ _ _)
        · next a s₂ hi =>
          cases hs
          refine .inr ⟨(q, e.ids), .ok a, ?_, hdone, rfl⟩
          simp only [view, once, hd, hC _ _ _ _ _ hi, hi, Bool.false_eq_true, if_false]
    | done res => cases hs

/-- **Look-up and insert as one step.** Where the insert refuses what the look-up
finds, the calls that were answered can be run one after another. -/
theorem serial_of_run (hC : C.Backed) {init : σ → Prop} {p₀ p p' : Pool σ (Call ρ δ α β)}
    (hi : init p₀.shared ∧ ∀ c ∈ p₀.procs, c.pc = .start)
    (h : (C.calls init).Run LTS.always p₀ p) (h' : (C.calls init).Run LTS.always p p') :
    ∃ ws more, C.Serial p₀.shared p ws ∧ C.Serial p₀.shared p' (ws ++ more) := by
  refine Pool.linear_of_run (V := C.view) (moments hC) (fun p hr => checked_of_reachable hr) hi
    (fun i q hq ho => ?_) h h'
  obtain ⟨r, hr, -⟩ := ho
  rw [hi.2 q (List.mem_of_getElem? hq)] at hr
  cases hr

/-! ## Two services over one state -/

section
variable {ρ' : Type v} {δ' : Type w} {ι' : Type x} {α' : Type y}

/-- What an insert has done, for one side of a sum. -/
def putInto {γ : Type t} (f : α → γ) (r : Option (Except β (α × σ))) : Option (Except β (γ × σ)) :=
  r.map fun x => x.map fun y => (f y.1, y.2)

/-- Calls of either service, which have one fault. -/
def sum (C : CheckInsert σ ρ δ ι α β) (D : CheckInsert σ ρ' δ' ι' α' β) :
    CheckInsert σ (ρ ⊕ ρ') (δ ⊕ δ') (ι ⊕ ι') (α ⊕ α') β where
  check
    | .inl q => (C.check q).map .inl
    | .inr q => (D.check q).map .inr
  taken s
    | .inl d => C.taken s d
    | .inr d => D.taken s d
  conflict
    | .inl d => C.conflict d
    | .inr d => D.conflict d
  insert s
    | .inl ids, .inl d => putInto .inl (C.insert s ids d)
    | .inr ids, .inr d => putInto .inr (D.insert s ids d)
    | _, _ => none
  fault := C.fault

variable {D : CheckInsert σ ρ' δ' ι' α' β}

theorem putInto_ok {γ : Type t} {f : α → γ} {r : Option (Except β (α × σ))} {c : γ} {s : σ}
    (h : putInto f r = some (.ok (c, s))) : ∃ a, c = f a ∧ r = some (.ok (a, s)) := by
  cases r with
  | none => cases h
  | some r =>
    cases r with
    | error b => cases h
    | ok y => cases h; exact ⟨y.1, rfl, rfl⟩

/-- An insert of the sum is one of either service. -/
theorem insert_sum {s s' : σ} {ids : ι ⊕ ι'} {d : δ ⊕ δ'} {a : α ⊕ α'}
    (h : (C.sum D).insert s ids d = some (.ok (a, s'))) :
    (∃ ids' d' a', ids = .inl ids' ∧ d = .inl d' ∧ a = .inl a' ∧
      C.insert s ids' d' = some (.ok (a', s'))) ∨
    ∃ ids' d' a', ids = .inr ids' ∧ d = .inr d' ∧ a = .inr a' ∧
      D.insert s ids' d' = some (.ok (a', s')) := by
  cases ids with
  | inl ids =>
    cases d with
    | inl d =>
      obtain ⟨a', rfl, hi⟩ := putInto_ok h
      exact .inl ⟨ids, d, a', rfl, rfl, rfl, hi⟩
    | inr d => cases h
  | inr ids =>
    cases d with
    | inl d => cases h
    | inr d =>
      obtain ⟨a', rfl, hi⟩ := putInto_ok h
      exact .inr ⟨ids, d, a', rfl, rfl, rfl, hi⟩

theorem check_sum_inl {q : ρ} {d : δ} : (C.sum D).check (.inl q) = .ok (.inl d) ↔
    C.check q = .ok d := by
  show (C.check q).map Sum.inl = _ ↔ _
  cases C.check q <;> simp [Except.map]

theorem check_sum_inr {q : ρ'} {d : δ'} : (C.sum D).check (.inr q) = .ok (.inr d) ↔
    D.check q = .ok d := by
  show (D.check q).map Sum.inr = _ ↔ _
  cases D.check q <;> simp [Except.map]

theorem not_check_sum_inl {q : ρ} {d : δ'} : (C.sum D).check (.inl q) ≠ .ok (.inr d) := by
  show (C.check q).map Sum.inl ≠ _
  cases C.check q <;> simp [Except.map]

theorem not_check_sum_inr {q : ρ'} {d : δ} : (C.sum D).check (.inr q) ≠ .ok (.inl d) := by
  show (D.check q).map Sum.inr ≠ _
  cases D.check q <;> simp [Except.map]

theorem Backed.sum (hC : C.Backed) (hD : D.Backed) : (C.sum D).Backed := by
  intro s ids d a s' h
  rcases insert_sum h with ⟨ids, d, a, -, rfl, -, hi⟩ | ⟨ids, d, a, -, rfl, -, hi⟩
  · exact hC s ids d a s' hi
  · exact hD s ids d a s' hi

end

end CheckInsert
