import RouteGo.Lib.Pool

/-!
# Processes that come to be in a run

In the pool of `Spec.births` a place may be empty until a process comes to be in it, at
a step of its own. What the run makes of the places is known at its end: every run is
one of the pool in which each process that comes to be has waited from the start
(`run_of_births`), so what holds in every run of that pool holds here.
-/

universe u v w x

namespace Pool

variable {σ : Type u} {π : Type v} {ε : Type w} {η : Type x}

/-- A process comes to be where there is none, and steps as `S` says from then on. -/
def Spec.births (S : Spec σ π ε η) : Spec σ (Option π) (ε ⊕ π) η where
  act sh i o e := match o, e with
    | none, .inr p => some (sh, some p)
    | some p, .inl e => (S.act sh i p e).map fun r => (r.1, some r.2)
    | _, _ => none
  env := S.env

/-- The pool with the process `F i` in an empty place `i`. -/
def filled (F : Nat → π) (s : Pool σ (Option π)) : Pool σ π :=
  ⟨s.shared, s.procs.mapIdx fun i o => o.getD (F i)⟩

/-- Processes that are `fresh` come to be, and `ok` admits the steps whatever the empty
places are filled with. -/
def Births (fresh : π → Prop) (ok : Pool σ π → Event ε η → Prop) (s : Pool σ (Option π)) :
    Event (ε ⊕ π) η → Prop
  | .env e => ∀ F, ok (s.filled F) (.env e)
  | .proc i (.inl e) => ∀ F, ok (s.filled F) (.proc i e)
  | .proc _ (.inr p) => fresh p

section
variable {S : Spec σ π ε η} {s s' t : Pool σ (Option π)} {F : Nat → π} {i : Nat} {p : π}
  {init : Pool σ (Option π) → Prop} {init' : Pool σ π → Prop} {fresh : π → Prop}
  {ok : Pool σ π → Event ε η → Prop}

theorem filled_getElem? : (s.filled F).procs[i]? = s.procs[i]?.map fun o => o.getD (F i) :=
  List.getElem?_mapIdx

theorem filled_of_some (h : s.procs[i]? = some (some p)) : (s.filled F).procs[i]? = some p := by
  rw [filled_getElem?, h]
  rfl

theorem filled_env {sh : σ} {e : η} (he : S.env s.shared e = some sh) :
    step S (s.filled F) (.env e) = some (filled F ⟨sh, s.procs⟩) := by
  have hsh : (s.filled F).shared = s.shared := rfl
  rw [step, hsh, he]
  rfl

/-- A step of a process that is there. -/
theorem filled_act {sh : σ} {p' : π} {e : ε} (hp : s.procs[i]? = some (some p))
    (ha : S.act s.shared i p e = some (sh, p')) :
    step S (s.filled F) (.proc i e) = some (filled F ⟨sh, s.procs.set i (some p')⟩) := by
  have hsh : (s.filled F).shared = s.shared := rfl
  rw [step, filled_of_some hp, Option.bind_some, hsh, ha, Option.map_some]
  refine congrArg some (congrArg (Pool.mk sh) (List.ext_getElem? fun j => ?_))
  show ((s.filled F).procs.set i p')[j]? = (filled F ⟨sh, s.procs.set i (some p')⟩).procs[j]?
  rw [filled_getElem?]
  by_cases hij : i = j
  · subst hij
    rw [getElem?_set_self_of (filled_of_some hp), getElem?_set_self_of hp]
    rfl
  · rw [List.getElem?_set_ne hij, List.getElem?_set_ne hij, filled_getElem?]

/-- The process that comes to be was the one that waited. -/
theorem filled_birth (hp : s.procs[i]? = some none) :
    filled F ⟨s.shared, s.procs.set i (some p)⟩ = s.filled (Function.update F i p) := by
  refine congrArg (Pool.mk s.shared) (List.ext_getElem? fun j => ?_)
  show (filled F ⟨s.shared, s.procs.set i (some p)⟩).procs[j]? =
    (s.filled (Function.update F i p)).procs[j]?
  rw [filled_getElem?, filled_getElem?]
  by_cases hij : i = j
  · subst hij
    rw [getElem?_set_self_of hp, hp]
    simp
  · rw [List.getElem?_set_ne hij, Function.update_of_ne (Ne.symm hij)]

/-- **Births are foreseen.** A run with births is a run without, from the pool in which
those that come to be wait; `F` are those that wait at its end. -/
theorem run_of_births (hF : ∀ i, fresh (F i))
    (h : (system S.births init).Run (Births fresh ok) s s') :
    ∃ F₀ : Nat → π, (∀ i, fresh (F₀ i)) ∧ (system S init').Run ok (s.filled F₀) (s'.filled F) := by
  -- from the end: a step back, what comes to be is what waits
  induction h using Relation.ReflTransGen.head_induction_on with
  | refl => exact ⟨F, hF, .refl _⟩
  | head hst _ ih =>
    obtain ⟨ev, ho, hst⟩ := hst
    obtain ⟨F₀, hF₀, hr⟩ := ih
    cases ev with
    | env e =>
      obtain ⟨sh, he, rfl⟩ := step_env hst
      exact ⟨F₀, hF₀, ((LTS.Run.refl _).snoc (ho F₀) (filled_env he)).trans hr⟩
    | proc i e =>
      obtain ⟨o, sh, o', hp, ha, rfl⟩ := step_proc hst
      cases e with
      | inl e =>
        cases o with
        | none => cases ha
        | some p =>
          simp only [Spec.births, Option.map_eq_some_iff, Prod.mk.injEq] at ha
          obtain ⟨⟨sh₁, p'⟩, ha, rfl, rfl⟩ := ha
          exact ⟨F₀, hF₀, ((LTS.Run.refl _).snoc (ho F₀) (filled_act hp ha)).trans hr⟩
      | inr p =>
        cases o with
        | some q => cases ha
        | none =>
          cases ha
          refine ⟨Function.update F₀ i p, fun j => ?_, ?_⟩
          · by_cases hij : j = i
            · subst hij
              rw [Function.update_self]
              exact ho
            · rw [Function.update_of_ne hij]
              exact hF₀ j
          · rw [← filled_birth hp]
            exact hr

end

end Pool
