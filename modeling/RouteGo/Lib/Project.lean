import RouteGo.Lib.Pool

/-!
# A system seen by one of its parts

`Pool.map` reads a part of the shared state and a part of every process. Where each
step of a pool is a step of another one in what is read, or changes nothing of it
(`Projects`), the runs of the one read as runs of the other (`Projects.run`), so what
holds in every run of the part holds in the whole.
-/

universe u v w x u' v' w' x'

namespace Pool

variable {σ : Type u} {π : Type v} {ε : Type w} {η : Type x}
  {σ' : Type u'} {π' : Type v'} {ε' : Type w'} {η' : Type x'}

def map (f : σ → σ') (g : π → π') (s : Pool σ π) : Pool σ' π' := ⟨f s.shared, s.procs.map g⟩

/-- The steps of `S` that `ok` admits are those of `T` that `ok'` admits in what `f` and
`g` read, or none. -/
structure Projects (S : Spec σ π ε η) (ok : Pool σ π → Event ε η → Prop) (T : Spec σ' π' ε' η')
    (ok' : Pool σ' π' → Event ε' η' → Prop) (f : σ → σ') (g : π → π') : Prop where
  env : ∀ (s : Pool σ π) e sh, ok s (.env e) → S.env s.shared e = some sh →
    f sh = f s.shared ∨ ∃ e', ok' (s.map f g) (.env e') ∧ T.env (f s.shared) e' = some (f sh)
  act : ∀ (s : Pool σ π) i p e sh p', ok s (.proc i e) → s.procs[i]? = some p →
    S.act s.shared i p e = some (sh, p') → (f sh = f s.shared ∧ g p' = g p) ∨
      ∃ e', ok' (s.map f g) (.proc i e') ∧ T.act (f s.shared) i (g p) e' = some (f sh, g p')

section
variable {S : Spec σ π ε η} {T : Spec σ' π' ε' η'} {f : σ → σ'} {g : π → π'} {s s' : Pool σ π}
  {init : Pool σ π → Prop} {init' : Pool σ' π' → Prop} {ok : Pool σ π → Event ε η → Prop}
  {ok' : Pool σ' π' → Event ε' η' → Prop}

theorem map_getElem? {i : Nat} : (s.map f g).procs[i]? = s.procs[i]?.map g := List.getElem?_map

/-- A step that changes nothing of what is read of its process. -/
theorem map_set_of_eq {procs : List π} {i : Nat} {p p' : π} (hp : procs[i]? = some p)
    (hg : g p' = g p) : (procs.set i p').map g = procs.map g := by
  obtain ⟨hlt, rfl⟩ := List.getElem?_eq_some_iff.mp hp
  have hlt' : i < (procs.map g).length := by rw [List.length_map]; exact hlt
  rw [List.map_set, hg, ← List.getElem_map (h := hlt'), List.set_getElem_self]

theorem Projects.step {e : Event ε η} (P : Projects S ok T ok' f g) (ho : ok s e)
    (h : Pool.step S s e = some s') :
    s'.map f g = s.map f g ∨
      ∃ e', ok' (s.map f g) e' ∧ Pool.step T (s.map f g) e' = some (s'.map f g) := by
  cases e with
  | env e =>
    obtain ⟨sh, he, rfl⟩ := step_env h
    rcases P.env s e sh ho he with hf | ⟨e', ho', he'⟩
    · refine .inl ?_
      rw [map, map, hf]
    · refine .inr ⟨.env e', ho', ?_⟩
      have henv : T.env (s.map f g).shared e' = some (f sh) := he'
      rw [Pool.step, henv, Option.map_some, map, map]
  | proc i e =>
    obtain ⟨p, sh, p', hp, ha, rfl⟩ := step_proc h
    have hg : (s.map f g).procs[i]? = some (g p) := by rw [map_getElem?, hp, Option.map_some]
    rcases P.act s i p e sh p' ho hp ha with ⟨hf, hgp⟩ | ⟨e', ho', ha'⟩
    · refine .inl ?_
      rw [map, map, hf, map_set_of_eq hp hgp]
    · refine .inr ⟨.proc i e', ho', ?_⟩
      simp only [Pool.step, hg, Option.bind_some]
      have hact : T.act (s.map f g).shared i (g p) e' = some (f sh, g p') := ha'
      rw [hact, Option.map_some, map, map, List.map_set]

/-- **Projection.** -/
theorem Projects.run (P : Projects S ok T ok' f g) (h : (system S init).Run ok s s') :
    (system T init').Run ok' (s.map f g) (s'.map f g) := by
  refine h.keep (P := fun t => (system T init').Run ok' (s.map f g) (t.map f g))
    (fun t e t' hr ho hst => ?_) (.refl _)
  rcases P.step ho hst with heq | ⟨e', ho', he⟩
  · rw [heq]
    exact hr
  · exact hr.snoc ho' he

theorem Projects.reach (P : Projects S ok T ok' f g) (hi : ∀ s, init s → init' (s.map f g))
    (h : (system S init).Reach ok s) : (system T init').Reach ok' (s.map f g) := by
  obtain ⟨s₀, h0, hr⟩ := h
  exact ⟨_, hi s₀ h0, P.run hr⟩

end

end Pool
