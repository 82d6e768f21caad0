import RouteGo.Lib.CheckInsert

/-!
# The contents of a store are the results of its calls

Where every insert appends one row for its result, and nothing else does, the rows of a
store that began empty are those of the results, each once (`CheckInsert.tally`).
-/

universe u v w x y z t

namespace CheckInsert

section
variable {α : Type u} {β : Type v} {f : α → Option β} {l : List α} {i : Nat} {a a' : α} {b : β}

/-- An entry that says as much as before. -/
theorem filterMap_set_of_eq (h : l[i]? = some a) (hf : f a' = f a) :
    (l.set i a').filterMap f = l.filterMap f := by
  obtain ⟨hlt, rfl⟩ := List.getElem?_eq_some_iff.mp h
  have hl : l = l.take i ++ l[i] :: l.drop (i + 1) := by
    rw [← List.drop_eq_getElem_cons hlt, List.take_append_drop]
  rw [List.set_eq_take_append_cons_drop, if_pos hlt]
  conv_rhs => rw [hl]
  rw [List.filterMap_append, List.filterMap_append, List.filterMap_cons, List.filterMap_cons, hf]

/-- An entry that said nothing. -/
theorem filterMap_set_perm (h : l[i]? = some a) (hf : f a = none) (hf' : f a' = some b) :
    ((l.set i a').filterMap f).Perm (b :: l.filterMap f) := by
  obtain ⟨hlt, rfl⟩ := List.getElem?_eq_some_iff.mp h
  have hl : l.filterMap f = (l.take i).filterMap f ++ (l.drop (i + 1)).filterMap f := by
    conv_lhs => rw [← List.take_append_drop i l, List.drop_eq_getElem_cons hlt]
    rw [List.filterMap_append, List.filterMap_cons, hf]
  rw [List.set_eq_take_append_cons_drop, if_pos hlt, List.filterMap_append,
    List.filterMap_cons, hf', hl]
  exact List.perm_middle

end

variable {σ : Type u} {ρ : Type v} {δ : Type w} {ι : Type x} {α : Type y} {β : Type z} {κ : Type t}
  {C : CheckInsert σ ρ δ ι α β}

/-- What a call has returned. -/
def Call.result (c : Call ρ δ α β) : Option α :=
  match c.pc with
  | .done (.ok a) => some a
  | _ => none

def results (p : Pool σ (Call ρ δ α β)) : List α := p.procs.filterMap Call.result

theorem Call.result_eq_some {c : Call ρ δ α β} {a : α} : c.result = some a ↔
    c.pc = .done (.ok a) := by
  obtain ⟨q, pc⟩ := c
  cases pc with
  | done res => cases res <;> simp [Call.result]
  | _ => simp [Call.result]

theorem mem_results {p : Pool σ (Call ρ δ α β)} {a : α} :
    a ∈ results p ↔ ∃ (i : Nat) (q : ρ), p.procs[i]? = some ⟨q, .done (.ok a)⟩ := by
  rw [results, List.mem_filterMap]
  constructor
  · rintro ⟨⟨q, pc⟩, hc, hr⟩
    obtain ⟨i, hi⟩ := List.mem_iff_getElem?.mp hc
    obtain rfl : pc = .done (.ok a) := Call.result_eq_some.mp hr
    exact ⟨i, q, hi⟩
  · rintro ⟨i, q, hi⟩
    exact ⟨_, List.mem_of_getElem? hi, rfl⟩

/-- **Tally rule.** -/
theorem tally (rows : σ → List κ) (item : α → κ) {init : σ → Prop} (h0 : ∀ s, init s → rows s = [])
    (hins : ∀ s d ids a s', C.insert s ids d = some (.ok (a, s')) → rows s' = rows s ++ [item a])
    {p : Pool σ (Call ρ δ α β)} (h : (C.calls init).Reachable p) :
    (rows p.shared).Perm ((results p).map item) := by
  refine h.invariant (I := fun p => (rows p.shared).Perm ((results p).map item)) (fun p hi => ?_)
    fun p ev p' _ hI _ hst => ?_
  · obtain ⟨hs, hstart⟩ := hi
    have hnone : results p = [] := by
      rw [results, List.filterMap_eq_nil_iff]
      intro c hc
      rw [Call.result, hstart c hc]
    rw [h0 _ hs, hnone]
    exact .refl _
  · cases ev with
    | env e => exact e.elim
    | proc i e =>
      obtain ⟨c, s', c', hc, ha, rfl⟩ := Pool.step_proc hst
      have hnone : c.result = none := by
        cases hr : c.result with
        | none => rfl
        | some a => exact absurd (Call.result_eq_some.mp hr) (not_done_of_act ha)
      have hsame : c'.result = none → results ⟨s', p.procs.set i c'⟩ = results p :=
        fun hr => filterMap_set_of_eq hc (hr.trans hnone.symm)
      cases (act_moves ha).2 with
      | throw b hpc hs =>
        rw [hsame (by rw [Call.result, hpc]), hs]
        exact hI
      | pass d hpc hchk ht hs =>
        rw [hsame (by rw [Call.result, hpc]), hs]
        exact hI
      | insert d a hpc hpc' hf hi =>
        have hp := filterMap_set_perm hc hnone (Call.result_eq_some.mpr hpc')
        have hrows : (rows s').Perm (item a :: (results p).map item) := by
          rw [hins _ d e.ids a s' hi]
          exact (List.perm_append_singleton _ _).trans (hI.cons _)
        exact hrows.trans (hp.map item).symm

end CheckInsert
