/-!
# A log that is written at least once

A `Broker` stores what it has been given, when it likes and as often as it likes. What it
has stored it was given (`Broker.Sound`). Its log is all that it has ever stored, wherever
that is kept; the order in it says nothing, and `Broker.Later` does not speak of it.
-/

universe u

structure Broker (α : Type u) where
  outbox : List α
  log : List α

namespace Broker

variable {α : Type u} {b b' b'' : Broker α} {x y : α} {k : Nat}

def empty : Broker α := ⟨[], []⟩

def give (b : Broker α) (x : α) : Broker α := { b with outbox := b.outbox ++ [x] }

/-- One more copy of the `k`-th thing it was given. -/
def append (b : Broker α) (k : Nat) : Option (Broker α) :=
  b.outbox[k]?.map fun x => { b with log := b.log ++ [x] }

/-- What is in the log was given. -/
def Sound (b : Broker α) : Prop := ∀ x ∈ b.log, x ∈ b.outbox

/-- `b'` has stored what `b` has. -/
def Later (b b' : Broker α) : Prop := b.log ⊆ b'.log

theorem mem_outbox_give : y ∈ (b.give x).outbox ↔ y ∈ b.outbox ∨ y = x := by
  simp only [give, List.mem_append, List.mem_singleton]

theorem append_eq_some (h : b.append k = some b') :
    ∃ x ∈ b.outbox, b' = { b with log := b.log ++ [x] } := by
  simp only [append, Option.map_eq_some_iff] at h
  obtain ⟨x, hx, rfl⟩ := h
  exact ⟨x, List.mem_of_getElem? hx, rfl⟩

theorem Sound.empty : (Broker.empty : Broker α).Sound := fun _ hx => absurd hx List.not_mem_nil

theorem Sound.give (h : b.Sound) (x : α) : (b.give x).Sound :=
  fun y hy => mem_outbox_give.mpr (.inl (h y hy))

theorem Sound.append (h : b.Sound) (ha : b.append k = some b') : b'.Sound := by
  obtain ⟨x, hx, rfl⟩ := append_eq_some ha
  intro y hy
  rcases List.mem_append.mp hy with hy | hy
  · exact h y hy
  · obtain rfl := List.mem_singleton.mp hy
    exact hx

theorem Later.refl (b : Broker α) : Later b b := List.Subset.refl _

theorem Later.append (h : b.append k = some b') : Later b b' := by
  obtain ⟨x, -, rfl⟩ := append_eq_some h
  exact List.subset_append_left _ _

end Broker
