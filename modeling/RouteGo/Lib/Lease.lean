import Mathlib.Logic.Function.Basic
import Mathlib.Data.Option.Basic

/-!
# Leases

A lease table maps a key to a token and a deadline. A lease counts while the
clock is before its deadline. `setNX` takes a free key (Redis `SET NX PX`),
`delIf` frees a key whose lease carries the given token (a compare and delete).
Mutual exclusion is `setNX_eq_none`: nobody takes a key while a lease on it
counts.
-/

universe u v

/-- A token and the instant at which it stops counting. -/
structure Lease (τ : Type u) where
  token : τ
  deadline : Int

structure Leases (κ : Type u) (τ : Type v) where
  entry : κ → Option (Lease τ)

namespace Leases

section
variable {κ : Type u} {τ : Type v}

def empty : Leases κ τ := ⟨fun _ => none⟩

/-- The token that holds `k` at `now`. -/
def holder (L : Leases κ τ) (k : κ) (now : Int) : Option τ :=
  match L.entry k with
  | some l => if now < l.deadline then some l.token else none
  | none => none

variable {L : Leases κ τ} {k : κ} {v : τ} {now : Int}

theorem holder_of_free (h : L.entry k = none) : L.holder k now = none := by
  simp [holder, h]

theorem holder_of_entry {d : Int} (h : L.entry k = some ⟨v, d⟩) (hd : now < d) :
    L.holder k now = some v := by
  simp [holder, h, hd]

end

variable {κ : Type u} {τ : Type v} [DecidableEq κ]

/-- Take `k` for `ttl`; `none` when it is held. -/
def setNX (L : Leases κ τ) (k : κ) (v : τ) (ttl now : Int) : Option (Leases κ τ) :=
  match L.holder k now with
  | some _ => none
  | none => some ⟨Function.update L.entry k (some ⟨v, now + ttl⟩)⟩

/-- Free `k` if `v` holds it, and say whether it did. -/
def delIf [DecidableEq τ] (L : Leases κ τ) (k : κ) (v : τ) (now : Int) : Bool × Leases κ τ :=
  if L.holder k now = some v then (true, ⟨Function.update L.entry k none⟩) else (false, L)

variable {L L' : Leases κ τ} {k j : κ} {v w : τ} {ttl now : Int}

/-- **Mutual exclusion.** A held key is not taken. -/
theorem setNX_eq_none (h : L.holder k now = some w) : L.setNX k v ttl now = none := by
  simp [setNX, h]

theorem setNX_eq_some : L.setNX k v ttl now = some L' ↔
    L.holder k now = none ∧ ⟨Function.update L.entry k (some ⟨v, now + ttl⟩)⟩ = L' := by
  unfold setNX
  cases L.holder k now <;> simp

theorem setNX_self (h : L.setNX k v ttl now = some L') : L'.entry k = some ⟨v, now + ttl⟩ := by
  rw [← (setNX_eq_some.mp h).2]; simp

theorem setNX_ne (h : L.setNX k v ttl now = some L') (hj : j ≠ k) : L'.entry j = L.entry j := by
  rw [← (setNX_eq_some.mp h).2]; simp [hj]

variable [DecidableEq τ]

theorem delIf_ne (hj : j ≠ k) : (L.delIf k v now).2.entry j = L.entry j := by
  unfold delIf; split
  · simp [hj]
  · rfl

/-- A lease is not freed with another token. -/
theorem delIf_other {d : Int} (h : L.entry k = some ⟨w, d⟩) (hv : w ≠ v) :
    (L.delIf k v now).2.entry k = some ⟨w, d⟩ := by
  unfold delIf; split
  · next hc =>
    simp only [holder, h] at hc
    split at hc
    · exact absurd (Option.some.inj hc) hv
    · cases hc
  · exact h

end Leases
