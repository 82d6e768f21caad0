import Mathlib.Data.List.Nodup

/-!
# Rows by a column

A query that sorts its rows by a column on which no two of them agree returns one
list, however the rows are stored (`orderBy_eq`). The order of the column's values is
a parameter: of texts it is the collation of the database.
-/

universe u v

/-- A total order that is computed. -/
structure Collation (κ : Type u) where
  le : κ → κ → Bool
  total : ∀ a b, le a b || le b a
  trans : ∀ a b c, le a b → le b c → le a c
  antisymm : ∀ a b, le a b → le b a → a = b

namespace Collation

variable {κ : Type u} {ρ : Type v} {C : Collation κ} {g : ρ → κ} {rows rows' : List ρ}

/-- `orderBy: { g: "asc" }` -/
def orderBy (C : Collation κ) (g : ρ → κ) (rows : List ρ) : List ρ :=
  rows.mergeSort fun a b => C.le (g a) (g b)

theorem orderBy_perm (C : Collation κ) (g : ρ → κ) (rows : List ρ) : (C.orderBy g rows).Perm rows :=
  List.mergeSort_perm _ _

theorem pairwise_orderBy (C : Collation κ) (g : ρ → κ) (rows : List ρ) :
    (C.orderBy g rows).Pairwise fun a b => C.le (g a) (g b) :=
  List.pairwise_mergeSort (fun a b c => C.trans (g a) (g b) (g c)) (fun a b =>
    C.total (g a) (g b)) rows

/-- The order in which the rows are stored does not show. -/
theorem orderBy_eq (h : rows.Perm rows') (hn : (rows'.map g).Nodup) :
    C.orderBy g rows = C.orderBy g rows' := by
  have hp : (C.orderBy g rows).Perm rows' := (orderBy_perm C g rows).trans h
  refine List.Perm.eq_of_pairwise (fun a b ha hb hab hba => ?_) (pairwise_orderBy C g rows)
    (pairwise_orderBy C g rows') (hp.trans (orderBy_perm C g rows').symm)
  have ha : a ∈ rows' := hp.mem_iff.mp ha
  have hb : b ∈ rows' := (orderBy_perm C g rows').mem_iff.mp hb
  exact List.inj_on_of_nodup_map hn ha hb (C.antisymm _ _ hab hba)

end Collation
