import Mathlib.Data.List.Nodup

/-!
# Tables with a primary key

A `Table ρ` is the list of the rows of a table in the order of insertion, no two
of one key. `insert` refuses a row whose key is taken, `modify k f` rewrites the
row of key `k`. A row is found by its key (`find_eq_some`), so a statement about
`find` and one about `rows` say the same. `Distinct` is a unique index on a
further column.
-/

universe u v

/-- Rows with a key. -/
class Keyed (ρ : Type u) (κ : outParam (Type v)) where
  key : ρ → κ

export Keyed (key)

structure Table (ρ : Type u) {κ : Type v} [Keyed ρ κ] where
  rows : List ρ
  nodup : (rows.map key).Nodup

namespace Table

variable {ρ : Type u} {κ : Type v} [Keyed ρ κ]

@[ext]
theorem ext {t t' : Table ρ} (h : t.rows = t'.rows) : t = t' := by
  cases t; cases t'; cases h; rfl

def empty : Table ρ := ⟨[], List.nodup_nil⟩

@[simp] theorem empty_rows : (empty : Table ρ).rows = [] := rfl

theorem eq_of_key_eq {t : Table ρ} {r r' : ρ} (h : r ∈ t.rows) (h' : r' ∈ t.rows)
    (hk : key r = key r') : r = r' :=
  List.inj_on_of_nodup_map t.nodup h h' hk

variable [DecidableEq κ]

/-! ## Look-up -/

def find (t : Table ρ) (k : κ) : Option ρ := t.rows.find? fun r => decide (key r = k)

theorem find_eq_some {t : Table ρ} {k : κ} {r : ρ} : t.find k = some r ↔ r ∈ t.rows ∧
    key r = k := by
  constructor
  · intro h
    exact ⟨List.mem_of_find?_eq_some h, by simpa using List.find?_some h⟩
  · rintro ⟨hr, rfl⟩
    cases hf : t.find (key r) with
    | none => simpa using List.find?_eq_none.mp hf r hr
    | some r' =>
      have hk : key r' = key r := by simpa using List.find?_some hf
      rw [eq_of_key_eq (List.mem_of_find?_eq_some hf) hr hk]

theorem find_eq_none {t : Table ρ} {k : κ} : t.find k = none ↔ ∀ r ∈ t.rows, key r ≠ k := by
  simp [find]

theorem mem_of_find {t : Table ρ} {k : κ} {r : ρ} (h : t.find k = some r) : r ∈ t.rows :=
  (find_eq_some.mp h).1

theorem key_of_find {t : Table ρ} {k : κ} {r : ρ} (h : t.find k = some r) : key r = k :=
  (find_eq_some.mp h).2

theorem find_key {t : Table ρ} {r : ρ} (h : r ∈ t.rows) : t.find (key r) = some r :=
  find_eq_some.mpr ⟨h, rfl⟩

/-! ## Insertion -/

/-- Append a row; `none` when its key is taken. -/
def insert (t : Table ρ) (r : ρ) : Option (Table ρ) :=
  if h : key r ∈ t.rows.map key then none
  else some ⟨t.rows ++ [r], by
    rw [List.map_append, List.map_singleton]
    exact List.nodup_append.mpr ⟨t.nodup, List.nodup_singleton _,
      fun a ha b hb hab => h (List.mem_singleton.mp hb ▸ hab ▸ ha)⟩⟩

theorem insert_eq_some {t t' : Table ρ} {r : ρ} :
    t.insert r = some t' ↔ t.find (key r) = none ∧ t'.rows = t.rows ++ [r] := by
  unfold insert
  split
  · next h =>
    obtain ⟨x, hx, hk⟩ := List.mem_map.mp h
    constructor
    · intro hn; cases hn
    · rintro ⟨hn, -⟩; exact absurd hk (find_eq_none.mp hn x hx)
  · next h =>
    have hn : t.find (key r) = none :=
      find_eq_none.mpr fun x hx hk => h (List.mem_map.mpr ⟨x, hx, hk⟩)
    constructor
    · intro hs; cases hs; exact ⟨hn, rfl⟩
    · rintro ⟨-, hr⟩; exact congrArg some (ext hr.symm)

theorem exists_insert {t : Table ρ} {r : ρ} (h : t.find (key r) = none) :
    ∃ t', t.insert r = some t' := by
  have hn : key r ∉ t.rows.map key := fun hm => by
    obtain ⟨x, hx, hk⟩ := List.mem_map.mp hm
    exact find_eq_none.mp h x hx hk
  exact ⟨_, dif_neg hn⟩

theorem rows_of_insert {t t' : Table ρ} {r : ρ} (h : t.insert r = some t') :
    t'.rows = t.rows ++ [r] := (insert_eq_some.mp h).2

theorem mem_of_insert {t t' : Table ρ} {r x : ρ} (h : t.insert r = some t') :
    x ∈ t'.rows ↔ x ∈ t.rows ∨ x = r := by
  rw [rows_of_insert h]; simp

theorem find_of_insert {t t' : Table ρ} {r : ρ} (h : t.insert r = some t') (k : κ) :
    t'.find k = if k = key r then some r else t.find k := by
  obtain ⟨hn, hr⟩ := insert_eq_some.mp h
  rw [find, hr, List.find?_append, List.find?_singleton]
  by_cases hk : k = key r
  · subst hk
    rw [find] at hn
    simp [hn]
  · rw [if_neg hk]
    simp [Ne.symm hk, find]

/-- Append rows of new keys, all or none. -/
def insertAll (t : Table ρ) (rs : List ρ) : Option (Table ρ) :=
  if h : ((t.rows ++ rs).map key).Nodup then some ⟨t.rows ++ rs, h⟩ else none

theorem rows_of_insertAll {t t' : Table ρ} {rs : List ρ} (h : t.insertAll rs = some t') :
    t'.rows = t.rows ++ rs := by
  unfold insertAll at h
  split at h
  · cases h; rfl
  · cases h

/-! ## Rewriting a row -/

/-- Rewrite the row of key `k` by `f`, which keeps keys. -/
def modify (t : Table ρ) (k : κ) (f : ρ → ρ) (hf : ∀ r, key (f r) = key r) : Table ρ where
  rows := t.rows.map fun r => if key r = k then f r else r
  nodup := by
    have : (key : ρ → κ) ∘ (fun r => if key r = k then f r else r) = key := by
      funext r; simp only [Function.comp_apply]; split <;> simp [hf]
    rw [List.map_map, this]
    exact t.nodup

variable {t : Table ρ} {k : κ} {f : ρ → ρ} {hf : ∀ r, key (f r) = key r}

theorem find_modify (j : κ) :
    (t.modify k f hf).find j = (t.find j).map fun r => if key r = k then f r else r := by
  unfold find modify
  rw [List.find?_map]
  congr 2
  funext r
  simp only [Function.comp_apply]
  split <;> simp [hf]

theorem find_modify_self {r : ρ} (h : t.find k = some r) :
    (t.modify k f hf).find k = some (f r) := by
  rw [find_modify, h]; simp [key_of_find h]

theorem find_modify_ne {j : κ} (h : j ≠ k) : (t.modify k f hf).find j = t.find j := by
  rw [find_modify]
  cases hr : t.find j with
  | none => rfl
  | some r => rw [Option.map_some, if_neg (by rw [key_of_find hr]; exact h)]

theorem mem_modify {x : ρ} : x ∈ (t.modify k f hf).rows ↔
    (x ∈ t.rows ∧ key x ≠ k) ∨ ∃ r ∈ t.rows, key r = k ∧ x = f r := by
  simp only [modify, List.mem_map]
  constructor
  · rintro ⟨r, hr, rfl⟩
    by_cases hk : key r = k
    · exact .inr ⟨r, hr, hk, by simp [hk]⟩
    · exact .inl ⟨by simpa [hk] using hr, by simp [hk]⟩
  · rintro (⟨hx, hk⟩ | ⟨r, hr, hk, rfl⟩)
    · exact ⟨x, hx, by simp [hk]⟩
    · exact ⟨r, hr, by simp [hk]⟩

/-! ## Unique columns -/

variable {α : Type v} {g : ρ → α}

/-- No two rows agree on the column `g`. -/
def Distinct (t : Table ρ) (g : ρ → α) : Prop := (t.rows.map g).Nodup

omit [DecidableEq κ] in
theorem Distinct.eq (h : t.Distinct g) {r r' : ρ} (hr : r ∈ t.rows) (hr' : r' ∈ t.rows)
    (hg : g r = g r') : r = r' := List.inj_on_of_nodup_map h hr hr' hg

theorem Distinct.insert {t' : Table ρ} {r : ρ} (h : t.Distinct g) (hi : t.insert r = some t')
    (hn : ∀ x ∈ t.rows, g x ≠ g r) : t'.Distinct g := by
  rw [Distinct, rows_of_insert hi, List.map_append, List.map_singleton]
  refine List.nodup_append.mpr ⟨h, List.nodup_singleton _, fun a ha b hb hab => ?_⟩
  obtain ⟨x, hx, rfl⟩ := List.mem_map.mp ha
  exact hn x hx (hab.trans (List.mem_singleton.mp hb))

omit [DecidableEq κ] in
/-- Appended rows that agree on `g` neither with one another nor with the old ones. -/
theorem Distinct.append {t' : Table ρ} {rs : List ρ} (h : t.Distinct g)
    (hr : t'.rows = t.rows ++ rs)
    (hrs : (rs.map g).Nodup) (hn : ∀ x ∈ t.rows, ∀ y ∈ rs, g x ≠ g y) : t'.Distinct g := by
  rw [Distinct, hr, List.map_append]
  refine List.nodup_append.mpr ⟨h, hrs, fun a ha b hb hab => ?_⟩
  obtain ⟨x, hx, rfl⟩ := List.mem_map.mp ha
  obtain ⟨y, hy, rfl⟩ := List.mem_map.mp hb
  exact hn x hx y hy hab

theorem Distinct.modify (h : t.Distinct g) (hg : ∀ r, g (f r) = g r) :
    (t.modify k f hf).Distinct g := by
  have hc : (g ∘ fun r => if key r = k then f r else r) = g := by
    funext r; simp only [Function.comp_apply]; split <;> simp [hg]
  rw [Distinct, Table.modify, List.map_map, hc]
  exact h

end Table
