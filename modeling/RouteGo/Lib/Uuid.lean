import Mathlib.Data.List.Basic

/-!
# Texts of UUIDs

The texts a `uuid` column of PostgreSQL takes: 32 hexadecimal digits of either
case, a hyphen or none after each group of four, braces around it or none. Its
value is the digits, so that many texts are one value; `text` is the spelling the
column gives back. An `IdColumn` is any column that spells its values in one way.
-/

universe u

namespace Uuid

/-- A hexadecimal digit of either case. -/
def hexValue (c : Char) : Option Nat :=
  let n := c.toNat
  if 48 ≤ n ∧ n ≤ 57 then some (n - 48)
  else if 97 ≤ n ∧ n ≤ 102 then some (n - 87)
  else if 65 ≤ n ∧ n ≤ 70 then some (n - 55)
  else none

/-- The digits from the `n`th on; `hyphen` says whether a hyphen may come first. -/
def digits (n : Nat) (hyphen : Bool) : List Char → Option (List Nat)
  | [] => if n = 32 then some [] else none
  | c :: cs =>
    if c = '-' then (if hyphen then digits n false cs else none)
    else match hexValue c with
      | some d =>
        if n < 32 then
          (digits (n + 1) (decide ((n + 1) % 4 = 0 ∧ n + 1 < 32)) cs).map fun ds => d :: ds
        else none
      | none => none

/-- The value of a text; `none` is a text that is refused. -/
def read (s : String) : Option (List Nat) :=
  match s.toList with
  | '{' :: cs => if cs.getLast? = some '}' then digits 0 false cs.dropLast else none
  | cs => digits 0 false cs

/-- The digits of a text, whatever else it holds. -/
def digitsOf (s : String) : List Nat := s.toList.filterMap hexValue

/-- The spelling in lower case with four hyphens. -/
def text (ds : List Nat) : String :=
  let cs := ds.map Nat.digitChar
  String.ofList (cs.take 8 ++ '-' :: (cs.drop 8).take 4 ++ '-' :: (cs.drop 12).take 4 ++
    '-' :: (cs.drop 16).take 4 ++ '-' :: cs.drop 20)

/-- Spelled as the column spells it. -/
def Canonical (s : String) : Prop := ∃ ds, read s = some ds ∧ text ds = s

section
variable {n d : Nat} {hyphen : Bool} {cs rest : List Char} {ds es xs : List Nat} {s t : String}

theorem digits_ok (h : digits n hyphen cs = some ds) :
    ds = cs.filterMap hexValue ∧ ∀ c ∈ cs, c = '-' ∨ (hexValue c).isSome = true := by
  induction cs generalizing n hyphen ds with
  | nil =>
    simp only [digits] at h
    split at h <;> cases h
    exact ⟨rfl, fun c hc => absurd hc List.not_mem_nil⟩
  | cons c cs ih =>
    simp only [digits] at h
    split at h
    · next hc =>
      split at h
      · obtain ⟨hds, hcs⟩ := ih h
        subst hc
        refine ⟨hds, fun x hx => ?_⟩
        rcases List.mem_cons.mp hx with rfl | hx
        · exact .inl rfl
        · exact hcs x hx
      · cases h
    · split at h
      · next d hd =>
        split at h
        · simp only [Option.map_eq_some_iff] at h
          obtain ⟨ds', h, rfl⟩ := h
          obtain ⟨hds, hcs⟩ := ih h
          refine ⟨by rw [List.filterMap_cons_some hd, hds], fun x hx => ?_⟩
          rcases List.mem_cons.mp hx with rfl | hx
          · exact .inr (by rw [hd]; rfl)
          · exact hcs x hx
        · cases h
      · cases h

/-- The value is in the digits. -/
theorem read_ok (h : read s = some ds) : ds = digitsOf s ∧
    ∀ c ∈ s.toList, c = '{' ∨ c = '}' ∨ c = '-' ∨ (hexValue c).isSome = true := by
  unfold read at h
  unfold digitsOf
  split at h
  · next cs hcs =>
    split at h
    · next hl =>
      obtain ⟨hds, hall⟩ := digits_ok h
      have hsplit : cs = cs.dropLast ++ ['}'] := (List.dropLast_append_getLast? _ hl).symm
      rw [hcs, hsplit]
      refine ⟨?_, fun c hc => ?_⟩
      · rw [List.filterMap_cons_none rfl, List.filterMap_append, ← hds]
        simp [hexValue]
      · simp only [List.mem_cons, List.mem_append, List.not_mem_nil, or_false] at hc
        rcases hc with hc | hc | hc
        · exact .inl hc
        · exact .inr (.inr (hall c hc))
        · exact .inr (.inl hc)
    · cases h
  · obtain ⟨hds, hall⟩ := digits_ok h
    exact ⟨hds, fun c hc => .inr (.inr (hall c hc))⟩

/-- Two accepted texts have one value if they have the same digits. -/
theorem read_eq_iff (hs : read s = some ds) (ht : read t = some es) :
    read s = read t ↔ digitsOf s = digitsOf t := by
  rw [hs, ht, Option.some.injEq, (read_ok hs).1, (read_ok ht).1]

theorem colon_notMem (h : read s = some ds) : ':' ∉ s.toList := by
  intro hc
  rcases (read_ok h).2 ':' hc with h | h | h | h <;> exact absurd h (by decide)

theorem digits_length (h : digits n hyphen cs = some ds) : n + ds.length = 32 ∧
    ∀ d ∈ ds, d < 16 := by
  induction cs generalizing n hyphen ds with
  | nil =>
    simp only [digits] at h
    split at h <;> cases h
    exact ⟨by simpa, fun d hd => absurd hd List.not_mem_nil⟩
  | cons c cs ih =>
    simp only [digits] at h
    split at h
    · split at h
      · exact ih h
      · cases h
    · split at h
      · next d hd =>
        split at h
        · simp only [Option.map_eq_some_iff] at h
          obtain ⟨ds', h, rfl⟩ := h
          obtain ⟨hlen, hall⟩ := ih h
          refine ⟨by simp only [List.length_cons]; omega, fun x hx => ?_⟩
          rcases List.mem_cons.mp hx with rfl | hx
          · unfold hexValue at hd
            simp only at hd
            split at hd
            · cases hd; omega
            · split at hd
              · cases hd; omega
              · split at hd <;> cases hd
                omega
          · exact hall x hx
        · cases h
      · cases h

theorem digitChar_spec (h : d < 16) : hexValue (Nat.digitChar d) = some d ∧ Nat.digitChar d ≠ '-' ∧
    Nat.digitChar d ≠ '{' := by
  have hall : ∀ d < 16, hexValue (Nat.digitChar d) = some d ∧ Nat.digitChar d ≠ '-' ∧
      Nat.digitChar d ≠ '{' := by decide
  exact hall d h

/-- A block of digits. -/
theorem digits_block (hx : ∀ d ∈ xs, d < 16) (hne : xs ≠ []) (hn : n + xs.length ≤ 32) :
    digits n hyphen (xs.map Nat.digitChar ++ rest) =
      (digits (n + xs.length) (decide ((n + xs.length) % 4 = 0 ∧ n + xs.length < 32)) rest).map
        (xs ++ ·) := by
  induction xs generalizing n hyphen with
  | nil => exact absurd rfl hne
  | cons d xs ih =>
    obtain ⟨hv, hd, -⟩ := digitChar_spec (hx d List.mem_cons_self)
    simp only [List.length_cons] at hn
    have hlt : n < 32 := by omega
    simp only [List.map_cons, List.cons_append, digits, if_neg hd, hv, if_pos hlt]
    cases xs with
    | nil => rfl
    | cons e xs =>
      rw [ih (fun d hd => hx d (List.mem_cons_of_mem _ hd)) (List.cons_ne_nil _ _) (by omega),
        Option.map_map]
      have hlen : n + 1 + (e :: xs).length = n + (d :: e :: xs).length := by
        simp only [List.length_cons]; omega
      rw [hlen]
      rfl

/-- The column's own spelling has the same value. -/
theorem read_text (h : read s = some ds) : read (text ds) = some ds := by
  obtain ⟨hlen, hall⟩ : ds.length = 32 ∧ ∀ d ∈ ds, d < 16 := by
    unfold read at h
    split at h
    · split at h
      · simpa using digits_length h
      · cases h
    · simpa using digits_length h
  have hblock : ∀ (n k m : Nat) (rest : List Char), m + k ≤ 32 → n + k ≤ 32 → 0 < k →
    (n + k) % 4 = 0 → digits n false (((ds.drop m).take k).map Nat.digitChar ++ rest) =
        (digits (n + k) (decide (n + k < 32)) rest).map ((ds.drop m).take k ++ ·) := by
    intro n k m rest hm hn hk h4
    have hl : ((ds.drop m).take k).length = k := by rw [List.length_take, List.length_drop]; omega
    rw [digits_block (fun d hd => hall d (List.mem_of_mem_drop (List.mem_of_mem_take hd)))
      (fun he => by rw [he] at hl; simp at hl; omega) (by omega), hl]
    simp only [h4, true_and]
  have hfirst : ∀ cs, (ds.take 8).map Nat.digitChar ++ cs ≠ [] ∧
      ∀ cs', (ds.take 8).map Nat.digitChar ++ cs ≠ '{' :: cs' := by
    intro cs
    cases ds with
    | nil => cases hlen
    | cons d ds =>
      refine ⟨List.cons_ne_nil _ _, fun cs' he => ?_⟩
      exact (digitChar_spec (hall d List.mem_cons_self)).2.2 (List.head_eq_of_cons_eq he)
  unfold read text
  simp only [String.toList_ofList, ← List.map_take, ← List.map_drop, List.append_assoc,
    List.cons_append]
  split
  · next cs he => exact absurd he ((hfirst _).2 cs)
  · have hhyphen : ∀ m rest, digits m true ('-' :: rest) = digits m false rest := fun _ _ => rfl
    have h20 : (ds.drop 20).map Nat.digitChar = ((ds.drop 20).take 12).map Nat.digitChar ++ [] := by
      rw [List.append_nil, List.take_of_length_le (by rw [List.length_drop]; omega)]
    have hsplit : ds = ds.take 8 ++ ((ds.drop 8).take 4 ++ ((ds.drop 12).take 4 ++
        ((ds.drop 16).take 4 ++ ((ds.drop 20).take 12 ++ [])))) := by
      rw [List.append_nil, List.take_of_length_le (i := 12) (by rw [List.length_drop]; omega)]
      simp only [← List.drop_drop (i := 4) (j := 16), ← List.drop_drop (i := 4) (j := 12),
        ← List.drop_drop (i := 4) (j := 8), List.take_append_drop]
    have h8 := hblock 0 8 0 ('-' :: (((ds.drop 8).take 4).map Nat.digitChar ++
      '-' :: (((ds.drop 12).take 4).map Nat.digitChar ++ '-' ::
        (((ds.drop 16).take 4).map Nat.digitChar ++
      '-' :: (((ds.drop 20).take 12).map Nat.digitChar ++ []))))) (by omega) (by omega)
        (by omega) rfl
    rw [List.drop_zero] at h8
    rw [h20, h8]
    simp only [Nat.zero_add, Nat.reduceLT, decide_true, hhyphen]
    rw [hblock 8 4 8 _ (by omega) (by omega) (by omega) rfl]
    simp only [Nat.reduceAdd, Nat.reduceLT, decide_true, hhyphen]
    rw [hblock 12 4 12 _ (by omega) (by omega) (by omega) rfl]
    simp only [Nat.reduceAdd, Nat.reduceLT, decide_true, hhyphen]
    rw [hblock 16 4 16 _ (by omega) (by omega) (by omega) rfl]
    simp only [Nat.reduceAdd, Nat.reduceLT, decide_true, hhyphen]
    rw [hblock 20 12 20 _ (by omega) (by omega) (by omega) rfl]
    simp only [digits, Nat.reduceAdd, if_true, Option.map_some]
    exact congrArg some hsplit.symm

end

example : read "{6F1C0A52-9b3e-4d7f-8a21-0c5d6e7f8a9b}" =
    read "6f1c0a529b3e4d7f8a210c5d6e7f8a9b" := by
  decide

end Uuid

/-! ## Columns of ids -/

/-- What a column keeps of a text that is written to it, which is how it spells the
value; `none` is a text it refuses. A uuid in canonical spelling is kept as it is. -/
structure IdColumn where
  keep : String → Option String
  keep_keep : ∀ {s c : String}, keep s = some c → keep c = some c
  canonical : ∀ {s : String}, Uuid.Canonical s → keep s = some s

namespace IdColumn

/-- Every text is a value, and its only spelling. -/
def texts : IdColumn := ⟨some, fun _ => rfl, fun _ => rfl⟩

/-- A `uuid` column. -/
def uuid : IdColumn where
  keep s := (Uuid.read s).map Uuid.text
  keep_keep h := by
    obtain ⟨ds, hr, rfl⟩ := Option.map_eq_some_iff.mp h
    rw [Uuid.read_text hr, Option.map_some]
  canonical h := Option.map_eq_some_iff.mpr h

variable {C : IdColumn} {s t c : String}

/-- The text is spelled as the column spells it. -/
def Spelled (C : IdColumn) (s : String) : Prop := C.keep s = some s

instance (C : IdColumn) (s : String) : Decidable (C.Spelled s) :=
  inferInstanceAs (Decidable (_ = _))

/-- The column keeps the text as it is, or refuses it. -/
def AsSpelled (C : IdColumn) (s : String) : Prop := ∀ c ∈ C.keep s, c = s

instance (C : IdColumn) (s : String) : Decidable (C.AsSpelled s) :=
  inferInstanceAs (Decidable (∀ c ∈ C.keep s, c = s))

theorem Spelled.eq (h : C.Spelled s) (hc : C.keep s = some c) : c = s :=
  (Option.some.inj (h.symm.trans hc)).symm

theorem Spelled.asSpelled (h : C.Spelled s) : C.AsSpelled s := fun _ hc => h.eq hc

end IdColumn

/-- Two lists split at the first separator. -/
theorem append_cons_inj {α : Type u} {a : α} {xs ys us vs : List α} (hx : a ∉ xs) (hy : a ∉ ys) :
    xs ++ a :: us = ys ++ a :: vs ↔ xs = ys ∧ us = vs := by
  constructor
  · intro h
    induction xs generalizing ys with
    | nil =>
      cases ys with
      | nil => exact ⟨rfl, List.tail_eq_of_cons_eq h⟩
      | cons y ys => exact absurd (List.head_eq_of_cons_eq h) (List.ne_of_not_mem_cons hy)
    | cons x xs ih =>
      cases ys with
      | nil => exact absurd (List.head_eq_of_cons_eq h).symm (List.ne_of_not_mem_cons hx)
      | cons y ys =>
        obtain ⟨hxy, hrest⟩ := List.cons_eq_cons.mp h
        obtain ⟨hxs, hus⟩ :=
          ih (List.not_mem_of_not_mem_cons hx) (List.not_mem_of_not_mem_cons hy) hrest
        exact ⟨by rw [hxy, hxs], hus⟩
  · rintro ⟨rfl, rfl⟩
    rfl
