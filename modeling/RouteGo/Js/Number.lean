import Mathlib.Data.Rat.Cast.Order
import Mathlib.Data.Rat.Floor

/-!
# JavaScript numbers

A number is `NaN`, an infinity or a finite value; finite values are rationals, of
which an integer text is rounded to a double when it is read (`ofNat`), a decimal
literal is not. Every comparison with
`NaN` is false (`lt_nan`, `nan_lt`, `ge_nan`), so `¬ a ≥ b` does not give `a < b`
(`lt_of_not_ge`). `toInt4` is what an `INTEGER` column stores: Prisma cuts a fraction off.
-/

namespace RouteGo.Js

inductive Number where
  | nan
  | negInf
  | fin (q : ℚ)
  | posInf
  deriving DecidableEq, Repr

namespace Number

def ofInt (n : Int) : Number := .fin n

def isNaN : Number → Bool
  | .nan => true
  | _ => false

/-- `a < b`. -/
def lt : Number → Number → Bool
  | .fin a, .fin b => decide (a < b)
  | .negInf, .fin _ => true
  | .negInf, .posInf => true
  | .fin _, .posInf => true
  | _, _ => false

/-- `a >= b`. -/
def ge : Number → Number → Bool
  | .nan, _ => false
  | _, .nan => false
  | a, b => !lt a b

/-- `a <= b`. -/
def le (a b : Number) : Bool := ge b a

@[simp] theorem lt_ofInt (a b : Int) : lt (ofInt a) (ofInt b) = decide (a < b) := by
  simp [lt, ofInt]

theorem le_ofInt (a b : Int) : le (ofInt a) (ofInt b) = decide (a ≤ b) := by
  show (!lt (ofInt b) (ofInt a)) = _
  rw [lt_ofInt, ← decide_not]
  exact decide_eq_decide.mpr Int.not_lt

theorem ofInt_inj {a b : Int} (h : ofInt a = ofInt b) : a = b :=
  Int.cast_injective (Number.fin.inj h)

theorem lt_nan (a : Number) : lt a .nan = false := by cases a <;> rfl

theorem nan_lt (a : Number) : lt .nan a = false := by cases a <;> rfl

theorem ge_nan (a : Number) : ge a .nan = false := by cases a <;> rfl

/-- Without `NaN` the comparisons are the two sides of one order. -/
theorem lt_of_not_ge {a b : Number} (ha : a.isNaN = false) (hb : b.isNaN = false)
    (h : ge a b = false) : lt a b = true := by
  cases a <;> cases b <;> simp_all [ge, isNaN]

theorem isNaN_of_lt {a b : Number} (h : lt a b = true) : a.isNaN = false ∧ b.isNaN = false := by
  cases a <;> cases b <;> simp_all [lt, isNaN]

theorem not_ge_of_lt {a b : Number} (h : lt a b = true) : ge a b = false := by
  cases a <;> cases b <;> simp_all [ge, lt]

/-- Not a fraction. -/
def isWhole : Number → Bool
  | .fin q => q.den = 1
  | _ => true

theorem eq_ofInt_of_isWhole {q : ℚ} (h : (Number.fin q).isWhole = true) :
    Number.fin q = .ofInt q.num := by
  rw [ofInt, Rat.coe_int_num_of_den_eq_one (of_decide_eq_true h)]

/-- An interval of integers meets one with ends that are no fractions where it meets its ends. -/
theorem exists_between_iff {a b : Int} {f g : Number} (hab : a < b) (hfg : f.lt g = true)
    (hf : f.isWhole = true) (hg : g.isWhole = true) :
    (∃ i : Int, (a ≤ i ∧ i < b) ∧ f.le (.ofInt i) = true ∧ (Number.ofInt i).lt g = true) ↔
      (Number.ofInt a).lt g = true ∧ f.lt (.ofInt b) = true := by
  have hlow : ∀ i : Int, le .negInf (.ofInt i) = true := fun _ => rfl
  have hlow' : ∀ i : Int, lt .negInf (.ofInt i) = true := fun _ => rfl
  have hhigh : ∀ i : Int, lt (.ofInt i) .posInf = true := fun _ => rfl
  cases f with
  | nan => rw [nan_lt] at hfg; cases hfg
  | posInf => cases g <;> cases hfg
  | negInf =>
    cases g with
    | nan | negInf => cases hfg
    | posInf => exact ⟨fun _ => ⟨hhigh a, hlow' b⟩, fun _ => ⟨a, ⟨le_rfl, hab⟩, hlow a, hhigh a⟩⟩
    | fin r =>
      rw [eq_ofInt_of_isWhole hg]
      simp only [hlow, hlow', lt_ofInt, decide_eq_true_eq, true_and, and_true]
      exact ⟨fun ⟨i, hi, hlt⟩ => by omega, fun h => ⟨a, ⟨le_rfl, hab⟩, h⟩⟩
  | fin q =>
    rw [eq_ofInt_of_isWhole hf] at hfg ⊢
    cases g with
    | nan | negInf => cases hfg
    | posInf =>
      simp only [hhigh, le_ofInt, lt_ofInt, decide_eq_true_eq, true_and, and_true]
      exact ⟨fun ⟨i, hi, hle⟩ => by omega, fun h => ⟨max a q.num, by omega, by omega⟩⟩
    | fin r =>
      rw [eq_ofInt_of_isWhole hg] at hfg ⊢
      simp only [le_ofInt, lt_ofInt, decide_eq_true_eq] at hfg ⊢
      exact ⟨fun ⟨i, hi, hle⟩ => by omega, fun h => ⟨max a q.num, by omega, by omega⟩⟩

/-- The integer part, towards zero. -/
def trunc (q : ℚ) : Int := if 0 ≤ q then ⌊q⌋ else ⌈q⌉

theorem trunc_intCast (n : Int) : trunc n = n := by simp [trunc]

theorem lt_of_lt_trunc {q : ℚ} {c : Int} (h : c < trunc q) : (c : ℚ) < q := by
  unfold trunc at h
  split at h
  · exact lt_of_lt_of_le (Int.cast_lt.mpr h) (Int.floor_le q)
  · exact Int.lt_ceil.mp h

theorem lt_of_trunc_lt {q : ℚ} {c : Int} (h : trunc q < c) : q < c := by
  unfold trunc at h
  split at h
  · exact Int.floor_lt.mp h
  · exact lt_of_le_of_lt (Int.le_ceil q) (Int.cast_lt.mpr h)

/-- The value an `INTEGER` column stores; `none` is a refused write. -/
def toInt4 : Number → Option Int
  | .fin q => if -2 ^ 31 ≤ trunc q ∧ trunc q < 2 ^ 31 then some (trunc q) else none
  | _ => none

theorem toInt4_some {a : Number} {n : Int} (h : toInt4 a = some n) : ∃ q, a = .fin q ∧
    n = trunc q := by
  cases a with
  | fin q =>
    simp only [toInt4] at h
    split at h <;> cases h
    exact ⟨q, rfl, rfl⟩
  | _ => cases h

theorem toInt4_ofInt {n : Int} (hlo : -2 ^ 31 ≤ n) (hhi : n < 2 ^ 31) :
    toInt4 (ofInt n) = some n := by
  rw [ofInt, toInt4, trunc_intCast, if_pos ⟨hlo, hhi⟩]

theorem eq_of_toInt4_ofInt {m n : Int} (h : toInt4 (ofInt m) = some n) : n = m := by
  obtain ⟨q, hq, rfl⟩ := toInt4_some h
  rw [← Number.fin.inj hq, trunc_intCast]

/-- An integer is below a number when it is below what is stored of it. -/
theorem ofInt_lt_of_toInt4 {a : Number} {c n : Int} (h : toInt4 a = some n) (hc : c < n) :
    (ofInt c).lt a = true := by
  obtain ⟨q, rfl, rfl⟩ := toInt4_some h
  exact decide_eq_true (lt_of_lt_trunc hc)

theorem lt_ofInt_of_toInt4 {a : Number} {c n : Int} (h : toInt4 a = some n) (hc : n < c) :
    a.lt (ofInt c) = true := by
  obtain ⟨q, rfl, rfl⟩ := toInt4_some h
  exact decide_eq_true (lt_of_trunc_lt hc)

/-! ## Doubles -/

/-- The double nearest to `n`, in a tie the one whose significand is even. -/
def nearest (n : Nat) : Nat :=
  let unit := 2 ^ (Nat.log2 n - 52)
  let q := n / unit
  let r := n % unit
  (if unit < 2 * r ∨ (unit = 2 * r ∧ q % 2 = 1) then q + 1 else q) * unit

/-- The value of an integer literal. -/
def ofNat (neg : Bool) (n : Nat) : Number :=
  if 2 ^ 1024 ≤ nearest n then (if neg then .negInf else .posInf)
  else .ofInt (if neg then -(nearest n : Int) else nearest n)

theorem isWhole_ofNat (neg : Bool) (n : Nat) : (ofNat neg n).isWhole = true := by
  unfold ofNat
  split
  · cases neg <;> rfl
  · simp only [isWhole, ofInt, Rat.den_intCast, decide_true]

/-! ## Text -/

/-- The digits after the point of `r / d`, at most `n` of them. -/
def fracDigits : Nat → Nat → Nat → List Char
  | 0, _, _ => []
  | _, 0, _ => []
  | n + 1, r, d => Char.ofNat (48 + r * 10 / d) :: fracDigits n (r * 10 % d) d

/-- `String(a)` for numbers in the range JavaScript prints without an exponent. -/
def toText : Number → String
  | .nan => "NaN"
  | .negInf => "-Infinity"
  | .posInf => "Infinity"
  | .fin q =>
    if q.den = 1 then toString q.num
    else (if q.num < 0 then "-" else "") ++ toString (q.num.natAbs / q.den) ++ "." ++
      String.ofList (fracDigits 17 (q.num.natAbs % q.den) q.den)

end Number

/-- The values that reach a handler; of an object only its kind matters. -/
inductive Value where
  | undefined
  | null
  | boolean (b : Bool)
  | number (n : Number)
  | string (s : String)
  | object
  deriving DecidableEq, Repr

namespace Value

def ofInt (n : Int) : Value := .number (.ofInt n)

theorem ofInt_inj {m n : Int} (h : Value.ofInt m = .ofInt n) : m = n :=
  Number.ofInt_inj (Value.number.inj h)

/-- The value an `INTEGER` column stores; Prisma refuses all but numbers. -/
def toInt4 : Value → Option Int
  | .number n => n.toInt4
  | _ => none

theorem number_of_toInt4 {v : Value} {n : Int} (h : toInt4 v = some n) :
    ∃ a : Number, v = .number a ∧ a.toInt4 = some n := by
  cases v with
  | number a => exact ⟨a, rfl, h⟩
  | _ => cases h

theorem eq_of_toInt4_ofInt {m n : Int} (h : toInt4 (ofInt m) = some n) : n = m :=
  Number.eq_of_toInt4_ofInt h

/-- `Number.isInteger(v)`. -/
def isInteger : Value → Bool
  | .number (.fin q) => q.den = 1
  | _ => false

theorem isInteger_ofInt (n : Int) : (ofInt n).isInteger = true := decide_eq_true (Rat.den_intCast n)

theorem isInteger_iff {v : Value} : v.isInteger = true ↔ ∃ n : Int, v = .ofInt n := by
  refine ⟨fun h => ?_, fun ⟨n, hn⟩ => hn ▸ isInteger_ofInt n⟩
  cases v with
  | number a =>
    cases a with
    | fin q =>
      have hq : (q.num : ℚ) = q := Rat.coe_int_num_of_den_eq_one (of_decide_eq_true h)
      exact ⟨q.num, by rw [ofInt, Number.ofInt, hq]⟩
    | nan | negInf | posInf => cases h
  | undefined | null | boolean | string | object => cases h

/-- Exactly an integer is stored as it is. -/
theorem isInteger_iff_of_toInt4 {v : Value} {n : Int} (h : v.toInt4 = some n) :
    v.isInteger = true ↔ v = .ofInt n := by
  refine ⟨fun hi => ?_, fun hv => hv ▸ isInteger_ofInt n⟩
  obtain ⟨m, rfl⟩ := isInteger_iff.mp hi
  rw [eq_of_toInt4_ofInt h]

/-- `String(v)`. -/
def toText : Value → String
  | .undefined => "undefined"
  | .null => "null"
  | .boolean b => if b then "true" else "false"
  | .number n => n.toText
  | .string s => s
  | .object => "[object Object]"

/-- Used as a condition. -/
def truthy : Value → Bool
  | .undefined => false
  | .null => false
  | .boolean b => b
  | .number n => !(n.isNaN || n = .fin 0)
  | .string s => s ≠ ""
  | .object => true

theorem truthy_ofInt {n : Int} (h : n ≠ 0) : (Value.ofInt n).truthy = true := by
  have hne : Number.ofInt n ≠ .fin 0 := by
    intro heq
    have hz : (n : ℚ) = 0 := Number.fin.inj heq
    exact h (Rat.intCast_eq_zero_iff.mp hz)
  show (!(false || decide (Number.ofInt n = .fin 0))) = true
  rw [decide_eq_false hne]
  rfl

/-- The value after a JSON body: `JSON.stringify` writes `NaN` and the
infinities as `null`. -/
def viaJson : Value → Value
  | .number (.fin q) => .number (.fin q)
  | .number _ => .null
  | v => v

end Value

end RouteGo.Js
