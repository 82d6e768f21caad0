import RouteGo.Js.Number
import Mathlib.Data.List.DropRight

/-!
# JavaScript strings

`trim` and the coercions of a string to a number. `trim` is idempotent
(`trim_trim`) and leaves a string without white space alone (`trim_of_noSpace`).
-/

namespace RouteGo.Js

/-- White space and line terminators. -/
def isSpace (c : Char) : Bool :=
  c ∈ ['\t', '\n', '\x0b', '\x0c', '\r', ' ', '\u00a0', '\u1680', '\u2000', '\u2001', '\u2002',
    '\u2003', '\u2004', '\u2005', '\u2006', '\u2007', '\u2008', '\u2009', '\u200a', '\u2028',
    '\u2029', '\u202f', '\u205f', '\u3000', '\ufeff']

def trimChars (cs : List Char) : List Char := (cs.dropWhile isSpace).rdropWhile isSpace

/-- `s.trim()`. -/
def trim (s : String) : String := String.ofList (trimChars s.toList)

/-- Not empty and free of white space, as the identifiers the databases make. -/
def NoSpace (s : String) : Prop := s ≠ "" ∧ ∀ c ∈ s.toList, isSpace c = false

instance (s : String) : Decidable (NoSpace s) :=
  @instDecidableAnd _ _ inferInstance (List.decidableBAll (isSpace · = false) s.toList)

theorem trimChars_of_noSpace {cs : List Char} (h : ∀ c ∈ cs, isSpace c = false) :
    trimChars cs = cs := by
  have hd : cs.dropWhile isSpace = cs := by
    rw [List.dropWhile_eq_self_iff]
    intro hl
    simp [h cs[0] (List.getElem_mem hl)]
  have hr : cs.rdropWhile isSpace = cs := by
    rw [List.rdropWhile_eq_self_iff]
    intro hl
    simp [h _ (List.getLast_mem hl)]
  rw [trimChars, hd, hr]

theorem trim_of_noSpace {s : String} (h : NoSpace s) : trim s = s := by
  rw [trim, trimChars_of_noSpace h.2, String.ofList_toList]

/-- What is left starts with no space, since it starts as `dropWhile` left it. -/
theorem trimChars_trimChars (cs : List Char) : trimChars (trimChars cs) = trimChars cs := by
  have hd : (trimChars cs).dropWhile isSpace = trimChars cs := by
    rw [List.dropWhile_eq_self_iff]
    intro hl
    have hp : trimChars cs <+: cs.dropWhile isSpace := List.rdropWhile_prefix isSpace _
    have hl' : 0 < (cs.dropWhile isSpace).length := Nat.lt_of_lt_of_le hl hp.length_le
    rw [hp.getElem hl]
    exact List.dropWhile_get_zero_not isSpace cs hl'
  rw [trimChars, hd, trimChars, List.rdropWhile_idempotent]

theorem trim_trim (s : String) : trim (trim s) = trim s := by
  rw [trim, trim, String.toList_ofList, trimChars_trimChars]

/-- A text that trimming leaves alone has no space at either end. -/
theorem trimChars_eq_self_iff {cs : List Char} :
    trimChars cs = cs ↔ cs.dropWhile isSpace = cs ∧ cs.rdropWhile isSpace = cs := by
  constructor
  · intro h
    have hlen : cs.length ≤ (cs.dropWhile isSpace).length := by
      conv_lhs => rw [← h, trimChars]
      exact (List.rdropWhile_prefix isSpace _).length_le
    have hd : cs.dropWhile isSpace = cs := (List.dropWhile_suffix isSpace).eq_of_length_le hlen
    rw [trimChars, hd] at h
    exact ⟨hd, h⟩
  · rintro ⟨hd, hr⟩
    rw [trimChars, hd, hr]

theorem trim_eq_self_iff {s : String} : trim s = s ↔ trimChars s.toList = s.toList := by
  constructor
  · intro h
    rw [← String.toList_ofList (l := trimChars s.toList)]
    exact congrArg String.toList h
  · intro h
    rw [trim, h, String.ofList_toList]

theorem trimChars_eq_nil_iff {cs : List Char} : trimChars cs = [] ↔ ∀ c ∈ cs, isSpace c = true := by
  rw [trimChars, List.rdropWhile_eq_nil_iff]
  constructor
  · intro h c hc
    rw [← List.takeWhile_append_dropWhile (p := isSpace) (l := cs), List.mem_append] at hc
    exact hc.elim List.mem_takeWhile_imp (h c)
  · exact fun h c hc => h c ((List.dropWhile_sublist isSpace).subset hc)

theorem trim_eq_empty_iff {s : String} : trim s = "" ↔ ∀ c ∈ s.toList, isSpace c = true := by
  rw [trim, ← trimChars_eq_nil_iff, ← String.toList_eq_nil_iff, String.toList_ofList]

theorem NoSpace.append {s t : String} (hs : NoSpace s) (ht : NoSpace t) : NoSpace (s ++ t) := by
  refine ⟨fun h => hs.1 ?_, fun c hc => ?_⟩
  · have hl : (s ++ t).toList = [] := by rw [h]; rfl
    rw [String.toList_append, List.append_eq_nil_iff] at hl
    exact String.toList_eq_nil_iff.mp hl.1
  · rw [String.toList_append, List.mem_append] at hc
    exact hc.elim (hs.2 c) (ht.2 c)

/-- The trimmed text of a string that is not blank: what is left of `v` unless
`!v || typeof v !== "string" || v.trim().length === 0`. -/
def Value.trimmed : Value → Option String
  | .string s => if trim s = "" then none else some (trim s)
  | _ => none

theorem Value.trimmed_eq_some {v : Value} {t : String} (h : v.trimmed = some t) :
    ∃ s, v = .string s ∧ t = trim s ∧ t ≠ "" := by
  cases v with
  | string s =>
    simp only [Value.trimmed] at h
    split at h
    · cases h
    · next hs => cases h; exact ⟨s, rfl, rfl, hs⟩
  | _ => cases h

theorem Value.trim_of_trimmed {v : Value} {t : String} (h : v.trimmed = some t) :
    trim t = t ∧ t ≠ "" := by
  obtain ⟨s, -, rfl, hne⟩ := Value.trimmed_eq_some h
  exact ⟨trim_trim s, hne⟩

/-- The code points of `isSpace`. -/
def spaceCodes : List Nat :=
  [0x9, 0xa, 0xb, 0xc, 0xd, 0x20, 0xa0, 0x1680, 0x2000, 0x2001, 0x2002, 0x2003, 0x2004, 0x2005,
    0x2006, 0x2007, 0x2008, 0x2009, 0x200a, 0x2028, 0x2029, 0x202f, 0x205f, 0x3000, 0xfeff]

theorem mem_spaceCodes {c : Char} (h : isSpace c = true) : c.toNat ∈ spaceCodes := by
  have hm := List.mem_map_of_mem (f := Char.toNat) (of_decide_eq_true h)
  exact hm

theorem isSpace_of_isDigit {c : Char} (h : c.isDigit = true) : isSpace c = false := by
  by_contra hs
  have hm := mem_spaceCodes ((Bool.not_eq_false _).mp hs)
  have hlo : 48 ≤ c.toNat := by
    simp only [Char.isDigit, Bool.and_eq_true, decide_eq_true_eq] at h
    exact h.1
  have hhi : c.toNat ≤ 57 := by
    simp only [Char.isDigit, Bool.and_eq_true, decide_eq_true_eq] at h
    exact h.2
  simp only [spaceCodes, List.mem_cons, List.not_mem_nil, or_false] at hm
  omega

/-! ## Coercions to a number -/

def digitsVal (ds : List Char) : Nat := ds.foldl (fun n c => 10 * n + (c.toNat - 48)) 0

/-- A sign and the rest. -/
def splitSign : List Char → Bool × List Char
  | '-' :: cs => (true, cs)
  | '+' :: cs => (false, cs)
  | cs => (false, cs)

def signed (neg : Bool) (q : ℚ) : ℚ := if neg then -q else q

/-- `e` followed by digits, at the head of the rest of a decimal literal. -/
def exponent (cs : List Char) : Int × List Char :=
  match cs with
  | c :: rest =>
    if c = 'e' ∨ c = 'E' then
      let (neg, ds) := splitSign rest
      match ds.takeWhile Char.isDigit with
      | [] => (0, cs)
      | n => (if neg then -(digitsVal n : Int) else digitsVal n, ds.dropWhile Char.isDigit)
    else (0, cs)
  | [] => (0, cs)

/-- The longest decimal literal at the head, and the rest. -/
def decimal (cs : List Char) : Option (ℚ × List Char) :=
  let whole := cs.takeWhile Char.isDigit
  let (frac, rest) := match cs.dropWhile Char.isDigit with
    | '.' :: r => (r.takeWhile Char.isDigit, r.dropWhile Char.isDigit)
    | r => ([], r)
  if whole = [] ∧ frac = [] then none
  else
    let (e, rest) := exponent rest
    some ((digitsVal (whole ++ frac) : ℚ) * 10 ^ (e - frac.length), rest)

/-- The number a text starts with, as `parseFloat` reads it, and the rest. -/
def floatAt (cs : List Char) : Number × List Char :=
  let (neg, body) := splitSign cs
  if "Infinity".toList.isPrefixOf body then (if neg then .negInf else .posInf, body.drop 8)
  else match decimal body with
    | some (q, rest) => (.fin (signed neg q), rest)
    | none => (.nan, cs)

/-- `parseFloat(s)`. -/
def parseFloat (s : String) : Number := (floatAt (s.toList.dropWhile isSpace)).1

/-- `parseInt(s, 10)`. -/
def parseInt (s : String) : Number :=
  let (neg, ds) := splitSign (s.toList.dropWhile isSpace)
  match ds.takeWhile Char.isDigit with
  | [] => .nan
  | n => .ofNat neg (digitsVal n)

/-- What is read of a text is no fraction. -/
theorem isWhole_parseInt (s : String) : (parseInt s).isWhole = true := by
  unfold parseInt
  obtain ⟨neg, ds⟩ := splitSign (s.toList.dropWhile isSpace)
  cases hn : ds.takeWhile Char.isDigit with
  | nil => simp only [hn]; rfl
  | cons c cs => simp only [hn, Number.isWhole_ofNat]

/-- The value of a digit in base 16 and below. -/
def digitVal (c : Char) : Nat :=
  if c.isDigit then c.toNat - 48 else if c.toNat < 97 then c.toNat - 55 else c.toNat - 87

/-- The digits of a literal in base `b`, all of it. -/
def radixVal (b : Nat) (isDigit : Char → Bool) (ds : List Char) : Option Nat :=
  if ds ≠ [] ∧ ds.all isDigit then some (ds.foldl (fun n c => b * n + digitVal c) 0) else none

def isHexDigit (c : Char) : Bool :=
  c.isDigit || decide ('a' ≤ c ∧ c ≤ 'f') || decide ('A' ≤ c ∧ c ≤ 'F')

/-- `0x`, `0o` and `0b` literals, which have no sign. -/
def radixLiteral : List Char → Option Nat
  | '0' :: 'x' :: ds | '0' :: 'X' :: ds => radixVal 16 isHexDigit ds
  | '0' :: 'o' :: ds | '0' :: 'O' :: ds => radixVal 8 (fun c => decide ('0' ≤ c ∧ c ≤ '7')) ds
  | '0' :: 'b' :: ds | '0' :: 'B' :: ds => radixVal 2 (fun c => decide (c = '0' ∨ c = '1')) ds
  | _ => none

/-- `Number(s)`: the whole of the trimmed text, empty being zero. -/
def stringToNumber (s : String) : Number :=
  match trimChars s.toList with
  | [] => .fin 0
  | cs => match radixLiteral cs with
    | some n => .ofNat false n
    | none => match floatAt cs with
      | (n, []) => n
      | _ => .nan

example : stringToNumber " 0x1F " = .ofInt 31 ∧ parseInt "9007199254740993" =
    parseInt "9007199254740992" := by
  decide +kernel

namespace Value

/-- `Number(v)`. -/
def toNumber : Value → Number
  | .undefined => .nan
  | .null => .fin 0
  | .boolean b => .fin (if b then 1 else 0)
  | .number n => n
  | .string s => stringToNumber s
  | .object => .nan

/-- `typeof v === "number" ? v : parseInt(v, 10)`. -/
def toSeq : Value → Number
  | .number n => n
  | .string s => parseInt s
  | _ => .nan

/-- `typeof v === "number" ? v : parseFloat(v)`. -/
def toAmount : Value → Number
  | .number n => n
  | .string s => parseFloat s
  | _ => .nan

/-- `new Decimal(v.toString())`; `none` is an argument it throws on. -/
def toDecimal : Value → Option Number
  | .number n => some n
  | .string s => match floatAt s.toList with
    | (.nan, _) => none
    | (n, []) => some n
    | _ => none
  | _ => none

end Value

end RouteGo.Js
