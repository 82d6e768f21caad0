import RouteGo.Js.Text

/-!
# Dates

`new Date(s)` of a text in the ECMAScript date-time format, as V8 reads it: a
date, or a date, `T`, a time and `Z` or an offset. The date alone is its midnight
in UTC. Of any other text (local times, the formats left to the implementation)
the reading is a parameter. The format has no white space (`trim_of_read`), and what
stands before its `T` names the same day under any other time (`read_beforeT`).
-/

namespace RouteGo.Js.Date

def msPerDay : Int := 86400000

/-! ## Days -/

/-- The number of the first day of the year `y`, counted from 1970. -/
def dayFromYear (y : Int) : Int :=
  365 * (y - 1970) + (y - 1969) / 4 - (y - 1901) / 100 + (y - 1601) / 400

def isLeapYear (y : Int) : Bool := (y % 4 = 0 && y % 100 ≠ 0) || y % 400 = 0

/-- The days of a year before its month `m`. -/
def dayOfMonth (y : Int) (m : Nat) : Int :=
  ([0, 31, 59, 90, 120, 151, 181, 212, 243, 273, 304, 334].getD (m - 1) 0) +
    if isLeapYear y && decide (2 < m) then 1 else 0

/-- Days past the end of the month are days of the next one. -/
def makeDay (y : Int) (m d : Nat) : Int := dayFromYear y + dayOfMonth y m + (d - 1)

/-! ## The format -/

/-- `n` digits, and the rest. -/
def digits (n : Nat) (cs : List Char) : Option (Nat × List Char) :=
  let ds := cs.takeWhile Char.isDigit |>.take n
  if ds.length = n then some (digitsVal ds, cs.drop n) else none

/-- `YYYY`, or a sign and `YYYYYY`; there is no `-000000`. -/
def readYear : List Char → Option (Int × List Char)
  | '+' :: cs => (digits 6 cs).map fun r => ((r.1 : Int), r.2)
  | '-' :: cs => do
    let (y, rest) ← digits 6 cs
    if y = 0 then none else some (-(y : Int), rest)
  | cs => (digits 4 cs).map fun r => ((r.1 : Int), r.2)

/-- `-MM` or nothing. -/
def readMonth : List Char → Option (Nat × List Char)
  | [] => some (1, [])
  | '-' :: cs => do
    let (m, rest) ← digits 2 cs
    if 1 ≤ m ∧ m ≤ 12 then some (m, rest) else none
  | _ => none

/-- `-DD` or nothing. -/
def readDay : List Char → Option Nat
  | [] => some 1
  | '-' :: cs => do
    let (d, rest) ← digits 2 cs
    if 1 ≤ d ∧ d ≤ 31 ∧ rest = [] then some d else none
  | _ => none

/-- `YYYY`, `YYYY-MM` or `YYYY-MM-DD`, as a number of days. -/
def readDate (cs : List Char) : Option Int := do
  let (y, rest) ← readYear cs
  let (m, rest) ← readMonth rest
  let d ← readDay rest
  return makeDay y m d

/-- `ReadMilliseconds` of V8: nine digits count, leading zeros not among them. -/
def milliseconds (ds : List Char) : Nat :=
  digitsVal ((ds.dropWhile (· = '0')).take 9) * 1000 / 10 ^ min ds.length 9

/-- `:mm` -/
def readMinute : List Char → Option (Nat × List Char)
  | ':' :: cs => digits 2 cs
  | _ => none

/-- `:ss`, `:ss.s…` or nothing; the seconds and the digits after the point. -/
def readSeconds : List Char → Option (Nat × List Char × List Char)
  | ':' :: cs => do
    let (s, rest) ← digits 2 cs
    match rest with
    | '.' :: rest =>
      let ds := rest.takeWhile Char.isDigit
      if ds = [] then none else some (s, ds, rest.dropWhile Char.isDigit)
    | _ => some (s, [], rest)
  | cs => some (0, [], cs)

/-- `HH:mm` or `HHmm`, in minutes. -/
def readHourMinute (cs : List Char) : Option Nat := do
  let (h, rest) ← digits 2 cs
  let (m, rest) ← digits 2 (match rest with | ':' :: rest => rest | _ => rest)
  if h ≤ 23 ∧ m ≤ 59 ∧ rest = [] then some (h * 60 + m) else none

/-- `Z` or an offset, in milliseconds. -/
def readOffset : List Char → Option Int
  | ['Z'] => some 0
  | ['z'] => some 0
  | '+' :: cs => (readHourMinute cs).map fun m : Nat => (m : Int) * 60000
  | '-' :: cs => (readHourMinute cs).map fun m : Nat => -((m : Int) * 60000)
  | _ => none

/-- A time of day and its offset, in milliseconds; 24:00 is the end of the day. -/
def readTime (cs : List Char) : Option (Int × Int) := do
  let (h, rest) ← digits 2 cs
  let (m, rest) ← readMinute rest
  let (s, ds, rest) ← readSeconds rest
  let offset ← readOffset rest
  if m ≤ 59 ∧ s ≤ 59 ∧ (h ≤ 23 ∨ (h = 24 ∧ m = 0 ∧ s = 0 ∧ ds.all (· = '0'))) then
    some (((h * 60 + m) * 60 + s) * 1000 + milliseconds ds, offset)
  else none

/-- What a text of the format says: a day, the time on it and how far that time
is ahead of UTC. -/
structure Fields where
  day : Int
  time : Int
  offset : Int
  deriving DecidableEq, Repr

def notT (c : Char) : Bool := c ≠ 'T'

def readChars (cs : List Char) : Option Fields := do
  let day ← readDate (cs.takeWhile notT)
  match cs.dropWhile notT with
  | _ :: rest => do
    let (time, offset) ← readTime rest
    return ⟨day, time, offset⟩
  | [] => return ⟨day, 0, 0⟩

def read (s : String) : Option Fields := readChars s.toList

namespace Fields

def instant (f : Fields) : Int := f.day * msPerDay + f.time - f.offset

/-- In UTC the day is still the one the text names. -/
def OnItsDay (f : Fields) : Prop := 0 ≤ f.time - f.offset ∧ f.time - f.offset < msPerDay

end Fields

/-- `none` is the invalid date. -/
def timeClip (t : Int) : Option Int := if t.natAbs ≤ 8640000000000000 then some t else none

/-- `new Date(s).getTime()`; `other` reads the texts that are not of the format. -/
def parse (other : String → Option Int) (s : String) : Option Int :=
  match read s with
  | some f => timeClip f.instant
  | none => other s

/-- `new Date(v).getTime()` -/
def ofValue (other : String → Option Int) : Value → Option Int
  | .undefined => none
  | .null => some 0
  | .boolean b => some (if b then 1 else 0)
  | .number (.fin q) => timeClip (q.num.tdiv q.den)
  | .number _ => none
  | .string s => parse other s
  | .object => other Value.object.toText

example : parse (fun _ => none) "2026-09-20T01:00:00+05:30" = some 1789846200000 := by
  decide +kernel

/-! ## No white space -/

/-- No character is white space. -/
def Plain (cs : List Char) : Prop := ∀ c ∈ cs, isSpace c = false

section
variable {n v : Nat} {m : Nat} {y o t : Int} {cs rest ds : List Char}

theorem plain_nil : Plain [] := fun _ hc => absurd hc List.not_mem_nil

theorem Plain.cons {c : Char} (hc : isSpace c = false) (h : Plain cs) : Plain (c :: cs) :=
  List.forall_mem_cons.mpr ⟨hc, h⟩

theorem Plain.append (h : Plain cs) (h' : Plain rest) : Plain (cs ++ rest) :=
  List.forall_mem_append.mpr ⟨h, h'⟩

theorem plain_takeWhile (cs : List Char) : Plain (cs.takeWhile Char.isDigit) :=
  fun _ hc => isSpace_of_isDigit (List.mem_takeWhile_imp hc)

theorem plain_of_digits (h : digits n cs = some (v, rest)) (hr : Plain rest) : Plain cs := by
  simp only [digits] at h
  split at h
  · next hlen =>
    cases h
    have htake : (cs.takeWhile Char.isDigit).take n = cs.take n := by
      have hp : (cs.takeWhile Char.isDigit).take n <+: cs :=
        (List.take_prefix _ _).trans (List.takeWhile_prefix _)
      rw [List.prefix_iff_eq_take.mp hp, hlen]
    rw [← List.take_append_drop n cs, ← htake]
    exact Plain.append (fun c hc => plain_takeWhile cs c (List.mem_of_mem_take hc)) hr
  · cases h

theorem plain_of_readYear (h : readYear cs = some (y, rest)) (hr : Plain rest) : Plain cs := by
  unfold readYear at h
  split at h
  · simp only [Option.map_eq_some_iff, Prod.mk.injEq, Prod.exists] at h
    obtain ⟨v, r, hd, -, rfl⟩ := h
    exact (plain_of_digits hd hr).cons (by decide)
  · simp only [bind, Option.bind_eq_some_iff, Prod.exists] at h
    obtain ⟨v, r, hd, h⟩ := h
    split at h
    · cases h
    · cases h
      exact (plain_of_digits hd hr).cons (by decide)
  · simp only [Option.map_eq_some_iff, Prod.mk.injEq, Prod.exists] at h
    obtain ⟨v, r, hd, -, rfl⟩ := h
    exact plain_of_digits hd hr

theorem plain_of_readMonth (h : readMonth cs = some (m, rest)) (hr : Plain rest) : Plain cs := by
  unfold readMonth at h
  split at h
  · exact plain_nil
  · simp only [bind, Option.bind_eq_some_iff, Prod.exists] at h
    obtain ⟨v, r, hd, h⟩ := h
    split at h
    · cases h
      exact (plain_of_digits hd hr).cons (by decide)
    · cases h
  · cases h

theorem plain_of_readDay (h : readDay cs = some m) : Plain cs := by
  unfold readDay at h
  split at h
  · exact plain_nil
  · simp only [bind, Option.bind_eq_some_iff, Prod.exists] at h
    obtain ⟨v, r, hd, h⟩ := h
    split at h
    · next hc =>
      obtain ⟨-, -, rfl⟩ := hc
      exact (plain_of_digits hd plain_nil).cons (by decide)
    · cases h
  · cases h

theorem plain_of_readDate (h : readDate cs = some y) : Plain cs := by
  simp only [readDate, bind, Option.bind_eq_some_iff, Prod.exists] at h
  obtain ⟨y, r, hy, m, r', hm, d, hd, -⟩ := h
  exact plain_of_readYear hy (plain_of_readMonth hm (plain_of_readDay hd))

theorem plain_of_readMinute (h : readMinute cs = some (m, rest)) (hr : Plain rest) : Plain cs := by
  unfold readMinute at h
  split at h
  · exact (plain_of_digits h hr).cons (by decide)
  · cases h

theorem plain_of_readSeconds {s : Nat} (h : readSeconds cs = some (s, ds, rest)) (hr : Plain rest) :
    Plain cs := by
  unfold readSeconds at h
  split at h
  · simp only [bind, Option.bind_eq_some_iff, Prod.exists] at h
    obtain ⟨v, r, hd, h⟩ := h
    refine (plain_of_digits hd ?_).cons (by decide)
    split at h
    · next r =>
      split at h
      · cases h
      · cases h
        rw [← List.takeWhile_append_dropWhile (p := Char.isDigit) (l := r)]
        exact ((plain_takeWhile r).append hr).cons (by decide)
    · cases h
      exact hr
  · cases h
    exact hr

theorem plain_of_readHourMinute (h : readHourMinute cs = some m) : Plain cs := by
  simp only [readHourMinute, bind, Option.bind_eq_some_iff, Prod.exists] at h
  obtain ⟨v, r, hd, w, r', hd', h⟩ := h
  split at h
  · next hc =>
    obtain ⟨-, -, rfl⟩ := hc
    have hr := plain_of_digits hd' plain_nil
    refine plain_of_digits hd ?_
    split at hr
    · exact hr.cons (by decide)
    · exact hr
  · cases h

theorem plain_of_readOffset (h : readOffset cs = some o) : Plain cs := by
  unfold readOffset at h
  split at h
  · exact plain_nil.cons (by decide)
  · exact plain_nil.cons (by decide)
  · obtain ⟨m, hm, -⟩ := Option.map_eq_some_iff.mp h
    exact (plain_of_readHourMinute hm).cons (by decide)
  · obtain ⟨m, hm, -⟩ := Option.map_eq_some_iff.mp h
    exact (plain_of_readHourMinute hm).cons (by decide)
  · cases h

theorem plain_of_readTime (h : readTime cs = some (t, o)) : Plain cs := by
  simp only [readTime, bind, Option.bind_eq_some_iff, Prod.exists] at h
  obtain ⟨v, r, hd, w, r', hm, s, ds, r'', hs, o', ho, -⟩ := h
  have hsec := plain_of_readSeconds hs (plain_of_readOffset ho)
  exact plain_of_digits hd (plain_of_readMinute hm hsec)

theorem plain_of_readChars {f : Fields} (h : readChars cs = some f) : Plain cs := by
  simp only [readChars, bind, Option.bind_eq_some_iff] at h
  obtain ⟨day, hd, h⟩ := h
  rw [← List.takeWhile_append_dropWhile (p := notT) (l := cs)]
  refine (plain_of_readDate hd).append ?_
  split at h
  · next c rest heq =>
    simp only [Option.bind_eq_some_iff, Prod.exists] at h
    obtain ⟨t, o, ht, -⟩ := h
    have hc : c = 'T' := by
      have hhead := List.head?_dropWhile_not notT cs
      rw [heq] at hhead
      simpa [notT] using hhead
    subst hc
    rw [heq]
    exact (plain_of_readTime ht).cons (by decide)
  · next heq =>
    rw [heq]
    exact plain_nil

end

theorem trim_of_read {s : String} {f : Fields} (h : read s = some f) : trim s = s := by
  rw [trim, trimChars_of_noSpace (plain_of_readChars h), String.ofList_toList]

/-! ## The date before the `T` -/

/-- A date alone names the day it is read as. -/
theorem onItsDay_of_date {s : String} {f : Fields} (h : read s = some f) (hT : 'T' ∉ s.toList) :
    f.OnItsDay := by
  have hdrop : s.toList.dropWhile notT = [] := by
    rw [List.dropWhile_eq_nil_iff]
    intro c hc
    exact decide_eq_true fun heq => hT (heq ▸ hc)
  simp only [read, readChars, hdrop, bind, Option.bind_eq_some_iff] at h
  obtain ⟨day, -, h⟩ := h
  cases h
  show (0 : Int) ≤ 0 - 0 ∧ (0 : Int) - 0 < msPerDay
  decide

theorem readChars_date {cs ts : List Char} {f : Fields} {t o : Int} (h : readChars cs = some f)
    (ht : readTime ts = some (t, o)) :
    readChars (cs.takeWhile notT ++ 'T' :: ts) = some ⟨f.day, t, o⟩ := by
  have hnoT : ∀ c ∈ cs.takeWhile notT, notT c = true :=
    fun c hc => List.mem_takeWhile_imp hc
  have htake : (cs.takeWhile notT ++ 'T' :: ts).takeWhile notT = cs.takeWhile notT := by
    rw [List.takeWhile_append_of_pos hnoT, List.takeWhile_cons_of_neg (by decide), List.append_nil]
  have hdrop : (cs.takeWhile notT ++ 'T' :: ts).dropWhile notT = 'T' :: ts := by
    rw [List.dropWhile_append_of_pos hnoT, List.dropWhile_cons_of_neg (by decide)]
  simp only [readChars, bind, Option.bind_eq_some_iff] at h
  obtain ⟨day, hd, h⟩ := h
  have hday : f.day = day := by
    split at h
    · simp only [Option.bind_eq_some_iff, Prod.exists] at h
      obtain ⟨t', o', -, h⟩ := h
      cases h
      rfl
    · cases h
      rfl
  rw [readChars, htake, hdrop, hd, hday]
  simp only [bind, Option.bind_some, ht, pure]

/-- `s.split("T")[0]` -/
def beforeT (s : String) : String := String.ofList (s.toList.takeWhile notT)

/-- A text of the format, its time rewritten. -/
theorem read_beforeT {s w : String} {ts : List Char} {f : Fields} {t o : Int} (h : read s = some f)
    (hw : w.toList = 'T' :: ts) (ht : readTime ts = some (t, o)) :
    read (beforeT s ++ w) = some ⟨f.day, t, o⟩ := by
  rw [read, beforeT, String.toList_append, String.toList_ofList, hw]
  exact readChars_date h ht

theorem readTime_midnight : readTime "00:00:00.000Z".toList = some (0, 0) := by decide +kernel

theorem readTime_lastMillisecond :
    readTime "23:59:59.999Z".toList = some (msPerDay - 1, 0) := by decide +kernel

end RouteGo.Js.Date
