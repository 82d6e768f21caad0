import RouteGo.Js.Text
import RouteGo.Lib.Uuid
import RouteGo.Utils.HttpErrors

/-!
# Requests

What a handler reads of a request: single header values and the fields of a JSON
body. `onWire` is a header value as it arrives, without the blanks and tabs
around it. An id that is pasted into the path of a request reaches the handler as
it is when it is one segment of the path (`PathSegment`); another one may lead
elsewhere, as `b1/confirm?` does.
-/

namespace RouteGo

open Js

/-- A header, if it was sent. -/
abbrev Header := Option String

def isBlank (c : Char) : Bool := c = ' ' || c = '\t'

def onWire (s : String) : String :=
  String.ofList ((s.toList.dropWhile isBlank).rdropWhile isBlank)

/-- `header || value`. -/
def Header.or (h : Header) (v : Value) : Value :=
  match h with
  | some s => if s = "" then v else .string s
  | none => v

/-- The characters that end a segment of a path, escape another, or are dropped. -/
def delimiters : List Char := ['/', '\\', '?', '#', '%', '\t', '\n', '\r']

/-- The text of one segment of a path. -/
def PathSegment (s : String) : Prop :=
  s ≠ "" ∧ s ≠ "." ∧ s ≠ ".." ∧ ∀ c ∈ s.toList, c ∉ delimiters

instance (s : String) : Decidable (PathSegment s) :=
  @instDecidableAnd _ _ inferInstance (@instDecidableAnd _ _ inferInstance
    (@instDecidableAnd _ _ inferInstance (List.decidableBAll (· ∉ delimiters) s.toList)))

/-- An id to be pasted into a path, or none. -/
structure PathId where
  text : String
  segment : text = "" ∨ PathSegment text

theorem isSpace_of_isBlank {c : Char} (h : isBlank c = true) : isSpace c = true := by
  simp only [isBlank, Bool.or_eq_true, decide_eq_true_eq] at h
  rcases h with rfl | rfl <;> rfl

/-- A text without white space around it arrives as it was sent. -/
theorem onWire_of_trim {s : String} (h : trim s = s) : onWire s = s := by
  obtain ⟨hd, hr⟩ := trimChars_eq_self_iff.mp (trim_eq_self_iff.mp h)
  have hd' : s.toList.dropWhile isBlank = s.toList := by
    rw [List.dropWhile_eq_self_iff] at hd ⊢
    exact fun hl hb => hd hl (isSpace_of_isBlank hb)
  have hr' : s.toList.rdropWhile isBlank = s.toList := by
    rw [List.rdropWhile_eq_self_iff] at hr ⊢
    exact fun hl hb => hr hl (isSpace_of_isBlank hb)
  rw [onWire, hd', hr', String.ofList_toList]

/-- What is neither a blank nor a tab arrives. -/
theorem mem_onWire_of_not_isBlank {s : String} {c : Char} (hc : c ∈ s.toList)
    (hb : ¬ isBlank c = true) : c ∈ (onWire s).toList := by
  rw [onWire, String.toList_ofList]
  rw [← List.takeWhile_append_dropWhile (p := isBlank) (l := s.toList), List.mem_append] at hc
  have hd := hc.resolve_left fun ht => hb (List.mem_takeWhile_imp ht)
  rw [← List.rdropWhile_append_rtakeWhile (p := isBlank) (l := s.toList.dropWhile isBlank),
    List.mem_append] at hd
  exact hd.resolve_right fun ht => hb (List.mem_rtakeWhile_imp ht)

/-- A header that is not blank does not arrive blank. -/
theorem trim_onWire_eq_empty_iff {s : String} : trim (onWire s) = "" ↔ trim s = "" := by
  rw [trim_eq_empty_iff, trim_eq_empty_iff]
  constructor
  · intro h c hc
    by_cases hb : isBlank c = true
    · exact isSpace_of_isBlank hb
    · exact h c (mem_onWire_of_not_isBlank hc hb)
  · intro h c hc
    rw [onWire, String.toList_ofList] at hc
    exact h c ((List.dropWhile_sublist isBlank).subset
      ((List.rdropWhile_prefix isBlank _).subset hc))

/-- An identifier arrives as it was sent. -/
theorem onWire_of_noSpace {s : String} (h : NoSpace s) : onWire s = s :=
  onWire_of_trim (trim_of_noSpace h)

/-- The text of a uuid is one. -/
theorem noSpace_of_read {s : String} {ds : List Nat} (h : Uuid.read s = some ds) : NoSpace s := by
  refine ⟨fun hs => ?_, fun c hc => ?_⟩
  · have hnone : Uuid.read "" = none := by decide
    rw [hs, hnone] at h
    cases h
  · rcases (Uuid.read_ok h).2 c hc with rfl | rfl | rfl | hd
    · decide
    · decide
    · decide
    · by_contra hs
      have hm := mem_spaceCodes ((Bool.not_eq_false _).mp hs)
      simp only [Uuid.hexValue] at hd
      simp only [spaceCodes, List.mem_cons, List.not_mem_nil, or_false] at hm
      split at hd
      · omega
      · split at hd
        · omega
        · split at hd
          · omega
          · cases hd

theorem noSpace_of_canonical {s : String} (h : Uuid.Canonical s) : NoSpace s := by
  obtain ⟨ds, hr, -⟩ := h
  exact noSpace_of_read hr

theorem noSpace_of_keep {s c : String} (h : IdColumn.uuid.keep s = some c) : NoSpace s := by
  obtain ⟨ds, hr, -⟩ := Option.map_eq_some_iff.mp h
  exact noSpace_of_read hr

end RouteGo
