import Mathlib.Data.List.Basic

/-!
# Request routers

A router is a list of routes, tried in order; a pattern is a list of literal
segments, compared without regard to case, and of parameters. A path is the list
of its segments, none of which has an escaped character, without a final slash; a
segment is empty between two slashes. A proxy makes one slash of several (`collapse`).
-/

universe u v

inductive Seg where
  | lit (text : String)
  | param
  deriving DecidableEq

/-- The texts differ in the case of ASCII letters at most. -/
def sameText (s t : String) : Bool := s.toList.map Char.toLower = t.toList.map Char.toLower

theorem sameText_refl (s : String) : sameText s s = true := by simp [sameText]

/-- The values of the parameters, when the path matches. -/
def matchPath : List Seg → List String → Option (List String)
  | [], [] => some []
  | .lit s :: ps, x :: xs => if sameText s x then matchPath ps xs else none
  | .param :: ps, x :: xs => if x = "" then none else (matchPath ps xs).map (x :: ·)
  | _, _ => none

structure Route (μ : Type u) (ε : Type v) where
  method : μ
  pattern : List Seg
  handler : List String → ε

/-- The path without its empty segments. -/
def collapse (path : List String) : List String := path.filter (· ≠ "")

variable {μ : Type u} {ε : Type v} [DecidableEq μ]

def Route.run (r : Route μ ε) (m : μ) (path : List String) : Option ε :=
  if r.method = m then (matchPath r.pattern path).map r.handler else none

def firstMatch (routes : List (Route μ ε)) (m : μ) (path : List String) : Option ε :=
  routes.findSome? fun r => r.run m path

/-- `use(mount, router)`: the router sees the rest of a path under `mount`. -/
def mounted (mount : String) (routes : List (Route μ ε)) (m : μ) : List String → Option ε
  | x :: xs => if sameText mount x then firstMatch routes m xs else none
  | [] => none

theorem Route.run_eq_some {r : Route μ ε} {m : μ} {path : List String} {e : ε} :
    r.run m path = some e ↔ r.method = m ∧ ∃ ps, matchPath r.pattern path = some ps ∧
      r.handler ps = e := by
  unfold Route.run
  split
  · next h => simp [h]
  · next h => simp [h]

/-- What a router runs is the handler of one of its routes. -/
theorem exists_of_firstMatch {routes : List (Route μ ε)} {m : μ} {path : List String} {e : ε}
    (h : firstMatch routes m path = some e) :
    ∃ r ∈ routes, r.method = m ∧ ∃ ps, matchPath r.pattern path = some ps ∧ r.handler ps = e := by
  obtain ⟨r, hr, he⟩ := List.exists_of_findSome?_eq_some h
  exact ⟨r, hr, Route.run_eq_some.mp he⟩

theorem exists_of_mounted {mount : String} {routes : List (Route μ ε)} {m : μ} {path : List String}
    {e : ε} (h : mounted mount routes m path = some e) :
    ∃ rest, firstMatch routes m rest = some e := by
  cases path with
  | nil => cases h
  | cons x xs =>
    simp only [mounted] at h
    split at h
    · exact ⟨xs, h⟩
    · cases h
