import RouteGo.Lib.LTS
import Mathlib.Order.WithBot

/-!
# Reservations

A `Calendar` says who holds each unit and until when; `⊤` is for good, and what has
run out is nobody's. A request comes at an instant, by which units may have lapsed:
`reserve` takes free units until a deadline, `keep` takes for good units that are free
or already its holder's, `free` gives back all a holder has. What is held stays held
until its deadline by whoever holds it, unless that holder is freed (`held_of_run`).
-/

universe u v w

structure Calendar (τ : Type u) [LinearOrder τ] (ι : Type v) (κ : Type w) where
  now : τ
  /-- Who holds the unit, and until when. -/
  holder : κ → Option (ι × WithTop τ)
  current : ∀ k x, holder k = some x → (now : WithTop τ) < x.2

namespace Calendar

variable {τ : Type u} [LinearOrder τ] {ι : Type v} {κ : Type w}

theorem ext_holder {c c' : Calendar τ ι κ} (hn : c.now = c'.now)
    (h : ∀ k x, c.holder k = some x ↔ c'.holder k = some x) : c = c' := by
  obtain ⟨now, holder, hcur⟩ := c
  obtain ⟨now', holder', hcur'⟩ := c'
  obtain rfl : now = now' := hn
  obtain rfl : holder = holder' := funext fun k => Option.ext (h k)
  rfl

/-- What has run out by `t` is free. -/
def lapse (c : Calendar τ ι κ) (t : τ) : Calendar τ ι κ where
  now := t
  holder k := (c.holder k).filter fun x => decide ((t : WithTop τ) < x.2)
  current k x h := by simpa using (Option.filter_eq_some_iff.mp h).2

open Classical in
/-- `i` takes the units of `S` until `e`. -/
noncomputable def take (c : Calendar τ ι κ) (i : ι) (S : Set κ) (e : WithTop τ)
    (he : (c.now : WithTop τ) < e) : Calendar τ ι κ where
  now := c.now
  holder k := if k ∈ S then some (i, e) else c.holder k
  current k x h := by
    split at h
    · cases h; exact he
    · exact c.current k x h

open Classical in
/-- `i` gives back what it holds. -/
noncomputable def drop (c : Calendar τ ι κ) (i : ι) : Calendar τ ι κ where
  now := c.now
  holder k := (c.holder k).filter fun x => decide (x.1 ≠ i)
  current k x h := c.current k x (Option.filter_eq_some_iff.mp h).1

section
variable {c : Calendar τ ι κ} {t : τ} {i : ι} {S : Set κ} {e : WithTop τ} {k : κ}
  {x : ι × WithTop τ}

theorem lapse_holder : (c.lapse t).holder k = some x ↔ c.holder k = some x ∧
    (t : WithTop τ) < x.2 := by
  simp [lapse, Option.filter_eq_some_iff]

theorem take_holder {he : (c.now : WithTop τ) < e} : (c.take i S e he).holder k = some x ↔
    (k ∈ S ∧ x = (i, e)) ∨ (k ∉ S ∧ c.holder k = some x) := by
  by_cases hk : k ∈ S
  · simp [take, hk, eq_comm]
  · simp [take, hk]

theorem drop_holder : (c.drop i).holder k = some x ↔ c.holder k = some x ∧ x.1 ≠ i := by
  simp [drop, Option.filter_eq_some_iff]

/-- Nothing runs out at once. -/
theorem lapse_now : c.lapse c.now = c :=
  ext_holder rfl fun _ _ => lapse_holder.trans (and_iff_left_of_imp fun h => c.current _ _ h)

end

/-! ## Requests -/

inductive Request (τ : Type u) (ι : Type v) (κ : Type w) where
  | look
  | reserve (i : ι) (S : Set κ) (e : τ)
  | keep (i : ι) (S : Set κ)
  | free (i : ι)

/-- A request that comes at `t`. -/
inductive Step (c : Calendar τ ι κ) : τ × Request τ ι κ → Calendar τ ι κ → Prop
  | look {t} (h : c.now ≤ t) : Step c (t, .look) (c.lapse t)
  | reserve {t i S e} (h : c.now ≤ t) (he : t < e) (hf : ∀ k ∈ S, (c.lapse t).holder k = none) :
      Step c (t, .reserve i S e) ((c.lapse t).take i S e (WithTop.coe_lt_coe.mpr he))
  | keep {t i S} (h : c.now ≤ t) (hf : ∀ k ∈ S, ∀ x, (c.lapse t).holder k = some x → x.1 = i) :
      Step c (t, .keep i S) ((c.lapse t).take i S ⊤ (WithTop.coe_lt_top t))
  | free {t i} (h : c.now ≤ t) : Step c (t, .free i) ((c.lapse t).drop i)

/-- All units are free at first. -/
def system (τ : Type u) [LinearOrder τ] (ι : Type v) (κ : Type w) :
    LTS (Calendar τ ι κ) (τ × Request τ ι κ) := ⟨fun c => ∀ k, c.holder k = none, Step⟩

variable {c c' : Calendar τ ι κ} {l : τ × Request τ ι κ} {t : τ} {r : Request τ ι κ} {i : ι} {k : κ}
  {e : WithTop τ}

/-- What has lapsed when a request comes may as well have lapsed before. -/
theorem Step.of_lapse (h : c.now ≤ t) (hs : Step (c.lapse t) (t, r) c') : Step c (t, r) c' := by
  have hll : (c.lapse t).lapse t = c.lapse t := lapse_now (c := c.lapse t)
  cases hs with
  | look _ => rw [hll]; exact .look h
  | reserve _ he hf => simp only [hll] at hf ⊢; exact .reserve h he hf
  | keep _ hf => simp only [hll] at hf ⊢; exact .keep h hf
  | free _ => rw [hll]; exact .free h

theorem Step.now_le (h : Step c l c') : c.now ≤ c'.now := by
  cases h <;> assumption

/-- `i` has the unit until `e` at least, or `e` is past. -/
def Has (c : Calendar τ ι κ) (i : ι) (k : κ) (e : WithTop τ) : Prop :=
  (∃ e', e ≤ e' ∧ c.holder k = some (i, e')) ∨ e ≤ c.now

/-- A unit is lost by its deadline or by being freed, and taken by nobody else. -/
theorem Step.has (h : Step c l c') (hl : l.2 ≠ .free i) (hk : c.Has i k e) : c'.Has i k e := by
  rcases hk with ⟨e', he, hk⟩ | hk
  · by_cases hlt : (c'.now : WithTop τ) < e'
    · left
      cases h with
      | look h => exact ⟨e', he, lapse_holder.mpr ⟨hk, hlt⟩⟩
      | @reserve t j S d h hd hf =>
        have hheld : (c.lapse t).holder k = some (i, e') := lapse_holder.mpr ⟨hk, hlt⟩
        by_cases hS : k ∈ S
        · -- a held unit is not given to a reservation
          rw [hf k hS] at hheld
          cases hheld
        · exact ⟨e', he, take_holder.mpr (.inr ⟨hS, hheld⟩)⟩
      | @keep t j S h hf =>
        have hheld : (c.lapse t).holder k = some (i, e') := lapse_holder.mpr ⟨hk, hlt⟩
        by_cases hS : k ∈ S
        · obtain rfl : i = j := hf k hS _ hheld
          exact ⟨⊤, le_top, take_holder.mpr (.inl ⟨hS, rfl⟩)⟩
        · exact ⟨e', he, take_holder.mpr (.inr ⟨hS, hheld⟩)⟩
      | @free t j h =>
        refine ⟨e', he, drop_holder.mpr ⟨lapse_holder.mpr ⟨hk, hlt⟩, ?_⟩⟩
        rintro rfl
        exact hl rfl
    · exact .inr (he.trans (not_lt.mp hlt))
  · exact .inr (hk.trans (WithTop.coe_le_coe.mpr h.now_le))

/-- **A holder keeps what it holds** until its deadline, as long as it is not freed. -/
theorem held_of_run (h : (system τ ι κ).Run (fun _ l => l.2 ≠ .free i) c c')
    (hk : c.holder k = some (i, e)) : c'.Has i k e :=
  h.keep (P := fun c => c.Has i k e) (fun _ _ _ hp hl hs => Step.has hs hl hp)
    (.inl ⟨e, le_rfl, hk⟩)

end Calendar
