import RouteGo.Orchestrator.Billing

/-!
# What becomes of a hold

Call 0 is `confirmBooking`, beside any other calls and clients; a record of the
run says which remote calls it made, how they went and when. However it ends, its
booking is `CONFIRMED` or `FAILED`, unless every release it tried failed
(`hold_resolved`). A call that throws leaves a `CONFIRMED` booking in two cases
only: the confirmation had returned and the publish threw, or the reply of the
confirmation was lost and no release arrived (`confirmed_of_thrown`).
-/

namespace RouteGo.Orchestrator

open Js Bookings Payments

/-! ## The record -/

/-- The remote calls of the saga. -/
inductive Remote where
  | createHold
  | charge
  | confirmBooking
  | releaseBooking
  | publishConfirmed
  | publishFailed
  deriving DecidableEq

/-- A remote call of call 0. -/
structure Made where
  remote : Remote
  outcome : Outcome
  clock : Int

/-- The remote call of a step; a call that is refused makes none. -/
def ConfirmPc.remote (input : ConfirmBookingInput) : ConfirmPc → Option Remote
  | .start => match validateConfirm input with
    | .ok () => some .createHold
    | .error _ => none
  | .charging _ => some .charge
  | .confirming _ _ => some .confirmBooking
  | .publishingConfirmed _ _ _ => some .publishConfirmed
  | .releasing _ _ | .compensating _ _ => some .releaseBooking
  | .publishingFailed _ _ => some .publishFailed
  | .done _ _ => none

def made (sh : Shared) (i : Nat) (p : Call) (e : StepIn) : List Made :=
  match i, p with
  | 0, .confirmBooking input pc =>
    (pc.remote input).toList.map fun r => ⟨r, e.outcome, sh.world.clock⟩
  | _, _ => []

/-- The calls with a record of what call 0 did. -/
def logged (env : Env) : Pool.Spec (Shared × List Made) Call StepIn Op :=
  (orchestrator env).record made

/-- `createHold` returned. -/
def Returned (l : List Made) : Prop := ∃ m ∈ l, m.remote = .createHold ∧ m.outcome = .replied

def TriedRelease (l : List Made) : Prop := ∃ m ∈ l, m.remote = .releaseBooking

/-- A release arrived. -/
def Released (l : List Made) : Prop := ∃ m ∈ l, m.remote = .releaseBooking ∧ m.outcome ≠ .failed

/-- The confirmation returned, and `BookingConfirmed` was to be published. -/
def Announced (l : List Made) : Prop := ∃ m ∈ l, m.remote = .publishConfirmed

/-- The confirmation took effect and its reply was lost. -/
def LostConfirm (b : Booking) (l : List Made) : Prop :=
  ∃ m ∈ l, m.remote = .confirmBooking ∧ m.outcome = .lost ∧ b.hasExpired m.clock = false

instance (l : List Made) : Decidable (Returned l) := inferInstanceAs (Decidable (∃ m ∈ l, _))

instance (l : List Made) : Decidable (Announced l) := inferInstanceAs (Decidable (∃ m ∈ l, _))

/-- The row of the booking, with status `s`. -/
def World.RowIs (w : World) (b : Booking) (s : BookingStatus) : Prop :=
  w.bookings.find b.id = some (b.withStatus s)

section
variable {env : Env} {w w' : World} {sh sh' : Shared} {input : ConfirmBookingInput} {e : StepIn}
  {b : Booking} {s : BookingStatus} {l : List Made} {pc pc' : ConfirmPc}

theorem World.RowIs.status (h : w.RowIs b s) : w.status b.id = some s := by
  rw [World.status, h]
  rfl

/-- Who leaves the status of a booking alone leaves its row alone. -/
theorem World.RowIs.kept (h : w.RowIs b s) (hk : RowsKept w.bookings w'.bookings)
    (hs : w'.status b.id = w.status b.id) : w'.RowIs b s := by
  obtain ⟨r, hr, hkept⟩ := hk _ (Table.mem_of_find h)
  have hid : r.id = b.id := by rw [hkept.same]; rfl
  have hf : w'.bookings.find b.id = some r := by rw [← hid]; exact Table.find_key hr
  have hst : r.status = s := by
    rw [h.status, World.status, hf] at hs
    exact Option.some.inj hs
  rw [World.RowIs, hf, hkept.same, hst]
  rfl

theorem World.RowIs.setStatus (h : w.RowIs b s) (s' : BookingStatus) :
    ({ w with bookings := Bookings.setStatus w.bookings b.id s' } : World).RowIs b s' := by
  have hf : w.bookings.find b.id = some (b.withStatus s) := h
  show (Bookings.setStatus w.bookings b.id s').find b.id = some ((b.withStatus s).withStatus s')
  exact find_setStatus_self s' hf

/-! ## Steps with their outcome -/

/-- A hold is `PENDING`. -/
theorem rowIs_createHold {q : HoldRequest} (h : (createHold env e q w).1 = .ok b) :
    (createHold env e q w).2.RowIs b .PENDING := by
  obtain ⟨a, -, -, hg⟩ := createHold_granted h
  have hk : b.id = key b := rfl
  rw [World.RowIs, Table.find_of_insert hg.insert, if_pos hk, Booking.withStatus, ← hg.status]

/-- The confirmation of a booking that is still held. -/
theorem confirmBooking_of_pending (hid : b.id ≠ "") (h : w.RowIs b .PENDING) :
    confirmBooking b.id w = if b.hasExpired w.clock then
        (.error holdExpired, { w with bookings := Bookings.setStatus w.bookings b.id .EXPIRED })
      else (.ok (b.withStatus .CONFIRMED),
        { w with bookings := Bookings.setStatus w.bookings b.id .CONFIRMED }) := by
  have hf : w.bookings.find b.id = some (b.withStatus .PENDING) := h
  have hx : (b.withStatus .PENDING).hasExpired w.clock = b.hasExpired w.clock := rfl
  have hs : (b.withStatus .PENDING).status = .PENDING := rfl
  cases hc : b.hasExpired w.clock
  · simp [confirmBooking, Bookings.Controller.confirmBooking, Bookings.confirmBooking,
      hid, hf, hx, hs, hc, updateStatus_of_find _ hf]
    rfl
  · simp [confirmBooking, Bookings.Controller.confirmBooking, Bookings.confirmBooking,
      hid, hf, hx, hs, hc, updateStatus_of_find _ hf]

theorem confirmStep_confirming {i : Nat} {c : ChargeResult} (hid : b.id ≠ "")
    (hrow : sh.world.RowIs b .PENDING)
    (h : confirmStep env sh i input e (.confirming b c) = some (sh', pc')) :
    (e.outcome = .failed ∧ sh' = sh ∧ ∃ err, pc' = .compensating b err) ∨
    (b.hasExpired sh.world.clock = true ∧ sh'.world.RowIs b .EXPIRED ∧
      ∃ err, pc' = .compensating b err) ∨
    (b.hasExpired sh.world.clock = false ∧ sh'.world.RowIs b .CONFIRMED ∧
      ((e.outcome = .lost ∧ ∃ err, pc' = .compensating b err) ∨
        ∃ cb, pc' = .publishingConfirmed b cb c)) := by
  have hserve := confirmBooking_of_pending hid hrow
  simp only [confirmStep, Shared.remote, remote, hserve] at h
  cases hx : b.hasExpired sh.world.clock <;> cases ho : e.outcome <;>
    simp only [hx, ho, Bool.false_eq_true, ↓reduceIte, Option.some.injEq, Prod.mk.injEq] at h <;>
    obtain ⟨rfl, rfl⟩ := h
  · exact .inr (.inr ⟨rfl, hrow.setStatus .CONFIRMED, .inr ⟨_, rfl⟩⟩)
  · exact .inl ⟨rfl, rfl, _, rfl⟩
  · exact .inr (.inr ⟨rfl, hrow.setStatus .CONFIRMED, .inl ⟨rfl, _, rfl⟩⟩)
  · exact .inr (.inl ⟨rfl, hrow.setStatus .EXPIRED, _, rfl⟩)
  · exact .inl ⟨rfl, rfl, _, rfl⟩
  · exact .inr (.inl ⟨rfl, hrow.setStatus .EXPIRED, _, rfl⟩)

/-- A release that arrives. -/
theorem releaseBooking_of_row (hid : b.id ≠ "") (h : w.RowIs b s) :
    releaseBooking b.id "PAYMENT_FAILED" w = (.ok (b.withStatus .FAILED),
      { w with bookings := Bookings.setStatus w.bookings b.id .FAILED }) := by
  have hf : w.bookings.find b.id = some (b.withStatus s) := h
  rw [releaseBooking_of_find hid rfl hf]
  rfl

theorem remote_releaseBooking (hid : b.id ≠ "") (h : w.RowIs b s) :
    (e.outcome = .failed ∧ (remote e.outcome (releaseBooking b.id "PAYMENT_FAILED") w).2 = w) ∨
      (e.outcome ≠ .failed ∧
        (remote e.outcome (releaseBooking b.id "PAYMENT_FAILED") w).2.RowIs b .FAILED) := by
  rw [remote_snd]
  split
  · next ho => exact .inl ⟨ho, rfl⟩
  · next ho =>
    rw [releaseBooking_of_row hid h]
    exact .inr ⟨ho, h.setStatus .FAILED⟩

theorem confirmStep_releasing {i : Nat} {c : ChargeResult} (hid : b.id ≠ "")
    (hrow : sh.world.RowIs b s)
    (h : confirmStep env sh i input e (.releasing b c) = some (sh', pc')) :
    (e.outcome = .failed ∧ sh' = sh ∧ ∃ err, pc' = .compensating b err) ∨
    (e.outcome ≠ .failed ∧ sh'.world.RowIs b .FAILED ∧
      ((∃ err, pc' = .compensating b err) ∨ pc' = .publishingFailed b c)) := by
  simp only [confirmStep, Shared.remote, remote, releaseBooking_of_row hid hrow] at h
  cases ho : e.outcome <;> simp only [ho, Option.some.injEq, Prod.mk.injEq] at h <;>
    obtain ⟨rfl, rfl⟩ := h
  · exact .inr ⟨by decide, hrow.setStatus .FAILED, .inr rfl⟩
  · exact .inl ⟨rfl, rfl, _, rfl⟩
  · exact .inr ⟨by decide, hrow.setStatus .FAILED, .inl ⟨_, rfl⟩⟩

/-! ## The record, one call longer -/

variable {m : Made}

theorem released_snoc : Released (l ++ [m]) ↔
    Released l ∨ (m.remote = .releaseBooking ∧ m.outcome ≠ .failed) := by
  simp [Released, or_and_right, exists_or]

theorem triedRelease_snoc : TriedRelease (l ++ [m]) ↔ TriedRelease l ∨
    m.remote = .releaseBooking := by
  simp [TriedRelease, or_and_right, exists_or]

theorem announced_snoc : Announced (l ++ [m]) ↔ Announced l ∨ m.remote = .publishConfirmed := by
  simp [Announced, or_and_right, exists_or]

theorem not_announced_snoc (h : ¬ Announced l) (hm : m.remote ≠ .publishConfirmed) :
    ¬ Announced (l ++ [m]) := by
  rw [announced_snoc, not_or]
  exact ⟨h, hm⟩

theorem not_released_snoc (h : ¬ Released l)
    (hm : m.remote = .releaseBooking → m.outcome = .failed) : ¬ Released (l ++ [m]) := by
  rw [released_snoc, not_or]
  exact ⟨h, fun ⟨hr, ho⟩ => ho (hm hr)⟩

theorem lostConfirm_snoc : LostConfirm b (l ++ [m]) ↔ LostConfirm b l ∨
    (m.remote = .confirmBooking ∧ m.outcome = .lost ∧ b.hasExpired m.clock = false) := by
  simp [LostConfirm, or_and_right, exists_or]

theorem Released.tried (h : Released l) : TriedRelease l := by
  obtain ⟨m, hm, hr, -⟩ := h
  exact ⟨m, hm, hr⟩

theorem failed_of_not_released (h : ¬ Released l) (hm : m ∈ l) (hr : m.remote = .releaseBooking) :
    m.outcome = .failed := by
  by_contra ho
  exact h ⟨m, hm, hr, ho⟩

/-- The first call is `createHold`, if there is one. -/
theorem made_start (hm : m ∈ made sh 0 (.confirmBooking input .start) e) :
    m.remote = .createHold ∧ m.outcome = e.outcome := by
  simp only [made, ConfirmPc.remote, List.mem_map, Option.mem_toList] at hm
  obtain ⟨r, hr, rfl⟩ := hm
  split at hr
  · exact ⟨(Option.some.inj hr).symm, rfl⟩
  · cases hr

/-! ## Assertions -/

/-- The booking is held, and nothing but the charge was tried. -/
structure Held (w : World) (l : List Made) (b : Booking) : Prop where
  row : w.RowIs b .PENDING
  made : ∀ m ∈ l, m.remote = .createHold ∨ m.remote = .charge

/-- A release arrived, or the booking is `CONFIRMED` by a lost confirmation if at all. -/
def Unwound (w : World) (l : List Made) (b : Booking) : Prop :=
  (Released l ∧ w.RowIs b .FAILED) ∨
    (¬ Released l ∧ ∃ s, w.RowIs b s ∧ (s = .CONFIRMED ↔ LostConfirm b l))

/-- The call has ended. -/
def Ended (w : World) (l : List Made) (b : Booking) : Prop :=
  (Announced l ∧ w.RowIs b .CONFIRMED) ∨
    (¬ Announced l ∧ (Returned l → TriedRelease l) ∧ Unwound w l b)

def FateAssertion (w : World) (l : List Made) : ConfirmPc → Prop
  | .start => l = []
  | .charging b | .confirming b _ | .releasing b _ => b.id ≠ "" ∧ Held w l b
  | .publishingConfirmed b _ _ => w.RowIs b .CONFIRMED
  | .publishingFailed b _ => b.id ≠ "" ∧ ¬ Announced l ∧ Released l ∧ w.RowIs b .FAILED
  | .compensating b _ => b.id ≠ "" ∧ ¬ Announced l ∧ Unwound w l b
  | .done (some b) _ => Ended w l b
  | .done none _ => True

theorem Held.not_announced (h : Held w l b) : ¬ Announced l := by
  rintro ⟨m, hm, hr⟩
  rcases h.made m hm with h | h <;> rw [hr] at h <;> cases h

theorem Held.not_released (h : Held w l b) : ¬ Released l := by
  rintro ⟨m, hm, hr, -⟩
  rcases h.made m hm with h | h <;> rw [hr] at h <;> cases h

theorem Held.not_lostConfirm (h : Held w l b) : ¬ LostConfirm b l := by
  rintro ⟨m, hm, hr, -⟩
  rcases h.made m hm with h | h <;> rw [hr] at h <;> cases h

/-- The assertion is about the row of the hold only. -/
theorem FateAssertion.kept (h : FateAssertion w l pc) (hk : RowsKept w.bookings w'.bookings)
    (hs : ∀ b, pc.hold = some b → w'.status b.id = w.status b.id) : FateAssertion w' l pc := by
  have hun : ∀ b, pc.hold = some b → Unwound w l b → Unwound w' l b := by
    rintro b hb (⟨hr, hrow⟩ | ⟨hr, s, hrow, hiff⟩)
    · exact .inl ⟨hr, hrow.kept hk (hs b hb)⟩
    · exact .inr ⟨hr, s, hrow.kept hk (hs b hb), hiff⟩
  cases pc with
  | start => exact h
  | charging b | confirming b _ | releasing b _ =>
    exact ⟨h.1, h.2.row.kept hk (hs b rfl), h.2.made⟩
  | publishingConfirmed b _ _ => exact h.kept hk (hs b rfl)
  | publishingFailed b _ => exact ⟨h.1, h.2.1, h.2.2.1, h.2.2.2.kept hk (hs b rfl)⟩
  | compensating b _ => exact ⟨h.1, h.2.1, hun b rfl h.2.2⟩
  | done o res =>
    cases o with
    | none => trivial
    | some b =>
      rcases h with ⟨ha, hrow⟩ | ⟨hn, ht, hu⟩
      · exact .inl ⟨ha, hrow.kept hk (hs b rfl)⟩
      · exact .inr ⟨hn, ht, hun b rfl hu⟩

/-- One more call that is neither a publish, a release nor a confirmation. -/
theorem Held.unwound (h : Held w l b) (hrow : w'.RowIs b s) (hm : m.remote ≠ .publishConfirmed)
    (hr : m.remote = .releaseBooking → m.outcome = .failed)
    (hc : s = .CONFIRMED ↔ m.remote = .confirmBooking ∧ m.outcome = .lost ∧
      b.hasExpired m.clock = false) :
    ¬ Announced (l ++ [m]) ∧ Unwound w' (l ++ [m]) b := by
  refine ⟨not_announced_snoc h.not_announced hm,
    .inr ⟨not_released_snoc h.not_released hr, s, hrow, ?_⟩⟩
  rw [lostConfirm_snoc, hc]
  exact ⟨.inr, fun hl => hl.resolve_left h.not_lostConfirm⟩

/-- One more release. -/
theorem Unwound.release (h : Unwound w l b) (hid : b.id ≠ "") {t : Int} :
    Unwound (remote e.outcome (releaseBooking b.id "PAYMENT_FAILED") w).2
      (l ++ [⟨.releaseBooking, e.outcome, t⟩]) b := by
  have hrow : ∃ s, w.RowIs b s := by
    rcases h with ⟨-, hrow⟩ | ⟨-, s, hrow, -⟩
    · exact ⟨_, hrow⟩
    · exact ⟨s, hrow⟩
  obtain ⟨s, hrow⟩ := hrow
  rcases remote_releaseBooking (e := e) hid hrow with ⟨ho, hw⟩ | ⟨ho, hrow'⟩
  · rw [hw]
    rcases h with ⟨hr, hf⟩ | ⟨hr, s', hs', hiff⟩
    · exact .inl ⟨released_snoc.mpr (.inl hr), hf⟩
    · refine .inr ⟨not_released_snoc hr fun _ => ho, s', hs', ?_⟩
      rw [lostConfirm_snoc, hiff]
      simp
  · exact .inl ⟨released_snoc.mpr (.inr ⟨rfl, ho⟩), hrow'⟩

/-- The hold is refused, taken and answered, or taken with its answer lost. -/
theorem fate_start (hs : confirmStep env sh 0 input e .start = some (sh', pc')) :
    FateAssertion sh'.world (made sh 0 (.confirmBooking input .start) e) pc' := by
  rcases confirmStep_start hs with ⟨res, rfl⟩ | ⟨b, hst⟩
  · trivial
  · have hrow : sh'.world.RowIs b .PENDING := by rw [hst.world]; exact rowIs_createHold hst.held
    rcases hst.reply with ⟨err, rfl, ho⟩ | ⟨rfl, -⟩
    · have hh : Held sh'.world (made sh 0 (.confirmBooking input .start) e) b :=
        ⟨hrow, fun m hm => .inl (made_start hm).1⟩
      refine .inr ⟨hh.not_announced, fun hret => ?_, .inr ⟨hh.not_released, _, hrow, ?_⟩⟩
      · obtain ⟨m, hm, -, hr⟩ := hret
        rw [(made_start hm).2, ho] at hr
        cases hr
      · exact iff_of_false (by decide) hh.not_lostConfirm
    · exact ⟨(createHold_fresh hst.fresh hst.held).1.1, hrow, fun m hm => .inl (made_start hm).1⟩

/-- The charge leaves the row alone. -/
theorem fate_charging (hid : b.id ≠ "") (hh : Held sh.world l b)
    (hs : confirmStep env sh 0 input e (.charging b) = some (sh', pc')) :
    FateAssertion sh'.world (l ++ made sh 0 (.confirmBooking input (.charging b)) e) pc' := by
  have hb : sh'.world.bookings = sh.world.bookings := by
    have hm := confirmStep_move hs
    exact hm.bookings_of_charging
  have hrow : sh'.world.RowIs b .PENDING := by rw [World.RowIs, hb]; exact hh.row
  have hmade : ∀ m ∈ l ++ [⟨.charge, e.outcome, sh.world.clock⟩],
      m.remote = .createHold ∨ m.remote = .charge := by
    intro m hm
    rcases List.mem_append.mp hm with hm | hm
    · exact hh.made m hm
    · rw [List.mem_singleton.mp hm]; exact .inr rfl
  cases confirmStep_move hs with
  | chargeThrew err _ => exact ⟨hid, hh.unwound hrow (by simp) (by simp) (by simp)⟩
  | charged _ _ | declined _ _ => exact ⟨hid, hrow, hmade⟩

/-- The release fails and leaves the row alone, or arrives. -/
theorem fate_releasing (hid : b.id ≠ "") (hh : Held sh.world l b)
    (hs : confirmStep env sh 0 input e (.releasing b c) = some (sh', pc')) :
    FateAssertion sh'.world (l ++ made sh 0 (.confirmBooking input (.releasing b c)) e) pc' := by
  rcases confirmStep_releasing hid hh.row hs with
    ⟨ho, rfl, err, rfl⟩ | ⟨ho, hrow, hpc⟩
  · exact ⟨hid, hh.unwound hh.row (by simp) (by simp [ho]) (by simp)⟩
  · have hr : Released (l ++ [⟨.releaseBooking, e.outcome, sh.world.clock⟩]) :=
      released_snoc.mpr (.inr ⟨rfl, ho⟩)
    have hn : ¬ Announced (l ++ [⟨.releaseBooking, e.outcome, sh.world.clock⟩]) :=
      not_announced_snoc hh.not_announced (by simp)
    rcases hpc with ⟨err, rfl⟩ | rfl
    · exact ⟨hid, hn, .inl ⟨hr, hrow⟩⟩
    · exact ⟨hid, hn, hr, hrow⟩

/-- Every step of the saga. -/
theorem FateAssertion.step (h : FateAssertion sh.world l pc)
    (hs : confirmStep env sh 0 input e pc = some (sh', pc')) :
    FateAssertion sh'.world (l ++ made sh 0 (.confirmBooking input pc) e) pc' := by
  cases pc with
  | start =>
    obtain rfl : l = [] := h
    rw [List.nil_append]
    exact fate_start hs
  | charging b => exact fate_charging h.1 h.2 hs
  | confirming b c =>
    obtain ⟨hid, hh⟩ := h
    rcases confirmStep_confirming hid hh.row hs with
      ⟨ho, rfl, err, rfl⟩ | ⟨hx, hrow, err, rfl⟩ | ⟨hx, hrow, ⟨ho, err, rfl⟩ | ⟨cb, rfl⟩⟩
    · exact ⟨hid, hh.unwound hh.row (by simp) (by simp) (by simp [ho])⟩
    · exact ⟨hid, hh.unwound hrow (by simp) (by simp) (by simp [hx])⟩
    · exact ⟨hid, hh.unwound hrow (by simp) (by simp) (by simp [hx, ho])⟩
    · exact hrow
  | publishingConfirmed b cb c =>
    cases confirmStep_move hs with
    | publishConfirmed res _ => exact .inl ⟨announced_snoc.mpr (.inr rfl), h⟩
  | releasing b c => exact fate_releasing h.1 h.2 hs
  | publishingFailed b c =>
    obtain ⟨hid, hn, hr, hrow⟩ := h
    have hr' : Released (l ++ [⟨.publishFailed, e.outcome, sh.world.clock⟩]) :=
      released_snoc.mpr (.inl hr)
    have hn' : ¬ Announced (l ++ [⟨.publishFailed, e.outcome, sh.world.clock⟩]) :=
      not_announced_snoc hn (by simp)
    cases confirmStep_move hs with
    | publishFailedThrew err => exact ⟨hid, hn', .inl ⟨hr', hrow⟩⟩
    | publishFailed _ => exact .inr ⟨hn', fun _ => hr'.tried, .inl ⟨hr', hrow⟩⟩
  | compensating b err =>
    obtain ⟨hid, hn, hu⟩ := h
    simp only [confirmStep, Option.some.injEq, Prod.mk.injEq] at hs
    obtain ⟨rfl, rfl⟩ := hs
    have hn' : ¬ Announced (l ++ [⟨.releaseBooking, e.outcome, sh.world.clock⟩]) :=
      not_announced_snoc hn (by simp)
    exact .inr ⟨hn', fun _ => triedRelease_snoc.mpr (.inr rfl), hu.release hid⟩
  | done o res => cases hs

/-! ## With others acting on the booking -/

/-- The row is there, and once a release has arrived it does not hold the seat. -/
structure Settles (w : World) (l : List Made) (b : Booking) : Prop where
  row : ∃ r, w.bookings.find b.id = some r
  freed : Released l → ∃ r, w.bookings.find b.id = some r ∧ blocking r.status = false

def LateAssertion (w : World) (l : List Made) : ConfirmPc → Prop
  | .start => l = []
  | .charging b | .confirming b _ | .releasing b _ | .publishingFailed b _ | .compensating b _ =>
    b.id ≠ "" ∧ Settles w l b
  | .publishingConfirmed _ _ _ | .done none _ => True
  | .done (some b) _ => Announced l ∨ Settles w l b

theorem Settles.kept (h : Settles w l b) (hw : Writes w.bookings w'.bookings) : Settles w' l b := by
  obtain ⟨r, hr⟩ := h.row
  obtain ⟨r', hr', hkept⟩ := hw.rowsKept r (Table.mem_of_find hr)
  refine ⟨⟨r', ?_⟩, fun hrel => ?_⟩
  · have hid : r'.id = b.id := by
      rw [hkept.same]
      exact Table.key_of_find hr
    rw [← hid]
    exact Table.find_key hr'
  · obtain ⟨r, hr, hf⟩ := h.freed hrel
    exact hw.blocking_eq_false hr hf

theorem LateAssertion.kept (h : LateAssertion w l pc) (hw : Writes w.bookings w'.bookings) :
    LateAssertion w' l pc := by
  cases pc with
  | start | publishingConfirmed _ _ _ => exact h
  | charging b | confirming b _ | releasing b _ | publishingFailed b _ | compensating b _ =>
    exact ⟨h.1, h.2.kept hw⟩
  | done o res =>
    cases o with
    | none => trivial
    | some b => exact h.imp_right fun h => h.kept hw

/-- One more call, which is no release that arrives. -/
theorem Settles.snoc (h : Settles w l b) (hm : m.remote ≠ .releaseBooking) :
    Settles w (l ++ [m]) b :=
  ⟨h.row, fun hr => h.freed ((released_snoc.mp hr).resolve_right fun hr => hm hr.1)⟩

/-- One more release. -/
theorem Settles.release (h : Settles w l b) (hid : b.id ≠ "") {t : Int} :
    Settles (remote e.outcome (releaseBooking b.id "PAYMENT_FAILED") w).2
      (l ++ [⟨.releaseBooking, e.outcome, t⟩]) b := by
  obtain ⟨r, hr⟩ := h.row
  rw [remote_snd]
  split
  · next ho =>
    refine ⟨⟨r, hr⟩, fun hrel => h.freed ((released_snoc.mp hrel).resolve_right fun hm => ?_)⟩
    exact hm.2 ho
  · rw [releaseBooking_of_find hid rfl hr]
    have hf := find_setStatus_self .FAILED hr
    exact ⟨⟨_, hf⟩, fun _ => ⟨_, hf, rfl⟩⟩

theorem LateAssertion.step (h : LateAssertion sh.world l pc)
    (hs : confirmStep env sh 0 input e pc = some (sh', pc')) :
    LateAssertion sh'.world (l ++ made sh 0 (.confirmBooking input pc) e) pc' := by
  have hw : Writes sh.world.bookings sh'.world.bookings := (confirmStep_move hs).writes
  cases pc with
  | start =>
    obtain rfl : l = [] := h
    have hfirst : ¬ Released ([] ++ made sh 0 (.confirmBooking input .start) e) := by
      rintro ⟨m, hm, hr, -⟩
      rw [(made_start hm).1] at hr
      cases hr
    rcases confirmStep_start hs with ⟨res, rfl⟩ | ⟨b, hst⟩
    · trivial
    have hrow : sh'.world.RowIs b .PENDING := by rw [hst.world]; exact rowIs_createHold hst.held
    rcases hst.reply with ⟨err, rfl, -⟩ | ⟨rfl, -⟩
    · exact .inr ⟨⟨_, hrow⟩, fun hr => absurd hr hfirst⟩
    · exact ⟨(createHold_fresh hst.fresh hst.held).1.1, ⟨_, hrow⟩, fun hr => absurd hr hfirst⟩
  | charging b =>
    have hst := (h.2.kept hw).snoc (m := ⟨.charge, e.outcome, sh.world.clock⟩) (by simp)
    cases confirmStep_move hs with
    | chargeThrew _ _ | charged _ _ | declined _ _ => exact ⟨h.1, hst⟩
  | confirming b c =>
    have hst := (h.2.kept hw).snoc (m := ⟨.confirmBooking, e.outcome, sh.world.clock⟩) (by simp)
    cases confirmStep_move hs with
    | confirmThrew _ _ => exact ⟨h.1, hst⟩
    | confirmed _ => trivial
  | publishingConfirmed b cb c =>
    cases confirmStep_move hs with
    | publishConfirmed res _ => exact .inl (announced_snoc.mpr (.inr rfl))
  | releasing b c =>
    obtain ⟨hid, hst⟩ := h
    have hrel := hst.release (e := e) hid (t := sh.world.clock)
    have hsh :
      sh'.world = (remote e.outcome (releaseBooking b.id "PAYMENT_FAILED") sh.world).2 := by
      simp only [confirmStep] at hs
      split at hs <;> rename_i hr <;> cases hs <;> exact (congrArg (fun x => x.2.world) hr).symm
    rw [hsh]
    cases confirmStep_move hs with
    | releaseThrew _ _ | released _ => exact ⟨hid, hrel⟩
  | publishingFailed b c =>
    have hst := (h.2.kept hw).snoc (m := ⟨.publishFailed, e.outcome, sh.world.clock⟩) (by simp)
    cases confirmStep_move hs with
    | publishFailedThrew _ => exact ⟨h.1, hst⟩
    | publishFailed _ => exact .inr hst
  | compensating b err =>
    obtain ⟨hid, hst⟩ := h
    simp only [confirmStep, Option.some.injEq, Prod.mk.injEq] at hs
    obtain ⟨rfl, rfl⟩ := hs
    exact .inr (hst.release hid)
  | done o res => cases hs

end

/-! ## Runs -/

/-- Call 0 is a saga yet to begin, beside any other calls. -/
structure BeforeLogged (input : ConfirmBookingInput) (s : Pool (Shared × List Made) Call) :
    Prop where
  saga : s.procs[0]? = some (.confirmBooking input .start)
  made : s.shared.2 = []

def loggedRuns (env : Env) (input : ConfirmBookingInput) :
    LTS (Pool (Shared × List Made) Call) (Pool.Event StepIn Op) :=
  Pool.system (logged env) (BeforeLogged input)

/-- Only call 0 changes the status of its booking. -/
def AloneOn (env : Env) (s : Pool (Shared × List Made) Call) (ev : Pool.Event StepIn Op) : Prop :=
  (∃ e, ev = .proc 0 e) ∨ ∀ input pc b s', s.procs[0]? = some (.confirmBooking input pc) →
    pc.hold = some b → Pool.step (logged env) s ev = some s' →
    s'.shared.1.world.status b.id = s.shared.1.world.status b.id

section
variable {env : Env} {input : ConfirmBookingInput} {s s' : Pool (Shared × List Made) Call}
  {ev : Pool.Event StepIn Op} {pc : ConfirmPc}

/-- A step is one of call 0, or leaves the call and its record alone. -/
theorem logged_step (hs : Pool.step (logged env) s ev = some s')
    (hp : s.procs[0]? = some (.confirmBooking input pc)) :
    (∃ e pc', s'.procs[0]? = some (.confirmBooking input pc') ∧
      confirmStep env s.shared.1 0 input e pc = some (s'.shared.1, pc') ∧
      s'.shared.2 = s.shared.2 ++ made s.shared.1 0 (.confirmBooking input pc) e) ∨
    ((∀ e, ev ≠ .proc 0 e) ∧ s'.procs[0]? = some (.confirmBooking input pc) ∧
      s'.shared.2 = s.shared.2 ∧
      Writes s.shared.1.world.bookings s'.shared.1.world.bookings) := by
  cases ev with
  | env op =>
    obtain ⟨x, he, rfl⟩ := Pool.step_env hs
    obtain ⟨hop, hl⟩ := Pool.env_record he
    obtain ⟨sh, l⟩ := x
    cases hop
    exact .inr ⟨by simp, hp, hl, writes_exec op _⟩
  | proc i e =>
    obtain ⟨p, x, p', hpi, ha, rfl⟩ := Pool.step_proc hs
    obtain ⟨hact, hl⟩ := Pool.act_record ha
    by_cases hi : i = 0
    · subst hi
      rw [hp] at hpi
      cases hpi
      obtain ⟨pc', rfl, hst⟩ := act_confirmStep hact
      exact .inl ⟨e, pc', Pool.getElem?_set_self_of hp, hst, hl⟩
    · have hnone : made s.shared.1 i p e = [] := by
        cases i with
        | zero => exact absurd rfl hi
        | succ i => rfl
      rw [hnone, List.append_nil] at hl
      refine .inr ⟨?_, (List.getElem?_set_ne hi).trans hp, hl, act_writes hact⟩
      intro e' he
      cases he
      exact hi rfl

/-- What call 0 knows of the stores and of its record: its own steps keep it, and so
do the steps of others. -/
theorem recorded_reach {ok : Pool (Shared × List Made) Call → Pool.Event StepIn Op → Prop}
    {A : World → List Made → ConfirmPc → Prop} (hinit : ∀ w, A w [] .start)
    (hown : ∀ sh sh' l e pc pc', A sh.world l pc →
      confirmStep env sh 0 input e pc = some (sh', pc') →
      A sh'.world (l ++ made sh 0 (.confirmBooking input pc) e) pc')
    (hother : ∀ s ev s' pc, ok s ev → (∀ e, ev ≠ .proc 0 e) →
      s.procs[0]? = some (.confirmBooking input pc) → Pool.step (logged env) s ev = some s' →
      Writes s.shared.1.world.bookings s'.shared.1.world.bookings →
      A s.shared.1.world s.shared.2 pc → A s'.shared.1.world s.shared.2 pc)
    (h : (loggedRuns env input).Reach ok s) :
    ∃ pc, s.procs[0]? = some (.confirmBooking input pc) ∧ A s.shared.1.world s.shared.2 pc := by
  refine h.invariant (I := fun s => ∃ pc, s.procs[0]? = some (.confirmBooking input pc) ∧
      A s.shared.1.world s.shared.2 pc)
    (fun s (hi : BeforeLogged input s) => ?_) fun s ev s' _ hI ho hst => ?_
  · have hstart : A s.shared.1.world s.shared.2 .start := by
      rw [hi.made]
      exact hinit _
    exact ⟨.start, hi.saga, hstart⟩
  obtain ⟨pc, hp, hA⟩ := hI
  rcases logged_step hst hp with ⟨e, pc', hp', hs, hl⟩ | ⟨hne, hp', hl, hw⟩
  · refine ⟨pc', hp', ?_⟩
    rw [hl]
    exact hown _ _ _ e pc pc' hA hs
  · refine ⟨pc, hp', ?_⟩
    rw [hl]
    exact hother s ev s' pc ho hne hp hst hw hA

/-- What call 0 knows at the end, with nobody else acting on its booking. -/
theorem fate_reach (h : (loggedRuns env input).Reach (AloneOn env) s) :
    ∃ pc, s.procs[0]? = some (.confirmBooking input pc) ∧
      FateAssertion s.shared.1.world s.shared.2 pc := by
  refine recorded_reach (fun _ => rfl) (fun _ _ _ _ _ _ hA hs => hA.step hs)
    (fun s ev s' pc ho hne hp hst hw hA => hA.kept hw.rowsKept fun b hb => ?_) h
  rcases ho with ⟨e, he⟩ | ho
  · exact absurd he (hne e)
  · exact ho input pc b s' hp hb hst

/-- The call has ended; `b` is the booking it created. -/
def EndedWith (s : Pool (Shared × List Made) Call) (b : Booking)
    (res : Result ConfirmBookingResult) :
    Prop := ∃ input, s.procs[0]? = some (.confirmBooking input (.done (some b) res))

/-- Every release was tried in vain, and one was tried. -/
structure ReleaseFailed (l : List Made) : Prop where
  tried : TriedRelease l
  failed : ∀ m ∈ l, m.remote = .releaseBooking → m.outcome = .failed

/-- What becomes of a hold that `createHold` returned. -/
structure Resolved (s : Pool (Shared × List Made) Call) (b : Booking) : Prop where
  settled : s.shared.1.world.status b.id = some .CONFIRMED ∨
    s.shared.1.world.status b.id = some .FAILED ∨ ReleaseFailed s.shared.2
  pending : s.shared.1.world.status b.id = some .PENDING → TriedRelease s.shared.2

/-- **No hold is left behind** unless every release of it failed. -/
theorem hold_resolved {b : Booking} {res : Result ConfirmBookingResult}
    (h : (loggedRuns env input).Reach (AloneOn env) s) (hd : EndedWith s b res)
    (hr : Returned s.shared.2) : Resolved s b := by
  obtain ⟨pc, hp, hA⟩ := fate_reach h
  obtain ⟨input', hd⟩ := hd
  rw [hd] at hp
  cases hp
  rcases hA with ⟨-, hrow⟩ | ⟨-, ht, ⟨-, hrow⟩ | ⟨hn, -⟩⟩
  · refine ⟨.inl hrow.status, fun hs => ?_⟩
    rw [hrow.status] at hs
    cases hs
  · refine ⟨.inr (.inl hrow.status), fun hs => ?_⟩
    rw [hrow.status] at hs
    cases hs
  · exact ⟨.inr (.inr ⟨ht hr, fun m => failed_of_not_released hn⟩), fun _ => ht hr⟩

end

/-- One saga with a record, before its first step. -/
def annLogged : Pool (Shared × List Made) Call :=
  ⟨(⟨emptyWorld, []⟩, []), [.confirmBooking annsInput .start]⟩

def annLoggedAfter (es : List StepIn) : Pool (Shared × List Made) Call :=
  (LTS.execAll (Pool.step (logged defaultEnv)) annLogged (es.map (Pool.Event.proc 0))).getD
    annLogged

theorem annLogged_reach {es : List StepIn} (h : (LTS.execAll (Pool.step (logged defaultEnv))
      annLogged (es.map (Pool.Event.proc 0))).isSome = true) :
    (loggedRuns defaultEnv annsInput).Reach (AloneOn defaultEnv) (annLoggedAfter es) := by
  obtain ⟨s, hs⟩ := Option.isSome_iff_exists.mp h
  rw [annLoggedAfter, hs]
  refine LTS.reach_of_execAll _ ⟨rfl, rfl⟩ (LTS.allOk_of_mem _ _ fun ev hev _ => ?_) hs
  obtain ⟨e, -, rfl⟩ := List.mem_map.mp hev
  exact .inl ⟨e, rfl⟩

/-- The hold of the saga, as it was returned. -/
def annsHold : Booking := ⟨"b1", "t1", "s1", "ann", 1, 3, .PENDING, some 300000⟩

/-- The charge is declined and the reply of the release is lost. -/
theorem hold_resolved_ann : Resolved (annLoggedAfter [{ rowId := "b1" },
    { rowId := "p1", draw := false }, { outcome := .lost }, {}]) annsHold := by
  have h : (loggedRuns defaultEnv annsInput).Reach (AloneOn defaultEnv)
      (annLoggedAfter [{ rowId := "b1" }, { rowId := "p1", draw := false },
        { outcome := .lost }, {}]) :=
    annLogged_reach (by decide)
  exact hold_resolved h ⟨_, rfl⟩ (by decide)

end RouteGo.Orchestrator
