import RouteGo.Bookings.Sequential
import Mathlib.Data.List.Chain

/-!
# The statuses a booking goes through

Calls executed one at a time. `Follows` is the life a booking should have:
`PENDING` is settled once, and only a confirmed booking can still be cancelled.
`confirmBooking` keeps to it, since it looks at the stored status. `releaseBooking`
writes the status of its reason over any other, and keeps to it exactly when
`Guarded` (`statuses_isChain_iff`).
-/

namespace RouteGo.Bookings

/-- From a status to the next one. -/
def Follows : BookingStatus → BookingStatus → Bool
  | .PENDING, s => decide (s ≠ .PENDING)
  | .CONFIRMED, .CANCELLED => true
  | _, _ => false

/-- What may become of the stored status of a booking: it is stored as `PENDING`,
it stays, or the next one follows. -/
inductive Lawful : Option BookingStatus → Option BookingStatus → Prop
  | create : Lawful none (some .PENDING)
  | stay (o) : Lawful o o
  | next {s s'} (h : Follows s s' = true) : Lawful (some s) (some s')

def Seq.status (s : Seq) (id : String) : Option BookingStatus :=
  (s.world.bookings.find id).map Booking.status

/-- The stored statuses of a booking along a run. -/
def statuses (env : Env) (id : String) (s : Seq) : List Op → List (Option BookingStatus)
  | [] => [s.status id]
  | op :: ops => s.status id :: statuses env id (exec env s op) ops

/-- A release with a valid reason leads to a status that follows the stored one,
or to the stored one. -/
def Guarded (s : Seq) : Op → Prop
  | .releaseBooking id reason _ => id ≠ "" → ∀ b target, s.world.bookings.find id = some b →
      targetStatus reason = some target → target = b.status ∨ Follows b.status target = true
  | _ => True

theorem lawful_some_iff {s s' : BookingStatus} :
    Lawful (some s) (some s') ↔ s' = s ∨ Follows s s' = true := by
  constructor
  · rintro (_ | _ | h)
    · exact .inl rfl
    · exact .inr h
  · rintro (rfl | h)
    · exact .stay _
    · exact .next h

/-- Only the row `id` changes when its status is written. -/
theorem lawful_setStatus_iff {bookings : BookingTable} {id : String} {b : Booking}
    {target : BookingStatus} (hb : bookings.find id = some b) :
    (∀ j, Lawful ((bookings.find j).map Booking.status)
        (((setStatus bookings id target).find j).map Booking.status)) ↔
      target = b.status ∨ Follows b.status target = true := by
  rw [← lawful_some_iff]
  constructor
  · intro h
    have hid := h id
    rw [find_setStatus_self target hb, hb] at hid
    exact hid
  · intro h j
    by_cases hj : j = id
    · subst hj
      rw [find_setStatus_self target hb, hb]
      exact h
    · rw [find_setStatus_ne target hj]
      exact .stay _

theorem lawful_exec_iff (env : Env) (s : Seq) (op : Op) :
    (∀ id, Lawful (s.status id) ((exec env s op).status id)) ↔ Guarded s op := by
  cases op with
  | createHold a id lockValue d f =>
    simp only [Guarded, iff_true]
    intro j
    rcases createHold_cases env (holdInputs s.clock id lockValue d f) s.world a with
      ⟨e, -, hb⟩ | ⟨b, -, -, hg⟩
    · simp only [exec, Seq.status, hb]
      exact .stay _
    · simp only [exec, Seq.status, Table.find_of_insert hg.insert j]
      split
      · next hj =>
        rw [hj, (Table.insert_eq_some.mp hg.insert).1, Option.map_some, hg.status]
        exact .create
      · exact .stay _
  | confirmBooking id delay =>
    simp only [Guarded, iff_true, exec, Seq.status]
    rcases confirmBooking_cases s.world.bookings (s.clock + delay) id with
      ⟨e, hr⟩ | ⟨b, hb, hp, ⟨-, hr⟩ | ⟨-, hr⟩⟩ <;> rw [hr]
    · exact fun j => .stay _
    · exact (lawful_setStatus_iff hb).mpr (.inr (by rw [hp]; rfl))
    · exact (lawful_setStatus_iff hb).mpr (.inr (by rw [hp]; rfl))
  | releaseBooking id reason delay =>
    simp only [Guarded, exec, Seq.status]
    by_cases hw : id ≠ "" ∧ ∃ b target, s.world.bookings.find id = some b ∧
        targetStatus reason = some target
    · obtain ⟨hid, b, target, hb, ht⟩ := hw
      rw [releaseBooking_of_find hid ht hb, lawful_setStatus_iff hb]
      constructor
      · rintro h - b' target' hb' ht'
        rw [hb] at hb'
        rw [ht] at ht'
        cases hb'
        cases ht'
        exact h
      · intro h
        exact h hid b target hb ht
    · have hsame : (releaseBooking s.world.bookings id reason).2 = s.world.bookings := by
        rcases releaseBooking_cases s.world.bookings id reason with
          ⟨e, hr⟩ | ⟨b, target, hb, ht, hr⟩
        · rw [hr]
        · have hid : id = "" := by
            by_contra hid
            exact hw ⟨hid, b, target, hb, ht⟩
          simp [releaseBooking, hid]
      rw [hsame]
      constructor
      · intro _ hid b target hb ht
        exact absurd ⟨hid, b, target, hb, ht⟩ hw
      · exact fun _ j => .stay _

/-- **The stored statuses of the bookings form paths of their life** in exactly the
runs in which every release is guarded. -/
theorem statuses_isChain_iff (env : Env) (s : Seq) (ops : List Op) :
    (∀ id, (statuses env id s ops).IsChain Lawful) ↔
      LTS.AllOk (fun s op => some (exec env s op)) Guarded s ops := by
  induction ops generalizing s with
  | nil => exact ⟨fun _ => trivial, fun _ id => .singleton _⟩
  | cons op ops ih =>
    have hhead : ∀ id, ∃ l, statuses env id (exec env s op) ops =
      (exec env s op).status id :: l := by
      intro id
      cases ops <;> exact ⟨_, rfl⟩
    have hcons : ∀ id, (statuses env id s (op :: ops)).IsChain Lawful ↔
        Lawful (s.status id) ((exec env s op).status id) ∧
          (statuses env id (exec env s op) ops).IsChain Lawful := by
      intro id
      obtain ⟨l, hl⟩ := hhead id
      rw [statuses, hl]
      exact List.isChain_cons_cons
    simp only [hcons, forall_and, lawful_exec_iff, ih]
    rfl

def heldAndReleased : List Op :=
  [.createHold ⟨"t", "1", "ann", .ofInt 1, .ofInt 2⟩ "a" "x" {} {},
    .releaseBooking "a" "PAYMENT_FAILED" 0, .releaseBooking "a" "USER_CANCELLED" 0]

/-- **A failed booking becomes a cancelled one.** -/
theorem exists_failed_cancelled : ¬ ∀ (env : Env) (s : Seq) (ops : List Op) (id : String),
    s.world = ⟨Table.empty, Leases.empty⟩ → (statuses env id s ops).IsChain Lawful := by
  intro h
  have hc := h ⟨5, 5000, .texts⟩ ⟨⟨Table.empty, Leases.empty⟩, 0⟩ heldAndReleased "a" rfl
  have hs : statuses ⟨5, 5000, .texts⟩ "a" ⟨⟨Table.empty, Leases.empty⟩, 0⟩ heldAndReleased =
      [none, some .PENDING, some .FAILED, some .CANCELLED] := by decide
  rw [hs] at hc
  simp [lawful_some_iff, Follows] at hc

end RouteGo.Bookings
