import RouteGo.Bookings.Concurrent

/-!
# Confirmation against release

`confirmBooking` and `releaseBooking` read the row, decide, and then write its
status by `id` alone. A release that is written between the guard of a
confirmation and its write is overwritten: the seat it freed is taken back
(`exists_takenBack`). When no confirmation is past its guard while a release is
written, a released booking stays released.
-/

namespace RouteGo.Bookings

/-- Calls of `confirmBooking` and `releaseBooking` for one `PENDING` booking. -/
structure OnPending (id : String) (s : Pool Shared Call) : Prop where
  pending : ∃ b, s.shared.bookings.find id = some b ∧ b.status = .PENDING
  released : s.shared.released = []
  fresh : ∀ p ∈ s.procs, p = .confirmBooking id .start ∨
    ∃ reason, p = .releaseBooking id reason .start

def confirmsAndReleases (env : Env) (T : Tokens) (id : String) :
    LTS (Pool Shared Call) (Pool.Event StepIn Nat) :=
  Pool.system (service env T) (OnPending id)

/-- Some release has returned and the booking is `CONFIRMED`. -/
def TakenBack (id : String) (s : Pool Shared Call) : Prop :=
  (∃ (i : Nat) (reason : String) (row : Booking),
    s.procs[i]? = some (.releaseBooking id reason (.done (.ok row)))) ∧
    ∃ b, s.shared.bookings.find id = some b ∧ b.status = .CONFIRMED

/-- A `confirmBooking` that found the hold `PENDING` and alive, and is yet to
write. -/
def Call.PastGuard (now : Int) : Call → Prop
  | .confirmBooking _ (.found booking) => booking.status = .PENDING ∧ booking.hasExpired now = false
  | .confirmBooking _ .confirming => True
  | _ => False

instance (now : Int) : ∀ p : Call, Decidable (p.PastGuard now)
  | .confirmBooking _ (.found _) => inferInstanceAs (Decidable (_ ∧ _))
  | .confirmBooking _ .confirming => .isTrue trivial
  | .confirmBooking _ .start | .confirmBooking _ .expiring | .confirmBooking _ (.done _) =>
    .isFalse id
  | .createHold _ _ | .releaseBooking _ _ _ => .isFalse id

def Call.WritesRelease : Call → Prop
  | .releaseBooking _ _ (.writing _) => True
  | _ => False

instance : ∀ p : Call, Decidable p.WritesRelease
  | .releaseBooking _ _ (.writing _) => .isTrue trivial
  | .releaseBooking _ _ .start | .releaseBooking _ _ (.done _) => .isFalse id
  | .createHold _ _ | .confirmBooking _ _ => .isFalse id

/-- A release is written while no confirmation is past its guard. -/
def ReleasesClear (s : Pool Shared Call) : Pool.Event StepIn Nat → Prop
  | .env _ => True
  | .proc i e => e.fault = false → (∃ p ∈ s.procs[i]?, p.WritesRelease) →
      ∀ q ∈ s.procs, ¬ q.PastGuard s.shared.clock

instance (s : Pool Shared Call) : ∀ e, Decidable (ReleasesClear s e)
  | .env _ => .isTrue trivial
  | .proc _ _ => inferInstanceAs (Decidable (_ → _ → _))

/-! ## Invariant -/

/-- A released booking is neither `PENDING` nor `CONFIRMED`. -/
def StaysReleased (id : String) (sh : Shared) : Prop :=
  id ∈ sh.released →
    ∀ b, sh.bookings.find id = some b → b.status ≠ .PENDING ∧ b.status ≠ .CONFIRMED

def ReleaseAssertion (id : String) (sh : Shared) (_ : Nat) (p : Call) : Prop :=
  (id ∈ sh.released → ¬ p.PastGuard sh.clock) ∧
    match p with
    | .createHold _ _ => False
    | .confirmBooking j _ => j = id
    | .releaseBooking j _ pc => j = id ∧ match pc with
      | .start => True
      | .writing target => target ≠ .PENDING ∧ target ≠ .CONFIRMED
      | .done res => (∃ row, res = .ok row) → id ∈ sh.released

section
variable {env : Env} {T : Tokens} {id : String} {sh sh' : Shared} {i : Nat} {p : Call}

theorem hasExpired_mono {t t' : Int} {b : Booking} (htt : t ≤ t') (h : b.hasExpired t = true) :
    b.hasExpired t' = true := by
  unfold Booking.hasExpired at *
  cases he : b.holdExpiresAt with
  | none => simp [he] at h
  | some e => simp only [he, decide_eq_true_eq] at h ⊢; omega

theorem Call.PastGuard.earlier {t t' : Int} (htt : t ≤ t') (h : p.PastGuard t') :
    p.PastGuard t := by
  unfold Call.PastGuard at *
  split at h
  · refine ⟨h.1, Bool.eq_false_iff.mpr fun he => ?_⟩
    rw [hasExpired_mono htt he] at h
    cases h.2
  · trivial
  · exact h.elim

theorem status_of_find_setStatus {bookings : BookingTable} {s : BookingStatus} {b : Booking}
    (h : (setStatus bookings id s).find id = some b) : b.status = s := by
  rcases mem_setStatus.mp (Table.mem_of_find h) with ⟨-, hne⟩ | ⟨c, -, -, rfl⟩
  · exact absurd (Table.key_of_find h) hne
  · rfl

/-- A call keeps what it knows while the shared state changes. -/
theorem ReleaseAssertion.frame (h : ReleaseAssertion id sh i p) (hc : sh.clock ≤ sh'.clock)
    (hr : id ∈ sh.released → id ∈ sh'.released)
    (hg : id ∈ sh'.released → ¬ p.PastGuard sh.clock) : ReleaseAssertion id sh' i p := by
  refine ⟨fun hm hp => hg hm (hp.earlier hc), ?_⟩
  have h2 := h.2
  cases p with
  | createHold a pc => exact h2
  | confirmBooking j pc => exact h2
  | releaseBooking j reason pc =>
    refine ⟨h2.1, ?_⟩
    cases pc with
    | start => trivial
    | writing target => exact h2.2
    | done res => exact fun hres => hr (h2.2 hres)

/-- The moves of a `confirmBooking`, nothing of it being past the guard once the
booking is released. -/
theorem ConfirmMove.staysReleased {pc pc' : ConfirmPc} (hm : ConfirmMove sh id pc sh' pc')
    (hG : StaysReleased id sh)
    (hP : id ∈ sh.released → ¬ (Call.confirmBooking id pc).PastGuard sh.clock) :
    StaysReleased id sh' ∧
      (id ∈ sh'.released → ¬ (Call.confirmBooking id pc').PastGuard sh'.clock) := by
  cases hm with
  | fail err => exact ⟨hG, fun _ h => h⟩
  | find hb => exact ⟨hG, fun hr hp => (hG hr _ hb).1 hp.1⟩
  | guardExpired hp he => exact ⟨hG, fun _ h => h⟩
  | guardPassed hp he => exact ⟨hG, fun hr _ => hP hr ⟨hp, he⟩⟩
  | expire =>
    refine ⟨fun _ b hb => ?_, fun _ h => h⟩
    rw [status_of_find_setStatus hb]
    exact ⟨by decide, by decide⟩
  | confirm hb => exact ⟨fun hr => absurd trivial (hP hr), fun hr => absurd trivial (hP hr)⟩

theorem releaseOutline (env : Env) (T : Tokens) (id : String) :
    Pool.Outline (service env T) ReleasesClear (StaysReleased id) (ReleaseAssertion id) where
  env s d sh h _ he := by
    cases he
    exact ⟨h.1, fun i p hp => (h.2 i p hp).frame (by simp) (fun hr => hr) (h.2 i p hp).1⟩
  own s i p e sh p' h _ hp ha := by
    have hi := h.2 i p hp
    cases p with
    | createHold a pc => exact hi.2.elim
    | confirmBooking j pc =>
      obtain ⟨pc', rfl, hm⟩ := act_confirmBooking ha
      obtain rfl : j = id := hi.2
      obtain ⟨hG, hP⟩ := hm.staysReleased h.1 hi.1
      exact ⟨hG, hP, rfl⟩
    | releaseBooking j reason pc =>
      obtain ⟨pc', rfl, hm⟩ := act_releaseBooking ha
      obtain ⟨rfl, hpc⟩ : j = id ∧ _ := hi.2
      cases hm with
      | fail err => exact ⟨h.1, fun _ h => h, rfl, fun ⟨_, hr⟩ => by cases hr⟩
      | find ht hb =>
        refine ⟨h.1, fun _ h => h, rfl, ?_⟩
        rcases targetStatus_cases ht with rfl | rfl <;> exact ⟨by decide, by decide⟩
      | write hb =>
        refine ⟨fun _ b hb' => ?_, fun _ h => h, rfl, fun _ => List.mem_cons_self⟩
        rw [status_of_find_setStatus hb']
        exact hpc
  other s i p e sh p' j q h ho hp ha _ hq := by
    have hj := h.2 j q hq
    have hi := h.2 i p hp
    cases p with
    | createHold a pc => exact hi.2.elim
    | confirmBooking k pc =>
      obtain ⟨pc', rfl, hm⟩ := act_confirmBooking ha
      exact hj.frame hm.frame.2.1.ge (by rw [hm.frame.2.2.2]; exact fun hr => hr)
        (by rw [hm.frame.2.2.2]; exact hj.1)
    | releaseBooking k reason pc =>
      cases hf : e.fault with
      | true =>
        -- a write that throws changes nothing
        obtain ⟨pc', rfl, hm⟩ := act_releaseBooking ha
        cases hm with
        | fail _ | find _ _ => exact hj
        | write hb => simp [service, callStep, releaseStep, writeStatus, hf] at ha
      | false =>
        obtain ⟨pc', rfl, hm⟩ := act_releaseBooking ha
        cases hm with
        | fail _ | find _ _ => exact hj
        | write hb =>
          exact hj.frame le_rfl (fun hr => List.mem_cons_of_mem _ hr) fun _ =>
            ho hf ⟨_, hp, trivial⟩ q (List.mem_of_getElem? hq)

end

/-- **A released booking is not taken back**, when no release is written while a
confirmation is past its guard. -/
theorem not_takenBack {env : Env} {T : Tokens} {id : String} {s : Pool Shared Call}
    (h : (confirmsAndReleases env T id).Reach ReleasesClear s) : ¬ TakenBack id s := by
  rintro ⟨⟨i, reason, row, hp⟩, b, hb, hs⟩
  have hI := Pool.invariant (releaseOutline env T id) (fun s hi => ⟨?_, fun j p hj => ?_⟩) h
  · exact (hI.1 ((hI.2 i _ hp).2.2 ⟨row, rfl⟩) b hb).2 hs
  · exact fun hr => by rw [hi.released] at hr; cases hr
  · rcases hi.fresh p (List.mem_of_getElem? hj) with rfl | ⟨r, rfl⟩
    · exact ⟨fun _ h => h, rfl⟩
    · exact ⟨fun _ h => h, rfl, trivial⟩

/-- One confirmation and one cancellation of booking `b`. -/
def twoCalls : Pool Shared Call where
  shared := ⟨⟨[⟨"b", "t", "1", "ann", 1, 2, .PENDING, some 300000⟩], by decide⟩,
    Leases.empty, 0, [], []⟩
  procs := [.confirmBooking "b" .start, .releaseBooking "b" "USER_CANCELLED" .start]

theorem twoCalls_init : OnPending "b" twoCalls := by
  refine ⟨⟨_, rfl, rfl⟩, rfl, fun p hp => ?_⟩
  simp only [twoCalls, List.mem_cons, List.not_mem_nil, or_false] at hp
  rcases hp with rfl | rfl
  · exact .inl rfl
  · exact .inr ⟨_, rfl⟩

/-- The state a list of events leads to from `twoCalls`. -/
def twoCallsAfter (es : List (Pool.Event StepIn Nat)) : Pool Shared Call :=
  (LTS.execAll (Pool.step (service ⟨5, 5000, .texts⟩ unaryTokens)) twoCalls es).getD twoCalls

/-- The confirmation is written first, then the cancellation. -/
theorem not_takenBack_in_order : ¬ TakenBack "b" (twoCallsAfter
    [.proc 0 {}, .proc 1 {}, .proc 0 {}, .proc 0 {}, .proc 1 {}]) :=
  @not_takenBack ⟨5, 5000, .texts⟩ unaryTokens "b" _ (LTS.reach_of_execAll
    [.proc 0 {}, .proc 1 {}, .proc 0 {}, .proc 0 {}, .proc 1 {}] twoCalls_init (by decide) rfl)

/-- **A cancelled booking taken back**: the cancellation returns between the guard
of the confirmation and its write. -/
theorem exists_takenBack : ¬ ∀ (env : Env) (T : Tokens) (id : String) (s : Pool Shared Call),
    (confirmsAndReleases env T id).Reachable s → ¬ TakenBack id s := by
  intro h
  refine h ⟨5, 5000, .texts⟩ unaryTokens "b" _ (LTS.reachable_of_execAll
    [.proc 0 {}, .proc 0 {}, .proc 1 {}, .proc 1 {}, .proc 0 {}] twoCalls_init rfl)
    ⟨⟨1, "USER_CANCELLED", _, rfl⟩, _, rfl, by decide⟩

end RouteGo.Bookings
