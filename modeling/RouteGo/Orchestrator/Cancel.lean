import RouteGo.Orchestrator.Money

/-!
# One cancellation

`cancelBooking` to its end, given what becomes of its three remote calls;
`cancelBooking_of_run` and `run_cancelBooking` relate it to the steps. The refund
and the release go to two services and nothing ties them together: the booking is
`CANCELLED` when the release arrives, the payment `REFUNDED` when it is named and
the refund arrives (`cancelled_refunded`).
-/

namespace RouteGo.Orchestrator

open Js Bookings Payments

/-- What becomes of the remote calls of a cancellation. -/
structure CancelOutcomes where
  refund : Outcome := .replied
  release : Outcome := .replied
  publish : Outcome := .replied

/-- The refund, whose errors are swallowed. -/
def refundIfGiven (sh : Shared) (paymentId : Option String) (o : Outcome) : Shared :=
  match paymentId with
  | some p => if p = "" then sh else (sh.remote o (refund p)).2
  | none => sh

def releaseAndPublish (sh : Shared) (i : Nat) (bookingId : String) (paymentId : Option String)
    (release published : Outcome) : Result CancelBookingResult × Shared :=
  match sh.remote release (releaseBooking bookingId "USER_CANCELLED") with
  | (.error err, sh) => (.error err, sh)
  | (.ok _, sh) =>
    match publish sh i published (.BookingCancelled bookingId paymentId) with
    | (.error err, sh) => (.error err, sh)
    | (.ok (), sh) => (.ok ⟨true, bookingId, "Booking cancelled and released successfully"⟩, sh)

def cancelBooking (sh : Shared) (i : Nat) (bookingId : String) (paymentId : Option String)
    (o : CancelOutcomes) : Result CancelBookingResult × Shared :=
  if bookingId = "" then
    (.error (.ValidationError "bookingId is required for cancellation"), sh)
  else releaseAndPublish
    (refundIfGiven sh paymentId o.refund) i bookingId paymentId o.release o.publish

/-! ## The steps -/

/-- The steps of one cancellation, from `sh₀`. -/
def cancelRuns (sh₀ : Shared) (i : Nat) (bookingId : String) (paymentId : Option String) :
    LTS (Shared × CancelPc) StepIn :=
  .ofFn (fun s => s = (sh₀, .start)) fun s e => cancelStep s.1 i bookingId paymentId e s.2

/-- How far a cancellation has come. -/
def CancelProgress (sh₀ : Shared) (i : Nat) (id : String) (paymentId : Option String)
    (sh : Shared) : CancelPc → Prop
  | .start => sh = sh₀
  | .refunding p => id ≠ "" ∧ paymentId = some p ∧ p ≠ "" ∧ sh = sh₀
  | .releasing => id ≠ "" ∧ ∃ o, sh = refundIfGiven sh₀ paymentId o
  | .publishing => id ≠ "" ∧ ∃ o o' b, (refundIfGiven sh₀ paymentId o).remote o'
      (releaseBooking id "USER_CANCELLED") = (.ok b, sh)
  | .done res => ∃ o, cancelBooking sh₀ i id paymentId o = (res, sh)

section
variable {sh₀ sh sh' : Shared} {i : Nat} {id : String} {paymentId : Option String} {e : StepIn}

theorem CancelProgress.step {pc pc' : CancelPc} (h : CancelProgress sh₀ i id paymentId sh pc)
    (hs : cancelStep sh i id paymentId e pc = some (sh', pc')) :
    CancelProgress sh₀ i id paymentId sh' pc' := by
  cases pc with
  | start =>
    obtain rfl : sh = sh₀ := h
    simp only [cancelStep] at hs
    split at hs
    · next hid => cases hs; exact ⟨{}, by rw [cancelBooking, if_pos hid]⟩
    · next hid =>
      split at hs
      · next p =>
        split at hs
        · next hp => cases hs; exact ⟨hid, .replied, by rw [refundIfGiven, if_pos hp]⟩
        · next hp => cases hs; exact ⟨hid, rfl, hp, rfl⟩
      · cases hs; exact ⟨hid, .replied, rfl⟩
  | refunding p =>
    obtain ⟨hid, rfl, hp, rfl⟩ := h
    cases hs
    exact ⟨hid, e.outcome, by rw [refundIfGiven, if_neg hp]⟩
  | releasing =>
    obtain ⟨hid, o, rfl⟩ := h
    simp only [cancelStep] at hs
    split at hs
    · next err sh₁ hr =>
      cases hs
      refine ⟨⟨o, e.outcome, .replied⟩, ?_⟩
      rw [cancelBooking, if_neg hid, releaseAndPublish, hr]
    · next b sh₁ hr => cases hs; exact ⟨hid, o, e.outcome, b, hr⟩
  | publishing =>
    obtain ⟨hid, o, o', b, hr⟩ := h
    simp only [cancelStep] at hs
    split at hs
    · next err sh₁ hp =>
      cases hs
      refine ⟨⟨o, o', e.outcome⟩, ?_⟩
      rw [cancelBooking, if_neg hid, releaseAndPublish, hr]
      simp only [hp]
    · next sh₁ hp =>
      cases hs
      refine ⟨⟨o, o', e.outcome⟩, ?_⟩
      rw [cancelBooking, if_neg hid, releaseAndPublish, hr]
      simp only [hp]
  | done res => cases hs

/-- A run of the steps that ends is `cancelBooking`. -/
theorem cancelBooking_of_run {res : Result CancelBookingResult}
    (h : (cancelRuns sh₀ i id paymentId).Reachable (sh, .done res)) :
    ∃ o, cancelBooking sh₀ i id paymentId o = (res, sh) := by
  have hI := h.invariant (I := fun s => CancelProgress sh₀ i id paymentId s.1 s.2)
    (fun s hs => by rw [show s = (sh₀, .start) from hs]; exact rfl)
    fun _ _ _ _ hp _ hs => hp.step hs
  exact hI

theorem cancelRuns_step {pc pc' : CancelPc} (h : (cancelRuns sh₀ i id paymentId).Reachable (sh, pc))
    (hs : cancelStep sh i id paymentId e pc = some (sh', pc')) :
    (cancelRuns sh₀ i id paymentId).Reachable (sh', pc') := h.snoc (e := e) trivial hs

theorem run_refundIfGiven (hid : id ≠ "") (o : Outcome) :
    (cancelRuns sh₀ i id paymentId).Reachable (refundIfGiven sh₀ paymentId o, .releasing) := by
  have h0 : (cancelRuns sh₀ i id paymentId).Reachable (sh₀, .start) := .of_init rfl
  cases paymentId with
  | none =>
    exact cancelRuns_step (e := { outcome := o }) h0 (by simp [cancelStep, hid, refundIfGiven])
  | some p =>
    by_cases hp : p = ""
    · exact cancelRuns_step (e := { outcome := o }) h0
        (by simp [cancelStep, hid, hp, refundIfGiven])
    · have h1 : (cancelRuns sh₀ i id (some p)).Reachable (sh₀, .refunding p) :=
        cancelRuns_step (e := { outcome := o }) h0 (by simp [cancelStep, hid, hp])
      exact cancelRuns_step (e := { outcome := o }) h1
        (by simp [cancelStep, hp, refundIfGiven])

/-- `cancelBooking` is a run of the steps. -/
theorem run_cancelBooking (o : CancelOutcomes) : (cancelRuns sh₀ i id paymentId).Reachable
    ((cancelBooking sh₀ i id paymentId o).2, .done (cancelBooking sh₀ i id paymentId o).1) := by
  unfold cancelBooking
  split
  · next hid =>
    exact cancelRuns_step (e := { outcome := .replied }) (.of_init rfl)
      (by simp [cancelStep, hid])
  · next hid =>
    have h1 : (cancelRuns sh₀ i id paymentId).Reachable
        (refundIfGiven sh₀ paymentId o.refund, .releasing) := run_refundIfGiven hid o.refund
    unfold releaseAndPublish
    split
    · next err sh₁ hr =>
      exact cancelRuns_step (e := { outcome := o.release }) h1 (by simp [cancelStep, hr])
    · next b sh₁ hr =>
      have h2 : (cancelRuns sh₀ i id paymentId).Reachable (sh₁, .publishing) :=
        cancelRuns_step (e := { outcome := o.release }) h1 (by simp [cancelStep, hr])
      split
      · next err sh₂ hp =>
        exact cancelRuns_step (e := { outcome := o.publish }) h2 (by simp [cancelStep, hp])
      · next sh₂ hp =>
        exact cancelRuns_step (e := { outcome := o.publish }) h2 (by simp [cancelStep, hp])

end

/-! ## What a cancellation leaves -/

def World.paymentStatus (w : World) (paymentId : String) : Option PaymentStatus :=
  (findById w.payments paymentId).map Payment.status

section
variable {sh : Shared} {i : Nat} {id : String} {paymentId : Option String} {p : Payment}

theorem world_releaseAndPublish (o o' : Outcome) :
    (releaseAndPublish sh i id paymentId o o').2.world =
      (remote o (releaseBooking id "USER_CANCELLED") sh.world).2 := by
  unfold releaseAndPublish
  cases hr : sh.remote o (releaseBooking id "USER_CANCELLED") with
  | mk r sh₁ =>
    have hw : sh₁.world = (remote o (releaseBooking id "USER_CANCELLED") sh.world).2 :=
      (congrArg (fun x => x.2.world) hr).symm
    cases r with
    | error err => exact hw
    | ok b =>
      simp only
      split <;> rename_i hp
      · exact (congrArg (fun x => x.2.world) hp).symm.trans hw
      · exact (congrArg (fun x => x.2.world) hp).symm.trans hw

theorem bookings_refundIfGiven (o : Outcome) :
    (refundIfGiven sh paymentId o).world.bookings = sh.world.bookings := by
  unfold refundIfGiven
  split
  · next q =>
    split
    · rfl
    · show (remote o (refund q) sh.world).2.bookings = _
      rw [remote_snd]
      split
      · rfl
      · exact (refund_effect q sh.world).1
  · rfl

/-- The release decides what becomes of a booking that exists. -/
theorem status_releaseAndPublish {b : Booking} (hid : id ≠ "")
    (hb : sh.world.bookings.find id = some b)
    (o o' : Outcome) : (releaseAndPublish sh i id paymentId o o').2.world.status id =
      if o = .failed then some b.status else some .CANCELLED := by
  rw [world_releaseAndPublish, remote_snd]
  split
  · rw [World.status, hb]; rfl
  · rw [releaseBooking_of_find hid rfl hb, World.status, status_setStatus _ hb]

theorem paymentStatus_releaseAndPublish (o o' : Outcome) (j : String) :
    (releaseAndPublish sh i id paymentId o o').2.world.paymentStatus j =
      sh.world.paymentStatus j := by
  rw [world_releaseAndPublish, remote_snd]
  split
  · rfl
  · rw [World.paymentStatus, (releaseBooking_effect id "USER_CANCELLED" sh.world).1,
      World.paymentStatus]

/-- The refund decides what becomes of a payment that has succeeded. -/
theorem paymentStatus_refund (hid : NoSpace id) (hp : findById sh.world.payments id = some p)
    (hs : p.status = .SUCCEEDED) (o : Outcome) :
    (sh.remote o (refund id)).2.world.paymentStatus id =
      if o = .failed then some .SUCCEEDED else some .REFUNDED := by
  show (remote o (refund id) sh.world).2.paymentStatus id = _
  rw [remote_snd]
  split
  · rw [World.paymentStatus, hp, Option.map_some, hs]
  · rw [refund_of_succeeded hid hp hs, World.paymentStatus,
      findById_setStatus_self .REFUNDED none hp]
    rfl

/-- **Refund and cancellation go their own ways.** -/
theorem cancelled_refunded {b : Booking} (hid : NoSpace id)
    (hb : sh.world.bookings.find id = some b)
    (hst : b.status = .CONFIRMED) (hpid : NoSpace p.id) (hp : p ∈ sh.world.payments.rows)
    (hs : p.status = .SUCCEEDED) (hpay : paymentId = some p.id ∨ paymentId = none)
    (o : CancelOutcomes) :
    ((cancelBooking sh i id paymentId o).2.world.status id = some .CANCELLED ↔
      o.release ≠ .failed) ∧
    ((cancelBooking sh i id paymentId o).2.world.paymentStatus p.id = some .REFUNDED ↔
      paymentId = some p.id ∧ o.refund ≠ .failed) := by
  have hf : findById sh.world.payments p.id = some p := Table.find_key hp
  rw [cancelBooking, if_neg hid.1]
  constructor
  · rw [status_releaseAndPublish (b := b) hid.1 (by rw [bookings_refundIfGiven, hb]), hst]
    split <;> simp_all
  · rw [paymentStatus_releaseAndPublish]
    rcases hpay with rfl | rfl
    · rw [refundIfGiven, if_neg hpid.1, paymentStatus_refund hpid hf hs]
      split <;> simp_all
    · simp [refundIfGiven, World.paymentStatus, hf, hs]

/-- A booking confirmed and paid for. -/
def annConfirmed : Shared := (annsSagaAfter [{ rowId := "b1" }, { rowId := "p1" }, {}, {}]).shared

def annsBooking : Booking := ⟨"b1", "t1", "s1", "ann", 1, 3, .CONFIRMED, some 300000⟩

def annsPayment : Payment :=
  ⟨"p1", "b1", "ann", ⟨45000, by decide⟩, "INR", .SUCCEEDED, "booking-b1", none⟩

/-- The refund arrives and the release does not. -/
theorem cancelled_refunded_ann :
    ((cancelBooking annConfirmed 1 "b1" (some "p1") { release := .failed }).2.world.status "b1" =
        some .CANCELLED ↔ Outcome.failed ≠ .failed) ∧
    ((cancelBooking annConfirmed 1 "b1" (some "p1") { release := .failed }).2.world.paymentStatus
        annsPayment.id = some .REFUNDED ↔ some "p1" = some annsPayment.id ∧
      Outcome.replied ≠ .failed) :=
  @cancelled_refunded annConfirmed 1 "b1" (some "p1") annsPayment annsBooking (by decide)
    (by decide) rfl (by decide) (by decide) rfl (.inl rfl) { release := .failed }

def AllOrNothing (w : World) (bookingId paymentId : String) : Prop :=
  w.status bookingId = some .CANCELLED ↔ w.paymentStatus paymentId = some .REFUNDED

instance (w : World) (bookingId paymentId : String) :
    Decidable (AllOrNothing w bookingId paymentId) :=
  inferInstanceAs (Decidable (_ ↔ _))

/-- **Cancelled and not refunded**, without the payment id; **refunded and not
cancelled**, when the release does not arrive. -/
theorem exists_not_allOrNothing :
    annConfirmed.world.status "b1" = some .CONFIRMED ∧
      annsPayment ∈ annConfirmed.world.payments.rows ∧
      ¬ AllOrNothing (cancelBooking annConfirmed 1 "b1" none {}).2.world "b1" "p1" ∧
      ¬ AllOrNothing (cancelBooking annConfirmed 1 "b1" (some "p1") { release := .failed }).2.world
        "b1" "p1" := by decide

end

end RouteGo.Orchestrator
