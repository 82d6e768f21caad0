import RouteGo.Lib.Pool
import RouteGo.Orchestrator.World

/-!
# `BookingOrchestratorService`

The two sagas of `bookingOrchestrator.service.ts`, one step a remote call or a
publish; the steps of other calls and of other clients run between them.
`ConfirmMove` and `CancelMove` say once what the steps do.

`issued` is the history of a run, which no step reads: the events published,
each with the status its booking has in the store at that moment.
-/

namespace RouteGo.Orchestrator

open Js Bookings Payments

structure ConfirmBookingInput where
  tripId : Value
  seatId : Value
  userId : String
  fromStopSeq : Value
  toStopSeq : Value
  amount : Value
  currency : Value

structure ConfirmBookingResult where
  success : Bool
  booking : Option Booking
  payment : Option ChargeResult
  failureReason : Option String

structure CancelBookingResult where
  success : Bool
  bookingId : String
  message : String

/-! ## Events -/

inductive Event where
  | BookingConfirmed (bookingId userId : String) (tripId seatId amount currency : Value)
      (paymentId : String)
  | BookingFailed (bookingId userId failureReason : String)
  | BookingCancelled (bookingId : String) (paymentId : Option String)

def Event.bookingId : Event → String
  | .BookingConfirmed b _ _ _ _ _ _ | .BookingFailed b _ _ | .BookingCancelled b _ => b

structure Issued where
  call : Nat
  event : Event
  stored : Option BookingStatus

structure Shared where
  world : World
  issued : List Issued

def kafkaError : AppError := .Error "Failed to connect Kafka producer"

/-- `eventPublisher.publish`: the record of the event, and whether it throws. -/
def publish (sh : Shared) (i : Nat) (o : Outcome) (event : Event) : Result Unit × Shared :=
  (if o = .replied then .ok () else .error kafkaError,
    { sh with issued := sh.issued ++ [⟨i, event, sh.world.status event.bookingId⟩] })

/-- A remote call, on the shared state. -/
def Shared.remote {α : Type} (sh : Shared) (o : Outcome) (serve : World → Result α × World) :
    Result α × Shared :=
  let r := Orchestrator.remote o serve sh.world
  (r.1, { sh with world := r.2 })

/-! ## `confirmBooking` -/

/-- The checks of `confirmBooking`. -/
def validateConfirm (input : ConfirmBookingInput) : Result Unit :=
  if !input.tripId.truthy || !input.seatId.truthy || input.userId = "" then
    .error (.ValidationError "tripId, seatId, and userId are required")
  else match input.fromStopSeq, input.toStopSeq with
    | .number f, .number t =>
      if f.ge t then .error (.ValidationError
        "fromStopSeq and toStopSeq must be valid numbers with fromStopSeq < toStopSeq")
      else match input.amount with
        | .number a =>
          if a.le (.ofInt 0) then .error (.ValidationError "amount must be a positive number")
          else .ok ()
        | _ => .error (.ValidationError "amount must be a positive number")
    | _, _ => .error (.ValidationError
        "fromStopSeq and toStopSeq must be valid numbers with fromStopSeq < toStopSeq")

def holdRequest (input : ConfirmBookingInput) : HoldRequest :=
  ⟨input.tripId, input.seatId, input.userId, input.fromStopSeq, input.toStopSeq⟩

def chargeRequest (input : ConfirmBookingInput) (bookingId : String) : ChargeRequest :=
  ⟨bookingId, input.userId, input.amount, orINR input.currency, idempotencyKeyOf bookingId⟩

/-- `chargeResult.failureReason || "Payment declined"` -/
def declineReason (payment : ChargeResult) : String :=
  match payment.failureReason with
  | some r => if r = "" then "Payment declined" else r
  | none => "Payment declined"

def confirmedEvent (input : ConfirmBookingInput) (bookingId : String) (payment : ChargeResult) :
    Event :=
  .BookingConfirmed bookingId input.userId input.tripId input.seatId input.amount
    (orINR input.currency) payment.paymentId

def failedEvent (input : ConfirmBookingInput) (bookingId : String)
    (payment : ChargeResult) : Event :=
  .BookingFailed bookingId input.userId (declineReason payment)

/-- `hold` is the booking of the call. A `done` call names it too, even if the
reply that named it was lost. -/
inductive ConfirmPc where
  | start
  | charging (hold : Booking)
  | confirming (hold : Booking) (payment : ChargeResult)
  | publishingConfirmed (hold confirmed : Booking) (payment : ChargeResult)
  | releasing (hold : Booking) (payment : ChargeResult)
  | publishingFailed (hold : Booking) (payment : ChargeResult)
  | compensating (hold : Booking) (error : AppError)
  | done (hold : Option Booking) (res : Result ConfirmBookingResult)

def ConfirmPc.hold : ConfirmPc → Option Booking
  | .start => none
  | .charging b | .confirming b _ | .publishingConfirmed b _ _ | .releasing b _
  | .publishingFailed b _ | .compensating b _ => some b
  | .done o _ => o

/-- The row a hold added, whatever became of the reply. -/
def createdRow (o : Outcome) (r : Result Booking) : Option Booking :=
  match o, r with
  | .failed, _ => none
  | _, .ok b => some b
  | _, .error _ => none

def confirmStep (env : Env) (sh : Shared) (i : Nat) (input : ConfirmBookingInput) (e : StepIn) :
    ConfirmPc → Option (Shared × ConfirmPc)
  | .start =>
    match validateConfirm input with
    | .error err => some (sh, .done none (.error err))
    | .ok () =>
      let serve := createHold env e (holdRequest input)
      if sh.world.Fresh e.rowId then
        match sh.remote e.outcome serve with
        | (.error err, sh') =>
          some (sh', .done (createdRow e.outcome (serve sh.world).1) (.error err))
        | (.ok hold, sh') => some (sh', .charging hold)
      else none
  | .charging hold =>
    match sh.remote e.outcome (charge e (chargeRequest input hold.id)) with
    | (.error err, sh') => some (sh', .compensating hold err)
    | (.ok payment, sh') =>
      if payment.status = .SUCCEEDED then some (sh', .confirming hold payment)
      else some (sh', .releasing hold payment)
  | .confirming hold payment =>
    match sh.remote e.outcome (confirmBooking hold.id) with
    | (.error err, sh') => some (sh', .compensating hold err)
    | (.ok confirmed, sh') => some (sh', .publishingConfirmed hold confirmed payment)
  | .publishingConfirmed hold confirmed payment =>
    match publish sh i e.outcome (confirmedEvent input hold.id payment) with
    | (.error err, sh') => some (sh', .done hold (.error err))
    | (.ok (), sh') => some (sh', .done hold (.ok ⟨true, confirmed, payment, none⟩))
  | .releasing hold payment =>
    match sh.remote e.outcome (releaseBooking hold.id "PAYMENT_FAILED") with
    | (.error err, sh') => some (sh', .compensating hold err)
    | (.ok _, sh') => some (sh', .publishingFailed hold payment)
  | .publishingFailed hold payment =>
    match publish sh i e.outcome (failedEvent input hold.id payment) with
    | (.error err, sh') => some (sh', .compensating hold err)
    | (.ok (), sh') => some (sh', .done hold (.ok ⟨false, none, payment, declineReason payment⟩))
  | .compensating hold err =>
    some ((sh.remote e.outcome (releaseBooking hold.id "PAYMENT_FAILED")).2,
      .done hold (.error err))
  | .done _ _ => none

/-! ## `cancelBooking` -/

inductive CancelPc where
  | start
  | refunding (paymentId : String)
  | releasing
  | publishing
  | done (res : Result CancelBookingResult)

def cancelStep (sh : Shared) (i : Nat) (bookingId : String) (paymentId : Option String)
    (e : StepIn) : CancelPc → Option (Shared × CancelPc)
  | .start =>
    if bookingId = "" then
      some (sh, .done (.error (.ValidationError "bookingId is required for cancellation")))
    else match paymentId with
      | some p => if p = "" then some (sh, .releasing) else some (sh, .refunding p)
      | none => some (sh, .releasing)
  | .refunding p => some ((sh.remote e.outcome (refund p)).2, .releasing)
  | .releasing =>
    match sh.remote e.outcome (releaseBooking bookingId "USER_CANCELLED") with
    | (.error err, sh') => some (sh', .done (.error err))
    | (.ok _, sh') => some (sh', .publishing)
  | .publishing =>
    match publish sh i e.outcome (.BookingCancelled bookingId paymentId) with
    | (.error err, sh') => some (sh', .done (.error err))
    | (.ok (), sh') => some (sh', .done (.ok
        ⟨true, bookingId, "Booking cancelled and released successfully"⟩))
  | .done _ => none

inductive Call where
  | confirmBooking (input : ConfirmBookingInput) (pc : ConfirmPc)
  | cancelBooking (bookingId : String) (paymentId : Option String) (pc : CancelPc)

def orchestrator (env : Env) : Pool.Spec Shared Call StepIn Op where
  act sh i p e := match p with
    | .confirmBooking input pc =>
      (confirmStep env sh i input e pc).map fun r => (r.1, .confirmBooking input r.2)
    | .cancelBooking b p pc => (cancelStep sh i b p e pc).map fun r => (r.1, .cancelBooking b p r.2)
  env sh op := some { sh with world := sh.world.exec env op }

/-! ## What a step does -/

/-- A remote call that throws left the world alone or has taken effect. -/
def MayHave (sh : Shared) (served : World) (sh' : Shared) : Prop :=
  sh' = sh ∨ sh' = { sh with world := served }

/-- The moves of `confirmBooking`. -/
inductive ConfirmMove (env : Env) (sh : Shared) (i : Nat) (input : ConfirmBookingInput)
    (e : StepIn) : ConfirmPc → Shared → ConfirmPc → Prop
  | reject (err) : ConfirmMove env sh i input e .start sh (.done none (.error err))
  | holdFailed (err) : ConfirmMove env sh i input e .start sh (.done none (.error err))
  | holdThrew {err o} (hf : sh.world.Fresh e.rowId)
      (ho : (createHold env e (holdRequest input) sh.world).1.toOption = o) :
      ConfirmMove env sh i input e .start
        { sh with world := (createHold env e (holdRequest input) sh.world).2 }
          (.done o (.error err))
  | hold {b} (hf : sh.world.Fresh e.rowId)
      (h : (createHold env e (holdRequest input) sh.world).1 = .ok b) :
      ConfirmMove env sh i input e .start
        { sh with world := (createHold env e (holdRequest input) sh.world).2 } (.charging b)
  | chargeThrew {b sh'} (err)
      (h : MayHave sh (charge e (chargeRequest input b.id) sh.world).2 sh') :
      ConfirmMove env sh i input e (.charging b) sh' (.compensating b err)
  | charged {b c} (h : (charge e (chargeRequest input b.id) sh.world).1 = .ok c)
      (hs : c.status = .SUCCEEDED) :
      ConfirmMove env sh i input e (.charging b)
        { sh with world := (charge e (chargeRequest input b.id) sh.world).2 } (.confirming b c)
  | declined {b c} (h : (charge e (chargeRequest input b.id) sh.world).1 = .ok c)
      (hs : c.status ≠ .SUCCEEDED) :
      ConfirmMove env sh i input e (.charging b)
        { sh with world := (charge e (chargeRequest input b.id) sh.world).2 } (.releasing b c)
  | confirmThrew {b c sh'} (err) (h : MayHave sh (confirmBooking b.id sh.world).2 sh') :
      ConfirmMove env sh i input e (.confirming b c) sh' (.compensating b err)
  | confirmed {b c cb} (h : (confirmBooking b.id sh.world).1 = .ok cb) :
      ConfirmMove env sh i input e (.confirming b c)
        { sh with world := (confirmBooking b.id sh.world).2 } (.publishingConfirmed b cb c)
  | publishConfirmed {b cb c} (res) (h : ∀ r, res = .ok r → r.success = true) :
      ConfirmMove env sh i input e (.publishingConfirmed b cb c)
        (publish sh i e.outcome (confirmedEvent input b.id c)).2 (.done b res)
  | releaseThrew {b c sh'} (err)
      (h : MayHave sh (releaseBooking b.id "PAYMENT_FAILED" sh.world).2 sh') :
      ConfirmMove env sh i input e (.releasing b c) sh' (.compensating b err)
  | released {b c b'} (h : (releaseBooking b.id "PAYMENT_FAILED" sh.world).1 = .ok b') :
      ConfirmMove env sh i input e (.releasing b c)
        { sh with world := (releaseBooking b.id "PAYMENT_FAILED" sh.world).2 }
          (.publishingFailed b c)
  | publishFailedThrew {b c} (err) : ConfirmMove env sh i input e (.publishingFailed b c)
      (publish sh i e.outcome (failedEvent input b.id c)).2 (.compensating b err)
  | publishFailed {b c r} (h : r.success = false) :
      ConfirmMove env sh i input e (.publishingFailed b c)
        (publish sh i e.outcome (failedEvent input b.id c)).2 (.done b (.ok r))
  | compensate {b err} : ConfirmMove env sh i input e (.compensating b err)
      (sh.remote e.outcome (releaseBooking b.id "PAYMENT_FAILED")).2 (.done b (.error err))

/-- A remote call on the shared state. -/
theorem Shared.remote_cases {α : Type} (sh : Shared) (o : Outcome)
    (serve : World → Result α × World) :
    (∃ err sh', sh.remote o serve = (.error err, sh') ∧ MayHave sh (serve sh.world).2 sh') ∨
    ∃ a, sh.remote o serve = (.ok a, { sh with world := (serve sh.world).2 }) ∧
      (serve sh.world).1 = .ok a := by
  unfold Shared.remote
  rcases Orchestrator.remote_cases o serve sh.world with ⟨e, h, -⟩ | ⟨e, h, -⟩ | ⟨a, h, ha, -⟩ <;>
    rw [h]
  · exact .inl ⟨e, sh, rfl, .inl rfl⟩
  · exact .inl ⟨e, _, rfl, .inr rfl⟩
  · exact .inr ⟨a, rfl, ha⟩

theorem confirmStep_move {env : Env} {sh sh' : Shared} {i : Nat} {input : ConfirmBookingInput}
    {e : StepIn} {pc pc' : ConfirmPc} (h : confirmStep env sh i input e pc = some (sh', pc')) :
    ConfirmMove env sh i input e pc sh' pc' := by
  cases pc with
  | start =>
    simp only [confirmStep] at h
    split at h
    · cases h; exact .reject _
    · split at h
      · next hf =>
        rcases Orchestrator.remote_cases e.outcome (createHold env e (holdRequest input))
          sh.world with
          ⟨err, hr, ho⟩ | ⟨err, hr, ho⟩ | ⟨b, hr, hb, ho⟩ <;>
          simp only [Shared.remote, hr, Option.some.injEq, Prod.mk.injEq] at h <;>
          obtain ⟨rfl, rfl⟩ := h
        · rw [ho]; exact .holdFailed _
        · refine .holdThrew hf ?_
          cases hs : (createHold env e (holdRequest input) sh.world).1 <;> cases hx : e.outcome <;>
            simp_all [createdRow, Except.toOption]
        · exact .hold hf hb
      · cases h
  | charging b =>
    rcases sh.remote_cases e.outcome (charge e (chargeRequest input b.id)) with
      ⟨err, sh₁, hr, hm⟩ | ⟨c, hr, hc⟩ <;> simp only [confirmStep, hr] at h
    · cases h; exact .chargeThrew _ hm
    · split at h
      · next hs => cases h; exact .charged hc hs
      · next hs => cases h; exact .declined hc hs
  | confirming b c =>
    rcases sh.remote_cases e.outcome (confirmBooking b.id) with
      ⟨err, sh₁, hr, hm⟩ | ⟨cb, hr, hc⟩ <;> simp only [confirmStep, hr] at h <;> cases h
    · exact .confirmThrew _ hm
    · exact .confirmed hc
  | publishingConfirmed b cb c =>
    simp only [confirmStep] at h
    split at h <;> rename_i hp <;> cases h <;>
      obtain rfl : (publish sh i e.outcome (confirmedEvent input b.id c)).2 = sh' :=
        congrArg Prod.snd hp
    · exact .publishConfirmed _ fun r hr => by cases hr
    · exact .publishConfirmed _ fun r hr => by cases hr; rfl
  | releasing b c =>
    rcases sh.remote_cases e.outcome (releaseBooking b.id "PAYMENT_FAILED") with
      ⟨err, sh₁, hr, hm⟩ | ⟨b', hr, hc⟩ <;> simp only [confirmStep, hr] at h <;> cases h
    · exact .releaseThrew _ hm
    · exact .released hc
  | publishingFailed b c =>
    simp only [confirmStep] at h
    split at h <;> rename_i hp <;> cases h <;>
      obtain rfl : (publish sh i e.outcome (failedEvent input b.id c)).2 = sh' :=
        congrArg Prod.snd hp
    · exact .publishFailedThrew _
    · exact .publishFailed rfl
  | compensating b err =>
    simp only [confirmStep, Option.some.injEq, Prod.mk.injEq] at h
    obtain ⟨rfl, rfl⟩ := h
    exact .compensate
  | done o res => cases h

/-- What a step that charges makes of the stores. -/
theorem ConfirmMove.charging {env : Env} {sh sh' : Shared} {i : Nat} {input : ConfirmBookingInput}
    {e : StepIn} {b : Booking} {pc' : ConfirmPc}
    (hm : ConfirmMove env sh i input e (.charging b) sh' pc') :
    sh'.world = sh.world ∨ sh'.world = (charge e (chargeRequest input b.id) sh.world).2 := by
  cases hm with
  | chargeThrew _ h =>
    rcases h with rfl | rfl
    · exact .inl rfl
    · exact .inr rfl
  | charged _ _ | declined _ _ => exact .inr rfl

/-- The steps of a saga are those that charge and the others. -/
theorem ConfirmPc.charging_or (pc : ConfirmPc) :
    (∃ b, pc = .charging b) ∨ ∀ b, pc ≠ .charging b := by
  cases pc with
  | charging b => exact .inl ⟨b, rfl⟩
  | _ => exact .inr fun b hb => nomatch hb

/-- The moves of `cancelBooking`. -/
inductive CancelMove (sh : Shared) (i : Nat) (bookingId : String) (paymentId : Option String)
    (e : StepIn) : CancelPc → Shared → CancelPc → Prop
  | enter (pc') : CancelMove sh i bookingId paymentId e .start sh pc'
  | refund {p} : CancelMove sh i bookingId paymentId e (.refunding p)
      (sh.remote e.outcome (refund p)).2 .releasing
  | release (pc') : CancelMove sh i bookingId paymentId e .releasing
      (sh.remote e.outcome (releaseBooking bookingId "USER_CANCELLED")).2 pc'
  | publish (pc') : CancelMove sh i bookingId paymentId e .publishing
      (publish sh i e.outcome (.BookingCancelled bookingId paymentId)).2 pc'

theorem cancelStep_move {sh sh' : Shared} {i : Nat} {bookingId : String} {paymentId : Option String}
    {e : StepIn} {pc pc' : CancelPc}
    (h : cancelStep sh i bookingId paymentId e pc = some (sh', pc')) :
    CancelMove sh i bookingId paymentId e pc sh' pc' := by
  cases pc with
  | start =>
    simp only [cancelStep] at h
    split at h
    · cases h; exact .enter _
    · split at h
      · split at h <;> cases h <;> exact .enter _
      · cases h; exact .enter _
  | refunding p =>
    simp only [cancelStep, Option.some.injEq, Prod.mk.injEq] at h
    obtain ⟨rfl, rfl⟩ := h
    exact .refund
  | releasing =>
    simp only [cancelStep] at h
    split at h <;> rename_i hr <;> cases h <;>
      obtain rfl : (sh.remote e.outcome (releaseBooking bookingId "USER_CANCELLED")).2 = sh' :=
        congrArg Prod.snd hr
    · exact .release _
    · exact .release _
  | publishing =>
    simp only [cancelStep] at h
    split at h <;> rename_i hp <;> cases h <;>
      obtain rfl : (publish sh i e.outcome (.BookingCancelled bookingId paymentId)).2 = sh' :=
        congrArg Prod.snd hp
    · exact .publish _
    · exact .publish _
  | done res => cases h

theorem act_confirmStep {env : Env} {sh sh' : Shared} {i : Nat} {input : ConfirmBookingInput}
    {pc : ConfirmPc} {p : Call} {e : StepIn}
    (h : (orchestrator env).act sh i (.confirmBooking input pc) e = some (sh', p)) :
    ∃ pc', p = .confirmBooking input pc' ∧ confirmStep env sh i input e pc = some (sh', pc') := by
  simp only [orchestrator, Option.map_eq_some_iff, Prod.mk.injEq] at h
  obtain ⟨⟨sh₁, pc'⟩, hs, rfl, rfl⟩ := h
  exact ⟨pc', rfl, hs⟩

theorem act_confirmBooking {env : Env} {sh sh' : Shared} {i : Nat} {input : ConfirmBookingInput}
    {pc : ConfirmPc} {p : Call} {e : StepIn}
    (h : (orchestrator env).act sh i (.confirmBooking input pc) e = some (sh', p)) :
    ∃ pc', p = .confirmBooking input pc' ∧ ConfirmMove env sh i input e pc sh' pc' := by
  obtain ⟨pc', hp, hs⟩ := act_confirmStep h
  exact ⟨pc', hp, confirmStep_move hs⟩

theorem act_cancelBooking {env : Env} {sh sh' : Shared} {i : Nat} {b : String}
    {paymentId : Option String} {pc : CancelPc} {p : Call} {e : StepIn}
    (h : (orchestrator env).act sh i (.cancelBooking b paymentId pc) e = some (sh', p)) :
    ∃ pc', p = .cancelBooking b paymentId pc' ∧ CancelMove sh i b paymentId e pc sh' pc' := by
  simp only [orchestrator, Option.map_eq_some_iff, Prod.mk.injEq] at h
  obtain ⟨⟨sh₁, pc'⟩, hs, rfl, rfl⟩ := h
  exact ⟨pc', rfl, cancelStep_move hs⟩

end RouteGo.Orchestrator
