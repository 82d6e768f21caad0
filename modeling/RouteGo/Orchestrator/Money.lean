import RouteGo.Orchestrator.Reply

/-!
# Money and seats

Call 0 is `confirmBooking`, every other call is `cancelBooking`, of its booking or
of others; remote calls fail or lose their reply, and time passes. A passenger
who stays charged keeps the seat (`seated_of_keepsSeat`) as long as the catch
block of the saga and the releases of `cancelBooking` do not take the seat from a
booking that is paid for; the catch block does not where charge and confirmation
are answered in time (`keepsSeat_of_answered`). They do in some runs
(`exists_charged_without_seat`): the catch block releases the booking and leaves
the payment, which `cancelBooking` refunds.
-/

namespace RouteGo.Orchestrator

open Js Bookings Payments

/-- Charged only with a seat. -/
def World.Settled (w : World) (bookingId : String) : Prop :=
  w.Paid bookingId → w.status bookingId = some .CONFIRMED

section
variable {env : Env} {w : World} {sh sh' : Shared} {i : Nat} {input : ConfirmBookingInput}
  {e : StepIn} {b id : String}

theorem settled_of_unpaid (h : ¬ w.Paid b) : w.Settled b := fun hp => absurd hp h

theorem not_paid_of_unbilled (h : ∀ p ∈ w.payments.rows, ¬ IsFor b p) : ¬ w.Paid b := by
  rintro ⟨p, hp, hf, -⟩
  exact h p hp hf

/-! ## Remote calls -/

/-- A release of another booking. -/
theorem status_releaseBooking_ne {reason : String} (h : b ≠ id) :
    (releaseBooking id reason w).2.status b = w.status b := by
  obtain ⟨-, ⟨err, -, hb⟩ | ⟨r, target, -, -, -, hb⟩⟩ := releaseBooking_effect id reason w
  · exact status_congr hb
  · rw [World.status, hb, find_setStatus_ne target h, World.status]

theorem paid_remote_releaseBooking {o : Outcome} {reason : String} :
    (remote o (releaseBooking id reason) w).2.Paid b ↔ w.Paid b := by
  rw [remote_snd]
  split
  · exact Iff.rfl
  · exact paid_congr (releaseBooking_effect id reason w).1

/-- A release that spares the seat of a passenger who paid. -/
theorem settled_remote_releaseBooking {o : Outcome} {reason : String} (h : w.Settled b)
    (hk : id = b → o ≠ .failed → ¬ w.Paid b) :
    (remote o (releaseBooking id reason) w).2.Settled b := by
  intro hp
  rw [paid_remote_releaseBooking] at hp
  have hst := h hp
  rw [remote_snd]
  split
  · exact hst
  · next ho =>
    have hne : b ≠ id := fun hb => hk hb.symm ho hp
    rw [status_releaseBooking_ne hne]
    exact hst

/-- A release takes the seat of a passenger who paid, unless it fails. -/
theorem settled_remote_releaseBooking_iff {o : Outcome} {reason : String} {target : BookingStatus}
    (hid : id ≠ "") (ht : targetStatus reason = some target) (hp : w.Paid id) :
    (remote o (releaseBooking id reason) w).2.Settled id ↔
      o = .failed ∧ w.status id = some .CONFIRMED := by
  constructor
  · intro h
    have hst := h (paid_remote_releaseBooking.mpr hp)
    rw [remote_snd] at hst
    split at hst
    · next ho => exact ⟨ho, hst⟩
    · exfalso
      cases hb : w.bookings.find id with
      | none =>
        have hne : (releaseBooking id reason w).2.bookings = w.bookings := by
          obtain ⟨-, ⟨err, -, hbk⟩ | ⟨r, s, -, -, ⟨b', hb'⟩, -⟩⟩ :=
            releaseBooking_effect id reason w
          · exact hbk
          · rw [hb] at hb'; cases hb'
        rw [World.status, hne, hb] at hst
        cases hst
      | some b =>
        rw [releaseBooking_of_find hid ht hb, World.status, status_setStatus target hb] at hst
        rcases targetStatus_cases ht with rfl | rfl <;> cases hst
  · rintro ⟨rfl, hst⟩ -
    exact hst

theorem paid_of_remote_refund {o : Outcome} (h : (remote o (refund id) w).2.Paid b) : w.Paid b := by
  rw [remote_snd] at h
  split at h
  · exact h
  · exact paid_of_refund h

theorem settled_remote_refund {o : Outcome} (h : w.Settled b) :
    (remote o (refund id) w).2.Settled b := by
  intro hp
  have hst := h (paid_of_remote_refund hp)
  rw [remote_snd]
  split
  · exact hst
  · exact (status_congr (refund_effect id w).1).trans hst

/-- A refund bills nobody. -/
theorem unbilled_remote_refund {o : Outcome} (h : ∀ p ∈ w.payments.rows, ¬ IsFor b p) :
    ∀ p ∈ (remote o (refund id) w).2.payments.rows, ¬ IsFor b p := by
  rw [remote_snd]
  split
  · exact h
  · rcases (refund_effect id w).2 with ⟨err, -, hp⟩ | ⟨q, q', -, -, -, hp⟩ <;> rw [hp]
    · exact h
    · intro p hp hf
      rcases Payments.mem_setStatus.mp hp with ⟨hp, -⟩ | ⟨r, hr, -, rfl⟩
      · exact h p hp hf
      · exact h r hr hf

/-! ## Assertions of the saga -/

def MoneyAssertion (w : World) : ConfirmPc → Prop
  | .charging b => NoSpace b.id ∧ ∀ p ∈ w.payments.rows, ¬ IsFor b.id p
  | .publishingConfirmed b _ _ => w.Settled b.id
  | .releasing b _ | .publishingFailed b _ => ¬ w.Paid b.id
  | .done o _ => ∀ b, o = some b → w.Settled b.id
  | .start | .confirming _ _ | .compensating _ _ => True

/-- The assertion survives what bills nobody and settles what was settled. -/
theorem MoneyAssertion.mono {w w' : World} {pc : ConfirmPc} (h : MoneyAssertion w pc)
    (hbill : ∀ b, (∀ p ∈ w.payments.rows, ¬ IsFor b p) → ∀ p ∈ w'.payments.rows, ¬ IsFor b p)
    (hpaid : ∀ b, w'.Paid b → w.Paid b)
    (hset : ∀ b, pc.hold = some b → w.Settled b.id → w'.Settled b.id) : MoneyAssertion w' pc := by
  cases pc with
  | start | confirming _ _ | compensating _ _ => trivial
  | charging b => exact ⟨h.1, hbill b.id h.2⟩
  | publishingConfirmed b _ _ => exact hset b rfl h
  | releasing b _ | publishingFailed b _ => exact fun hp => h (hpaid b.id hp)
  | done o _ => exact fun b hb => hset b hb (h b hb)

/-- The catch block lets a booking that is paid for keep its seat. -/
def SparesSeat (w : World) (o : Outcome) : ConfirmPc → Prop
  | .compensating b _ => w.Paid b.id → o = .failed ∧ w.status b.id = some .CONFIRMED
  | _ => True

theorem ConfirmMove.money {pc pc' : ConfirmPc} (hm : ConfirmMove env sh i input e pc sh' pc')
    (h : MoneyAssertion sh.world pc) (hk : SparesSeat sh.world e.outcome pc) :
    MoneyAssertion sh'.world pc' := by
  cases hm with
  | reject err | holdFailed err => exact fun _ hb => nomatch hb
  | @holdThrew err o hf ho =>
    intro b hb
    have hr : (createHold env e (holdRequest input) sh.world).1 = .ok b := by
      rw [hb] at ho
      cases hc : (createHold env e (holdRequest input) sh.world).1 with
      | error err => rw [hc] at ho; cases ho
      | ok b' => rw [hc] at ho; rw [Option.some.inj ho]
    exact settled_of_unpaid (not_paid_of_unbilled (createHold_fresh hf hr).2)
  | hold hf hb => exact createHold_fresh hf hb
  | chargeThrew _ _ | charged _ _ | confirmThrew _ _ | releaseThrew _ _
  | publishFailedThrew _ => trivial
  | declined hc hs => exact (charge_fresh h.1 h.2 hc).2 hs
  | @confirmed b c cb hcb =>
    obtain ⟨-, ⟨r, -, hst⟩ | ⟨err, he⟩⟩ := confirmBooking_effect b.id sh.world
    · exact fun _ => hst
    · rw [he] at hcb; cases hcb
  | @publishConfirmed b cb c res hres =>
    intro b' hb'
    cases hb'
    exact h
  | @released b c b' hr => exact fun hp => h ((paid_congr (releaseBooking_effect _ _ _).1).mp hp)
  | @publishFailed b c r hr =>
    intro b' hb'
    cases hb'
    exact settled_of_unpaid h
  | @compensate b err =>
    intro b' hb'
    cases hb'
    refine settled_remote_releaseBooking (fun hp => (hk hp).2) fun _ ho hp => ?_
    exact ho (hk hp).1

/-- A cancellation bills nobody. -/
theorem CancelMove.payments {paymentId : Option String} {pc pc' : CancelPc}
    (hm : CancelMove sh i id paymentId e pc sh' pc') :
    (∀ b, (∀ p ∈ sh.world.payments.rows, ¬ IsFor b p) →
      ∀ p ∈ sh'.world.payments.rows, ¬ IsFor b p) ∧ ∀ b, sh'.world.Paid b → sh.world.Paid b := by
  cases hm with
  | enter _ | publish _ => exact ⟨fun _ hb => hb, fun _ hp => hp⟩
  | refund => exact ⟨fun _ => unbilled_remote_refund, fun _ => paid_of_remote_refund⟩
  | release _ =>
    refine ⟨fun b hb => ?_, fun _ => paid_remote_releaseBooking.mp⟩
    show ∀ p ∈ (remote e.outcome (releaseBooking id "USER_CANCELLED") sh.world).2.payments.rows, _
    rw [remote_snd]
    split
    · exact hb
    · rw [(releaseBooking_effect id "USER_CANCELLED" sh.world).1]
      exact hb

theorem CancelMove.money {paymentId : Option String} {pc pc' : CancelPc} {cpc : ConfirmPc}
    (hm : CancelMove sh i id paymentId e pc sh' pc') (h : MoneyAssertion sh.world cpc)
    (hk : pc = .releasing → ∀ b, cpc.hold = some b → id = b.id → e.outcome ≠ .failed →
      sh.world.status b.id = some .CONFIRMED → ¬ sh.world.Paid b.id) :
    MoneyAssertion sh'.world cpc := by
  refine h.mono hm.payments.1 hm.payments.2 fun b hb hs => ?_
  cases hm with
  | enter _ | publish _ => exact hs
  | refund => exact settled_remote_refund hs
  | release _ =>
    exact settled_remote_releaseBooking hs fun hid ho hp => hk rfl b hb hid ho (hs hp) hp

end

/-! ## Runs -/

/-- Call 0 is a saga and the others are cancellations, all yet to begin. -/
structure BeforeMoney (s : Pool Shared Call) : Prop where
  saga : ∃ input, s.procs[0]? = some (.confirmBooking input .start)
  others : ∀ (i : Nat) (p : Call), i ≠ 0 → s.procs[i]? = some p →
    ∃ id paymentId, p = .cancelBooking id paymentId .start

theorem BeforeMoney.call {s : Pool Shared Call} {i : Nat} {p : Call} (h : BeforeMoney s)
    (hp : s.procs[i]? = some p) : (i = 0 ∧ ∃ input, p = .confirmBooking input .start) ∨
      i ≠ 0 ∧ ∃ id paymentId, p = .cancelBooking id paymentId .start := by
  by_cases h0 : i = 0
  · subst h0
    obtain ⟨input, hs⟩ := h.saga
    exact .inl ⟨rfl, input, Option.some.inj (hp.symm.trans hs)⟩
  · exact .inr ⟨h0, h.others i p h0 hp⟩

def moneyRuns (env : Env) : LTS (Pool Shared Call) (Pool.Event StepIn Op) :=
  Pool.system (orchestrator env) BeforeMoney

/-- Besides the calls, only time passes. -/
def OnlyCalls (_ : Pool Shared Call) : Pool.Event StepIn Op → Prop
  | .env op => ∃ d, op = .wait d
  | .proc _ _ => True

/-- The booking of call 0. -/
def sagaHold (s : Pool Shared Call) : Option Booking :=
  match (s.procs[0]? : Option Call) with
  | some (.confirmBooking _ pc) => pc.hold
  | _ => none

/-- Neither the catch block of the saga nor a cancellation takes the seat from a
booking that is paid for; the catch block does not even run before it has one. -/
def KeepsSeat (s : Pool Shared Call) : Pool.Event StepIn Op → Prop
  | .env _ => True
  | .proc i e => match (s.procs[i]? : Option Call) with
    | some (.confirmBooking _ pc) => SparesSeat s.shared.world e.outcome pc
    | some (.cancelBooking id _ .releasing) => ∀ b, sagaHold s = some b → id = b.id →
        e.outcome ≠ .failed → s.shared.world.status b.id = some .CONFIRMED →
          ¬ s.shared.world.Paid b.id
    | _ => True

def CallAssertion (sh : Shared) (i : Nat) : Call → Prop
  | .confirmBooking _ pc => i = 0 ∧ MoneyAssertion sh.world pc
  | .cancelBooking _ _ _ => i ≠ 0

theorem moneyOutline (env : Env) : Pool.Outline (orchestrator env)
    (fun s ev => OnlyCalls s ev ∧ KeepsSeat s ev) (fun _ => True) CallAssertion where
  env s op sh h ho he := by
    refine ⟨trivial, fun i p hp => ?_⟩
    obtain ⟨⟨d, rfl⟩, -⟩ := ho
    cases he
    exact h.2 i p hp
  own s i p e sh p' h ho hp ha := by
    refine ⟨trivial, ?_⟩
    have hpi := h.2 i p hp
    have hk := ho.2
    simp only [KeepsSeat, hp] at hk
    cases p with
    | confirmBooking input pc =>
      obtain ⟨pc', rfl, hm⟩ := act_confirmBooking ha
      exact ⟨hpi.1, hm.money hpi.2 hk⟩
    | cancelBooking id paymentId pc =>
      obtain ⟨pc', rfl, -⟩ := act_cancelBooking ha
      exact hpi
  other s i p e sh p' j q h ho hp ha hji hq := by
    have hpi := h.2 i p hp
    have hqj := h.2 j q hq
    cases q with
    | cancelBooking id paymentId pc => exact hqj
    | confirmBooking input cpc =>
      obtain ⟨rfl, hqj⟩ := hqj
      refine ⟨rfl, ?_⟩
      cases p with
      | confirmBooking input' pc' => exact absurd hpi.1.symm hji
      | cancelBooking id paymentId pc =>
        obtain ⟨pc', rfl, hm⟩ := act_cancelBooking ha
        refine hm.money hqj fun hpc b hb => ?_
        have hk := ho.2
        simp only [KeepsSeat, hp, hpc] at hk
        exact hk b (by rw [sagaHold, hq]; exact hb)

/-- Once the saga has finished, the passenger is charged only with the seat. -/
def Seated (s : Pool Shared Call) : Prop :=
  ∀ input b res, s.procs[0]? = some (.confirmBooking input (.done (some b) res)) →
    s.shared.world.Settled b.id

/-- **No passenger is left charged without a seat**, where the catch block and the
cancellations spare the bookings that are paid for. -/
theorem seated_of_keepsSeat {env : Env} {s : Pool Shared Call}
    (h : (moneyRuns env).Reach (fun s ev => OnlyCalls s ev ∧ KeepsSeat s ev) s) : Seated s := by
  have hI := Pool.invariant (moneyOutline env) (fun s hi => ⟨trivial, fun i p hp => ?_⟩) h
  · intro input b res hp
    exact (hI.2 0 _ hp).2 b rfl
  · rcases hi.call hp with ⟨rfl, input, rfl⟩ | ⟨h0, id, paymentId, rfl⟩
    · exact ⟨rfl, trivial⟩
    · exact h0

/-! ## Answers in time -/

/-- A charge whose reply is lost is one that was declined, and the confirmation is
answered while the hold is good. -/
def AnsweredBy (w : World) (input : ConfirmBookingInput) (e : StepIn) : ConfirmPc → Prop
  | .charging b => e.outcome = .lost →
      ∀ c, (charge e (chargeRequest input b.id) w).1 = .ok c → c.status ≠ .SUCCEEDED
  | .confirming b _ => e.outcome = .replied ∧
      ∃ r, w.bookings.find b.id = some r ∧ r.status = .PENDING ∧ r.hasExpired w.clock = false
  | _ => True

def Answered (s : Pool Shared Call) : Pool.Event StepIn Op → Prop
  | .env _ => True
  | .proc i e => match (s.procs[i]? : Option Call) with
    | some (.confirmBooking input pc) => AnsweredBy s.shared.world input e pc
    | _ => True

/-- Then nobody has paid when the catch block runs. -/
def CatchAssertion (w : World) : ConfirmPc → Prop
  | .charging b => NoSpace b.id ∧ ∀ p ∈ w.payments.rows, ¬ IsFor b.id p
  | .confirming b _ => b.id ≠ ""
  | .releasing b _ | .publishingFailed b _ | .compensating b _ => ¬ w.Paid b.id
  | .start | .publishingConfirmed _ _ _ | .done _ _ => True

section
variable {env : Env} {w w' : World} {sh sh' : Shared} {i : Nat} {input : ConfirmBookingInput}
  {e : StepIn} {b : Booking}

theorem CatchAssertion.mono {pc : ConfirmPc} (h : CatchAssertion w pc)
    (hbill : ∀ b, (∀ p ∈ w.payments.rows, ¬ IsFor b p) → ∀ p ∈ w'.payments.rows, ¬ IsFor b p)
    (hpaid : ∀ b, w'.Paid b → w.Paid b) : CatchAssertion w' pc := by
  cases pc with
  | charging b => exact ⟨h.1, hbill b.id h.2⟩
  | releasing b _ | publishingFailed b _ | compensating b _ => exact fun hp => h (hpaid b.id hp)
  | confirming b _ => exact h
  | start | publishingConfirmed _ _ _ | done _ _ => trivial

/-- A charge that does not succeed takes nothing. -/
theorem unpaid_of_charge (h : CatchAssertion w (.charging b))
    (hc : ∀ c, (charge e (chargeRequest input b.id) w).1 = .ok c → c.status ≠ .SUCCEEDED) :
    ¬ (charge e (chargeRequest input b.id) w).2.Paid b.id := by
  cases hr : (charge e (chargeRequest input b.id) w).1 with
  | ok c => exact (charge_fresh h.1 h.2 hr).2 (hc c hr)
  | error err =>
    have hpay : (charge e (chargeRequest input b.id) w).2.payments = w.payments := by
      rcases (charge_effect e (q := chargeRequest input b.id) w h.1 rfl).2 with
        ⟨_, -, hp⟩ | ⟨p, -, -, ho, -⟩ | ⟨p, ho, -⟩
      · exact hp
      · rw [ho] at hr; cases hr
      · rw [ho] at hr; cases hr
    exact fun hp => not_paid_of_unbilled h.2 ((paid_congr hpay).mp hp)

/-- Nor does one that is not answered, if it is answered when it succeeds. -/
theorem unpaid_of_chargeThrew {err : AppError} (h : CatchAssertion sh.world (.charging b))
    (ho : e.outcome = .lost → ∀ c,
      (charge e (chargeRequest input b.id) sh.world).1 = .ok c → c.status ≠ .SUCCEEDED)
    (hr : (remote e.outcome (charge e (chargeRequest input b.id)) sh.world).1 = .error err) :
    ¬ (remote e.outcome (charge e (chargeRequest input b.id)) sh.world).2.Paid b.id := by
  rw [remote_snd]
  split
  · exact not_paid_of_unbilled h.2
  · next hne =>
    refine unpaid_of_charge h fun c hc => ?_
    cases hout : e.outcome with
    | failed => exact absurd hout hne
    | lost => exact ho hout c hc
    | replied => simp [hout, remote, hc] at hr

/-- A confirmation that is answered in time. -/
theorem confirm_ok {c : ChargeResult} {pc' : ConfirmPc} (hid : b.id ≠ "")
    (h : confirmStep env sh i input e (.confirming b c) = some (sh', pc'))
    (ho : AnsweredBy sh.world input e (.confirming b c)) :
    ∃ cb, pc' = .publishingConfirmed b cb c := by
  obtain ⟨hout, r, hr, hs, hx⟩ := ho
  have hserve : (confirmBooking b.id sh.world).1 = .ok (r.withStatus .CONFIRMED) := by
    simp [confirmBooking, Bookings.Controller.confirmBooking, Bookings.confirmBooking,
      hid, hr, hs, hx, updateStatus_of_find _ hr]
  simp only [confirmStep, Shared.remote, remote, hout, hserve, Option.some.injEq,
    Prod.mk.injEq] at h
  exact ⟨_, h.2.symm⟩

theorem CatchAssertion.step {pc pc' : ConfirmPc} (h : CatchAssertion sh.world pc)
    (hst : confirmStep env sh i input e pc = some (sh', pc'))
    (ho : AnsweredBy sh.world input e pc) : CatchAssertion sh'.world pc' := by
  cases pc with
  | confirming b c =>
    obtain ⟨cb, rfl⟩ := confirm_ok h hst ho
    trivial
  | charging b =>
    cases hr : (remote e.outcome (charge e (chargeRequest input b.id)) sh.world).1 with
    | error err =>
      simp only [confirmStep, Shared.remote, hr, Option.some.injEq, Prod.mk.injEq] at hst
      obtain ⟨rfl, rfl⟩ := hst
      exact unpaid_of_chargeThrew h ho hr
    | ok c =>
      have hm := confirmStep_move hst
      simp only [confirmStep, Shared.remote, hr] at hst
      cases hm with
      | chargeThrew err _ => split at hst <;> cases hst
      | charged _ _ => exact h.1.1
      | declined hc hs => exact (charge_fresh h.1 h.2 hc).2 hs
  | start =>
    cases confirmStep_move hst with
    | hold hf hb => exact createHold_fresh hf hb
    | reject _ | holdFailed _ | holdThrew _ _ => trivial
  | releasing b c =>
    cases confirmStep_move hst with
    | releaseThrew _ hm =>
      rcases hm with rfl | rfl
      · exact h
      · exact fun hp => h ((paid_congr (releaseBooking_effect _ _ _).1).mp hp)
    | released _ => exact fun hp => h ((paid_congr (releaseBooking_effect _ _ _).1).mp hp)
  | publishingFailed b c =>
    cases confirmStep_move hst with
    | publishFailedThrew _ => exact h
    | publishFailed _ => trivial
  | publishingConfirmed _ _ _ | compensating _ _ =>
    cases confirmStep_move hst
    trivial
  | done _ _ => cases hst

end

def CatchCallAssertion (sh : Shared) (i : Nat) : Call → Prop
  | .confirmBooking _ pc => i = 0 ∧ CatchAssertion sh.world pc
  | .cancelBooking _ _ _ => i ≠ 0

theorem catchOutline (env : Env) : Pool.Outline (orchestrator env)
    (fun s ev => OnlyCalls s ev ∧ Answered s ev) (fun _ => True) CatchCallAssertion where
  env s op sh h ho he := by
    refine ⟨trivial, fun i p hp => ?_⟩
    obtain ⟨⟨d, rfl⟩, -⟩ := ho
    cases he
    exact h.2 i p hp
  own s i p e sh p' h ho hp ha := by
    refine ⟨trivial, ?_⟩
    have hpi := h.2 i p hp
    have hk := ho.2
    simp only [Answered, hp] at hk
    cases p with
    | confirmBooking input pc =>
      obtain ⟨⟨sh₁, pc'⟩, hst, hpc⟩ := Option.map_eq_some_iff.mp ha
      cases hpc
      exact ⟨hpi.1, hpi.2.step hst hk⟩
    | cancelBooking id paymentId pc =>
      obtain ⟨pc', rfl, -⟩ := act_cancelBooking ha
      exact hpi
  other s i p e sh p' j q h ho hp ha hji hq := by
    have hpi := h.2 i p hp
    have hqj := h.2 j q hq
    cases q with
    | cancelBooking id paymentId pc => exact hqj
    | confirmBooking input cpc =>
      obtain ⟨rfl, hqj⟩ := hqj
      refine ⟨rfl, ?_⟩
      cases p with
      | confirmBooking input' pc' => exact absurd hpi.1.symm hji
      | cancelBooking id paymentId pc =>
        obtain ⟨pc', rfl, hm⟩ := act_cancelBooking ha
        exact hqj.mono hm.payments.1 hm.payments.2

/-- **The catch block spares the seat** where a charge that succeeds is answered, and the
confirmation is answered while the hold is good. -/
theorem keepsSeat_of_answered {env : Env} {s : Pool Shared Call} (e : StepIn)
    (h : (moneyRuns env).Reach (fun s ev => OnlyCalls s ev ∧ Answered s ev) s) :
    KeepsSeat s (.proc 0 e) := by
  have hI := Pool.invariant (catchOutline env) (fun s hi => ⟨trivial, fun i p hp => ?_⟩) h
  · cases hp : (s.procs[0]? : Option Call) with
    | none => simp only [KeepsSeat, hp]
    | some p =>
      have hp0 := hI.2 0 p hp
      cases p with
      | cancelBooking id paymentId pc => exact absurd rfl hp0
      | confirmBooking input pc =>
        simp only [KeepsSeat, hp]
        cases pc with
        | compensating b err => exact fun hpaid => absurd hpaid hp0.2
        | _ => trivial
  · rcases hi.call hp with ⟨rfl, input, rfl⟩ | ⟨h0, id, paymentId, rfl⟩
    · exact ⟨rfl, trivial⟩
    · exact h0

/-- The saga, and a cancellation of its booking with a refund. -/
def annsTwoCalls : Pool Shared Call :=
  ⟨⟨emptyWorld, []⟩, [.confirmBooking annsInput .start, .cancelBooking "b1" (some "p1") .start]⟩

theorem annsTwoCalls_init : BeforeMoney annsTwoCalls := by
  refine ⟨⟨_, rfl⟩, fun i p hi hp => ?_⟩
  match i, hi with
  | 1, _ => exact ⟨_, _, (Option.some.inj hp).symm⟩
  | i + 2, _ => cases hp

def annsTwoCallsAfter (es : List (Pool.Event StepIn Op)) : Pool Shared Call :=
  (LTS.execAll (Pool.step (orchestrator defaultEnv)) annsTwoCalls es).getD annsTwoCalls

/-- The cancellation comes when the saga has finished. -/
theorem seated_of_keepsSeat_ann : Seated (annsTwoCallsAfter [.proc 0 { rowId := "b1" },
    .proc 0 { rowId := "p1" }, .proc 0 {}, .proc 0 {}, .proc 1 {}, .proc 1 {}, .proc 1 {}]) := by
  have h : (moneyRuns defaultEnv).Reach (fun s ev => OnlyCalls s ev ∧ KeepsSeat s ev)
      (annsTwoCallsAfter [.proc 0 { rowId := "b1" }, .proc 0 { rowId := "p1" }, .proc 0 {},
        .proc 0 {}, .proc 1 {}, .proc 1 {}, .proc 1 {}]) :=
    LTS.reach_of_execAll [.proc 0 { rowId := "b1" }, .proc 0 { rowId := "p1" }, .proc 0 {},
      .proc 0 {}, .proc 1 {}, .proc 1 {}, .proc 1 {}] annsTwoCalls_init
      ⟨⟨trivial, trivial⟩, ⟨trivial, trivial⟩, ⟨trivial, trivial⟩, ⟨trivial, trivial⟩,
        ⟨trivial, trivial⟩, ⟨trivial, trivial⟩,
        ⟨trivial, fun _ hb _ _ _ => by cases hb; decide⟩, trivial⟩ rfl
  exact seated_of_keepsSeat h

/-- **Charged without a seat**: the confirmation fails after the charge, and the
catch block releases the booking. -/
theorem exists_charged_without_seat : ∃ s, (moneyRuns defaultEnv).Reach OnlyCalls s ∧
    s.shared.world.Paid "b1" ∧ s.shared.world.status "b1" = some .FAILED ∧ ¬ Seated s := by
  refine ⟨annsTwoCallsAfter [.proc 0 { rowId := "b1" }, .proc 0 { rowId := "p1" },
    .proc 0 { outcome := .failed }, .proc 0 {}], LTS.reach_of_execAll [.proc 0 { rowId := "b1" },
      .proc 0 { rowId := "p1" }, .proc 0 { outcome := .failed }, .proc 0 {}] annsTwoCalls_init
      ⟨trivial, trivial, trivial, trivial, trivial⟩ rfl, by decide, rfl, fun h => ?_⟩
  have hset := h annsInput _ _ rfl
  exact absurd (hset (by decide)) (by decide)

end RouteGo.Orchestrator
