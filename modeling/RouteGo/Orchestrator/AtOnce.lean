import RouteGo.Orchestrator.InFlight

/-!
# Requests served at once

A step of `orchestrator` serves a request at once. It is a run of the sagas in flight in
which the call of the request has arrived, gone its way with no step of another call in
between, and been heard or given up (`run_of_act`); a request of another client is one
in which its call comes and goes (`run_of_exec`).
-/

namespace RouteGo.Orchestrator

open Js Bookings Payments

/-- The booking service has the seats of the world. -/
structure SameSeats (b : Bookings.Shared) (w : World) : Prop where
  bookings : b.bookings = w.bookings
  locks : b.locks = w.locks
  clock : b.clock = w.clock

/-- The hold whose answer was lost, which no step reads, is not named. -/
def Call.unnamed : Call → Call
  | .confirmBooking input (.done _ res) => .confirmBooking input (.done none res)
  | p => p

/-- Served at once in the place `j`, the call answers `res` and leaves the seats of `w`. -/
def Serves (env : Env) (T : Tokens) (j : Nat) (b : Bookings.Shared) (p : Bookings.Call)
    (res : Result Booking) (w : World) : Prop :=
  ∃ b' p', Pool.Solo (Bookings.service env T) j (b, p) (b', p') ∧ answer p' = some res ∧
    SameSeats b' w

/-- How a call goes on after a request to the booking service. -/
def Call.goesOn (p : Call) : Result Booking → Option Call
  | .ok b => some (sagaCaller.resume p (.ok b))
  | .error err => sagaCaller.own p (.threw err)

section
variable {env : Env} {T : Tokens} {i j : Nat} {b : Bookings.Shared} {w w' : World} {x : StepIn}
  {id reason : String} {q : HoldRequest} {p p' : Call} {c : Bookings.Call} {e : SagaIn}
    {t : InFlight}

/-! ## Calls -/

theorem serves_confirmBooking (hw : SameSeats b w) : Serves env T j b (.confirmBooking id .start)
    (confirmBooking id w).1 (confirmBooking id w).2 := by
  obtain ⟨hb, hl, hc⟩ := hw
  refine ⟨_, _, solo_confirmBooking b id, ?_, ?_⟩
  · rw [answer, hb, hc]
    rfl
  · refine ⟨?_, hl, hc⟩
    show (Bookings.confirmBooking b.bookings b.clock id).2 = _
    rw [hb, hc]
    rfl

theorem serves_release (hw : SameSeats b w) : Serves env T j b (.releaseBooking id reason .start)
    (Bookings.releaseBooking w.bookings id reason).1
    { w with bookings := (Bookings.releaseBooking w.bookings id reason).2 } := by
  obtain ⟨hb, hl, hc⟩ := hw
  obtain ⟨b', hsolo, hb', hl', hc'⟩ := @solo_releaseBooking env T j b id reason
  exact ⟨b', _, hsolo, by rw [answer, hb], by rw [hb', hb], hl'.trans hl, hc'.trans hc⟩

/-- A hold of the arguments, served at once. -/
def holdAtOnce (env : Env) (x : StepIn) (a : HoldArgs) (w : World) : Result Booking × World :=
  let inputs := holdInputs w.clock x.rowId x.lockValue x.delays x.faults
  let r := Bookings.createHold env inputs ⟨w.bookings, w.locks⟩ a
  (r.1, { w with bookings := r.2.bookings, locks := r.2.locks, clock := inputs.tRelease })

theorem serves_hold {a : HoldArgs} (hw : SameSeats b w) (hT : T.gen j = x.lockValue) :
    Serves env T j b (.createHold a .start) (holdAtOnce env x a w).1 (holdAtOnce env x a w).2 := by
  obtain ⟨hb, hl, hc⟩ := hw
  obtain ⟨b', res, hsolo, hr, hclock⟩ := @solo_createHold env T j b a x.rowId x.delays x.faults
  rw [hb, hl, hc, hT] at hr
  rw [hc, hT] at hclock
  obtain ⟨rfl, hworld⟩ := Prod.mk.inj hr
  exact ⟨b', _, hsolo, rfl, congrArg Bookings.World.bookings hworld,
    congrArg Bookings.World.locks hworld, hclock⟩

theorem tRelease_holdInputs (now : Int) (rowId lockValue : String) (d : HoldDelays)
    (f : HoldFaults) : (holdInputs now rowId lockValue d f).tRelease =
      now + ((d.acquire + d.query + d.stamp + d.release : Nat) : Int) := by
  simp only [holdInputs]
  omega

/-- A request for a hold that the handler passes on. -/
theorem serves_createHold (hw : SameSeats b w) (hT : T.gen j = x.lockValue) (hq : q.call = some c) :
    Serves env T j b c (createHold env x q w).1 (createHold env x q w).2 := by
  obtain ⟨a, ha, rfl⟩ := Option.map_eq_some_iff.mp hq
  have hserve : Serves env T j b (.createHold a .start) _ _ := serves_hold hw hT
  simp only [createHold, Bookings.Controller.createHold_of_holdArgs _ _ _ ha]
  exact hserve

/-- One that it refuses. -/
theorem createHold_refused (env : Env) (x : StepIn) (w : World) (hq : q.call = none) :
    ∃ err d, createHold env x q w = (.error err, { w with clock := w.clock + (d : Nat) }) := by
  have ha := Option.map_eq_none_iff.mp hq
  obtain ⟨err, he⟩ := Bookings.Controller.createHold_of_no_holdArgs env
    (holdInputs w.clock x.rowId x.lockValue x.delays x.faults) ⟨w.bookings, w.locks⟩ ha
  refine ⟨err, x.delays.acquire + x.delays.query + x.delays.stamp + x.delays.release, ?_⟩
  simp only [createHold, he, tRelease_holdInputs]

/-! ## Steps of a saga -/

/-- An error that is answered is one that was thrown. -/
theorem own_axiosError {err : AppError} (h : sagaCaller.request p = some c) :
    sagaCaller.own p (.threw (axiosError err)) = some (sagaCaller.resume p (.error err)) := by
  cases p with
  | confirmBooking input pc =>
    cases pc with
    | start =>
      show (ConfirmPc.own input .start (.threw (axiosError err))).map _ = _
      have h' : ConfirmPc.request input .start = some c := h
      unfold ConfirmPc.request at h'
      unfold ConfirmPc.own
      cases hv : validateConfirm input with
      | error e => simp only [hv] at h'; cases h'
      | ok u => rfl
    | confirming hold payment | releasing hold payment | compensating hold e => rfl
    | charging _ | publishingConfirmed _ _ _ | publishingFailed _ _ | done _ _ => cases h
  | cancelBooking id paymentId pc =>
    cases pc with
    | releasing => rfl
    | start | refunding _ | publishing | done _ => cases h

theorem isSome_own_threw (err : AppError) (h : sagaCaller.request p = some c) :
    ∃ p', sagaCaller.own p (.threw err) = some p' := by
  cases p with
  | confirmBooking input pc =>
    cases pc with
    | start =>
      show ∃ p', (ConfirmPc.own input .start (.threw err)).map _ = some p'
      unfold ConfirmPc.own
      cases validateConfirm input <;> exact ⟨_, rfl⟩
    | confirming hold payment | releasing hold payment | compensating hold e => exact ⟨_, rfl⟩
    | charging _ | publishingConfirmed _ _ _ | publishingFailed _ _ | done _ _ => cases h
  | cancelBooking id paymentId pc =>
    cases pc with
    | releasing => exact ⟨_, rfl⟩
    | start | refunding _ | publishing | done _ => cases h

/-- An own step. -/
theorem run_own (hc : t.procs[i]? = some (p, none)) (ho : sagaCaller.own p e = some p') :
    (sagasInFlight env T).Run LTS.always t ⟨t.shared, t.procs.set i (p', none)⟩ :=
  (LTS.Run.refl t).snoc (e := .proc i (.own e)) trivial (Pool.step_of_act hc (Pool.act_own ho))

/-- Time passes. -/
theorem run_wait (t : InFlight) (d : Nat) : (sagasInFlight env T).Run LTS.always t
    ⟨⟨{ t.shared.shared with clock := t.shared.shared.clock + d }, t.shared.procs⟩, t.procs⟩ :=
  (LTS.Run.refl t).snoc (e := .env (.env d)) trivial rfl

/-- The sagas in flight come to where the saga is `p` and the seats are those of `w`. -/
def GoesOn (env : Env) (T : Tokens) (t : InFlight) (i : Nat) (p : Call) (w : World) : Prop :=
  ∃ n p', (sagasInFlight env T).Run LTS.always t ⟨n, t.procs.set i (p', none)⟩ ∧
    p'.unnamed = p.unnamed ∧ SameSeats n.shared w

theorem GoesOn.own (hc : t.procs[i]? = some (p, none)) (hw : SameSeats t.shared.shared w)
    (ho : sagaCaller.own p e = some p') : GoesOn env T t i p' w :=
  ⟨_, p', run_own hc ho, rfl, hw⟩

/-- A remote call of a saga, whatever becomes of it. -/
theorem GoesOn.remote {serve : World → Result Booking × World} (o : Outcome)
    (hc : t.procs[i]? = some (p, none)) (hw : SameSeats t.shared.shared w)
    (hp : sagaCaller.request p = some c) (hn : t.shared.procs[j]? = some none)
    (hs : Serves env T j t.shared.shared c (serve w).1 (serve w).2)
    (hnext : ∀ q, p.goesOn (Orchestrator.remote o serve w).1 = some q → q.unnamed = p'.unnamed) :
    GoesOn env T t i p' (Orchestrator.remote o serve w).2 := by
  obtain ⟨b', c', hsolo, ha, hseats⟩ := hs
  cases o with
  | failed =>
    obtain ⟨q, hq⟩ := isSome_own_threw unreachable hp
    exact ⟨_, q, run_own hc hq, hnext q hq, hw⟩
  | replied =>
    refine ⟨_, _, Pool.run_served hc hp hn hsolo ha, hnext _ ?_, hseats⟩
    cases hr : (serve w).1 with
    | ok a => simp [Orchestrator.remote, hr, Call.goesOn]
    | error err => simp [Orchestrator.remote, hr, Call.goesOn, own_axiosError hp]
  | lost =>
    obtain ⟨q, hq⟩ := isSome_own_threw timeout hp
    exact ⟨_, q, Pool.run_unheard hc hp hn hsolo hq, hnext q hq, hseats⟩

theorem serves_releaseBooking (hw : SameSeats b w) :
    Serves env T j b (.releaseBooking id reason .start)
    (releaseBooking id reason w).1 (releaseBooking id reason w).2 := serves_release hw

/-- A charge or a publish leaves the seats alone. -/
theorem sameSeats_remote_charge {o : Outcome} {r : ChargeRequest} (hw : SameSeats b w) :
    SameSeats b (remote o (charge x r) w).2 := by
  rw [remote_snd]
  split
  · exact hw
  · exact ⟨hw.bookings, hw.locks, hw.clock⟩

/-- An error ends a saga that has no hold. -/
theorem own_start {input : ConfirmBookingInput} {err : AppError}
    (hv : validateConfirm input = .ok ()) :
    sagaCaller.own (.confirmBooking input .start) (.threw err) =
      some (.confirmBooking input (.done none (.error err))) := by
  show (ConfirmPc.own input .start (.threw err)).map _ = _
  rw [ConfirmPc.own, hv]
  rfl

/-- The caller sends what the service serves a request for, or refuses by itself. -/
theorem GoesOn.hold (input : ConfirmBookingInput)
    (hc : t.procs[i]? = some (.confirmBooking input .start, none))
    (hv : validateConfirm input = .ok ()) (hw : SameSeats t.shared.shared w)
    (hn : t.shared.procs[j]? = some none) (hT : T.gen j = x.lockValue) {pc : ConfirmPc}
    (hnext : ∀ q, (Call.confirmBooking input .start).goesOn
      (Orchestrator.remote x.outcome (createHold env x (holdRequest input)) w).1 = some q →
      q.unnamed = (Call.confirmBooking input pc).unnamed) :
    GoesOn env T t i (.confirmBooking input pc)
      (Orchestrator.remote x.outcome (createHold env x (holdRequest input)) w).2 := by
  cases hq : (holdRequest input).call with
  | some c =>
    have hp : sagaCaller.request (.confirmBooking input .start) = some c := by
      show ConfirmPc.request input .start = _
      rw [ConfirmPc.request, hv]
      exact hq
    exact .remote x.outcome hc hw hp hn (serves_createHold hw hT hq) hnext
  | none =>
    obtain ⟨err, d, hr⟩ := createHold_refused env x w hq
    cases ho : x.outcome with
    | failed =>
      rw [ho] at hnext
      exact ⟨_, _, run_own hc (own_start hv), hnext _ (own_start hv), hw⟩
    | replied =>
      simp only [ho, Orchestrator.remote, hr] at hnext ⊢
      exact ⟨_, _, (run_wait t d).trans (run_own hc (own_start hv)), hnext _ (own_start hv),
        ⟨hw.bookings, hw.locks, congrArg (· + (d : Int)) hw.clock⟩⟩
    | lost =>
      simp only [ho, Orchestrator.remote, hr] at hnext ⊢
      exact ⟨_, _, (run_wait t d).trans (run_own hc (own_start hv)), hnext _ (own_start hv),
        ⟨hw.bookings, hw.locks, congrArg (· + (d : Int)) hw.clock⟩⟩

theorem goesOn_confirmBooking {sh sh' : Shared} {input : ConfirmBookingInput} {pc pc' : ConfirmPc}
    (hc : t.procs[i]? = some (.confirmBooking input pc, none))
    (hw : SameSeats t.shared.shared sh.world)
    (hn : t.shared.procs[j]? = some none) (hT : T.gen j = x.lockValue)
    (h : confirmStep env sh i input x pc = some (sh', pc')) :
    GoesOn env T t i (.confirmBooking input pc') sh'.world := by
  cases pc with
  | start =>
    simp only [confirmStep, Shared.remote] at h
    cases hv : validateConfirm input with
    | error err =>
      simp only [hv, Option.some.injEq, Prod.mk.injEq] at h
      obtain ⟨rfl, rfl⟩ := h
      refine .own (e := .threw err) hc hw ?_
      show (ConfirmPc.own input .start (.threw err)).map _ = _
      rw [ConfirmPc.own, hv]
      rfl
    | ok u =>
      simp only [hv] at h
      split at h
      · cases hr : (remote x.outcome (createHold env x (holdRequest input)) sh.world).1 <;>
          simp only [hr, Option.some.injEq, Prod.mk.injEq] at h <;> obtain ⟨rfl, rfl⟩ := h <;>
          refine GoesOn.hold input hc hv hw hn hT fun q hq => ?_ <;> rw [hr] at hq
        · obtain rfl := Option.some.inj ((own_start hv).symm.trans hq)
          rfl
        · cases hq
          rfl
      · cases h
  | charging hold =>
    simp only [confirmStep, Shared.remote] at h
    have hseats := sameSeats_remote_charge (x := x) (o := x.outcome)
      (r := chargeRequest input hold.id) hw
    cases hr : (remote x.outcome (charge x (chargeRequest input hold.id)) sh.world).1 with
    | error err =>
      simp only [hr, Option.some.injEq, Prod.mk.injEq] at h
      obtain ⟨rfl, rfl⟩ := h
      exact .own (e := .threw err) hc hseats rfl
    | ok payment =>
      simp only [hr] at h
      split at h <;> rename_i hs <;> cases h
      · exact .own (e := .charged payment) hc hseats (congrArg (Option.map _) (if_pos hs))
      · exact .own (e := .charged payment) hc hseats (congrArg (Option.map _) (if_neg hs))
  | confirming hold payment =>
    simp only [confirmStep, Shared.remote] at h
    cases hr : (remote x.outcome (confirmBooking hold.id) sh.world).1 <;>
      simp only [hr, Option.some.injEq, Prod.mk.injEq] at h <;> obtain ⟨rfl, rfl⟩ := h <;>
      refine .remote x.outcome hc hw rfl hn (serves_confirmBooking hw) fun q hq => ?_ <;>
      rw [hr] at hq <;> cases hq <;> rfl
  | publishingConfirmed hold confirmed payment =>
    simp only [confirmStep] at h
    split at h <;> rename_i hr <;> obtain ⟨-, rfl⟩ := Prod.mk.inj hr <;> cases h
    · exact .own (e := .threw _) hc hw rfl
    · exact .own (e := .answered) hc hw rfl
  | releasing hold payment =>
    simp only [confirmStep, Shared.remote] at h
    cases hr : (remote x.outcome (releaseBooking hold.id "PAYMENT_FAILED") sh.world).1 <;>
      simp only [hr, Option.some.injEq, Prod.mk.injEq] at h <;> obtain ⟨rfl, rfl⟩ := h <;>
      refine .remote x.outcome hc hw rfl hn (serves_releaseBooking hw) fun q hq => ?_ <;>
      rw [hr] at hq <;> cases hq <;> rfl
  | publishingFailed hold payment =>
    simp only [confirmStep] at h
    split at h <;> rename_i hr <;> obtain ⟨-, rfl⟩ := Prod.mk.inj hr <;> cases h
    · exact .own (e := .threw _) hc hw rfl
    · exact .own (e := .answered) hc hw rfl
  | compensating hold err =>
    cases h
    refine .remote x.outcome hc hw rfl hn (serves_releaseBooking hw) fun q hq => ?_
    revert hq
    cases (remote x.outcome (releaseBooking hold.id "PAYMENT_FAILED") sh.world).1 <;>
      rintro ⟨⟩ <;> rfl
  | done o res => cases h

theorem sameSeats_remote_refund {o : Outcome} {paymentId : String} (hw : SameSeats b w) :
    SameSeats b (remote o (refund paymentId) w).2 := by
  rw [remote_snd]
  split
  · exact hw
  · exact ⟨hw.bookings, hw.locks, hw.clock⟩

theorem goesOn_cancelBooking {sh sh' : Shared} {paymentId : Option String} {pc pc' : CancelPc}
    (hc : t.procs[i]? = some (.cancelBooking id paymentId pc, none))
    (hw : SameSeats t.shared.shared sh.world) (hn : t.shared.procs[j]? = some none)
    (h : cancelStep sh i id paymentId x pc = some (sh', pc')) :
    GoesOn env T t i (.cancelBooking id paymentId pc') sh'.world := by
  cases pc with
  | start =>
    simp only [cancelStep] at h
    have hown : sh' = sh ∧ CancelPc.own id paymentId .start .answered = some pc' := by
      unfold CancelPc.own
      split at h
      · next hid =>
        cases h
        exact ⟨rfl, if_pos hid⟩
      · next hid =>
        rw [if_neg hid]
        cases paymentId with
        | none =>
          cases h
          exact ⟨rfl, rfl⟩
        | some p =>
          simp only at h ⊢
          split at h <;> cases h
          · next hp => exact ⟨rfl, if_pos hp⟩
          · next hp => exact ⟨rfl, if_neg hp⟩
    obtain ⟨rfl, ho⟩ := hown
    exact .own (e := .answered) hc hw (congrArg (Option.map _) ho)
  | refunding p =>
    cases h
    exact .own (e := .answered) hc (sameSeats_remote_refund hw) rfl
  | releasing =>
    simp only [cancelStep, Shared.remote] at h
    cases hr : (remote x.outcome (releaseBooking id "USER_CANCELLED") sh.world).1 <;>
      simp only [hr, Option.some.injEq, Prod.mk.injEq] at h <;> obtain ⟨rfl, rfl⟩ := h <;>
      refine .remote x.outcome hc hw rfl hn (serves_releaseBooking hw) fun q hq => ?_ <;>
      rw [hr] at hq <;> cases hq <;> rfl
  | publishing =>
    simp only [cancelStep] at h
    split at h <;> rename_i hr <;> obtain ⟨-, rfl⟩ := Prod.mk.inj hr <;> cases h
    · exact .own (e := .threw _) hc hw rfl
    · exact .own (e := .answered) hc hw rfl
  | done res => cases h

/-- **A step of a saga at once is a run of it in flight.** -/
theorem run_of_act {sh sh' : Shared} (hc : t.procs[i]? = some (p, none))
    (hw : SameSeats t.shared.shared sh.world) (hn : t.shared.procs[j]? = some none)
    (hT : T.gen j = x.lockValue) (h : (orchestrator env).act sh i p x = some (sh', p')) :
    GoesOn env T t i p' sh'.world := by
  cases p with
  | confirmBooking input pc =>
    obtain ⟨⟨sh₁, pc'⟩, hst, hp⟩ := Option.map_eq_some_iff.mp h
    cases hp
    exact goesOn_confirmBooking hc hw hn hT hst
  | cancelBooking id paymentId pc =>
    obtain ⟨⟨sh₁, pc'⟩, hst, hp⟩ := Option.map_eq_some_iff.mp h
    cases hp
    exact goesOn_cancelBooking hc hw hn hst

/-! ## Requests of other clients -/

/-- The value of the lock that a request takes. -/
def Op.lockValue : Op → Option String
  | .createHold x _ _ => some x.lockValue
  | _ => none

theorem run_of_serves {res : Result Booking} (hn : t.shared.procs[j]? = some none)
    (hs : Serves env T j t.shared.shared c res w) :
    ∃ n : Pool Bookings.Shared (Option Bookings.Call),
      (sagasInFlight env T).Run LTS.always t ⟨n, t.procs⟩ ∧ SameSeats n.shared w := by
  obtain ⟨b', c', hsolo, -, hseats⟩ := hs
  have hrun : (Pool.system (Bookings.service env T).births fun _ => True).Run LTS.always t.shared
      ⟨b', t.shared.procs.set j (some c')⟩ := Pool.run_alone hn hsolo
  exact ⟨_, Pool.run_beside t.procs hrun, hseats⟩

/-- **And a request of another client is one in which its call comes and goes.** -/
theorem run_of_exec {op : Op} (hw : SameSeats t.shared.shared w)
    (hn : t.shared.procs[j]? = some none)
    (hT : ∀ v ∈ op.lockValue, T.gen j = v) : ∃ n : Pool Bookings.Shared (Option Bookings.Call),
      (sagasInFlight env T).Run LTS.always t ⟨n, t.procs⟩ ∧ SameSeats n.shared (w.exec env op) := by
  cases op with
  | wait d => exact ⟨_, run_wait t d, ⟨hw.bookings, hw.locks, congrArg (· + (d : Int)) hw.clock⟩⟩
  | createHold x xUserId body =>
    cases ha : Bookings.Controller.holdArgs xUserId body with
    | some a =>
      simp only [World.exec, Bookings.Controller.createHold_of_holdArgs _ _ _ ha]
      exact run_of_serves hn (serves_hold hw (hT _ rfl))
    | none =>
      obtain ⟨err, he⟩ := Bookings.Controller.createHold_of_no_holdArgs env
        (holdInputs w.clock x.rowId x.lockValue x.delays x.faults) ⟨w.bookings, w.locks⟩ ha
      simp only [World.exec, he, tRelease_holdInputs]
      exact ⟨_, run_wait t _, ⟨hw.bookings, hw.locks, congrArg (· + (_ : Int)) hw.clock⟩⟩
  | confirmBooking id => exact run_of_serves hn (serves_confirmBooking hw)
  | releaseBooking id reason =>
    cases reason <;> exact run_of_serves hn (serves_release hw)
  | processCharge | processRefund => exact ⟨_, .refl t, ⟨hw.bookings, hw.locks, hw.clock⟩⟩

end

end RouteGo.Orchestrator
