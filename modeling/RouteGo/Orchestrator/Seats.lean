import RouteGo.Bookings.SeatMap
import RouteGo.Orchestrator.Billing

/-!
# Seats sold by sagas

Any sagas, cancellations and other clients at once, none of whose confirmations is
served in the very millisecond its hold expires (`OffExpiry`). What they do to the
bookings is a run of the calendar (`calendar_of_sagas`). So a booking that counts has its
legs to itself until its deadline, unless its release is sent (`hasLeg_of_sagas`).
-/

namespace RouteGo.Orchestrator

open Js Bookings Payments

/-- The hold of the booking expires in this millisecond. -/
def World.AtExpiry (w : World) (id : String) : Prop :=
  ∃ b ∈ w.bookings.find id, b.status = .PENDING ∧ b.holdExpiresAt = some w.clock

instance (w : World) (id : String) : Decidable (w.AtExpiry id) :=
  inferInstanceAs (Decidable (∃ b ∈ w.bookings.find id, _))

/-- The booking a call is about to confirm. -/
def Call.confirms : Call → Option String
  | .confirmBooking _ (.confirming hold _) => some hold.id
  | _ => none

/-- The booking a call is about to release. -/
def Call.releases : Call → Option String
  | .confirmBooking _ (.releasing hold _) | .confirmBooking _ (.compensating hold _) => some hold.id
  | .cancelBooking id _ .releasing => some id
  | _ => none

def OffExpiry (s : Pool Shared Call) : Pool.Event StepIn Op → Prop
  | .env (.confirmBooking id) => ¬ s.shared.world.AtExpiry id
  | .env _ => True
  | .proc i _ => ∀ p ∈ s.procs[i]?, ∀ id ∈ p.confirms, ¬ s.shared.world.AtExpiry id

/-- A release of the booking is sent. -/
def Releases (id : String) (s : Pool Shared Call) : Pool.Event StepIn Op → Prop
  | .env (.releaseBooking j _) => j = id
  | .env _ => False
  | .proc i _ => ∃ p ∈ s.procs[i]?, p.releases = some id

instance (s : Pool Shared Call) : ∀ ev, Decidable (OffExpiry s ev)
  | .env (.confirmBooking _) => inferInstanceAs (Decidable (¬ _))
  | .env (.wait _) | .env (.createHold _ _ _) | .env (.releaseBooking _ _)
  | .env (.processCharge _ _ _ _ _) | .env (.processRefund _) => .isTrue trivial
  | .proc i _ => inferInstanceAs (Decidable (∀ p ∈ s.procs[i]?, _))

instance (id : String) (s : Pool Shared Call) : ∀ ev, Decidable (Releases id s ev)
  | .env (.releaseBooking j _) => inferInstanceAs (Decidable (j = id))
  | .env (.wait _) | .env (.createHold _ _ _) | .env (.confirmBooking _)
  | .env (.processCharge _ _ _ _ _) | .env (.processRefund _) => .isFalse fun h => h
  | .proc i _ => inferInstanceAs (Decidable (∃ p ∈ s.procs[i]?, _))

/-! ## Steps -/

/-- One write to the seats, which takes one from a booking of `freed` only. -/
structure SeatStep (freed : String → Prop) (w w' : World) : Prop where
  clock : w.clock ≤ w'.clock
  write : ∃ ev, SeatWrite w'.clock w.bookings ev w'.bookings ∧ ∀ id, ev = .giveUp id → freed id

section
variable {env : Env} {freed : String → Prop} {w w' : World} {sh sh' : Shared}
  {i : Nat} {p p' : Call} {e : StepIn} {id : String}

theorem SeatStep.of_same (hc : w.clock ≤ w'.clock) (hb : w'.bookings = w.bookings) :
    SeatStep freed w w' :=
  ⟨hc, .look, by rw [hb]; exact .look, fun _ h => by cases h⟩

theorem SeatStep.refl (w : World) : SeatStep freed w w := .of_same le_rfl rfl

theorem SeatStep.mayHave {served : World} (h : MayHave sh served sh')
    (hs : SeatStep freed sh.world served) : SeatStep freed sh.world sh'.world := by
  rcases h with rfl | rfl
  · exact .refl _
  · exact hs

theorem SeatStep.remote {α : Type} {serve : World → Result α × World} (o : Outcome)
    (h : SeatStep freed w (serve w).2) : SeatStep freed w (Orchestrator.remote o serve w).2 := by
  rw [remote_snd]
  split
  · exact .refl _
  · exact h

/-- A hold adds a row that could be granted at its query. -/
theorem seatStep_hold (x : StepIn) (xUserId : Header)
    (body : Bookings.Controller.HoldBody) (w : World) :
    SeatStep freed w (w.exec env (.createHold x xUserId body)) := by
  have hclock : w.clock ≤ (holdInputs w.clock x.rowId x.lockValue x.delays x.faults).tRelease := by
    simp only [holdInputs]
    omega
  rcases Bookings.Controller.createHold_cases env (holdInputs w.clock x.rowId x.lockValue
    x.delays x.faults)
      ⟨w.bookings, w.locks⟩ xUserId body with ⟨err, -, hb⟩ | ⟨a, b, -, -, -, hg⟩
  · exact .of_same hclock hb
  · refine ⟨hclock, .hold b, .hold hg.insert hg.status hg.expires fun c hc hs hlc =>
      ?_, fun _ h => by cases h⟩
    refine hg.free c hc hs (isActive_mono ?_ hlc)
    simp only [World.exec, holdInputs]
    omega

theorem seatStep_createHold (q : HoldRequest) (w : World) :
    SeatStep freed w (createHold env e q w).2 :=
  seatStep_hold e (some (onWire q.userId)) ⟨q.tripId.viaJson, q.seatId.viaJson, .string q.userId,
    q.fromStopSeq.viaJson, q.toStopSeq.viaJson⟩ w

theorem seatStep_charge (q : ChargeRequest) (w : World) : SeatStep freed w (charge e q w).2 := by
  have hclock : (charge e q w).2.clock = w.clock := by simp only [charge]
  exact .of_same hclock.ge (bookings_charge e q w)

/-- Off its expiry, a hold that is confirmed still counts, and one that is refused as
expired does not. -/
theorem seatStep_confirm (h : ¬ w.AtExpiry id) : SeatStep freed w (confirmBooking id w).2 := by
  refine ⟨le_rfl, ?_⟩
  show ∃ ev, SeatWrite w.clock w.bookings ev (Bookings.confirmBooking w.bookings w.clock id).2 ∧ _
  rcases Bookings.confirmBooking_cases w.bookings w.clock id with
    ⟨err, hr⟩ | ⟨b, hb, hp, ⟨hx, hr⟩ | ⟨hx, hr⟩⟩ <;> rw [hr]
  · exact ⟨.look, .look, fun _ h => by cases h⟩
  · refine ⟨.look, .expire hb ?_ (by decide), fun _ h => by cases h⟩
    unfold isActive Booking.hasExpired at *
    cases he : b.holdExpiresAt with
    | none => simp [he] at hx
    | some d =>
      simp only [he, decide_eq_true_eq] at hx
      simp only [hp, decide_true, Bool.true_and]
      have hd : ¬ w.clock < d := by omega
      simp [hd]
  · refine ⟨.confirm id, .confirm hb ?_, fun _ h => by cases h⟩
    unfold isActive Booking.hasExpired at *
    cases he : b.holdExpiresAt with
    | none => simp [hp]
    | some d =>
      have hne : d ≠ w.clock := fun hd => h ⟨b, hb, hp, by rw [he, hd]⟩
      simp only [he, decide_eq_false_iff_not] at hx
      have hd : w.clock < d := by omega
      simp [hp, hd]

theorem seatStep_release (reason : Value) (hf : freed id) : SeatStep freed w
    { w with bookings := (Bookings.Controller.releaseBooking w.bookings id reason).2 } := by
  have key :
    ∀ r, SeatStep freed w { w with bookings := (Bookings.releaseBooking w.bookings id r).2 } := by
    intro r
    rcases Bookings.releaseBooking_cases w.bookings id r with
      ⟨err, hr⟩ | ⟨b, target, -, ht, hr⟩ <;> rw [hr]
    · exact .refl _
    · refine ⟨le_rfl, .giveUp id, .giveUp ?_, fun j hj => by cases hj; exact hf⟩
      rcases targetStatus_cases ht with rfl | rfl <;> rfl
  cases reason <;> exact key _

theorem seatStep_exec {s : Pool Shared Call} {op : Op} (ho : OffExpiry s (.env op)) :
    SeatStep (fun id => Releases id s (.env op)) s.shared.world (s.shared.world.exec env op) := by
  cases op with
  | wait d => exact .of_same (by simp only [World.exec]; omega) rfl
  | createHold x xUserId body => exact seatStep_hold x xUserId body _
  | confirmBooking id => exact seatStep_confirm ho
  | releaseBooking id reason => exact seatStep_release reason rfl
  | processCharge x key xKey xUserId body => exact .of_same le_rfl rfl
  | processRefund id => exact .of_same le_rfl rfl

/-- Every step of every saga and cancellation. -/
theorem act_seatStep (ha : (orchestrator env).act sh i p e = some (sh', p'))
    (ho : ∀ id ∈ p.confirms, ¬ sh.world.AtExpiry id) :
    SeatStep (fun id => p.releases = some id) sh.world sh'.world := by
  cases p with
  | confirmBooking input pc =>
    obtain ⟨pc', rfl, hm⟩ := act_confirmBooking ha
    cases hm with
    | reject _ | holdFailed _ => exact .refl _
    | holdThrew _ _ | hold _ _ => exact seatStep_createHold (holdRequest input) sh.world
    | chargeThrew _ h => exact .mayHave h (seatStep_charge _ _)
    | charged _ _ | declined _ _ => exact seatStep_charge _ _
    | confirmThrew _ h => exact .mayHave h (seatStep_confirm (ho _ rfl))
    | confirmed _ => exact seatStep_confirm (ho _ rfl)
    | publishConfirmed _ _ | publishFailedThrew _ | publishFailed _ => exact .refl _
    | releaseThrew _ h => exact .mayHave h (seatStep_release (.string _) rfl)
    | released _ => exact seatStep_release (.string _) rfl
    | compensate => exact .remote _ (seatStep_release (.string _) rfl)
  | cancelBooking id paymentId pc =>
    obtain ⟨pc', rfl, hm⟩ := act_cancelBooking ha
    cases hm with
    | enter _ | publish _ => exact .refl _
    | refund => exact .remote _ (.of_same le_rfl rfl)
    | release _ => exact .remote _ (seatStep_release (.string _) rfl)

theorem step_seatStep {s s' : Pool Shared Call} {ev : Pool.Event StepIn Op} (ho : OffExpiry s ev)
    (hst : Pool.step (orchestrator env) s ev = some s') :
    SeatStep (fun id => Releases id s ev) s.shared.world s'.shared.world := by
  cases ev with
  | env op =>
    obtain ⟨sh, he, rfl⟩ := Pool.step_env hst
    cases he
    exact seatStep_exec ho
  | proc i e =>
    obtain ⟨p, sh, p', hp, ha, rfl⟩ := Pool.step_proc hst
    obtain ⟨hc, sev, hw, hfree⟩ := act_seatStep ha (ho p hp)
    exact ⟨hc, sev, hw, fun id hid => ⟨p, hp, hfree id hid⟩⟩

end

/-! ## Runs -/

/-- Any calls, wherever they are, on bookings no two of which have one leg. -/
def SeatsApart (s : Pool Shared Call) : Prop :=
  SeatDisjoint (queryLive.Live s.shared.world.clock) s.shared.world.bookings

def seatRuns (env : Env) : LTS (Pool Shared Call) (Pool.Event StepIn Op) :=
  Pool.system (orchestrator env) SeatsApart

/-- Who has each leg now. -/
def seatsNow (s : Pool Shared Call) : Calendar Int String SeatLeg :=
  seatMap s.shared.world.bookings s.shared.world.clock

section
variable {env : Env} {s s' : Pool Shared Call} {ev : Pool.Event StepIn Op}

theorem seatsApart_reach (h : (seatRuns env).Reach OffExpiry s) : SeatsApart s := by
  refine h.invariant (fun s hi => hi) fun s ev s' _ hd ho hst => ?_
  obtain ⟨hc, sev, hw, -⟩ := step_seatStep ho hst
  exact hw.disjoint (hd.mono fun _ => queryLive.antitone hc)

/-- **What the sagas do to the seats is a run of the calendar**, and where no release of a
booking of `F` is sent, no request frees one. -/
theorem calendar_of_sagas (F : String → Prop) (h : (seatRuns env).Reach OffExpiry s)
    (hr : (seatRuns env).Run (fun s ev => OffExpiry s ev ∧ ∀ id, F id → ¬ Releases id s ev) s s') :
    (Calendar.system Int String SeatLeg).Run (fun _ l => ∀ id, F id → l.2 ≠ .free id)
      (seatsNow s) (seatsNow s') := by
  refine LTS.Run.simulates (fun _ _ ho => ho.1) h (fun s ev s' hs ho hst => ?_) hr
  obtain ⟨hc, sev, hw, hfreed⟩ := step_seatStep ho.1 hst
  obtain ⟨r, hr, hfree⟩ := hw.step hc (seatsApart_reach hs)
  exact ⟨(s'.shared.world.clock, r), fun id hF hid => ho.2 id hF (hfreed id (hfree id hid)), hr⟩

/-- A booking that counts keeps its legs, until its deadline. -/
theorem hasLeg_of_sagas {b : Booking} {u : SeatLeg} (h : (seatRuns env).Reach OffExpiry s)
    (hb : b ∈ s.shared.world.bookings.rows) (hact : isActive s.shared.world.clock b = true)
    (hu : b.Covers u)
    (hr : (seatRuns env).Run (fun s ev => OffExpiry s ev ∧ ¬ Releases b.id s ev) s s')
    (hd : (s'.shared.world.clock : WithTop Int) < b.deadline) :
    HasLeg s'.shared.world.bookings s'.shared.world.clock b.id u := by
  have hrun := calendar_of_sagas (fun id => id = b.id) h
    (hr.mono fun s ev ho => ⟨ho.1, fun id hid => by rw [hid]; exact ho.2⟩)
  exact hasLeg_of_has (seatsApart_reach (h.run (hr.mono fun _ _ ho => ho.1)))
    (Calendar.held_of_run (i := b.id) (hrun.mono fun _ l hl => hl b.id rfl)
      (seatMap_holder_of_mem (seatsApart_reach h) hb hact hu)) hd

end

end RouteGo.Orchestrator
