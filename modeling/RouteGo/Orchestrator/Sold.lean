import RouteGo.Orchestrator.Onward
import RouteGo.Orchestrator.Seats

/-!
# What a passenger has who was told so

The answer of a saga names a booking and a payment (`Call.told`). In any run of sagas,
cancellations and other clients, the booking is the one the saga holds, of the seat that
was asked for, and the payment was taken under its key (`answered_reach`). While nobody
asks for that booking to be released or cancelled, it stays confirmed and its legs are
its own (`sold_of_told`).
-/

namespace RouteGo.Orchestrator

open Js Bookings Payments

/-- The booking is of the seat, the stops and the user of the input, as the request for
the hold carries them and the columns keep them. -/
structure AskedFor (C : IdColumn) (input : ConfirmBookingInput) (b : Booking) : Prop extends
    OfSeat C input b where
  fromStopSeq : input.fromStopSeq.viaJson.toSeq.toInt4 = some b.fromStopSeq
  toStopSeq : input.toStopSeq.viaJson.toSeq.toInt4 = some b.toStopSeq
  userId : trim input.userId = input.userId → C.keep input.userId = some b.userId
  /-- Integer stops were compared. -/
  ordered : ∀ m n : Int, input.fromStopSeq.viaJson.toSeq = .ofInt m →
    input.toStopSeq.viaJson.toSeq = .ofInt n → m < n

/-- The booking and the payment of an answer. -/
def ConfirmBookingResult.told (r : ConfirmBookingResult) : Option (Booking × ChargeResult) :=
  if r.success then r.booking.bind fun b => r.payment.map fun payment => (b, payment) else none

/-- What a saga is about to answer, or has answered. -/
def ConfirmPc.told : ConfirmPc → Option (Booking × ChargeResult)
  | .publishingConfirmed _ confirmed payment => some (confirmed, payment)
  | .done _ (.ok r) => r.told
  | _ => none

/-- What a saga knows of its hold and of its answer. -/
structure ConfirmPc.Answered (C : IdColumn) (w : World) (input : ConfirmBookingInput)
    (pc : ConfirmPc) : Prop where
  held : ∀ hold, pc.hold = some hold → AskedFor C input hold ∧ ∃ s, w.RowIs hold s
  told : ∀ b payment, pc.told = some (b, payment) →
    ∃ hold, pc.hold = some hold ∧ b = hold.withStatus .CONFIRMED ∧ w.Took hold.id payment.paymentId

def Call.Answered (C : IdColumn) (w : World) : Call → Prop
  | .confirmBooking input pc => pc.Answered C w input
  | .cancelBooking _ _ _ => True

section
variable {env : Env} {w w' : World} {sh sh' : Shared} {i : Nat} {input : ConfirmBookingInput}
  {e : StepIn} {pc pc' : ConfirmPc} {p p' : Call} {b hold : Booking}
  {payment : ChargeResult} {id : String} {C : IdColumn}

theorem askedFor_createHold (h : (createHold env e (holdRequest input) w).1 = .ok b) :
    AskedFor env.ids input b := by
  obtain ⟨a, hp, -, hg⟩ := createHold_granted h
  refine ⟨ofSeat_createHold h, ?_, ?_, fun ht => ?_, fun m n hm hn => ?_⟩
  · have hf := hg.fromSeq
    rwa [hp.fromSeq] at hf
  · have hto := hg.toSeq
    rwa [hp.toSeq] at hto
  · have hor : Header.or (some (onWire input.userId)) (.string input.userId) =
      .string input.userId := by
      rw [onWire_of_trim ht, Header.or]
      split <;> rfl
    have huser :
      a.userId = (Header.or (some (onWire input.userId)) (.string input.userId)).toText :=
      hp.userId
    rw [hor] at huser
    rw [← hg.userId, huser]
    rfl
  · exact hg.valid.lt (hp.fromSeq.trans (congrArg Value.number hm))
      (hp.toSeq.trans (congrArg Value.number hn))

theorem World.RowIs.onward {s : BookingStatus} (h : w.RowIs b s) (ho : Onward w w') :
    ∃ s', w'.RowIs b s' := by
  obtain ⟨r, hr, hkept⟩ := exists_row_kept ho.bookings.rowsKept h
  refine ⟨r.status, ?_⟩
  rw [World.RowIs, hr, hkept.same]
  rfl

theorem ConfirmPc.Answered.onward (h : pc.Answered C w input) (ho : Onward w w') :
    pc.Answered C w' input := by
  refine ⟨fun hold hh => ?_, fun b payment ht => ?_⟩
  · obtain ⟨hasked, s, hrow⟩ := h.held hold hh
    exact ⟨hasked, hrow.onward ho⟩
  · obtain ⟨hold, hh, hb, htook⟩ := h.told b payment ht
    exact ⟨hold, hh, hb, htook.onward ho⟩

/-- A step that leaves something to be told: the publication, or the confirmation. -/
theorem told_of_confirmStep (h : confirmStep env sh i input e pc = some (sh', pc'))
    (ht : pc'.told = some (b, payment)) :
    (pc.told = some (b, payment) ∧ pc'.hold = pc.hold ∧ sh'.world = sh.world) ∨
    ∃ hold, pc = .confirming hold payment ∧ pc' = .publishingConfirmed hold b payment ∧
      (confirmBooking hold.id sh.world).1 = .ok b ∧
        sh'.world = (confirmBooking hold.id sh.world).2 := by
  have hm := confirmStep_move h
  cases hm with
  | @confirmed hold c cb hc =>
    cases ht
    exact .inr ⟨hold, rfl, rfl, hc, rfl⟩
  | publishConfirmed res _ =>
    simp only [confirmStep] at h
    split at h
    · cases h
      cases ht
    · cases h
      exact .inl ⟨ht, rfl, rfl⟩
  | publishFailed hs =>
    simp only [ConfirmPc.told, ConfirmBookingResult.told, hs] at ht
    cases ht
  | _ => cases ht

/-- The confirmation that answers with `b`. -/
theorem confirmBooking_told {s : BookingStatus} (hrow : w.RowIs hold s)
    (h : (confirmBooking hold.id w).1 = .ok b) :
    b = hold.withStatus .CONFIRMED ∧ (confirmBooking hold.id w).2.RowIs hold .CONFIRMED := by
  have hc : (Bookings.confirmBooking w.bookings w.clock hold.id).1 = .ok b := h
  rcases Bookings.confirmBooking_cases w.bookings w.clock hold.id with
    ⟨err, hr⟩ | ⟨c, hb, -, ⟨-, hr⟩ | ⟨-, hr⟩⟩
  · rw [hr] at hc; cases hc
  · rw [hr] at hc; cases hc
  · obtain rfl : c = hold.withStatus s := Option.some.inj (hb.symm.trans hrow)
    rw [hr] at hc
    cases hc
    refine ⟨rfl, ?_⟩
    show (Bookings.confirmBooking w.bookings w.clock hold.id).2.find hold.id = _
    rw [hr]
    exact find_setStatus_self (b := hold.withStatus s) .CONFIRMED hrow

theorem Call.Answered.onward (h : p.Answered C w) (ho : Onward w w') : p.Answered C w' := by
  cases p with
  | confirmBooking input pc => exact ConfirmPc.Answered.onward h ho
  | cancelBooking id paymentId pc => trivial

theorem Call.Answered.step (h : p.Answered env.ids sh.world) (hk : p.Known sh.world)
    (ha : (orchestrator env).act sh i p e = some (sh', p')) : p'.Answered env.ids sh'.world := by
  have ho := act_onward ha
  cases p with
  | cancelBooking id paymentId pc =>
    obtain ⟨pc', rfl, -⟩ := act_cancelBooking ha
    trivial
  | confirmBooking input pc =>
    obtain ⟨pc', rfl, hs⟩ := act_confirmStep ha
    refine ⟨fun hold hh => ?_, fun b payment ht => ?_⟩
    · rcases (confirmStep_move hs).hold_cases with heq | ⟨c, hc, -, hr, hw⟩
      · exact (ConfirmPc.Answered.onward h ho).held hold (heq ▸ hh)
      · obtain rfl : c = hold := Option.some.inj (hc.symm.trans hh)
        refine ⟨askedFor_createHold hr, .PENDING, ?_⟩
        rw [hw]
        exact rowIs_createHold hr
    · rcases told_of_confirmStep hs ht with ⟨ht', heq, hw⟩ | ⟨hold, rfl, rfl, hc, -⟩
      · rw [heq, hw]
        exact h.told b payment ht'
      · obtain ⟨-, s, hrow⟩ := h.held hold rfl
        have htook : sh.world.Took hold.id payment.paymentId := hk.1
        exact ⟨hold, rfl, (confirmBooking_told hrow hc).1, htook.onward ho⟩

end

/-- What every saga has been told is so. -/
theorem answered_reach {env : Env} {Q : Op → Prop} {s : Pool Shared Call}
    (h : (callRuns env).Reach (ClientsOf Q) s) {i : Nat} {p : Call} (hp : s.procs[i]? = some p) :
    p.Answered env.ids s.shared.world := by
  have hout : Pool.Outline (orchestrator env) (ClientsOf Q) (fun _ => True)
      fun sh _ p => p.Known sh.world ∧ p.Answered env.ids sh.world := by
    refine ⟨fun s op sh hs _ he => ?_, fun s j q e sh q' hs _ hq ha => ?_,
      fun s j q e sh q' k r hs _ _ ha _ hr => ?_⟩
    · cases he
      exact ⟨trivial, fun j q hq => ⟨(hs.2 j q hq).1.onward (onward_exec op _),
        (hs.2 j q hq).2.onward (onward_exec op _)⟩⟩
    · obtain ⟨hk, ha'⟩ := hs.2 j q hq
      exact ⟨trivial, hk.step ha, ha'.step hk ha⟩
    · exact ⟨(hs.2 k r hr).1.onward (act_onward ha), (hs.2 k r hr).2.onward (act_onward ha)⟩
  refine ((Pool.invariant hout (fun s hi => ⟨trivial, fun j q hq => ?_⟩) h).2 i p hp).2
  rcases hi q (List.mem_of_getElem? hq) with ⟨input, rfl⟩ | ⟨id, paymentId, rfl⟩
  · exact ⟨⟨trivial, fun b hb => by cases hb⟩, fun hold hh => (by cases hh), fun b payment ht =>
      (by cases ht)⟩
  · exact ⟨trivial, trivial⟩

/-! ## Left alone -/

/-- The hold that another client's request confirms. -/
def Op.confirms : Op → Option String
  | .confirmBooking id => some id
  | _ => none

/-- Nobody asks for the booking to be released, or to be cancelled. -/
def Unasked (id : String) (s : Pool Shared Call) : Pool.Event StepIn Op → Prop
  | .env op => ∀ reason, op ≠ .releaseBooking id reason
  | .proc i _ => ∀ paymentId pc, s.procs[i]? ≠ some (.cancelBooking id paymentId pc)

def LeftAlone (id : String) (s : Pool Shared Call) (ev : Pool.Event StepIn Op) : Prop :=
  OffExpiry s ev ∧ Unasked id s ev

/-- Any calls yet to begin, on bookings no two of which have one leg. -/
def soldRuns (env : Env) : LTS (Pool Shared Call) (Pool.Event StepIn Op) :=
  Pool.system (orchestrator env) fun s => BeforeCalls s ∧ SeatsApart s

def Call.told : Call → Option (Booking × ChargeResult)
  | .confirmBooking _ pc => pc.told
  | .cancelBooking _ _ _ => none

/-- The bookings that sagas have told of, and that have the id, are confirmed. -/
def StillConfirmed (id : String) (s : Pool Shared Call) : Prop :=
  ∀ (i : Nat) p hold, s.procs[i]? = some p → p.told.isSome → p.hold = some hold → hold.id = id →
    s.shared.world.RowIs hold .CONFIRMED

section
variable {env : Env} {s s' : Pool Shared Call} {id : String} {p : Call} {b : Booking} {t : Int}
  {bookings bookings' : BookingTable} {ev : SeatEvent} {freed : String → Prop} {w w' : World}

/-- A confirmed booking stays so, unless it is given up. -/
theorem find_of_seatWrite (h : SeatWrite t bookings ev bookings') (hb : bookings.find id = some b)
    (hs : b.status = .CONFIRMED) (hev : ev ≠ .giveUp id) : bookings'.find id = some b := by
  cases h with
  | look => exact hb
  | hold hi _ _ _ =>
    rw [Table.find_of_insert hi, if_neg, hb]
    rintro rfl
    rw [(Table.insert_eq_some.mp hi).1] at hb
    cases hb
  | @confirm c j hc _ =>
    by_cases hj : id = j
    · subst hj
      rw [find_setStatus_self _ hb, Booking.withStatus, ← hs]
    · rw [find_setStatus_ne _ hj, hb]
  | @expire c j target hc hn _ =>
    by_cases hj : id = j
    · subst hj
      obtain rfl := Option.some.inj (hc.symm.trans hb)
      rw [isActive_of_confirmed hs] at hn
      cases hn
    · rw [find_setStatus_ne _ hj, hb]
  | @giveUp j target _ =>
    rw [find_setStatus_ne _ fun hj => hev (by rw [hj]), hb]

theorem SeatStep.rowIs (h : SeatStep freed w w') (hrow : w.RowIs b .CONFIRMED) (hf : ¬ freed b.id) :
    w'.RowIs b .CONFIRMED := by
  obtain ⟨-, ev, hw, hfree⟩ := h
  exact find_of_seatWrite hw hrow rfl fun hev => hf (hfree b.id hev)

/-- A saga releases its hold only. -/
theorem Call.releases_cases (h : p.releases = some id) :
    (∃ hold, p.hold = some hold ∧ hold.id = id) ∨ ∃ paymentId pc, p =
      .cancelBooking id paymentId pc := by
  cases p with
  | confirmBooking input pc =>
    left
    cases pc with
    | releasing hold payment => exact ⟨hold, rfl, Option.some.inj h⟩
    | compensating hold err => exact ⟨hold, rfl, Option.some.inj h⟩
    | _ => cases h
  | cancelBooking j paymentId pc =>
    right
    cases pc with
    | releasing =>
      obtain rfl : j = id := Option.some.inj h
      exact ⟨paymentId, _, rfl⟩
    | _ => cases h

theorem clientsOf_leftAlone (s : Pool Shared Call) (ev : Pool.Event StepIn Op)
    (_ : LeftAlone id s ev) : ClientsOf (fun _ => True) s ev := fun _ _ => trivial

theorem stillConfirmed_step (h : (callRuns env).Reach (LeftAlone id) s) (hI : StillConfirmed id s)
    {ev : Pool.Event StepIn Op} (ho : LeftAlone id s ev)
    (hst : Pool.step (orchestrator env) s ev = some s') : StillConfirmed id s' := by
  have hreach := h.mono clientsOf_leftAlone
  have hseat := step_seatStep ho.1 hst
  cases ev with
  | env op =>
    obtain ⟨sh, -, rfl⟩ := Pool.step_env hst
    intro i p hold hp ht hh hid
    refine hseat.rowIs (hI i p hold hp ht hh hid) fun hrel => ?_
    cases op with
    | releaseBooking j reason => exact ho.2 reason (by rw [← hid, ← hrel])
    | _ => exact hrel
  | proc j e =>
    obtain ⟨q, sh, q', hq, ha, rfl⟩ := Pool.step_proc hst
    intro i p hold hp ht hh hid
    rcases Pool.getElem?_set_cases hp with ⟨rfl, rfl⟩ | ⟨hij, hp⟩
    · cases q with
      | cancelBooking k paymentId pc =>
        obtain ⟨pc', rfl, -⟩ := act_cancelBooking ha
        cases ht
      | confirmBooking input pc =>
        obtain ⟨pc', rfl, hs⟩ := act_confirmStep ha
        obtain ⟨⟨b, payment⟩, ht⟩ := Option.isSome_iff_exists.mp ht
        rcases told_of_confirmStep hs ht with ⟨ht', heq, hw⟩ | ⟨c, rfl, rfl, hc, hw⟩
        · have hrow := hI i _ hold hq (by rw [Call.told, ht']; rfl) (heq.symm.trans hh) hid
          show sh.world.RowIs hold .CONFIRMED
          rw [hw]
          exact hrow
        · obtain rfl : c = hold := Option.some.inj hh
          obtain ⟨-, s₀, hrow⟩ := (answered_reach hreach hq).held c rfl
          show sh.world.RowIs c .CONFIRMED
          rw [hw]
          exact (confirmBooking_told hrow hc).2
    -- another call releases another booking, or it is a cancellation
    · refine hseat.rowIs (hI i p hold hp ht hh hid) fun ⟨r, hr, hrel⟩ => ?_
      obtain rfl : q = r := Option.some.inj (hq.symm.trans hr)
      rcases Call.releases_cases hrel with ⟨c, hc, hcid⟩ | ⟨paymentId, pc, rfl⟩
      · exact holdsApart_reach hreach j i q p (Ne.symm hij) hq hp c hold hc hh hcid
      · rw [hid] at hq
        exact ho.2 paymentId pc hq

theorem stillConfirmed_reach (h : (callRuns env).Reach (LeftAlone id) s) : StillConfirmed id s := by
  refine h.invariant (fun s hi i p hold hp ht _ _ => ?_) fun s ev s' hr hI ho hst =>
    stillConfirmed_step hr hI ho hst
  rcases hi p (List.mem_of_getElem? hp) with ⟨input, rfl⟩ | ⟨id, paymentId, rfl⟩ <;> cases ht

/-- What the passenger has who was told of `b` and `payment`. -/
structure Sold (C : IdColumn) (w : World) (input : ConfirmBookingInput) (b : Booking)
    (payment : ChargeResult) : Prop where
  stored : b ∈ w.bookings.rows
  confirmed : b.status = .CONFIRMED
  asked : AskedFor C input b
  paid : w.Took b.id payment.paymentId
  alone : ∀ u, b.Covers u → HasLeg w.bookings w.clock b.id u

/-- **What is told is so, and stays so**, while nobody asks for the booking to be released
or cancelled. -/
theorem sold_of_told {i : Nat} {input : ConfirmBookingInput} {pc : ConfirmPc}
    {payment : ChargeResult}
    (h : (soldRuns env).Reach (LeftAlone b.id) s)
    (hp : s.procs[i]? = some (.confirmBooking input pc))
    (ht : pc.told = some (b, payment)) : Sold env.ids s.shared.world input b payment := by
  obtain ⟨s₀, ⟨hbefore, hapart⟩, hr⟩ := h
  have hcalls : (callRuns env).Reach (LeftAlone b.id) s := ⟨s₀, hbefore, hr⟩
  have hseats : (seatRuns env).Reach OffExpiry s := ⟨s₀, hapart, hr.mono fun _ _ ho => ho.1⟩
  obtain ⟨hheld, htold⟩ := answered_reach (hcalls.mono clientsOf_leftAlone) hp
  obtain ⟨hold, hh, rfl, htook⟩ := htold b payment ht
  obtain ⟨hasked, -⟩ := hheld hold hh
  have hrow : s.shared.world.RowIs hold .CONFIRMED :=
    stillConfirmed_reach hcalls i _ hold hp (by rw [Call.told, ht]; rfl) hh rfl
  have hm := Table.mem_of_find hrow
  refine ⟨hm, rfl, ⟨⟨hasked.tripId, hasked.seatId⟩, hasked.fromStopSeq, hasked.toStopSeq,
    hasked.userId, hasked.ordered⟩, htook, fun u hu => ?_⟩
  exact hasLeg_of_sagas hseats hm (isActive_of_confirmed rfl) hu (.refl s)
    (by rw [deadline_withStatus_confirmed]; exact WithTop.coe_lt_top _)

end

end RouteGo.Orchestrator
