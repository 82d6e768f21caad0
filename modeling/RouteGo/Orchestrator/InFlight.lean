import RouteGo.Bookings.SeatRuns
import RouteGo.Bookings.Solo
import RouteGo.Lib.Callers
import RouteGo.Orchestrator.Cancel
import RouteGo.Orchestrator.Sold

/-!
# Requests in flight

Sagas and cancellations as callers of the booking service at its awaits: a request is a
call of the service once it has arrived, which other calls interleave with and which goes
on when its caller has given up. What the payment service and Kafka answer is left open.

What they do to the seats is a run of the booking service (`seatCalls_of_sagas`), and a
booking that a saga was confirmed with has its legs to itself (`seat_of_told`).
-/

namespace RouteGo.Orchestrator

open Js Bookings Payments

/-! ## The calls of the booking service -/

/-- How a call has ended. -/
def answer : Bookings.Call → Option (Result Booking)
  | .createHold _ (.done res) | .confirmBooking _ (.done res) | .releaseBooking _ _ (.done res) =>
    some res
  | _ => none

/-- The call before its first step. -/
def request : Bookings.Call → Bookings.Call
  | .createHold a _ => .createHold a .start
  | .confirmBooking id _ => .confirmBooking id .start
  | .releaseBooking id reason _ => .releaseBooking id reason .start

theorem answers (env : Env) (T : Tokens) :
    Pool.Answers (Bookings.service env T) answer request where
  kind sh i p e sh' p' h := by
    cases p with
    | createHold a pc => obtain ⟨pc', rfl, -⟩ := Bookings.act_createHold h; rfl
    | confirmBooking id pc => obtain ⟨pc', rfl, -⟩ := Bookings.act_confirmBooking h; rfl
    | releaseBooking id reason pc => obtain ⟨pc', rfl, -⟩ := Bookings.act_releaseBooking h; rfl
  last sh i p e res h := by
    cases p with
    | createHold a pc => cases pc <;> cases h; rfl
    | confirmBooking id pc => cases pc <;> cases h; rfl
    | releaseBooking id reason pc => cases pc <;> cases h; rfl

/-! ## Callers -/

/-- What a saga gets from elsewhere than the booking service: an error, of a request that
does not arrive or is not answered in time as well, or an answer. -/
inductive SagaIn where
  | threw (error : AppError)
  | charged (payment : ChargeResult)
  | answered

/-- The call of the booking service that a request for a hold comes to. -/
def HoldRequest.call (q : HoldRequest) : Option Bookings.Call :=
  (Bookings.Controller.holdArgs (some (onWire q.userId)) ⟨q.tripId.viaJson, q.seatId.viaJson,
    .string q.userId, q.fromStopSeq.viaJson, q.toStopSeq.viaJson⟩).map fun a => .createHold a .start

def ConfirmPc.request (input : ConfirmBookingInput) : ConfirmPc → Option Bookings.Call
  | .start => match validateConfirm input with
    | .error _ => none
    | .ok () => (holdRequest input).call
  | .confirming hold _ => some (.confirmBooking hold.id .start)
  | .releasing hold _ | .compensating hold _ =>
    some (.releaseBooking hold.id "PAYMENT_FAILED" .start)
  | .charging _ | .publishingConfirmed _ _ _ | .publishingFailed _ _ | .done _ _ => none

def ConfirmPc.resume : ConfirmPc → Result Booking → ConfirmPc
  | .start, .ok hold => .charging hold
  | .start, .error err => .done none (.error (axiosError err))
  | .confirming hold payment, .ok confirmed => .publishingConfirmed hold confirmed payment
  | .confirming hold _, .error err | .releasing hold _, .error err =>
    .compensating hold (axiosError err)
  | .releasing hold payment, .ok _ => .publishingFailed hold payment
  | .compensating hold err, _ => .done hold (.error err)
  | pc, _ => pc

def ConfirmPc.own (input : ConfirmBookingInput) : ConfirmPc → SagaIn → Option ConfirmPc
  | .start, .threw err => match validateConfirm input with
    | .error e => some (.done none (.error e))
    | .ok () => some (.done none (.error err))
  | .charging hold, .charged payment =>
    if payment.status = .SUCCEEDED then some (.confirming hold payment)
      else some (.releasing hold payment)
  | .charging hold, .threw err | .confirming hold _, .threw err | .releasing hold _, .threw err
  | .publishingFailed hold _, .threw err => some (.compensating hold err)
  | .publishingConfirmed hold _ _, .threw err => some (.done hold (.error err))
  | .publishingConfirmed hold confirmed payment, .answered =>
    some (.done hold (.ok ⟨true, confirmed, payment, none⟩))
  | .publishingFailed hold payment, .answered =>
    some (.done hold (.ok ⟨false, none, payment, declineReason payment⟩))
  | .compensating hold err, .threw _ => some (.done hold (.error err))
  | _, _ => none

def CancelPc.request (bookingId : String) : CancelPc → Option Bookings.Call
  | .releasing => some (.releaseBooking bookingId "USER_CANCELLED" .start)
  | .start | .refunding _ | .publishing | .done _ => none

def CancelPc.resume : CancelPc → Result Booking → CancelPc
  | .releasing, .ok _ => .publishing
  | .releasing, .error err => .done (.error (axiosError err))
  | pc, _ => pc

def CancelPc.own (bookingId : String) (paymentId : Option String) : CancelPc → SagaIn →
    Option CancelPc
  | .start, _ =>
    if bookingId = "" then
      some (.done (.error (.ValidationError "bookingId is required for cancellation")))
    else match paymentId with
      | some p => if p = "" then some .releasing else some (.refunding p)
      | none => some .releasing
  | .refunding _, _ => some .releasing
  | .releasing, .threw err | .publishing, .threw err => some (.done (.error err))
  | .publishing, .answered =>
    some (.done (.ok ⟨true, bookingId, "Booking cancelled and released successfully"⟩))
  | _, _ => none

def sagaCaller : Pool.Caller Call Bookings.Call (Result Booking) SagaIn where
  request
    | .confirmBooking input pc => pc.request input
    | .cancelBooking id _ pc => pc.request id
  resume
    | .confirmBooking input pc, res => .confirmBooking input (pc.resume res)
    | .cancelBooking id paymentId pc, res => .cancelBooking id paymentId (pc.resume res)
  own
    | .confirmBooking input pc, e => (pc.own input e).map (.confirmBooking input)
    | .cancelBooking id paymentId pc, e => (pc.own id paymentId e).map (.cancelBooking id paymentId)

/-- The booking service, and the sagas that call it. -/
abbrev InFlight := Pool (Pool Bookings.Shared (Option Bookings.Call)) (Call × Option Nat)

abbrev InFlightEvent :=
  Pool.Event (Pool.CallerIn SagaIn) (Pool.Event (Bookings.StepIn ⊕ Bookings.Call) Nat)

/-- Sagas yet to begin, and cancellations of ids that are one segment of a path, beside a
booking service without rows and calls. -/
structure Unsent (s : InFlight) : Prop where
  bookings : s.shared.shared.bookings = Table.empty
  writes : s.shared.shared.writes = []
  calls : ∀ o ∈ s.shared.procs, o = none
  sagas : ∀ c ∈ s.procs, ((∃ input, c.1 = .confirmBooking input .start) ∨
    ∃ (id : PathId) (paymentId : Option String), c.1 = .cancelBooking id.text paymentId .start) ∧
      c.2 = none

def sagasInFlight (env : Env) (T : Tokens) : LTS InFlight InFlightEvent :=
  Pool.system ((Bookings.service env T).callers answer sagaCaller) Unsent

/-! ## The booking service in a run -/

/-- The call begins, with the ids of the trip, the seat and the booking as their columns
spell them. -/
def SpelledRequest (C : IdColumn) : Bookings.Call → Prop
  | .createHold a .start => C.AsSpelled a.tripId ∧ C.AsSpelled a.seatId
  | .confirmBooking id .start | .releaseBooking id _ .start => C.AsSpelled id
  | _ => False

instance (C : IdColumn) : ∀ p, Decidable (SpelledRequest C p)
  | .createHold _ .start => inferInstanceAs (Decidable (_ ∧ _))
  | .confirmBooking id .start | .releaseBooking id _ .start =>
    inferInstanceAs (Decidable (C.AsSpelled id))
  | .createHold _ (.locked _) | .createHold _ (.querying _ _) | .createHold _ (.available _ _)
  | .createHold _ (.inserting _ _ _) | .createHold _ (.releasing _ _) | .createHold _ (.done _)
  | .confirmBooking _ (.found _) | .confirmBooking _ .expiring | .confirmBooking _ .confirming
  | .confirmBooking _ (.done _) | .releaseBooking _ _ (.writing _)
  | .releaseBooking _ _ (.done _) =>
    .isFalse fun h => h

/-- What is written is written in time, and takes the seat from no booking of the id. -/
def InTime (env : Env) (id : String) (n : Pool Bookings.Shared (Option Bookings.Call)) :
    Pool.Event (Bookings.StepIn ⊕ Bookings.Call) Nat → Prop
  | .env _ => True
  | .proc _ (.inr p) => SpelledRequest env.ids p
  | .proc i (.inl e) => ∀ o ∈ n.procs[i]?, ∀ p ∈ o, p.WritesInTime env n.shared e ∧
    ¬ (e.fault = false ∧ p.Frees id)

instance (env : Env) (id : String) (n : Pool Bookings.Shared (Option Bookings.Call)) :
    ∀ ev, Decidable (InTime env id n ev)
  | .env _ => .isTrue trivial
  | .proc _ (.inr p) => inferInstanceAs (Decidable (SpelledRequest env.ids p))
  | .proc i (.inl _) => inferInstanceAs (Decidable (∀ o ∈ n.procs[i]?, ∀ p ∈ o, _ ∧ _))

/-- A call that is never sent. -/
def unsent (_ : Nat) : Bookings.Call :=
  .confirmBooking "00000000-0000-0000-0000-000000000000" .start

theorem spelledRequest_unsent (C : IdColumn) (i : Nat) : SpelledRequest C (unsent i) :=
  (show C.Spelled _ from C.canonical ⟨_, rfl, by decide +kernel⟩).asSpelled

section
variable {env : Env} {T : Tokens} {s : InFlight} {id : String} {b : Booking}

theorem fresh_of_spelledRequest {C : IdColumn} {p : Bookings.Call}
    (h : SpelledRequest C p) : p.Fresh := by
  cases p with
  | createHold a pc | confirmBooking _ pc | releaseBooking _ _ pc =>
    cases pc <;> first | rfl | cases h

/-- Ids that are spelled as the columns spell them are spelled alike. -/
theorem alike_of_spelledRequest {C : IdColumn} {p q : Bookings.Call} (hp : SpelledRequest C p)
    (hq : SpelledRequest C q) : p.Alike C q := by
  cases p with
  | confirmBooking | releaseBooking => cases q <;> trivial
  | createHold a pc =>
    obtain rfl : pc = .start := fresh_of_spelledRequest hp
    cases q with
    | confirmBooking | releaseBooking => trivial
    | createHold b qc =>
      obtain rfl : qc = .start := fresh_of_spelledRequest hq
      rintro trip seat ⟨hat, has⟩ ⟨hbt, hbs⟩
      exact ⟨(hp.1 trip hat).symm.trans (hq.1 trip hbt), (hp.2 seat has).symm.trans (hq.2 seat hbs)⟩

/-- **What the sagas do to the booking service is a run of its calls.** -/
theorem seatCalls_of_sagas
    (h : (sagasInFlight env T).Reach (Pool.Seen sagaCaller (InTime env id)) s) :
    (seatCalls env T).Reach (fun t ev => Timely env t ev ∧ ¬ Bookings.Frees id t ev)
      (s.shared.filled unsent) := by
  obtain ⟨s₀, hi, hr⟩ := h
  have hcalls : (Pool.system (Bookings.service env T).births fun _ => True).Run (InTime env id)
      s₀.shared s.shared := Pool.run_of_callers hr
  have hbirths : (Pool.system (Bookings.service env T).births fun _ => True).Run
      (Pool.Births (SpelledRequest env.ids) fun t ev => Timely env t ev ∧ ¬ Bookings.Frees id t ev)
      s₀.shared s.shared := by
    refine LTS.Run.simulates (f := fun n => n) (fun _ _ ho => ho) (.of_init trivial)
      (fun n ev n' _ ho hst => ?_) hcalls
    refine ⟨ev, ?_, hst⟩
    cases ev with
    | env d => exact fun F => ⟨trivial, fun hf => hf⟩
    | proc i e =>
      cases e with
      | inr p => exact ho
      | inl e =>
        obtain ⟨o, sh, o', hn, ha, rfl⟩ := Pool.step_proc hst
        cases o with
        | none => cases ha
        | some p =>
          intro F
          have hp := Pool.filled_of_some (F := F) hn
          obtain ⟨hw, hf⟩ := ho _ hn p rfl
          refine ⟨fun q hq => ?_, fun ⟨hfault, q, hq, hfq⟩ => hf ⟨hfault, ?_⟩⟩
          · obtain rfl : p = q := Option.some.inj (hp.symm.trans hq)
            exact hw
          · obtain rfl : p = q := Option.some.inj (hp.symm.trans hq)
            exact hfq
  obtain ⟨F₀, hF₀, hrun⟩ := Pool.run_of_births (F := unsent) (spelledRequest_unsent env.ids) hbirths
  have hsent : ∀ (i : Nat) p, (s₀.shared.filled F₀).procs[i]? = some p →
    SpelledRequest env.ids p := by
    intro i p hp
    rw [Pool.filled_getElem?, Option.map_eq_some_iff] at hp
    obtain ⟨o, ho, rfl⟩ := hp
    rw [hi.calls o (List.mem_of_getElem? ho)]
    exact hF₀ i
  refine ⟨s₀.shared.filled F₀, ⟨⟨hi.bookings, hi.writes, fun p hp => ?_⟩,
    fun i j p q _ hp hq => ?_⟩, hrun⟩
  · obtain ⟨i, hi⟩ := List.getElem?_of_mem hp
    exact fresh_of_spelledRequest (hsent i p hi)
  · exact alike_of_spelledRequest (hsent i p hp) (hsent j q hq)

/-! ## Confirmations that have answered -/

/-- The bookings of the id that confirmations have answered with are confirmed. -/
def ConfirmedAsTold (id : String) (s : Pool Bookings.Shared Bookings.Call) : Prop :=
  ∀ (i : Nat) b, s.procs[i]? = some (.confirmBooking id (.done (.ok b))) →
    s.shared.bookings.find id = some b ∧ b.status = .CONFIRMED

/-- A confirmation that answers has written. -/
theorem confirmed_of_act {sh sh' : Bookings.Shared} {i : Nat} {p : Bookings.Call}
    {e : Bookings.StepIn}
    (h : (Bookings.service env T).act sh i p e = some (sh', .confirmBooking id (.done (.ok b)))) :
    sh'.bookings.find id = some b ∧ b.status = .CONFIRMED := by
  cases p with
  | createHold a pc => obtain ⟨pc', hp, -⟩ := Bookings.act_createHold h; cases hp
  | releaseBooking id reason pc => obtain ⟨pc', hp, -⟩ := Bookings.act_releaseBooking h; cases hp
  | confirmBooking id pc =>
    obtain ⟨pc', hp, hm⟩ := Bookings.act_confirmBooking h
    cases hp
    cases hm with
    | confirm hb => exact ⟨find_setStatus_self .CONFIRMED hb, rfl⟩

theorem id_of_confirmed {s : Pool Bookings.Shared Bookings.Call} {i : Nat}
    (h : (seatCalls env T).Reachable s)
    (hp : s.procs[i]? = some (.confirmBooking id (.done (.ok b)))) : b.id = id := by
  refine h.invariant (I := fun s => ∀ (i : Nat) id b,
    s.procs[i]? = some (.confirmBooking id (.done (.ok b))) → b.id = id)
    (fun s hi i id b hp => ?_) (fun s ev s' _ hI _ hst i id b hp => ?_) i id b hp
  · have hf : Bookings.Call.Fresh _ := hi.1.fresh _ (List.mem_of_getElem? hp)
    cases hf
  cases ev with
  | env d =>
    obtain ⟨sh, -, rfl⟩ := Pool.step_env hst
    exact hI i id b hp
  | proc j e =>
    obtain ⟨p, sh, p', hq, ha, rfl⟩ := Pool.step_proc hst
    rcases Pool.getElem?_set_cases hp with ⟨rfl, rfl⟩ | ⟨-, hp⟩
    · exact Table.key_of_find (confirmed_of_act ha).1
    · exact hI i id b hp

theorem confirmedAsTold_reach {s : Pool Bookings.Shared Bookings.Call}
    (h : (seatCalls env T).Reach (fun t ev => Timely env t ev ∧ ¬ Bookings.Frees id t ev) s) :
    ConfirmedAsTold id s := by
  refine h.invariant (fun s hi i b hp => ?_) fun s ev s' hs hI ho hst => ?_
  · have hf : Bookings.Call.Fresh _ := hi.1.fresh _ (List.mem_of_getElem? hp)
    cases hf
  cases ev with
  | env d =>
    obtain ⟨sh, he, rfl⟩ := Pool.step_env hst
    cases he
    exact hI
  | proc j e =>
    obtain ⟨p, sh, p', hp, ha, rfl⟩ := Pool.step_proc hst
    obtain ⟨⟨-, sev, hw, hmakes⟩, -⟩ :=
      act_seat ha ((seats_reach (hs.mono fun _ _ ho => ho.1)).2 j p hp) (ho.1 p hp)
    intro i b hi
    rcases Pool.getElem?_set_cases hi with ⟨rfl, rfl⟩ | ⟨-, hi⟩
    · exact confirmed_of_act ha
    -- the step of another call
    · obtain ⟨hb, hst⟩ := hI i b hi
      refine ⟨find_of_seatWrite hw hb hst fun hev => ?_, hst⟩
      rw [hev] at hmakes
      exact ho.2 ⟨hmakes.1, p, hp, hmakes.2⟩

/-! ## What a saga is told -/

/-- What a saga is told is what a confirmation has answered. -/
def Heard (n : Pool Bookings.Shared (Option Bookings.Call)) (c : Call × Option Nat) : Prop :=
  ∀ b payment, c.1.told = some (b, payment) →
    ∃ (place : Nat) (id : String), n.procs[place]? =
      some (some (.confirmBooking id (.done (.ok b))))

theorem told_of_own {q q' : Call} {e : SagaIn} {x : Booking × ChargeResult}
    (h : sagaCaller.own q e = some q') (ht : q'.told = some x) : q.told = some x := by
  cases q with
  | cancelBooking id paymentId pc =>
    obtain ⟨pc', -, rfl⟩ := Option.map_eq_some_iff.mp h
    cases ht
  | confirmBooking input pc =>
    obtain ⟨pc', hpc, rfl⟩ := Option.map_eq_some_iff.mp h
    unfold ConfirmPc.own at hpc
    split at hpc
    all_goals first
      | (split at hpc <;> cases hpc <;> cases ht)
      | (cases hpc <;> first | exact ht | cases ht)

theorem told_of_resume {q : Call} {res : Result Booking} {payment : ChargeResult}
    (ht : (sagaCaller.resume q res).told = some (b, payment)) : q.told = some (b, payment) ∨
      ∃ input hold, q = .confirmBooking input (.confirming hold payment) ∧ res = .ok b := by
  cases q with
  | cancelBooking id paymentId pc => cases ht
  | confirmBooking input pc =>
    have ht' : (pc.resume res).told = some (b, payment) := ht
    unfold ConfirmPc.resume at ht'
    split at ht'
    all_goals first
      | cases ht'
      | exact .inl ht'
    exact .inr ⟨input, _, rfl, rfl⟩

/-- The answer to a request for a confirmation. -/
theorem confirmation_of_answer {p : Bookings.Call} (hk : request p = .confirmBooking id .start)
    (ha : answer p = some (.ok b)) : p = .confirmBooking id (.done (.ok b)) := by
  cases p with
  | createHold a pc | releaseBooking j reason pc => cases hk
  | confirmBooking j pc =>
    cases hk
    cases pc <;> cases ha
    rfl

theorem heardOutline (env : Env) (T : Tokens) :
    Pool.Outline ((Bookings.service env T).callers answer sagaCaller)
      (fun s _ => ∀ (i : Nat) c, s.procs[i]? = some c → Pool.Awaits sagaCaller request s.shared c)
      (fun _ => True) (fun n _ c => Heard n c) where
  env s e n h _ he := by
    refine ⟨trivial, fun i c hc b payment ht => ?_⟩
    obtain ⟨place, id, hp⟩ := h.2 i c hc b payment ht
    obtain ⟨p', hp', -, hlast⟩ := (answers env T).step hp he
    rw [hlast _ rfl] at hp'
    exact ⟨place, id, hp'⟩
  own s i c e n c' h hwait hc ha := by
    refine ⟨trivial, fun b payment ht => ?_⟩
    have hheard := h.2 i c hc
    cases Pool.act_callers ha with
    | send hp hn =>
      obtain ⟨place, id, hp'⟩ := hheard b payment ht
      exact ⟨place, id, Pool.getElem?_birth hp' hn⟩
    | @receive q p place a hn hans =>
      rcases told_of_resume ht with ht | ⟨input, hold, rfl, rfl⟩
      · exact hheard b payment ht
      · obtain ⟨p', q', hn', hq, hk⟩ := hwait i _ hc place rfl
        obtain rfl : p = p' := Option.some.inj (Option.some.inj (hn.symm.trans hn'))
        cases hq
        exact ⟨place, hold.id, hn.trans (by rw [confirmation_of_answer hk hans])⟩
    | own e hq => exact hheard b payment (told_of_own hq ht)
  other s i c e n c' j d h _ hc ha _ hd := by
    intro b payment ht
    obtain ⟨place, id, hp⟩ := h.2 j d hd b payment ht
    exact ⟨place, id, (Pool.act_callers ha).stays hp⟩

theorem heard_reach {ok : InFlight → InFlightEvent → Prop} {i : Nat} {c : Call × Option Nat}
    (h : (sagasInFlight env T).Reach ok s) (hc : s.procs[i]? = some c) : Heard s.shared c := by
  have hwait := h.reachable.strengthen (I := fun s => ∀ (i : Nat) c, s.procs[i]? = some c →
      Pool.Awaits sagaCaller request s.shared c)
    fun s hr i c hc => Pool.awaits_reach (answers env T) (fun s hi c hc => (hi.sagas c hc).2) hr hc
  refine (Pool.invariant (heardOutline env T) (fun s hi => ⟨trivial, fun i c hc => ?_⟩)
    (hwait.mono fun _ _ ho => ho.2)).2 i c hc
  intro b payment ht
  rcases (hi.sagas c (List.mem_of_getElem? hc)).1 with ⟨input, hq⟩ | ⟨id, paymentId, hq⟩ <;>
    rw [hq] at ht <;> cases ht

/-- **A seat is sold once**, however the requests interleave: the booking that a saga was
confirmed with is stored as it was told, and has its legs to itself, unless a call takes the
seat from that very booking. -/
theorem seat_of_told {i : Nat} {c : Call × Option Nat} {payment : ChargeResult}
    (h : (sagasInFlight env T).Reach (Pool.Seen sagaCaller (InTime env b.id)) s)
    (hc : s.procs[i]? = some c) (ht : c.1.told = some (b, payment)) :
    b ∈ s.shared.shared.bookings.rows ∧ b.status = .CONFIRMED ∧
      ∀ u, b.Covers u → HasLeg s.shared.shared.bookings s.shared.shared.clock b.id u := by
  obtain ⟨place, id, hp⟩ := heard_reach h hc b payment ht
  have hcalls := seatCalls_of_sagas h
  have hp' := Pool.filled_of_some (F := unsent) hp
  obtain rfl := id_of_confirmed hcalls.reachable hp'
  obtain ⟨hfind, hs⟩ := confirmedAsTold_reach hcalls place b hp'
  have hb := Table.mem_of_find hfind
  have hapart := (seats_reach (hcalls.mono fun _ _ ho => ho.1)).1
  refine ⟨hb, hs, fun u hu => ⟨⟨b, hb, rfl, hu, isActive_of_confirmed hs⟩, fun d hd hdu hact => ?_⟩⟩
  rw [eq_of_covers hapart hd hb hact (isActive_of_confirmed hs) hdu hu]

end

/-- Two passengers for one leg, and places for three calls. -/
def annAndBobInFlight : InFlight :=
  ⟨⟨⟨Table.empty, Leases.empty, 0, [], []⟩, [none, none, none]⟩,
    [(.confirmBooking annsInput .start, none),
      (.confirmBooking { annsInput with userId := "bob" } .start, none)]⟩

/-- A step of the call in a place. -/
def serve (place : Nat) (rowId : String) : InFlightEvent := .env (.proc place (.inl ⟨rowId, false⟩))

/-- The first passenger holds, pays and is confirmed; the request of the second arrives
while the confirmation is under way, and is served to its end when it is told. -/
def annThenBobInFlight : List InFlightEvent :=
  [.proc 0 (.send 0), serve 0 "", serve 0 "", serve 0 "", serve 0 "", serve 0 "b1", serve 0 "",
    .proc 0 .receive,
    .proc 0 (.own (.charged (createdResult .SUCCEEDED annsPayment))), .proc 0 (.send 1), serve 1 "",
    .proc 1 (.send 2), serve 2 "", serve 1 "", serve 1 "", serve 2 "", .proc 0 .receive, serve 2 "",
    .env (.env 600000), serve 2 ""]

def inFlightAfter (es : List InFlightEvent) : InFlight :=
  (LTS.execAll (Pool.step ((Bookings.service defaultEnv unaryTokens).callers answer sagaCaller))
    annAndBobInFlight es).getD annAndBobInFlight

theorem annAndBobInFlight_init : Unsent annAndBobInFlight := by
  refine ⟨rfl, rfl, fun o ho => ?_, fun c hc => ?_⟩
  · simpa [annAndBobInFlight] using ho
  · simp only [annAndBobInFlight, List.mem_cons, List.not_mem_nil, or_false] at hc
    rcases hc with rfl | rfl <;> exact ⟨.inl ⟨_, rfl⟩, rfl⟩

theorem seat_of_told_annThenBob :
    HasLeg (inFlightAfter annThenBobInFlight).shared.shared.bookings
      (inFlightAfter annThenBobInFlight).shared.shared.clock "b1" ⟨"t1", "s1", 2⟩ := by
  have h : (sagasInFlight defaultEnv unaryTokens).Reach
      (Pool.Seen sagaCaller (InTime defaultEnv "b1")) (inFlightAfter annThenBobInFlight) :=
    LTS.reach_of_execAll annThenBobInFlight annAndBobInFlight_init (by decide +kernel)
      (LTS.execAll_getD (by decide +kernel))
  have hc : (inFlightAfter annThenBobInFlight).procs[0]? =
    some (.confirmBooking annsInput (.publishingConfirmed
      ⟨"b1", "t1", "s1", "ann", 1, 3, .PENDING, some 300000⟩
      annsBooking (createdResult .SUCCEEDED annsPayment)), none) := rfl
  exact (seat_of_told h hc rfl).2.2 _ (by decide)

end RouteGo.Orchestrator
