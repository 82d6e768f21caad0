import RouteGo.Orchestrator.Billing

/-!
# A retried booking

One user sends the same `confirmBooking` again and again, each call after the one
before has ended; the remote calls of any of them may fail or lose their reply. The
idempotency key is made of the id of the hold, which every call gets anew, so what
keeps a retry from charging again is the seat: as long as a booking that was charged
for still blocks the segment, the retry gets no hold (`charged_once_of_blocked`). A catch
block that releases a booking whose charge went through lets the retry charge again
(`exists_retry_charged_twice`), and so do stops that the columns cut to an empty segment
(`exists_retry_of_cut_stops`).
-/

namespace RouteGo.Orchestrator

open Js Bookings Payments

/-- The bookings of the calls. -/
def holds (s : Pool Shared Call) : List Booking := s.procs.filterMap Call.hold

/-- The payment was made by one of the calls. -/
def MadeByCalls (s : Pool Shared Call) (p : Payment) : Prop := ∃ b ∈ holds s, IsFor b.id p

instance (s : Pool Shared Call) (p : Payment) : Decidable (MadeByCalls s p) :=
  inferInstanceAs (Decidable (∃ b ∈ holds s, _))

/-- The calls have one `SUCCEEDED` payment at most. -/
def RetrySafe (s : Pool Shared Call) : Prop :=
  ∀ p ∈ s.shared.world.payments.rows, ∀ q ∈ s.shared.world.payments.rows, MadeByCalls s p →
    MadeByCalls s q → p.status = .SUCCEEDED → q.status = .SUCCEEDED → p = q

instance (s : Pool Shared Call) : Decidable (RetrySafe s) :=
  inferInstanceAs (Decidable (∀ p ∈ s.shared.world.payments.rows, _))

/-- Not begun, or ended. -/
def Call.Idle : Call → Prop
  | .confirmBooking _ .start | .confirmBooking _ (.done _ _) => True
  | .cancelBooking _ _ .start | .cancelBooking _ _ (.done _) => True
  | _ => False

instance : ∀ p : Call, Decidable p.Idle
  | .confirmBooking _ .start | .confirmBooking _ (.done _ _) => .isTrue trivial
  | .confirmBooking _ (.charging _) | .confirmBooking _ (.confirming _ _)
  | .confirmBooking _ (.publishingConfirmed _ _ _) | .confirmBooking _ (.releasing _ _)
  | .confirmBooking _ (.publishingFailed _ _) | .confirmBooking _ (.compensating _ _) => .isFalse id
  | .cancelBooking _ _ .start | .cancelBooking _ _ (.done _) => .isTrue trivial
  | .cancelBooking _ _ (.refunding _) | .cancelBooking _ _ .releasing
  | .cancelBooking _ _ .publishing => .isFalse id

/-- One call after the other; besides them, only time passes. -/
def InSequence (s : Pool Shared Call) : Pool.Event StepIn Op → Prop
  | .env (.wait _) => True
  | .env _ => False
  | .proc i _ => ∀ p ∈ s.procs.eraseIdx i, p.Idle

instance (s : Pool Shared Call) : ∀ ev, Decidable (InSequence s ev)
  | .env (.wait _) => .isTrue trivial
  | .env (.createHold _ _ _) | .env (.confirmBooking _) | .env (.releaseBooking _ _)
  | .env (.processCharge _ _ _ _ _) | .env (.processRefund _) => .isFalse id
  | .proc i _ => inferInstanceAs (Decidable (∀ p ∈ s.procs.eraseIdx i, p.Idle))

/-- The next step of the call is `createHold`. -/
def asksForHold : Option Call → Bool
  | some (.confirmBooking _ .start) => true
  | _ => false

/-- The row shares a leg with the segment the input asks for. -/
def Crosses (input : ConfirmBookingInput) (r : Booking) : Prop :=
  (Number.ofInt r.fromStopSeq).lt input.toStopSeq.viaJson.toSeq = true ∧
    input.fromStopSeq.viaJson.toSeq.lt (.ofInt r.toStopSeq) = true

instance (input : ConfirmBookingInput) (r : Booking) : Decidable (Crosses input r) :=
  inferInstanceAs (Decidable (_ ∧ _))

/-- A retry that asks for a hold finds its segment blocked by the booking that was charged for. -/
def StillBlocked (input : ConfirmBookingInput) (s : Pool Shared Call) : Pool.Event StepIn Op → Prop
  | .env _ => True
  | .proc i e => asksForHold s.procs[i]? = true → e.outcome ≠ .failed → ∀ b ∈ holds s,
      s.shared.world.Paid b.id → ∃ r ∈ s.shared.world.bookings.rows, r.id = b.id ∧
        isActive (s.shared.world.clock + e.delays.acquire + e.delays.query) r = true ∧
        Crosses input r

instance (input : ConfirmBookingInput) (s : Pool Shared Call) :
    ∀ ev, Decidable (StillBlocked input s ev)
  | .env _ => .isTrue trivial
  | .proc i e => inferInstanceAs (Decidable (asksForHold s.procs[i]? = true → e.outcome ≠ .failed →
      ∀ b ∈ holds s, _))

/-- The call is a `confirmBooking` of `input`, but for the currency. -/
def Retries (input : ConfirmBookingInput) (p : Call) : Prop :=
  ∃ currency pc, p = .confirmBooking { input with currency := currency } pc

structure RetryInv (C : IdColumn) (input : ConfirmBookingInput) (s : Pool Shared Call) : Prop where
  calls : ∀ (i : Nat) p, s.procs[i]? = some p → Retries input p
  rows : ∀ b ∈ holds s, NoSpace b.id ∧
    ∃ r ∈ s.shared.world.bookings.rows, r.id = b.id ∧ OfSeat C input r
  once : RetrySafe s
  unpaid : ∀ (i : Nat) input b, s.procs[i]? = some (.confirmBooking input (.charging b)) →
    ∀ c ∈ holds s, ¬ s.shared.world.Paid c.id

section
variable {env : Env} {w : World} {sh sh' : Shared} {i : Nat} {input : ConfirmBookingInput}
  {e : StepIn} {b : Booking} {s s' : Pool Shared Call} {C : IdColumn}

theorem mem_holds : b ∈ holds s ↔ ∃ (i : Nat) (p : Call), s.procs[i]? = some p ∧
    p.hold = some b := by
  rw [holds, List.mem_filterMap]
  constructor
  · rintro ⟨p, hp, hb⟩
    obtain ⟨i, hi⟩ := List.mem_iff_getElem?.mp hp
    exact ⟨i, p, hi, hb⟩
  · rintro ⟨i, p, hi, hb⟩
    exact ⟨p, List.mem_of_getElem? hi, hb⟩

theorem idle_of_inSequence (h : InSequence s (.proc i e)) {j : Nat} {q : Call} (hji : j ≠ i)
    (hq : s.procs[j]? = some q) : q.Idle :=
  h q (List.mem_eraseIdx_iff_getElem?.mpr ⟨j, hji, hq⟩)

/-- Nothing active on the seat of a granted row crosses the segment it was asked for. -/
theorem clear_of_createHold (h : (createHold env e (holdRequest input) w).1 = .ok b) :
    ∀ r ∈ w.bookings.rows, r.SameSeat b →
      isActive (w.clock + e.delays.acquire + e.delays.query) r = true → ¬ Crosses input r := by
  obtain ⟨a, hp, -, hg⟩ := createHold_granted h
  intro r hr hseat hact hc
  exact hg.clear r hr hseat hact ⟨_, _, hp.fromSeq, hp.toSeq, hc.1, hc.2⟩

theorem holds_set {p' : Call} {j : Nat} (h : b ∈ holds ⟨sh', s.procs.set j p'⟩) :
    p'.hold = some b ∨ b ∈ holds s := by
  obtain ⟨k, q, hq, hb⟩ := mem_holds.mp h
  rcases Pool.getElem?_set_cases hq with ⟨-, rfl⟩ | ⟨-, hq⟩
  · exact .inl hb
  · exact .inr (mem_holds.mpr ⟨k, q, hq, hb⟩)

theorem ConfirmMove.charging_once {pc' : ConfirmPc}
    (hm : ConfirmMove env sh i input e (.charging b) sh' pc') :
    pc'.hold = some b ∧ ∀ c, pc' ≠ .charging c := by
  cases hm with
  | chargeThrew _ _ | charged _ _ | declined _ _ => exact ⟨rfl, fun c hc => nomatch hc⟩

/-- The retry that is charging is the only call on its way. -/
theorem charging_of_set {p' : Call} {input' : ConfirmBookingInput} {j : Nat}
    (hseq : InSequence s (.proc i e))
    (hj : (s.procs.set i p')[j]? = some (.confirmBooking input' (.charging b))) :
    p' = .confirmBooking input' (.charging b) := by
  rcases Pool.getElem?_set_cases hj with ⟨-, rfl⟩ | ⟨hji, hj⟩
  · rfl
  · exact absurd (idle_of_inSequence hseq hji hj) id

/-- What a step of a call does to the rows of the holds. -/
theorem RetryInv.rows_step {p p' : Call} (hI : RetryInv env.ids input s) (hp : s.procs[i]? = some p)
    (ha : (orchestrator env).act s.shared i p e = some (sh', p')) :
    ∀ b ∈ holds ⟨sh', s.procs.set i p'⟩, NoSpace b.id ∧
      ∃ r ∈ sh'.world.bookings.rows, r.id = b.id ∧ OfSeat env.ids input r := by
  have hkept : ∀ b ∈ holds s, NoSpace b.id ∧
      ∃ r ∈ sh'.world.bookings.rows, r.id = b.id ∧ OfSeat env.ids input r := by
    intro b hb
    obtain ⟨hn, r, hr, hid, hfit⟩ := hI.rows b hb
    obtain ⟨r', hr', hk⟩ := (act_writes ha).rowsKept r hr
    refine ⟨hn, r', hr', ?_, hfit.kept hk⟩
    rw [hk.same]
    exact hid
  intro b hb
  rcases holds_set hb with hb | hb
  · obtain ⟨currency, pc, rfl⟩ := hI.calls i p hp
    obtain ⟨pc', rfl, hm⟩ := act_confirmBooking ha
    rcases hm.hold_cases with hold | ⟨c, hc, hf, hr, hw⟩
    · exact hkept b (mem_holds.mpr ⟨i, _, hp, hold.symm.trans hb⟩)
    · obtain rfl : c = b := Option.some.inj (hc.symm.trans hb)
      obtain ⟨a, -, -, hg⟩ := createHold_granted hr
      rw [hw]
      have hfit := ofSeat_createHold hr
      exact ⟨(createHold_fresh hf hr).1, c, (Table.mem_of_insert hg.insert).mpr (.inr rfl), rfl,
        hfit.tripId, hfit.seatId⟩
  · exact hkept b hb

/-- A retry gets no hold while a booking that was charged for blocks the seat. -/
theorem RetryInv.not_held {currency : Value} (hI : RetryInv env.ids input s)
    (hp : s.procs[i]? = some (.confirmBooking { input with currency := currency } .start))
    (hblk : StillBlocked input s (.proc i e)) (ho : e.outcome ≠ .failed) {c : Booking}
    (hc : c ∈ holds s) (hpaid : s.shared.world.Paid c.id) :
    (createHold env e (holdRequest input) s.shared.world).1 ≠ .ok b := by
  intro hb
  obtain ⟨r, hr, hid, hact, hcross⟩ := hblk (by rw [hp]; rfl) ho c hc hpaid
  obtain ⟨-, r', hr', hid', hfit⟩ := hI.rows c hc
  obtain rfl : r = r' := Table.eq_of_key_eq hr hr' (hid.trans hid'.symm)
  exact clear_of_createHold hb r hr (hfit.sameSeat (ofSeat_createHold hb)) hact hcross

/-- A step of a call that is about to charge. -/
theorem RetryInv.charge_step {currency : Value} {pc' : ConfirmPc} (hI : RetryInv env.ids input s)
    (hp : s.procs[i]? = some (.confirmBooking { input with currency := currency } (.charging b)))
    (hm : ConfirmMove env s.shared i { input with currency := currency } e (.charging b) sh' pc') :
    RetrySafe ⟨sh', s.procs.set i (.confirmBooking { input with currency := currency } pc')⟩ := by
  obtain ⟨hold, -⟩ := hm.charging_once
  have hb : b ∈ holds s := mem_holds.mpr ⟨i, _, hp, rfl⟩
  -- nobody was charged before, so the payment of this call is the only one
  have hnew : ∀ p ∈ s.shared.world.payments.rows, p.status = .SUCCEEDED →
      ¬ MadeByCalls ⟨sh', s.procs.set i (.confirmBooking { input with currency := currency } pc')⟩
        p := by
    rintro p hpm hs ⟨c, hc, hf⟩
    have hc' : c ∈ holds s := by
      rcases holds_set hc with hc | hc
      · obtain rfl : b = c := Option.some.inj (hold.symm.trans hc)
        exact hb
      · exact hc
    exact hI.unpaid i _ b hp c hc' ⟨p, hpm, hf, hs⟩
  intro p hpm q hqm hpmade hqmade hps hqs
  rcases (hm.adds (hI.rows b hb).1).payments with heq | ⟨p₀, heq, -⟩
  · have hpm' : p ∈ s.shared.world.payments.rows := heq ▸ hpm
    exact absurd hpmade (hnew p hpm' hps)
  · have honly : ∀ p ∈ sh'.world.payments.rows, p.status = .SUCCEEDED → MadeByCalls
        ⟨sh', s.procs.set i (.confirmBooking { input with currency := currency } pc')⟩ p →
          p = p₀ := by
      intro p hpm hps hmade
      rw [heq, List.mem_append, List.mem_singleton] at hpm
      rcases hpm with hpm | rfl
      · exact absurd hmade (hnew p hpm hps)
      · rfl
    rw [honly p hpm hps hpmade, honly q hqm hqs hqmade]

/-- Any other step. -/
theorem RetryInv.other_step {currency : Value} {pc pc' : ConfirmPc} (hI : RetryInv env.ids input s)
    (hp : s.procs[i]? = some (.confirmBooking { input with currency := currency } pc))
    (hm : ConfirmMove env s.shared i { input with currency := currency } e pc sh' pc')
    (hpc : ∀ b, pc ≠ .charging b) :
    RetrySafe ⟨sh', s.procs.set i (.confirmBooking { input with currency := currency } pc')⟩ := by
  have hpay := hm.payments hpc
  have hmade : ∀ p ∈ s.shared.world.payments.rows, MadeByCalls
      ⟨sh', s.procs.set i (.confirmBooking { input with currency := currency } pc')⟩ p →
      MadeByCalls s p := by
    rintro p hpm ⟨c, hc, hf⟩
    rcases holds_set hc with hc | hc
    · rcases hm.hold_cases with hold | ⟨c', hc', hfr, hr, hw⟩
      · exact ⟨c, mem_holds.mpr ⟨i, _, hp, hold.symm.trans hc⟩, hf⟩
      · obtain rfl : c' = c := Option.some.inj (hc'.symm.trans hc)
        have hno := (createHold_fresh hfr hr).2 p
        rw [← hw, hpay] at hno
        exact absurd hf (hno hpm)
    · exact ⟨c, hc, hf⟩
  intro p hpm q hqm hpmade hqmade hps hqs
  have hpm' : p ∈ s.shared.world.payments.rows := hpay ▸ hpm
  have hqm' : q ∈ s.shared.world.payments.rows := hpay ▸ hqm
  exact hI.once p hpm' q hqm' (hmade p hpm' hpmade) (hmade q hqm' hqmade) hps hqs

theorem RetryInv.step {ev : Pool.Event StepIn Op} (hI : RetryInv env.ids input s)
    (hseq : InSequence s ev)
    (hblk : StillBlocked input s ev) (hst : Pool.step (orchestrator env) s ev = some s') :
    RetryInv env.ids input s' := by
  cases ev with
  | env op =>
    obtain ⟨sh, he, rfl⟩ := Pool.step_env hst
    cases op with
    | wait d => cases he; exact ⟨hI.calls, hI.rows, hI.once, hI.unpaid⟩
    | _ => exact absurd hseq id
  | proc i e =>
    obtain ⟨p, sh', p', hp, ha, rfl⟩ := Pool.step_proc hst
    have hrows := hI.rows_step hp ha
    obtain ⟨currency, pc, rfl⟩ := hI.calls i p hp
    obtain ⟨pc', rfl, hs⟩ := act_confirmStep ha
    have hm := confirmStep_move hs
    refine ⟨fun j q hq => ?_, hrows, ?_, fun j input' b hj c hc hpaid => ?_⟩
    · rcases Pool.getElem?_set_cases hq with ⟨-, rfl⟩ | ⟨-, hq⟩
      · exact ⟨currency, pc', rfl⟩
      · exact hI.calls j q hq
    · rcases pc.charging_or with ⟨b, rfl⟩ | hpc
      · exact hI.charge_step hp hm
      · exact hI.other_step hp hm hpc
    · obtain ⟨-, rfl⟩ := Call.confirmBooking.inj (charging_of_set hseq hj)
      -- the call has just got its hold
      have hstart : pc = .start := by cases hm; rfl
      subst hstart
      rcases confirmStep_start hs with ⟨res, hres⟩ | ⟨b', hb'⟩
      · cases hres
      rcases hb'.reply with ⟨err, hres, -⟩ | ⟨hres, ho⟩
      · cases hres
      cases hres
      obtain ⟨p, hpm, hf, hps⟩ := hpaid
      rcases holds_set hc with hc | hc
      · cases hc
        have hno := (createHold_fresh hb'.fresh hb'.held).2 p
        rw [← hb'.world] at hno
        exact hno hpm hf
      · have hpay := hm.payments (by simp)
        have hpm' : p ∈ s.shared.world.payments.rows := hpay ▸ hpm
        refine hI.not_held hp hblk (by rw [ho]; decide) hc ⟨p, hpm', hf, hps⟩ hb'.held

end

/-! ## Runs -/

/-- Calls of one input, but for the currency, all yet to begin. -/
def BeforeRetry (input : ConfirmBookingInput) (s : Pool Shared Call) : Prop :=
  ∀ (i : Nat) p, s.procs[i]? = some p →
    ∃ currency, p = .confirmBooking { input with currency := currency } .start

def retryRuns (env : Env) (input : ConfirmBookingInput) :
    LTS (Pool Shared Call) (Pool.Event StepIn Op) :=
  Pool.system (orchestrator env) (BeforeRetry input)

theorem retryInv_init {C : IdColumn} {input : ConfirmBookingInput} {s : Pool Shared Call}
    (h : BeforeRetry input s) : RetryInv C input s := by
  have hnone : ∀ b, b ∉ holds s := by
    intro b hb
    obtain ⟨i, p, hp, hold⟩ := mem_holds.mp hb
    obtain ⟨currency, rfl⟩ := h i p hp
    cases hold
  refine ⟨fun i p hp => ?_, fun b hb => absurd hb (hnone b), ?_, fun i input b hp => ?_⟩
  · obtain ⟨currency, rfl⟩ := h i p hp
    exact ⟨currency, .start, rfl⟩
  · rintro p - q - ⟨b, hb, -⟩
    exact absurd hb (hnone b)
  · obtain ⟨currency, hs⟩ := h i _ hp
    cases hs

/-- **A retry charges nobody twice**, where it finds the seat blocked by a booking that
was charged for. -/
theorem charged_once_of_blocked {env : Env} {input : ConfirmBookingInput} {s : Pool Shared Call}
    (h : (retryRuns env input).Reach (fun s ev => InSequence s ev ∧ StillBlocked input s ev) s) :
    RetrySafe s := by
  have hI : RetryInv env.ids input s := h.invariant (fun _ hi => retryInv_init hi)
    fun _ _ _ _ hI ho hst => hI.step ho.1 ho.2 hst
  exact hI.once

/-- Two calls of one input. -/
def annTwice : Pool Shared Call :=
  ⟨⟨emptyWorld, []⟩, [.confirmBooking annsInput .start, .confirmBooking annsInput .start]⟩

theorem annTwice_init : BeforeRetry annsInput annTwice := by
  intro i p hp
  match i with
  | 0 => exact ⟨.undefined, (Option.some.inj hp).symm⟩
  | 1 => exact ⟨.undefined, (Option.some.inj hp).symm⟩
  | i + 2 => cases hp

def annTwiceAfter (es : List (Pool.Event StepIn Op)) : Pool Shared Call :=
  (LTS.execAll (Pool.step (orchestrator defaultEnv)) annTwice es).getD annTwice

/-- The reply of the confirmation is lost and the release fails; the retry is refused. -/
def confirmLost : List (Pool.Event StepIn Op) :=
  [.proc 0 { rowId := "b1" }, .proc 0 { rowId := "p1" }, .proc 0 { outcome := .lost },
    .proc 0 { outcome := .failed }, .env (.wait 600000), .proc 1 { rowId := "b2" }]

theorem charged_once_of_blocked_ann : RetrySafe (annTwiceAfter confirmLost) := by
  have h : (retryRuns defaultEnv annsInput).Reach (fun s ev => InSequence s ev ∧
    StillBlocked annsInput s ev)
      (annTwiceAfter confirmLost) := LTS.reach_of_execAll confirmLost annTwice_init (by decide) rfl
  exact charged_once_of_blocked h

/-- The reply of the charge is lost and the release arrives; the retry charges again. -/
def chargeLost : List (Pool.Event StepIn Op) :=
  [.proc 0 { rowId := "b1" }, .proc 0 { rowId := "p1", outcome := .lost }, .proc 0 {},
    .proc 1 { rowId := "b2" }, .proc 1 { rowId := "p2" }]

/-- **Charged twice** for one booking that was retried. -/
theorem exists_retry_charged_twice : ∃ s, (retryRuns defaultEnv annsInput).Reach InSequence s ∧
    ¬ RetrySafe s :=
  ⟨annTwiceAfter chargeLost, LTS.reach_of_execAll chargeLost annTwice_init (by decide)
    rfl, by decide⟩

/-- From stop 1.2 to stop 1.8. -/
def cutInput : ConfirmBookingInput :=
  { annsInput with fromStopSeq := .number (.fin (6 / 5)), toStopSeq := .number (.fin (9 / 5)) }

def cutTwice : Pool Shared Call :=
  ⟨⟨emptyWorld, []⟩, [.confirmBooking cutInput .start, .confirmBooking cutInput .start]⟩

/-- **Charged twice without a fault**: the columns cut the stops to `1 → 1`, and no
segment crosses that. -/
theorem exists_retry_of_cut_stops : ∃ s, (retryRuns defaultEnv cutInput).Reach InSequence s ∧
    ¬ RetrySafe s := by
  have hinit : BeforeRetry cutInput cutTwice := by
    intro i p hp
    match i with
    | 0 => exact ⟨.undefined, (Option.some.inj hp).symm⟩
    | 1 => exact ⟨.undefined, (Option.some.inj hp).symm⟩
    | i + 2 => cases hp
  refine ⟨_, LTS.reach_of_execAll [.proc 0 { rowId := "b1" }, .proc 0 { rowId := "p1" }, .proc 0 {},
    .proc 0 {}, .proc 1 { rowId := "b2" }, .proc 1 { rowId := "p2" }] hinit (by decide +kernel)
    (LTS.execAll_getD (by decide +kernel)), by decide +kernel⟩

end RouteGo.Orchestrator
