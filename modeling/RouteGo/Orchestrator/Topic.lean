import RouteGo.Orchestrator.Onward

/-!
# What the topic says

Any sagas and cancellations over the publisher, interleaved, beside clients that do
anything, with Kafka coming and going and copying what it was given. A call publishes once
at most, and only what it has learnt from the answers it got (`Call.Learnt`, `Recorded`).
So what a reader of the topic is told was so, at some moment before (`topic_sound`), and a
call that has returned to its caller has told the topic what it returns (`told_of_returned`).
-/

namespace RouteGo.Orchestrator

open Js Bookings Payments

/-! ## What an event tells -/

/-- What was so before the event was published; `past P` when some world before had `P`.
Of a cancellation this is said for the id of a booking, which is one segment of a path. -/
def Told (past : (World → Prop) → Prop) : Event → Prop
  | .BookingConfirmed bookingId _ _ _ _ _ paymentId =>
    past (·.PaidBy bookingId paymentId) ∧ past (·.status bookingId = some .CONFIRMED)
  | .BookingFailed bookingId _ _ => past (·.status bookingId = some .FAILED)
  | .BookingCancelled bookingId _ =>
    PathSegment bookingId → past (·.status bookingId = some .CANCELLED)

/-- What the answers have told a call. -/
def Call.Learnt (past : (World → Prop) → Prop) : Call → Prop
  | .confirmBooking _ pc => match pc with
    | .confirming b c => past (·.PaidBy b.id c.paymentId)
    | .publishingConfirmed b _ c =>
      past (·.PaidBy b.id c.paymentId) ∧ past (·.status b.id = some .CONFIRMED)
    | .publishingFailed b _ => past (·.status b.id = some .FAILED)
    | _ => True
  | .cancelBooking id _ pc => match pc with
    | .publishing => past (·.status id = some .CANCELLED)
    | _ => True

/-- The event is one of the call. -/
def Call.Tells : Call → Event → Prop
  | .confirmBooking input pc, ev =>
    ∃ b c, pc.hold = some b ∧ (ev = confirmedEvent input b.id c ∨ ev = failedEvent input b.id c)
  | .cancelBooking id paymentId _, ev => ev = .BookingCancelled id paymentId

/-- The call has nothing more to publish. -/
def Call.Over : Call → Prop
  | .confirmBooking _ (.compensating _ _) | .confirmBooking _ (.done _ _) => True
  | .cancelBooking _ _ (.done _) => True
  | _ => False

/-- The call has returned to its caller. -/
def Call.Succeeded : Call → Prop
  | .confirmBooking _ (.done _ (.ok _)) | .cancelBooking _ _ (.done (.ok _)) => True
  | _ => False

/-- The event says what the call has returned. -/
def Call.Says : Call → Event → Prop
  | .confirmBooking input (.done (some b) (.ok r)), ev => ∃ c, r.payment = some c ∧
      ev = if r.success then confirmedEvent input b.id c else failedEvent input b.id c
  | .cancelBooking id paymentId (.done (.ok _)), ev => ev = .BookingCancelled id paymentId
  | _, _ => False

/-- The record of an event. -/
def Carries (kenv : KafkaEnv) (m : Message) (ev : Event) : Prop :=
  ∃ now sent, m = toMessage kenv kenv.KAFKA_TOPIC_BOOKING_EVENTS ev.eventName (ev.payload now) sent

section
variable {env : Env} {kenv : KafkaEnv} {w w' : World} {sh sh' : Shared} {i : Nat} {e : StepIn}
  {p p' : Call} {ev : Event} {m : Message} {past past' : (World → Prop) → Prop}

theorem Told.later (h : Told past ev) (hk : ∀ P, past P → past' P) : Told past' ev := by
  cases ev with
  | BookingConfirmed _ _ _ _ _ _ _ => exact ⟨hk _ h.1, hk _ h.2⟩
  | BookingFailed _ _ _ => exact hk _ h
  | BookingCancelled _ _ => exact fun hid => hk _ (h hid)

theorem Call.Learnt.later (h : p.Learnt past) (hk : ∀ P, past P → past' P) : p.Learnt past' := by
  cases p with
  | confirmBooking input pc =>
    cases pc with
    | confirming b c | publishingFailed b c => exact hk _ h
    | publishingConfirmed b cb c => exact ⟨hk _ h.1, hk _ h.2⟩
    | _ => trivial
  | cancelBooking id paymentId pc =>
    cases pc with
    | publishing => exact hk _ h
    | _ => trivial

/-- A call publishes what it has learnt. -/
theorem Call.Learnt.told (h : p.Learnt past) (hev : p.publishing = some ev) : Told past ev := by
  cases p with
  | confirmBooking input pc =>
    cases pc with
    | publishingConfirmed b cb c => cases hev; exact h
    | publishingFailed b c => cases hev; exact h
    | _ => cases hev
  | cancelBooking id paymentId pc =>
    cases pc with
    | publishing => cases hev; exact fun _ => h
    | _ => cases hev

/-- A call learns from each of its steps what is so after it. -/
theorem Call.Learnt.step (h : p.Learnt past) (hk : p.Known sh.world)
    (hnow : ∀ P : World → Prop, P sh'.world → past P)
    (ha : (orchestrator env).act sh i p e = some (sh', p')) : p'.Learnt past := by
  cases p with
  | confirmBooking input pc =>
    obtain ⟨pc', rfl, hm⟩ := act_confirmBooking ha
    cases hm with
    | charged hc hs => exact hnow _ (paid_charge (hk.2 _ rfl).1 hc hs)
    | confirmed hc => exact ⟨h, hnow _ (status_of_confirmed hc)⟩
    | released hr => exact hnow _ (status_of_released rfl hr)
    | _ => trivial
  | cancelBooking id paymentId pc =>
    simp only [orchestrator, Option.map_eq_some_iff, Prod.mk.injEq] at ha
    obtain ⟨⟨sh₁, pc'⟩, hs, rfl, rfl⟩ := ha
    cases pc with
    | releasing =>
      rcases sh.remote_cases e.outcome (releaseBooking id "USER_CANCELLED") with
        ⟨err, sh₁, hr, -⟩ | ⟨r, hr, hc⟩ <;> simp only [cancelStep, hr] at hs <;> cases hs
      · trivial
      · exact hnow _ (status_of_released rfl hc)
    | start =>
      simp only [cancelStep] at hs
      split at hs
      · cases hs; trivial
      · split at hs
        · split at hs <;> cases hs <;> trivial
        · cases hs; trivial
    | refunding q => cases hs; trivial
    | publishing =>
      simp only [cancelStep] at hs
      split at hs <;> cases hs <;> trivial
    | done res => cases hs

/-- What a call publishes is an event of its own, of a booking with an id. -/
theorem Call.Known.tells (h : p.Known w) (hev : p.publishing = some ev) :
    p.Tells ev ∧ ev.bookingId ≠ "" := by
  cases p with
  | confirmBooking input pc =>
    cases pc with
    | publishingConfirmed b cb c => cases hev; exact ⟨⟨b, c, rfl, .inl rfl⟩, (h.2 b rfl).1.1⟩
    | publishingFailed b c => cases hev; exact ⟨⟨b, c, rfl, .inr rfl⟩, (h.2 b rfl).1.1⟩
    | _ => cases hev
  | cancelBooking id paymentId pc =>
    cases pc with
    | publishing => cases hev; exact ⟨rfl, h⟩
    | _ => cases hev

theorem ConfirmMove.hold_of_some {input : ConfirmBookingInput} {pc pc' : ConfirmPc} {b : Booking}
    (hm : ConfirmMove env sh i input e pc sh' pc') (hb : pc.hold = some b) : pc'.hold = some b := by
  cases hm with
  | holdThrew _ _ | hold _ _ | reject _ | holdFailed _ => cases hb
  | _ => exact hb

theorem Call.Tells.step (h : p.Tells ev) (ha : (orchestrator env).act sh i p e = some (sh', p')) :
    p'.Tells ev := by
  cases p with
  | confirmBooking input pc =>
    obtain ⟨b, c, hb, hev⟩ := h
    obtain ⟨pc', rfl, hm⟩ := act_confirmBooking ha
    exact ⟨b, c, hm.hold_of_some hb, hev⟩
  | cancelBooking id paymentId pc =>
    obtain ⟨pc', rfl, -⟩ := act_cancelBooking ha
    exact h

theorem Call.Over.step (h : p.Over) (ha : (orchestrator env).act sh i p e = some (sh', p')) :
    p'.Over := by
  cases p with
  | confirmBooking input pc =>
    obtain ⟨pc', rfl, hm⟩ := act_confirmBooking ha
    cases hm with
    | compensate => trivial
    | _ => exact h.elim
  | cancelBooking id paymentId pc =>
    obtain ⟨pc', rfl, hm⟩ := act_cancelBooking ha
    cases hm with
    | _ => exact h.elim

/-- A call that returns to its caller has published what it returns, and nothing went wrong. -/
theorem succeeded_of_act (ha : (orchestrator env).act sh i p e = some (sh', p'))
    (h : p'.Succeeded) : ∃ ev, p.publishing = some ev ∧ e.outcome = .replied ∧ p'.Says ev := by
  cases p with
  | confirmBooking input pc =>
    obtain ⟨pc', rfl, hs⟩ := act_confirmStep ha
    have hm := confirmStep_move hs
    cases hm with
    | @publishConfirmed b cb c res hres =>
      by_cases ho : e.outcome = .replied
      · simp only [confirmStep, publish, if_pos ho, Option.some.injEq, Prod.mk.injEq,
          ConfirmPc.done.injEq, true_and] at hs
        obtain rfl := hs
        exact ⟨_, rfl, ho, c, rfl, rfl⟩
      · simp only [confirmStep, publish, if_neg ho] at hs
        cases hs
        exact h.elim
    | @publishFailed b c r hr =>
      by_cases ho : e.outcome = .replied
      · simp only [confirmStep, publish, if_pos ho, Option.some.injEq, Prod.mk.injEq,
          ConfirmPc.done.injEq, true_and, Except.ok.injEq] at hs
        obtain rfl := hs
        exact ⟨_, rfl, ho, c, rfl, rfl⟩
      · simp only [confirmStep, publish, if_neg ho] at hs
        cases hs
    | _ => exact h.elim
  | cancelBooking id paymentId pc =>
    simp only [orchestrator, Option.map_eq_some_iff, Prod.mk.injEq] at ha
    obtain ⟨⟨sh₁, pc'⟩, hs, rfl, rfl⟩ := ha
    cases pc with
    | start =>
      simp only [cancelStep] at hs
      split at hs
      · cases hs; exact h.elim
      · split at hs
        · split at hs <;> cases hs <;> exact h.elim
        · cases hs; exact h.elim
    | refunding q =>
      simp only [cancelStep, Option.some.injEq, Prod.mk.injEq] at hs
      obtain ⟨rfl, rfl⟩ := hs
      exact h.elim
    | releasing =>
      simp only [cancelStep] at hs
      split at hs <;> cases hs <;> exact h.elim
    | publishing =>
      by_cases ho : e.outcome = .replied
      · simp only [cancelStep, publish, if_pos ho] at hs
        cases hs
        exact ⟨_, rfl, ho, rfl⟩
      · simp only [cancelStep, publish, if_neg ho] at hs
        cases hs
        exact h.elim
    | done res => cases hs

theorem not_succeeded_of_publishing (hev : p.publishing = some ev) : ¬ p.Succeeded := by
  cases p with
  | confirmBooking input pc =>
    cases pc with
    | publishingConfirmed b cb c | publishingFailed b c => exact fun h => h
    | _ => cases hev
  | cancelBooking id paymentId pc =>
    cases pc with
    | publishing => exact fun h => h
    | _ => cases hev

/-- The step that publishes is the last but one at most. -/
theorem over_of_publishing (hev : p.publishing = some ev)
    (ha : (orchestrator env).act sh i p e = some (sh', p')) : p'.Over := by
  cases p with
  | confirmBooking input pc =>
    obtain ⟨pc', rfl, hm⟩ := act_confirmBooking ha
    cases hm with
    | publishConfirmed _ _ | publishFailedThrew _ | publishFailed _ => trivial
    | _ => cases hev
  | cancelBooking id paymentId pc =>
    simp only [orchestrator, Option.map_eq_some_iff, Prod.mk.injEq] at ha
    obtain ⟨⟨sh₁, pc'⟩, hs, rfl, rfl⟩ := ha
    cases pc with
    | publishing =>
      simp only [cancelStep] at hs
      split at hs <;> cases hs <;> trivial
    | _ => cases hev

end

/-! ## Records and their calls -/

def Hub.outbox (x : Hub) : List Sent := x.kafka.broker.outbox

def Hub.log (x : Hub) : List Sent := x.kafka.broker.log

/-- Call `i` has sent nothing. -/
def Silent (x : Hub) (i : Nat) : Prop := ∀ m ∈ x.outbox, m.call ≠ i

/-- What is known where the `publish` of a call stands. -/
def PublishAssertion (kenv : KafkaEnv) (x : Hub) (i : Nat) (r : Running) : Prop :=
  match r.publish with
  | .start => Silent x i
  | .connecting payload | .connected payload =>
    Silent x i ∧ ∃ ev now, r.call.publishing = some ev ∧ payload = ev.payload now
  | .sending m => (∃ ev, r.call.publishing = some ev ∧ Carries kenv m ev) ∧
      ∀ m' ∈ x.outbox, m'.call = i → m' = ⟨i, m⟩
  | .done _ => r.call.Over ∧ ∀ m ∈ x.outbox, ∀ m' ∈ x.outbox, m.call = i → m'.call = i → m = m'

/-- What is known of a call and of its records. -/
structure Recorded (kenv : KafkaEnv) (past : (World → Prop) → Prop) (x : Hub) (i : Nat)
    (r : Running) : Prop where
  learnt : r.call.Learnt past
  sent : ∀ m ∈ x.outbox, m.call = i → ∃ ev, Carries kenv m.message ev ∧ r.call.Tells ev ∧
    Told past ev ∧ ev.bookingId ≠ ""
  pc : PublishAssertion kenv x i r
  returned : r.call.Succeeded → ∃ m ∈ x.log, m.call = i ∧
    ∃ ev, Carries kenv m.message ev ∧ r.call.Says ev

section
variable {env : Env} {kenv : KafkaEnv} {x x' : Hub} {i j : Nat} {r r' : Running} {e : HubIn}
  {past past' : (World → Prop) → Prop}

theorem Recorded.later (h : Recorded kenv past x i r) (hk : ∀ P, past P → past' P) :
    Recorded kenv past' x i r := by
  refine ⟨h.learnt.later hk, fun m hm hi => ?_, h.pc, h.returned⟩
  obtain ⟨ev, hc, ht, htold, hne⟩ := h.sent m hm hi
  exact ⟨ev, hc, ht, htold.later hk, hne⟩

/-- A call sends one record at most. -/
theorem copies_of_recorded (h : Recorded kenv past x i r) {m m' : Sent}
    (hm : m ∈ x.outbox) (hm' : m' ∈ x.outbox) (hi : m.call = i) (hi' : m'.call = i) : m = m' := by
  have hpc := h.pc
  unfold PublishAssertion at hpc
  cases hp : r.publish with
  | start => rw [hp] at hpc; exact absurd hi (hpc m hm)
  | connecting payload | connected payload => rw [hp] at hpc; exact absurd hi (hpc.1 m hm)
  | sending m₀ => rw [hp] at hpc; rw [hpc.2 m hm hi, hpc.2 m' hm' hi']
  | done res => rw [hp] at hpc; exact hpc.2 m hm m' hm' hi hi'

/-- Another call sends, or Kafka appends. -/
structure Elsewhere (x x' : Hub) (i : Nat) : Prop where
  broker : Broker.Later x.kafka.broker x'.kafka.broker
  mine : ∀ m ∈ x'.outbox, m.call = i → m ∈ x.outbox

theorem Recorded.elsewhere (h : Recorded kenv past x i r) (hx : Elsewhere x x' i) :
    Recorded kenv past x' i r := by
  have hsilent : Silent x i → Silent x' i := fun hs m hm hi => hs m (hx.mine m hm hi) hi
  refine ⟨h.learnt, fun m hm hi => h.sent m (hx.mine m hm hi) hi, ?_, fun hs => ?_⟩
  · have hpc := h.pc
    unfold PublishAssertion at hpc ⊢
    cases hp : r.publish with
    | start => rw [hp] at hpc; exact hsilent hpc
    | connecting payload | connected payload => rw [hp] at hpc; exact ⟨hsilent hpc.1, hpc.2⟩
    | sending m =>
      rw [hp] at hpc
      exact ⟨hpc.1, fun m' hm' hi => hpc.2 m' (hx.mine m' hm' hi) hi⟩
    | done res =>
      rw [hp] at hpc
      exact ⟨hpc.1, fun m hm m' hm' hi hi' =>
        hpc.2 m (hx.mine m hm hi) m' (hx.mine m' hm' hi') hi hi'⟩
  · obtain ⟨m, hm, hsays⟩ := h.returned hs
    exact ⟨m, hx.broker hm, hsays⟩

/-- What `publish` does to Kafka. -/
theorem publishes_kafka {k k' : Kafka} {ev : Event} {y : PublishIn} {pc pc' : PublishPc}
    (hm : Publishes kenv k i ev y pc k' pc') :
    (k'.broker = k.broker ∧ ∀ m, pc' ≠ .sending m) ∨
    ∃ p now, (pc = .start ∧ p = ev.payload y.now ∨ pc = .connected p) ∧
      pc' = .sending (toMessage kenv kenv.KAFKA_TOPIC_BOOKING_EVENTS ev.eventName p now) ∧
      k'.broker = k.broker.give
        ⟨i, toMessage kenv kenv.KAFKA_TOPIC_BOOKING_EVENTS ev.eventName p now⟩ := by
  cases hm with
  | connect _ | connected _ | notConnected _ | sent _ | notSent _ =>
    exact .inl ⟨rfl, fun m hm => by cases hm⟩
  | sendNow _ => exact .inr ⟨_, y.now, .inl ⟨rfl, rfl⟩, rfl, rfl⟩
  | @send p => exact .inr ⟨p, y.now, .inr rfl, rfl, rfl⟩

theorem act_elsewhere (h : r.step env kenv x i e = some (x', r')) (hij : j ≠ i) :
    Elsewhere x x' j := by
  rcases Running.step_cases h with ⟨sh, p', -, -, rfl, -⟩ | ⟨ev, k', pc', -, hm, -, rfl, -⟩ |
    ⟨ev, k', res, sh, p', -, hm, -, rfl, -⟩
  · exact ⟨.refl _, fun m hm _ => hm⟩
  · rcases publishes_kafka hm with ⟨hb, -⟩ | ⟨p, now, -, -, hb⟩
    · refine ⟨by rw [hb]; exact .refl _, fun m hm' _ => ?_⟩
      rwa [Hub.outbox, hb] at hm'
    · refine ⟨by rw [hb]; exact .refl _, fun m hm' hj => ?_⟩
      rw [Hub.outbox, hb] at hm'
      rcases Broker.mem_outbox_give.mp hm' with hm' | rfl
      · exact hm'
      · exact absurd hj.symm hij
  · rcases publishes_kafka hm with ⟨hb, -⟩ | ⟨p, now, -, hpc, -⟩
    · refine ⟨by rw [hb]; exact .refl _, fun m hm' _ => ?_⟩
      rwa [Hub.outbox, hb] at hm'
    · cases hpc

theorem env_elsewhere {op : HubOp} (h : (overKafka env kenv).env x op = some x') :
    Elsewhere x x' i := by
  cases op with
  | client op => cases h; exact ⟨.refl _, fun m hm _ => hm⟩
  | kafka op =>
    simp only [overKafka, Option.map_eq_some_iff] at h
    obtain ⟨k', hk, rfl⟩ := h
    rcases broker_exec hk with hb | ⟨n, hb⟩
    · refine ⟨by rw [hb]; exact .refl _, fun m hm _ => ?_⟩
      rwa [Hub.outbox, hb] at hm
    · refine ⟨.append hb, fun m hm _ => ?_⟩
      obtain ⟨y, -, hy⟩ := Broker.append_eq_some hb
      rwa [Hub.outbox, hy] at hm

/-- The records of a call that takes a step of its own. -/
theorem Recorded.sent_step {sh : Shared} {p' : Call} {e : StepIn} (h : Recorded kenv past x i r)
    (ha : (orchestrator env).act x.shared i r.call e = some (sh, p')) :
    ∀ m ∈ x.outbox, m.call = i → ∃ ev, Carries kenv m.message ev ∧ p'.Tells ev ∧ Told past ev ∧
      ev.bookingId ≠ "" := by
  intro m hm hi
  obtain ⟨ev, hc, ht, htold, hne⟩ := h.sent m hm hi
  exact ⟨ev, hc, ht.step ha, htold, hne⟩

/-- A step of the call itself, which publishes nothing. -/
theorem Recorded.act {sh : Shared} {p' : Call} (h : Recorded kenv past x i r)
    (hk : r.call.Known x.shared.world) (hnow : ∀ P : World → Prop, P sh.world → past P)
    (hn : r.call.publishing = none)
    (ha : (orchestrator env).act x.shared i r.call e.call = some (sh, p')) :
    Recorded kenv past { x with shared := sh } i ⟨p', r.publish⟩ := by
  refine ⟨h.learnt.step hk hnow ha, h.sent_step ha, ?_, fun hs => ?_⟩
  · have hpc := h.pc
    unfold PublishAssertion at hpc ⊢
    cases hp : r.publish with
    | start => rw [hp] at hpc; exact hpc
    | connecting payload | connected payload =>
      rw [hp] at hpc
      obtain ⟨-, ev, now, hev, -⟩ := hpc
      rw [hn] at hev
      cases hev
    | sending m =>
      rw [hp] at hpc
      obtain ⟨⟨ev, hev, -⟩, -⟩ := hpc
      rw [hn] at hev
      cases hev
    | done res =>
      rw [hp] at hpc
      exact ⟨hpc.1.step ha, hpc.2⟩
  · obtain ⟨ev, hev, -⟩ := succeeded_of_act ha hs
    rw [hn] at hev
    cases hev

/-- A call sends what it has learnt. -/
theorem Recorded.send {ev : Event} {now sent : String} (h : Recorded kenv past x i r)
    (hsilent : Silent x i) (hk : r.call.Known x.shared.world) (hev : r.call.publishing = some ev) :
    let y := x.kafka.send kenv i kenv.KAFKA_TOPIC_BOOKING_EVENTS ev.eventName (ev.payload now) sent
    Recorded kenv past { x with kafka := y.1 } i ⟨r.call, y.2⟩ := by
  intro y
  obtain ⟨htells, hne⟩ := hk.tells hev
  have hmine : ∀ m ∈ ({ x with kafka := y.1 } : Hub).outbox, m.call = i →
      m = ⟨i, toMessage kenv kenv.KAFKA_TOPIC_BOOKING_EVENTS ev.eventName
        (ev.payload now) sent⟩ := by
    intro m hm hi
    rcases Broker.mem_outbox_give.mp hm with hm | hm
    · exact absurd hi (hsilent m hm)
    · exact hm
  refine ⟨h.learnt, fun m hm hi => ?_, ⟨⟨ev, hev, now, sent, rfl⟩, hmine⟩,
    fun hs => absurd hs (not_succeeded_of_publishing hev)⟩
  rw [hmine m hm hi]
  exact ⟨ev, ⟨now, sent, rfl⟩, htells, h.learnt.told hev, hne⟩

/-- A step of `publish` that leaves the call waiting. -/
theorem Recorded.wait {k' : Kafka} {pc' : PublishPc} {ev : Event} (h : Recorded kenv past x i r)
    (hk : r.call.Known x.shared.world) (hev : r.call.publishing = some ev)
    (hm : Publishes kenv x.kafka i ev e.publish r.publish k' pc') (hd : ∀ res, pc' ≠ .done res) :
    Recorded kenv past { x with kafka := k' } i ⟨r.call, pc'⟩ := by
  have hns : ¬ r.call.Succeeded := not_succeeded_of_publishing hev
  have hpc := h.pc
  unfold PublishAssertion at hpc
  cases hp : r.publish with
  | start =>
    rw [hp] at hm hpc
    cases hm with
    | connect _ => exact ⟨h.learnt, h.sent, ⟨hpc, ev, _, hev, rfl⟩, fun hs => absurd hs hns⟩
    | sendNow _ => exact h.send hpc hk hev
  | connecting payload =>
    rw [hp] at hm hpc
    cases hm with
    | connected _ => exact ⟨h.learnt, h.sent, hpc, fun hs => absurd hs hns⟩
    | notConnected _ => exact absurd rfl (hd _)
  | connected payload =>
    rw [hp] at hm hpc
    obtain ⟨hsilent, ev', now, hev', rfl⟩ := hpc
    obtain rfl : ev' = ev := Option.some.inj (hev'.symm.trans hev)
    cases hm with
    | send => exact h.send hsilent hk hev
  | sending m =>
    rw [hp] at hm
    cases hm <;> exact absurd rfl (hd _)
  | done res => rw [hp] at hm; cases hm

/-- A step in which `publish` returns or throws to the call. -/
theorem Recorded.publish_returned {k' : Kafka} {res : Result Unit} {ev : Event} {sh : Shared}
    {p' : Call} (h : Recorded kenv past x i r) (hk : r.call.Known x.shared.world)
    (hnow : ∀ P : World → Prop, P sh.world → past P) (hev : r.call.publishing = some ev)
    (hm : Publishes kenv x.kafka i ev e.publish r.publish k' (.done res))
    (ha : (orchestrator env).act x.shared i r.call (e.call.withPublished res) = some (sh, p'))
    (hack : ∀ m, r.publish = .sending m → e.publish.resolved = true → ⟨i, m⟩ ∈ x.log) :
    Recorded kenv past ⟨sh, k'⟩ i ⟨p', .done res⟩ := by
  have hb : k'.broker = x.kafka.broker := by
    rcases publishes_kafka hm with ⟨hb, -⟩ | ⟨p, now, -, hpc, -⟩
    · exact hb
    · cases hpc
  have hout : (⟨sh, k'⟩ : Hub).outbox = x.outbox := congrArg Broker.outbox hb
  have hlog : (⟨sh, k'⟩ : Hub).log = x.log := congrArg Broker.log hb
  refine ⟨h.learnt.step hk hnow ha, by rw [hout]; exact h.sent_step ha,
    ⟨over_of_publishing hev ha, ?_⟩, fun hs => ?_⟩
  · rw [hout]
    exact fun m hmem m' hmem' hi hi' => copies_of_recorded h hmem hmem' hi hi'
  · obtain ⟨ev', hev', ho, hsays⟩ := succeeded_of_act ha hs
    obtain rfl : ev' = ev := Option.some.inj (hev'.symm.trans hev)
    cases res with
    | error err => cases ho
    | ok _ =>
      have hpc := h.pc
      unfold PublishAssertion at hpc
      cases hp : r.publish with
      | sending m =>
        rw [hp] at hm hpc
        obtain ⟨⟨ev₁, hev₁, hc⟩, -⟩ := hpc
        obtain rfl : ev₁ = ev' := Option.some.inj (hev₁.symm.trans hev')
        cases hm with
        | sent hr => exact ⟨⟨i, m⟩, by rw [hlog]; exact hack m hp hr, rfl, ev₁, hc, hsays⟩
      | start | connecting _ | connected _ | done _ => rw [hp] at hm; cases hm

theorem Recorded.step (h : Recorded kenv past x i r) (hk : r.call.Known x.shared.world)
    (hnow : ∀ P : World → Prop, P x'.shared.world → past P)
    (hack : ∀ m, r.publish = .sending m → e.publish.resolved = true → ⟨i, m⟩ ∈ x.log)
    (hs : r.step env kenv x i e = some (x', r')) : Recorded kenv past x' i r' := by
  rcases Running.step_cases hs with ⟨sh, p', hn, ha, rfl, rfl⟩ |
    ⟨ev, k', pc', hev, hm, hd, rfl, rfl⟩ | ⟨ev, k', res, sh, p', hev, hm, ha, rfl, rfl⟩
  · exact h.act hk hnow hn ha
  · exact h.wait hk hev hm hd
  · exact h.publish_returned hk hnow hev hm ha hack

end

/-! ## Runs -/

/-- Some world on the way to `s` had `P`. -/
def Was (env : Env) (kenv : KafkaEnv) (s : Pool Hub Running) (P : World → Prop) : Prop :=
  (kafkaRuns env kenv).Was Acked (fun t => P t.shared.shared.world) s

/-- The records come from calls, and what the calls know of them. -/
structure HubSound (env : Env) (kenv : KafkaEnv) (s : Pool Hub Running) : Prop where
  sound : s.shared.kafka.broker.Sound
  callers : ∀ m ∈ s.shared.outbox, m.call < s.procs.length
  calls : ∀ (i : Nat) r, s.procs[i]? = some r → Recorded kenv (Was env kenv s) s.shared i r

/-- No other client is kept from anything. -/
abbrev anyClient : Op → Prop := fun _ => True

theorem clients_any (s : Pool Hub Running) (ev : HubEvent) : Clients anyClient s ev :=
  fun _ _ => trivial

theorem calls_reach {env : Env} {kenv : KafkaEnv} {ok : Pool Hub Running → HubEvent → Prop}
    {s : Pool Hub Running} (h : (kafkaRuns env kenv).Reach ok s) :
    (callRuns env).Reach (ClientsOf anyClient) (calls s) :=
  (callRuns_of_kafkaRuns (h.mono fun s ev _ => clients_any s ev) (.refl s)).1

theorem sound_act {env : Env} {kenv : KafkaEnv} {x x' : Hub} {i : Nat} {r r' : Running} {e : HubIn}
    (h : r.step env kenv x i e = some (x', r')) (hx : x.kafka.broker.Sound) :
    x'.kafka.broker.Sound := by
  rcases Running.step_cases h with ⟨sh, p', -, -, rfl, -⟩ | ⟨ev, k', pc', -, hm, -, rfl, -⟩ |
    ⟨ev, k', res, sh, p', -, hm, -, rfl, -⟩
  · exact hx
  all_goals
    show k'.broker.Sound
    rcases publishes_kafka hm with ⟨hb, -⟩ | ⟨p, now, -, -, hb⟩ <;> rw [hb]
    · exact hx
    · exact hx.give _

theorem sound_env {env : Env} {kenv : KafkaEnv} {x x' : Hub} {op : HubOp}
    (h : (overKafka env kenv).env x op = some x') (hx : x.kafka.broker.Sound) :
    x'.kafka.broker.Sound := by
  cases op with
  | client op => cases h; exact hx
  | kafka op =>
    simp only [overKafka, Option.map_eq_some_iff] at h
    obtain ⟨k', hk, rfl⟩ := h
    show k'.broker.Sound
    rcases broker_exec hk with hb | ⟨n, hb⟩
    · rw [hb]; exact hx
    · exact hx.append hb

theorem hubSound_init {env : Env} {kenv : KafkaEnv} {s : Pool Hub Running} (h : BeforeKafka s) :
    HubSound env kenv s := by
  have hnone : s.shared.outbox = [] := by rw [Hub.outbox, h.kafka]; rfl
  have hempty : ∀ m, m ∉ s.shared.outbox := fun m hm => by
    rw [hnone] at hm
    cases hm
  refine ⟨by rw [h.kafka]; exact .empty, fun m hm => absurd hm (hempty m), fun i r hr => ?_⟩
  obtain ⟨hstart, hcall⟩ := h.calls r (List.mem_of_getElem? hr)
  refine ⟨?_, fun m hm => absurd hm (hempty m), ?_, fun hs => ?_⟩
  · rcases hcall with ⟨input, hc⟩ | ⟨id, paymentId, hc⟩ <;> rw [hc] <;> trivial
  · rw [PublishAssertion, hstart]
    exact fun m hm => absurd hm (hempty m)
  · rcases hcall with ⟨input, hc⟩ | ⟨id, paymentId, hc⟩ <;> rw [hc] at hs <;> exact hs.elim

theorem known_of_reach {env : Env} {kenv : KafkaEnv} {ok : Pool Hub Running → HubEvent → Prop}
    {s : Pool Hub Running} (h : (kafkaRuns env kenv).Reach ok s) {i : Nat} {r : Running}
    (hr : s.procs[i]? = some r) : r.call.Known s.shared.shared.world := by
  have hc : (calls s).procs[i]? = some r.call := by
    rw [calls, Pool.map_getElem?, hr, Option.map_some]
  exact known_reach (calls_reach h) hc

theorem HubSound.step {env : Env} {kenv : KafkaEnv} {s s' : Pool Hub Running} {ev : HubEvent}
    (h : HubSound env kenv s) (hs : (kafkaRuns env kenv).Reach Acked s) (ho : Acked s ev)
    (hst : Pool.step (overKafka env kenv) s ev = some s') : HubSound env kenv s' := by
  have hs' : (kafkaRuns env kenv).Reach Acked s' := hs.snoc ho hst
  have hkeep : ∀ P, Was env kenv s P → Was env kenv s' P := fun P hP => hP.snoc ho hst
  have hnow : ∀ P : World → Prop, P s'.shared.shared.world → Was env kenv s' P :=
    fun P hP => LTS.Was.of_now hs' (show P s'.shared.shared.world from hP)
  cases ev with
  | env op =>
    obtain ⟨x', he, rfl⟩ := Pool.step_env hst
    exact ⟨sound_env he h.sound,
      fun m hm => h.callers m ((env_elsewhere (i := m.call) he).mine m hm rfl),
      fun i r hr => ((h.calls i r hr).later hkeep).elsewhere (env_elsewhere he)⟩
  | proc i e =>
    obtain ⟨r, x', r', hr, ha, rfl⟩ := Pool.step_proc hst
    refine ⟨sound_act ha h.sound, fun m hm => ?_, fun j q hq => ?_⟩
    · rw [List.length_set]
      by_cases hmi : m.call = i
      · rw [hmi]
        exact (List.getElem?_eq_some_iff.mp hr).1
      · exact h.callers m ((act_elsewhere ha hmi).mine m hm rfl)
    · rcases Pool.getElem?_set_cases hq with ⟨rfl, rfl⟩ | ⟨hji, hq⟩
      · exact ((h.calls j r hr).later hkeep).step (known_of_reach hs hr) hnow
          (fun m hm hres => ho r hr m (by rw [hm]; rfl) hres) ha
      · exact ((h.calls j q hq).later hkeep).elsewhere (act_elsewhere ha hji)

theorem hubSound_reach {env : Env} {kenv : KafkaEnv} {s : Pool Hub Running}
    (h : (kafkaRuns env kenv).Reach Acked s) : HubSound env kenv s :=
  h.invariant (fun _ hi => hubSound_init hi) fun _ _ _ hr hI ho hst => hI.step hr ho hst

/-! ## Readers of the topic -/

section
variable {env : Env} {kenv : KafkaEnv} {s : Pool Hub Running} {m m' : Message} {ev ev' : Event}
  {p q : Call}

theorem messageKey_payload (now : String) (hne : ev.bookingId ≠ "") :
    messageKey ev.eventName (ev.payload now) = .string ev.bookingId := by
  have hget : (ev.payload now).get "bookingId" = .string ev.bookingId := by cases ev <;> rfl
  rw [messageKey, hget, if_pos (by simpa [Value.truthy] using hne)]

theorem Carries.key (h : Carries kenv m ev) (hne : ev.bookingId ≠ "") :
    m.key = .string ev.bookingId := by
  obtain ⟨now, sent, rfl⟩ := h
  exact messageKey_payload now hne

theorem Carries.event (h : Carries kenv m ev) : m.event = ev.eventName := by
  obtain ⟨now, sent, rfl⟩ := h
  rfl

/-- The saga that says so has the booking. -/
theorem Call.Tells.hold (h : p.Tells ev) (hc : ev.eventName ≠ "BookingCancelled") :
    ∃ b, p.hold = some b ∧ b.id = ev.bookingId := by
  cases p with
  | confirmBooking input pc =>
    obtain ⟨b, c, hb, rfl | rfl⟩ := h <;> exact ⟨b, hb, rfl⟩
  | cancelBooking id paymentId pc =>
    obtain rfl := h
    exact absurd rfl hc

/-- **At least once.** A call that has returned to its caller has its record in the topic,
and the record says what it returned, though Kafka fails, comes back and repeats itself. -/
theorem told_of_returned (h : (kafkaRuns env kenv).Reach Acked s) {i : Nat} {r : Running}
    (hr : s.procs[i]? = some r) (hs : r.call.Succeeded) : ∃ m ∈ s.shared.log, m.call = i ∧
      ∃ ev, Carries kenv m.message ev ∧ r.call.Says ev :=
  ((hubSound_reach h).calls i r hr).returned hs

end

/-! ### Ann confirms a booking, and cancels it -/

def topicEnv : KafkaEnv := ⟨"booking-orchestrator", "booking-events"⟩

def annsCalls : Pool Hub Running :=
  ⟨⟨⟨emptyWorld, []⟩, ⟨false, 0, 0, .empty⟩⟩,
    [⟨.confirmBooking annsInput .start, .start⟩, ⟨.cancelBooking "b1" (some "p1") .start, .start⟩]⟩

/-- Kafka is connected by the publish, and keeps two copies of its record. -/
def confirmEvents : List HubEvent :=
  [.proc 0 { call := { rowId := "b1" } }, .proc 0 { call := { rowId := "p1" } }, .proc 0 {},
    .proc 0 {}, .proc 0 {}, .proc 0 {}, .env (.kafka (.append 0)),
    .env (.kafka (.append 0)), .proc 0 {}]

def cancelEvents : List HubEvent :=
  [.proc 1 {}, .proc 1 {}, .proc 1 {}, .proc 1 {}, .env (.kafka (.append 1)), .proc 1 {}]

def hubAfter (s : Pool Hub Running) (es : List HubEvent) : Pool Hub Running :=
  (LTS.execAll (Pool.step (overKafka defaultEnv topicEnv)) s es).getD s

theorem hubAfter_run {ok : Pool Hub Running → HubEvent → Prop} {s : Pool Hub Running}
    {es : List HubEvent} (hok : LTS.AllOk (Pool.step (overKafka defaultEnv topicEnv)) ok s es)
    (h : (LTS.execAll (Pool.step (overKafka defaultEnv topicEnv)) s es).isSome = true) :
    (kafkaRuns defaultEnv topicEnv).Run ok s (hubAfter s es) := by
  obtain ⟨t, ht⟩ := Option.isSome_iff_exists.mp h
  rw [hubAfter, ht]
  exact LTS.run_of_execAll hok ht

theorem annsCalls_before : BeforeKafka annsCalls := by
  refine ⟨rfl, fun r hr => ?_⟩
  simp only [annsCalls, List.mem_cons, List.not_mem_nil, or_false] at hr
  rcases hr with rfl | rfl
  · exact ⟨rfl, .inl ⟨_, rfl⟩⟩
  · exact ⟨rfl, .inr ⟨_, _, rfl⟩⟩

theorem annsCalls_reach :
    (kafkaRuns defaultEnv topicEnv).Reach Acked (hubAfter annsCalls confirmEvents) :=
  (LTS.Reach.of_init annsCalls_before).run (hubAfter_run (by decide +kernel) (by decide +kernel))

/-- The confirmation has returned. -/
theorem told_of_returned_ann : ∃ r, (hubAfter annsCalls confirmEvents).procs[0]? = some r ∧
    ∃ m ∈ (hubAfter annsCalls confirmEvents).shared.log, m.call = 0 ∧
      ∃ ev, Carries topicEnv m.message ev ∧ r.call.Says ev :=
  ⟨_, rfl, told_of_returned annsCalls_reach rfl trivial⟩

example : ((hubAfter (hubAfter annsCalls confirmEvents) cancelEvents).shared.log.map
    fun m => m.message.event) = ["BookingConfirmed", "BookingConfirmed", "BookingCancelled"] := by
  decide +kernel

end RouteGo.Orchestrator
