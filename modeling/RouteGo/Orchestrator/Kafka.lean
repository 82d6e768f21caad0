import RouteGo.Lib.Broker
import RouteGo.Lib.Project
import RouteGo.Orchestrator.Billing

/-!
# `KafkaEventPublisher`

The publisher of `kafka.ts`, one step an await, under the sagas that call it
(`overKafka`); `server.ts` connects it at the start and disconnects it at the end, at any
moment of a run. Kafka answers each `await` as it likes, appends what `producer.send` was
given when it likes and any number of times, and reports a record as sent only when the
log has it (`Acked`).

Without the steps of the publisher a run is one of the sagas with the publish as one
step (`overKafka_projects`).
-/

namespace RouteGo.Orchestrator

open Js Bookings Payments

structure KafkaEnv where
  KAFKA_CLIENT_ID : String
  KAFKA_TOPIC_BOOKING_EVENTS : String

/-! ## Messages -/

abbrev Payload := List (String × Value)

def Payload.get (p : Payload) (field : String) : Value := (p.lookup field).getD .undefined

/-- What `JSON.stringify` keeps of it. -/
def Payload.stringify (p : Payload) : Payload :=
  (p.filter fun x => decide (x.2 ≠ .undefined)).map fun x => (x.1, x.2.viaJson)

def Event.eventName : Event → String
  | .BookingConfirmed _ _ _ _ _ _ _ => "BookingConfirmed"
  | .BookingFailed _ _ _ => "BookingFailed"
  | .BookingCancelled _ _ => "BookingCancelled"

/-- `now` is `new Date().toISOString()`. -/
def Event.payload (now : String) : Event → Payload
  | .BookingConfirmed bookingId userId tripId seatId amount currency paymentId =>
    [("bookingId", .string bookingId), ("userId", .string userId), ("tripId", tripId),
      ("seatId", seatId), ("amount", amount), ("currency", currency),
      ("paymentId", .string paymentId)]
  | .BookingFailed bookingId userId failureReason =>
    [("bookingId", .string bookingId), ("userId", .string userId),
      ("failureReason", .string failureReason)]
  | .BookingCancelled bookingId paymentId =>
    [("bookingId", .string bookingId),
      ("paymentId", match paymentId with | some p => .string p | none => .undefined),
      ("timestamp", .string now)]

/-- A record: its value is `{ event, data, timestamp }`, its headers are
`{ eventType, source }`. -/
structure Message where
  topic : String
  key : Value
  event : String
  data : Payload
  timestamp : String
  eventType : String
  source : String
  deriving DecidableEq

/-- `payload.bookingId || payload.id || eventName` -/
def messageKey (eventName : String) (payload : Payload) : Value :=
  if (payload.get "bookingId").truthy then payload.get "bookingId"
  else if (payload.get "id").truthy then payload.get "id"
  else .string eventName

def toMessage (kenv : KafkaEnv) (topic eventName : String) (payload : Payload)
    (timestamp : String) : Message where
  topic := topic
  key := messageKey eventName payload
  event := eventName
  data := payload.stringify
  timestamp := timestamp
  eventType := eventName
  source := kenv.KAFKA_CLIENT_ID

/-! ## The publisher -/

/-- A record and the call that sent it. -/
structure Sent where
  call : Nat
  message : Message
  deriving DecidableEq

/-- `connecting` and `disconnecting` are the calls of `server.ts` that await Kafka. -/
structure Kafka where
  isConnected : Bool
  connecting : Nat
  disconnecting : Nat
  broker : Broker Sent

inductive PublishPc where
  | start
  | connecting (payload : Payload)
  | connected (payload : Payload)
  | sending (message : Message)
  | done (res : Result Unit)

/-- Whether the promise that is awaited resolves, and what `new Date()` says. -/
structure PublishIn where
  resolved : Bool := true
  now : String := ""

def Kafka.send (kenv : KafkaEnv) (k : Kafka) (i : Nat) (topic eventName : String)
    (payload : Payload) (now : String) : Kafka × PublishPc :=
  let message := toMessage kenv topic eventName payload now
  ({ k with broker := k.broker.give ⟨i, message⟩ }, .sending message)

/-- The promise of `producer.connect()` in `connect`. -/
def Kafka.settleConnect (k : Kafka) (resolved : Bool) : Kafka :=
  if resolved then { k with isConnected := true } else k

/-- `publish`, called as call `i`. -/
def Kafka.publish (kenv : KafkaEnv) (k : Kafka) (i : Nat) (topic eventName : String)
    (payload : Payload) (x : PublishIn) : PublishPc → Option (Kafka × PublishPc)
  | .start =>
    if k.isConnected then some (k.send kenv i topic eventName payload x.now)
    else some (k, .connecting payload)
  | .connecting payload =>
    some (k.settleConnect x.resolved, if x.resolved then .connected payload
      else .done (.error kafkaError))
  | .connected payload => some (k.send kenv i topic eventName payload x.now)
  | .sending _ => some (k, .done (if x.resolved then .ok () else .error kafkaError))
  | .done _ => none

/-- `connect` and `disconnect` in `server.ts` and what becomes of them, and Kafka
appending a record that it was given. -/
inductive KafkaOp where
  | connect
  | connectSettled (resolved : Bool)
  | disconnect
  | disconnectSettled (resolved : Bool)
  | append (k : Nat)

def Kafka.exec (k : Kafka) : KafkaOp → Option Kafka
  | .connect => some (if k.isConnected then k else { k with connecting := k.connecting + 1 })
  | .connectSettled resolved =>
    if k.connecting = 0 then none
    else some { k.settleConnect resolved with connecting := k.connecting - 1 }
  | .disconnect =>
    some (if k.isConnected then { k with disconnecting := k.disconnecting + 1 } else k)
  | .disconnectSettled resolved =>
    if k.disconnecting = 0 then none
    -- an error is caught, and the flag stays
    else some { k with
      disconnecting := k.disconnecting - 1, isConnected := k.isConnected && !resolved }
  | .append n => (k.broker.append n).map fun b => { k with broker := b }

/-! ## Sagas that publish -/

/-- The event a call is about to publish. -/
def Call.publishing : Call → Option Event
  | .confirmBooking input pc => match pc with
    | .publishingConfirmed hold _ payment => some (confirmedEvent input hold.id payment)
    | .publishingFailed hold payment => some (failedEvent input hold.id payment)
    | _ => none
  | .cancelBooking b p pc => match pc with
    | .publishing => some (.BookingCancelled b p)
    | _ => none

/-- A call, and where its `publish` stands. -/
structure Running where
  call : Call
  publish : PublishPc

structure Hub where
  shared : Shared
  kafka : Kafka

structure HubIn where
  call : StepIn := {}
  publish : PublishIn := {}

inductive HubOp where
  | client (op : Op)
  | kafka (op : KafkaOp)

/-- How `publish` ends, for its caller. -/
def StepIn.withPublished (e : StepIn) : Result Unit → StepIn
  | .ok () => { e with outcome := .replied }
  | .error _ => { e with outcome := .failed }

def Running.step (env : Env) (kenv : KafkaEnv) (x : Hub) (i : Nat) (r : Running) (e : HubIn) :
    Option (Hub × Running) :=
  match r.call.publishing with
  | none => ((orchestrator env).act x.shared i r.call e.call).map
      fun y => ({ x with shared := y.1 }, ⟨y.2, r.publish⟩)
  | some event =>
    (x.kafka.publish kenv i kenv.KAFKA_TOPIC_BOOKING_EVENTS event.eventName
      (event.payload e.publish.now) e.publish r.publish).bind fun y =>
      match y.2 with
      | .done res => ((orchestrator env).act x.shared i r.call (e.call.withPublished res)).map
          fun z => (⟨z.1, y.1⟩, ⟨z.2, .done res⟩)
      | pc => some ({ x with kafka := y.1 }, ⟨r.call, pc⟩)

def overKafka (env : Env) (kenv : KafkaEnv) : Pool.Spec Hub Running HubIn HubOp where
  act x i r e := r.step env kenv x i e
  env x op := match op with
    | .client op => some { x with shared := { x.shared with world := x.shared.world.exec env op } }
    | .kafka op => (x.kafka.exec op).map fun k => { x with kafka := k }

abbrev HubEvent := Pool.Event HubIn HubOp

/-- The record that `producer.send` was given and has not reported yet. -/
def PublishPc.pending : PublishPc → Option Message
  | .sending message => some message
  | _ => none

/-- Kafka reports a record as sent when the log has it. -/
def Acked (s : Pool Hub Running) : HubEvent → Prop
  | .env _ => True
  | .proc i e => ∀ r ∈ s.procs[i]?, ∀ m ∈ r.publish.pending, e.publish.resolved = true →
      ⟨i, m⟩ ∈ s.shared.kafka.broker.log

instance (s : Pool Hub Running) : (ev : HubEvent) → Decidable (Acked s ev)
  | .env _ => .isTrue trivial
  | .proc i e => inferInstanceAs (Decidable (∀ r ∈ s.procs[i]?, ∀ m ∈ r.publish.pending,
      e.publish.resolved = true → ⟨i, m⟩ ∈ s.shared.kafka.broker.log))

/-- Any calls yet to begin, on any stores; Kafka has not been connected. -/
structure BeforeKafka (s : Pool Hub Running) : Prop where
  kafka : s.shared.kafka = ⟨false, 0, 0, .empty⟩
  calls : ∀ r ∈ s.procs, r.publish = .start ∧
    ((∃ input, r.call = .confirmBooking input .start) ∨
      ∃ id paymentId, r.call = .cancelBooking id paymentId .start)

def kafkaRuns (env : Env) (kenv : KafkaEnv) : LTS (Pool Hub Running) HubEvent :=
  Pool.system (overKafka env kenv) BeforeKafka

/-! ## What a step does -/

/-- The moves of `publish`. -/
inductive PublishMove (kenv : KafkaEnv) (k : Kafka) (i : Nat) (topic eventName : String)
    (payload : Payload) (x : PublishIn) : PublishPc → Kafka → PublishPc → Prop
  | connect (h : k.isConnected = false) :
      PublishMove kenv k i topic eventName payload x .start k (.connecting payload)
  | sendNow (h : k.isConnected = true) : PublishMove kenv k i topic eventName payload x .start
      (k.send kenv i topic eventName payload x.now).1
        (k.send kenv i topic eventName payload x.now).2
  | connected {p} (h : x.resolved = true) :
      PublishMove kenv k i topic eventName payload x (.connecting p) { k with isConnected := true }
        (.connected p)
  | notConnected {p} (h : x.resolved = false) :
      PublishMove kenv k i topic eventName payload x (.connecting p) k (.done (.error kafkaError))
  | send {p} : PublishMove kenv k i topic eventName payload x (.connected p)
      (k.send kenv i topic eventName p x.now).1 (k.send kenv i topic eventName p x.now).2
  | sent {m} (h : x.resolved = true) :
      PublishMove kenv k i topic eventName payload x (.sending m) k (.done (.ok ()))
  | notSent {m} (h : x.resolved = false) :
      PublishMove kenv k i topic eventName payload x (.sending m) k (.done (.error kafkaError))

section
variable {env : Env} {kenv : KafkaEnv} {k k' : Kafka} {i : Nat} {topic eventName : String}
  {payload : Payload} {x : PublishIn} {pc pc' : PublishPc} {hub hub' : Hub} {r r' : Running}
  {e : HubIn} {ev : Event}

theorem publish_move (h : k.publish kenv i topic eventName payload x pc = some (k', pc')) :
    PublishMove kenv k i topic eventName payload x pc k' pc' := by
  cases pc with
  | start =>
    simp only [Kafka.publish] at h
    split at h
    · next hc => cases h; exact .sendNow hc
    · next hc => cases h; exact .connect (Bool.eq_false_iff.mpr hc)
  | connecting p =>
    simp only [Kafka.publish, Option.some.injEq, Prod.mk.injEq] at h
    obtain ⟨rfl, rfl⟩ := h
    cases hr : x.resolved with
    | true => exact .connected hr
    | false => exact .notConnected hr
  | connected p => cases h; exact .send
  | sending m =>
    simp only [Kafka.publish, Option.some.injEq, Prod.mk.injEq] at h
    obtain ⟨rfl, rfl⟩ := h
    cases hr : x.resolved with
    | true => exact .sent hr
    | false => exact .notSent hr
  | done res => cases h

/-- `server.ts` leaves the records alone; Kafka copies one. -/
theorem broker_exec {op : KafkaOp} (h : k.exec op = some k') :
    k'.broker = k.broker ∨ ∃ n, k.broker.append n = some k'.broker := by
  cases op with
  | connect =>
    cases h
    left
    split <;> rfl
  | connectSettled resolved =>
    simp only [Kafka.exec] at h
    split at h
    · cases h
    · cases h
      left
      unfold Kafka.settleConnect
      split <;> rfl
  | disconnect =>
    cases h
    left
    split <;> rfl
  | disconnectSettled resolved =>
    simp only [Kafka.exec] at h
    split at h <;> cases h
    exact .inl rfl
  | append n =>
    simp only [Kafka.exec, Option.map_eq_some_iff] at h
    obtain ⟨b, hb, rfl⟩ := h
    exact .inr ⟨n, hb⟩

/-- The event goes to the topic of the bookings. -/
abbrev Publishes (kenv : KafkaEnv) (k : Kafka) (i : Nat) (ev : Event) (x : PublishIn) :
    PublishPc → Kafka → PublishPc → Prop :=
  PublishMove kenv k i kenv.KAFKA_TOPIC_BOOKING_EVENTS ev.eventName (ev.payload x.now) x

/-- A call takes a step of its own, or one of its `publish`, and both when that returns. -/
theorem Running.step_cases (h : r.step env kenv hub i e = some (hub', r')) :
    (∃ sh p', r.call.publishing = none ∧
      (orchestrator env).act hub.shared i r.call e.call = some (sh, p') ∧
      hub' = { hub with shared := sh } ∧ r' = ⟨p', r.publish⟩) ∨
    (∃ ev k' pc', r.call.publishing = some ev ∧
      Publishes kenv hub.kafka i ev e.publish r.publish k' pc' ∧
      (∀ res, pc' ≠ .done res) ∧ hub' = { hub with kafka := k' } ∧ r' = ⟨r.call, pc'⟩) ∨
    ∃ ev k' res sh p', r.call.publishing = some ev ∧
      Publishes kenv hub.kafka i ev e.publish r.publish k' (.done res) ∧
      (orchestrator env).act hub.shared i r.call (e.call.withPublished res) = some (sh, p') ∧
      hub' = ⟨sh, k'⟩ ∧ r' = ⟨p', .done res⟩ := by
  unfold Running.step at h
  split at h
  · next hn =>
    simp only [Option.map_eq_some_iff, Prod.mk.injEq] at h
    obtain ⟨⟨sh, p'⟩, ha, rfl, rfl⟩ := h
    exact .inl ⟨sh, p', hn, ha, rfl, rfl⟩
  · next ev hev =>
    simp only [Option.bind_eq_some_iff] at h
    obtain ⟨⟨k', pc'⟩, hp, h⟩ := h
    have hm := publish_move hp
    cases pc' with
    | done res =>
      simp only [Option.map_eq_some_iff, Prod.mk.injEq] at h
      obtain ⟨⟨sh, p'⟩, ha, rfl, rfl⟩ := h
      exact .inr (.inr ⟨ev, k', res, sh, p', hev, hm, ha, rfl, rfl⟩)
    | _ =>
      cases h
      exact .inr (.inl ⟨ev, k', _, hev, hm, (fun res hr => by cases hr), rfl, rfl⟩)

end

/-! ## Without the publisher -/

/-- The other clients do only what `Q` admits. -/
def Clients (Q : Op → Prop) (_ : Pool Hub Running) (ev : HubEvent) : Prop :=
  ∀ op, ev = .env (.client op) → Q op

/-- As `Clients`, in the runs of the sagas. -/
def ClientsOf (Q : Op → Prop) (_ : Pool Shared Call) (ev : Pool.Event StepIn Op) : Prop :=
  ∀ op, ev = .env op → Q op

/-- The calls alone. -/
def calls (s : Pool Hub Running) : Pool Shared Call := s.map Hub.shared Running.call

theorem overKafka_projects (env : Env) (kenv : KafkaEnv) (Q : Op → Prop) :
    Pool.Projects (overKafka env kenv) (Clients Q) (orchestrator env) (ClientsOf Q) Hub.shared
      Running.call where
  env s op hub' ho h := by
    cases op with
    | client op =>
      cases h
      refine .inr ⟨op, fun op' hop => ?_, rfl⟩
      cases hop
      exact ho op rfl
    | kafka op =>
      simp only [overKafka, Option.map_eq_some_iff] at h
      obtain ⟨k', -, rfl⟩ := h
      exact .inl rfl
  act s i r e hub' r' _ _ h := by
    have hproc : ∀ e, ClientsOf Q (s.map Hub.shared Running.call) (.proc i e) :=
      fun e op hop => by cases hop
    rcases Running.step_cases h with ⟨sh, p', -, ha, rfl, rfl⟩ | ⟨ev, k', pc', -, -, -, rfl, rfl⟩ |
      ⟨ev, k', res, sh, p', -, -, ha, rfl, rfl⟩
    · exact .inr ⟨e.call, hproc _, ha⟩
    · exact .inl ⟨rfl, rfl⟩
    · exact .inr ⟨_, hproc _, ha⟩

/-- Any calls yet to begin. -/
def BeforeCalls (s : Pool Shared Call) : Prop :=
  ∀ p ∈ s.procs, (∃ input, p = .confirmBooking input .start) ∨
    ∃ id paymentId, p = .cancelBooking id paymentId .start

def callRuns (env : Env) : LTS (Pool Shared Call) (Pool.Event StepIn Op) :=
  Pool.system (orchestrator env) BeforeCalls

theorem beforeCalls_of_beforeKafka {s : Pool Hub Running} (h : BeforeKafka s) :
    BeforeCalls (calls s) := by
  intro p hp
  obtain ⟨r, hr, rfl⟩ := List.mem_map.mp hp
  exact (h.calls r hr).2

/-- **The publisher refines a publish in one step.** With the steps of Kafka and of the
publisher left out, a run of the sagas over Kafka is a run of the sagas, with the same
other clients. -/
theorem callRuns_of_kafkaRuns {env : Env} {kenv : KafkaEnv} {Q : Op → Prop}
    {s s' : Pool Hub Running}
    (h : (kafkaRuns env kenv).Reach (Clients Q) s)
    (hr : (kafkaRuns env kenv).Run (Clients Q) s s') :
    (callRuns env).Reach (ClientsOf Q) (calls s) ∧
      (callRuns env).Run (ClientsOf Q) (calls s) (calls s') :=
  ⟨(overKafka_projects env kenv Q).reach (fun _ ht => beforeCalls_of_beforeKafka ht) h,
    (overKafka_projects env kenv Q).run hr⟩

end RouteGo.Orchestrator
