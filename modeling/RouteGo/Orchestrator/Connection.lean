import RouteGo.Orchestrator.Topic

/-!
# With and without Kafka

As long as nobody can connect to Kafka no call returns to its caller
(`offline_of_unreachable`); once the publisher is connected, and until `server.ts`
disconnects it, no publish waits for a connection (`connected_of_run`).
-/

namespace RouteGo.Orchestrator

open Bookings

/-- Kafka lets nobody connect. -/
def Unreachable (s : Pool Hub Running) (ev : HubEvent) : Prop :=
  ev ≠ .env (.kafka (.connectSettled true)) ∧
    ∀ i e r p, ev = .proc i e → s.procs[i]? = some r → r.publish = .connecting p →
      e.publish.resolved = false

def Hub.Offline (x : Hub) : Prop := x.kafka.isConnected = false ∧ x.kafka.broker = .empty

/-- A call that has sent nothing, and has not returned to its caller. -/
def Running.Offline (r : Running) : Prop :=
  ¬ r.call.Succeeded ∧
    (r.publish = .start ∨ (∃ p, r.publish = .connecting p) ∨ ∃ err, r.publish = .done (.error err))

section
variable {env : Env} {kenv : KafkaEnv} {x x' : Hub} {i : Nat} {r r' : Running} {e : HubIn}

theorem offline_env {op : HubOp} (h : (overKafka env kenv).env x op = some x') (hx : x.Offline)
    (ho : op ≠ .kafka (.connectSettled true)) : x'.Offline := by
  cases op with
  | client op => cases h; exact hx
  | kafka op =>
    obtain ⟨hc, hb⟩ := hx
    simp only [overKafka, Option.map_eq_some_iff] at h
    obtain ⟨k', hk, rfl⟩ := h
    cases op with
    | connect =>
      simp only [Kafka.exec, hc, Bool.false_eq_true, if_false, Option.some.injEq] at hk
      subst hk
      exact ⟨rfl, hb⟩
    | disconnect =>
      simp only [Kafka.exec, hc, Bool.false_eq_true, if_false, Option.some.injEq] at hk
      subst hk
      exact ⟨hc, hb⟩
    | connectSettled resolved =>
      cases resolved with
      | true => exact absurd rfl ho
      | false =>
        simp only [Kafka.exec] at hk
        split at hk <;> cases hk
        exact ⟨hc, hb⟩
    | disconnectSettled resolved =>
      simp only [Kafka.exec] at hk
      split at hk <;> cases hk
      exact ⟨by simp only [hc, Bool.false_and], hb⟩
    | append n =>
      simp only [Kafka.exec, hb] at hk
      cases hk

theorem offline_step (h : r.step env kenv x i e = some (x', r')) (hx : x.Offline) (hr : r.Offline)
    (hresolved : ∀ p, r.publish = .connecting p → e.publish.resolved = false) :
    x'.Offline ∧ r'.Offline := by
  rcases Running.step_cases h with ⟨sh, p', hn, ha, rfl, rfl⟩ | ⟨ev, k', pc', hev, hm,
    hd, rfl, rfl⟩ | ⟨ev, k', res, sh, p', hev, hm, ha, rfl, rfl⟩
  · refine ⟨hx, fun hs => ?_, hr.2⟩
    obtain ⟨ev, hev, -⟩ := succeeded_of_act ha hs
    rw [hn] at hev
    cases hev
  · rcases hr.2 with hp | ⟨p, hp⟩ | ⟨err, hp⟩ <;> rw [hp] at hm
    · cases hm with
      | connect _ => exact ⟨hx, hr.1, .inr (.inl ⟨_, rfl⟩)⟩
      | sendNow hc =>
        rw [hx.1] at hc
        cases hc
    · cases hm with
      | connected hres =>
        rw [hresolved p hp] at hres
        cases hres
      | notConnected _ => exact absurd rfl (hd _)
    · cases hm
  · rcases hr.2 with hp | ⟨p, hp⟩ | ⟨err, hp⟩ <;> rw [hp] at hm <;> cases hm
    refine ⟨hx, fun hs => ?_, .inr (.inr ⟨_, rfl⟩)⟩
    obtain ⟨-, -, ho, -⟩ := succeeded_of_act ha hs
    cases ho

end

section
variable {env : Env} {kenv : KafkaEnv} {s s' : Pool Hub Running}

/-- **Without Kafka** nothing is sent, and no call returns to its caller, whatever it has
done to the stores. -/
theorem offline_of_unreachable (h : (kafkaRuns env kenv).Reach Unreachable s) :
    s.shared.Offline ∧ ∀ r ∈ s.procs, r.Offline := by
  have hout : Pool.Outline (overKafka env kenv) Unreachable Hub.Offline fun _ _ r => r.Offline :=
    ⟨fun s op x' hs ho he => ⟨offline_env he hs.1 fun hop => ho.1 (by rw [hop]), hs.2⟩,
      fun s i r e x' r' hs ho hr ha => offline_step ha hs.1 (hs.2 i r hr) fun p hp =>
        ho.2 i e r p rfl hr hp, fun s i r e x' r' j q hs _ _ _ _ hq => hs.2 j q hq⟩
  have hI := Pool.invariant hout (fun s hi => ?_) h
  · refine ⟨hI.1, fun r hr => ?_⟩
    obtain ⟨i, hi⟩ := List.mem_iff_getElem?.mp hr
    exact hI.2 i r hi
  · refine ⟨by rw [Hub.Offline, hi.kafka]; exact ⟨rfl, rfl⟩, fun i r hr => ?_⟩
    obtain ⟨hstart, hcall⟩ := hi.calls r (List.mem_of_getElem? hr)
    refine ⟨fun hs => ?_, .inl hstart⟩
    rcases hcall with ⟨input, hc⟩ | ⟨id, paymentId, hc⟩ <;> rw [hc] at hs <;> exact hs.elim

end

/-- Ann pays, and her publish cannot connect. -/
def offlineEvents : List HubEvent :=
  [⟨{ rowId := "b1" }, { resolved := false }⟩, ⟨{ rowId := "p1" }, { resolved := false }⟩,
    ⟨{}, { resolved := false }⟩, ⟨{}, { resolved := false }⟩, ⟨{}, { resolved := false }⟩].map
    (Pool.Event.proc 0)

theorem offlineEvents_reach :
    (kafkaRuns defaultEnv topicEnv).Reach Unreachable (hubAfter annsCalls offlineEvents) := by
  refine (LTS.Reach.of_init annsCalls_before).run (hubAfter_run ?_ (by decide +kernel))
  refine LTS.allOk_of_mem _ _ fun ev hev s => ?_
  obtain ⟨y, hy, rfl⟩ := List.mem_map.mp hev
  have hres : y.publish.resolved = false := by
    simp only [List.mem_cons, List.not_mem_nil, or_false] at hy
    rcases hy with rfl | rfl | rfl | rfl | rfl <;> rfl
  refine ⟨fun h => (by cases h), fun i e r p h _ _ => ?_⟩
  cases h
  exact hres

theorem offline_of_unreachable_ann : (hubAfter annsCalls offlineEvents).shared.Offline ∧
    ∀ r ∈ (hubAfter annsCalls offlineEvents).procs, r.Offline :=
  offline_of_unreachable offlineEvents_reach

/-- `server.ts` does not disconnect. -/
def StaysUp (_ : Pool Hub Running) (ev : HubEvent) : Prop :=
  ev ≠ .env (.kafka (.disconnectSettled true))

/-- The call does not wait for a connection. -/
def Running.Direct (r : Running) : Prop :=
  ∀ p, r.publish ≠ .connecting p ∧ r.publish ≠ .connected p

section
variable {env : Env} {kenv : KafkaEnv} {x x' : Hub} {i : Nat} {r r' : Running} {e : HubIn}
  {s s' : Pool Hub Running}

theorem connected_env {op : HubOp} (h : (overKafka env kenv).env x op = some x')
    (hx : x.kafka.isConnected = true) (ho : op ≠ .kafka (.disconnectSettled true)) :
    x'.kafka.isConnected = true := by
  cases op with
  | client op => cases h; exact hx
  | kafka op =>
    simp only [overKafka, Option.map_eq_some_iff] at h
    obtain ⟨k', hk, rfl⟩ := h
    show k'.isConnected = true
    cases op with
    | connect | disconnect =>
      cases hk
      simp only [hx, if_true]
    | connectSettled resolved =>
      simp only [Kafka.exec] at hk
      split at hk <;> cases hk
      unfold Kafka.settleConnect
      split
      · rfl
      · exact hx
    | disconnectSettled resolved =>
      simp only [Kafka.exec] at hk
      split at hk <;> cases hk
      cases resolved with
      | true => exact absurd rfl ho
      | false => simp only [hx, Bool.not_false, Bool.and_true]
    | append n =>
      simp only [Kafka.exec, Option.map_eq_some_iff] at hk
      obtain ⟨b, -, rfl⟩ := hk
      exact hx

/-- A step of a call leaves the connection up, and goes straight to `send`. -/
theorem connected_step (h : r.step env kenv x i e = some (x', r'))
    (hx : x.kafka.isConnected = true) : x'.kafka.isConnected = true ∧ (r.Direct → r'.Direct) := by
  have hmove : ∀ {ev k' pc'}, Publishes kenv x.kafka i ev e.publish r.publish k' pc' →
      k'.isConnected = true ∧
        (r.Direct → (⟨r.call, pc'⟩ : Running).Direct) := by
    intro ev k' pc' hm
    cases hp : r.publish with
    | start =>
      rw [hp] at hm
      cases hm with
      | connect hc =>
        rw [hx] at hc
        cases hc
      | sendNow _ => exact ⟨hx, fun _ p => ⟨fun hq => (by cases hq), fun hq => (by cases hq)⟩⟩
    | connecting p =>
      rw [hp] at hm
      cases hm with
      | connected _ => exact ⟨rfl, fun hd => absurd hp (hd p).1⟩
      | notConnected _ => exact ⟨hx, fun hd => absurd hp (hd p).1⟩
    | connected p =>
      rw [hp] at hm
      cases hm
      exact ⟨hx, fun hd => absurd hp (hd p).2⟩
    | sending m =>
      rw [hp] at hm
      cases hm <;> exact ⟨hx, fun _ p => ⟨fun hq => (by cases hq), fun hq => (by cases hq)⟩⟩
    | done res => rw [hp] at hm; cases hm
  rcases Running.step_cases h with ⟨sh, p', -, -, rfl, rfl⟩ | ⟨ev, k', pc', -, hm, -, rfl, rfl⟩ |
    ⟨ev, k', res, sh, p', -, hm, -, rfl, rfl⟩
  · exact ⟨hx, fun hd => hd⟩
  · exact hmove hm
  · exact hmove hm

/-- **One connection is enough.** While `server.ts` does not disconnect, a publish that
begins once the publisher is connected does not wait for a connection. -/
theorem connected_of_run (hr : (kafkaRuns env kenv).Run StaysUp s s')
    (hc : s.shared.kafka.isConnected = true) :
    s'.shared.kafka.isConnected = true ∧ ∀ (i : Nat) r r', s.procs[i]? = some r → r.Direct →
      s'.procs[i]? = some r' → r'.Direct := by
  have hstart : ∀ (i : Nat) r r', s.procs[i]? = some r → r.Direct → s.procs[i]? = some r' →
      r'.Direct := by
    intro i r r' hri hd hri'
    obtain rfl := Option.some.inj (hri.symm.trans hri')
    exact hd
  refine hr.keep (P := fun t => t.shared.kafka.isConnected = true ∧ ∀ (i : Nat) r r',
    s.procs[i]? = some r → r.Direct → t.procs[i]? = some r' → r'.Direct)
    (fun t ev t' ⟨ht, hd⟩ ho hst => ?_) ⟨hc, hstart⟩
  cases ev with
  | env op =>
    obtain ⟨x', he, rfl⟩ := Pool.step_env hst
    exact ⟨connected_env he ht fun hop => ho (by rw [hop]), hd⟩
  | proc j e =>
    obtain ⟨q, x', q', hq, ha, rfl⟩ := Pool.step_proc hst
    obtain ⟨hx, hdirect⟩ := connected_step ha ht
    refine ⟨hx, fun i r r' hri hdr hr' => ?_⟩
    rcases Pool.getElem?_set_cases hr' with ⟨rfl, rfl⟩ | ⟨-, hr'⟩
    · exact hdirect (hd i r q hri hdr hq)
    · exact hd i r r' hri hdr hr'

end

theorem cancelEvents_run : (kafkaRuns defaultEnv topicEnv).Run StaysUp
    (hubAfter annsCalls confirmEvents)
      (hubAfter (hubAfter annsCalls confirmEvents) cancelEvents) := by
  refine hubAfter_run (LTS.allOk_of_mem _ _ fun ev hev s h => ?_) (by decide +kernel)
  subst h
  simp only [cancelEvents, List.mem_cons, List.not_mem_nil, or_false, reduceCtorEq,
    Pool.Event.env.injEq, HubOp.kafka.injEq] at hev

/-- The cancellation sends at once. -/
theorem connected_of_run_ann :
    (hubAfter (hubAfter annsCalls confirmEvents) cancelEvents).shared.kafka.isConnected = true ∧
    ∀ (i : Nat) r r', (hubAfter annsCalls confirmEvents).procs[i]? = some r → r.Direct →
      (hubAfter (hubAfter annsCalls confirmEvents) cancelEvents).procs[i]? = some r' → r'.Direct :=
  connected_of_run cancelEvents_run (by decide +kernel)

end RouteGo.Orchestrator
