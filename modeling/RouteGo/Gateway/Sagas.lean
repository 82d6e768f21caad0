import RouteGo.Gateway.Platform
import RouteGo.Lib.Births
import RouteGo.Orchestrator.Onward

/-!
# Sagas on the platform

What the platform does to bookings and payments, where each request to the two services is
served at once. A saga or a cancellation comes to be when the gateway lets its request
through; every other request for a booking or a payment is one of some client. So a run of
the platform is, of bookings and payments, a run of sagas and cancellations beside other
clients (`sagas_run`), and what holds in every run of those holds on the platform.
-/

namespace RouteGo.Gateway

open Js Orchestrator

/-- The saga or the cancellation that is run for the client. -/
def Client.saga (c : Client) : Option Call :=
  match c.pc with
  | .serving (.task (.confirmBookingSaga input pc)) => some (.confirmBooking input pc)
  | .serving (.cancel id paymentId pc) => some (.cancelBooking id paymentId pc)
  | _ => none

/-- The request for a booking or a payment that is served for the client at once. -/
def Client.op (c : Client) (e : PlatformIn) : Option Op :=
  match c.pc with
  | .serving (.task (.createHold xUserId body)) => some (.createHold e.saga xUserId body)
  | .serving (.task (.processCharge key xKey xUserId body)) =>
    some (.processCharge ⟨e.saga.rowId, e.saga.draw, e.saga.faults.find, e.saga.faults.create⟩
      key xKey xUserId body)
  | .serving (.settle x) => some x.op
  | _ => none

/-- Bookings and payments, with the calls that work on them. -/
def sagas (s : Pool Platform Client) : Pool Shared (Option Call) :=
  s.map Platform.shared Client.saga

/-- The handler that a request is for, whether it is let through or not. -/
def HttpRequest.handler (q : HttpRequest) : Option Handler :=
  (entryOf q.path).bind fun r => r.1.handler q.method r.2

/-- The booking that the request asks to have released or cancelled, as its path spells it. -/
def HttpRequest.freed (q : HttpRequest) : Option String :=
  match q.handler with
  | some (.booking (.releaseBooking id)) | some (.booking (.cancelBookingSaga id)) => some id
  | _ => none

/-- A call that is yet to begin. -/
def Begins (p : Call) : Prop :=
  (∃ input, p = .confirmBooking input .start) ∨
    ∃ id paymentId, p = .cancelBooking id paymentId .start

/-- What an event of the platform is to bookings and payments. -/
inductive SagaEvent (D : Deployment) (s : Pool Platform Client) :
    PlatformEvent → Pool.Event (StepIn ⊕ Call) Op → Prop
  | wait {d : Nat} : SagaEvent D s (.env d) (.env (.wait d))
  /-- The gateway lets the request of a saga or a cancellation through. -/
  | birth {i : Nat} {e : PlatformIn} {c : Client} {p : Call} (hc : s.procs[i]? = some c)
      (hp : (⟨c.request, passGateway D c.request e.now⟩ : Client).saga = some p) (hb : Begins p) :
      SagaEvent D s (.proc i e) (.proc i (.inr p))
  | act {i : Nat} {e : PlatformIn} {c : Client} {p : Call} (hc : s.procs[i]? = some c)
      (hp : c.saga = some p) : SagaEvent D s (.proc i e) (.proc i (.inl e.saga))
  | client {i : Nat} {e : PlatformIn} {c : Client} {op : Op} (hc : s.procs[i]? = some c)
      (hop : c.op e = some op) : SagaEvent D s (.proc i e) (.env op)

section
variable {D : Deployment} {P' : Platform} {s s' : Pool Platform Client} {i : Nat} {c c' : Client}
  {e : PlatformIn} {p p' : Call} {op : Op}

theorem sagas_getElem? (hc : s.procs[i]? = some c) : (sagas s).procs[i]? = some c.saga := by
  rw [sagas, Pool.map_getElem?, hc, Option.map_some]

theorem sagas_set_of_eq (hc : s.procs[i]? = some c) (hP : P'.shared = s.shared.shared)
    (hg : c'.saga = c.saga) : sagas ⟨P', s.procs.set i c'⟩ = sagas s := by
  rw [sagas, sagas, Pool.map, Pool.map, Pool.map_set_of_eq hc hg, hP]

/-- A step of a saga or a cancellation. -/
theorem sagas_act (hc : s.procs[i]? = some c) (hp : c.saga = some p)
    (ha : (orchestrator D.env).act s.shared.shared i p e.saga = some (P'.shared, p'))
    (hp' : c'.saga = some p') :
    Pool.step (orchestrator D.env).births (sagas s) (.proc i (.inl e.saga)) =
      some (sagas ⟨P', s.procs.set i c'⟩) := by
  have hact : (orchestrator D.env).births.act (sagas s).shared i c.saga (.inl e.saga) =
      some (P'.shared, c'.saga) := by
    rw [hp, hp']
    show ((orchestrator D.env).act s.shared.shared i p e.saga).map _ = _
    rw [ha, Option.map_some]
  rw [Pool.step, sagas_getElem? hc, Option.bind_some, hact, Option.map_some, sagas, sagas, Pool.map,
    Pool.map, List.map_set]

theorem sagas_birth (hc : s.procs[i]? = some c) (hnone : c.saga = none) (hp : c'.saga = some p)
    (hP : P'.shared = s.shared.shared) :
    Pool.step (orchestrator D.env).births (sagas s) (.proc i (.inr p)) =
      some (sagas ⟨P', s.procs.set i c'⟩) := by
  have hact : (orchestrator D.env).births.act (sagas s).shared i c.saga (.inr p) =
      some (P'.shared, c'.saga) := by
    rw [hnone, hp, hP]
    rfl
  rw [Pool.step, sagas_getElem? hc, Option.bind_some, hact, Option.map_some, sagas, sagas, Pool.map,
    Pool.map, List.map_set]

/-- A request that is served at once. -/
theorem sagas_client (hc : s.procs[i]? = some c) (hg : c'.saga = c.saga)
    (hP : P'.shared = { s.shared.shared with world := s.shared.shared.world.exec D.env op }) :
    Pool.step (orchestrator D.env).births (sagas s) (.env op) =
      some (sagas ⟨P', s.procs.set i c'⟩) := by
  have henv : (orchestrator D.env).births.env (sagas s).shared op = some P'.shared := by
    rw [hP]
    rfl
  rw [Pool.step, henv, Option.map_some, sagas, sagas, Pool.map, Pool.map, Pool.map_set_of_eq hc hg]

/-! ## Steps -/

/-- A job that no catalogue has is that of a request for bookings or payments. -/
theorem request_of_passGateway {q : HttpRequest} {now : Int} {job : Job}
    (h : passGateway D q now = .serving job) (hjob : ∀ hd : Handler, hd.job ≠ some job) :
    ∃ r : Request, r.job = some job ∧ r.body = q.body.booking ∧
      q.handler = r.endpoint.map .booking := by
  have hnone : ∀ o : Option Handler, o.bind Handler.job ≠ some job := by
    intro o ho
    obtain ⟨hd, -, hj⟩ := Option.bind_eq_some_iff.mp ho
    exact hjob hd hj
  rcases passGateway_serving h with ⟨path, -, hj⟩ | ⟨entry, path, payload, he, hj, -⟩
  · exact absurd hj (hnone _)
  · have hq : q.handler = entry.handler q.method path := by rw [HttpRequest.handler, he]; rfl
    cases entry with
    | bookings | payments => exact ⟨_, hj, rfl, hq⟩
    | auth | routes | buses | trips => exact absurd hj (hnone _)

theorem Request.saga_of_job {r : Request} {input : ConfirmBookingInput} {pc : ConfirmPc}
    (h : r.job = some (.task (.confirmBookingSaga input pc))) : pc = .start ∧
      Orchestrator.Controller.confirmInput (some r.tokenUser) (confirmBody r.body) = .ok input := by
  unfold Request.job at h
  split at h <;> try cases h
  obtain ⟨t, ht, heq⟩ := Option.map_eq_some_iff.mp h
  cases heq
  unfold Request.task at ht
  split at ht
  · cases ht
  · split at ht
    · cases ht
    · next hin => cases ht; exact ⟨rfl, hin⟩
  · cases ht
  · cases ht

theorem Request.cancel_of_job {r : Request} {id : String} {paymentId : Option String}
    {pc : CancelPc}
    (h : r.job = some (.cancel id paymentId pc)) : pc = .start ∧
      r.endpoint = some (.cancelBookingSaga id) := by
  unfold Request.job at h
  split at h
  · cases h
  · cases h
  · cases h
  · next he => cases h; exact ⟨rfl, he⟩
  · obtain ⟨t, -, heq⟩ := Option.map_eq_some_iff.mp h
    cases heq

theorem Request.release_of_job {r : Request} {id : String} {reason : Value}
    (h : r.job = some (.settle (.releaseBooking id reason))) :
    r.endpoint = some (.releaseBooking id) := by
  unfold Request.job at h
  split at h
  · cases h
  · next he => cases h; exact he
  · cases h
  · cases h
  · obtain ⟨t, -, heq⟩ := Option.map_eq_some_iff.mp h
    cases heq

/-- What comes to be at the gateway is yet to begin. -/
theorem begins_of_passGateway {q : HttpRequest} {now : Int}
    (h : (⟨q, passGateway D q now⟩ : Client).saga = some p) : Begins p := by
  unfold Client.saga at h
  split at h
  · next input pc heq =>
    cases h
    obtain ⟨r, hr, -, -⟩ := request_of_passGateway heq fun hd hj => by cases hd <;> cases hj
    rw [(Request.saga_of_job hr).1]
    exact .inl ⟨input, rfl⟩
  · next id paymentId pc heq =>
    cases h
    obtain ⟨r, hr, -, -⟩ := request_of_passGateway heq fun hd hj => by cases hd <;> cases hj
    rw [(Request.cancel_of_job hr).1]
    exact .inr ⟨id, paymentId, rfl⟩
  · cases h

theorem sagas_step {ev : PlatformEvent} (h : Pool.step (platform D) s ev = some s') :
    sagas s' = sagas s ∨ ∃ d, SagaEvent D s ev d ∧
      Pool.step (orchestrator D.env).births (sagas s) d = some (sagas s') := by
  cases ev with
  | env d =>
    obtain ⟨sh, he, rfl⟩ := Pool.step_env h
    cases he
    exact .inr ⟨_, .wait, rfl⟩
  | proc i e =>
    obtain ⟨c, P', c', hc, ha, rfl⟩ := Pool.step_proc h
    rcases Client.step_cases ha with ⟨hpc, rfl, rfl⟩ | ⟨job, pc', hpc, hj, rfl⟩
    · have hnone : c.saga = none := by rw [Client.saga, hpc]
      cases hp : (⟨c.request, passGateway D c.request e.now⟩ : Client).saga with
      | none => exact .inl (sagas_set_of_eq hc rfl (hp.trans hnone.symm))
      | some p =>
        exact .inr ⟨_, .birth hc hp (begins_of_passGateway hp), sagas_birth hc hnone hp rfl⟩
    · cases job with
      | register pc | createRoute pc | tripService pc =>
        simp only [Job.step, Option.map_eq_some_iff, Prod.mk.injEq] at hj
        obtain ⟨x, -, rfl, rfl⟩ := hj
        exact .inl (sagas_set_of_eq hc rfl (by rw [Client.saga, Client.saga, hpc]))
      | login =>
        have hsame : P' = s.shared ∧ (⟨c.request, pc'⟩ : Client).saga = none := by
          simp only [Job.step] at hj
          split at hj
          · cases hj; exact ⟨rfl, rfl⟩
          · split at hj <;> cases hj <;> exact ⟨rfl, rfl⟩
        exact .inl (sagas_set_of_eq hc (by rw [hsame.1]) (by rw [hsame.2, Client.saga, hpc]))
      | settle x =>
        cases hj
        exact .inr ⟨_, .client hc (by rw [Client.op, hpc]),
          sagas_client hc (by rw [Client.saga, Client.saga, hpc]) rfl⟩
      | cancel id paymentId pc =>
        simp only [Job.step, Option.map_eq_some_iff, Prod.mk.injEq] at hj
        obtain ⟨r, hs, rfl, rfl⟩ := hj
        have hp : c.saga = some (.cancelBooking id paymentId pc) := by rw [Client.saga, hpc]
        have ha :
          (orchestrator D.env).act s.shared.shared i (.cancelBooking id paymentId pc) e.saga =
            some (r.1, .cancelBooking id paymentId r.2) := by
          simp only [orchestrator, hs, Option.map_some]
        exact .inr ⟨_, .act hc hp, sagas_act hc hp ha rfl⟩
      | task t =>
        simp only [Job.step, Option.map_eq_some_iff, Prod.mk.injEq] at hj
        obtain ⟨r, hs, rfl, rfl⟩ := hj
        cases t with
        | createHold xUserId body =>
          cases hs
          exact .inr ⟨_, .client hc (by rw [Client.op, hpc]),
            sagas_client hc (by rw [Client.saga, Client.saga, hpc]) rfl⟩
        | processCharge key xKey xUserId body =>
          cases hs
          exact .inr ⟨_, .client hc (by rw [Client.op, hpc]),
            sagas_client hc (by rw [Client.saga, Client.saga, hpc]) rfl⟩
        | confirmBookingSaga input pc =>
          simp only [taskStep, Option.map_eq_some_iff] at hs
          obtain ⟨r', hs, rfl⟩ := hs
          have hp : c.saga = some (.confirmBooking input pc) := by rw [Client.saga, hpc]
          have ha : (orchestrator D.env).act s.shared.shared i (.confirmBooking input pc) e.saga =
              some (r'.1, .confirmBooking input r'.2) := by
            simp only [orchestrator, hs, Option.map_some]
          exact .inr ⟨_, .act hc hp, sagas_act hc hp ha rfl⟩
        | done => cases hs

end

/-! ## Runs -/

section
variable {D : Deployment} {s s' : Pool Platform Client}
  {ok : Pool Platform Client → PlatformEvent → Prop}
  {okC : Pool Shared Call → Pool.Event StepIn Op → Prop}

/-- Nothing is there of sagas when the platform opens. -/
theorem beforeCalls_of_opening (h : Opening s) {waiting : Nat → Call}
    (hw : ∀ i, Begins (waiting i)) : BeforeCalls ((sagas s).filled waiting) := by
  intro p hp
  obtain ⟨i, hi⟩ := List.mem_iff_getElem?.mp hp
  rw [Pool.filled_getElem?, Option.map_eq_some_iff] at hi
  obtain ⟨o, ho, rfl⟩ := hi
  rw [sagas, Pool.map_getElem?, Option.map_eq_some_iff] at ho
  obtain ⟨c, hc, rfl⟩ := ho
  have hnone : c.saga = none := by rw [Client.saga, h.sent c (List.mem_of_getElem? hc)]
  rw [hnone]
  exact hw i

/-- A run of the platform, under conditions that come down to `okC`. -/
theorem sagas_run_of (hok : ∀ t ev d, (platformRuns D).Reach ok t → ok t ev → SagaEvent D t ev d →
      Pool.Births Begins okC (sagas t) d)
    (h : (platformRuns D).Reach ok s) (hr : (platformRuns D).Run ok s s')
    {waiting : Nat → Call} (hw : ∀ i, Begins (waiting i)) :
    ∃ waiting₀ : Nat → Call, (∀ i, Begins (waiting₀ i)) ∧
      (callRuns D.env).Run okC ((sagas s).filled waiting₀) ((sagas s').filled waiting) := by
  have hborn : (Pool.system (orchestrator D.env).births fun _ => True).Run (Pool.Births Begins okC)
      (sagas s) (sagas s') := by
    refine LTS.Run.stutters (fun _ _ ho => ho) h (fun t ev t' ht ho hst => ?_) hr
    rcases sagas_step hst with heq | ⟨d, hd, hst'⟩
    · exact .inl heq
    · exact .inr ⟨d, hok t ev d ht ho hd, hst'⟩
  exact Pool.run_of_births hw hborn

/-- **Sagas on the platform.** Of bookings and payments, a run of the platform is one of
sagas and cancellations beside other clients; those that the gateway has not let through
yet are yet to begin. -/
theorem sagas_run (h : (platformRuns D).Reachable s) (hr : (platformRuns D).Run LTS.always s s')
    {waiting : Nat → Call} (hw : ∀ i, Begins (waiting i)) :
    ∃ waiting₀ : Nat → Call, (∀ i, Begins (waiting₀ i)) ∧
      (callRuns D.env).Reachable ((sagas s).filled waiting₀) ∧
      (callRuns D.env).Run LTS.always ((sagas s).filled waiting₀) ((sagas s').filled waiting) := by
  have hok : ∀ t ev d, (platformRuns D).Reachable t → LTS.always t ev → SagaEvent D t ev d →
      Pool.Births Begins LTS.always (sagas t) d := by
    intro t ev d _ _ hd
    cases hd with
    | birth _ _ hb => exact hb
    | wait | act _ _ | client _ _ => exact fun _ => trivial
  obtain ⟨waiting₀, hw₀, hrun⟩ := sagas_run_of hok h hr hw
  obtain ⟨s₀, hi, hr₀⟩ := h
  obtain ⟨waiting₁, hw₁, hrun₁⟩ := sagas_run_of hok (.of_init hi) hr₀ hw₀
  exact ⟨waiting₀, hw₀, ⟨_, beforeCalls_of_opening hi hw₁, hrun₁⟩, hrun⟩

end

/-! ### Dora's requests -/

def seatBody : JsonBody := { booking := {
  tripId := .string "t1", seatId := .string "s1", fromStopSeq := .ofInt 1, toStopSeq := .ofInt 3
  amount := .ofInt 500 } }

/-- A registration, a log-in, and a confirmation and a hold of one seat with its token. -/
def doraBooks : Pool Platform Client where
  shared := emptyPlatform
  procs := [
    ⟨{ method := .POST, path := ["api", "auth", "register"], body := dorasBody }, .sent⟩,
    ⟨{ method := .POST, path := ["api", "auth", "login"], body := dorasBody }, .sent⟩,
    ⟨{ method := .POST
       path := ["api", "bookings", "confirm"]
       headers := { authorization := Users.bearer "aaa.bbb.ccc", xUserId := some "eve" }
       body := seatBody }, .sent⟩,
    ⟨{ method := .POST
       path := ["api", "bookings", "hold"]
       headers := { authorization := Users.bearer "aaa.bbb.ccc" }
       body := seatBody }, .sent⟩]

/-- The hold is asked for when the saga has answered. -/
def doraBooksEvents : List PlatformEvent :=
  [.proc 0 (input 0 ""), .proc 0 (input 0 ""), .proc 0 (input 0 ""), .proc 1 (input 0 ""),
    .proc 1 (input 0 ""), .proc 2 (input 899999 ""), .proc 3 (input 899999 ""),
    .proc 2 (input 0 "b1"),
    .proc 2 (input 0 "p1"), .proc 2 (input 0 ""), .proc 2 (input 0 ""), .proc 3 (input 0 "b2")]

/-- After the first `k` steps. -/
def doraBooksAt (k : Nat) : Pool Platform Client :=
  (LTS.execAll (Pool.step (platform doras)) doraBooks (doraBooksEvents.take k)).getD doraBooks

theorem doraBooks_opening : Opening (doraBooksAt 0) := by
  refine ⟨rfl, rfl, rfl, rfl, rfl, fun c hc => ?_⟩
  have hm : c ∈ doraBooks.procs := hc
  simp only [doraBooks, List.mem_cons, List.not_mem_nil, or_false] at hm
  rcases hm with rfl | rfl | rfl | rfl <;> rfl

/-- The registration and the log-in, then the confirmation and the hold. -/
theorem doraBooks_run : (platformRuns doras).Reachable (doraBooksAt 5) ∧
    (platformRuns doras).Run LTS.always (doraBooksAt 5) (doraBooksAt 12) := by
  have h : LTS.execAll (Pool.step (platform doras)) (doraBooksAt 0) (doraBooksEvents.take 5) =
    some (doraBooksAt 5) := by rfl
  have h' : LTS.execAll (Pool.step (platform doras)) (doraBooksAt 5) (doraBooksEvents.drop 5) =
    some (doraBooksAt 12) := by rfl
  exact ⟨LTS.reachable_of_execAll _ doraBooks_opening h,
    LTS.run_of_execAll (LTS.allOk_always _ _ _) h'⟩

theorem sagas_run_doraBooks : ∃ waiting₀ : Nat → Call, (∀ i, Begins (waiting₀ i)) ∧
    (callRuns defaultEnv).Reachable ((sagas (doraBooksAt 5)).filled waiting₀) ∧
    (callRuns defaultEnv).Run LTS.always ((sagas (doraBooksAt 5)).filled waiting₀)
      ((sagas (doraBooksAt 12)).filled fun _ => .cancelBooking "" none .start) :=
  sagas_run doraBooks_run.1 doraBooks_run.2 fun _ => .inr ⟨_, _, rfl⟩

end RouteGo.Gateway
