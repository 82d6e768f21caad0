import RouteGo.Orchestrator.Service

/-!
# What the confirmation saga reports

Call 0 is `confirmBooking`; everything else that runs leaves its booking and the
payments of the booking alone. Then the reply, the event and the two stores
agree: `success: true` is a `CONFIRMED` booking, paid for and announced once, and
`success: false` a `FAILED` one, not paid for and announced once. A call that
throws has announced at most one thing, which was true at that moment.
-/

namespace RouteGo.Orchestrator

open Js Bookings Payments

/-- The events call `i` published. -/
def Shared.issuedBy (sh : Shared) (i : Nat) : List Issued :=
  sh.issued.filter fun x => decide (x.call = i)

/-- The payment under the key of the booking has succeeded. -/
def World.PaidByKey (w : World) (bookingId : String) : Prop :=
  ∃ p ∈ w.payments.rows, p.idempotencyKey = idempotencyKeyOf bookingId ∧ p.status = .SUCCEEDED

/-- Nothing happens to the booking or to its payments. -/
structure SameFor (bookingId : String) (w w' : World) : Prop where
  status : w'.status bookingId = w.status bookingId
  payments : ∀ p, IsFor bookingId p → (p ∈ w'.payments.rows ↔ p ∈ w.payments.rows)

/-- What call 0 announced in a run that ends well, or that ends badly. -/
def announced (input : ConfirmBookingInput) (b : Booking) (c : ChargeResult) : Issued :=
  ⟨0, confirmedEvent input b.id c, some .CONFIRMED⟩

def renounced (input : ConfirmBookingInput) (b : Booking) (c : ChargeResult) : Issued :=
  ⟨0, failedEvent input b.id c, some .FAILED⟩

/-- At most one event, true at its moment. -/
def Truthful (input : ConfirmBookingInput) (o : Option Booking) (l : List Issued) : Prop :=
  l.length ≤ 1 ∧ ∀ x ∈ l, ∃ b c, o = some b ∧ (x = announced input b c ∨ x = renounced input b c)

structure Succeeded (sh : Shared) (input : ConfirmBookingInput) (b : Booking) : Prop where
  status : sh.world.status b.id = some .CONFIRMED
  paid : sh.world.PaidByKey b.id
  issued : ∃ c, sh.issuedBy 0 = [announced input b c]

structure Failed (sh : Shared) (input : ConfirmBookingInput) (b : Booking) : Prop where
  status : sh.world.status b.id = some .FAILED
  unpaid : ¬ sh.world.Paid b.id
  issued : ∃ c, sh.issuedBy 0 = [renounced input b c]

def SagaAssertion (sh : Shared) (input : ConfirmBookingInput) : ConfirmPc → Prop
  | .start => sh.issuedBy 0 = []
  | .charging b =>
    NoSpace b.id ∧ (∀ p ∈ sh.world.payments.rows, ¬ IsFor b.id p) ∧ sh.issuedBy 0 = []
  | .confirming b _ => sh.world.PaidByKey b.id ∧ sh.issuedBy 0 = []
  | .publishingConfirmed b _ _ =>
    sh.world.status b.id = some .CONFIRMED ∧ sh.world.PaidByKey b.id ∧ sh.issuedBy 0 = []
  | .releasing b _ => ¬ sh.world.Paid b.id ∧ sh.issuedBy 0 = []
  | .publishingFailed b _ =>
    sh.world.status b.id = some .FAILED ∧ ¬ sh.world.Paid b.id ∧ sh.issuedBy 0 = []
  | .compensating b _ => Truthful input (some b) (sh.issuedBy 0)
  | .done o (.ok r) => ∃ b, o = some b ∧
    ((r.success = true ∧ Succeeded sh input b) ∨ (r.success = false ∧ Failed sh input b))
  | .done o (.error _) => Truthful input o (sh.issuedBy 0)

section
variable {env : Env} {sh sh' : Shared} {i : Nat} {input : ConfirmBookingInput} {e : StepIn}

theorem truthful_nil (o : Option Booking) : Truthful input o [] :=
  ⟨Nat.zero_le _, fun _ hx => absurd hx List.not_mem_nil⟩

theorem truthful_announced (b : Booking) (c : ChargeResult) :
    Truthful input (some b) [announced input b c] := by
  refine ⟨le_rfl, fun x hx => ⟨b, c, rfl, .inl ?_⟩⟩
  simpa using hx

theorem truthful_renounced (b : Booking) (c : ChargeResult) :
    Truthful input (some b) [renounced input b c] := by
  refine ⟨le_rfl, fun x hx => ⟨b, c, rfl, .inr ?_⟩⟩
  simpa using hx

theorem issuedBy_publish_self (i : Nat) (o : Outcome) (ev : Event) :
    (publish sh i o ev).2.issuedBy i =
      sh.issuedBy i ++ [⟨i, ev, sh.world.status ev.bookingId⟩] := by
  simp [publish, Shared.issuedBy]

theorem issuedBy_publish_ne {i j : Nat} (h : i ≠ j) (o : Outcome) (ev : Event) :
    (publish sh i o ev).2.issuedBy j = sh.issuedBy j := by
  simp [publish, Shared.issuedBy, h]

/-- The only event of call 0, published while its booking has status `s`. -/
theorem issuedBy_publish_first {s : BookingStatus} {ev : Event} (o : Outcome)
    (hm : sh.issuedBy 0 = []) (hs : sh.world.status ev.bookingId = some s) :
    (publish sh 0 o ev).2.issuedBy 0 = [⟨0, ev, some s⟩] := by
  rw [issuedBy_publish_self, hm, hs]
  rfl

theorem issuedBy_withWorld (w : World) (i : Nat) :
    ({ sh with world := w } : Shared).issuedBy i = sh.issuedBy i := rfl

theorem MayHave.issuedBy {served : World} (h : MayHave sh served sh') (i : Nat) :
    sh'.issuedBy i = sh.issuedBy i := by
  rcases h with rfl | rfl
  · rfl
  · exact issuedBy_withWorld served i

theorem SameFor.paid {b : String} {w w' : World} (h : SameFor b w w') : w'.Paid b ↔ w.Paid b := by
  constructor <;> rintro ⟨p, hp, hf, hs⟩
  · exact ⟨p, (h.payments p hf).mp hp, hf, hs⟩
  · exact ⟨p, (h.payments p hf).mpr hp, hf, hs⟩

theorem SameFor.paidByKey {b : String} {w w' : World} (h : SameFor b w w') (hp : w.PaidByKey b) :
    w'.PaidByKey b := by
  obtain ⟨p, hp, hk, hs⟩ := hp
  exact ⟨p, (h.payments p (.inr hk)).mpr hp, hk, hs⟩

/-- What the saga knows survives whatever leaves its booking alone. -/
theorem SagaAssertion.same {pc : ConfirmPc} (h : SagaAssertion sh input pc)
    (hs : ∀ b, pc.hold = some b → SameFor b.id sh.world sh'.world)
    (hi : sh'.issuedBy 0 = sh.issuedBy 0) : SagaAssertion sh' input pc := by
  cases pc with
  | start => rw [SagaAssertion, hi]; exact h
  | charging b =>
    obtain ⟨hn, hp, hm⟩ := h
    exact ⟨hn, fun p hp' hf => hp p (((hs b rfl).payments p hf).mp hp') hf, hi.trans hm⟩
  | confirming b c => exact ⟨(hs b rfl).paidByKey h.1, hi.trans h.2⟩
  | publishingConfirmed b cb c =>
    exact ⟨(hs b rfl).status.trans h.1, (hs b rfl).paidByKey h.2.1, hi.trans h.2.2⟩
  | releasing b c => exact ⟨fun hp => h.1 ((hs b rfl).paid.mp hp), hi.trans h.2⟩
  | publishingFailed b c =>
    exact ⟨(hs b rfl).status.trans h.1, fun hp => h.2.1 ((hs b rfl).paid.mp hp), hi.trans h.2.2⟩
  | compensating b err => rw [SagaAssertion, hi]; exact h
  | done o res =>
    cases res with
    | error err => rw [SagaAssertion, hi]; exact h
    | ok r =>
      obtain ⟨b, rfl, ⟨hr, hok⟩ | ⟨hr, hok⟩⟩ := h
      · exact ⟨b, rfl, .inl ⟨hr, (hs b rfl).status.trans hok.status,
          (hs b rfl).paidByKey hok.paid, by rw [hi]; exact hok.issued⟩⟩
      · exact ⟨b, rfl, .inr ⟨hr, (hs b rfl).status.trans hok.status,
          fun hp => hok.unpaid ((hs b rfl).paid.mp hp), by rw [hi]; exact hok.issued⟩⟩

/-- A first charge for a booking: what was answered is what is stored. -/
theorem charge_fresh {b : String} {w : World} {c : ChargeResult} (hn : NoSpace b)
    (hp : ∀ p ∈ w.payments.rows, ¬ IsFor b p)
    (h : (charge e (chargeRequest input b) w).1 = .ok c) :
    (c.status = .SUCCEEDED → (charge e (chargeRequest input b) w).2.PaidByKey b) ∧
      (c.status ≠ .SUCCEEDED → ¬ (charge e (chargeRequest input b) w).2.Paid b) := by
  obtain ⟨p, hrows, -, hk, hst⟩ := charge_first (q := chargeRequest input b) hn rfl hp h
  constructor
  · intro hs
    exact ⟨p, by rw [hrows]; exact List.mem_append_right _ (List.mem_singleton_self p), hk,
      hst.trans hs⟩
  · rintro hs ⟨q, hq, hf, hqs⟩
    rw [hrows, List.mem_append, List.mem_singleton] at hq
    rcases hq with hq | rfl
    · exact hp q hq hf
    · exact hs (hst.symm.trans hqs)

theorem released_status {b : String} {w : World} {r : Booking}
    (h : (releaseBooking b "PAYMENT_FAILED" w).1 = .ok r) :
    (releaseBooking b "PAYMENT_FAILED" w).2.status b = some .FAILED := by
  rcases (releaseBooking_effect b "PAYMENT_FAILED" w).2 with
    ⟨err, he, -⟩ | ⟨r', target, -, ht, ⟨b', hb'⟩, hbk⟩
  · rw [he] at h; cases h
  · obtain rfl : .FAILED = target := Option.some.inj ht
    rw [World.status, hbk]
    exact status_setStatus _ hb'

/-- The moves of the saga. -/
theorem ConfirmMove.saga {pc pc' : ConfirmPc} (hm : ConfirmMove env sh 0 input e pc sh' pc')
    (h : SagaAssertion sh input pc) : SagaAssertion sh' input pc' := by
  cases hm with
  | reject err | holdFailed err =>
    show Truthful input none (sh.issuedBy 0)
    rw [h]
    exact truthful_nil _
  | @holdThrew err o hf ho =>
    rw [SagaAssertion, issuedBy_withWorld, h]
    exact truthful_nil _
  | hold hf hb =>
    obtain ⟨hn, hp⟩ := createHold_fresh hf hb
    exact ⟨hn, hp, (issuedBy_withWorld _ 0).trans h⟩
  | @chargeThrew b _ err hmay =>
    show Truthful input (some b) (sh'.issuedBy 0)
    rw [hmay.issuedBy, h.2.2]
    exact truthful_nil _
  | charged hc hs =>
    obtain ⟨hn, hp, hm⟩ := h
    have hpaid := (charge_fresh hn hp hc).1 hs
    exact ⟨hpaid, (issuedBy_withWorld _ 0).trans hm⟩
  | @declined b c hc hs =>
    obtain ⟨hn, hp, hm⟩ := h
    have hunpaid := (charge_fresh hn hp hc).2 hs
    exact ⟨hunpaid, (issuedBy_withWorld _ 0).trans hm⟩
  | @confirmThrew b _ _ err hmay =>
    show Truthful input (some b) (sh'.issuedBy 0)
    rw [hmay.issuedBy, h.2]
    exact truthful_nil _
  | @confirmed b c cb hcb =>
    obtain ⟨-, ⟨r, -, hst⟩ | ⟨err, he⟩⟩ := confirmBooking_effect b.id sh.world
    · exact ⟨hst, h.1, (issuedBy_withWorld _ 0).trans h.2⟩
    · rw [he] at hcb; cases hcb
  | @publishConfirmed b cb c res hres =>
    obtain ⟨hst, hpaid, hm⟩ := h
    have hi : (publish sh 0 e.outcome (confirmedEvent input b.id c)).2.issuedBy 0 =
        [announced input b c] := issuedBy_publish_first _ hm hst
    cases res with
    | ok r => exact ⟨b, rfl, .inl ⟨hres r rfl, hst, hpaid, c, hi⟩⟩
    | error err => rw [SagaAssertion, hi]; exact truthful_announced b c
  | @releaseThrew b _ _ err hmay =>
    show Truthful input (some b) (sh'.issuedBy 0)
    rw [hmay.issuedBy, h.2]
    exact truthful_nil _
  | @released b c b' hr => exact ⟨released_status hr, h.1, (issuedBy_withWorld _ 0).trans h.2⟩
  | @publishFailedThrew b c err =>
    obtain ⟨hst, -, hm⟩ := h
    have hi : (publish sh 0 e.outcome (failedEvent input b.id c)).2.issuedBy 0 =
        [renounced input b c] := issuedBy_publish_first _ hm hst
    rw [SagaAssertion, hi]
    exact truthful_renounced b c
  | @publishFailed b c r hr =>
    obtain ⟨hst, hpaid, hm⟩ := h
    exact ⟨b, rfl, .inr ⟨hr, hst, hpaid, c, issuedBy_publish_first _ hm hst⟩⟩
  | compensate => exact h

theorem ConfirmMove.issuedBy_other {pc pc' : ConfirmPc}
    (hm : ConfirmMove env sh i input e pc sh' pc') {j : Nat} (hij : i ≠ j) :
    sh'.issuedBy j = sh.issuedBy j := by
  cases hm with
  | reject _ | holdFailed _ => rfl
  | holdThrew _ _ | hold _ _ | charged _ _ | declined _ _ | confirmed _ | released _ | compensate =>
    exact issuedBy_withWorld _ j
  | chargeThrew _ h | confirmThrew _ h | releaseThrew _ h => exact h.issuedBy j
  | publishConfirmed _ _ | publishFailedThrew _ | publishFailed _ =>
    exact issuedBy_publish_ne hij _ _

theorem CancelMove.issuedBy_other {b : String} {paymentId : Option String} {pc pc' : CancelPc}
    (hm : CancelMove sh i b paymentId e pc sh' pc') {j : Nat} (hij : i ≠ j) :
    sh'.issuedBy j = sh.issuedBy j := by
  cases hm with
  | enter _ => rfl
  | refund | release _ => exact issuedBy_withWorld _ j
  | publish _ => exact issuedBy_publish_ne hij _ _

end

/-! ## Runs -/

/-- Call 0 is a saga yet to begin, beside any other calls. -/
structure BeforeSaga (input : ConfirmBookingInput) (s : Pool Shared Call) : Prop where
  saga : s.procs[0]? = some (.confirmBooking input .start)
  issued : s.shared.issued = []

def sagaRuns (env : Env) (input : ConfirmBookingInput) :
    LTS (Pool Shared Call) (Pool.Event StepIn Op) :=
  Pool.system (orchestrator env) (BeforeSaga input)

/-- A step that is not one of call 0 leaves the booking of call 0 alone. -/
def Undisturbed (env : Env) (s : Pool Shared Call) (ev : Pool.Event StepIn Op) : Prop :=
  (∃ e, ev = .proc 0 e) ∨ ∀ input pc b s', s.procs[0]? = some (.confirmBooking input pc) →
    pc.hold = some b → Pool.step (orchestrator env) s ev = some s' →
    SameFor b.id s.shared.world s'.shared.world

def ReplyAssertion (input : ConfirmBookingInput) (sh : Shared) (i : Nat) (p : Call) : Prop :=
  i = 0 → ∃ pc, p = .confirmBooking input pc ∧ SagaAssertion sh input pc

theorem replyOutline (env : Env) (input : ConfirmBookingInput) :
    Pool.Outline (orchestrator env) (Undisturbed env) (fun _ => True) (ReplyAssertion input) where
  env s op sh h ho he := by
    refine ⟨trivial, fun i p hp hi => ?_⟩
    subst hi
    obtain ⟨pc, rfl, hpc⟩ := h.2 0 p hp rfl
    refine ⟨pc, rfl, hpc.same (fun b hb => ?_) ?_⟩
    · rcases ho with ⟨e, he'⟩ | ho
      · cases he'
      · exact ho input pc b ⟨sh, s.procs⟩ hp hb (by rw [Pool.step, he]; rfl)
    · cases he; rfl
  own s i p e sh p' h _ hp ha := by
    refine ⟨trivial, fun hi => ?_⟩
    subst hi
    obtain ⟨pc, rfl, hpc⟩ := h.2 0 p hp rfl
    obtain ⟨pc', rfl, hm⟩ := act_confirmBooking ha
    exact ⟨pc', rfl, hm.saga hpc⟩
  other s i p e sh p' j q h ho hp ha hji hq hj := by
    subst hj
    obtain ⟨pc, rfl, hpc⟩ := h.2 0 q hq rfl
    refine ⟨pc, rfl, hpc.same (fun b hb => ?_) ?_⟩
    · rcases ho with ⟨e', he'⟩ | ho
      · cases he'; exact absurd rfl hji
      · exact ho input pc b ⟨sh, s.procs.set i p'⟩
          hq hb (by rw [Pool.step, hp, Option.bind_some, ha]; rfl)
    · cases p with
      | confirmBooking input' pc' =>
        obtain ⟨_, -, hm⟩ := act_confirmBooking ha; exact hm.issuedBy_other hji.symm
      | cancelBooking b' p pc' =>
        obtain ⟨_, -, hm⟩ := act_cancelBooking ha; exact hm.issuedBy_other hji.symm

/-- The reply of call 0, the events it published and the stores. -/
structure Reported (input : ConfirmBookingInput) (sh : Shared) (pc : ConfirmPc) : Prop where
  success : ∀ o r, pc = .done o (.ok r) → r.success = true → ∃ b, o = some b ∧ Succeeded sh input b
  failure : ∀ o r, pc = .done o (.ok r) → r.success = false → ∃ b, o = some b ∧ Failed sh input b
  truthful : Truthful input pc.hold (sh.issuedBy 0)

theorem reported_of_assertion {input : ConfirmBookingInput} {sh : Shared} {pc : ConfirmPc}
    (h : SagaAssertion sh input pc) : Reported input sh pc := by
  refine ⟨fun o r hpc hr => ?_, fun o r hpc hr => ?_, ?_⟩
  · subst hpc
    obtain ⟨b, ho, ⟨-, hok⟩ | ⟨hf, -⟩⟩ := h
    · exact ⟨b, ho, hok⟩
    · rw [hr] at hf; cases hf
  · subst hpc
    obtain ⟨b, ho, ⟨hs, -⟩ | ⟨-, hf⟩⟩ := h
    · rw [hr] at hs; cases hs
    · exact ⟨b, ho, hf⟩
  · cases pc with
    | start => rw [h]; exact truthful_nil _
    | charging b => rw [h.2.2]; exact truthful_nil _
    | confirming b c => rw [h.2]; exact truthful_nil _
    | publishingConfirmed b cb c => rw [h.2.2]; exact truthful_nil _
    | releasing b c => rw [h.2]; exact truthful_nil _
    | publishingFailed b c => rw [h.2.2]; exact truthful_nil _
    | compensating b err => exact h
    | done o res =>
      cases res with
      | error err => exact h
      | ok r =>
        obtain ⟨b, rfl, ⟨-, hok⟩ | ⟨-, hok⟩⟩ := h <;> obtain ⟨c, hc⟩ := hok.issued <;> rw [hc]
        · exact truthful_announced b c
        · exact truthful_renounced b c

/-- **Reply, event and stores agree.** -/
theorem saga_reported {env : Env} {input : ConfirmBookingInput} {s : Pool Shared Call}
    (h : (sagaRuns env input).Reach (Undisturbed env) s) :
    ∃ pc, s.procs[0]? = some (.confirmBooking input pc) ∧ Reported input s.shared pc := by
  have h0 : ∃ p, s.procs[0]? = some p := by
    refine h.invariant (I := fun s => ∃ p, s.procs[0]? = some p)
      (fun s (hi : BeforeSaga input s) => ⟨_, hi.saga⟩) fun s ev s' _ hp _ hst => ?_
    cases ev with
    | env op => obtain ⟨sh, -, rfl⟩ := Pool.step_env hst; exact hp
    | proc i e =>
      obtain ⟨p, sh, p', -, -, rfl⟩ := Pool.step_proc hst
      obtain ⟨q, hq⟩ := hp
      by_cases hi : i = 0
      · exact ⟨p', by rw [hi]; exact Pool.getElem?_set_self_of hq⟩
      · exact ⟨q, by rw [List.getElem?_set_ne hi]; exact hq⟩
  obtain ⟨p, hp⟩ := h0
  have hI := Pool.invariant (replyOutline env input) (fun s hi => ⟨trivial, fun i q hq h0 => ?_⟩) h
  · obtain ⟨pc, rfl, hpc⟩ := hI.2 0 p hp rfl
    exact ⟨pc, hp, reported_of_assertion hpc⟩
  · subst h0
    rw [hi.saga] at hq
    cases hq
    refine ⟨.start, rfl, ?_⟩
    simp [SagaAssertion, Shared.issuedBy, hi.issued]

/-- A call that runs alone is not disturbed. -/
theorem undisturbed_alone (env : Env) (s : Pool Shared Call) (es : List StepIn) :
    LTS.AllOk (Pool.step (orchestrator env)) (Undisturbed env) s (es.map (Pool.Event.proc 0)) := by
  refine LTS.allOk_of_mem _ s fun ev hev _ => ?_
  obtain ⟨e, -, rfl⟩ := List.mem_map.mp hev
  exact .inl ⟨e, rfl⟩

def defaultEnv : Env := ⟨5, 5000, .texts⟩

/-- The ids are uuids. -/
def uuidEnv : Env := ⟨5, 5000, .uuid⟩

def annsInput : ConfirmBookingInput :=
  ⟨.string "t1", .string "s1", "ann", .ofInt 1, .ofInt 3, .ofInt 450, .undefined⟩

def emptyWorld : World := ⟨Table.empty, Leases.empty, PaymentTable.empty, 0⟩

/-- One saga, before its first step. -/
def annsSaga : Pool Shared Call :=
  ⟨⟨emptyWorld, []⟩, [.confirmBooking annsInput .start]⟩

/-- The state the steps of call 0 lead to. -/
def annsSagaAfter (es : List StepIn) : Pool Shared Call :=
  (LTS.execAll (Pool.step (orchestrator defaultEnv)) annsSaga (es.map (Pool.Event.proc 0))).getD
    annsSaga

theorem annsSaga_reach {es : List StepIn} (h : (LTS.execAll (Pool.step (orchestrator defaultEnv))
      annsSaga (es.map (Pool.Event.proc 0))).isSome = true) :
    (sagaRuns defaultEnv annsInput).Reach (Undisturbed defaultEnv) (annsSagaAfter es) := by
  obtain ⟨s, hs⟩ := Option.isSome_iff_exists.mp h
  rw [annsSagaAfter, hs]
  exact LTS.reach_of_execAll _ ⟨rfl, rfl⟩ (undisturbed_alone _ _ es) hs

/-- The saga to its end. -/
theorem saga_reported_ann :
    ∃ pc, (annsSagaAfter [{ rowId := "b1" }, { rowId := "p1" }, {}, {}]).procs[0]? =
        some (.confirmBooking annsInput pc) ∧
      Reported annsInput (annsSagaAfter [{ rowId := "b1" }, { rowId := "p1" }, {}, {}]).shared pc :=
  saga_reported (annsSaga_reach (by decide))

end RouteGo.Orchestrator
