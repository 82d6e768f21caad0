import RouteGo.Payments.Concurrent

/-!
# The life of a payment row

`Grows`: from one table to a later one every row is still there, and all it may
have done is go from `SUCCEEDED` to `REFUNDED`. Every step of every call takes
the table along `Grows`, which is a preorder, so every run does (`lifecycle`).
What a call has read stays true along `Grows`: a stale read is harmless.
-/

namespace RouteGo.Payments

open Js

/-- What may become of a row. -/
structure Evolves (p p' : Payment) : Prop where
  id : p'.id = p.id
  bookingId : p'.bookingId = p.bookingId
  userId : p'.userId = p.userId
  amount : p'.amount = p.amount
  currency : p'.currency = p.currency
  idempotencyKey : p'.idempotencyKey = p.idempotencyKey
  status : p'.status = p.status ∨ (p.status = .SUCCEEDED ∧ p'.status = .REFUNDED)

theorem Evolves.refl (p : Payment) : Evolves p p := ⟨rfl, rfl, rfl, rfl, rfl, rfl, .inl rfl⟩

theorem Evolves.trans {p q r : Payment} (h : Evolves p q) (h' : Evolves q r) : Evolves p r where
  id := h'.id.trans h.id
  bookingId := h'.bookingId.trans h.bookingId
  userId := h'.userId.trans h.userId
  amount := h'.amount.trans h.amount
  currency := h'.currency.trans h.currency
  idempotencyKey := h'.idempotencyKey.trans h.idempotencyKey
  status := by
    rcases h.status with hs | ⟨hs, hr⟩ <;> rcases h'.status with hs' | ⟨hs', hr'⟩
    · exact .inl (hs'.trans hs)
    · exact .inr ⟨hs ▸ hs', hr'⟩
    · exact .inr ⟨hs, hs'.trans hr⟩
    · rw [hr] at hs'; cases hs'

def Grows (t t' : PaymentTable) : Prop := ∀ p ∈ t.rows, ∃ p' ∈ t'.rows, Evolves p p'

theorem Grows.refl (t : PaymentTable) : Grows t t := fun p hp => ⟨p, hp, .refl p⟩

theorem Grows.trans {t t' t'' : PaymentTable} (h : Grows t t') (h' : Grows t' t'') :
    Grows t t'' := by
  intro p hp
  obtain ⟨q, hq, hpq⟩ := h p hp
  obtain ⟨r, hr, hqr⟩ := h' q hq
  exact ⟨r, hr, hpq.trans hqr⟩

theorem Grows.of_append {t t' : PaymentTable} {p : Payment} (h : t'.rows = t.rows ++ [p]) :
    Grows t t' := by
  intro q hq
  exact ⟨q, by rw [h]; exact List.mem_append_left _ hq, .refl q⟩

/-- A row that had succeeded, or was refunded before, is refunded. -/
theorem Grows.refund {t : PaymentTable} {id : String}
    (h : ∀ p ∈ t.rows, p.id = id → p.status ≠ .FAILED) :
    Grows t (setStatus t id .REFUNDED none) := by
  intro q hq
  by_cases hid : q.id = id
  · refine ⟨q.withStatus .REFUNDED none, mem_setStatus.mpr (.inr ⟨q, hq, hid, rfl⟩),
      ⟨rfl, rfl, rfl, rfl, rfl, rfl, ?_⟩⟩
    have hs := h q hq hid
    cases hq' : q.status with
    | SUCCEEDED => exact .inr ⟨rfl, rfl⟩
    | FAILED => exact absurd hq' hs
    | REFUNDED => exact .inl rfl
  · exact ⟨q, mem_setStatus.mpr (.inl ⟨hq, hid⟩), .refl q⟩

/-- A reason goes with a failure, and with nothing else. -/
def Reasoned (s : PaymentStatus) (failureReason : Option String) : Prop :=
  failureReason ≠ none ↔ s = .FAILED

theorem reasoned_outcome (b : Bool) : Reasoned (outcomeStatus b) (outcomeReason b) := by
  cases b <;> simp [Reasoned, outcomeStatus, outcomeReason]

structure RowOk (p : Payment) : Prop where
  trimmed : trim p.idempotencyKey = p.idempotencyKey
  reason : Reasoned p.status p.failureReason

def RowsOk (t : PaymentTable) : Prop := ∀ p ∈ t.rows, RowOk p

theorem RowsOk.append {t t' : PaymentTable} {p : Payment} (h : RowsOk t)
    (hr : t'.rows = t.rows ++ [p]) (hp : RowOk p) : RowsOk t' := by
  intro q hq
  rw [hr, List.mem_append, List.mem_singleton] at hq
  rcases hq with hq | rfl
  · exact h q hq
  · exact hp

theorem RowsOk.refund {t : PaymentTable} {id : String} (h : RowsOk t)
    (hs : ∀ p ∈ t.rows, p.id = id → p.status ≠ .FAILED) :
    RowsOk (setStatus t id .REFUNDED none) := by
  intro q hq
  rcases mem_setStatus.mp hq with ⟨hq, -⟩ | ⟨p, hp, hid, rfl⟩
  · exact h q hq
  · obtain ⟨ht, hr⟩ := h p hp
    refine ⟨ht, ?_⟩
    have hn : p.failureReason = none := by
      by_contra hc
      exact hs p hp hid (hr.mp hc)
    simp [Reasoned, Payment.withStatus, hn]

/-! ## Assertions -/

/-- The payment a charge answered with. -/
def Answered (payments : PaymentTable) (dto : ChargeDto) (r : ChargeResult) : Prop :=
  ∃ p ∈ payments.rows, p.idempotencyKey = trim dto.idempotencyKey ∧ p.id = r.paymentId

def CallAssertion (sh : Shared) (_ : Nat) : Call → Prop
  | .charge dto pc => match pc with
    | .missed key => key = trim dto.idempotencyKey
    | .creating data =>
      data.idempotencyKey = trim dto.idempotencyKey ∧ Reasoned data.status data.failureReason
    | .done (.ok r) => Answered sh.payments dto r ∧ (r.success = true ↔ r.status = .SUCCEEDED)
    | _ => True
  | .refund _ pc => match pc with
    | .writing id => ∃ p ∈ sh.payments.rows, p.id = id ∧ p.status ≠ .FAILED
    | _ => True
  | .getPayment _ _ => True

section
variable {sh sh' : Shared} {i : Nat} {p : Call}

theorem Answered.grows {t t' : PaymentTable} {dto : ChargeDto} {r : ChargeResult}
    (h : Answered t dto r) (hg : Grows t t') : Answered t' dto r := by
  obtain ⟨p, hp, hk, hid⟩ := h
  obtain ⟨q, hq, he⟩ := hg p hp
  exact ⟨q, hq, he.idempotencyKey.trans hk, he.id.trans hid⟩

/-- What a call has read stays true while the table grows. -/
theorem CallAssertion.grows (h : CallAssertion sh i p) (hg : Grows sh.payments sh'.payments) :
    CallAssertion sh' i p := by
  cases p with
  | charge dto pc =>
    cases pc with
    | start | failed => trivial
    | missed key | creating data => exact h
    | done res =>
      cases res with
      | ok r => exact ⟨h.1.grows hg, h.2⟩
      | error e => trivial
  | refund id pc =>
    cases pc with
    | start | done => trivial
    | writing id =>
      obtain ⟨q, hq, hid, hs⟩ := h
      obtain ⟨q', hq', he⟩ := hg q hq
      refine ⟨q', hq', he.id.trans hid, ?_⟩
      rcases he.status with hst | ⟨-, hst⟩ <;> rw [hst]
      · exact hs
      · decide
  | getPayment id pc => trivial

/-- What is to be shown of a step. -/
structure Advances (sh sh' : Shared) (i : Nat) (p' : Call) : Prop where
  grows : Grows sh.payments sh'.payments
  rows : RowsOk sh'.payments
  call : CallAssertion sh' i p'

theorem Advances.of_same (hG : RowsOk sh.payments) (hp : sh'.payments = sh.payments)
    (hc : CallAssertion sh' i p) : Advances sh sh' i p :=
  ⟨by rw [hp]; exact .refl _, by rwa [hp], hc⟩

theorem ChargeMove.advances {dto : ChargeDto} {pc pc' : ChargePc}
    (hm : ChargeMove sh i dto pc sh' pc') (hG : RowsOk sh.payments)
    (hP : CallAssertion sh i (.charge dto pc)) : Advances sh sh' i (.charge dto pc') := by
  cases hm with
  | reject _ | failFind | failCreate | drawError _ _ | refuse _ _ _ => exact .of_same hG rfl trivial
  | replay hv hp hk =>
    refine .of_same hG rfl ⟨⟨_, hp, hk, rfl⟩, ?_⟩
    simp [replayResult]
  | miss hv hf => exact .of_same hG rfl rfl
  | draw b hd =>
    obtain ⟨-, -, -, -, hs, hk, hr⟩ := chargeData_ok hd
    refine .of_same hG rfl ⟨hk.trans hP, ?_⟩
    rw [hs, hr]
    exact reasoned_outcome b
  | @create data q payments id hc =>
    obtain ⟨hk, hr⟩ := hP
    obtain ⟨st, hrows, -⟩ := createPayment_ok hc
    have hkey : q.idempotencyKey = trim dto.idempotencyKey := st.idempotencyKey.trans hk
    refine ⟨.of_append hrows, hG.append hrows ⟨?_, ?_⟩, ⟨q, ?_, hkey, rfl⟩, ?_⟩
    · rw [hkey, trim_trim]
    · rw [st.status, st.failureReason]; exact hr
    · show q ∈ payments.rows
      rw [hrows]
      exact List.mem_append_right _ (List.mem_singleton_self q)
    · simp [createdResult, st.status]

theorem RefundMove.advances {id : String} {pc pc' : RefundPc} (hm : RefundMove sh id pc sh' pc')
    (hG : RowsOk sh.payments) (hP : CallAssertion sh i (.refund id pc)) :
    Advances sh sh' i (.refund id pc') := by
  cases hm with
  | reject err => exact .of_same hG rfl trivial
  | @find p hp hs =>
    have hne : p.status ≠ .FAILED := by rw [hs]; decide
    exact .of_same hG rfl ⟨p, Table.mem_of_find hp, rfl, hne⟩
  | @write id p hp =>
    obtain ⟨q, hq, hid, hs⟩ := hP
    have hw : ∀ x ∈ sh.payments.rows, x.id = id → x.status ≠ .FAILED := by
      intro x hx hxid
      rwa [PaymentTable.eq_of_id hx hq (hxid.trans hid.symm)]
    exact ⟨.refund hw, hG.refund hw, trivial⟩

/-- Every step of every call. -/
theorem act_advances {p' : Call} {e : StepIn} (ha : service.act sh i p e = some (sh', p'))
    (hG : RowsOk sh.payments) (hP : CallAssertion sh i p) : Advances sh sh' i p' := by
  cases p with
  | charge dto pc => obtain ⟨pc', rfl, hm⟩ := act_charge ha; exact hm.advances hG hP
  | refund id pc => obtain ⟨pc', rfl, hm⟩ := act_refund ha; exact hm.advances hG hP
  | getPayment id pc =>
    obtain ⟨rfl, res, rfl⟩ := act_getPayment ha
    exact .of_same hG rfl trivial

end

theorem lifecycleOutline :
    Pool.Outline service LTS.always (fun sh => RowsOk sh.payments) CallAssertion where
  env _ e := e.elim
  own s i p e sh p' h _ hp ha := by
    have hadv := act_advances ha h.1 (h.2 i p hp)
    exact ⟨hadv.rows, hadv.call⟩
  other s i p e sh p' j q h _ hp ha _ hq := by
    have hadv := act_advances ha h.1 (h.2 i p hp)
    exact (h.2 j q hq).grows hadv.grows

/-! ## Runs -/

def Call.Fresh : Call → Prop
  | .charge _ pc => pc = .start
  | .refund _ pc => pc = .start
  | .getPayment _ pc => pc = .start

/-- Any calls, none begun, on any table of well-formed rows. -/
structure Idle (s : Pool Shared Call) : Prop where
  rows : RowsOk s.shared.payments
  fresh : ∀ p ∈ s.procs, p.Fresh

def paymentCalls : LTS (Pool Shared Call) (Pool.Event StepIn Empty) := Pool.system service Idle

theorem holds_reach {s : Pool Shared Call} (h : paymentCalls.Reachable s) :
    Pool.Holds (fun sh => RowsOk sh.payments) CallAssertion s := by
  refine Pool.invariant lifecycleOutline (fun s hi => ⟨hi.rows, fun i p hp => ?_⟩) h
  have hf := hi.fresh p (List.mem_of_getElem? hp)
  cases p with
  | charge dto pc => cases hf; trivial
  | refund id pc => cases hf; trivial
  | getPayment id pc => trivial

/-- The table of a state and of any later one. -/
theorem grows_run {s s' : Pool Shared Call} (h : paymentCalls.Reachable s)
    (hr : paymentCalls.Run LTS.always s s') : Grows s.shared.payments s'.shared.payments := by
  have htrans : ∀ a b c : Pool Shared Call, Grows a.shared.payments b.shared.payments →
      Grows b.shared.payments c.shared.payments → Grows a.shared.payments c.shared.payments :=
    fun _ _ _ => Grows.trans
  refine LTS.Run.preorder (R := fun s s' => Grows s.shared.payments s'.shared.payments)
    (fun _ => .refl _) htrans h (fun s e s' hs _ hst => ?_) hr
  cases e with
  | env e => exact e.elim
  | proc i e =>
    obtain ⟨p, sh, p', hp, ha, rfl⟩ := Pool.step_proc hst
    have hI := holds_reach hs
    exact (act_advances ha hI.1 (hI.2 i p hp)).grows

/-- Call `i` is a charge that returned `r`. -/
def Returned (s : Pool Shared Call) (i : Nat) (dto : ChargeDto) (r : ChargeResult) : Prop :=
  s.procs[i]? = some (.charge dto (.done (.ok r)))

/-- The rows of `s'`, those of an earlier state `s`, and the charges that have
returned. -/
structure Lifecycle (s s' : Pool Shared Call) : Prop where
  keys : s'.shared.payments.table.Distinct Payment.idempotencyKey
  trimmed : ∀ p ∈ s'.shared.payments.rows, trim p.idempotencyKey = p.idempotencyKey
  reason : ∀ p ∈ s'.shared.payments.rows, p.failureReason ≠ none ↔ p.status = .FAILED
  rows : ∀ p ∈ s.shared.payments.rows, ∃ p' ∈ s'.shared.payments.rows, Evolves p p'
  samePayment : ∀ i j dto dto' r r', Returned s' i dto r → Returned s' j dto' r' →
    trim dto.idempotencyKey = trim dto'.idempotencyKey → r.paymentId = r'.paymentId
  success : ∀ i dto r, Returned s' i dto r → (r.success = true ↔ r.status = .SUCCEEDED)

/-- **The life of a payment row.** -/
theorem lifecycle {s s' : Pool Shared Call} (h : paymentCalls.Reachable s)
    (hr : paymentCalls.Run LTS.always s s') : Lifecycle s s' := by
  obtain ⟨hG, hP⟩ := holds_reach (h.run hr)
  refine ⟨s'.shared.payments.keys, fun p hp => (hG p hp).trimmed, fun p hp => (hG p hp).reason,
    grows_run h hr, fun i j dto dto' r r' hi hj hk => ?_, fun i dto r hi => (hP i _ hi).2⟩
  obtain ⟨p, hp, hkp, hidp⟩ := (hP i _ hi).1
  obtain ⟨q, hq, hkq, hidq⟩ := (hP j _ hj).1
  have hpq : p = q := PaymentTable.eq_of_key hp hq (by rw [hkp, hk, hkq])
  rw [← hidp, hpq, hidq]

/-- A charge, its retry and two refunds. -/
def fourCalls : Pool Shared Call where
  shared := ⟨PaymentTable.empty, [], []⟩
  procs := [.charge ⟨"b1", "ann", .ofInt 450, none, "key"⟩ .start,
    .charge ⟨"b1", "ann", .ofInt 450, none, " key "⟩ .start, .refund "p1" .start,
    .refund "p1" .start]

theorem fourCalls_idle : Idle fourCalls := by
  refine ⟨fun p hp => absurd hp List.not_mem_nil, fun p hp => ?_⟩
  simp only [fourCalls, List.mem_cons, List.not_mem_nil, or_false] at hp
  rcases hp with rfl | rfl | rfl | rfl <;> rfl

/-- The state a list of events leads to from `fourCalls`. -/
def fourCallsAfter (es : List (Pool.Event StepIn Empty)) : Pool Shared Call :=
  (LTS.execAll (Pool.step service) fourCalls es).getD fourCalls

/-- Both refunds find the payment `SUCCEEDED`, and both mark it. -/
theorem lifecycle_refunds : Lifecycle
    (fourCallsAfter [.proc 0 {}, .proc 0 {}, .proc 0 { rowId := "p1" }])
    (fourCallsAfter [.proc 0 {}, .proc 0 {}, .proc 0 { rowId := "p1" }, .proc 1 {}, .proc 2 {},
      .proc 3 {}, .proc 2 {}, .proc 3 {}]) := by
  refine lifecycle ?_ ?_
  · exact LTS.reachable_of_execAll [.proc 0 {}, .proc 0 {}, .proc 0 { rowId := "p1" }]
      fourCalls_idle rfl
  · exact LTS.run_of_execAll (LTS.allOk_always _ _ [.proc 1 {}, .proc 2 {}, .proc 3 {}, .proc 2 {},
      .proc 3 {}]) rfl

end RouteGo.Payments
