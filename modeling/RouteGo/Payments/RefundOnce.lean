import RouteGo.Payments.Lifecycle

/-!
# One refund of a payment

`refund` checks the row it has looked up and then writes, whatever the row has
become. Two calls that both look up before either writes both return
(`exists_two_refunds`). In the runs in which the guard still holds when a call
writes, and in no others, a payment is refunded once (`refundedOnce_iff`).
-/

namespace RouteGo.Payments

open Js

/-- Call `i` is a refund that returned `p`. -/
def Refunded (s : Pool Shared Call) (i : Nat) (paymentId : String) (p : Payment) : Prop :=
  s.procs[i]? = some (.refund paymentId (.done (.ok p)))

/-- No two refunds of one payment have returned. -/
def RefundedOnce (s : Pool Shared Call) : Prop :=
  ∀ i j id id' p q, Refunded s i id p → Refunded s j id' q → trim id = trim id' → i = j

/-- A refund that writes finds the row as `guardRefund` wants it. -/
def GuardHolds (s : Pool Shared Call) : Pool.Event StepIn Empty → Prop
  | .env _ => True
  | .proc i e => match (s.procs[i]? : Option Call) with
    | some (.refund _ (.writing id)) =>
      e.fault = false → ∀ p, findById s.shared.payments id = some p → guardRefund p = .ok ()
    | _ => True

/-! ## What a refund knows -/

/-- It writes to the payment it was called for; what it refunded stays refunded. -/
def RefundAssertion (sh : Shared) : Call → Prop
  | .refund paymentId (.writing id) => id = trim paymentId
  | .refund paymentId (.done (.ok _)) =>
    ∃ p ∈ sh.payments.rows, p.id = trim paymentId ∧ p.status = .REFUNDED
  | _ => True

section
variable {sh sh' : Shared} {i : Nat} {p p' : Call} {e : StepIn}

theorem RefundAssertion.grows (h : RefundAssertion sh p) (hg : Grows sh.payments sh'.payments) :
    RefundAssertion sh' p := by
  unfold RefundAssertion at h ⊢
  split
  · exact h
  · obtain ⟨q, hq, hid, hs⟩ := h
    obtain ⟨q', hq', he⟩ := hg q hq
    refine ⟨q', hq', he.id.trans hid, ?_⟩
    rcases he.status with hst | ⟨hst, -⟩
    · exact hst.trans hs
    · rw [hs] at hst; cases hst
  · trivial

theorem act_refundAssertion (ha : service.act sh i p e = some (sh', p'))
    (h : RefundAssertion sh p) : RefundAssertion sh' p' := by
  cases p with
  | charge dto pc => obtain ⟨pc', rfl, -⟩ := act_charge ha; trivial
  | getPayment id pc => obtain ⟨-, res, rfl⟩ := act_getPayment ha; trivial
  | refund paymentId pc =>
    obtain ⟨pc', rfl, hm⟩ := act_refund ha
    cases hm with
    | reject err => trivial
    | find hp hs => exact Table.key_of_find hp
    | @write id q hq =>
      obtain rfl : id = trim paymentId := h
      exact ⟨q.withStatus .REFUNDED none, mem_setStatus.mpr (.inr ⟨q, Table.mem_of_find hq,
        Table.key_of_find hq, rfl⟩), Table.key_of_find hq, rfl⟩

/-- Only a step of a refund leads to a refund. -/
theorem act_refund_of {id : String} {pc' : RefundPc}
    (ha : service.act sh i p e = some (sh', .refund id pc')) :
    ∃ pc, p = .refund id pc ∧ RefundMove sh id pc sh' pc' := by
  cases p with
  | charge dto pc => obtain ⟨_, hp, -⟩ := act_charge ha; cases hp
  | getPayment id pc => obtain ⟨-, _, hp⟩ := act_getPayment ha; cases hp
  | refund paymentId pc =>
    obtain ⟨_, hp, hm⟩ := act_refund ha
    cases hp
    exact ⟨pc, rfl, hm⟩

/-- A call other than a refund that writes keeps the rows there are. -/
theorem act_rows (ha : service.act sh i p e = some (sh', p'))
    (hw : ∀ paymentId id, p = .refund paymentId (.writing id) → e.fault = true) :
    ∀ q ∈ sh.payments.rows, q ∈ sh'.payments.rows := by
  intro q hq
  cases p with
  | charge dto pc =>
    obtain ⟨pc', rfl, hm⟩ := act_charge ha
    cases hm with
    | create id hc =>
      obtain ⟨-, hrows, -⟩ := createPayment_ok hc
      show q ∈ PaymentTable.rows _
      rw [Shared.settle, hrows]
      exact List.mem_append_left _ hq
    | _ => exact hq
  | getPayment id pc => obtain ⟨rfl, -⟩ := act_getPayment ha; exact hq
  | refund paymentId pc =>
    cases pc with
    | writing id =>
      have hf := hw paymentId id rfl
      simp only [service, refundStep, hf, if_true, Option.map_some, Option.some.injEq,
        Prod.mk.injEq] at ha
      rw [← ha.1]
      exact hq
    | start | done _ =>
      obtain ⟨pc', rfl, hm⟩ := act_refund ha
      cases hm <;> exact hq

end

theorem refundOutline : Pool.Outline service LTS.always (fun sh => RowsOk sh.payments)
    (fun sh i p => CallAssertion sh i p ∧ RefundAssertion sh p) where
  env _ e := e.elim
  own s i p e sh p' h _ hp ha := by
    obtain ⟨hc, hr⟩ := h.2 i p hp
    have hadv := act_advances ha h.1 hc
    exact ⟨hadv.rows, hadv.call, act_refundAssertion ha hr⟩
  other s i p e sh p' j q h _ hp ha _ hq := by
    have hg := (act_advances ha h.1 (h.2 i p hp).1).grows
    exact ⟨(h.2 j q hq).1.grows hg, (h.2 j q hq).2.grows hg⟩

theorem refundAssertion_reach {s : Pool Shared Call} (h : paymentCalls.Reachable s) {i : Nat}
    {p : Call} (hp : s.procs[i]? = some p) : RefundAssertion s.shared p := by
  refine (Pool.invariant refundOutline (fun s hi => ⟨hi.rows, fun i p hp => ?_⟩) h).2 i p hp |>.2
  have hf := hi.fresh p (List.mem_of_getElem? hp)
  cases p <;> cases hf <;> exact ⟨trivial, trivial⟩

/-! ## Guarded runs -/

/-- Not both have refunded the payment. -/
def NotBoth (p q : Call) : Prop := ∀ id id' r r', p = .refund id (.done (.ok r)) →
  q = .refund id' (.done (.ok r')) → trim id ≠ trim id'

theorem refundedOnce_of_guardHolds {s : Pool Shared Call} (h : paymentCalls.Reach GuardHolds s) :
    RefundedOnce s := by
  have hapart : Pool.Apart NotBoth s := by
    refine Pool.apart (fun p q hpq id id' r r' hp hq ht => hpq id' id r' r hq hp ht.symm)
      (fun s hi i j p q _ hp _ => ?_) (fun s i p e sh p' j q hr ho hp ha hji hq hpq => ?_) h
    · -- no call has begun
      rintro id id' r r' rfl - -
      exact absurd (hi.fresh _ (List.mem_of_getElem? hp)) (by simp [Call.Fresh])
    · rintro id id' r r' rfl rfl ht
      obtain ⟨pc, rfl, hm⟩ := act_refund_of ha
      have hwrites := refundAssertion_reach hr.reachable hp
      obtain ⟨x, hx, hxid, hxs⟩ := refundAssertion_reach hr.reachable hq
      cases hm with
      | @write y row hrow =>
        -- `j` left the row `REFUNDED`, and the guard of `i` holds of it
        obtain rfl : y = trim id := hwrites
        have hfault : e.fault = false := by
          by_contra hf
          rw [Bool.not_eq_false] at hf
          simp [service, refundStep, hf] at ha
        have hg := ho
        simp only [GuardHolds, hp] at hg
        have hok := guardRefund_ok (hg hfault row hrow)
        have hsame : x = row := PaymentTable.eq_of_id hx (Table.mem_of_find hrow)
          (hxid.trans (ht.symm.trans (Table.key_of_find hrow).symm))
        rw [hsame, hok] at hxs
        cases hxs
  intro i j id id' p q hi hj ht
  by_contra hij
  exact hapart i j _ _ hij hi hj id id' p q rfl rfl ht

/-! ## Unguarded steps -/

/-- The row a refund is about to write has succeeded, or another call has
refunded it since. -/
def Overtaken (s : Pool Shared Call) : Prop :=
  ∀ (i : Nat) paymentId id, s.procs[i]? = some (Call.refund paymentId (.writing id)) →
    ∀ q ∈ s.shared.payments.rows, q.id = id →
      q.status = .SUCCEEDED ∨ ∃ j id' r, Refunded s j id' r ∧ trim id' = id

/-- What a refund returned stays. -/
theorem refunded_step {s s' : Pool Shared Call} {ev : Pool.Event StepIn Empty} {j : Nat}
    {id : String} {r : Payment} (h : Refunded s j id r) (hst : Pool.step service s ev = some s') :
    Refunded s' j id r := by
  cases ev with
  | env e => exact e.elim
  | proc i e =>
    obtain ⟨p, sh, p', hp, ha, rfl⟩ := Pool.step_proc hst
    by_cases hij : i = j
    · subst hij
      rw [Refunded, hp] at h
      cases h
      simp [service, refundStep] at ha
    · show (s.procs.set i p')[j]? = _
      rw [List.getElem?_set_ne hij]
      exact h

theorem overtaken_reach {s : Pool Shared Call} (h : paymentCalls.Reachable s) : Overtaken s := by
  refine h.invariant (I := Overtaken) (fun s (hi : Idle s) => ?_) fun s ev s' hr hI _ hst => ?_
  · intro i paymentId id hp
    exact absurd (hi.fresh _ (List.mem_of_getElem? hp)) (by simp [Call.Fresh])
  · have hkeep : ∀ id, (∃ j id' r, Refunded s j id' r ∧ trim id' = id) →
        ∃ j id' r, Refunded s' j id' r ∧ trim id' = id := by
      rintro id ⟨j, id', r, hj, ht⟩
      exact ⟨j, id', r, refunded_step hj hst, ht⟩
    cases ev with
    | env e => exact e.elim
    | proc k e =>
      obtain ⟨p, sh, p', hp, ha, rfl⟩ := Pool.step_proc hst
      intro i paymentId id hi q hq hqid
      rcases Pool.getElem?_set_cases hi with ⟨rfl, rfl⟩ | ⟨hik, hiw⟩
      · -- `i` has just looked the row up
        obtain ⟨pc, rfl, hm⟩ := act_refund_of ha
        cases hm with
        | find hrow hs =>
          left
          rw [PaymentTable.eq_of_id hq (Table.mem_of_find hrow) hqid]
          exact hs
      · obtain ⟨row, hrow, hrid, -⟩ := (holds_reach hr).2 i _ hiw
        by_cases hw : ∃ paymentId' y, p = Call.refund paymentId' (.writing y) ∧ e.fault = false
        · obtain ⟨paymentId', y, rfl, hf⟩ := hw
          have hy : y = trim paymentId' := refundAssertion_reach hr hp
          obtain ⟨pc', rfl, hm⟩ := act_refund ha
          cases hm with
          | reject err => exact (hI i paymentId id hiw q hq hqid).imp_right (hkeep id)
          | write hrow' =>
            rcases mem_setStatus.mp hq with ⟨hq, -⟩ | ⟨x, -, hxy, rfl⟩
            · exact (hI i paymentId id hiw q hq hqid).imp_right (hkeep id)
            · -- `k` has refunded this very row
              refine .inr ⟨k, paymentId', _, Pool.getElem?_set_self_of hp, ?_⟩
              rw [← hy, ← hxy]
              exact hqid
        · have hsub := act_rows ha fun paymentId' y hpe => by
            by_contra hf
            exact hw ⟨paymentId', y, hpe, by simpa using hf⟩
          have hsame : q = row := PaymentTable.eq_of_id hq (hsub row hrow) (hqid.trans hrid.symm)
          subst hsame
          exact (hI i paymentId id hiw q hrow hrid).imp_right (hkeep id)

/-- The row was overtaken: two calls have refunded the payment. -/
theorem not_refundedOnce_of_unguarded {s s' : Pool Shared Call} {ev : Pool.Event StepIn Empty}
    (h : paymentCalls.Reachable s) (hg : ¬ GuardHolds s ev)
    (hst : Pool.step service s ev = some s') : ¬ RefundedOnce s' := by
  cases ev with
  | env e => exact e.elim
  | proc i e =>
    obtain ⟨p, sh, p', hp, ha, rfl⟩ := Pool.step_proc hst
    simp only [GuardHolds, hp] at hg
    split at hg
    · next paymentId id hpe =>
      obtain rfl := Option.some.inj hpe
      simp only [not_forall] at hg
      obtain ⟨hf, row, hrow, hbad⟩ := hg
      have hs : row.status ≠ .SUCCEEDED := fun hs => hbad (by simp [guardRefund, hs])
      have hid : id = trim paymentId := refundAssertion_reach h hp
      rcases overtaken_reach h i paymentId id hp row (Table.mem_of_find hrow)
        (Table.key_of_find hrow)
        with hok | ⟨j, id', r, hj, ht⟩
      · exact absurd hok hs
      · -- `j` has returned, and `i` returns now
        simp only [service, refundStep, hf, Bool.false_eq_true, if_false,
          updateStatus_of_find .REFUNDED none hrow, Option.map_some, Option.some.injEq,
          Prod.mk.injEq] at ha
        obtain ⟨rfl, rfl⟩ := ha
        have hij : i ≠ j := by
          rintro rfl
          rw [Refunded, hp] at hj
          cases hj
        intro honce
        exact hij (honce i j paymentId id' _ r (Pool.getElem?_set_self_of hp) (refunded_step hj hst)
          (by rw [ht, hid]))
    · exact absurd trivial hg

/-- Two refunds that have returned stay. -/
theorem not_refundedOnce_step {s s' : Pool Shared Call} {ev : Pool.Event StepIn Empty}
    (h : ¬ RefundedOnce s) (hst : Pool.step service s ev = some s') : ¬ RefundedOnce s' :=
  fun honce => h fun i j id id' p q hi hj ht =>
    honce i j id id' p q (refunded_step hi hst) (refunded_step hj hst) ht

/-- **A payment is refunded once** in exactly the runs in which the guard of a
refund still holds when it writes. -/
theorem refundedOnce_iff {s s' : Pool Shared Call} {es : List (Pool.Event StepIn Empty)}
    (hi : Idle s) (h : LTS.execAll (Pool.step service) s es = some s') :
    RefundedOnce s' ↔ LTS.AllOk (Pool.step service) GuardHolds s es := by
  have hs : paymentCalls.Reachable s := .of_init hi
  constructor
  · intro honce
    refine LTS.allOk_of_execAll (Q := fun s => ¬ RefundedOnce s) ?_ ?_ hs h (not_not.mpr honce)
    · exact fun s e s' hr ho hst => not_refundedOnce_of_unguarded hr ho hst
    · exact fun s e s' hn hst => not_refundedOnce_step hn hst
  · intro hok
    exact refundedOnce_of_guardHolds (LTS.reach_of_execAll es hi hok h)

/-- The second refund comes when the first has written. -/
theorem refundedOnce_iff_inTurn : RefundedOnce (fourCallsAfter [.proc 0 {}, .proc 0 {},
    .proc 0 { rowId := "p1" }, .proc 2 {}, .proc 2 {}, .proc 3 {}]) := by
  have h : LTS.execAll (Pool.step service) fourCalls [.proc 0 {}, .proc 0 {},
      .proc 0 { rowId := "p1" }, .proc 2 {}, .proc 2 {}, .proc 3 {}] = some _ := rfl
  refine (refundedOnce_iff fourCalls_idle h).mpr
    ⟨trivial, trivial, trivial, trivial, fun _ p hp => ?_, trivial, trivial⟩
  cases hp
  rfl

/-- **Two refunds of one payment**: both look it up before either writes. -/
theorem exists_two_refunds : ∃ s, paymentCalls.Reachable s ∧ ¬ RefundedOnce s := by
  refine ⟨fourCallsAfter [.proc 0 {}, .proc 0 {}, .proc 0 { rowId := "p1" }, .proc 2 {}, .proc 3 {},
    .proc 2 {}, .proc 3 {}], LTS.reachable_of_execAll [.proc 0 {}, .proc 0 {},
      .proc 0 { rowId := "p1" }, .proc 2 {}, .proc 3 {}, .proc 2 {}, .proc 3 {}] fourCalls_idle rfl,
    fun h => ?_⟩
  exact absurd (h 2 3 "p1" "p1" _ _ rfl rfl rfl) (by decide)

end RouteGo.Payments
