import Mathlib.Data.List.Pairwise
import RouteGo.Lib.Atomic
import RouteGo.Payments.RefundOnce

/-!
# Payments one after another

The calls of `PaymentService` against `charge`, `refund` and `getPayment` run each in
one step. A charge has its moment when it stores its row, finds the row of its key or
is refused; a refund when it writes. Two refunds of one payment are all that can come
between the interleaved calls and the calls in order: an interleaving is as good as
some order of them exactly when it refunds no payment twice (`serial_iff_refundedOnce`).
-/

namespace RouteGo.Payments

open Js

/-- A call as it is asked, with what it takes from outside. -/
inductive Op where
  | charge (id : String) (isSuccess : Bool) (dto : ChargeDto)
  | refund (paymentId : String)
  | getPayment (paymentId : String)

inductive Res where
  | charge (r : Result ChargeResult)
  | refund (r : Result Payment)
  | getPayment (r : Result Payment)

/-- The service with every call in one step. -/
def atOnce : Object PaymentTable Op Res := fun payments => fun
  | .charge id isSuccess dto =>
    some (.charge (charge ⟨id, isSuccess, false, false⟩ payments dto).1,
      (charge ⟨id, isSuccess, false, false⟩ payments dto).2)
  | .refund paymentId => some (.refund (refund payments paymentId).1, (refund payments paymentId).2)
  | .getPayment paymentId => some (.getPayment (getPayment payments paymentId), payments)

/-- The result is an error of the database. -/
def Res.DatabaseError : Res → Prop
  | .charge r => r = .error prismaError ∨ r = .error uniqueError
  | .refund r => r = .error prismaError
  | .getPayment r => r = .error prismaError

def Call.Asks : Call → Op → Prop
  | .charge dto _, .charge _ _ dto' => dto = dto'
  | .refund paymentId _, .refund paymentId' => paymentId = paymentId'
  | .getPayment paymentId _, .getPayment paymentId' => paymentId = paymentId'
  | _, _ => False

/-- The call has ended, or it will with this error: the amount of a charge that has
missed its key is no number, whatever the gateway draws. -/
def Call.Ends : Call → Res → Prop
  | .charge dto pc, .charge r => pc = .done r ∨ ∃ key e, pc = .missed key ∧ r = .error e ∧
      ∀ b, chargeData dto key b = .error e
  | .refund _ pc, .refund r => pc = .done r
  | .getPayment _ pc, .getPayment r => pc = .done r
  | _, _ => False

def paymentView : Pool.View Shared Call PaymentTable Op Res where
  abs sh := sh.payments
  Did p o r := p.Asks o ∧ p.Ends r
  Owes p := ∃ r, p.Ends r ∧ ¬ r.DatabaseError

/-- The calls of `ws`, one after another, explain the state. -/
abbrev Serial (start : PaymentTable) (s : Pool Shared Call)
    (ws : List (Pool.Entry Op Res)) : Prop :=
  Pool.Linear paymentView atOnce start s ws

/-! ## Calls in one step -/

section
variable {payments payments' : PaymentTable} {dto : ChargeDto} {x : ChargeInputs} {key : String}
  {p : Payment} {e : AppError} {data : PaymentCreateInput}

theorem charge_of_invalid (h : validateCharge dto = .error e) :
    charge x payments dto = (.error e, payments) := by
  simp only [charge, h]

theorem charge_of_existing (hv : validateCharge dto = .ok key) (hf : x.findFails = false)
    (hp : findByIdempotencyKey payments key = some p) :
    charge x payments dto = (.ok (replayResult p), payments) := by
  simp only [charge, hv, hf, Bool.false_eq_true, if_false, hp]

theorem charge_of_badAmount (hv : validateCharge dto = .ok key) (hf : x.findFails = false)
    (hp : findByIdempotencyKey payments key = none)
    (hd : chargeData dto key x.isSuccess = .error e) :
    charge x payments dto = (.error e, payments) := by
  simp only [charge, hv, hf, Bool.false_eq_true, if_false, hp, hd]

theorem charge_of_create (hv : validateCharge dto = .ok key) (hf : x.findFails = false)
    (hc : x.createFails = false) (hd : chargeData dto key x.isSuccess = .ok data)
    (hr : createPayment payments x.id data = .ok (p, payments')) :
    charge x payments dto = (.ok (createdResult data.status p), payments') := by
  have hkey : data.idempotencyKey = key := (chargeData_ok hd).2.2.2.2.2.1
  have hp : findByIdempotencyKey payments key = none := hkey ▸ (createPayment_ok hr).2.2
  simp only [charge, hv, hf, hc, Bool.false_eq_true, if_false, hp, hd, hr]

/-- The amount alone decides whether there are data to store. -/
theorem chargeData_error (b b' : Bool) (h : chargeData dto key b = .error e) :
    chargeData dto key b' = .error e := by
  unfold chargeData at h ⊢
  split
  · next hn => simpa [hn] using h
  · next hn => simp [hn] at h

theorem grows_atOnce {o : Op} {r : Res} (h : atOnce payments o = some (r, payments')) :
    Grows payments payments' := by
  cases o with
  | charge id b dto =>
    rcases charge_cases ⟨id, b, false, false⟩ payments dto with
      ⟨e, hc⟩ | ⟨p, -, -, hc⟩ | ⟨p, t, hch, hc⟩
    · simp only [atOnce, hc] at h
      cases h
      exact .refl _
    · simp only [atOnce, hc] at h
      cases h
      exact .refl _
    · simp only [atOnce, hc] at h
      cases h
      exact .of_append hch.rows
  | refund paymentId =>
    rcases refund_cases payments paymentId with ⟨e, hr⟩ | ⟨p, hp, hs, hr⟩
    · simp only [atOnce, hr] at h
      cases h
      exact .refl _
    · simp only [atOnce, hr] at h
      cases h
      rw [← Table.key_of_find hp] at hp
      exact .refund fun q hq hid => by
        rw [PaymentTable.eq_of_id hq (Table.mem_of_find hp) hid, hs]
        decide
  | getPayment paymentId =>
    simp only [atOnce] at h
    cases h
    exact .refl _

end

/-! ## Calls under way -/

/-- What a call has checked before the step it is at. -/
def Call.Underway : Call → Prop
  | .charge dto (.missed key) => validateCharge dto = .ok key
  | .charge dto (.creating data) =>
    ∃ key b, validateCharge dto = .ok key ∧ chargeData dto key b = .ok data
  | .refund paymentId (.writing id) => id = trim paymentId ∧ trim paymentId ≠ ""
  | _ => True

section
variable {sh sh' : Shared} {i : Nat} {p p' : Call} {e : StepIn}

theorem act_underway (ha : service.act sh i p e = some (sh', p')) (h : p.Underway) :
    p'.Underway := by
  cases p with
  | charge dto pc =>
    obtain ⟨pc', rfl, hm⟩ := act_charge ha
    cases hm with
    | miss hv hf => exact hv
    | draw b hd => exact ⟨_, b, h, hd⟩
    | _ => trivial
  | refund paymentId pc =>
    cases pc with
    | start =>
      simp only [service, Option.map_eq_some_iff, Prod.mk.injEq] at ha
      obtain ⟨⟨sh₁, pc'⟩, hs, rfl, rfl⟩ := ha
      simp only [refundStep] at hs
      split at hs
      · cases hs; trivial
      · next hne =>
        split at hs
        · cases hs; trivial
        · split at hs
          · cases hs; trivial
          · next hp =>
            split at hs
            · cases hs; trivial
            · cases hs; exact ⟨Table.key_of_find hp, hne⟩
    | writing id =>
      obtain ⟨pc', rfl, hm⟩ := act_refund ha
      cases hm <;> trivial
    | done res =>
      obtain ⟨pc', rfl, hm⟩ := act_refund ha
      cases hm
      trivial
  | getPayment id pc =>
    obtain ⟨-, res, rfl⟩ := act_getPayment ha
    trivial

theorem underway_reach {s : Pool Shared Call} (h : paymentCalls.Reachable s) :
    ∀ p ∈ s.procs, p.Underway := by
  have hout : Pool.Outline service LTS.always (fun _ => True) fun _ _ p => p.Underway :=
    ⟨fun _ e => e.elim, fun s i p e sh p' h _ hp ha => ⟨trivial, act_underway ha (h.2 i p hp)⟩,
      fun s i p e sh p' j q h _ _ _ _ hq => h.2 j q hq⟩
  intro p hp
  obtain ⟨i, hi⟩ := List.mem_iff_getElem?.mp hp
  refine (Pool.invariant hout (fun s hs => ⟨trivial, fun j q hq => ?_⟩) h).2 i p hi
  have hf := hs.fresh q (List.mem_of_getElem? hq)
  cases q <;> cases hf <;> trivial

/-- How a charge has ended. -/
theorem ends_charge {dto : ChargeDto} {pc : ChargePc} {r : Res} (h : (Call.charge dto pc).Ends r) :
    ∃ c, r = .charge c ∧ (pc = .done c ∨ ∃ key err, pc = .missed key ∧ c = .error err ∧
      ∀ b, chargeData dto key b = .error err) := by
  cases r with
  | charge c => exact ⟨c, rfl, h⟩
  | refund c => exact h.elim
  | getPayment c => exact h.elim

theorem ends_refund {paymentId : String} {pc : RefundPc} {r : Res}
    (h : (Call.refund paymentId pc).Ends r) : ∃ c, r = .refund c ∧ pc = .done c := by
  cases r with
  | refund c => exact ⟨c, rfl, h⟩
  | charge c => exact h.elim
  | getPayment c => exact h.elim

theorem ends_getPayment {paymentId : String} {pc : GetPc} {r : Res}
    (h : (Call.getPayment paymentId pc).Ends r) : ∃ c, r = .getPayment c ∧ pc = .done c := by
  cases r with
  | getPayment c => exact ⟨c, rfl, h⟩
  | charge c => exact h.elim
  | refund c => exact h.elim

/-- A call that takes a step has not ended, but for a charge whose amount is bad. -/
theorem not_ends_of_act {r : Res} (ha : service.act sh i p e = some (sh', p')) (h : p.Ends r) :
    ∃ dto key err, p = .charge dto (.missed key) ∧ r = .charge (.error err) ∧
      ∀ b, chargeData dto key b = .error err := by
  cases p with
  | charge dto pc =>
    obtain ⟨c, rfl, rfl | ⟨key, err, rfl, rfl, hb⟩⟩ := ends_charge h
    · simp [service, chargeStep] at ha
    · exact ⟨dto, key, err, rfl, rfl, hb⟩
  | refund paymentId pc =>
    obtain ⟨c, rfl, rfl⟩ := ends_refund h
    simp [service, refundStep] at ha
  | getPayment paymentId pc =>
    obtain ⟨c, rfl, rfl⟩ := ends_getPayment h
    simp [service, getStep] at ha

end

/-! ## Moments -/

section
variable {sh sh' : Shared} {i : Nat} {p p' : Call} {e : StepIn}

/-- A step is the moment of its call, or is none. -/
def IsMoment (sh : Shared) (p : Call) (sh' : Shared) (p' : Call) : Prop :=
  (sh'.payments = sh.payments ∧ (∀ o r, paymentView.Did p o r → paymentView.Did p' o r) ∧
    (paymentView.Owes p' → paymentView.Owes p)) ∨
  ∃ o r, atOnce sh.payments o = some (r, sh'.payments) ∧ (∀ o r, ¬ paymentView.Did p o r) ∧
    paymentView.Did p' o r

/-- A step that leaves the table alone and ends no call but by an error of the
database. -/
theorem isMoment_of_quiet (hpay : sh'.payments = sh.payments) (hn : ∀ r, ¬ p.Ends r)
    (hq : ∀ r, p'.Ends r → r.DatabaseError) : IsMoment sh p sh' p' := by
  refine .inl ⟨hpay, fun o r hd => absurd hd.2 (hn r), ?_⟩
  rintro ⟨r, hr, hdb⟩
  exact absurd (hq r hr) hdb

/-- The step after which the call has the result that it would have had at once. -/
theorem isMoment_of_atOnce {o : Op} {r : Res} (hO : atOnce sh.payments o = some (r, sh'.payments))
    (hn : ∀ r, ¬ p.Ends r) (hask : p'.Asks o) (hends : p'.Ends r) : IsMoment sh p sh' p' :=
  .inr ⟨o, r, hO, fun _ r hd => hn r hd.2, hask, hends⟩

theorem createPayment_error {payments : PaymentTable} {id : String} {data : PaymentCreateInput}
    {err : AppError} (h : createPayment payments id data = .error err) :
    err = prismaError ∨ err = uniqueError := by
  unfold createPayment at h
  split at h
  · cases h; exact .inl rfl
  · simp only at h
    split at h
    · split at h
      · cases h
      · cases h; exact .inl rfl
    · cases h; exact .inr rfl

theorem isMoment_charge {dto : ChargeDto} {pc pc' : ChargePc} (hu : (Call.charge dto pc).Underway)
    (hm : ChargeMove sh i dto pc sh' pc')
    (ha : service.act sh i (.charge dto pc) e = some (sh', .charge dto pc')) :
    IsMoment sh (.charge dto pc) sh' (.charge dto pc') := by
  have hnone : (∀ key, pc ≠ .missed key) → ∀ r, ¬ (Call.charge dto pc).Ends r := by
    intro hpc r hr
    obtain ⟨dto', key, err, heq, -, -⟩ := not_ends_of_act ha hr
    cases heq
    exact hpc key rfl
  cases hm with
  | reject h =>
    refine isMoment_of_atOnce (o := .charge "" true dto)
      ?_ (hnone nofun) rfl (r := .charge _) (.inl rfl)
    simp only [atOnce, charge_of_invalid h]
  | failFind =>
    refine isMoment_of_quiet rfl (hnone nofun) fun r hr => ?_
    obtain ⟨c, rfl, h | ⟨_, _, h, -⟩⟩ := ends_charge hr <;> cases h
  | replay hv hp hk =>
    refine isMoment_of_atOnce (o := .charge "" true dto)
      ?_ (hnone nofun) rfl (r := .charge _) (.inl rfl)
    have hc := charge_of_existing (x := ⟨"", true, false, false⟩) hv rfl
      (findByIdempotencyKey_eq_some.mpr ⟨hp, hk⟩)
    simp only [atOnce, hc]
  | miss hv hf =>
    cases hd : chargeData dto (trim dto.idempotencyKey) true with
    | error err =>
      -- the amount is bad: the charge has its moment now
      have hc := charge_of_badAmount (x := ⟨"", true, false, false⟩) hv rfl hf hd
      refine isMoment_of_atOnce (o := .charge "" true dto)
        ?_ (hnone nofun) rfl (r := .charge (.error err))
        (.inr ⟨_, err, rfl, rfl, fun b => chargeData_error true b hd⟩)
      simp only [atOnce, hc]
    | ok data =>
      refine isMoment_of_quiet rfl (hnone nofun) fun r hr => ?_
      obtain ⟨c, rfl, h | ⟨key, err, h, -, hb⟩⟩ := ends_charge hr
      · cases h
      · cases h
        rw [hb true] at hd
        cases hd
  | draw b hd =>
    refine isMoment_of_quiet rfl (fun r hr => ?_) fun r hr => ?_
    · obtain ⟨dto', key', err, heq, -, hb⟩ := not_ends_of_act ha hr
      cases heq
      rw [hb b] at hd
      cases hd
    · obtain ⟨c, rfl, h | ⟨_, _, h, -⟩⟩ := ends_charge hr <;> cases h
  | @drawError key err b hd =>
    -- the moment was when the key was missed
    refine .inl ⟨rfl, fun o r hdid => ?_, fun howes => ?_⟩
    · obtain ⟨hask, hends⟩ := hdid
      obtain ⟨dto', key', err', heq, rfl, hb⟩ := not_ends_of_act ha hends
      cases heq
      obtain rfl : err' = err := Except.error.inj ((hb b).symm.trans hd)
      refine ⟨?_, .inl rfl⟩
      cases o <;> exact hask
    · obtain ⟨r, hr, hdb⟩ := howes
      obtain ⟨c, rfl, h | ⟨_, _, h, -⟩⟩ := ends_charge hr
      · cases h
        exact ⟨.charge (.error err), .inr ⟨key, err, rfl, rfl, fun b' => chargeData_error b b' hd⟩,
          hdb⟩
      · cases h
  | failCreate =>
    refine isMoment_of_quiet rfl (hnone nofun) fun r hr => ?_
    obtain ⟨c, rfl, h | ⟨_, _, h, -⟩⟩ := ends_charge hr <;> cases h
  | refuse id hid hc =>
    refine isMoment_of_quiet rfl (hnone nofun) fun r hr => ?_
    obtain ⟨c, rfl, h | ⟨_, _, h, -⟩⟩ := ends_charge hr
    · cases h
      exact (createPayment_error hc).imp (congrArg Except.error) (congrArg Except.error)
    · cases h
  | create id hc =>
    obtain ⟨key, b, hv, hd⟩ := hu
    have hone := charge_of_create (x := ⟨id, b, false, false⟩) hv rfl rfl hd hc
    refine isMoment_of_atOnce (o := .charge id b dto)
      ?_ (hnone nofun) rfl (r := .charge _) (.inl rfl)
    simp only [atOnce, hone]
    rfl

theorem isMoment_refund {paymentId : String} {pc pc' : RefundPc}
    (hu : (Call.refund paymentId pc).Underway)
    (hg : ∀ id, pc = .writing id → e.fault = false → ∀ row, findById sh.payments id = some row →
      guardRefund row = .ok ())
    (hs : refundStep sh paymentId e pc = some (sh', pc')) :
    IsMoment sh (.refund paymentId pc) sh' (.refund paymentId pc') := by
  have hnone : ∀ r, ¬ (Call.refund paymentId pc).Ends r := by
    intro r hr
    obtain ⟨c, rfl, rfl⟩ := ends_refund hr
    cases hs
  have hfault : pc' = .done (.error prismaError) → sh' = sh →
      IsMoment sh (.refund paymentId pc) sh' (.refund paymentId pc') := by
    rintro rfl rfl
    refine isMoment_of_quiet rfl hnone fun r hr => ?_
    obtain ⟨c, rfl, h⟩ := ends_refund hr
    cases h
    rfl
  cases pc with
  | start =>
    simp only [refundStep] at hs
    split at hs
    · next hblank =>
      cases hs
      refine isMoment_of_atOnce (o := .refund paymentId) ?_ hnone rfl (r := .refund _) rfl
      simp only [atOnce, refund, if_pos hblank]
    · next hblank =>
      split at hs
      · cases hs
        exact hfault rfl rfl
      · split at hs
        · next hp =>
          cases hs
          refine isMoment_of_atOnce (o := .refund paymentId) ?_ hnone rfl (r := .refund _) rfl
          simp only [atOnce, refund, if_neg hblank, hp]
        · next row hp =>
          split at hs
          · next err hguard =>
            cases hs
            refine isMoment_of_atOnce (o := .refund paymentId) ?_ hnone rfl (r := .refund _) rfl
            simp only [atOnce, refund, if_neg hblank, hp, hguard]
          · cases hs
            refine isMoment_of_quiet rfl hnone fun r hr => ?_
            obtain ⟨c, rfl, h⟩ := ends_refund hr
            cases h
  | writing id =>
    obtain ⟨rfl, hblank⟩ := hu
    simp only [refundStep] at hs
    split at hs
    · cases hs
      exact hfault rfl rfl
    · next hf =>
      cases hs
      cases hp : findById sh.payments (trim paymentId) with
      | none => exact hfault (by simp only [updateStatus, hp]) (by simp only [updateStatus, hp])
      | some row =>
        have hguard := hg _ rfl (Bool.eq_false_iff.mpr hf) row hp
        have hid : row.id = trim paymentId := Table.key_of_find hp
        refine isMoment_of_atOnce (o := .refund paymentId) ?_ hnone rfl (r := .refund _) rfl
        simp only [atOnce, refund, if_neg hblank, hp, hguard, hid]
  | done res => cases hs

theorem isMoment_getPayment {paymentId : String} {pc pc' : GetPc}
    (hs : getStep sh paymentId e pc = some (sh', pc')) :
    IsMoment sh (.getPayment paymentId pc) sh' (.getPayment paymentId pc') := by
  have hnone : ∀ r, ¬ (Call.getPayment paymentId pc).Ends r := by
    intro r hr
    obtain ⟨c, rfl, rfl⟩ := ends_getPayment hr
    cases hs
  cases pc with
  | start =>
    simp only [getStep] at hs
    split at hs
    · cases hs
      refine isMoment_of_quiet rfl hnone fun r hr => ?_
      obtain ⟨c, rfl, h⟩ := ends_getPayment hr
      cases h
      rfl
    · cases hs
      exact isMoment_of_atOnce (o := .getPayment paymentId) rfl hnone rfl (r := .getPayment _) rfl
  | done res => cases hs

end

/-- The steps of the runs in which no guard of a refund fails. -/
theorem payment_moments :
    Pool.Moments service GuardHolds paymentView atOnce fun s => ∀ p ∈ s.procs, p.Underway where
  env _ e := e.elim
  act s i p e sh p' hK ho hp ha := by
    have hu := hK p (List.mem_of_getElem? hp)
    show IsMoment s.shared p sh p'
    cases p with
    | charge dto pc =>
      obtain ⟨pc', rfl, hm⟩ := act_charge ha
      exact isMoment_charge hu hm ha
    | refund paymentId pc =>
      simp only [service, Option.map_eq_some_iff, Prod.mk.injEq] at ha
      obtain ⟨⟨sh₁, pc'⟩, hs, rfl, rfl⟩ := ha
      refine isMoment_refund hu (fun id hpc hf row hrow => ?_) hs
      subst hpc
      simp only [GuardHolds, hp] at ho
      exact ho hf row hrow
    | getPayment paymentId pc =>
      simp only [service, Option.map_eq_some_iff, Prod.mk.injEq] at ha
      obtain ⟨⟨sh₁, pc'⟩, hs, rfl, rfl⟩ := ha
      exact isMoment_getPayment hs

/-! ## No payment twice -/

/-- The entry is a refund of the payment, and it has returned. -/
def Refunds (w : Pool.Entry Op Res) (id : String) : Prop :=
  ∃ paymentId p, w.op = .refund paymentId ∧ w.res = .refund (.ok p) ∧ trim paymentId = id

section
variable {payments payments' start : PaymentTable} {ws : List (Pool.Entry Op Res)}

theorem atOnce_refund {paymentId : String} {p : Payment}
    (h : atOnce payments (.refund paymentId) = some (.refund (.ok p), payments')) :
    (∃ row, findById payments (trim paymentId) = some row ∧ row.status = .SUCCEEDED) ∧
      ∃ row ∈ payments'.rows, row.id = trim paymentId ∧ row.status = .REFUNDED := by
  rcases refund_cases payments paymentId with ⟨e, hr⟩ | ⟨row, hrow, hs, hr⟩
  · simp only [atOnce, hr] at h
    cases h
  · simp only [atOnce, hr] at h
    cases h
    exact ⟨⟨row, hrow, hs⟩, row.withStatus .REFUNDED none, mem_setStatus.mpr (.inr ⟨row,
      Table.mem_of_find hrow, rfl, rfl⟩), Table.key_of_find hrow, rfl⟩

/-- One after another, the refunds that return are of different payments; what they
have refunded stays so. -/
theorem refunds_apart (h : Object.runAll atOnce start (ws.map Pool.Entry.op) =
    some (ws.map Pool.Entry.res, payments)) :
    (∀ w ∈ ws, ∀ id, Refunds w id → ∃ p ∈ payments.rows, p.id = id ∧ p.status = .REFUNDED) ∧
      ws.Pairwise fun v w => ∀ id, Refunds v id → ¬ Refunds w id := by
  induction ws using List.reverseRecOn generalizing payments with
  | nil => exact ⟨fun w hw => absurd hw List.not_mem_nil, List.Pairwise.nil⟩
  | append_singleton ws w ih =>
    rw [List.map_append, List.map_append] at h
    obtain ⟨rs, r, t, hrs, hrun, hO⟩ := Object.runAll_snoc_inv h
    obtain ⟨hinit, hlast⟩ := List.append_inj' hrs rfl
    obtain rfl : w.res = r := List.head_eq_of_cons_eq hlast
    rw [← hinit] at hrun
    obtain ⟨hrefunded, hapart⟩ := ih hrun
    constructor
    · intro v hv id hr
      rcases List.mem_append.mp hv with hv | hv
      · obtain ⟨p, hp, hid, hs⟩ := hrefunded v hv id hr
        obtain ⟨p', hp', hev⟩ := grows_atOnce hO p hp
        refine ⟨p', hp', hev.id.trans hid, ?_⟩
        rcases hev.status with hst | ⟨hst, -⟩
        · exact hst.trans hs
        · rw [hs] at hst
          cases hst
      · obtain rfl := List.mem_singleton.mp hv
        obtain ⟨paymentId, p, hop, hres, rfl⟩ := hr
        rw [hop, hres] at hO
        exact (atOnce_refund hO).2
    · refine List.pairwise_append.mpr ⟨hapart, List.pairwise_singleton _ _,
        fun v hv u hu id hr hr' => ?_⟩
      obtain rfl := List.mem_singleton.mp hu
      obtain ⟨p, hp, hid, hs⟩ := hrefunded v hv id hr
      obtain ⟨paymentId, q, hop, hres, rfl⟩ := hr'
      rw [hop, hres] at hO
      -- the row is refunded already
      obtain ⟨⟨row, hrow, hsucc⟩, -⟩ := atOnce_refund hO
      obtain rfl : p = row := PaymentTable.eq_of_id hp (Table.mem_of_find hrow)
        (hid.trans (Table.key_of_find hrow).symm)
      rw [hs] at hsucc
      cases hsucc

theorem refundedOnce_of_serial {s : Pool Shared Call} (h : Serial start s ws) : RefundedOnce s := by
  have hentry : ∀ i id p, Refunded s i id p → ∃ w ∈ ws, w.call = i ∧ Refunds w (trim id) := by
    intro i id p hi
    obtain ⟨w, hw, rfl⟩ := h.all i _ hi ⟨.refund (.ok p), rfl, nofun⟩
    obtain ⟨q, hq, hask, hends⟩ := h.did w hw
    obtain rfl := Option.some.inj (hi.symm.trans hq)
    obtain ⟨c, hres, hc⟩ := ends_refund hends
    cases hc
    refine ⟨w, hw, rfl, id, p, ?_, hres, rfl⟩
    cases hop : w.op with
    | refund paymentId =>
      rw [hop] at hask
      obtain rfl : id = paymentId := hask
      rfl
    | charge _ _ _ => rw [hop] at hask; exact hask.elim
    | getPayment _ => rw [hop] at hask; exact hask.elim
  intro i j id id' p q hi hj ht
  obtain ⟨v, hv, rfl, hrv⟩ := hentry i id p hi
  obtain ⟨w, hw, rfl, hrw⟩ := hentry j id' q hj
  by_contra hne
  have hsymm : Std.Symm fun v w : Pool.Entry Op Res => ∀ id, Refunds v id → ¬ Refunds w id :=
    ⟨fun v w hvw id hw hv => hvw id hv hw⟩
  have hvw : v ≠ w := fun heq => hne (congrArg Pool.Entry.call heq)
  rw [← ht] at hrw
  exact (refunds_apart h.run).2.forall hv hw hvw _ hrv hrw

end

/-- The guards of the refunds hold in a run that refunds no payment twice. -/
theorem allOk_of_refundedOnce {s s' : Pool Shared Call} {es : List (Pool.Event StepIn Empty)}
    (hs : paymentCalls.Reachable s) (h : LTS.execAll (Pool.step service) s es = some s')
    (honce : RefundedOnce s') : LTS.AllOk (Pool.step service) GuardHolds s es :=
  LTS.allOk_of_execAll (Q := fun s => ¬ RefundedOnce s)
    (fun _ _ _ hr ho hst => not_refundedOnce_of_unguarded hr ho hst)
    (fun _ _ _ hn hst => not_refundedOnce_step hn hst) hs h (not_not.mpr honce)

theorem refundedOnce_of_later {s s' : Pool Shared Call}
    (h : paymentCalls.Run LTS.always s s') (honce : RefundedOnce s') : RefundedOnce s := by
  by_contra hn
  exact h.keep (P := fun s => ¬ RefundedOnce s)
    (fun s e s' hn _ hst => not_refundedOnce_step hn hst) hn honce

/-- **Payments in order.** A run from `s` by `s'` to `s''` that refunds no payment twice
is as good as its calls one after another: those that were answered, by `s'` and then by
`s''`, have the results and lead to the rows that they have at once. A run that refunds
a payment twice is as good as no order of its calls. -/
theorem serial_iff_refundedOnce {s s' s'' : Pool Shared Call}
    {es es' : List (Pool.Event StepIn Empty)} (hi : Idle s)
    (h : LTS.execAll (Pool.step service) s es = some s')
    (h' : LTS.execAll (Pool.step service) s' es' = some s'') :
    (RefundedOnce s'' → ∃ ws more, Serial s.shared.payments s' ws ∧
      Serial s.shared.payments s'' (ws ++ more)) ∧
    ((∃ ws, Serial s.shared.payments s'' ws) → RefundedOnce s'') := by
  refine ⟨fun honce => ?_, fun ⟨ws, hws⟩ => refundedOnce_of_serial hws⟩
  have hs : paymentCalls.Reachable s := .of_init hi
  have hs' : paymentCalls.Reachable s' := LTS.reachable_of_execAll es hi h
  have hlater : paymentCalls.Run LTS.always s' s'' := LTS.run_of_execAll (LTS.allOk_always _ _ _) h'
  have hok := allOk_of_refundedOnce hs h (refundedOnce_of_later hlater honce)
  have hok' := allOk_of_refundedOnce hs' h' honce
  refine Pool.linear_of_run payment_moments (fun s hr => underway_reach hr.reachable) hi
    (fun i q hq ho => ?_) (LTS.run_of_execAll hok h) (LTS.run_of_execAll hok' h')
  have hfresh := hi.fresh q (List.mem_of_getElem? hq)
  obtain ⟨r, hr, -⟩ := ho
  cases q with
  | charge dto pc =>
    obtain rfl : pc = .start := hfresh
    obtain ⟨c, rfl, h | ⟨_, _, h, -⟩⟩ := ends_charge hr <;> cases h
  | refund id pc =>
    obtain rfl : pc = .start := hfresh
    obtain ⟨c, rfl, h⟩ := ends_refund hr
    cases h
  | getPayment id pc =>
    obtain rfl : pc = .start := hfresh
    obtain ⟨c, rfl, h⟩ := ends_getPayment hr
    cases h

/-- A charge, its retry that loses the race for the key, and one refund of two. -/
theorem serial_fourCalls : ∃ ws, Serial PaymentTable.empty (fourCallsAfter [.proc 0 {}, .proc 1 {},
    .proc 0 {}, .proc 1 {}, .proc 0 { rowId := "p1" }, .proc 1 { rowId := "p2" }, .proc 2 {},
    .proc 2 {}, .proc 3 {}]) ws := by
  have h : LTS.execAll (Pool.step service) fourCalls [.proc 0 {}, .proc 1 {},
    .proc 0 {}, .proc 1 {},
    .proc 0 { rowId := "p1" }, .proc 1 { rowId := "p2" }, .proc 2 {}, .proc 2 {},
    .proc 3 {}] = some _ := rfl
  have honce : RefundedOnce (fourCallsAfter [.proc 0 {}, .proc 1 {}, .proc 0 {}, .proc 1 {},
      .proc 0 { rowId := "p1" }, .proc 1 { rowId := "p2" }, .proc 2 {}, .proc 2 {},
      .proc 3 {}]) := by
    have hone : ∀ i id p, Refunded (fourCallsAfter [.proc 0 {}, .proc 1 {}, .proc 0 {}, .proc 1 {},
        .proc 0 { rowId := "p1" }, .proc 1 { rowId := "p2" }, .proc 2 {}, .proc 2 {}, .proc 3 {}])
        i id p → i = 2 := by
      intro i id p hr
      match i, hr with
      | 0, hr => cases hr
      | 1, hr => cases hr
      | 2, _ => rfl
      | 3, hr => cases hr
    intro i j id id' p q hi hj _
    rw [hone i id p hi, hone j id' q hj]
  have hrest : LTS.execAll (Pool.step service) (fourCallsAfter [.proc 0 {}, .proc 1 {}, .proc 0 {},
    .proc 1 {}, .proc 0 { rowId := "p1" }, .proc 1 { rowId := "p2" }, .proc 2 {}, .proc 2 {},
    .proc 3 {}]) [] = some _ := rfl
  obtain ⟨ws, more, -, hws⟩ := (serial_iff_refundedOnce fourCalls_idle h hrest).1 honce
  exact ⟨_, hws⟩

end RouteGo.Payments
