import RouteGo.Lib.Pool
import RouteGo.Payments.Service

/-!
# Interleaved calls of `PaymentService`

The look-up of `charge`, the draw of the gateway outcome and the insert are
three steps, the look-up and the write of `refund` two; other calls run between
any two of them. `ChargeMove` and `RefundMove` say once what the steps do.

`draws` and `pending` are the history of a run, which no step reads: the
outcomes drawn, and the calls that missed in their look-up and have neither
stored nor thrown.
-/

namespace RouteGo.Payments

open Js

/-- An outcome of `simulateChargeOutcome`. -/
structure Draw where
  key : String
  isSuccess : Bool
  deriving DecidableEq

structure Shared where
  payments : PaymentTable
  draws : List Draw
  pending : List Nat

/-- What a step takes from outside: the id the database gives to a row, the
outcome drawn, and whether the operation is made to throw, without effect. -/
structure StepIn where
  rowId : String := ""
  draw : Bool := true
  fault : Bool := false

/-- `failed` is the end of a call whose database operation was made to throw. -/
inductive ChargePc where
  | start
  | missed (trimmedKey : String)
  | creating (data : PaymentCreateInput)
  | done (res : Result ChargeResult)
  | failed

inductive RefundPc where
  | start
  | writing (id : String)
  | done (res : Result Payment)

inductive GetPc where
  | start
  | done (res : Result Payment)

inductive Call where
  | charge (dto : ChargeDto) (pc : ChargePc)
  | refund (paymentId : String) (pc : RefundPc)
  | getPayment (paymentId : String) (pc : GetPc)

def Shared.drew (sh : Shared) (d : Draw) : Shared := { sh with draws := sh.draws ++ [d] }

def Shared.settle (sh : Shared) (i : Nat) : Shared := { sh with pending := sh.pending.erase i }

/-- The database gives a row an id that no row has. -/
def chargeStep (sh : Shared) (i : Nat) (dto : ChargeDto) (e : StepIn) :
    ChargePc → Option (Shared × ChargePc)
  | .start =>
    match validateCharge dto with
    | .error err => some (sh, .done (.error err))
    | .ok trimmedKey =>
      if e.fault then some (sh, .failed)
      else match findByIdempotencyKey sh.payments trimmedKey with
        | some existing => some (sh, .done (.ok (replayResult existing)))
        | none => some ({ sh with pending := i :: sh.pending }, .missed trimmedKey)
  | .missed trimmedKey =>
    let sh := sh.drew ⟨trimmedKey, e.draw⟩
    match chargeData dto trimmedKey e.draw with
    | .error err => some (sh.settle i, .done (.error err))
    | .ok data => some (sh, .creating data)
  | .creating data =>
    if e.fault then some (sh.settle i, .failed)
    else if (findById sh.payments e.rowId).isSome then none
    else match createPayment sh.payments e.rowId data with
      | .error err => some (sh.settle i, .done (.error err))
      | .ok (created, payments) =>
        some ({ sh with payments := payments }.settle i,
          .done (.ok (createdResult data.status created)))
  | .done _ | .failed => none

def refundStep (sh : Shared) (paymentId : String) (e : StepIn) : RefundPc →
    Option (Shared × RefundPc)
  | .start =>
    if trim paymentId = "" then some (sh, .done (.error paymentIdRequired))
    else if e.fault then some (sh, .done (.error prismaError))
    else match findById sh.payments (trim paymentId) with
      | none => some (sh, .done (.error (paymentNotFound paymentId)))
      | some payment =>
        match guardRefund payment with
        | .error err => some (sh, .done (.error err))
        | .ok () => some (sh, .writing payment.id)
  | .writing id =>
    if e.fault then some (sh, .done (.error prismaError))
    else
      let r := updateStatus sh.payments id .REFUNDED
      some ({ sh with payments := r.2 }, .done r.1)
  | .done _ => none

def getStep (sh : Shared) (paymentId : String) (e : StepIn) : GetPc → Option (Shared × GetPc)
  | .start =>
    if trim paymentId ≠ "" ∧ e.fault = true then some (sh, .done (.error prismaError))
    else some (sh, .done (getPayment sh.payments paymentId))
  | .done _ => none

/-- The environment does nothing of its own. -/
def service : Pool.Spec Shared Call StepIn Empty where
  act sh i p e := match p with
    | .charge dto pc => (chargeStep sh i dto e pc).map fun r => (r.1, .charge dto r.2)
    | .refund id pc => (refundStep sh id e pc).map fun r => (r.1, .refund id r.2)
    | .getPayment id pc => (getStep sh id e pc).map fun r => (r.1, .getPayment id r.2)
  env _ e := e.elim

/-! ## What a step does -/

/-- The moves of a `charge`. -/
inductive ChargeMove (sh : Shared) (i : Nat) (dto : ChargeDto) : ChargePc → Shared → ChargePc → Prop
  | reject {err} (h : validateCharge dto = .error err) :
      ChargeMove sh i dto .start sh (.done (.error err))
  | failFind : ChargeMove sh i dto .start sh .failed
  | replay {p} (hv : validateCharge dto = .ok (trim dto.idempotencyKey)) (hp : p ∈ sh.payments.rows)
      (hk : p.idempotencyKey = trim dto.idempotencyKey) :
      ChargeMove sh i dto .start sh (.done (.ok (replayResult p)))
  | miss (hv : validateCharge dto = .ok (trim dto.idempotencyKey))
      (hf : findByIdempotencyKey sh.payments (trim dto.idempotencyKey) = none) :
      ChargeMove sh i dto .start { sh with pending := i :: sh.pending }
        (.missed (trim dto.idempotencyKey))
  | draw {key data} (b : Bool) (hd : chargeData dto key b = .ok data) :
      ChargeMove sh i dto (.missed key) (sh.drew ⟨key, b⟩) (.creating data)
  | drawError {key err} (b : Bool) (hd : chargeData dto key b = .error err) :
      ChargeMove sh i dto (.missed key) ((sh.drew ⟨key, b⟩).settle i) (.done (.error err))
  | failCreate {data} : ChargeMove sh i dto (.creating data) (sh.settle i) .failed
  | refuse {data err} (id) (hid : findById sh.payments id = none)
      (hc : createPayment sh.payments id data = .error err) :
      ChargeMove sh i dto (.creating data) (sh.settle i) (.done (.error err))
  | create {data p payments} (id) (hc : createPayment sh.payments id data = .ok (p, payments)) :
      ChargeMove sh i dto (.creating data) ({ sh with payments := payments }.settle i)
        (.done (.ok (createdResult data.status p)))

theorem chargeStep_move {sh sh' : Shared} {i : Nat} {dto : ChargeDto} {e : StepIn}
    {pc pc' : ChargePc} (h : chargeStep sh i dto e pc = some (sh', pc')) :
    ChargeMove sh i dto pc sh' pc' := by
  cases pc with
  | start =>
    simp only [chargeStep] at h
    split at h
    · next hv => cases h; exact .reject hv
    · next key hv =>
      obtain ⟨rfl, -, -, -⟩ := validateCharge_ok hv
      split at h
      · cases h; exact .failFind
      · split at h
        · next p hf =>
          cases h
          obtain ⟨hp, hk⟩ := findByIdempotencyKey_eq_some.mp hf
          exact .replay hv hp hk
        · next hf => cases h; exact .miss hv hf
  | missed key =>
    simp only [chargeStep] at h
    split at h
    · next hd => cases h; exact .drawError _ hd
    · next hd => cases h; exact .draw _ hd
  | creating data =>
    simp only [chargeStep] at h
    split at h
    · cases h; exact .failCreate
    · split at h
      · cases h
      · next hid =>
        have hn : findById sh.payments e.rowId = none := by simpa using hid
        split at h
        · next hc => cases h; exact .refuse _ hn hc
        · next hc => cases h; exact .create _ hc
  | done res => cases h
  | failed => cases h

/-- The moves of a `refund`. -/
inductive RefundMove (sh : Shared) (paymentId : String) : RefundPc → Shared → RefundPc → Prop
  | reject {pc} (err) : RefundMove sh paymentId pc sh (.done (.error err))
  | find {p} (hp : findById sh.payments (trim paymentId) = some p) (hs : p.status = .SUCCEEDED) :
      RefundMove sh paymentId .start sh (.writing p.id)
  | write {id p} (hp : findById sh.payments id = some p) :
      RefundMove sh paymentId (.writing id)
        { sh with payments := setStatus sh.payments id .REFUNDED none }
        (.done (.ok (p.withStatus .REFUNDED none)))

theorem refundStep_move {sh sh' : Shared} {paymentId : String} {e : StepIn} {pc pc' : RefundPc}
    (h : refundStep sh paymentId e pc = some (sh', pc')) : RefundMove sh paymentId pc sh' pc' := by
  cases pc with
  | start =>
    simp only [refundStep] at h
    split at h
    · cases h; exact .reject _
    · split at h
      · cases h; exact .reject _
      · split at h
        · cases h; exact .reject _
        · next hp =>
          split at h
          · cases h; exact .reject _
          · next hg => cases h; exact .find hp (guardRefund_ok hg)
  | writing id =>
    simp only [refundStep] at h
    split at h
    · cases h; exact .reject _
    · cases hf : findById sh.payments id with
      | none => simp only [updateStatus, hf] at h; cases h; exact .reject _
      | some p => simp only [updateStatus, hf] at h; cases h; exact .write hf
  | done res => cases h

theorem act_charge {sh sh' : Shared} {i : Nat} {dto : ChargeDto} {pc : ChargePc} {p : Call}
    {e : StepIn} (h : service.act sh i (.charge dto pc) e = some (sh', p)) :
    ∃ pc', p = .charge dto pc' ∧ ChargeMove sh i dto pc sh' pc' := by
  simp only [service, Option.map_eq_some_iff, Prod.mk.injEq] at h
  obtain ⟨⟨sh₁, pc'⟩, hs, rfl, rfl⟩ := h
  exact ⟨pc', rfl, chargeStep_move hs⟩

theorem act_refund {sh sh' : Shared} {i : Nat} {id : String} {pc : RefundPc} {p : Call}
    {e : StepIn} (h : service.act sh i (.refund id pc) e = some (sh', p)) :
    ∃ pc', p = .refund id pc' ∧ RefundMove sh id pc sh' pc' := by
  simp only [service, Option.map_eq_some_iff, Prod.mk.injEq] at h
  obtain ⟨⟨sh₁, pc'⟩, hs, rfl, rfl⟩ := h
  exact ⟨pc', rfl, refundStep_move hs⟩

theorem act_getPayment {sh sh' : Shared} {i : Nat} {id : String} {pc : GetPc} {p : Call}
    {e : StepIn} (h : service.act sh i (.getPayment id pc) e = some (sh', p)) :
    sh' = sh ∧ ∃ res, p = .getPayment id (.done res) := by
  simp only [service, Option.map_eq_some_iff, Prod.mk.injEq] at h
  obtain ⟨⟨sh₁, pc'⟩, hs, rfl, rfl⟩ := h
  cases pc with
  | start =>
    simp only [getStep] at hs
    split at hs <;> cases hs <;> exact ⟨rfl, _, rfl⟩
  | done res => cases hs

end RouteGo.Payments
