import RouteGo.Payments.Concurrent

/-!
# Uninterrupted calls of `PaymentService`

A call that no other call interrupts ends as the method of the same name does:
`charge` and `refund` are the machine run alone.
-/

namespace RouteGo.Payments

open Js

/-- How a call has ended. -/
def ChargePc.result : ChargePc → Option (Result ChargeResult)
  | .done res => some res
  | .failed => some (.error prismaError)
  | _ => none

section
variable {sh sh' sh'' : Shared} {i : Nat} {dto : ChargeDto} {pc pc' pc'' : ChargePc}

theorem Solo.charge (h : Pool.Solo service i (sh, .charge dto pc) (sh', .charge dto pc'))
    (e : StepIn) (hs : chargeStep sh' i dto e pc' = some (sh'', pc'')) :
    Pool.Solo service i (sh, .charge dto pc) (sh'', .charge dto pc'') :=
  h.act e (by simp [service, hs])

/-- The insert of a charge. -/
theorem solo_creating (sh : Shared) (dto : ChargeDto) (x : ChargeInputs) (data : PaymentCreateInput)
    (hid : findById sh.payments x.id = none) :
    ∃ sh' pc, Pool.Solo service i (sh, .charge dto (.creating data)) (sh', .charge dto pc) ∧
      if x.createFails then pc.result = some (.error prismaError) ∧ sh'.payments = sh.payments
      else match createPayment sh.payments x.id data with
        | .error err => pc.result = some (.error err) ∧ sh'.payments = sh.payments
        | .ok (created, payments') =>
          pc.result = some (.ok (createdResult data.status created)) ∧
            sh'.payments = payments' := by
  have h0 : Pool.Solo service i (sh, .charge dto (.creating data))
    (sh, .charge dto (.creating data)) :=
    .refl _
  split
  · exact ⟨sh.settle i, .failed, Solo.charge h0 { fault := true } (by simp [chargeStep]), rfl, rfl⟩
  · split
    · next err hc =>
      exact ⟨sh.settle i, .done (.error err), Solo.charge h0 { rowId := x.id }
        (by simp [chargeStep, hid, hc]), rfl, rfl⟩
    · next created payments' hc =>
      exact ⟨{ sh with payments := payments' }.settle i,
        .done (.ok (createdResult data.status created)),
        Solo.charge h0 { rowId := x.id } (by simp [chargeStep, hid, hc]), rfl, rfl⟩

theorem solo_charge (x : ChargeInputs) (dto : ChargeDto) (hid : findById sh.payments x.id = none) :
    ∃ sh' pc, Pool.Solo service i (sh, .charge dto .start) (sh', .charge dto pc) ∧
      pc.result = some (charge x sh.payments dto).1 ∧
        sh'.payments = (charge x sh.payments dto).2 := by
  have h0 : Pool.Solo service i (sh, .charge dto .start) (sh, .charge dto .start) := .refl _
  unfold charge
  split
  · next err hv =>
    exact ⟨sh, .done (.error err), Solo.charge h0 {} (by simp [chargeStep, hv]), rfl, rfl⟩
  · next key hv =>
    split
    · exact ⟨sh, .failed, Solo.charge h0 { fault := true } (by simp [chargeStep, hv]), rfl, rfl⟩
    · split
      · next existing hf =>
        exact ⟨sh, .done (.ok (replayResult existing)),
          Solo.charge h0 {} (by simp [chargeStep, hv, hf]), rfl, rfl⟩
      · next hf =>
        have h1 : Pool.Solo service i (sh, .charge dto .start)
            ({ sh with pending := i :: sh.pending }, .charge dto (.missed key)) :=
          Solo.charge h0 {} (by simp [chargeStep, hv, hf])
        split
        · next err hd =>
          exact ⟨({ sh with pending := i :: sh.pending }.drew ⟨key, x.isSuccess⟩).settle i,
            .done (.error err), Solo.charge h1 { draw := x.isSuccess } (by simp [chargeStep, hd]),
            rfl, rfl⟩
        · next data hd =>
          have h2 : Pool.Solo service i (sh, .charge dto .start)
              ({ sh with pending := i :: sh.pending }.drew ⟨key, x.isSuccess⟩,
                .charge dto (.creating data)) :=
            Solo.charge h1 { draw := x.isSuccess } (by simp [chargeStep, hd])
          obtain ⟨sh', pc, h3, hpc⟩ := solo_creating (i := i)
            ({ sh with pending := i :: sh.pending }.drew ⟨key, x.isSuccess⟩) dto x data hid
          refine ⟨sh', pc, h2.trans h3, ?_⟩
          split at hpc
          · next hx => rw [if_pos hx]; exact hpc
          · next hx =>
            rw [if_neg hx]
            split at hpc
            · next err hc =>
              have hc' : createPayment sh.payments x.id data = .error err := hc
              rw [hc']
              exact hpc
            · next created payments' hc =>
              have hc' : createPayment sh.payments x.id data = .ok (created, payments') := hc
              rw [hc']
              exact hpc

end

theorem solo_refund {i : Nat} (sh : Shared) (paymentId : String) :
    Pool.Solo service i (sh, .refund paymentId .start)
      ({ sh with payments := (refund sh.payments paymentId).2 },
        .refund paymentId (.done (refund sh.payments paymentId).1)) := by
  have h0 : Pool.Solo service i (sh, .refund paymentId .start) (sh,
    .refund paymentId .start) := .refl _
  unfold refund
  split
  · next ht => exact h0.act {} (by simp [service, refundStep, ht])
  · next ht =>
    split
    · next hf => exact h0.act {} (by simp [service, refundStep, ht, hf])
    · next p hf =>
      split
      · next err hg => exact h0.act {} (by simp [service, refundStep, ht, hf, hg])
      · next hg =>
        have h1 : Pool.Solo service i (sh, .refund paymentId .start)
            (sh, .refund paymentId (.writing p.id)) :=
          h0.act {} (by simp [service, refundStep, ht, hf, hg])
        exact h1.act {} (by simp [service, refundStep])

/-! ## In a run -/

section
variable {init : Pool Shared Call → Prop} {s : Pool Shared Call} {i : Nat}

/-- **`charge` is a call of the machine that nothing interrupts.** -/
theorem charge_uninterrupted {dto : ChargeDto} (x : ChargeInputs)
    (hp : s.procs[i]? = some (.charge dto .start)) (hid : findById s.shared.payments x.id = none) :
    ∃ sh pc, (Pool.system service init).Run LTS.always s ⟨sh, s.procs.set i (.charge dto pc)⟩ ∧
      pc.result = some (charge x s.shared.payments dto).1 ∧
      sh.payments = (charge x s.shared.payments dto).2 := by
  obtain ⟨sh, pc, h, hpc⟩ := solo_charge (i := i) x dto hid
  exact ⟨sh, pc, h.run hp rfl, hpc⟩

/-- **`refund` likewise.** -/
theorem refund_uninterrupted {id : String} (hp : s.procs[i]? = some (.refund id .start)) :
    (Pool.system service init).Run LTS.always s
      ⟨{ s.shared with payments := (refund s.shared.payments id).2 },
        s.procs.set i (.refund id (.done (refund s.shared.payments id).1))⟩ :=
  (solo_refund s.shared id).run hp rfl

end

end RouteGo.Payments
