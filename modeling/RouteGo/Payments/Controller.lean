import RouteGo.Payments.Service
import RouteGo.Utils.Http

/-!
# The handlers of the payment service

`payment.controller.ts`. The idempotency key is a header; the user is the one of
the `x-user-id` header, else of the body.
-/

namespace RouteGo.Payments.Controller

open Js

structure ChargeBody where
  bookingId : Value
  userId : Value
  amount : Value
  currency : Value

def keyRequired : AppError :=
  .ValidationError "Idempotency-Key header is required for processing a charge"

def userRequired : AppError :=
  .ValidationError "User ID is required. Please authenticate via API Gateway."

/-- `!v || !String(v).trim()` -/
def isMissing (v : Value) : Bool := !v.truthy || trim v.toText = ""

/-- `headers["idempotency-key"] || headers["x-idempotency-key"]`, if not blank. -/
def idempotencyKey (key xKey : Header) : Option String :=
  let v := key.or ((xKey.map Value.string).getD .undefined)
  if isMissing v then none else some v.toText

def processCharge (x : ChargeInputs) (payments : PaymentTable) (key xKey xUserId : Header)
    (body : ChargeBody) : Result ChargeResult × PaymentTable :=
  match idempotencyKey key xKey with
  | none => (.error keyRequired, payments)
  | some idempotencyKey =>
    let userId := xUserId.or body.userId
    if isMissing userId then (.error userRequired, payments)
    else if isMissing body.bookingId then (.error bookingIdRequired, payments)
    else if body.amount = .undefined ∨ body.amount.toNumber.isNaN = true ∨
        body.amount.toNumber.le (.ofInt 0) = true then (.error amountNotPositive, payments)
    else charge x payments {
      bookingId := body.bookingId.toText
      userId := userId.toText
      amount := .number body.amount.toNumber
      currency := if body.currency.truthy then some body.currency.toText else none
      idempotencyKey := idempotencyKey }

def processRefund (payments : PaymentTable) (id : String) : Result Payment × PaymentTable :=
  if trim id = "" then (.error paymentIdRequired, payments) else refund payments (trim id)

/-- The handler throws and leaves the table alone, or answers as `charge` does for
the booking and the key of the request. -/
theorem processCharge_cases (x : ChargeInputs) (payments : PaymentTable) (key xKey xUserId : Header)
    (body : ChargeBody) :
    (∃ e, processCharge x payments key xKey xUserId body = (.error e, payments)) ∨
    ∃ dto, idempotencyKey key xKey = some dto.idempotencyKey ∧
      dto.bookingId = body.bookingId.toText ∧ dto.userId = (xUserId.or body.userId).toText ∧
      processCharge x payments key xKey xUserId body = charge x payments dto := by
  unfold processCharge
  split
  · exact .inl ⟨_, rfl⟩
  · next k hk =>
    simp only
    split
    · exact .inl ⟨_, rfl⟩
    · split
      · exact .inl ⟨_, rfl⟩
      · split
        · exact .inl ⟨_, rfl⟩
        · exact .inr ⟨_, hk, rfl, rfl, rfl⟩

/-- A payment a charge adds is the user's of the request. -/
theorem userId_processCharge {x : ChargeInputs} {payments : PaymentTable}
    {key xKey xUserId : Header} {body : ChargeBody} {p : Payment}
    (h : p ∈ (processCharge x payments key xKey xUserId body).2.rows) :
    p ∈ payments.rows ∨ p.userId = trim (xUserId.or body.userId).toText := by
  rcases processCharge_cases x payments key xKey xUserId body with ⟨e, he⟩ | ⟨dto, -, -, hu, hc⟩
  · rw [he] at h
    exact .inl h
  · rw [hc] at h
    rcases charge_cases x payments dto with ⟨e, he⟩ | ⟨q, -, -, hr⟩ | ⟨q, payments', hch, hr⟩
    · rw [he] at h
      exact .inl h
    · rw [hr] at h
      exact .inl h
    · rw [hr, hch.rows, List.mem_append, List.mem_singleton] at h
      rcases h with h | rfl
      · exact .inl h
      · exact .inr (by rw [hch.userId, hu])

/-- The handler throws and leaves the table alone, or marks a `SUCCEEDED` payment. -/
theorem processRefund_cases (payments : PaymentTable) (id : String) :
    (∃ e, processRefund payments id = (.error e, payments)) ∨
      ∃ p, findById payments (trim id) = some p ∧ p.status = .SUCCEEDED ∧
        processRefund payments id =
          (.ok (p.withStatus .REFUNDED none), setStatus payments p.id .REFUNDED none) := by
  unfold processRefund
  split
  · exact .inl ⟨_, rfl⟩
  · rcases refund_cases payments (trim id) with h | ⟨p, hp, hs, h⟩
    · exact .inl h
    · rw [trim_trim] at hp
      exact .inr ⟨p, hp, hs, h⟩

end RouteGo.Payments.Controller
