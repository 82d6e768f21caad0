import RouteGo.Payments.Repository

/-!
# `PaymentService`

The methods of `payment.service.ts`, each run to its end without interruption.
The outcome the gateway simulation draws, the id the database gives and which
database calls throw are arguments.
-/

namespace RouteGo.Payments

open Js

structure ChargeDto where
  bookingId : String
  userId : String
  amount : Value
  currency : Option String
  idempotencyKey : String

structure ChargeResult where
  success : Bool
  paymentId : String
  status : PaymentStatus
  failureReason : Option String
  payment : Payment
  isIdempotentReplay : Bool

/-! ## Charges -/

def bookingIdRequired : AppError := .ValidationError "Booking ID is required"

def userIdRequired : AppError := .ValidationError "User ID is required"

def amountNotPositive : AppError := .ValidationError "Amount must be a positive number"

/-- The checks of `charge`; the result is `trimmedKey`. -/
def validateCharge (dto : ChargeDto) : Result String :=
  if trim dto.bookingId = "" then .error bookingIdRequired
  else if trim dto.userId = "" then .error userIdRequired
  else if dto.amount = .undefined ∨ dto.amount.toNumber.le (.ofInt 0) = true then
    .error amountNotPositive
  else if trim dto.idempotencyKey = "" then .error (.ValidationError "Idempotency key is required")
  else .ok (trim dto.idempotencyKey)

/-- `dto.currency?.trim() || "INR"` -/
def currencyOf : Option String → String
  | some c => if trim c = "" then "INR" else trim c
  | none => "INR"

def outcomeStatus (isSuccess : Bool) : PaymentStatus := if isSuccess then .SUCCEEDED else .FAILED

def outcomeReason (isSuccess : Bool) : Option String :=
  if isSuccess then none else some "Card declined or insufficient funds (simulated)"

/-- What `charge` inserts after the outcome was drawn. -/
def chargeData (dto : ChargeDto) (trimmedKey : String) (isSuccess : Bool) :
    Result PaymentCreateInput :=
  match dto.amount.toDecimal with
  | none => .error (.Error ("[DecimalError] Invalid argument: " ++ dto.amount.toText))
  | some amount => .ok {
      bookingId := trim dto.bookingId
      userId := trim dto.userId
      amount := amount
      currency := currencyOf dto.currency
      status := outcomeStatus isSuccess
      idempotencyKey := trimmedKey
      failureReason := outcomeReason isSuccess }

/-- The answer for a payment that exists already. -/
def replayResult (existing : Payment) : ChargeResult where
  success := decide (existing.status = .SUCCEEDED)
  paymentId := existing.id
  status := existing.status
  failureReason := existing.failureReason
  payment := existing
  isIdempotentReplay := true

def createdResult (status : PaymentStatus) (created : Payment) : ChargeResult where
  success := decide (status = .SUCCEEDED)
  paymentId := created.id
  status := created.status
  failureReason := created.failureReason
  payment := created
  isIdempotentReplay := false

/-- What one call of `charge` takes from outside. -/
structure ChargeInputs where
  id : String
  isSuccess : Bool
  findFails : Bool := false
  createFails : Bool := false

def charge (x : ChargeInputs) (payments : PaymentTable) (dto : ChargeDto) :
    Result ChargeResult × PaymentTable :=
  match validateCharge dto with
  | .error e => (.error e, payments)
  | .ok trimmedKey =>
    if x.findFails then (.error prismaError, payments)
    else match findByIdempotencyKey payments trimmedKey with
      | some existing => (.ok (replayResult existing), payments)
      | none =>
        match chargeData dto trimmedKey x.isSuccess with
        | .error e => (.error e, payments)
        | .ok data =>
          if x.createFails then (.error prismaError, payments)
          else match createPayment payments x.id data with
            | .error e => (.error e, payments)
            | .ok (created, payments') => (.ok (createdResult data.status created), payments')

/-! ## Refunds -/

def paymentIdRequired : AppError := .ValidationError "Payment ID is required"

def paymentNotFound (paymentId : String) : AppError :=
  .NotFoundError ("Payment with ID '" ++ paymentId ++ "' not found")

def alreadyRefunded : AppError := .ConflictError "Payment has already been refunded"

def neverSucceeded (s : PaymentStatus) : AppError :=
  .ValidationError ("Cannot refund a payment that never succeeded (current status: " ++
    s.toText ++ ")")

/-- The checks `refund` makes on the row it found. -/
def guardRefund (payment : Payment) : Result Unit :=
  if payment.status = .REFUNDED then .error alreadyRefunded
  else if payment.status ≠ .SUCCEEDED then .error (neverSucceeded payment.status)
  else .ok ()

def refund (payments : PaymentTable) (paymentId : String) : Result Payment × PaymentTable :=
  if trim paymentId = "" then (.error paymentIdRequired, payments)
  else match findById payments (trim paymentId) with
    | none => (.error (paymentNotFound paymentId), payments)
    | some payment =>
      match guardRefund payment with
      | .error e => (.error e, payments)
      | .ok () => updateStatus payments payment.id .REFUNDED

def getPayment (payments : PaymentTable) (paymentId : String) : Result Payment :=
  if trim paymentId = "" then .error paymentIdRequired
  else match findById payments (trim paymentId) with
    | none => .error (paymentNotFound paymentId)
    | some payment => .ok payment

/-! ## What a call does -/

section
variable {payments payments' : PaymentTable} {dto : ChargeDto} {x : ChargeInputs} {p : Payment}

theorem validateCharge_ok {key : String} (h : validateCharge dto = .ok key) :
    key = trim dto.idempotencyKey ∧ key ≠ "" ∧ trim dto.bookingId ≠ "" ∧ trim dto.userId ≠ "" := by
  unfold validateCharge at h
  split at h
  · cases h
  · next hb =>
    split at h
    · cases h
    · next hu =>
      split at h
      · cases h
      · split at h
        · cases h
        · next hk => cases h; exact ⟨rfl, hk, hb, hu⟩

/-- `p` is the row a charge adds under a key that was free. -/
structure Charged (x : ChargeInputs) (payments : PaymentTable) (dto : ChargeDto) (p : Payment)
    (payments' : PaymentTable) : Prop where
  fresh : findByIdempotencyKey payments (trim dto.idempotencyKey) = none
  rows : payments'.rows = payments.rows ++ [p]
  id : p.id = x.id
  bookingId : p.bookingId = trim dto.bookingId
  userId : p.userId = trim dto.userId
  amount : ∃ n, dto.amount.toDecimal = some n ∧ Amount.ofNumber n = some p.amount
  currency : p.currency = currencyOf dto.currency
  status : p.status = outcomeStatus x.isSuccess
  idempotencyKey : p.idempotencyKey = trim dto.idempotencyKey
  failureReason : p.failureReason = outcomeReason x.isSuccess

theorem chargeData_ok {key : String} {isSuccess : Bool} {data : PaymentCreateInput}
    (h : chargeData dto key isSuccess = .ok data) :
    dto.amount.toDecimal = some data.amount ∧ data.bookingId = trim dto.bookingId ∧
      data.userId = trim dto.userId ∧ data.currency = currencyOf dto.currency ∧
      data.status = outcomeStatus isSuccess ∧ data.idempotencyKey = key ∧
      data.failureReason = outcomeReason isSuccess := by
  unfold chargeData at h
  split at h
  · cases h
  · next hn => cases h; exact ⟨hn, rfl, rfl, rfl, rfl, rfl, rfl⟩

theorem charged_of_createPayment {data : PaymentCreateInput}
    (hd : chargeData dto (trim dto.idempotencyKey) x.isSuccess = .ok data)
    (h : createPayment payments x.id data = .ok (p, payments')) :
    Charged x payments dto p payments' := by
  obtain ⟨hn, hb, hu, hc, hs, hk, hf⟩ := chargeData_ok hd
  obtain ⟨st, hr, hfresh⟩ := createPayment_ok h
  exact {
    fresh := hk ▸ hfresh
    rows := hr
    id := st.id
    bookingId := st.bookingId.trans hb
    userId := st.userId.trans hu
    amount := ⟨_, hn, st.amount⟩
    currency := st.currency.trans hc
    status := st.status.trans hs
    idempotencyKey := st.idempotencyKey.trans hk
    failureReason := st.failureReason.trans hf }

/-- `charge` throws and leaves the table alone, answers with the payment of its
key, or adds one. -/
theorem charge_cases (x : ChargeInputs) (payments : PaymentTable) (dto : ChargeDto) :
    (∃ e, charge x payments dto = (.error e, payments)) ∨
    (∃ p ∈ payments.rows, p.idempotencyKey = trim dto.idempotencyKey ∧
      charge x payments dto = (.ok (replayResult p), payments)) ∨
    ∃ p payments', Charged x payments dto p payments' ∧
      charge x payments dto = (.ok (createdResult p.status p), payments') := by
  unfold charge
  split
  · exact .inl ⟨_, rfl⟩
  · next key hv =>
    obtain ⟨rfl, -, -, -⟩ := validateCharge_ok hv
    split
    · exact .inl ⟨_, rfl⟩
    · split
      · next existing hf =>
        obtain ⟨hm, hk⟩ := findByIdempotencyKey_eq_some.mp hf
        exact .inr (.inl ⟨existing, hm, hk, rfl⟩)
      · split
        · exact .inl ⟨_, rfl⟩
        · next data hd =>
          split
          · exact .inl ⟨_, rfl⟩
          · split
            · exact .inl ⟨_, rfl⟩
            · next created payments' hc =>
              have hch := charged_of_createPayment hd hc
              have hs : created.status = data.status :=
                hch.status.trans (chargeData_ok hd).2.2.2.2.1.symm
              exact .inr (.inr ⟨created, payments', hch, by rw [hs]⟩)

theorem guardRefund_ok (h : guardRefund p = .ok ()) : p.status = .SUCCEEDED := by
  unfold guardRefund at h
  split at h
  · cases h
  · split at h
    · cases h
    · next hs => exact not_not.mp hs

/-- `refund` throws and leaves the table alone, or marks a `SUCCEEDED` payment. -/
theorem refund_cases (payments : PaymentTable) (paymentId : String) :
    (∃ e, refund payments paymentId = (.error e, payments)) ∨
      ∃ p, findById payments (trim paymentId) = some p ∧ p.status = .SUCCEEDED ∧
        refund payments paymentId =
          (.ok (p.withStatus .REFUNDED none), setStatus payments p.id .REFUNDED none) := by
  unfold refund
  split
  · exact .inl ⟨_, rfl⟩
  · split
    · exact .inl ⟨_, rfl⟩
    · next p hp =>
      split
      · exact .inl ⟨_, rfl⟩
      · next hg =>
        have hid : p.id = trim paymentId := Table.key_of_find hp
        refine .inr ⟨p, hp, guardRefund_ok hg, ?_⟩
        rw [updateStatus_of_find _ _ (by rw [hid]; exact hp)]

end

end RouteGo.Payments
