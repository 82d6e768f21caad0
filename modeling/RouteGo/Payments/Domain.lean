import RouteGo.Js.Text
import RouteGo.Lib.Table
import RouteGo.Utils.HttpErrors

/-!
# Payments

The `Payment` row of `schema.prisma` and its table: `Amount` is a
`DECIMAL(10,2)`, and a `PaymentTable` has no two rows of one `idempotencyKey`.
-/

namespace RouteGo.Payments

open Js

inductive PaymentStatus where
  | SUCCEEDED
  | FAILED
  | REFUNDED
  deriving DecidableEq, Repr

def PaymentStatus.toText : PaymentStatus → String
  | .SUCCEEDED => "SUCCEEDED"
  | .FAILED => "FAILED"
  | .REFUNDED => "REFUNDED"

/-! ## The column `amount` -/

/-- A `DECIMAL(10,2)`, in hundredths. -/
structure Amount where
  hundredths : Int
  bound : hundredths.natAbs < 10 ^ 10
  deriving DecidableEq

/-- `100 * |q|`, halves rounded up. -/
def absHundredths (q : ℚ) : Nat := (200 * q.num.natAbs + q.den) / (2 * q.den)

/-- To two places, halves away from zero. -/
def roundHundredths (q : ℚ) : Int := if q.num < 0 then -absHundredths q else absHundredths q

/-- The value the column stores; `none` is a refused write. -/
def Amount.ofNumber : Number → Option Amount
  | .fin q => if h : (roundHundredths q).natAbs < 10 ^ 10 then some ⟨roundHundredths q, h⟩ else none
  | _ => none

/-! ## Rows -/

structure Payment where
  id : String
  bookingId : String
  userId : String
  amount : Amount
  currency : String
  status : PaymentStatus
  idempotencyKey : String
  failureReason : Option String
  deriving DecidableEq

instance : Keyed Payment String := ⟨Payment.id⟩

@[simp] theorem key_payment (p : Payment) : key p = p.id := rfl

structure PaymentTable where
  table : Table Payment
  keys : table.Distinct Payment.idempotencyKey

namespace PaymentTable

def empty : PaymentTable := ⟨Table.empty, List.nodup_nil⟩

abbrev rows (t : PaymentTable) : List Payment := t.table.rows

theorem eq_of_key {t : PaymentTable} {p q : Payment} (hp : p ∈ t.rows) (hq : q ∈ t.rows)
    (h : p.idempotencyKey = q.idempotencyKey) : p = q := t.keys.eq hp hq h

theorem eq_of_id {t : PaymentTable} {p q : Payment} (hp : p ∈ t.rows) (hq : q ∈ t.rows)
    (h : p.id = q.id) : p = q := Table.eq_of_key_eq hp hq h

end PaymentTable

end RouteGo.Payments
