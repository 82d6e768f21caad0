import RouteGo.Payments.Domain

/-!
# The payment table

`payment.repository.ts`. `createPayment` is refused by the unique index on
`idempotencyKey`, by the primary key and by the column `amount`.
-/

namespace RouteGo.Payments

open Js

def findByIdempotencyKey (payments : PaymentTable) (key : String) : Option Payment :=
  payments.rows.find? fun p => decide (p.idempotencyKey = key)

def findById (payments : PaymentTable) (id : String) : Option Payment := payments.table.find id

structure PaymentCreateInput where
  bookingId : String
  userId : String
  amount : Number
  currency : String
  status : PaymentStatus
  idempotencyKey : String
  failureReason : Option String

/-- The error of the unique index, which the service does not inspect either. -/
def uniqueError : AppError := .Error "Unique constraint failed on the fields: (idempotencyKey)"

/-- `prisma.payment.create`; the database gives the row its `id`. -/
def createPayment (payments : PaymentTable) (id : String) (data : PaymentCreateInput) :
    Result (Payment × PaymentTable) :=
  match Amount.ofNumber data.amount with
  | none => .error prismaError
  | some amount =>
    let row : Payment := ⟨id, data.bookingId, data.userId, amount, data.currency, data.status,
      data.idempotencyKey, data.failureReason⟩
    if hk : ∀ p ∈ payments.rows, p.idempotencyKey ≠ row.idempotencyKey then
      match hi : payments.table.insert row with
      | some table => .ok (row, ⟨table, payments.keys.insert hi hk⟩)
      | none => .error prismaError
    else .error uniqueError

/-- What an update writes; an absent `failureReason` is left as it is. -/
def Payment.withStatus (status : PaymentStatus) (failureReason : Option (Option String))
    (p : Payment) : Payment :=
  { p with status := status, failureReason := failureReason.getD p.failureReason }

theorem Payment.key_withStatus {status : PaymentStatus} {failureReason : Option (Option String)}
    (p : Payment) : key (p.withStatus status failureReason) = key p := rfl

def setStatus (payments : PaymentTable) (id : String) (status : PaymentStatus)
    (failureReason : Option (Option String)) : PaymentTable where
  table := payments.table.modify id (Payment.withStatus status failureReason) Payment.key_withStatus
  keys := payments.keys.modify fun _ => rfl

/-- `prisma.payment.update`, which throws when there is no such row. -/
def updateStatus (payments : PaymentTable) (id : String) (status : PaymentStatus)
    (failureReason : Option (Option String) := none) : Result Payment × PaymentTable :=
  match findById payments id with
  | some p => (.ok (p.withStatus status failureReason), setStatus payments id status failureReason)
  | none => (.error prismaError, payments)

section
variable {payments payments' : PaymentTable} {id key : String} {p : Payment}

theorem findByIdempotencyKey_eq_some : findByIdempotencyKey payments key = some p ↔
    p ∈ payments.rows ∧ p.idempotencyKey = key := by
  constructor
  · intro h
    exact ⟨List.mem_of_find?_eq_some h, by simpa using List.find?_some h⟩
  · rintro ⟨hp, rfl⟩
    cases hf : findByIdempotencyKey payments p.idempotencyKey with
    | none => simpa using List.find?_eq_none.mp hf p hp
    | some q =>
      have hq : q.idempotencyKey = p.idempotencyKey := by simpa using List.find?_some hf
      rw [PaymentTable.eq_of_key (List.mem_of_find?_eq_some hf) hp hq]

theorem findByIdempotencyKey_eq_none : findByIdempotencyKey payments key = none ↔
    ∀ p ∈ payments.rows, p.idempotencyKey ≠ key := by
  simp [findByIdempotencyKey]

/-- `b` is the row `data` describes, as the columns store it. -/
structure Stores (id : String) (data : PaymentCreateInput) (p : Payment) : Prop where
  id : p.id = id
  bookingId : p.bookingId = data.bookingId
  userId : p.userId = data.userId
  amount : Amount.ofNumber data.amount = some p.amount
  currency : p.currency = data.currency
  status : p.status = data.status
  idempotencyKey : p.idempotencyKey = data.idempotencyKey
  failureReason : p.failureReason = data.failureReason

theorem createPayment_ok {data : PaymentCreateInput}
    (h : createPayment payments id data = .ok (p, payments')) :
    Stores id data p ∧ payments'.rows = payments.rows ++ [p] ∧
      findByIdempotencyKey payments data.idempotencyKey = none := by
  unfold createPayment at h
  split at h
  · cases h
  · next amount ha =>
    simp only at h
    split at h
    · next hk =>
      split at h
      · next table hi =>
        cases h
        exact ⟨⟨rfl, rfl, rfl, ha, rfl, rfl, rfl, rfl⟩, Table.rows_of_insert hi,
          findByIdempotencyKey_eq_none.mpr hk⟩
      · cases h
    · cases h

/-- A fresh key, a fresh id and an amount the column takes. -/
theorem createPayment_of_fresh {data : PaymentCreateInput} {amount : Amount}
    (ha : Amount.ofNumber data.amount = some amount)
    (hk : findByIdempotencyKey payments data.idempotencyKey = none)
    (hid : findById payments id = none) :
    ∃ p payments', createPayment payments id data = .ok (p, payments') := by
  unfold createPayment
  rw [ha]
  simp only
  rw [dif_pos (findByIdempotencyKey_eq_none.mp hk)]
  split
  · exact ⟨_, _, rfl⟩
  · next hi =>
    obtain ⟨table, ht⟩ := Table.exists_insert (t := payments.table)
      (r := ⟨id, data.bookingId, data.userId, amount, data.currency, data.status,
        data.idempotencyKey, data.failureReason⟩) hid
    rw [hi] at ht
    cases ht

theorem updateStatus_of_find (s : PaymentStatus) (r : Option (Option String))
    (h : findById payments id = some p) :
    updateStatus payments id s r = (.ok (p.withStatus s r), setStatus payments id s r) := by
  simp [updateStatus, h]

theorem findById_setStatus_self (s : PaymentStatus) (r : Option (Option String))
    (h : findById payments id = some p) :
    findById (setStatus payments id s r) id = some (p.withStatus s r) := by
  show (payments.table.modify id (Payment.withStatus s r) Payment.key_withStatus).find id = _
  exact Table.find_modify_self h

theorem mem_setStatus {s : PaymentStatus} {r : Option (Option String)} {x : Payment} :
    x ∈ (setStatus payments id s r).rows ↔ (x ∈ payments.rows ∧ x.id ≠ id) ∨
      ∃ p ∈ payments.rows, p.id = id ∧ x = p.withStatus s r := by
  show x ∈ (payments.table.modify id (Payment.withStatus s r) Payment.key_withStatus).rows ↔ _
  rw [Table.mem_modify]
  rfl

end

end RouteGo.Payments
