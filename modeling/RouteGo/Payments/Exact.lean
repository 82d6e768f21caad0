import RouteGo.Payments.Controller
import Mathlib.Data.Rat.Floor

/-!
# Amounts and their column

The checks compare an amount with zero; the column keeps two decimals and eight
digits before them. Rounding is that of `round` on hundredths, so it leaves an
amount alone exactly when that is a whole number of hundredths, and what is
rounded or refused is so after the gateway has answered.
-/

namespace RouteGo.Payments

open Js

/-- The amount a column value stands for. -/
def Amount.value (a : Amount) : ℚ := a.hundredths / 100

theorem absHundredths_eq_round (q : ℚ) : (absHundredths q : ℤ) = round (100 * |q|) := by
  have hd : (q.den : ℚ) ≠ 0 := Nat.cast_ne_zero.mpr q.den_nz
  have habs : |q| = (q.num.natAbs : ℚ) / q.den := by
    conv_lhs => rw [← Rat.num_div_den q]
    rw [abs_div, Nat.abs_cast, Nat.cast_natAbs, Int.cast_abs]
  have hsum : 100 * |q| + 1 / 2 =
      ((200 * q.num.natAbs + q.den : ℕ) : ℚ) / ((2 * q.den : ℕ) : ℚ) := by
    rw [habs]
    push_cast
    field_simp
    ring
  rw [round_eq, hsum, Rat.floor_natCast_div_natCast, absHundredths]
  norm_cast

theorem roundHundredths_of_pos {q : ℚ} (hq : 0 < q) : roundHundredths q = round (100 * q) := by
  have hn : ¬ q.num < 0 := not_lt.mpr (Rat.num_pos.mpr hq).le
  rw [roundHundredths, if_neg hn, absHundredths_eq_round, abs_of_pos hq]

/-- A whole number of hundredths. -/
def WholeHundredths (q : ℚ) : Prop := ∃ n : ℤ, 100 * q = n

theorem amount_ofNumber_iff {q : ℚ} {a : Amount} :
    Amount.ofNumber (.fin q) = some a ↔ a.hundredths = roundHundredths q := by
  constructor
  · intro h
    simp only [Amount.ofNumber, Option.dite_none_right_eq_some, Option.some.injEq] at h
    obtain ⟨hb, rfl⟩ := h
    rfl
  · intro h
    obtain ⟨n, hb⟩ := a
    subst h
    simp only [Amount.ofNumber, hb, ↓reduceDIte]

/-- The column takes a positive amount and gives it back as it was exactly when
it is a whole number of hundredths and below `10 ^ 8`. -/
theorem exists_amount_eq_iff {q : ℚ} (hq : 0 < q) :
    (∃ a, Amount.ofNumber (.fin q) = some a ∧ a.value = q) ↔ WholeHundredths q ∧ q < 10 ^ 8 := by
  constructor
  · rintro ⟨a, ha, hv⟩
    have hw : 100 * q = a.hundredths := by
      rw [← hv, Amount.value]
      ring
    have hlt : a.hundredths < 10 ^ 10 := by
      have hb := a.bound
      omega
    refine ⟨⟨_, hw⟩, ?_⟩
    have hlt' : (a.hundredths : ℚ) < 10 ^ 10 := by exact_mod_cast hlt
    rw [← hw] at hlt'
    linarith
  · rintro ⟨⟨n, hn⟩, hlt⟩
    have hr : roundHundredths q = n := by rw [roundHundredths_of_pos hq, hn, round_intCast]
    have hpos : 0 < n := by
      have h100 : (0 : ℚ) < n := by rw [← hn]; positivity
      exact_mod_cast h100
    have hn10 : n < 10 ^ 10 := by
      have h10 : (n : ℚ) < 10 ^ 10 := by rw [← hn]; linarith
      exact_mod_cast h10
    refine ⟨⟨n, by omega⟩, amount_ofNumber_iff.mpr hr.symm, ?_⟩
    rw [Amount.value, ← hn]
    ring

/-! ## Charges -/

section
variable {x : ChargeInputs} {payments : PaymentTable} {dto : ChargeDto} {n : Number}

theorem validateCharge_of (hb : trim dto.bookingId ≠ "") (hu : trim dto.userId ≠ "")
    (hk : trim dto.idempotencyKey ≠ "") (hn : dto.amount = .number n)
    (ha : n.le (.ofInt 0) = false) : validateCharge dto = .ok (trim dto.idempotencyKey) := by
  simp [validateCharge, hb, hu, hk, hn, Value.toNumber, ha]

/-- A charge under a free key is stored as its column stores it, or throws after
the draw. -/
theorem charge_of_fresh (hv : validateCharge dto = .ok (trim dto.idempotencyKey))
    (hn : dto.amount = .number n)
    (hk : findByIdempotencyKey payments (trim dto.idempotencyKey) = none)
    (hid : findById payments x.id = none) (hf : x.findFails = false) (hc : x.createFails = false) :
    (∃ p payments', Amount.ofNumber n = some p.amount ∧ payments'.rows = payments.rows ++ [p] ∧
      charge x payments dto = (.ok (createdResult p.status p), payments')) ∨
    (Amount.ofNumber n = none ∧ charge x payments dto = (.error prismaError, payments)) := by
  have hdec : dto.amount.toDecimal = some n := by rw [hn]; rfl
  obtain ⟨data, hd⟩ : ∃ data, chargeData dto (trim dto.idempotencyKey) x.isSuccess = .ok data := by
    simp [chargeData, hdec]
  obtain ⟨hdn, -, -, -, hst, hdk, -⟩ := chargeData_ok hd
  obtain rfl : n = data.amount := Option.some.inj (hdec.symm.trans hdn)
  cases ha : Amount.ofNumber data.amount with
  | none =>
    have hcreate : createPayment payments x.id data = .error prismaError := by
      simp [createPayment, ha]
    exact .inr ⟨rfl, by simp [charge, hv, hf, hk, hd, hc, hcreate]⟩
  | some amount =>
    obtain ⟨p, payments', hcreate⟩ := createPayment_of_fresh ha (by rw [hdk]; exact hk) hid
    have hch := charged_of_createPayment hd hcreate
    obtain ⟨m, hm, hma⟩ := hch.amount
    obtain rfl : data.amount = m := Option.some.inj (hdn.symm.trans hm)
    refine .inl ⟨p, payments', ha.symm.trans hma, hch.rows, ?_⟩
    have hs : p.status = data.status := hch.status.trans hst.symm
    simp [charge, hv, hf, hk, hd, hc, hcreate, hs]

end

namespace Controller

/-- A request with a new key whose user and booking pass the checks, while no
database call fails. -/
structure FreshCharge (x : ChargeInputs) (payments : PaymentTable) (key xKey xUserId : Header)
    (body : ChargeBody) : Prop where
  key : ∃ k, idempotencyKey key xKey = some k ∧ findByIdempotencyKey payments (trim k) = none
  userId : isMissing (xUserId.or body.userId) = false
  bookingId : isMissing body.bookingId = false
  id : findById payments x.id = none
  finds : x.findFails = false
  creates : x.createFails = false

/-- The charge returns a payment it has added, of exactly the amount `q`. -/
def PersistsExactly (x : ChargeInputs) (payments : PaymentTable) (key xKey xUserId : Header)
    (body : ChargeBody) (q : ℚ) : Prop :=
  ∃ r payments', processCharge x payments key xKey xUserId body = (.ok r, payments') ∧
    payments'.rows = payments.rows ++ [r.payment] ∧ 0 < r.payment.amount.value ∧
    r.payment.amount.value = q

section
variable {x : ChargeInputs} {payments : PaymentTable} {key xKey xUserId : Header}
  {body : ChargeBody} {q : ℚ}

theorem trim_ne_of_isMissing {v : Value} (h : isMissing v = false) : trim v.toText ≠ "" := by
  simp only [isMissing, Bool.or_eq_false_iff, decide_eq_false_iff_not] at h
  exact h.2

theorem trim_ne_of_idempotencyKey {k : String} (h : idempotencyKey key xKey = some k) :
    trim k ≠ "" := by
  unfold idempotencyKey at h
  simp only at h
  split at h
  · cases h
  · next hm =>
    cases h
    exact trim_ne_of_isMissing (Bool.eq_false_iff.mpr hm)

/-- An accepted amount is passed on to `charge`, whose checks accept it too. -/
theorem processCharge_of_accepted (h : FreshCharge x payments key xKey xUserId body)
    (hq : body.amount.toNumber = .fin q) (ha : (Number.fin q).le (.ofInt 0) = false) :
    ∃ dto, dto.amount = .number (.fin q) ∧ validateCharge dto = .ok (trim dto.idempotencyKey) ∧
      findByIdempotencyKey payments (trim dto.idempotencyKey) = none ∧
      processCharge x payments key xKey xUserId body = charge x payments dto := by
  obtain ⟨k, hk, hfresh⟩ := h.key
  have hdef : body.amount ≠ .undefined := by
    intro hu
    rw [hu] at hq
    cases hq
  have hcheck : ¬ (body.amount = .undefined ∨ (Number.fin q).isNaN = true ∨
      (Number.fin q).le (.ofInt 0) = true) := by
    simp [hdef, Number.isNaN, ha]
  refine ⟨⟨body.bookingId.toText, (xUserId.or body.userId).toText, .number (.fin q),
    if body.currency.truthy then some body.currency.toText else none, k⟩, rfl, ?_, hfresh, ?_⟩
  · exact validateCharge_of (trim_ne_of_isMissing h.bookingId) (trim_ne_of_isMissing h.userId)
      (trim_ne_of_idempotencyKey hk) rfl ha
  · simp only [processCharge, hk, h.userId, h.bookingId, hq, Bool.false_eq_true, if_false]
    rw [if_neg hcheck]

theorem persistsExactly_iff_amount (h : FreshCharge x payments key xKey xUserId body)
    (hq : body.amount.toNumber = .fin q) (ha : (Number.fin q).le (.ofInt 0) = false)
    (hpos : 0 < q) : PersistsExactly x payments key xKey xUserId body q ↔
      ∃ a, Amount.ofNumber (.fin q) = some a ∧ a.value = q := by
  obtain ⟨dto, hn, hv, hk, hcall⟩ := processCharge_of_accepted h hq ha
  unfold PersistsExactly
  rw [hcall]
  rcases charge_of_fresh hv hn hk h.id h.finds h.creates with
    ⟨p, payments', hp, hrows, hr⟩ | ⟨hnone, hr⟩
  · rw [hr]
    constructor
    · rintro ⟨r, bs, hr', -, -, hval⟩
      cases hr'
      exact ⟨_, hp, hval⟩
    · rintro ⟨a, ha', hval⟩
      obtain rfl : p.amount = a := Option.some.inj (hp.symm.trans ha')
      exact ⟨_, _, rfl, hrows, by rw [createdResult, hval]; exact hpos, hval⟩
  · rw [hr, hnone]
    constructor
    · rintro ⟨r, bs, hr', -⟩
      cases hr'
    · rintro ⟨a, ha', -⟩
      cases ha'

theorem not_le_zero_iff : (Number.fin q).le (.ofInt 0) = false ↔ 0 < q := by
  simp [Number.le, Number.ge, Number.lt, Number.ofInt]

/-- **What is charged is what is stored** exactly when the amount is a whole
number of hundredths below `10 ^ 8`; any other accepted amount is stored as
another one, or refused when the outcome has been drawn. -/
theorem persistsExactly_iff (h : FreshCharge x payments key xKey xUserId body)
    (hq : body.amount.toNumber = .fin q) (ha : (Number.fin q).le (.ofInt 0) = false) :
    PersistsExactly x payments key xKey xUserId body q ↔ WholeHundredths q ∧ q < 10 ^ 8 := by
  have hpos := not_le_zero_iff.mp ha
  rw [persistsExactly_iff_amount h hq ha hpos, exists_amount_eq_iff hpos]

end

/-- A charge of `q` for one booking, on the empty table. -/
def chargeBody (q : ℚ) : ChargeBody := ⟨.string "b1", .undefined, .number (.fin q), .undefined⟩

theorem chargeBody_fresh (q : ℚ) (isSuccess : Bool) : FreshCharge ⟨"p1", isSuccess, false, false⟩
    PaymentTable.empty (some "key") none (some "ann") (chargeBody q) :=
  ⟨⟨"key", by decide, rfl⟩, show isMissing (.string "ann") = false by decide,
    show isMissing (.string "b1") = false by decide, rfl, rfl, rfl⟩

/-- 450.25 is stored as it is. -/
theorem persistsExactly_iff_cents : PersistsExactly ⟨"p1", true, false, false⟩ PaymentTable.empty
    (some "key") none (some "ann") (chargeBody (45025 / 100)) (45025 / 100) :=
  (persistsExactly_iff (chargeBody_fresh _ _) rfl (not_le_zero_iff.mpr (by norm_num))).mpr
    ⟨⟨45025, by norm_num⟩, by norm_num⟩

/-- **A charge of 0.001 is stored as a charge of nothing.** -/
theorem not_persistsExactly_tenth_cent : ¬ ∀ (x : ChargeInputs) (payments : PaymentTable)
    (key xKey xUserId : Header) (body : ChargeBody) (q : ℚ),
    FreshCharge x payments key xKey xUserId body → body.amount.toNumber = .fin q →
    (Number.fin q).le (.ofInt 0) = false → PersistsExactly x payments key xKey xUserId body q := by
  intro h
  have hpos : (0 : ℚ) < 1 / 1000 := by norm_num
  have hle := not_le_zero_iff.mpr hpos
  have hq := h ⟨"p1", true, false, false⟩ PaymentTable.empty (some "key") none (some "ann")
    (chargeBody (1 / 1000)) (1 / 1000) (chargeBody_fresh _ _) rfl hle
  rw [persistsExactly_iff_amount (chargeBody_fresh _ _) rfl hle hpos] at hq
  obtain ⟨a, ha, hval⟩ := hq
  have h0 : roundHundredths (1 / 1000) = 0 := by
    rw [roundHundredths_of_pos hpos]
    norm_num
  rw [Amount.value, amount_ofNumber_iff.mp ha, h0] at hval
  norm_num at hval

end Controller

end RouteGo.Payments
