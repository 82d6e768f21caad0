import RouteGo.Bookings.Commute
import RouteGo.Payments.Exact
import RouteGo.Orchestrator.Reply

/-!
# Validated here, refused there

`confirmBooking` compares its numbers and looks whether its texts are empty. The
services behind it get `null` for `NaN` and the infinities, test for `NaN`, and
trim. The hold is refused by no validation exactly when the stops are finite; the
charge of a booking that is held, exactly when the amount is. A request whose ids or
stops the columns of the booking do not take is never held, and not charged for.
-/

namespace RouteGo.Orchestrator

open Js Bookings Payments

/-- Not refused by a validation. -/
def NotInvalid {α : Type} (r : Result α) : Prop := ∀ m, r ≠ .error (.ValidationError m)

/-! ## The hold -/

section
variable {env : Env} {x : HoldInputs} {w : Bookings.World} {a : HoldArgs} {bookings : BookingTable}
  {e : AppError}

theorem error_of_createBooking {C : IdColumn} {id : String} {data : BookingCreateInput}
    (h : createBooking C bookings id data = .error e) : e = prismaError := by
  unfold createBooking at h
  split at h
  · simp only at h
    split at h
    · cases h
    · cases h; rfl
  · cases h; rfl

theorem error_of_findCall (h : findCall env x bookings a = .error e) : e = prismaError := by
  unfold findCall findActive at h
  split at h
  · cases h; rfl
  · unfold findActiveBookingsForSeat at h
    split at h <;> cases h
    rfl

theorem error_of_createCall (h : createCall env x bookings a = .error e) : e = prismaError := by
  unfold createCall at h
  split at h
  · cases h; rfl
  · exact error_of_createBooking h

theorem error_of_acquireLock {locks : Locks} {key v : String} {ttl now : Int}
    (h : acquireLock locks key v ttl now = .error e) : e = redisError := by
  unfold acquireLock at h
  split at h
  · cases h; rfl
  · split at h <;> cases h

/-- Valid arguments are not refused. -/
theorem notInvalid_createHold (hu : a.userId ≠ "") (hv : a.Valid) :
    NotInvalid (Bookings.createHold env x w a).1 := by
  intro m h
  unfold Bookings.createHold at h
  rw [if_neg hu] at h
  split at h
  · next e he =>
    rw [error_of_acquireLock he] at h
    cases h
  · cases h
  · rcases holdInLock_outcome env x w.bookings a with ⟨b, bookings', hh, -⟩ | ⟨e, hh, hraise⟩
    · simp only [hh] at h
      cases h
    · simp only [hh] at h
      cases h
      cases hraise with
      | segment hs =>
        obtain ⟨seg, hseg⟩ := hv
        rw [hseg] at hs
        cases hs
      | find _ hf => cases error_of_findCall hf
      | create _ _ _ hc => cases error_of_createCall hc

/-- Invalid stops are refused when nobody holds the lock. -/
theorem createHold_of_invalid {m : String} (hu : a.userId ≠ "") (ht : 0 < lockTtlMs env)
    (hl : w.locks.holder (lockKey a.tripId a.seatId) x.tAcquire = none)
    (h : validateSegment a.tripId a.seatId a.fromSeq a.toSeq = .error (.ValidationError m)) :
    (Bookings.createHold env x w a).1 = .error (.ValidationError m) := by
  obtain ⟨locks, hac, -, -⟩ := acquireLock_of_free (v := x.lockValue) ht hl
  simp [Bookings.createHold, hu, hac, holdInLock, checkAvailability, h, bind, Except.bind]

end

/-- A number that JSON can send. -/
def finite : Number → Bool
  | .fin _ => true
  | _ => false

theorem viaJson_string (s : String) : (Value.string s).viaJson = .string s := rfl

theorem toSeq_viaJson (n : Number) :
    (Value.number n).viaJson.toSeq = if finite n then n else .nan := by
  cases n <;> rfl

theorem toNumber_viaJson (n : Number) :
    (Value.number n).viaJson.toNumber = if finite n then n else .ofInt 0 := by
  cases n <;> rfl

/-- The fields of an input the first validation accepts. -/
structure Accepted (input : ConfirmBookingInput) (tripId seatId : String)
    (f t a : Number) : Prop where
  trip : input.tripId = .string tripId
  seat : input.seatId = .string seatId
  fromStop : input.fromStopSeq = .number f
  toStop : input.toStopSeq = .number t
  amount : input.amount = .number a
  trip_ne : tripId ≠ ""
  seat_ne : seatId ≠ ""
  user_ne : input.userId ≠ ""
  order : f.ge t = false
  positive : a.le (.ofInt 0) = false

theorem accepted_of_validateConfirm {input : ConfirmBookingInput} {tripId seatId : String}
    (ht : input.tripId = .string tripId) (hs : input.seatId = .string seatId)
    (h : validateConfirm input = .ok ()) : ∃ f t a, Accepted input tripId seatId f t a := by
  unfold validateConfirm at h
  split at h
  · cases h
  · next hids =>
    rw [ht, hs] at hids
    simp only [Value.truthy, Bool.or_eq_true, Bool.not_eq_true', decide_eq_false_iff_not,
      not_not, decide_eq_true_eq, not_or] at hids
    obtain ⟨⟨htne, hsne⟩, hune⟩ := hids
    split at h
    · next f t hf hto =>
      split at h
      · cases h
      · next hge =>
        split at h
        · next a ha =>
          split at h
          · cases h
          · next hle =>
            exact ⟨f, t, a, ht, hs, hf, hto, ha, htne, hsne, hune, Bool.eq_false_iff.mpr hge,
              Bool.eq_false_iff.mpr hle⟩
        · cases h
    · cases h

/-- The user of the hold request: of the header, else of the body. -/
def sentUser (userId : String) : String := if onWire userId = "" then userId else onWire userId

/-- The hold request as the booking service gets it. -/
def holdArgs (input : ConfirmBookingInput) : HoldArgs :=
  ⟨input.tripId.toText, input.seatId.toText, sentUser input.userId,
    .number input.fromStopSeq.viaJson.toSeq, .number input.toStopSeq.viaJson.toSeq⟩

section
variable {input : ConfirmBookingInput} {tripId seatId : String} {f t a : Number}

theorem header_sentUser (userId : String) :
    Header.or (some (onWire userId)) (.string userId) = .string (sentUser userId) := by
  simp only [Header.or, sentUser]
  split <;> rfl

theorem sentUser_ne (h : Accepted input tripId seatId f t a) : sentUser input.userId ≠ "" := by
  unfold sentUser
  split
  · exact h.user_ne
  · assumption

/-- A user whose id is stored is not blank. -/
theorem trim_of_sentUser {userId c : String}
    (h : IdColumn.uuid.keep (sentUser userId) = some c) : trim userId ≠ "" := by
  have hn := noSpace_of_keep h
  intro ht
  have hsent : trim (sentUser userId) = "" := by
    unfold sentUser
    split
    · exact ht
    · exact trim_onWire_eq_empty_iff.mpr ht
  rw [trim_of_noSpace hn] at hsent
  exact hn.1 hsent

/-- What the handler makes of the hold request. -/
theorem createHold_of_accepted (h : Accepted input tripId seatId f t a) (env : Env) (x : StepIn)
    (w : World) : (createHold env x (holdRequest input) w).1 =
      (Bookings.createHold env (holdInputs w.clock x.rowId x.lockValue x.delays x.faults)
        ⟨w.bookings, w.locks⟩ (holdArgs input)).1 := by
  have hu := sentUser_ne h
  simp only [createHold, holdRequest, holdArgs, h.trip, h.seat, h.fromStop, h.toStop,
    Bookings.Controller.createHold, header_sentUser, viaJson_string]
  simp [Value.truthy, hu, Value.toText]

/-- Finite stops are in order. -/
theorem valid_of_finite (h : Accepted input tripId seatId f t a) (hf : finite f = true)
    (ht : finite t = true) : (holdArgs input).Valid := by
  have hlt : f.lt t = true := by
    refine Number.lt_of_not_ge ?_ ?_ h.order
    · cases f <;> first | rfl | cases hf
    · cases t <;> first | rfl | cases ht
  refine HoldArgs.valid_iff.mpr ⟨?_, ?_, f, t, ?_, ?_, hlt⟩
  · rw [holdArgs, h.trip]; exact h.trip_ne
  · rw [holdArgs, h.seat]; exact h.seat_ne
  · rw [holdArgs, h.fromStop, toSeq_viaJson, if_pos hf]
  · rw [holdArgs, h.toStop, toSeq_viaJson, if_pos ht]

theorem notInvalid_hold_iff (h : Accepted input tripId seatId f t a) :
    (∀ env x w, env.ids = .uuid → NotInvalid (createHold env x (holdRequest input) w).1) ↔
      finite f = true ∧ finite t = true := by
  constructor
  · intro hall
    by_contra hfin
    have hnan : input.fromStopSeq.viaJson.toSeq.isNaN = true ∨
        input.toStopSeq.viaJson.toSeq.isNaN = true := by
      rw [h.fromStop, h.toStop, toSeq_viaJson, toSeq_viaJson]
      cases hf : finite f with
      | false => exact .inl rfl
      | true =>
        cases ht : finite t with
        | false => exact .inr rfl
        | true => exact absurd ⟨hf, ht⟩ hfin
    have hids : ¬ ((holdArgs input).tripId = "" ∨ (holdArgs input).seatId = "") := by
      rw [holdArgs, h.trip, h.seat]
      exact not_or.mpr ⟨h.trip_ne, h.seat_ne⟩
    have hinv : validateSegment (holdArgs input).tripId (holdArgs input).seatId
        (holdArgs input).fromSeq (holdArgs input).toSeq =
          .error (.ValidationError "fromStopSeq and toStopSeq must be valid numbers") := by
      unfold validateSegment
      rw [if_neg hids]
      exact dif_pos hnan
    exact hall uuidEnv {} emptyWorld rfl _ ((createHold_of_accepted h uuidEnv {} emptyWorld).trans
      (createHold_of_invalid (x := holdInputs 0 "" "" {} {}) (sentUser_ne h) (by decide) rfl hinv))
  · rintro ⟨hf, ht⟩ env x w -
    rw [createHold_of_accepted h]
    exact notInvalid_createHold (sentUser_ne h) (valid_of_finite h hf ht)

/-- A hold of what the columns take is granted where nothing is stored. -/
theorem held_of_storable (h : Accepted input tripId seatId f t a) (hf : finite f = true)
    (ht : finite t = true) (hs : (holdArgs input).Storable .uuid) :
    ∃ b, (createHold uuidEnv { rowId := "b1" } (holdRequest input) emptyWorld).1 = .ok b := by
  have hacc : (holdArgs input).Acceptable uuidEnv.ids :=
    ⟨sentUser_ne h, valid_of_finite h hf ht, hs⟩
  have hfresh : emptyWorld.bookings.find "b1" = none := rfl
  obtain ⟨hv, -⟩ := holdAt_verdict (w := ⟨emptyWorld.bookings, emptyWorld.locks⟩) (t := 0)
    "" (by decide)
    hacc (fun _ => rfl) hfresh
  rw [createHold_of_accepted h]
  refine ok_eraseResult.mp ?_
  have hok : ∃ b, (holdArgs input).verdict uuidEnv 0 [] = .ok b :=
    (verdict_ok_iff hs).mpr fun ⟨b, hb, _⟩ => absurd hb List.not_mem_nil
  obtain ⟨b, hb⟩ := hok
  exact ⟨b, hv.trans hb⟩

/-- What is held is what the columns take. -/
theorem storable_of_held (h : Accepted input tripId seatId f t a) {env : Env}
    {x : StepIn} {w : World}
    {b : Booking} (hb : (createHold env x (holdRequest input) w).1 = .ok b) :
    (holdArgs input).Storable env.ids := by
  rw [createHold_of_accepted h] at hb
  rcases Bookings.createHold_cases env (holdInputs w.clock x.rowId x.lockValue x.delays x.faults)
    ⟨w.bookings, w.locks⟩ (holdArgs input) with ⟨e, he, -⟩ | ⟨b', -, -, hg⟩
  · rw [he] at hb
    cases hb
  · exact ⟨⟨_, hg.tripId⟩, ⟨_, hg.seatId⟩, ⟨_, hg.userId⟩, ⟨_, hg.fromSeq⟩, ⟨_, hg.toSeq⟩⟩

/-! ## The charge -/

theorem error_of_createPayment {payments : PaymentTable} {id : String} {data : PaymentCreateInput}
    {e : AppError} (h : createPayment payments id data = .error e) :
    e = prismaError ∨ e = uniqueError := by
  unfold createPayment at h
  split at h
  · cases h; exact .inl rfl
  · simp only at h
    split at h
    · split at h
      · cases h
      · cases h; exact .inl rfl
    · cases h; exact .inr rfl

/-- A dto that passed the checks is not refused any more. -/
theorem notInvalid_charge {x : ChargeInputs} {payments : PaymentTable}
    {dto : ChargeDto} {k : String}
    (hv : validateCharge dto = .ok k) : NotInvalid (Payments.charge x payments dto).1 := by
  intro m h
  unfold Payments.charge at h
  rw [hv] at h
  simp only at h
  split at h
  · cases h
  · split at h
    · cases h
    · split at h
      · next e he =>
        unfold chargeData at he
        split at he
        · cases he; cases h
        · cases he
      · split at h
        · cases h
        · split at h
          · next e he =>
            rcases error_of_createPayment he with rfl | rfl <;> cases h
          · cases h

theorem isMissing_user : Payments.Controller.isMissing
    (Header.or (some (onWire input.userId)) .undefined) = false ↔ trim input.userId ≠ "" := by
  rw [ne_eq, ← trim_onWire_eq_empty_iff]
  unfold Header.or
  by_cases hw : onWire input.userId = ""
  · simp [hw, Payments.Controller.isMissing, Value.truthy, trim, trimChars]
  · simp [hw, Payments.Controller.isMissing, Value.truthy, Value.toText]

theorem isMissing_of_noSpace {id : String} (h : NoSpace id) :
    Payments.Controller.isMissing (.string id) = false := by
  have ht : trim id ≠ "" := by rw [trim_of_noSpace h]; exact h.1
  simp [Payments.Controller.isMissing, Value.truthy, Value.toText, h.1, ht]

theorem amount_viaJson (h : Accepted input tripId seatId f t a) :
    input.amount.viaJson ≠ .undefined := by
  rw [h.amount]
  cases a <;> simp [Value.viaJson]

/-- An amount that is not finite arrives as zero. -/
theorem charge_of_infinite (h : Accepted input tripId seatId f t a) {id : String} (hid : NoSpace id)
    (hu : trim input.userId ≠ "") (hf : finite a = false) (x : StepIn) (w : World) :
    (charge x (chargeRequest input id) w).1 = .error amountNotPositive := by
  have hn : input.amount.viaJson.toNumber = .ofInt 0 := by rw [h.amount, toNumber_viaJson, hf]; rfl
  have h0 : (Number.ofInt 0).le (.ofInt 0) = true := by decide
  simp [charge, chargeRequest, Payments.Controller.processCharge,
    idempotencyKey_of_noSpace (noSpace_idempotencyKeyOf hid), isMissing_user.mpr hu,
    isMissing_of_noSpace hid, hn, h0]

/-- A finite amount of a user who is not blank reaches `charge`, which accepts it. -/
theorem charge_of_finite (h : Accepted input tripId seatId f t a) {id : String} (hid : NoSpace id)
    (hu : trim input.userId ≠ "") (hf : finite a = true) (x : StepIn) (w : World) :
    ∃ dto k, validateCharge dto = .ok k ∧ (charge x (chargeRequest input id) w).1 =
      (Payments.charge ⟨x.rowId, x.draw, false, false⟩ w.payments dto).1 := by
  have hn : input.amount.viaJson.toNumber = a := by rw [h.amount, toNumber_viaJson, hf]; rfl
  have hnan : a.isNaN = false := by cases a <;> first | rfl | cases hf
  have hmu := isMissing_user.mpr hu
  have hmb := isMissing_of_noSpace hid
  have hkey := idempotencyKey_of_noSpace (noSpace_idempotencyKeyOf hid)
  obtain ⟨dto, hdto⟩ : ∃ dto : ChargeDto, dto = ⟨id,
      (Header.or (some (onWire input.userId)) .undefined).toText, .number a,
      if (orINR (orINR input.currency)).viaJson.truthy then
        some (orINR (orINR input.currency)).viaJson.toText else none,
          idempotencyKeyOf id⟩ := ⟨_, rfl⟩
  have hb : trim dto.bookingId ≠ "" := by
    rw [hdto, trim_of_noSpace hid]
    exact hid.1
  have hu' := Payments.Controller.trim_ne_of_isMissing hmu
  have hut : trim dto.userId ≠ "" := by rw [hdto]; exact hu'
  have hk' := Payments.Controller.trim_ne_of_idempotencyKey hkey
  have hk : trim dto.idempotencyKey ≠ "" := by rw [hdto]; exact hk'
  have hn' : dto.amount = .number a := by rw [hdto]
  refine ⟨dto, _, validateCharge_of hb hut hk hn' h.positive, ?_⟩
  have hid' : (Value.string id).toText = id := rfl
  simp [charge, chargeRequest, Payments.Controller.processCharge, hkey, hmu, hmb, hn, hnan,
    h.positive, amount_viaJson h, hid', hdto]
  congr

/-- The charge for a booking that is held. -/
theorem notInvalid_charge_iff (h : Accepted input tripId seatId f t a) (hf : finite f = true)
    (ht : finite t = true) :
    (∀ env x w b, env.ids = .uuid → w.Fresh x.rowId →
      (createHold env x (holdRequest input) w).1 = .ok b →
      ∀ y w', NotInvalid (charge y (chargeRequest input b.id) w').1) ↔
      ((holdArgs input).Storable .uuid → finite a = true) := by
  constructor
  · intro hall hs
    obtain ⟨b, hb⟩ := held_of_storable h hf ht hs
    have hfresh : emptyWorld.Fresh "b1" := by decide
    have hcall := hall uuidEnv { rowId := "b1" } emptyWorld b rfl hfresh hb {} emptyWorld
    obtain ⟨hid, -⟩ := createHold_fresh hfresh hb
    obtain ⟨user, hu⟩ := hs.userId
    cases hfin : finite a with
    | true => rfl
    | false => exact absurd (charge_of_infinite h hid (trim_of_sentUser hu) hfin _ _) (hcall _)
  · intro hfin env x w b henv hfresh hb y w'
    have hs := henv ▸ storable_of_held h hb
    obtain ⟨user, hu⟩ := hs.userId
    obtain ⟨hid, -⟩ := createHold_fresh hfresh hb
    obtain ⟨dto, k, hv, hr⟩ := charge_of_finite h hid (trim_of_sentUser hu) (hfin hs) y w'
    rw [hr]
    exact notInvalid_charge hv

end

/-- Neither request of the saga is refused by a validation downstream, whatever the state
there: the hold, and the charge of a booking that is held. -/
def DownstreamAccepts (input : ConfirmBookingInput) : Prop :=
  (∀ env x w, env.ids = .uuid → NotInvalid (createHold env x (holdRequest input) w).1) ∧
    ∀ env x w b, env.ids = .uuid → w.Fresh x.rowId →
      (createHold env x (holdRequest input) w).1 = .ok b →
      ∀ y w', NotInvalid (charge y (chargeRequest input b.id) w').1

/-- A number, and finite. -/
def IsFinite (v : Value) : Prop := ∃ q, v = .number (.fin q)

theorem isFinite_iff {v : Value} {n : Number} (h : v = .number n) : IsFinite v ↔
    finite n = true := by
  subst h
  cases n <;> simp [IsFinite, finite]

/-- **The validations agree** on an input that the first one accepts exactly when its
stops are finite, and its amount is or the columns of the booking do not take the rest. -/
theorem downstreamAccepts_iff {input : ConfirmBookingInput} {tripId seatId : String}
    (ht : input.tripId = .string tripId) (hs : input.seatId = .string seatId)
    (h : validateConfirm input = .ok ()) :
    DownstreamAccepts input ↔ IsFinite input.fromStopSeq ∧ IsFinite input.toStopSeq ∧
      ((holdArgs input).Storable .uuid → IsFinite input.amount) := by
  obtain ⟨f, t, a, hacc⟩ := accepted_of_validateConfirm ht hs h
  rw [DownstreamAccepts, notInvalid_hold_iff hacc, isFinite_iff hacc.fromStop,
    isFinite_iff hacc.toStop, isFinite_iff hacc.amount, and_assoc]
  refine and_congr_right fun hf => and_congr_right fun ht => ?_
  exact notInvalid_charge_iff hacc hf ht

/-- Ann's request, the ids spelled as uuids. -/
def annsUuidInput : ConfirmBookingInput :=
  { annsInput with
    tripId := .string "6f1c0a52-9b3e-4d7f-8a21-0c5d6e7f8a9b"
    seatId := .string "0d9b7e41-5c2a-4f60-9e13-7a8b6c5d4e3f"
    userId := "a1b2c3d4-5e6f-4a0b-8c1d-2e3f4a5b6c7d" }

theorem downstreamAccepts_iff_ann : DownstreamAccepts annsUuidInput := by
  have hvalid : validateConfirm annsUuidInput = .ok () := rfl
  exact (downstreamAccepts_iff rfl rfl hvalid).mpr ⟨⟨_, rfl⟩, ⟨_, rfl⟩, fun _ => ⟨_, rfl⟩⟩

/-- Her request with an amount that is no number. -/
def nanInput : ConfirmBookingInput := { annsUuidInput with amount := .number .nan }

/-- **An amount of `NaN` is validated, and refused when the seat is held.** -/
theorem exists_accepted_refused : ¬ ∀ (input : ConfirmBookingInput) (tripId seatId : String),
    input.tripId = .string tripId → input.seatId = .string seatId →
    validateConfirm input = .ok () → DownstreamAccepts input := by
  intro h
  have hvalid : validateConfirm nanInput = .ok () := rfl
  obtain ⟨b, hb⟩ : ∃ b, (createHold uuidEnv { rowId := "b1" } (holdRequest nanInput) emptyWorld).1 =
    .ok b :=
    Bookings.isOk_iff.mp (by decide +kernel)
  have hfresh : emptyWorld.Fresh "b1" := by decide
  have hacc := (h nanInput _ _ rfl rfl hvalid).2 uuidEnv { rowId := "b1" } emptyWorld b
    rfl hfresh hb {}
    emptyWorld
  obtain ⟨f, t, a, hacc'⟩ := accepted_of_validateConfirm rfl rfl hvalid
  exact hacc _ (charge_of_infinite hacc' (createHold_fresh hfresh hb).1 (by decide +kernel)
    (by cases hacc'.amount; rfl) _ _)

end RouteGo.Orchestrator
