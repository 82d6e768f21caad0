import RouteGo.Bookings.HoldOutcome

/-!
# Two holds in either order

At one instant, without faults and with no lock held, a `createHold` does what
`verdict` says of the rows up to their ids: it is refused when a live row is in
the way and else adds its row (`holdAt_verdict`). A later request meets the row of
an earlier one, whose stops are integers, so two requests are independent or exclude
each other in either order exactly if what is stored of each is in the other's way just
when they share a leg (`holds_commute_iff`), as it is when their stops are integers
(`stands_iff_of_whole`). Fractions break both halves: `exists_order_matters`.
-/

namespace RouteGo.Bookings

open Js

/-! ## Holds up to ids -/

/-- Forget the id. -/
def Booking.erase (b : Booking) : Booking := { b with id := "" }

def eraseResult (r : Result Booking) : Result Booking := r.map Booking.erase

/-- The row a hold at `t` writes, if its columns take the ids and the stops. -/
def HoldArgs.row (env : Env) (t : Int) (id : String) (a : HoldArgs) : Option Booking :=
  match env.ids.keep a.tripId, env.ids.keep a.seatId, env.ids.keep a.userId, a.fromSeq.toInt4,
    a.toSeq.toInt4 with
  | some trip, some seat, some user, some f, some g =>
    some ⟨id, trip, seat, user, f, g, .PENDING, some (t + holdDurationMs env)⟩
  | _, _, _, _, _ => none

open Classical in
/-- What a hold at `t` answers, given the rows. -/
noncomputable def HoldArgs.verdict (env : Env) (t : Int) (rows : List Booking) (a : HoldArgs) :
    Result Booking :=
  if a.Blocked env.ids t rows then .error (seatTaken a)
  else match a.row env t "" with
    | some b => .ok b
    | none => .error prismaError

/-- The rows an answer adds. -/
def added : Result Booking → List Booking
  | .ok b => [b]
  | .error _ => []

/-- The columns take the ids and the stops. -/
structure HoldArgs.Storable (C : IdColumn) (a : HoldArgs) : Prop where
  tripId : ∃ trip, C.keep a.tripId = some trip
  seatId : ∃ seat, C.keep a.seatId = some seat
  userId : ∃ user, C.keep a.userId = some user
  fromSeq : ∃ f, a.fromSeq.toInt4 = some f
  toSeq : ∃ g, a.toSeq.toInt4 = some g

/-- A request that passes the checks and that the columns take. -/
structure HoldArgs.Acceptable (C : IdColumn) (a : HoldArgs) : Prop where
  userId : a.userId ≠ ""
  valid : a.Valid
  storable : a.Storable C

/-- The requests share a leg. -/
def HoldArgs.SharesLeg (a a' : HoldArgs) : Prop :=
  ∃ p q p' q', a.fromSeq = .number p ∧ a.toSeq = .number q ∧ a'.fromSeq = .number p' ∧
    a'.toSeq = .number q' ∧ p.lt q' = true ∧ p'.lt q = true

/-- The requests are for one seat of the store. -/
def HoldArgs.OneSeat (C : IdColumn) (a a' : HoldArgs) : Prop :=
  ∃ trip seat, a.For C trip seat ∧ a'.For C trip seat

/-- The requests share a leg of one seat. -/
def HoldArgs.Clashes (C : IdColumn) (a a' : HoldArgs) : Prop := a.OneSeat C a' ∧ a.SharesLeg a'

/-- What the columns keep of `a` is in the way of `a'`. -/
def HoldArgs.Stands (C : IdColumn) (a a' : HoldArgs) : Prop :=
  a.OneSeat C a' ∧ ∃ (f g : Int) (p' q' : Number), a.fromSeq.toInt4 = some f ∧
    a.toSeq.toInt4 = some g ∧
    a'.fromSeq = .number p' ∧ a'.toSeq = .number q' ∧ (Number.ofInt f).lt q' = true ∧
    p'.lt (.ofInt g) = true

theorem HoldArgs.Clashes.symm {C : IdColumn} {a a' : HoldArgs} (h : a.Clashes C a') :
    a'.Clashes C a := by
  obtain ⟨⟨trip, seat, ha, ha'⟩, p, q, p', q', hp, hq, hp', hq', h1, h2⟩ := h
  exact ⟨⟨trip, seat, ha', ha⟩, p', q', p, q, hp', hq', hp, hq, h2, h1⟩

/-- Integers are stored as they are. -/
theorem stands_iff_of_whole {C : IdColumn} {a a' : HoldArgs} (hw : a.Whole) (hs : a.Storable C) :
    a.Stands C a' ↔ a.Clashes C a' := by
  obtain ⟨f, hf⟩ := hs.fromSeq
  obtain ⟨g, hg⟩ := hs.toSeq
  have hf' := (Value.isInteger_iff_of_toInt4 hf).mp hw.1
  have hg' := (Value.isInteger_iff_of_toInt4 hg).mp hw.2
  refine and_congr_right fun _ => ⟨?_, ?_⟩
  · rintro ⟨f₁, g₁, p', q', hf₁, hg₁, hp', hq', h1, h2⟩
    obtain rfl := Option.some.inj (hf₁.symm.trans hf)
    obtain rfl := Option.some.inj (hg₁.symm.trans hg)
    exact ⟨_, _, p', q', hf', hg', hp', hq', h1, h2⟩
  · rintro ⟨p, q, p', q', hp, hq, hp', hq', h1, h2⟩
    obtain rfl := Value.number.inj (hf'.symm.trans hp)
    obtain rfl := Value.number.inj (hg'.symm.trans hq)
    exact ⟨f, g, p', q', hf, hg, hp', hq', h1, h2⟩

section
variable {env : Env} {t : Int} {a a' : HoldArgs} {rows rows' : List Booking} {b : Booking}
  {C : IdColumn}

theorem blocked_erase : a.Blocked C t (rows.map Booking.erase) ↔ a.Blocked C t rows := by
  simp [HoldArgs.Blocked, HoldArgs.Meets, Booking.erase, isActive]

theorem blocked_append : a.Blocked C t (rows ++ rows') ↔ a.Blocked C t rows ∨
    a.Blocked C t rows' := by
  simp only [HoldArgs.Blocked, List.mem_append]
  constructor
  · rintro ⟨b, hb | hb, h⟩
    · exact .inl ⟨b, hb, h⟩
    · exact .inr ⟨b, hb, h⟩
  · rintro (⟨b, hb, h⟩ | ⟨b, hb, h⟩)
    · exact ⟨b, .inl hb, h⟩
    · exact ⟨b, .inr hb, h⟩

/-- The verdict looks at the rows only for one in the way. -/
theorem verdict_congr (h : a.Blocked env.ids t rows ↔ a.Blocked env.ids t rows') :
    a.verdict env t rows = a.verdict env t rows' := by
  unfold HoldArgs.verdict
  by_cases hb : a.Blocked env.ids t rows
  · rw [if_pos hb, if_pos (h.mp hb)]
  · rw [if_neg hb, if_neg fun hb' => hb (h.mpr hb')]

theorem verdict_erase : a.verdict env t (rows.map Booking.erase) = a.verdict env t rows := by
  exact verdict_congr blocked_erase

theorem row_some {id : String} (h : a.row env t id = some b) :
    b.id = id ∧ RowOf env.ids (holdData env a t) b := by
  unfold HoldArgs.row at h
  split at h
  · next trip seat user f g htrip hseat huser hf hg =>
    cases h
    exact ⟨rfl, htrip, hseat, huser, hf, hg, rfl, rfl⟩
  · cases h

theorem row_erase (id : String) : (a.row env t id).map Booking.erase = a.row env t "" := by
  unfold HoldArgs.row
  split <;> rfl

theorem row_of_storable (t : Int) (id : String) (h : a.Storable env.ids) :
    ∃ b, a.row env t id = some b := by
  obtain ⟨trip, ht⟩ := h.tripId
  obtain ⟨seat, hs⟩ := h.seatId
  obtain ⟨user, hu⟩ := h.userId
  obtain ⟨f, hf⟩ := h.fromSeq
  obtain ⟨g, hg⟩ := h.toSeq
  simp only [HoldArgs.row, ht, hs, hu, hf, hg]
  exact ⟨_, rfl⟩

/-- The row of a hold blocks the requests it stands in the way of, as long as it lives. -/
theorem blocked_row_iff (hd : 0 < holdDurationMs env) {id : String} (h : a.row env t id = some b) :
    a'.Blocked env.ids t [b] ↔ a.Stands env.ids a' := by
  obtain ⟨-, hr⟩ := row_some h
  have hact : isActive t b = true := by
    simp only [isActive, hr.status, hr.holdExpiresAt, holdData]
    simpa using hd
  constructor
  · rintro ⟨c, hc, hfor, -, p', q', hp', hq', h1, h2⟩
    obtain rfl := List.mem_singleton.mp hc
    exact ⟨⟨_, _, ⟨hr.tripId, hr.seatId⟩, hfor⟩, _, _, p', q', hr.fromStopSeq, hr.toStopSeq,
      hp', hq', h1, h2⟩
  · rintro ⟨⟨trip, seat, ha, ha'⟩, f, g, p', q', hf, hg, hp', hq', h1, h2⟩
    obtain rfl := Option.some.inj (ha.1.symm.trans hr.tripId)
    obtain rfl := Option.some.inj (ha.2.symm.trans hr.seatId)
    obtain rfl := Option.some.inj (hf.symm.trans hr.fromStopSeq)
    obtain rfl := Option.some.inj (hg.symm.trans hr.toStopSeq)
    exact ⟨b, List.mem_singleton_self b, ha', hact, p', q', hp', hq', h1, h2⟩

/-- What is taken is held exactly when nothing is in the way. -/
theorem verdict_of_storable (t : Int) (rows : List Booking) (hs : a.Storable env.ids) :
    (¬ a.Blocked env.ids t rows ∧ ∃ b, a.verdict env t rows = .ok b ∧ a.row env t "" = some b) ∨
      (a.Blocked env.ids t rows ∧ a.verdict env t rows = .error (seatTaken a)) := by
  unfold HoldArgs.verdict
  by_cases hb : a.Blocked env.ids t rows
  · exact .inr ⟨hb, if_pos hb⟩
  · obtain ⟨b, hrow⟩ := row_of_storable t "" hs
    exact .inl ⟨hb, b, by rw [if_neg hb, hrow], hrow⟩

/-- What a request meets that comes second. -/
theorem blocked_second_iff (hd : 0 < holdDurationMs env) (hs : a.Storable env.ids) :
    a'.Blocked env.ids t (rows ++ added (a.verdict env t rows)) ↔
      a'.Blocked env.ids t rows ∨ (¬ a.Blocked env.ids t rows ∧ a.Stands env.ids a') := by
  rw [blocked_append]
  refine or_congr_right ?_
  rcases verdict_of_storable t rows hs with ⟨hfree, b, hv, hrow⟩ | ⟨hb, hv⟩
  · rw [hv, added, blocked_row_iff hd hrow, and_iff_right hfree]
  · rw [hv]
    exact ⟨fun h => by simp [HoldArgs.Blocked, added] at h, fun h => absurd hb h.1⟩

/-- A request that the first one's row is not in the way of is answered as if the other
had not come. -/
theorem verdict_second (hd : 0 < holdDurationMs env) (hs : a.Storable env.ids)
    (hn : ¬ a.Blocked env.ids t rows → ¬ a'.Blocked env.ids t rows → ¬ a.Stands env.ids a') :
    a'.verdict env t (rows ++ added (a.verdict env t rows)) = a'.verdict env t rows := by
  apply verdict_congr
  rw [blocked_second_iff hd hs, or_iff_left_iff_imp]
  intro ⟨hfree, hst⟩
  by_contra hb
  exact hn hfree hb hst

theorem verdict_ok_iff (hs : a.Storable env.ids) :
    (∃ b, a.verdict env t rows = .ok b) ↔ ¬ a.Blocked env.ids t rows := by
  rcases verdict_of_storable t rows hs with ⟨hfree, b, hv, -⟩ | ⟨hb, hv⟩
  · exact ⟨fun _ => hfree, fun _ => ⟨b, hv⟩⟩
  · refine ⟨fun ⟨b, h⟩ => ?_, fun h => absurd hb h⟩
    rw [hv] at h
    cases h

/-- The second request is held exactly when neither an old row nor that of the first
is in its way. -/
theorem second_ok_iff (hd : 0 < holdDurationMs env) (hs : a.Storable env.ids)
    (hs' : a'.Storable env.ids) :
    (∃ b, a'.verdict env t (rows ++ added (a.verdict env t rows)) = .ok b) ↔
      ¬ a'.Blocked env.ids t rows ∧ (¬ a.Blocked env.ids t rows → ¬ a.Stands env.ids a') := by
  rw [verdict_ok_iff hs', blocked_second_iff hd hs, not_or, not_and]

end

/-! ## The calls -/

/-- Nobody holds a lock at `t`. -/
def World.Unlocked (w : World) (t : Int) : Prop := ∀ k, w.locks.holder k t = none

/-- A call of `createHold` at `t`, nothing failing. -/
def holdAt (env : Env) (t : Int) (id lockValue : String) (w : World) (a : HoldArgs) :
    Result Booking × World :=
  createHold env (holdInputs t id lockValue {} {}) w a

section
variable {env : Env} {t : Int} {a a₁ a₂ : HoldArgs} {w : World} {id id₁ id₂ : String}

/-- What the database makes of the request. -/
theorem createBooking_row (bookings : BookingTable) :
    createBooking env.ids bookings id (holdData env a t) = match a.row env t id with
      | some b => match bookings.insert b with
        | some bookings' => .ok (b, bookings')
        | none => .error prismaError
      | none => .error prismaError := by
  unfold createBooking HoldArgs.row holdData
  cases env.ids.keep a.tripId <;> cases env.ids.keep a.seatId <;> cases env.ids.keep a.userId <;>
    cases a.fromSeq.toInt4 <;> cases a.toSeq.toInt4 <;> rfl

theorem createCall_holdAt (env : Env) (t : Int) (a : HoldArgs) (lockValue : String)
    {bookings : BookingTable} (hfresh : bookings.find id = none) :
    (∃ b bookings', a.row env t id = some b ∧ bookings'.rows = bookings.rows ++ [b] ∧
        createCall env (holdInputs t id lockValue {} {}) bookings a = .ok (b, bookings')) ∨
      (a.row env t id = none ∧
        createCall env (holdInputs t id lockValue {} {}) bookings a = .error prismaError) := by
  have hcall : createCall env (holdInputs t id lockValue {} {}) bookings a =
      createBooking env.ids bookings id (holdData env a t) := by
    simp [createCall, holdInputs]
  rw [hcall, createBooking_row]
  cases hr : a.row env t id with
  | none => exact .inr ⟨rfl, rfl⟩
  | some b =>
    have hb : bookings.find (key b) = none := by rw [key_booking, (row_some hr).1]; exact hfresh
    obtain ⟨bookings', hi⟩ := Table.exists_insert hb
    exact .inl ⟨b, bookings', rfl, Table.rows_of_insert hi, by simp only [hi]⟩

theorem unlocked_holdAt (id lockValue : String) (ht : 0 < lockTtlMs env) (hu : a.userId ≠ "")
    (hl : w.Unlocked t) :
    (holdAt env t id lockValue w a).2.Unlocked t := by
  have hent := createHold_of_free (x := holdInputs t id lockValue {} {}) hu (by simp [holdInputs])
    (by simpa [holdInputs] using ht) (by simpa [holdInputs] using hl _)
  intro k
  by_cases hk : k = lockKey a.tripId a.seatId
  · rw [hk]
    exact Leases.holder_of_free (hent.freed rfl)
  · have hh := hl k
    unfold Leases.holder at hh ⊢
    rw [holdAt, hent.others k hk]
    exact hh

/-- With the lock free a call is its `try` block. -/
theorem holdAt_inLock (id lockValue : String) (ht : 0 < lockTtlMs env) (hu : a.userId ≠ "")
    (hl : w.Unlocked t) :
    (holdAt env t id lockValue w a).1 =
        (holdInLock env (holdInputs t id lockValue {} {}) w.bookings a).1 ∧
      (holdAt env t id lockValue w a).2.bookings =
        (holdInLock env (holdInputs t id lockValue {} {}) w.bookings a).2 := by
  obtain ⟨locks, hac, -, -⟩ := acquireLock_of_free (v := lockValue) ht
    (hl (lockKey a.tripId a.seatId))
  simp [holdAt, createHold, hu, holdInputs, hac]

theorem findCall_holdAt (t : Int) (id lockValue : String) (bookings : BookingTable)
    (hs : a.Storable env.ids) :
    ∃ l, findCall env (holdInputs t id lockValue {} {}) bookings a = .ok l := by
  obtain ⟨trip, htrip⟩ := hs.tripId
  obtain ⟨seat, hseat⟩ := hs.seatId
  exact ⟨_, findActive_of_keep htrip hseat⟩

/-- Up to ids, the `try` block answers the verdict and adds its row. -/
theorem holdInLock_verdict (lockValue : String) {bookings : BookingTable}
    (ha : a.Acceptable env.ids) (hfresh : bookings.find id = none) :
    eraseResult (holdInLock env (holdInputs t id lockValue {} {}) bookings a).1 =
        a.verdict env t bookings.rows ∧
      (holdInLock env (holdInputs t id lockValue {} {}) bookings a).2.rows.map Booking.erase =
        bookings.rows.map Booking.erase ++ added (a.verdict env t bookings.rows) := by
  have hrow : (a.row env t id).map Booking.erase = a.row env t "" := row_erase id
  unfold HoldArgs.verdict
  rcases holdInLock_outcome env (holdInputs t id lockValue {} {}) bookings a with
    ⟨b, bookings', hh, hret⟩ | ⟨e, hh, hraise⟩
  · have hfree : ¬ a.Blocked env.ids t bookings.rows := by simpa [holdInputs] using hret.free
    rw [hh, if_neg hfree]
    rcases createCall_holdAt env t a lockValue hfresh with
      ⟨c, bs, hc, hrows, hcall⟩ | ⟨-, hcall⟩
    · rw [hret.created] at hcall
      cases hcall
      rw [hc] at hrow
      simp only [← hrow, Option.map_some, eraseResult, Except.map, added, hrows, List.map_append,
        List.map_cons, List.map_nil, and_self]
    · rw [hret.created] at hcall
      cases hcall
  · rw [hh]
    rcases hraise with hs | ⟨-, hf⟩ | ⟨-, -, hb⟩ | ⟨-, -, hb, hcr⟩
    · obtain ⟨seg, hv⟩ := ha.valid
      rw [hv] at hs
      cases hs
    · obtain ⟨l, hl⟩ := findCall_holdAt t id lockValue bookings ha.storable
      rw [hl] at hf
      cases hf
    · rw [if_pos (by simpa [holdInputs] using hb)]
      simp [eraseResult, Except.map, added]
    · rw [if_neg (by simpa [holdInputs] using hb)]
      rcases createCall_holdAt env t a lockValue hfresh with
        ⟨c, bs, -, -, hcall⟩ | ⟨hc, hcall⟩
      · rw [hcr] at hcall
        cases hcall
      · rw [hcr] at hcall
        cases hcall
        rw [hc] at hrow
        simp [← hrow, eraseResult, Except.map, added]

/-- **Refinement.** Up to ids, a call answers its verdict and adds its row. -/
theorem holdAt_verdict (lockValue : String) (ht : 0 < lockTtlMs env) (ha : a.Acceptable env.ids)
    (hl : w.Unlocked t) (hfresh : w.bookings.find id = none) :
    eraseResult (holdAt env t id lockValue w a).1 = a.verdict env t w.bookings.rows ∧
      (holdAt env t id lockValue w a).2.bookings.rows.map Booking.erase =
        w.bookings.rows.map Booking.erase ++ added (a.verdict env t w.bookings.rows) := by
  obtain ⟨hresult, hbookings⟩ := holdAt_inLock id lockValue ht ha.userId hl
  rw [hresult, hbookings]
  exact holdInLock_verdict lockValue ha hfresh

/-! ## Two calls -/

/-- What two calls answer, in the order of the calls, and leave behind. -/
structure TwoHolds where
  first : Result Booking
  second : Result Booking
  world : World

/-- `a₁` and then `a₂`. -/
def holdTwo (env : Env) (t : Int) (w : World) (a₁ : HoldArgs) (id₁ lockValue₁ : String)
    (a₂ : HoldArgs) (id₂ lockValue₂ : String) : TwoHolds :=
  let r₁ := holdAt env t id₁ lockValue₁ w a₁
  let r₂ := holdAt env t id₂ lockValue₂ r₁.2 a₂
  ⟨r₁.1, r₂.1, r₂.2⟩

/-- Ids the database has not used. -/
structure NewIds (w : World) (id₁ id₂ : String) : Prop where
  fst : w.bookings.find id₁ = none
  snd : w.bookings.find id₂ = none
  ne : id₁ ≠ id₂

theorem find_holdAt (lockValue : String) (hne : id₂ ≠ id) (h : w.bookings.find id₂ = none) :
    (holdAt env t id lockValue w a).2.bookings.find id₂ = none := by
  rcases createHold_cases env (holdInputs t id lockValue {} {}) w a with
    ⟨e, -, hb⟩ | ⟨b, -, hid, hg⟩
  · rw [holdAt, hb]
    exact h
  · obtain hid : b.id = id := hid
    rw [holdAt, Table.find_of_insert hg.insert, key_booking, hid, if_neg hne]
    exact h

/-- Two calls answer the second verdict over the rows the first one left. -/
theorem holdTwo_verdict (lockValue₁ lockValue₂ : String) (ht : 0 < lockTtlMs env)
    (h₁ : a₁.Acceptable env.ids) (h₂ : a₂.Acceptable env.ids) (hl : w.Unlocked t)
    (hid : NewIds w id₁ id₂) : let rows := w.bookings.rows.map Booking.erase
    let v₁ := a₁.verdict env t rows
    let v₂ := a₂.verdict env t (rows ++ added v₁)
    let r := holdTwo env t w a₁ id₁ lockValue₁ a₂ id₂ lockValue₂
    eraseResult r.first = v₁ ∧ eraseResult r.second = v₂ ∧
      r.world.bookings.rows.map Booking.erase = rows ++ added v₁ ++ added v₂ := by
  intro rows v₁ v₂ r
  obtain ⟨hv₁, hr₁⟩ := holdAt_verdict lockValue₁ ht h₁ hl hid.fst
  obtain ⟨hv₂, hr₂⟩ :=
    holdAt_verdict lockValue₂ ht h₂ (unlocked_holdAt id₁ lockValue₁ ht h₁.userId hl)
    (find_holdAt lockValue₁ hid.ne.symm hid.snd)
  rw [← verdict_erase] at hv₁ hr₁ hv₂ hr₂
  rw [hr₁] at hv₂ hr₂
  exact ⟨hv₁, hv₂, hr₂⟩

theorem ok_eraseResult {r : Result Booking} : (∃ b, eraseResult r = .ok b) ↔ ∃ b, r = .ok b := by
  cases r with
  | ok b => exact ⟨fun _ => ⟨b, rfl⟩, fun _ => ⟨b.erase, rfl⟩⟩
  | error e => exact ⟨fun ⟨_, h⟩ => (by cases h), fun ⟨_, h⟩ => (by cases h)⟩

theorem isOk_iff {r : Result Booking} : r.isOk = true ↔ ∃ b, r = .ok b := by
  cases r with
  | ok b => exact ⟨fun _ => ⟨b, rfl⟩, fun _ => rfl⟩
  | error e => exact ⟨fun h => (by cases h), fun ⟨_, h⟩ => (by cases h)⟩

/-- Held, or refused with a `ConflictError`. -/
def HeldOrConflict (r : Result Booking) : Prop := (∃ b, r = .ok b) ∨
    ∃ m, r = .error (.ConflictError m)

theorem heldOrConflict_of_verdict {r : Result Booking} {rows : List Booking}
    (hs : a.Storable env.ids)
    (h : eraseResult r = a.verdict env t rows) : HeldOrConflict r := by
  rcases verdict_of_storable t rows hs with ⟨-, b, hv, -⟩ | ⟨-, hv⟩
  · exact .inl (ok_eraseResult.mp ⟨b, h.trans hv⟩)
  · rw [hv] at h
    cases r with
    | ok b => cases h
    | error e => cases h; exact .inr ⟨_, rfl⟩

/-- Requests that share no leg of a seat are answered alike in either order, held or
refused as in conflict, and leave the same rows, up to ids and order; of requests that
share one at most one is held. -/
structure OrderFree (C : IdColumn) (a₁ a₂ : HoldArgs) (r r' : TwoHolds) : Prop where
  apart : ¬ a₁.Clashes C a₂ →
    eraseResult r.first = eraseResult r'.second ∧ eraseResult r.second = eraseResult r'.first ∧
    HeldOrConflict r.first ∧ HeldOrConflict r.second ∧
    (r.world.bookings.rows.map Booking.erase).Perm (r'.world.bookings.rows.map Booking.erase)
  clash : a₁.Clashes C a₂ → ¬ ((∃ b, r.first = .ok b) ∧ ∃ b, r.second = .ok b) ∧
    ¬ ((∃ b, r'.first = .ok b) ∧ ∃ b, r'.second = .ok b)

/-- What is stored of each request is in the way of the other just when they share a leg. -/
structure StandsForClash (C : IdColumn) (a₁ a₂ : HoldArgs) : Prop where
  fst : a₁.Stands C a₂ ↔ a₁.Clashes C a₂
  snd : a₂.Stands C a₁ ↔ a₁.Clashes C a₂

theorem standsForClash_of_whole {C : IdColumn} (h₁ : a₁.Whole) (h₂ : a₂.Whole) (hs₁ : a₁.Storable C)
    (hs₂ : a₂.Storable C) : StandsForClash C a₁ a₂ :=
  ⟨stands_iff_of_whole h₁ hs₁, (stands_iff_of_whole h₂ hs₂).trans ⟨.symm, .symm⟩⟩

/-- **Order.** The order of two requests that the rows leave free does not matter, or they
exclude each other, exactly if what is stored of each stands for it. -/
theorem holds_commute_iff (env : Env) (hd : 0 < holdDurationMs env)
    (ht : 0 < lockTtlMs env) (t : Int)
    (w : World) (hl : w.Unlocked t) (a₁ a₂ : HoldArgs) (h₁ : a₁.Acceptable env.ids)
    (h₂ : a₂.Acceptable env.ids) (id₁ id₂ id₁' id₂' v₁ v₂ v₁' v₂' : String) (hid : NewIds w id₁ id₂)
    (hid' : NewIds w id₂' id₁') :
    OrderFree env.ids a₁ a₂ (holdTwo env t w a₁ id₁ v₁ a₂ id₂ v₂)
      (holdTwo env t w a₂ id₂' v₂' a₁ id₁' v₁') ↔
      (¬ a₁.Blocked env.ids t w.bookings.rows → ¬ a₂.Blocked env.ids t w.bookings.rows →
        StandsForClash env.ids a₁ a₂) := by
  obtain ⟨hf, hs, hrows⟩ := holdTwo_verdict v₁ v₂ ht h₁ h₂ hl hid
  obtain ⟨hf', hs', hrows'⟩ := holdTwo_verdict v₂' v₁' ht h₂ h₁ hl hid'
  generalize holdTwo env t w a₁ id₁ v₁ a₂ id₂ v₂ = r at *
  generalize holdTwo env t w a₂ id₂' v₂' a₁ id₁' v₁' = r' at *
  rw [← @blocked_erase t a₁ w.bookings.rows, ← @blocked_erase t a₂ w.bookings.rows]
  generalize w.bookings.rows.map Booking.erase = rows at *
  have hok : (∃ b, r.first = .ok b) ↔ ¬ a₁.Blocked env.ids t rows := by
    rw [← ok_eraseResult, hf, verdict_ok_iff h₁.storable]
  have hok' : (∃ b, r'.first = .ok b) ↔ ¬ a₂.Blocked env.ids t rows := by
    rw [← ok_eraseResult, hf', verdict_ok_iff h₂.storable]
  have hnext : (∃ b, r.second = .ok b) ↔
      ¬ a₂.Blocked env.ids t rows ∧ (¬ a₁.Blocked env.ids t rows → ¬ a₁.Stands env.ids a₂) := by
    rw [← ok_eraseResult, hs, second_ok_iff hd h₁.storable h₂.storable]
  have hnext' : (∃ b, r'.second = .ok b) ↔
      ¬ a₁.Blocked env.ids t rows ∧ (¬ a₂.Blocked env.ids t rows → ¬ a₂.Stands env.ids a₁) := by
    rw [← ok_eraseResult, hs', second_ok_iff hd h₂.storable h₁.storable]
  constructor
  · -- both are held alone, so what each answers as the second tells whether the first is in its way
    intro h hb₁ hb₂
    by_cases hc : a₁.Clashes env.ids a₂
    · obtain ⟨hn, hn'⟩ := h.clash hc
      rw [hok, hnext] at hn
      rw [hok', hnext'] at hn'
      exact ⟨iff_of_true (by tauto) hc, iff_of_true (by tauto) hc⟩
    · obtain ⟨h1, h2, -⟩ := h.apart hc
      have hheld : ∃ b, r.second = .ok b :=
        ok_eraseResult.mp (h2 ▸ ok_eraseResult.mpr (hok'.mpr hb₂))
      have hheld' : ∃ b, r'.second = .ok b :=
        ok_eraseResult.mp (h1 ▸ ok_eraseResult.mpr (hok.mpr hb₁))
      exact ⟨iff_of_false ((hnext.mp hheld).2 hb₁) hc, iff_of_false ((hnext'.mp hheld').2 hb₂) hc⟩
  · intro h
    refine ⟨fun hc => ?_, fun hc => ⟨fun hboth => ?_, fun hboth => ?_⟩⟩
    · rw [verdict_second hd h₁.storable fun hb₁ hb₂ hst => hc ((h hb₁ hb₂).fst.mp hst)] at hs hrows
      rw [verdict_second hd h₂.storable fun hb₂ hb₁ hst =>
        hc ((h hb₁ hb₂).snd.mp hst)] at hs' hrows'
      refine ⟨hf.trans hs'.symm, hs.trans hf'.symm, heldOrConflict_of_verdict h₁.storable hf,
        heldOrConflict_of_verdict h₂.storable hs, ?_⟩
      rw [hrows, hrows', List.append_assoc, List.append_assoc]
      exact List.perm_append_comm.append_left _
    · rw [hok, hnext] at hboth
      exact hboth.2.2 hboth.1 ((h hboth.1 hboth.2.1).fst.mpr hc)
    · rw [hok', hnext'] at hboth
      exact hboth.2.2 hboth.1 ((h hboth.2.1 hboth.1).snd.mpr hc)

end

/-- A request for seat 1 of trip t. -/
def seatOne (userId : String) (fromSeq toSeq : Number) : HoldArgs :=
  ⟨"t", "1", userId, .number fromSeq, .number toSeq⟩

theorem seatOne_acceptable {userId : String} {f g : Number} (hu : userId ≠ "") (hlt : f.lt g = true)
    (hf : f.toInt4.isSome = true) (hg : g.toInt4.isSome = true) :
    (seatOne userId f g).Acceptable .texts :=
  ⟨hu, ⟨_, validateSegment_of_lt (by decide : "t" ≠ "") (by decide : "1" ≠ "") hlt⟩,
    ⟨_, rfl⟩, ⟨_, rfl⟩, ⟨_, rfl⟩, Option.isSome_iff_exists.mp hf, Option.isSome_iff_exists.mp hg⟩

/-- Two neighbouring segments of a seat: both are held, in either order. -/
theorem holds_commute_adjacent :
    let ann := seatOne "ann" (.ofInt 1) (.ofInt 2)
    let bob := seatOne "bob" (.ofInt 2) (.ofInt 3)
    let r := holdTwo ⟨5, 5000, .texts⟩ 0 ⟨Table.empty, Leases.empty⟩ ann "a" "x" bob "b" "y"
    let r' := holdTwo ⟨5, 5000, .texts⟩ 0 ⟨Table.empty, Leases.empty⟩ bob "b" "y" ann "a" "x"
    OrderFree .texts ann bob r r' ∧ (∃ b, r.first = .ok b) ∧ (∃ b, r.second = .ok b) ∧
      (∃ b, r'.first = .ok b) ∧ ∃ b, r'.second = .ok b := by
  intro ann bob r r'
  have hann : ann.Acceptable .texts := seatOne_acceptable (by decide) (by decide) rfl rfl
  have hbob : bob.Acceptable .texts := seatOne_acceptable (by decide) (by decide) rfl rfl
  refine ⟨(holds_commute_iff ⟨5, 5000, .texts⟩ (by decide) (by decide) 0 ⟨Table.empty, Leases.empty⟩
    (fun _ => rfl) ann bob hann hbob "a" "b" "a" "b" "x" "y" "x" "y" ⟨rfl, rfl, by decide⟩
    ⟨rfl, rfl, by decide⟩).mpr fun _ _ => ?_, ⟨_, rfl⟩, ⟨_, rfl⟩, ⟨_, rfl⟩, ⟨_, rfl⟩⟩
  exact standsForClash_of_whole ⟨rfl, rfl⟩ ⟨rfl, rfl⟩ hann.storable hbob.storable

/-- **Fractions of a leg.** Two holds that share a leg are both made, and of two that do
not the order decides who is refused. -/
theorem exists_order_matters :
    let ann := seatOne "ann" (.fin (6 / 5)) (.fin (9 / 5))
    let bob := seatOne "bob" (.fin (3 / 2)) (.fin (19 / 10))
    let carl := seatOne "carl" (.fin (9 / 5)) (.fin (5 / 2))
    let two (a₁ a₂ : HoldArgs) := holdTwo ⟨5, 5000, .texts⟩ 0 ⟨Table.empty, Leases.empty⟩
      a₁ "a" "x" a₂ "b" "y"
    ¬ OrderFree .texts ann bob (two ann bob) (two bob ann) ∧
      ¬ OrderFree .texts ann carl (two ann carl) (two carl ann) := by
  intro ann bob carl two
  refine ⟨fun h => ?_, fun h => ?_⟩
  · have hc : ann.Clashes .texts bob := ⟨⟨"t", "1", ⟨rfl, rfl⟩, rfl, rfl⟩, _, _, _, _, rfl,
      rfl, rfl, rfl, by decide +kernel, by decide +kernel⟩
    exact (h.clash hc).1 ⟨isOk_iff.mp (by decide +kernel), isOk_iff.mp (by decide +kernel)⟩
  · have hn : ¬ ann.Clashes .texts carl := by
      rintro ⟨-, p, q, p', q', -, hq, hp', -, -, hlt⟩
      obtain rfl := Value.number.inj hq
      obtain rfl := Value.number.inj hp'
      exact absurd hlt (by decide +kernel)
    have hfirst := congrArg Except.isOk (h.apart hn).1
    have hlast : (eraseResult (two carl ann).second).isOk = false := by decide +kernel
    rw [hlast] at hfirst
    exact absurd hfirst (by decide +kernel)

end RouteGo.Bookings
