import RouteGo.Payments.Lifecycle

/-!
# Whose payment a charge returns

Any calls, interleaved, from the empty table. Every row was stored by one of the
charges, under the terms of its dto, and that charge has returned it
(`Origin`). A charge that is no replay returns a payment for its own dto; a
replay looks at the key alone, so it returns the payment of whatever charge used
the key first, and says that it does.
-/

namespace RouteGo.Payments

open Js

/-- `p` is what a charge of `dto` stores, whatever became of its status. -/
structure ChargeDto.Matches (dto : ChargeDto) (p : Payment) : Prop where
  bookingId : p.bookingId = trim dto.bookingId
  userId : p.userId = trim dto.userId
  amount : ∃ n, dto.amount.toDecimal = some n ∧ Amount.ofNumber n = some p.amount
  currency : p.currency = currencyOf dto.currency

/-- The rows agree on all but the status and its reason. -/
structure SameTerms (p q : Payment) : Prop where
  id : q.id = p.id
  bookingId : q.bookingId = p.bookingId
  userId : q.userId = p.userId
  amount : q.amount = p.amount
  currency : q.currency = p.currency
  idempotencyKey : q.idempotencyKey = p.idempotencyKey

theorem SameTerms.refl (p : Payment) : SameTerms p p := ⟨rfl, rfl, rfl, rfl, rfl, rfl⟩

theorem ChargeDto.Matches.terms {dto : ChargeDto} {p q : Payment} (h : dto.Matches p)
    (ht : SameTerms p q) : dto.Matches q where
  bookingId := ht.bookingId.trans h.bookingId
  userId := ht.userId.trans h.userId
  amount := by rw [ht.amount]; exact h.amount
  currency := ht.currency.trans h.currency

/-- A charge stored `p` and has returned it. -/
def Origin (s : Pool Shared Call) (p : Payment) : Prop :=
  ∃ i dto r, Returned s i dto r ∧ r.isIdempotentReplay = false ∧ r.paymentId = p.id ∧
    p.idempotencyKey = trim dto.idempotencyKey ∧ dto.Matches p

/-- What a returned charge of `dto` is about. -/
def Settled (s : Pool Shared Call) (dto : ChargeDto) (r : ChargeResult) : Prop :=
  (r.isIdempotentReplay = false ∧ dto.Matches r.payment) ∨
    (r.isIdempotentReplay = true ∧ r.payment.idempotencyKey = trim dto.idempotencyKey ∧
      Origin s r.payment)

/-- What a charge on its way to the insert carries. -/
def Carries (dto : ChargeDto) : ChargePc → Prop
  | .missed key => key = trim dto.idempotencyKey
  | .creating data => ∃ b, chargeData dto (trim dto.idempotencyKey) b = .ok data
  | _ => True

structure Provenance (s : Pool Shared Call) : Prop where
  rows : ∀ p ∈ s.shared.payments.rows, Origin s p
  carries : ∀ (i : Nat) dto pc, s.procs[i]? = some (.charge dto pc) → Carries dto pc
  settled : ∀ i dto r, Returned s i dto r → Settled s dto r

/-! ## Steps -/

section
variable {s : Pool Shared Call} {sh sh' : Shared} {i : Nat} {p : Payment} {e : StepIn}
  {c c' : Call} {dto : ChargeDto} {pc pc' : ChargePc}

theorem matches_of_stores {id : String} {b : Bool} {data : PaymentCreateInput}
    (hd : chargeData dto (trim dto.idempotencyKey) b = .ok data) (hs : Stores id data p) :
    dto.Matches p ∧ p.idempotencyKey = trim dto.idempotencyKey := by
  obtain ⟨hn, hb, hu, hc, -, hk, -⟩ := chargeData_ok hd
  exact ⟨⟨hs.bookingId.trans hb, hs.userId.trans hu, ⟨_, hn, hs.amount⟩, hs.currency.trans hc⟩,
    hs.idempotencyKey.trans hk⟩

theorem ChargeMove.carries (hm : ChargeMove sh i dto pc sh' pc') (h : Carries dto pc) :
    Carries dto pc' := by
  cases hm with
  | miss hv hf => rfl
  | draw b hd =>
    obtain rfl := h
    exact ⟨b, hd⟩
  | _ => trivial

/-- A row after a step is one from before it or the one the step returns. -/
theorem ChargeMove.mem_rows (hm : ChargeMove sh i dto pc sh' pc') (hp : p ∈ sh'.payments.rows) :
    p ∈ sh.payments.rows ∨ ∃ id data, pc = .creating data ∧ Stores id data p ∧
      pc' = .done (.ok (createdResult data.status p)) := by
  cases hm with
  | @create data q payments id hc =>
    obtain ⟨hs, hrows, -⟩ := createPayment_ok hc
    have hp' : p ∈ payments.rows := hp
    rw [hrows, List.mem_append, List.mem_singleton] at hp'
    rcases hp' with hp' | rfl
    · exact .inl hp'
    · exact .inr ⟨id, data, rfl, hs, rfl⟩
  | _ => exact .inl hp

theorem RefundMove.mem_rows {id : String} {rc rc' : RefundPc} (hm : RefundMove sh id rc sh' rc')
    (hp : p ∈ sh'.payments.rows) : ∃ q ∈ sh.payments.rows, SameTerms q p := by
  cases hm with
  | @write id q hq =>
    rcases mem_setStatus.mp hp with ⟨hp, -⟩ | ⟨q, hq, -, rfl⟩
    · exact ⟨p, hp, .refl p⟩
    · exact ⟨q, hq, rfl, rfl, rfl, rfl, rfl, rfl⟩
  | _ => exact ⟨p, hp, .refl p⟩

/-- A call that has returned takes no step. -/
theorem Returned.set {j : Nat} {r : ChargeResult} (h : Returned s j dto r)
    (hc : s.procs[i]? = some c) (ha : service.act s.shared i c e = some (sh, c')) :
    Returned ⟨sh, s.procs.set i c'⟩ j dto r := by
  have hji : j ≠ i := by
    rintro rfl
    obtain rfl : c = .charge dto (.done (.ok r)) := Option.some.inj (hc.symm.trans h)
    cases ha
  show (s.procs.set i c')[j]? = _
  rw [List.getElem?_set_ne (Ne.symm hji)]
  exact h

theorem Origin.set {q : Payment} (h : Origin s p) (ht : SameTerms p q) (hc : s.procs[i]? = some c)
    (ha : service.act s.shared i c e = some (sh, c')) : Origin ⟨sh, s.procs.set i c'⟩ q := by
  obtain ⟨j, dto, r, hr, hrep, hid, hk, hm⟩ := h
  exact ⟨j, dto, r, hr.set hc ha, hrep, hid.trans ht.id.symm,
    ht.idempotencyKey.trans hk, hm.terms ht⟩

theorem Settled.set {r : ChargeResult} (h : Settled s dto r) (hc : s.procs[i]? = some c)
    (ha : service.act s.shared i c e = some (sh, c')) : Settled ⟨sh, s.procs.set i c'⟩ dto r := by
  rcases h with h | ⟨hrep, hk, ho⟩
  · exact .inl h
  · exact .inr ⟨hrep, hk, ho.set (.refl _) hc ha⟩

/-- A charge that returns in this step. -/
theorem ChargeMove.settled {r : ChargeResult} (h : Provenance s)
    (hm : ChargeMove s.shared i dto pc sh (.done (.ok r))) (hcar : Carries dto pc)
    (hc : s.procs[i]? = some (.charge dto pc))
    (ha : service.act s.shared i (.charge dto pc) e = some (sh, c')) :
    Settled ⟨sh, s.procs.set i c'⟩ dto r := by
  cases hm with
  | @replay p hv hp hk => exact .inr ⟨rfl, hk, (h.rows p hp).set (.refl p) hc ha⟩
  | create id hcr =>
    obtain ⟨b, hd⟩ := hcar
    exact .inl ⟨rfl, (matches_of_stores hd (createPayment_ok hcr).1).1⟩

theorem provenance_charge (h : Provenance s) (hc : s.procs[i]? = some (.charge dto pc))
    (ha : service.act s.shared i (.charge dto pc) e = some (sh, .charge dto pc'))
    (hm : ChargeMove s.shared i dto pc sh pc') :
    Provenance ⟨sh, s.procs.set i (.charge dto pc')⟩ := by
  have hcar := h.carries i dto pc hc
  refine ⟨fun p hp => ?_, fun j d qc hq => ?_, fun j d r hr => ?_⟩
  · rcases hm.mem_rows hp with hp | ⟨id, data, rfl, hs, rfl⟩
    · exact (h.rows p hp).set (.refl p) hc ha
    · obtain ⟨b, hd⟩ := hcar
      obtain ⟨hmatch, hk⟩ := matches_of_stores hd hs
      exact ⟨i, dto, _, Pool.getElem?_set_self_of hc, rfl, rfl, hk, hmatch⟩
  · rcases Pool.getElem?_set_cases hq with ⟨rfl, heq⟩ | ⟨-, hq'⟩
    · cases heq
      exact hm.carries hcar
    · exact h.carries j d qc hq'
  · rcases Pool.getElem?_set_cases hr with ⟨rfl, heq⟩ | ⟨-, hr'⟩
    · cases heq
      exact hm.settled h hcar hc ha
    · exact (h.settled j d r hr').set hc ha

/-- A step that stores nothing and is not one of a charge. -/
theorem provenance_other (h : Provenance s) (hc : s.procs[i]? = some c)
    (ha : service.act s.shared i c e = some (sh, c')) (hn : ∀ dto pc, c' ≠ .charge dto pc)
    (hrows : ∀ p ∈ sh.payments.rows, ∃ q ∈ s.shared.payments.rows, SameTerms q p) :
    Provenance ⟨sh, s.procs.set i c'⟩ := by
  refine ⟨fun p hp => ?_, fun j d qc hq => ?_, fun j d r hr => ?_⟩
  · obtain ⟨q, hq, ht⟩ := hrows p hp
    exact (h.rows q hq).set ht hc ha
  · rcases Pool.getElem?_set_cases hq with ⟨rfl, heq⟩ | ⟨-, hq'⟩
    · exact absurd heq.symm (hn d qc)
    · exact h.carries j d qc hq'
  · rcases Pool.getElem?_set_cases hr with ⟨rfl, heq⟩ | ⟨-, hr'⟩
    · exact absurd heq.symm (hn d _)
    · exact (h.settled j d r hr').set hc ha

theorem provenance_step (h : Provenance s) (hc : s.procs[i]? = some c)
    (ha : service.act s.shared i c e = some (sh, c')) : Provenance ⟨sh, s.procs.set i c'⟩ := by
  cases c with
  | charge dto pc =>
    obtain ⟨pc', rfl, hm⟩ := act_charge ha
    exact provenance_charge h hc ha hm
  | refund id rc =>
    obtain ⟨rc', rfl, hm⟩ := act_refund ha
    exact provenance_other h hc ha (fun _ _ hn => by cases hn) fun p hp => hm.mem_rows hp
  | getPayment id gc =>
    obtain ⟨rfl, res, rfl⟩ := act_getPayment ha
    exact provenance_other h hc ha (fun _ _ hn => by cases hn) fun p hp => ⟨p, hp, .refl p⟩

end

/-! ## Runs -/

/-- Any calls, none begun, on the empty table. -/
structure FromEmpty (s : Pool Shared Call) : Prop where
  rows : s.shared.payments.rows = []
  fresh : ∀ p ∈ s.procs, p.Fresh

def callsFromEmpty : LTS (Pool Shared Call) (Pool.Event StepIn Empty) :=
  Pool.system service FromEmpty

theorem FromEmpty.charge {s : Pool Shared Call} (h : FromEmpty s) {i : Nat} {dto : ChargeDto}
    {pc : ChargePc} (hc : s.procs[i]? = some (.charge dto pc)) : pc = .start :=
  h.fresh _ (List.mem_of_getElem? hc)

theorem provenance_reach {s : Pool Shared Call} (h : callsFromEmpty.Reachable s) :
    Provenance s := by
  refine h.invariant (I := Provenance) (fun s (hi : FromEmpty s) => ?_) fun s ev s' _ hI _ hst => ?_
  · refine ⟨fun p hp => ?_, fun i dto pc hc => ?_, fun i dto r hr => ?_⟩
    · rw [hi.rows] at hp
      cases hp
    · rw [hi.charge hc]
      trivial
    · cases hi.charge hr
  · cases ev with
    | env e => exact e.elim
    | proc i e =>
      obtain ⟨c, sh, c', hc, ha, rfl⟩ := Pool.step_proc hst
      exact provenance_step hI hc ha

/-- The payment of an earlier charge under the same key. -/
def ReplayOf (s : Pool Shared Call) (dto : ChargeDto) (r : ChargeResult) : Prop :=
  ∃ j dto' r', Returned s j dto' r' ∧ r'.isIdempotentReplay = false ∧ r'.paymentId = r.payment.id ∧
    trim dto'.idempotencyKey = trim dto.idempotencyKey ∧ dto'.Matches r.payment

/-- **Whose payment a charge returns.** Its own, or, marked as a replay, that of
the charge that used the key first. -/
theorem returned_payment {s : Pool Shared Call} (h : callsFromEmpty.Reachable s) {i : Nat}
    {dto : ChargeDto} {r : ChargeResult} (hr : Returned s i dto r) :
    (r.isIdempotentReplay = false ∧ dto.Matches r.payment) ∨
      (r.isIdempotentReplay = true ∧ ReplayOf s dto r) := by
  rcases (provenance_reach h).settled i dto r hr with
    hown | ⟨hrep, hk, j, dto', r', hr', hn, hid, hk', hm⟩
  · exact .inl hown
  · exact .inr ⟨hrep, j, dto', r', hr', hn, hid, hk'.symm.trans hk, hm⟩

/-- One key sent for two bookings. -/
def keyTwice : Pool Shared Call where
  shared := ⟨PaymentTable.empty, [], []⟩
  procs := [.charge ⟨"b1", "ann", .ofInt 460, none, "key"⟩ .start,
    .charge ⟨"b2", "bob", .ofInt 900, none, " key "⟩ .start]

theorem keyTwice_init : FromEmpty keyTwice := by
  refine ⟨rfl, fun p hp => ?_⟩
  simp only [keyTwice, List.mem_cons, List.not_mem_nil, or_false] at hp
  rcases hp with rfl | rfl <;> rfl

/-- The first charge stores, the second looks its key up. -/
def keyTwiceEvents : List (Pool.Event StepIn Empty) :=
  [.proc 0 {}, .proc 0 {}, .proc 0 { rowId := "p1" }, .proc 1 {}]

def keyTwiceAfter : Pool Shared Call :=
  (LTS.execAll (Pool.step service) keyTwice keyTwiceEvents).getD keyTwice

theorem keyTwice_reachable : callsFromEmpty.Reachable keyTwiceAfter :=
  LTS.reachable_of_execAll keyTwiceEvents keyTwice_init rfl

/-- The payment of the row `p1`, as the replay returns it. -/
def firstPayment : Payment :=
  ⟨"p1", "b1", "ann", ⟨46000, by decide⟩, "INR", .SUCCEEDED, "key", none⟩

theorem keyTwice_returned : Returned keyTwiceAfter 1 ⟨"b2", "bob", .ofInt 900, none, " key "⟩
    (replayResult firstPayment) := rfl

theorem returned_payment_key : ReplayOf keyTwiceAfter ⟨"b2", "bob", .ofInt 900, none, " key "⟩
    (replayResult firstPayment) :=
  ((returned_payment keyTwice_reachable keyTwice_returned).resolve_left fun h => by cases h.1).2

/-- **A key used for another booking is reported as a success.** -/
theorem exists_foreign_success : ¬ ∀ (s : Pool Shared Call) (i : Nat) (dto : ChargeDto)
    (r : ChargeResult), callsFromEmpty.Reachable s → Returned s i dto r → r.success = true →
    dto.Matches r.payment := by
  intro h
  have hm := h _ _ _ _ keyTwice_reachable keyTwice_returned rfl
  exact absurd hm.bookingId (by decide)

end RouteGo.Payments
