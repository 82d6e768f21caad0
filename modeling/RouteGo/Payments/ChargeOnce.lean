import RouteGo.Payments.Concurrent

/-!
# Charging once

Calls of `charge` for one key. The look-up, the draw and the insert are not one
step: a call that looks up while another is between its look-up and its insert
draws a second outcome (`exists_charged_twice`), and a call whose insert is made
to throw after a success was drawn leaves nothing for a retry to find. In a run
without such a look-up the key is charged at most once and every call answers
with the same payment.
-/

namespace RouteGo.Payments

open Js

/-- Calls of `charge` with valid dtos of one trimmed key, none begun. -/
structure OneKey (k : String) (s : Pool Shared Call) : Prop where
  draws : s.shared.draws = []
  pending : s.shared.pending = []
  fresh : ∀ p ∈ s.procs, ∃ dto, p = .charge dto .start ∧ validateCharge dto = .ok k

def charges (k : String) : LTS (Pool Shared Call) (Pool.Event StepIn Empty) :=
  Pool.system service (OneKey k)

/-- How often success was drawn for `k`. -/
def Shared.successes (sh : Shared) (k : String) : Nat :=
  sh.draws.countP fun d => decide (d.key = k) && d.isSuccess

structure ChargedOnce (k : String) (s : Pool Shared Call) : Prop where
  drawn : s.shared.successes k ≤ 1
  /-- A call that was not made to throw returns, and all return one id. -/
  returned : ∃ id, ∀ (i : Nat) (dto : ChargeDto) (res : Result ChargeResult),
    s.procs[i]? = some (.charge dto (.done res)) → ∃ r, res = .ok r ∧ r.paymentId = id

/-- The column takes the amount of the dto. -/
def ChargeDto.Storable (dto : ChargeDto) : Prop :=
  ∃ amount, dto.amount.toDecimal.bind Amount.ofNumber = some amount

instance (dto : ChargeDto) : Decidable dto.Storable :=
  decidable_of_iff ((dto.amount.toDecimal.bind Amount.ofNumber).isSome = true)
    Option.isSome_iff_exists

/-- Call `i` is at its look-up. -/
def lookup (s : Pool Shared Call) (i : Nat) : Option ChargeDto :=
  match s.procs[i]? with
  | some (.charge dto .start) => some dto
  | _ => none

/-- A look-up that misses: no other call is between its own look-up and its
insert, no success drawn before was lost, and the amount can be stored. -/
def LookupsClear (s : Pool Shared Call) : Pool.Event StepIn Empty → Prop
  | .env _ => True
  | .proc i e => ∀ dto ∈ lookup s i, e.fault = false →
      findByIdempotencyKey s.shared.payments (trim dto.idempotencyKey) = none →
      s.shared.pending = [] ∧ s.shared.successes (trim dto.idempotencyKey) = 0 ∧ dto.Storable

instance (s : Pool Shared Call) : ∀ e, Decidable (LookupsClear s e)
  | .env _ => .isTrue trivial
  | .proc _ _ => inferInstanceAs (Decidable (∀ _ ∈ _, _))

/-! ## Invariant -/

structure OneOpen (k : String) (sh : Shared) : Prop where
  drawn : sh.successes k ≤ 1
  stored : ∀ p, findByIdempotencyKey sh.payments k = some p → sh.pending = []

/-- Call `i` is the only one that missed and has not stored. -/
structure Open (k : String) (sh : Shared) (i : Nat) : Prop where
  pending : sh.pending = [i]
  free : findByIdempotencyKey sh.payments k = none

def OnceAssertion (k : String) (sh : Shared) (i : Nat) : Call → Prop
  | .charge dto pc => validateCharge dto = .ok k ∧ match pc with
    | .start | .failed => True
    | .missed key => key = k ∧ Open k sh i ∧ sh.successes k = 0 ∧ dto.Storable
    | .creating data => data.idempotencyKey = k ∧ Open k sh i ∧
      ∃ amount, Amount.ofNumber data.amount = some amount
    | .done res => ∃ r p, res = .ok r ∧ findByIdempotencyKey sh.payments k = some p ∧
      r.paymentId = p.id
  | _ => False

section
variable {k : String} {sh sh' : Shared} {i j : Nat} {p : Call}

theorem successes_drew (d : Draw) :
    (sh.drew d).successes k = sh.successes k + if d.key = k ∧ d.isSuccess = true then 1 else 0 := by
  simp only [Shared.successes, Shared.drew, List.countP_append, List.countP_singleton,
    Bool.and_eq_true, decide_eq_true_eq]

theorem storable_of_chargeData {dto : ChargeDto} {key : String} {b : Bool}
    {data : PaymentCreateInput} (h : chargeData dto key b = .ok data) (hs : dto.Storable) :
    ∃ amount, Amount.ofNumber data.amount = some amount := by
  obtain ⟨amount, ha⟩ := hs
  obtain ⟨hn, -⟩ := chargeData_ok h
  exact ⟨amount, by simpa [hn] using ha⟩

theorem chargeData_of_storable {dto : ChargeDto} (key : String) (b : Bool) (hs : dto.Storable) :
    ∃ data, chargeData dto key b = .ok data := by
  obtain ⟨amount, ha⟩ := hs
  obtain ⟨n, hn, -⟩ := Option.bind_eq_some_iff.mp ha
  exact ⟨_, by rw [chargeData, hn]⟩

/-- The moves of a charge. -/
theorem ChargeMove.once {dto : ChargeDto} {pc pc' : ChargePc} (hm : ChargeMove sh i dto pc sh' pc')
    (hG : OneOpen k sh) (hP : OnceAssertion k sh i (.charge dto pc))
    (ho : ∀ key, pc' = .missed key → findByIdempotencyKey sh.payments k = none →
      sh.pending = [] ∧ sh.successes k = 0 ∧ dto.Storable) :
    OneOpen k sh' ∧ OnceAssertion k sh' i (.charge dto pc') := by
  obtain ⟨hv, hpc⟩ := hP
  have hkey : k = trim dto.idempotencyKey := (validateCharge_ok hv).1
  cases hm with
  | reject h => rw [hv] at h; cases h
  | failFind => exact ⟨hG, hv, trivial⟩
  | @replay p _ hp hk =>
    have hf := findByIdempotencyKey_eq_some.mpr ⟨hp, hk⟩
    exact ⟨hG, hv, replayResult p, p, rfl, hkey ▸ hf, rfl⟩
  | miss _ hf =>
    rw [← hkey] at hf
    obtain ⟨hpend, hs, hst⟩ := ho _ rfl hf
    refine ⟨⟨hG.drawn, fun p hp => ?_⟩, hv, hkey.symm, ⟨by rw [hpend], hf⟩, hs, hst⟩
    rw [hf] at hp
    cases hp
  | draw b hd =>
    obtain ⟨rfl, hop, hs, hst⟩ := hpc
    refine ⟨⟨?_, hG.stored⟩, hv, (chargeData_ok hd).2.2.2.2.2.1, ⟨hop.pending, hop.free⟩,
      storable_of_chargeData hd hst⟩
    rw [successes_drew, hs]
    split <;> omega
  | drawError b hd =>
    obtain ⟨-, -, -, hst⟩ := hpc
    obtain ⟨data, hd'⟩ := chargeData_of_storable _ b hst
    rw [hd'] at hd
    cases hd
  | failCreate =>
    obtain ⟨-, hop, -⟩ := hpc
    exact ⟨⟨hG.drawn, fun p _ => by simp [Shared.settle, hop.pending]⟩, hv, trivial⟩
  | @refuse data err id hid hc =>
    obtain ⟨rfl, hop, amount, ha⟩ := hpc
    obtain ⟨p, payments, hc'⟩ := createPayment_of_fresh ha hop.free hid
    rw [hc'] at hc
    cases hc
  | @create data p payments id hc =>
    obtain ⟨rfl, hop, -⟩ := hpc
    obtain ⟨st, hrows, -⟩ := createPayment_ok hc
    have hp : p ∈ payments.rows := by rw [hrows]; simp
    refine ⟨⟨hG.drawn, fun q _ => by simp [Shared.settle, hop.pending]⟩, hv,
      createdResult data.status p, p, rfl, ?_, rfl⟩
    exact findByIdempotencyKey_eq_some.mpr ⟨hp, st.idempotencyKey⟩

/-- A call that has returned knows the payment, the open call is not another. -/
theorem ChargeMove.once_other {dto : ChargeDto} {pc pc' : ChargePc}
    (hm : ChargeMove sh i dto pc sh' pc') (hji : j ≠ i)
    (hi : OnceAssertion k sh i (.charge dto pc))
    (ho : ∀ key, pc' = .missed key → findByIdempotencyKey sh.payments k = none → sh.pending = [])
    (hj : OnceAssertion k sh j p) : OnceAssertion k sh' j p := by
  obtain ⟨hv, hpc⟩ := hi
  have hkey : k = trim dto.idempotencyKey := (validateCharge_ok hv).1
  -- the step is not one of an open call beside another
  have hopen : (sh' = sh) ∨ (sh.pending = [] ∨ sh.pending = [i]) := by
    cases hm with
    | reject _ | failFind | replay _ _ _ => exact .inl rfl
    | miss _ hf => exact .inr (.inl (ho _ rfl (hkey ▸ hf)))
    | draw _ _ | drawError _ _ => exact .inr (.inr hpc.2.1.pending)
    | failCreate | refuse _ _ _ | create _ _ => exact .inr (.inr hpc.2.1.pending)
  rcases hopen with rfl | hpend
  · exact hj
  have hno : ¬ Open k sh j := by
    intro hop
    rcases hpend with hpend | hpend <;> rw [hop.pending] at hpend
    · cases hpend
    · exact hji (List.cons.inj hpend).1
  have hrows : ∀ q, findByIdempotencyKey sh.payments k = some q →
      findByIdempotencyKey sh'.payments k = some q := by
    intro q hq
    obtain ⟨hqm, hqk⟩ := findByIdempotencyKey_eq_some.mp hq
    refine findByIdempotencyKey_eq_some.mpr ⟨?_, hqk⟩
    cases hm with
    | @create _ _ payments id hc =>
      show q ∈ payments.rows
      rw [(createPayment_ok hc).2.1]
      exact List.mem_append_left _ hqm
    | _ => exact hqm
  cases p with
  | charge dto' qc =>
    obtain ⟨hv', hqc⟩ := hj
    cases qc with
    | start | failed => exact ⟨hv', trivial⟩
    | missed key => exact absurd hqc.2.1 hno
    | creating data => exact absurd hqc.2.1 hno
    | done res =>
      obtain ⟨r, q, hres, hq, hid⟩ := hqc
      exact ⟨hv', r, q, hres, hrows q hq, hid⟩
  | refund | getPayment => exact hj

/-- An admitted look-up that misses. -/
theorem clear_of_admitted {s : Pool Shared Call} {e : StepIn} {dto : ChargeDto} {pc pc' : ChargePc}
    (ho : LookupsClear s (.proc i e)) (hp : s.procs[i]? = some (.charge dto pc))
    (ha : service.act s.shared i (.charge dto pc) e = some (sh', .charge dto pc')) (key : String)
    (hpc : pc' = .missed key)
    (hf : findByIdempotencyKey s.shared.payments (trim dto.idempotencyKey) = none) :
    s.shared.pending = [] ∧ s.shared.successes (trim dto.idempotencyKey) = 0 ∧ dto.Storable := by
  subst hpc
  cases pc with
  | start =>
    cases hfault : e.fault with
    | false => exact ho dto (by simp [lookup, hp]) hfault hf
    | true =>
      -- a look-up that throws does not miss
      simp only [service, chargeStep, hfault] at ha
      split at ha <;> simp at ha
  | missed key' =>
    obtain ⟨pc'', hpc, hm⟩ := act_charge ha
    cases hpc
    cases hm
  | creating data =>
    obtain ⟨pc'', hpc, hm⟩ := act_charge ha
    cases hpc
    cases hm
  | done res => cases ha
  | failed => cases ha

theorem onceOutline (k : String) :
    Pool.Outline service LookupsClear (OneOpen k) (OnceAssertion k) where
  env _ e := e.elim
  own s i p e sh p' h ho hp ha := by
    have hi := h.2 i p hp
    cases p with
    | charge dto pc =>
      have hkey : k = trim dto.idempotencyKey := (validateCharge_ok hi.1).1
      obtain ⟨pc', rfl, hm⟩ := act_charge ha
      refine hm.once h.1 hi fun key hpc hf => ?_
      rw [hkey] at hf ⊢
      exact clear_of_admitted ho hp ha key hpc hf
    | refund | getPayment => exact hi.elim
  other s i p e sh p' j q h ho hp ha hji hq := by
    have hi := h.2 i p hp
    cases p with
    | charge dto pc =>
      have hkey : k = trim dto.idempotencyKey := (validateCharge_ok hi.1).1
      obtain ⟨pc', rfl, hm⟩ := act_charge ha
      refine hm.once_other hji hi (fun key hpc hf => ?_) (h.2 j q hq)
      rw [hkey] at hf
      exact (clear_of_admitted ho hp ha key hpc hf).1
    | refund | getPayment => exact hi.elim

end

/-- **A key is charged once**, when no look-up misses beside an open call, after a
lost success or for an amount that cannot be stored. -/
theorem charged_once {k : String} {s : Pool Shared Call} (h : (charges k).Reach LookupsClear s) :
    ChargedOnce k s := by
  have hI := Pool.invariant (onceOutline k) (fun s hi => ⟨?_, fun i p hp => ?_⟩) h
  · refine ⟨hI.1.drawn, ?_⟩
    cases hf : findByIdempotencyKey s.shared.payments k with
    | none =>
      refine ⟨"", fun i dto res hp => ?_⟩
      obtain ⟨-, r, p, -, hq, -⟩ := hI.2 i _ hp
      rw [hf] at hq
      cases hq
    | some q =>
      refine ⟨q.id, fun i dto res hp => ?_⟩
      obtain ⟨-, r, p, hres, hq, hid⟩ := hI.2 i _ hp
      rw [hf] at hq
      cases hq
      exact ⟨r, hres, hid⟩
  · exact ⟨by simp [Shared.successes, hi.draws], fun _ _ => hi.pending⟩
  · obtain ⟨dto, rfl, hv⟩ := hi.fresh p (List.mem_of_getElem? hp)
    exact ⟨hv, trivial⟩

/-- A client that sends one charge twice. -/
def twoCharges : Pool Shared Call where
  shared := ⟨PaymentTable.empty, [], []⟩
  procs := [.charge ⟨"b1", "ann", .ofInt 450, none, "key"⟩ .start,
    .charge ⟨"b1", "ann", .ofInt 450, none, " key "⟩ .start]

theorem twoCharges_init : OneKey "key" twoCharges := by
  refine ⟨rfl, rfl, fun p hp => ?_⟩
  simp only [twoCharges, List.mem_cons, List.not_mem_nil, or_false] at hp
  rcases hp with rfl | rfl <;> exact ⟨_, rfl, by decide⟩

/-- The state a list of events leads to from `twoCharges`. -/
def twoChargesAfter (es : List (Pool.Event StepIn Empty)) : Pool Shared Call :=
  (LTS.execAll (Pool.step service) twoCharges es).getD twoCharges

/-- The retry comes after the first call has stored. -/
theorem charged_once_retry : ChargedOnce "key" (twoChargesAfter
    [.proc 0 {}, .proc 0 {}, .proc 0 { rowId := "p1" }, .proc 1 {}]) :=
  charged_once (LTS.reach_of_execAll [.proc 0 {}, .proc 0 {}, .proc 0 { rowId := "p1" }, .proc 1 {}]
    twoCharges_init (by decide) rfl)

/-- **One key charged twice**: both look-ups miss, both draw success, and the second
insert throws. -/
theorem exists_charged_twice : ∃ s, (charges "key").Reachable s ∧ s.shared.successes "key" = 2 ∧
    (∃ dto, s.procs[1]? = some (.charge dto (.done (.error uniqueError)))) ∧
    ¬ ChargedOnce "key" s := by
  refine ⟨twoChargesAfter [.proc 0 {}, .proc 1 {}, .proc 0 {}, .proc 1 {},
    .proc 0 { rowId := "p1" }, .proc 1 { rowId := "p2" }], LTS.reachable_of_execAll
      [.proc 0 {}, .proc 1 {}, .proc 0 {}, .proc 1 {}, .proc 0 { rowId := "p1" },
        .proc 1 { rowId := "p2" }] twoCharges_init rfl, by decide, ⟨_, rfl⟩, fun h => ?_⟩
  exact absurd h.drawn (by decide)

end RouteGo.Payments
