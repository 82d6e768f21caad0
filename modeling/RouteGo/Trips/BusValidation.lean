import RouteGo.Trips.BusService

/-!
# Layouts that are refused

What a well-formed bus layout is, said without the validator, and what the validator
makes of any body: a `ValidationError` for exactly the layouts that are ill-formed,
except that an entry `null` which it comes to is read before it is checked
(`exact_iff`).
-/

namespace RouteGo.Trips

open Js

/-! ## Entries -/

namespace SeatEntry

/-- An object with a text that is not blank and a known type. -/
def WellFormed (seat : SeatEntry) : Prop :=
  ∃ number, ∃ t ∈ SeatType.values, seat = .object (.string number) (.string t.text) ∧
    trim number ≠ ""

/-- The trimmed number, if there is one. -/
def number : SeatEntry → Option String
  | .object seatNumber _ => seatNumber.trimmed
  | .value _ => none

/-- Reading a field of the entry throws. -/
def Nullish : SeatEntry → Prop
  | .value .null => True
  | .value .undefined => True
  | _ => False

end SeatEntry

/-- Well-formed entries with numbers of their own, none of them seen before. -/
structure GoodSeats (seen : List String) (entries : List SeatEntry) : Prop where
  each : ∀ e ∈ entries, e.WellFormed
  distinct : entries.Pairwise fun a b => a.number ≠ b.number
  fresh : ∀ e ∈ entries, ∀ t ∈ seen, e.number ≠ some t

/-- The entries before the first bad one are good, and that one is `null`. -/
def ReachesNull (seen : List String) (entries : List SeatEntry) : Prop :=
  ∃ before e after, entries = before ++ e :: after ∧ GoodSeats seen before ∧ e.Nullish

section
variable {n : Nat} {seen : List String} {seat : SeatEntry} {entries : List SeatEntry} {t : String}

theorem ofValue_isSome_iff {v : Value} :
    (SeatType.ofValue v).isSome = true ↔ ∃ t ∈ SeatType.values, v = .string t.text := by
  rw [SeatType.ofValue, member, List.find?_isSome]
  simp

theorem SeatEntry.WellFormed.number_eq (h : seat.WellFormed) : ∃ t, seat.number = some t := by
  obtain ⟨number, t, -, rfl, hne⟩ := h
  exact ⟨trim number, if_neg hne⟩

theorem SeatEntry.Nullish.not_wellFormed (h : seat.Nullish) : ¬ seat.WellFormed := by
  rintro ⟨number, t, -, rfl, -⟩
  exact h

theorem goodSeats_nil : GoodSeats seen [] := by
  constructor <;> simp

/-- The number of the first entry is one more that is seen. -/
theorem goodSeats_cons (hn : seat.number = some t) : GoodSeats seen (seat :: entries) ↔
    seat.WellFormed ∧ t ∉ seen ∧ GoodSeats (t :: seen) entries := by
  constructor
  · rintro ⟨heach, hdistinct, hfresh⟩
    obtain ⟨hhead, htail⟩ := List.pairwise_cons.mp hdistinct
    refine ⟨heach seat List.mem_cons_self, fun ht => hfresh seat List.mem_cons_self t ht hn, ?_⟩
    constructor
    · exact fun e he => heach e (List.mem_cons_of_mem seat he)
    · exact htail
    · intro e he x hx
      rcases List.mem_cons.mp hx with rfl | hx
      · rw [← hn]
        exact (hhead e he).symm
      · exact hfresh e (List.mem_cons_of_mem seat he) x hx
  · rintro ⟨hwf, ht, heach, hdistinct, hfresh⟩
    constructor
    · exact List.forall_mem_cons.mpr ⟨hwf, heach⟩
    · refine List.pairwise_cons.mpr ⟨fun e he => ?_, hdistinct⟩
      rw [hn]
      exact (hfresh e he t List.mem_cons_self).symm
    · intro e he x hx
      rcases List.mem_cons.mp he with rfl | he
      · rw [hn]
        exact fun heq => ht (Option.some.inj heq ▸ hx)
      · exact hfresh e he x (List.mem_cons_of_mem t hx)

theorem reachesNull_cons (hn : seat.number = some t) (hwf : seat.WellFormed) (ht : t ∉ seen) :
    ReachesNull seen (seat :: entries) ↔ ReachesNull (t :: seen) entries := by
  constructor
  · rintro ⟨before, e, after, heq, hgood, hnull⟩
    cases before with
    | nil =>
      obtain ⟨rfl, -⟩ := List.cons_eq_cons.mp heq
      exact absurd hwf hnull.not_wellFormed
    | cons b before =>
      obtain ⟨rfl, htail⟩ := List.cons_eq_cons.mp heq
      exact ⟨before, e, after, htail, ((goodSeats_cons hn).mp hgood).2.2, hnull⟩
  · rintro ⟨before, e, after, rfl, hgood, hnull⟩
    exact ⟨seat :: before, e, after, rfl, (goodSeats_cons hn).mpr ⟨hwf, ht, hgood⟩, hnull⟩

/-! ## The loop -/

theorem validateSeats_nullish (h : seat.Nullish) :
    ∃ m, validateSeats n seen (seat :: entries) = .error (.Error m) := by
  cases seat with
  | object seatNumber seatType => exact h.elim
  | value v =>
    cases v with
    | null => exact ⟨_, rfl⟩
    | undefined => exact ⟨_, rfl⟩
    | _ => exact h.elim

theorem validateSeats_good (hwf : seat.WellFormed) (hn : seat.number = some t) (ht : t ∉ seen) :
    ∃ c, validateSeats n seen (seat :: entries) =
      (validateSeats (n + 1) (t :: seen) entries).map (c :: ·) := by
  obtain ⟨number, u, hu, rfl, -⟩ := hwf
  have htrim : Value.trimmed (.string number) = some t := hn
  obtain ⟨u', hu'⟩ := Option.isSome_iff_exists.mp (ofValue_isSome_iff.mpr ⟨u, hu, rfl⟩)
  refine ⟨⟨t, u'⟩, ?_⟩
  rw [validateSeats]
  simp only [SeatEntry.fields, bind, Except.bind, htrim, hu', if_neg ht]
  cases validateSeats (n + 1) (t :: seen) entries <;> rfl

/-- An entry that is refused in words: it can be read, and is ill-formed or not new. -/
theorem validateSeats_bad (hnull : ¬ seat.Nullish)
    (hbad : seat.WellFormed → ∃ t ∈ seen, seat.number = some t) :
    ∃ m, validateSeats n seen (seat :: entries) = .error (.ValidationError m) := by
  rw [validateSeats]
  cases seat with
  | value v =>
    cases v with
    | null => exact absurd trivial hnull
    | undefined => exact absurd trivial hnull
    | _ => exact ⟨_, rfl⟩
  | object seatNumber seatType =>
    simp only [SeatEntry.fields, bind, Except.bind]
    cases ht : seatNumber.trimmed with
    | none => exact ⟨_, rfl⟩
    | some t =>
      cases hu : SeatType.ofValue seatType with
      | none => exact ⟨_, rfl⟩
      | some u =>
        obtain ⟨number, rfl, rfl, hne⟩ := Value.trimmed_eq_some ht
        obtain ⟨u', hmem, rfl⟩ := ofValue_isSome_iff.mp (Option.isSome_iff_exists.mpr ⟨u, hu⟩)
        obtain ⟨t', hseen, heq⟩ := hbad ⟨number, u', hmem, rfl, hne⟩
        obtain rfl := Option.some.inj (ht.symm.trans heq)
        simp only [if_pos hseen]
        exact ⟨_, rfl⟩

/-- What the loop makes of any entries. -/
inductive SeatsVerdict (n : Nat) (seen : List String) (entries : List SeatEntry) : Prop
  | accepts (seats : List CreateSeatDto) (hgood : GoodSeats seen entries)
      (h : validateSeats n seen entries = .ok seats)
  | throws (m : String) (hnull : ReachesNull seen entries)
      (h : validateSeats n seen entries = .error (.Error m))
  | refuses (m : String) (hgood : ¬ GoodSeats seen entries) (hnull : ¬ ReachesNull seen entries)
      (h : validateSeats n seen entries = .error (.ValidationError m))

theorem seatsVerdict (n : Nat) (seen : List String) (entries : List SeatEntry) :
    SeatsVerdict n seen entries := by
  induction entries generalizing n seen with
  | nil => exact .accepts [] goodSeats_nil rfl
  | cons seat entries ih =>
    by_cases hnull : seat.Nullish
    · obtain ⟨m, hm⟩ := validateSeats_nullish hnull
      exact .throws m ⟨[], seat, entries, rfl, goodSeats_nil, hnull⟩ hm
    · by_cases hbad : seat.WellFormed → ∃ t ∈ seen, seat.number = some t
      · obtain ⟨m, hm⟩ := validateSeats_bad hnull hbad
        have hgood : ∀ es, ¬ GoodSeats seen (seat :: es) := by
          intro es hg
          obtain ⟨t, ht, hn⟩ := hbad (hg.each seat List.mem_cons_self)
          exact hg.fresh seat List.mem_cons_self t ht hn
        refine .refuses m (hgood entries) ?_ hm
        rintro ⟨before, e, after, heq, hg, he⟩
        cases before with
        | nil => exact hnull ((List.cons_eq_cons.mp heq).1 ▸ he)
        | cons b before =>
          obtain ⟨rfl, -⟩ := List.cons_eq_cons.mp heq
          exact hgood before hg
      · rw [Classical.not_imp] at hbad
        obtain ⟨hwf, hnew⟩ := hbad
        obtain ⟨t, hn⟩ := hwf.number_eq
        have ht : t ∉ seen := fun hm => hnew ⟨t, hm, hn⟩
        obtain ⟨c, hc⟩ := validateSeats_good hwf hn ht
        have hgood : GoodSeats seen (seat :: entries) ↔ _ := goodSeats_cons hn
        have hreach : ReachesNull seen (seat :: entries) ↔ _ := reachesNull_cons hn hwf ht
        cases ih (n + 1) (t :: seen) with
        | accepts seats hg h =>
          exact .accepts (c :: seats) (hgood.mpr ⟨hwf, ht, hg⟩) (by rw [hc, h]; rfl)
        | throws m hr h => exact .throws m (hreach.mpr hr) (by rw [hc, h]; rfl)
        | refuses m hg hr h =>
          exact .refuses m (fun h => hg (hgood.mp h).2.2) (fun h => hr (hreach.mp h))
            (by rw [hc, h]; rfl)

theorem GoodSeats.not_reachesNull (h : GoodSeats seen entries) : ¬ ReachesNull seen entries := by
  rintro ⟨before, e, after, rfl, -, hnull⟩
  exact hnull.not_wellFormed (h.each e (by simp))

end

/-! ## Bodies -/

/-- The fields beside the entries of `seats`. -/
structure FieldsOk (data : CreateBusDto) (entries : List SeatEntry) : Prop where
  registrationNumber : ∃ s, data.registrationNumber = .string s ∧ trim s ≠ ""
  operatorName : ∃ s, data.operatorName = .string s ∧ trim s ≠ ""
  busType : ∃ t ∈ BusType.values, data.busType = .string t.text
  seats : data.seats = some entries
  totalSeats : data.totalSeats = .ofInt entries.length ∧ 0 < entries.length

/-- A layout as it should be. -/
def WellFormed (data : CreateBusDto) : Prop :=
  ∃ entries, FieldsOk data entries ∧ (∀ e ∈ entries, e.WellFormed) ∧
    entries.Pairwise fun a b => a.number ≠ b.number

section
variable {data : CreateBusDto} {entries : List SeatEntry}

theorem trimmed_isSome_iff {v : Value} :
    (∃ t, v.trimmed = some t) ↔ ∃ s, v = .string s ∧ trim s ≠ "" := by
  constructor
  · rintro ⟨t, ht⟩
    obtain ⟨s, rfl, rfl, hne⟩ := Value.trimmed_eq_some ht
    exact ⟨s, rfl, hne⟩
  · rintro ⟨s, rfl, hne⟩
    exact ⟨trim s, if_neg hne⟩

theorem busType_isSome_iff {v : Value} :
    (∃ t, BusType.ofValue v = some t) ↔ ∃ t ∈ BusType.values, v = .string t.text := by
  rw [← Option.isSome_iff_exists, BusType.ofValue, member, List.find?_isSome]
  simp

theorem positiveNumber_ofInt {v : Value} {k : Nat} :
    positiveNumber v = some (.ofInt k) ↔ v = .ofInt k ∧ 0 < k := by
  have hz : Number.fin 0 = .ofInt 0 := by simp [Number.ofInt]
  have hle : (Number.ofInt k).le (.fin 0) = decide ((k : Int) ≤ 0) := by rw [hz, Number.le_ofInt]
  constructor
  · intro h
    cases v with
    | number a =>
      simp only [positiveNumber] at h
      split at h
      · cases h
      · next hc =>
        obtain rfl := Option.some.inj h
        refine ⟨rfl, ?_⟩
        by_contra hk
        rw [hle, decide_eq_true (by omega), Bool.or_true] at hc
        exact hc rfl
    | _ => cases h
  · rintro ⟨rfl, hk⟩
    have htruthy : (Value.number (.ofInt k)).truthy = true := Value.truthy_ofInt (by omega)
    have hpos : ¬ (k : Int) ≤ 0 := by omega
    simp only [positiveNumber, Value.ofInt, htruthy, hle, decide_eq_false hpos]
    rfl

/-- The bodies that get as far as the loop. -/
theorem validateBus_of_fields (h : FieldsOk data entries) :
    ∃ layout : List CreateSeatDto → BusLayout,
    validateBus data = (validateSeats 1 [] entries).map layout := by
  obtain ⟨r, hr⟩ := trimmed_isSome_iff.mpr h.registrationNumber
  obtain ⟨o, ho⟩ := trimmed_isSome_iff.mpr h.operatorName
  obtain ⟨t, ht⟩ := busType_isSome_iff.mpr h.busType
  have hp := positiveNumber_ofInt.mpr h.totalSeats
  have hne : entries ≠ [] := List.length_pos_iff.mp h.totalSeats.2
  refine ⟨fun seats => ⟨⟨toUpperCase r, o, t, .ofInt entries.length⟩, seats⟩, ?_⟩
  simp only [validateBus, hr, ho, ht, hp, h.seats, if_neg hne, ne_eq, not_true_eq_false, if_false]
  cases validateSeats 1 [] entries <;> rfl

/-- All others are refused in words. -/
theorem validateBus_of_not_fields (h : ∀ entries, ¬ FieldsOk data entries) :
    ∃ m, validateBus data = .error (.ValidationError m) := by
  unfold validateBus
  split
  · exact ⟨_, rfl⟩
  · next r hr =>
    split
    · exact ⟨_, rfl⟩
    · next o ho =>
      split
      · exact ⟨_, rfl⟩
      · next t ht =>
        split
        · exact ⟨_, rfl⟩
        · next total hp =>
          split
          · exact ⟨_, rfl⟩
          · next entries he =>
            split
            · exact ⟨_, rfl⟩
            · split
              · exact ⟨_, rfl⟩
              · next hlen =>
                obtain rfl := not_not.mp hlen
                exact absurd {
                  registrationNumber := trimmed_isSome_iff.mp ⟨r, hr⟩
                  operatorName := trimmed_isSome_iff.mp ⟨o, ho⟩
                  busType := busType_isSome_iff.mp ⟨t, ht⟩
                  seats := he
                  totalSeats := positiveNumber_ofInt.mp hp } (h entries)

theorem wellFormed_iff (h : FieldsOk data entries) : WellFormed data ↔ GoodSeats [] entries := by
  constructor
  · rintro ⟨entries', hf, heach, hdistinct⟩
    obtain rfl := Option.some.inj (h.seats.symm.trans hf.seats)
    exact ⟨heach, hdistinct, fun _ _ _ ht => absurd ht List.not_mem_nil⟩
  · intro hg
    exact ⟨entries, h, hg.each, hg.distinct⟩

/-- The validator comes to an entry `null`: all that it has read before is as it
should be. -/
def ComesToNull (data : CreateBusDto) : Prop := ∃ entries, FieldsOk data entries ∧
    ReachesNull [] entries

theorem comesToNull_iff (h : FieldsOk data entries) : ComesToNull data ↔ ReachesNull
    [] entries := by
  constructor
  · rintro ⟨entries', hf, hr⟩
    obtain rfl := Option.some.inj (h.seats.symm.trans hf.seats)
    exact hr
  · exact fun hr => ⟨entries, h, hr⟩

/-- Ill-formed bodies, and no others, are refused with a `ValidationError`, and the
checks throw no other error. -/
structure Exact (data : CreateBusDto) : Prop where
  refused : (∃ m, createBus.check data = .error (.ValidationError m)) ↔ ¬ WellFormed data
  others : ∀ e, createBus.check data = .error e → ∃ m, e = .ValidationError m

theorem exact_of_ok {d : BusLayout} (h : createBus.check data = .ok d) (hw : WellFormed data) :
    Exact data := by
  constructor
  · refine iff_of_false ?_ (not_not.mpr hw)
    rintro ⟨m, hm⟩
    rw [h] at hm
    cases hm
  · intro e he
    rw [h] at he
    cases he

theorem exact_of_refused {m : String} (h : createBus.check data = .error (.ValidationError m))
    (hw : ¬ WellFormed data) : Exact data := by
  constructor
  · exact iff_of_true ⟨m, h⟩ hw
  · intro e he
    rw [h] at he
    exact ⟨m, (Except.error.inj he).symm⟩

theorem not_exact_of_thrown {m : String} (h : createBus.check data = .error (.Error m)) :
    ¬ Exact data := by
  intro hexact
  obtain ⟨m', hm⟩ := hexact.others _ h
  cases hm

/-- **The checks are exact** for the bodies in which they do not come to a `null`. -/
theorem exact_iff (data : CreateBusDto) : Exact data ↔ ¬ ComesToNull data := by
  by_cases hf : ∃ entries, FieldsOk data entries
  · obtain ⟨entries, hf⟩ := hf
    obtain ⟨layout, hv⟩ := validateBus_of_fields hf
    have hcheck : createBus.check data = (validateSeats 1 [] entries).map layout := hv
    rw [comesToNull_iff hf]
    cases seatsVerdict 1 [] entries with
    | accepts seats hgood h =>
      rw [h] at hcheck
      exact iff_of_true (exact_of_ok hcheck ((wellFormed_iff hf).mpr hgood)) hgood.not_reachesNull
    | throws m hnull h =>
      rw [h] at hcheck
      exact iff_of_false (not_exact_of_thrown hcheck) (not_not.mpr hnull)
    | refuses m hgood hnull h =>
      rw [h] at hcheck
      exact iff_of_true (exact_of_refused hcheck (mt (wellFormed_iff hf).mp hgood)) hnull
  · obtain ⟨m, hm⟩ := validateBus_of_not_fields (not_exists.mp hf)
    refine iff_of_true (exact_of_refused hm ?_) ?_
    · rintro ⟨entries, h, -⟩
      exact hf ⟨entries, h⟩
    · rintro ⟨entries, h, -⟩
      exact hf ⟨entries, h⟩

end

/-- One seat, which is `null`. -/
def nullSeat : CreateBusDto :=
  ⟨.string "KL-07-AB-1", .string "Kaveri", .string "AC_SEATER", .ofInt 1, some [.value .null]⟩

/-- **A layout that is refused with a `TypeError`.** -/
theorem exists_type_error : ¬ ∀ data, Exact data := by
  intro hall
  have herr : createBus.check nullSeat =
    .error (.Error "Cannot read properties of null (reading 'seatNumber')") := rfl
  exact not_exact_of_thrown herr (hall nullSeat)

end RouteGo.Trips
