import RouteGo.Bookings.Live
import RouteGo.Bookings.Occupancy
import RouteGo.Lib.Reservation

/-!
# The seat map

What the booking table is for: who has which leg of which seat, and until when
(`seatMap`). While the live rows are disjoint a leg has one holder
(`seatMap_holder`), the availability query reads the map (`available_iff_free`), and
what a call writes (`SeatWrite`) is one request to the calendar (`SeatWrite.step`).
`HasLeg` says in terms of the rows that a leg is a booking's alone.
-/

namespace RouteGo.Bookings

open Js

/-- A leg of a seat of a trip. -/
structure SeatLeg where
  tripId : String
  seatId : String
  leg : Int
  deriving DecidableEq, Repr

def Booking.Covers (b : Booking) (u : SeatLeg) : Prop :=
  b.tripId = u.tripId ∧ b.seatId = u.seatId ∧ b.fromStopSeq ≤ u.leg ∧ u.leg < b.toStopSeq

instance (b : Booking) (u : SeatLeg) : Decidable (b.Covers u) := inferInstanceAs (Decidable (_ ∧ _))

/-- When the booking stops counting, if nothing is written to it. -/
def Booking.deadline (b : Booking) : WithTop Int :=
  if b.status = .CONFIRMED then ⊤
  else match b.holdExpiresAt with
    | none => ⊤
    | some e => (e : WithTop Int)

theorem isActive_iff_deadline {t : Int} {b : Booking} :
    isActive t b = true ↔ blocking b.status = true ∧ (t : WithTop Int) < b.deadline := by
  unfold isActive Booking.deadline
  cases hs : b.status <;> cases he : b.holdExpiresAt <;> simp [blocking, WithTop.coe_lt_top]

theorem deadline_withStatus_confirmed (b : Booking) : (b.withStatus .CONFIRMED).deadline = ⊤ := by
  simp [Booking.deadline, Booking.withStatus]

/-- Who has each leg at `t`. -/
def seatMap (bookings : BookingTable) (t : Int) : Calendar Int String SeatLeg where
  now := t
  holder u := (bookings.rows.find? fun b => decide (b.Covers u) && isActive t b).map
    fun b => (b.id, b.deadline)
  current u x h := by
    obtain ⟨b, hb, rfl⟩ := Option.map_eq_some_iff.mp h
    have hact := List.find?_some hb
    rw [Bool.and_eq_true] at hact
    exact (isActive_iff_deadline.mp hact.2).2

section
variable {bookings bookings' : BookingTable} {t t' : Int} {a b c : Booking} {u : SeatLeg}
  {x : String × WithTop Int} {id : String} {s : BookingStatus}

/-- Rows that share a leg of a seat overlap. -/
theorem overlaps_of_covers (ha : a.Covers u) (hb : b.Covers u) : a.SameSeat b ∧ a.Overlaps b := by
  obtain ⟨ht, hs, hf, hg⟩ := ha
  obtain ⟨ht', hs', hf', hg'⟩ := hb
  refine ⟨⟨ht.trans ht'.symm, hs.trans hs'.symm⟩, ?_, ?_⟩ <;> omega

/-- One live row has a leg. -/
theorem eq_of_covers (hd : SeatDisjoint (queryLive.Live t) bookings) (ha : a ∈ bookings.rows)
    (hb : b ∈ bookings.rows) (hla : isActive t a = true) (hlb : isActive t b = true)
    (hca : a.Covers u) (hcb : b.Covers u) : a = b := by
  by_contra hne
  obtain ⟨hseat, hov⟩ := overlaps_of_covers hca hcb
  exact hd a ha b hb (fun hid => hne (Table.eq_of_key_eq ha hb hid)) hseat hla hlb hov

theorem seatMap_holder (hd : SeatDisjoint (queryLive.Live t) bookings) :
    (seatMap bookings t).holder u = some x ↔
      ∃ b ∈ bookings.rows, b.Covers u ∧ isActive t b = true ∧ (b.id, b.deadline) = x := by
  simp only [seatMap, Option.map_eq_some_iff]
  constructor
  · rintro ⟨b, hb, hx⟩
    have hp := List.find?_some hb
    rw [Bool.and_eq_true, decide_eq_true_eq] at hp
    exact ⟨b, List.mem_of_find?_eq_some hb, hp.1, hp.2, hx⟩
  · rintro ⟨b, hb, hcov, hact, hx⟩
    cases hf : bookings.rows.find? fun b => decide (b.Covers u) && isActive t b with
    | none => simpa [hcov, hact] using List.find?_eq_none.mp hf b hb
    | some c =>
      have hp := List.find?_some hf
      rw [Bool.and_eq_true, decide_eq_true_eq] at hp
      obtain rfl := eq_of_covers hd (List.mem_of_find?_eq_some hf) hb hp.2 hact hp.1 hcov
      exact ⟨c, rfl, hx⟩

theorem seatMap_free : (seatMap bookings t).holder u = none ↔
    ∀ b ∈ bookings.rows, b.Covers u → isActive t b = false := by
  simp only [seatMap, Option.map_eq_none_iff, List.find?_eq_none, Bool.and_eq_true,
    decide_eq_true_eq, not_and, Bool.not_eq_true]

/-- The legs of a booking that counts are its own. -/
theorem seatMap_holder_of_mem (hd : SeatDisjoint (queryLive.Live t) bookings)
    (hb : b ∈ bookings.rows) (hact : isActive t b = true) (hc : b.Covers u) :
    (seatMap bookings t).holder u = some (b.id, b.deadline) :=
  (seatMap_holder hd).mpr ⟨b, hb, hc, hact, rfl⟩

/-- **The query reads the map**: a segment is available when its legs are free. Its ends are
no fractions, and may be infinite. -/
theorem available_iff_free {C : IdColumn} (hw : ∀ b ∈ bookings.rows, b.WellFormed)
    {tripId seatId trip seat : String} (htrip : tripId ≠ "") (hseat : seatId ≠ "")
    (ht : C.keep tripId = some trip) (hs : C.keep seatId = some seat) {f g : Number}
    (hf : f.isWhole = true) (hg : g.isWhole = true) (hfg : f.lt g = true) :
    checkAvailability tripId seatId (.number f) (.number g)
        (findActiveBookingsForSeat C bookings tripId seatId t) = .ok true ↔
      ∀ i : Int, f.le (.ofInt i) = true → (Number.ofInt i).lt g = true →
        (seatMap bookings t).holder ⟨trip, seat, i⟩ = none := by
  rw [findActive_of_keep ht hs,
    checkAvailability_of_segment (validateSegment_of_lt htrip hseat hfg),
    Except.ok.injEq, Bool.not_eq_true', Bool.eq_false_iff, ne_eq, segmentsOf_conflict_iff]
  constructor
  · intro h i hi hi'
    refine seatMap_free.mpr fun b hb ⟨hbt, hbs, hleg⟩ => ?_
    by_contra hact
    rw [Bool.not_eq_false] at hact
    obtain ⟨h1, h2⟩ := (Number.exists_between_iff (hw b hb) hfg hf hg).mp ⟨i, hleg, hi, hi'⟩
    exact h ⟨b, mem_activeRows.mpr ⟨hb, hbt, hbs, hact⟩, blocking_of_isActive hact, h1, h2⟩
  · rintro h ⟨b, hb, -, h1, h2⟩
    obtain ⟨hrow, hbt, hbs, hact⟩ := mem_activeRows.mp hb
    obtain ⟨i, hleg, hi, hi'⟩ := (Number.exists_between_iff (hw b hrow) hfg hf hg).mpr ⟨h1, h2⟩
    have hfree := seatMap_free.mp (h i hi hi') b hrow ⟨hbt, hbs, hleg⟩
    rw [hact] at hfree
    cases hfree

/-! ## Time -/

/-- Waiting only lets holds run out. -/
theorem seatMap_wait (hd : SeatDisjoint (queryLive.Live t) bookings) (htt : t ≤ t') :
    seatMap bookings t' = (seatMap bookings t).lapse t' := by
  have hd' : SeatDisjoint (queryLive.Live t') bookings := hd.mono fun _ => queryLive.antitone htt
  refine Calendar.ext_holder rfl fun u x => ?_
  rw [Calendar.lapse_holder, seatMap_holder hd, seatMap_holder hd']
  constructor
  · rintro ⟨b, hb, hc, hact, rfl⟩
    exact ⟨⟨b, hb, hc, isActive_mono htt hact, rfl⟩, (isActive_iff_deadline.mp hact).2⟩
  · rintro ⟨⟨b, hb, hc, hact, rfl⟩, hlt⟩
    exact ⟨b, hb, hc, isActive_iff_deadline.mpr ⟨(isActive_iff_deadline.mp hact).1, hlt⟩, rfl⟩

theorem seatMap_lapse_now : (seatMap bookings t).lapse t = seatMap bookings t :=
  Calendar.lapse_now (c := seatMap bookings t)

/-! ## Writes -/

/-- What a step may do to the seats. -/
inductive SeatEvent where
  | look
  | hold (b : Booking)
  | confirm (id : String)
  | giveUp (id : String)

/-- What a call writes at `t`. -/
inductive SeatWrite (t : Int) (bookings : BookingTable) : SeatEvent → BookingTable → Prop
  | look : SeatWrite t bookings .look bookings
  | hold {b : Booking} {bookings' : BookingTable} {e : Int}
      (hi : bookings.insert b = some bookings')
      (hp : b.status = .PENDING) (he : b.holdExpiresAt = some e)
      (hf : ∀ c ∈ bookings.rows, c.SameSeat b → isActive t c = true → ¬ c.Overlaps b) :
      SeatWrite t bookings (.hold b) bookings'
  | confirm {b : Booking} {id : String} (hb : bookings.find id = some b)
      (hact : isActive t b = true) :
      SeatWrite t bookings (.confirm id) (setStatus bookings id .CONFIRMED)
  | expire {b : Booking} {id : String} {s : BookingStatus} (hb : bookings.find id = some b)
      (hn : isActive t b = false) (hs : blocking s = false) :
      SeatWrite t bookings .look (setStatus bookings id s)
  | giveUp {id : String} {s : BookingStatus} (hs : blocking s = false) :
      SeatWrite t bookings (.giveUp id) (setStatus bookings id s)

theorem not_isActive_of_blocking (hs : blocking s = false) :
    isActive t (b.withStatus s) = false := by
  rw [Bool.eq_false_iff, ne_eq, isActive_iff_deadline]
  rintro ⟨hb, -⟩
  have hst : (b.withStatus s).status = s := rfl
  rw [hst, hs] at hb
  cases hb

theorem SeatWrite.disjoint {ev : SeatEvent} (h : SeatWrite t bookings ev bookings')
    (hd : SeatDisjoint (queryLive.Live t) bookings) :
    SeatDisjoint (queryLive.Live t) bookings' := by
  cases h with
  | look => exact hd
  | @hold b _ e hi hp he hf =>
    intro c hc d hd' hne hs hlc hld hov
    rcases (Table.mem_of_insert hi).mp hc with hc | rfl <;>
      rcases (Table.mem_of_insert hi).mp hd' with hd' | rfl
    · exact hd c hc d hd' hne hs hlc hld hov
    · exact hf c hc hs hlc hov
    · exact hf d hd' hs.symm hld hov.symm
    · exact hne rfl
  | @confirm b id hb hact =>
    refine hd.setStatus_of_live fun c hc hid _ => ?_
    obtain rfl :=
      Table.eq_of_key_eq hc (Table.mem_of_find hb) (hid.trans (Table.key_of_find hb).symm)
    exact hact
  | expire _ _ hs | giveUp hs =>
    refine hd.setStatus_of_live fun c _ _ hl => ?_
    have hfalse := not_isActive_of_blocking (t := t) (b := c) hs
    exact absurd hl (by simp [queryLive, hfalse])

/-- A hold that counts takes its legs. -/
theorem seatMap_hold {e : Int} (hd : SeatDisjoint (queryLive.Live t) bookings)
    (hi : bookings.insert b = some bookings') (hp : b.status = .PENDING)
    (he : b.holdExpiresAt = some e)
    (hf : ∀ c ∈ bookings.rows, c.SameSeat b → isActive t c = true → ¬ c.Overlaps b) (hte : t < e) :
    Calendar.Step (seatMap bookings t) (t, .reserve b.id {u | b.Covers u} e)
      (seatMap bookings' t) := by
  have hdead : b.deadline = (e : WithTop Int) := by simp [Booking.deadline, hp, he]
  have hact : isActive t b = true :=
    isActive_iff_deadline.mpr ⟨by rw [hp]; rfl, hdead ▸ WithTop.coe_lt_coe.mpr hte⟩
  -- no live row has a leg of the hold
  have hfree : ∀ u, b.Covers u → ∀ c ∈ bookings.rows, isActive t c = true → ¬ c.Covers u :=
    fun u hb c hc hlc hcov =>
      hf c hc (overlaps_of_covers hcov hb).1 hlc (overlaps_of_covers hcov hb).2
  have hmap : seatMap bookings' t = ((seatMap bookings t).lapse t).take b.id {u | b.Covers u} e
      (WithTop.coe_lt_coe.mpr hte) := by
    refine Calendar.ext_holder rfl fun u x => ?_
    rw [Calendar.take_holder, seatMap_lapse_now,
      seatMap_holder ((SeatWrite.hold hi hp he hf).disjoint hd), seatMap_holder hd]
    constructor
    · rintro ⟨c, hc, hcov, hlc, rfl⟩
      rcases (Table.mem_of_insert hi).mp hc with hc | rfl
      · exact .inr ⟨fun hb => hfree u hb c hc hlc hcov, c, hc, hcov, hlc, rfl⟩
      · exact .inl ⟨hcov, by rw [hdead]⟩
    · rintro (⟨hcov, rfl⟩ | ⟨-, c, hc, hcov, hlc, rfl⟩)
      · exact ⟨b, (Table.mem_of_insert hi).mpr (.inr rfl), hcov, hact, by rw [hdead]⟩
      · exact ⟨c, (Table.mem_of_insert hi).mpr (.inl hc), hcov, hlc, rfl⟩
  rw [hmap]
  refine .reserve (t := t) le_rfl hte fun u hu => ?_
  rw [seatMap_lapse_now, seatMap_free]
  intro c hc hcov
  by_contra hlc
  exact hfree u hu c hc ((Bool.not_eq_false _).mp hlc) hcov

/-- A hold that has run out when it is written takes nothing. -/
theorem seatMap_hold_late {e : Int} (hd : SeatDisjoint (queryLive.Live t) bookings)
    (hi : bookings.insert b = some bookings') (hp : b.status = .PENDING)
    (he : b.holdExpiresAt = some e)
    (hf : ∀ c ∈ bookings.rows, c.SameSeat b → isActive t c = true → ¬ c.Overlaps b)
    (hte : ¬ t < e) : seatMap bookings' t = seatMap bookings t := by
  have hnot : ¬ isActive t b = true := by simp [isActive, hp, he, hte]
  refine Calendar.ext_holder rfl fun u x => ?_
  rw [seatMap_holder ((SeatWrite.hold hi hp he hf).disjoint hd), seatMap_holder hd]
  constructor
  · rintro ⟨c, hc, hcov, hlc, rfl⟩
    rcases (Table.mem_of_insert hi).mp hc with hc | rfl
    · exact ⟨c, hc, hcov, hlc, rfl⟩
    · exact absurd hlc hnot
  · rintro ⟨c, hc, hcov, hlc, rfl⟩
    exact ⟨c, (Table.mem_of_insert hi).mpr (.inl hc), hcov, hlc, rfl⟩

/-- A confirmation makes for good what the booking has. -/
theorem seatMap_confirm (hd : SeatDisjoint (queryLive.Live t) bookings)
    (hb : bookings.find id = some b) (hact : isActive t b = true) :
    Calendar.Step (seatMap bookings t) (t, .keep id {u | b.Covers u})
      (seatMap (setStatus bookings id .CONFIRMED) t) := by
  have hmem := Table.mem_of_find hb
  obtain rfl : b.id = id := Table.key_of_find hb
  have hmap : seatMap (setStatus bookings b.id .CONFIRMED) t =
      ((seatMap bookings t).lapse t).take b.id {u | b.Covers u} ⊤ (WithTop.coe_lt_top t) := by
    refine Calendar.ext_holder rfl fun u x => ?_
    refine Iff.trans ?_ Calendar.take_holder.symm
    rw [seatMap_lapse_now, seatMap_holder ((SeatWrite.confirm hb hact).disjoint hd),
      seatMap_holder hd]
    constructor
    · rintro ⟨c, hc, hcov, hlc, rfl⟩
      rcases mem_setStatus.mp hc with ⟨hc, hne⟩ | ⟨d, hd', hid, rfl⟩
      · refine .inr ⟨fun hcovb => hne ?_, c, hc, hcov, hlc, rfl⟩
        rw [eq_of_covers hd hc hmem hlc hact hcov hcovb]
      · obtain rfl := Table.eq_of_key_eq hd' hmem hid
        exact .inl ⟨hcov, by rw [deadline_withStatus_confirmed]; rfl⟩
    · rintro (⟨hcov, rfl⟩ | ⟨hcov, c, hc, hcovc, hlc, rfl⟩)
      · exact ⟨b.withStatus .CONFIRMED, mem_setStatus.mpr (.inr ⟨b, hmem, rfl, rfl⟩), hcov,
          isActive_of_confirmed rfl, by rw [deadline_withStatus_confirmed]; rfl⟩
      · refine ⟨c, mem_setStatus.mpr (.inl ⟨hc, fun hid => hcov ?_⟩), hcovc, hlc, rfl⟩
        obtain rfl := Table.eq_of_key_eq hc hmem hid
        exact hcovc
  rw [hmap]
  refine .keep (t := t) le_rfl fun u hu x hx => ?_
  rw [seatMap_lapse_now, seatMap_holder_of_mem hd hmem hact hu] at hx
  cases hx
  rfl

/-- A booking without its seat frees its legs. -/
theorem seatMap_giveUp (hd : SeatDisjoint (queryLive.Live t) bookings) (hs : blocking s = false) :
    Calendar.Step (seatMap bookings t) (t, .free id) (seatMap (setStatus bookings id s) t) := by
  have hmap : seatMap (setStatus bookings id s) t = ((seatMap bookings t).lapse t).drop id := by
    refine Calendar.ext_holder rfl fun u x => ?_
    rw [Calendar.drop_holder, seatMap_lapse_now, seatMap_holder ((SeatWrite.giveUp hs).disjoint hd),
      seatMap_holder hd]
    constructor
    · rintro ⟨c, hc, hcov, hlc, rfl⟩
      rcases mem_setStatus.mp hc with ⟨hc, hne⟩ | ⟨d, hd', hid, rfl⟩
      · exact ⟨⟨c, hc, hcov, hlc, rfl⟩, hne⟩
      · rw [not_isActive_of_blocking hs] at hlc
        cases hlc
    · rintro ⟨⟨c, hc, hcov, hlc, rfl⟩, hne⟩
      exact ⟨c, mem_setStatus.mpr (.inl ⟨hc, hne⟩), hcov, hlc, rfl⟩
  rw [hmap]
  exact .free le_rfl

/-- The seat of a booking that does not count is not taken from it. -/
theorem seatMap_expire (hd : SeatDisjoint (queryLive.Live t) bookings)
    (hb : bookings.find id = some b) (hn : isActive t b = false) (hs : blocking s = false) :
    seatMap (setStatus bookings id s) t = seatMap bookings t := by
  refine Calendar.ext_holder rfl fun u x => ?_
  rw [seatMap_holder ((SeatWrite.expire hb hn hs).disjoint hd), seatMap_holder hd]
  constructor
  · rintro ⟨c, hc, hcov, hlc, rfl⟩
    rcases mem_setStatus.mp hc with ⟨hc, -⟩ | ⟨d, -, -, rfl⟩
    · exact ⟨c, hc, hcov, hlc, rfl⟩
    · rw [not_isActive_of_blocking hs] at hlc
      cases hlc
  · rintro ⟨c, hc, hcov, hlc, rfl⟩
    refine ⟨c, mem_setStatus.mpr (.inl ⟨hc, fun hid => ?_⟩), hcov, hlc, rfl⟩
    obtain rfl :=
      Table.eq_of_key_eq hc (Table.mem_of_find hb) (hid.trans (Table.key_of_find hb).symm)
    rw [hn] at hlc
    cases hlc

/-- **A write is one request**, which comes at the time of the write and frees nobody
but the booking that gives up. -/
theorem SeatWrite.step {ev : SeatEvent} (htt : t ≤ t') (h : SeatWrite t' bookings ev bookings')
    (hd : SeatDisjoint (queryLive.Live t) bookings) :
    ∃ r, Calendar.Step (seatMap bookings t) (t', r) (seatMap bookings' t') ∧
      ∀ i, r = .free i → ev = .giveUp i := by
  have hd' : SeatDisjoint (queryLive.Live t') bookings := hd.mono fun _ => queryLive.antitone htt
  suffices hnow : ∃ r, Calendar.Step (seatMap bookings t') (t', r) (seatMap bookings' t') ∧
      ∀ i, r = .free i → ev = .giveUp i by
    obtain ⟨r, hr, hfree⟩ := hnow
    rw [seatMap_wait hd htt] at hr
    exact ⟨r, hr.of_lapse htt, hfree⟩
  have hlook : Calendar.Step (seatMap bookings t') (t', .look) (seatMap bookings t') := by
    have hstep := Calendar.Step.look (c := seatMap bookings t') (t := t') le_rfl
    rwa [seatMap_lapse_now] at hstep
  cases h with
  | look => exact ⟨.look, hlook, fun i hi => by cases hi⟩
  | @hold b _ e hi hp he hf =>
    by_cases hte : t' < e
    · exact ⟨_, seatMap_hold hd' hi hp he hf hte, fun i hi => by cases hi⟩
    · rw [seatMap_hold_late hd' hi hp he hf hte]
      exact ⟨.look, hlook, fun i hi => by cases hi⟩
  | confirm hb hact => exact ⟨_, seatMap_confirm hd' hb hact, fun i hi => by cases hi⟩
  | expire hb hn hs =>
    rw [seatMap_expire hd' hb hn hs]
    exact ⟨.look, hlook, fun i hi => by cases hi⟩
  | giveUp hs => exact ⟨_, seatMap_giveUp hd' hs, fun i hi => by cases hi; rfl⟩

/-! ## Holders -/

/-- The leg is of the booking `id` at `t`, and of no other one that counts. -/
structure HasLeg (bookings : BookingTable) (t : Int) (id : String) (u : SeatLeg) : Prop where
  active : ∃ b ∈ bookings.rows, b.id = id ∧ b.Covers u ∧ isActive t b = true
  alone : ∀ c ∈ bookings.rows, c.Covers u → isActive t c = true → c.id = id

theorem hasLeg_of_has {e : WithTop Int} (hd : SeatDisjoint (queryLive.Live t) bookings)
    (h : (seatMap bookings t).Has id u e) (hlt : (t : WithTop Int) < e) :
    HasLeg bookings t id u := by
  rcases h with ⟨e', -, he⟩ | hpast
  · obtain ⟨c, hc, hcov, hlc, hx⟩ := (seatMap_holder hd).mp he
    obtain rfl : c.id = id := congrArg Prod.fst hx
    refine ⟨⟨c, hc, rfl, hcov, hlc⟩, fun d hd' hcovd hld => ?_⟩
    rw [eq_of_covers hd hd' hc hld hlc hcovd hcov]
  · exact absurd (lt_of_le_of_lt hpast hlt) (lt_irrefl _)

end

end RouteGo.Bookings
