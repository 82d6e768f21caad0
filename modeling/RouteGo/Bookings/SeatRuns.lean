import RouteGo.Bookings.Controller
import RouteGo.Bookings.Race
import RouteGo.Bookings.Rows
import RouteGo.Bookings.SeatMap

/-!
# Any calls keep the seat map

Holds, confirmations and releases, interleaved, from the empty store, where ids are
compared as exact strings by the lock and by the store (`seatCalls`) and what is
written is written in time (`Timely`): the row of a hold before the TTL of its lock, a
confirmation while its booking counts. Every run is then a run of the calendar
(`calendar_of_run`), so a passenger has the legs of a booking until its deadline,
alone, unless a call takes the seat from that very booking (`keepsLeg_of_run`). Among
those calls is a second confirmation that comes late: `exists_confirmed_expired`.
-/

namespace RouteGo.Bookings

open Js

/-- The write of the call, if it is at one, is made in time. -/
def Call.WritesInTime (env : Env) (sh : Shared) (e : StepIn) : Call → Prop
  | .createHold _ (.inserting l _ _) => sh.clock < l.deadline env
  | .confirmBooking id .confirming =>
    e.fault = false → ∀ b ∈ sh.bookings.find id, isActive sh.clock b = true
  | _ => True

instance (env : Env) (sh : Shared) (e : StepIn) : ∀ p : Call, Decidable (p.WritesInTime env sh e)
  | .createHold _ (.inserting l _ _) => inferInstanceAs (Decidable (sh.clock < l.deadline env))
  | .confirmBooking _ .confirming => inferInstanceAs (Decidable (_ → _))
  | .createHold _ .start | .createHold _ (.locked _) | .createHold _ (.querying _ _)
  | .createHold _ (.available _ _) | .createHold _ (.releasing _ _) | .createHold _ (.done _)
  | .confirmBooking _ .start | .confirmBooking _ (.found _) | .confirmBooking _ .expiring
  | .confirmBooking _ (.done _) | .releaseBooking _ _ _ => .isTrue trivial

def Timely (env : Env) (s : Pool Shared Call) : Pool.Event StepIn Nat → Prop
  | .env _ => True
  | .proc i e => ∀ p ∈ s.procs[i]?, p.WritesInTime env s.shared e

instance (env : Env) (s : Pool Shared Call) : ∀ e, Decidable (Timely env s e)
  | .env _ => .isTrue trivial
  | .proc i e => inferInstanceAs (Decidable (∀ p ∈ s.procs[i]?, p.WritesInTime env s.shared e))

/-- The call is about to take the seat from booking `id`. -/
def Call.Frees (id : String) : Call → Prop
  | .confirmBooking j .expiring | .releaseBooking j _ (.writing _) => j = id
  | _ => False

instance (id : String) : ∀ p : Call, Decidable (p.Frees id)
  | .confirmBooking j .expiring | .releaseBooking j _ (.writing _) =>
    inferInstanceAs (Decidable (j = id))
  | .createHold _ _ | .confirmBooking _ .start | .confirmBooking _ (.found _)
  | .confirmBooking _ .confirming | .confirmBooking _ (.done _) | .releaseBooking _ _ .start
  | .releaseBooking _ _ (.done _) => .isFalse fun h => h

/-- The step takes the seat from booking `id`. -/
def Frees (id : String) (s : Pool Shared Call) : Pool.Event StepIn Nat → Prop
  | .env _ => False
  | .proc i e => e.fault = false ∧ ∃ p ∈ s.procs[i]?, p.Frees id

instance (id : String) (s : Pool Shared Call) : ∀ e, Decidable (Frees id s e)
  | .env _ => .isFalse fun h => h
  | .proc _ _ => inferInstanceAs (Decidable (_ ∧ _))

/-! ## Assertions -/

/-- What a call knows of the seats. -/
def SeatAssertion (env : Env) (sh : Shared) : Call → Prop
  | .createHold _ (.querying _ now) => now ≤ sh.clock
  | .createHold a (.available l now) | .createHold a (.inserting l now _) =>
    now ≤ sh.clock ∧ StillFree env sh a l now
  | .releaseBooking _ _ (.writing target) => blocking target = false
  | _ => True

section
variable {env : Env} {T : Tokens} {sh sh' : Shared} {i j : Nat} {a b : HoldArgs}
  {l : Held} {now : Int} {p p' q : Call} {e : StepIn} {id : String} {s : BookingStatus}

theorem SeatAssertion.frame (h : SeatAssertion env sh p) (hc : sh.clock ≤ sh'.clock)
    (hf : ∀ a pc l now, p = .createHold a pc → pc.held = some l → now ≤ sh.clock →
      StillFree env sh a l now → StillFree env sh' a l now) : SeatAssertion env sh' p := by
  cases p with
  | createHold a pc =>
    cases pc with
    | start | locked | releasing | done => trivial
    | querying l now => exact le_trans h hc
    | available l now | inserting l now stamp => exact ⟨h.1.trans hc, hf a _ l now rfl rfl h.1 h.2⟩
  | confirmBooking id pc => trivial
  | releaseBooking id reason pc => cases pc <;> exact h

/-- An answer that every row of another query has a part in. -/
theorem available_anti {m m' : List Booking} (h : a.available (.ok m) = .ok true)
    (hm : ∀ x ∈ m', blocking x.status = true → ∃ c ∈ m, blocking c.status = true ∧
      c.fromStopSeq = x.fromStopSeq ∧ c.toStopSeq = x.toStopSeq) :
        a.available (.ok m') = .ok true := by
  unfold HoldArgs.available checkAvailability at *
  cases hv : validateSegment a.tripId a.seatId a.fromSeq a.toSeq with
  | error err => rw [hv] at h; cases h
  | ok seg =>
    simp only [hv, bind, Except.bind, pure, Except.pure, Except.ok.injEq, Bool.not_eq_true'] at h ⊢
    by_contra hc
    obtain ⟨x, hx, hb, hlt, hgt⟩ := (segmentsOf_conflict_iff _ _ _).mp ((Bool.not_eq_false _).mp hc)
    obtain ⟨c, hc', hcb, hf, ht⟩ := hm x hx hb
    have hconf := (segmentsOf_conflict_iff m seg.fromSeq seg.toSeq).mpr
      ⟨c, hc', hcb, by rw [hf]; exact hlt, by rw [ht]; exact hgt⟩
    rw [h] at hconf
    cases hconf

/-- A status write to a row that counted, or does not count now, is not in the way. -/
theorem StillFree.setStatus (h : StillFree env sh a l now) (hc : sh'.clock = sh.clock)
    (hb : sh'.bookings = Bookings.setStatus sh.bookings id s)
    (hact : ∀ x ∈ sh.bookings.rows, x.id = id → isActive now (x.withStatus s) = true →
      isActive now x = true) : StillFree env sh' a l now := by
  intro hlt
  rw [hc] at hlt
  have hfree := h hlt
  obtain ⟨-, _, -, hl, -⟩ := checkAvailability_true hfree
  obtain ⟨trip, seat, htrip, hseat, -⟩ := findActive_ok hl
  rw [findActive_of_keep htrip hseat] at hfree ⊢
  refine available_anti hfree fun x hx hblock => ?_
  rw [hb] at hx
  obtain ⟨hrow, ht, hs, hax⟩ := mem_activeRows.mp hx
  rcases mem_setStatus.mp hrow with ⟨hold, -⟩ | ⟨c, hold, hid, rfl⟩
  · exact ⟨x, mem_activeRows.mpr ⟨hold, ht, hs, hax⟩, hblock, rfl, rfl⟩
  · have hac := hact c hold hid hax
    exact ⟨c, mem_activeRows.mpr ⟨hold, ht, hs, hac⟩, blocking_of_isActive hac, rfl, rfl⟩

/-! ## Steps -/

/-- The call may do this to the seats. -/
def Call.Makes (env : Env) (sh : Shared) (e : StepIn) (p : Call) : SeatEvent → Prop
  | .look | .confirm _ => True
  | .hold b => ∃ a pc l, p = .createHold a pc ∧ pc.held = some l ∧ sh.clock < l.deadline env ∧
      a.For env.ids b.tripId b.seatId
  | .giveUp id => e.fault = false ∧ p.Frees id

/-- What is to be shown of a step of a call. -/
structure SeatMove (env : Env) (sh sh' : Shared) (p : Call) (e : StepIn) : Prop where
  clock : sh'.clock = sh.clock
  write : ∃ ev, SeatWrite sh.clock sh.bookings ev sh'.bookings ∧ p.Makes env sh e ev

theorem SeatMove.of_same (hc : sh'.clock = sh.clock) (hb : sh'.bookings = sh.bookings) :
    SeatMove env sh sh' p e := ⟨hc, .look, by rw [hb]; exact .look, trivial⟩

/-- The row of a hold in time is one that could be granted now. -/
theorem HoldMove.seat {pc pc' : HoldPc} (hm : HoldMove env T sh i a pc sh' pc')
    (hP : SeatAssertion env sh (.createHold a pc))
    (hin : (Call.createHold a pc).WritesInTime env sh e) :
    SeatMove env sh sh' (.createHold a pc) e ∧ SeatAssertion env sh' (.createHold a pc') := by
  cases hm with
  | fail _ | refuse₁ _ | refuse₂ _ | refuse₃ _ => exact ⟨.of_same rfl rfl, trivial⟩
  | acquire _ _ _ | release _ => exact ⟨.of_same rfl rfl, trivial⟩
  | ask => exact ⟨.of_same rfl rfl, le_refl sh.clock⟩
  | answer hav => exact ⟨.of_same rfl rfl, hP, fun _ => hav⟩
  | stamp => exact ⟨.of_same rfl rfl, hP⟩
  | @write l now stamp rowId row bookings hc =>
    obtain ⟨hq, hf⟩ := hP
    have hg := granted_of_write (w := ⟨i, a, rowId, l, now, stamp, sh.clock, row, none⟩)
      (holdInLock_of_write (hf hin) hc)
    refine ⟨⟨rfl, .hold row, ?_, a, _, l, rfl, rfl, hin, ⟨hg.tripId, hg.seatId⟩⟩, trivial⟩
    exact .hold hg.insert hg.status hg.expires fun c hc hs hlc =>
      hg.free c hc hs (isActive_mono hq hlc)

theorem ConfirmMove.seat {pc pc' : ConfirmPc} (hm : ConfirmMove sh id pc sh' pc')
    (hf : e.fault = false) (hin : (Call.confirmBooking id pc).WritesInTime env sh e) :
    SeatMove env sh sh' (.confirmBooking id pc) e := by
  cases hm with
  | fail _ | find _ | guardExpired _ _ | guardPassed _ _ => exact .of_same rfl rfl
  | expire => exact ⟨rfl, .giveUp id, .giveUp (by decide), hf, rfl⟩
  | confirm hb => exact ⟨rfl, .confirm id, .confirm hb (hin hf _ hb), trivial⟩

theorem ReleaseMove.seat {reason : String} {pc pc' : ReleasePc}
    (hm : ReleaseMove sh id reason pc sh' pc') (hf : e.fault = false)
    (hP : SeatAssertion env sh (.releaseBooking id reason pc)) :
    SeatMove env sh sh' (.releaseBooking id reason pc) e := by
  cases hm with
  | fail _ | find _ _ => exact .of_same rfl rfl
  | write hb => exact ⟨rfl, .giveUp id, .giveUp hP, hf, rfl⟩

/-- A status write that throws changes nothing. -/
theorem confirmStep_fault {pc pc' : ConfirmPc} (h : confirmStep sh id e pc = some (sh', pc'))
    (hf : e.fault = true) : sh' = sh := by
  have hm := confirmStep_move h
  cases hm with
  | fail _ | find _ | guardExpired _ _ | guardPassed _ _ => rfl
  | expire | confirm _ => simp [confirmStep, writeStatus, hf, prismaError, holdExpired] at h

theorem releaseStep_fault {reason : String} {pc pc' : ReleasePc}
    (h : releaseStep sh id reason e pc = some (sh', pc')) (hf : e.fault = true) : sh' = sh := by
  have hm := releaseStep_move h
  cases hm with
  | fail _ | find _ _ => rfl
  | write _ => simp [releaseStep, writeStatus, hf] at h

/-- Every step of every call. -/
theorem act_seat (ha : (service env T).act sh i p e = some (sh', p')) (hP : SeatAssertion env sh p)
    (hin : p.WritesInTime env sh e) : SeatMove env sh sh' p e ∧ SeatAssertion env sh' p' := by
  cases p with
  | createHold a pc =>
    obtain ⟨pc', rfl, hm⟩ := act_createHold ha
    exact hm.seat hP hin
  | confirmBooking id pc =>
    obtain ⟨pc', rfl, hm⟩ := act_confirmBooking ha
    refine ⟨?_, trivial⟩
    cases hf : e.fault with
    | false => exact hm.seat hf hin
    | true =>
      simp only [service, callStep, Option.map_eq_some_iff, Prod.mk.injEq] at ha
      obtain ⟨⟨sh₁, pc₁⟩, hs, rfl, -⟩ := ha
      obtain rfl := confirmStep_fault hs hf
      exact .of_same rfl rfl
  | releaseBooking id reason pc =>
    obtain ⟨pc', rfl, hm⟩ := act_releaseBooking ha
    have hknown : SeatAssertion env sh' (.releaseBooking id reason pc') := by
      cases hm with
      | fail _ | write _ => trivial
      | find ht _ => rcases targetStatus_cases ht with rfl | rfl <;> rfl
    refine ⟨?_, hknown⟩
    cases hf : e.fault with
    | false => exact hm.seat hf hP
    | true =>
      simp only [service, callStep, Option.map_eq_some_iff, Prod.mk.injEq] at ha
      obtain ⟨⟨sh₁, pc₁⟩, hs, rfl, -⟩ := ha
      obtain rfl := releaseStep_fault hs hf
      exact .of_same rfl rfl

/-- What a call found free stays free while another one moves. -/
theorem StillFree.of_move (hf : StillFree env sh a l now) (hq : now ≤ sh.clock)
    (hm : SeatMove env sh sh' p e) (hji : j ≠ i) (hi : Owns env T sh i a l)
    (hj : ∀ b pc k, p = .createHold b pc → pc.held = some k → Owns env T sh j b k)
    (halike : ∀ b pc, p = .createHold b pc → b.Alike env.ids a) : StillFree env sh' a l now := by
  obtain ⟨hclock, ev, hw, hmakes⟩ := hm
  generalize hb : sh'.bookings = bookings' at hw
  cases hw with
  | look =>
    intro hlt
    rw [hb]
    exact hf (hclock ▸ hlt)
  | @hold row _ d hins hp he hfree =>
    obtain ⟨b, pc, k, hpc, hk, hin, hfor⟩ := hmakes
    have hkeep : StillFree env { sh with bookings := bookings' } a l now :=
      hf.insert hins fun hfor' hlt =>
      -- two calls in time on one seat would hold one lock
      hji ((hj b pc k hpc hk).exclusive hi hin hlt ((halike b pc hpc).lockKey_eq hfor hfor'))
    intro hlt
    rw [hclock] at hlt
    rw [hb]
    exact hkeep hlt
  | @confirm row id hrow hact =>
    refine hf.setStatus hclock hb fun x hx hid _ => ?_
    obtain rfl := Table.eq_of_key_eq hx (Table.mem_of_find hrow)
      (hid.trans (Table.key_of_find hrow).symm)
    exact isActive_mono hq hact
  | expire _ _ hs | giveUp hs =>
    refine hf.setStatus hclock hb fun x _ _ hx => ?_
    rw [not_isActive_of_blocking hs] at hx
    cases hx

/-- The live rows are disjoint, and every call knows what it found. -/
theorem seatOutline (env : Env) (T : Tokens) :
    Pool.Outline (service env T)
      (fun s ev => Timely env s ev ∧ Locked env T s ∧ Pool.Apart (Call.Alike env.ids) s)
      (fun sh => SeatDisjoint (queryLive.Live sh.clock) sh.bookings)
      (fun sh _ p => SeatAssertion env sh p) where
  env s d sh h _ he := by
    cases he
    have hc : s.shared.clock ≤ s.shared.clock + d := by omega
    refine ⟨h.1.mono fun _ => queryLive.antitone hc, fun i p hp => (h.2 i p hp).frame hc ?_⟩
    intro a pc l now _ _ _ hf hlt
    exact hf (lt_of_le_of_lt hc hlt)
  own s i p e sh p' h ho hp ha := by
    obtain ⟨⟨hc, ev, hw, -⟩, hknown⟩ := act_seat ha (h.2 i p hp) (ho.1 p hp)
    refine ⟨?_, hknown⟩
    rw [hc]
    exact hw.disjoint h.1
  other s i p e sh p' j q h ho hp ha hji hq := by
    have hm := (act_seat ha (h.2 i p hp) (ho.1 p hp)).1
    refine (h.2 j q hq).frame hm.clock.ge fun a pc l now hqc hl hnow hf => ?_
    subst hqc
    refine hf.of_move hnow hm (Ne.symm hji) (ho.2.1 j a pc l hq hl) (fun b pc' k hpc hk => ?_)
      fun b pc' hpc => ?_
    · exact ho.2.1 i b pc' k (hp.trans (congrArg some hpc)) hk
    · subst hpc
      exact ho.2.2 i j _ _ (Ne.symm hji) hp hq

end

/-! ## Runs -/

/-- Any calls from the empty store, which spell the ids of a seat alike. -/
def seatCalls (env : Env) (T : Tokens) : LTS (Pool Shared Call) (Pool.Event StepIn Nat) :=
  Pool.system (service env T) fun s => EmptyStore s ∧ Pool.Apart (Call.Alike env.ids) s

/-- Two holds of one leg and two confirmations of the first. -/
def twoPassengers : Pool Shared Call where
  shared := ⟨Table.empty, Leases.empty, 0, [], []⟩
  procs := [.createHold ⟨"t", "1", "ann", .ofInt 1, .ofInt 2⟩ .start,
    .createHold ⟨"t", "1", "bob", .ofInt 1, .ofInt 2⟩ .start,
    .confirmBooking "b" .start, .confirmBooking "b" .start]

theorem twoPassengers_init : EmptyStore twoPassengers ∧
    Pool.Apart (Call.Alike .texts) twoPassengers := by
  refine ⟨⟨rfl, rfl, fun p hp => ?_⟩, alike_texts _⟩
  simp only [twoPassengers, List.mem_cons, List.not_mem_nil, or_false] at hp
  rcases hp with rfl | rfl | rfl | rfl <;> rfl

/-- The first passenger holds the leg and confirms it. -/
def confirmRun : List (Pool.Event StepIn Nat) :=
  [.proc 0 {}, .proc 0 {}, .proc 0 {}, .proc 0 {}, .proc 0 { rowId := "b" }, .proc 0 {}, .env 1000,
    .proc 2 {}, .proc 2 {}, .proc 2 {}]

/-- After the hold would have run out, the second passenger asks for the leg. -/
def askRun : List (Pool.Event StepIn Nat) :=
  [.env 300000, .proc 1 {}, .proc 1 {}, .proc 1 {}, .proc 1 {}, .proc 3 {}, .proc 3 {}]

def twoPassengersAfter (es : List (Pool.Event StepIn Nat)) : Pool Shared Call :=
  (LTS.execAll (Pool.step (service ⟨5, 5000, .texts⟩ unaryTokens)) twoPassengers es).getD
    twoPassengers

section
variable {env : Env} {T : Tokens} {s s' : Pool Shared Call} {ev : Pool.Event StepIn Nat}

theorem seats_reach (h : (seatCalls env T).Reach (Timely env) s) :
    Pool.Holds (fun sh => SeatDisjoint (queryLive.Live sh.clock) sh.bookings)
      (fun sh _ p => SeatAssertion env sh p) s := by
  refine Pool.invariant (seatOutline env T) (fun s hi => ⟨?_, fun i p hp => ?_⟩)
    (h.strengthen fun s hr => ⟨fun i a pc l hp hl => owns_reach (fun s hi => hi.1.fresh) hr hp hl,
      alike_reach (fun s hi => hi.2) hr⟩)
  · show SeatDisjoint _ s.shared.bookings
    rw [hi.1.bookings]
    exact SeatDisjoint.empty
  · have hf := hi.1.fresh p (List.mem_of_getElem? hp)
    cases p <;> cases hf <;> trivial

/-- Who has each leg now. -/
def seatsNow (s : Pool Shared Call) : Calendar Int String SeatLeg :=
  seatMap s.shared.bookings s.shared.clock

/-- A step is one request to the calendar. -/
theorem calendar_of_step (h : (seatCalls env T).Reach (Timely env) s) (ho : Timely env s ev)
    (hst : Pool.step (service env T) s ev = some s') :
    ∃ l, Calendar.Step (seatsNow s) l (seatsNow s') ∧ ∀ id, l.2 = .free id → Frees id s ev := by
  have hI := seats_reach h
  cases ev with
  | env d =>
    obtain ⟨sh, he, rfl⟩ := Pool.step_env hst
    cases he
    have hc : s.shared.clock ≤ s.shared.clock + d := by omega
    obtain ⟨r, hr, hfree⟩ := SeatWrite.look.step hc hI.1
    exact ⟨_, hr, fun id hid => by cases hfree id hid⟩
  | proc i e =>
    obtain ⟨p, sh, p', hp, ha, rfl⟩ := Pool.step_proc hst
    obtain ⟨⟨hc, sev, hw, hmakes⟩, -⟩ := act_seat ha (hI.2 i p hp) (ho p hp)
    obtain ⟨r, hr, hfree⟩ := hw.step le_rfl hI.1
    refine ⟨(s.shared.clock, r), ?_, fun id hid => ?_⟩
    · show Calendar.Step _ _ (seatMap sh.bookings sh.clock)
      rw [hc]
      exact hr
    · rw [hfree id hid] at hmakes
      exact ⟨hmakes.1, p, hp, hmakes.2⟩

/-- **Every run is a run of the calendar**, and where no call takes the seat from a
booking of `F`, no request frees one. -/
theorem calendar_of_run (F : String → Prop) (h : (seatCalls env T).Reach (Timely env) s)
    (hr : (seatCalls env T).Run (fun s ev => Timely env s ev ∧ ∀ id, F id → ¬ Frees id s ev) s s') :
    (Calendar.system Int String SeatLeg).Run (fun _ l => ∀ id, F id → l.2 ≠ .free id)
      (seatsNow s) (seatsNow s') := by
  refine LTS.Run.simulates (fun _ _ ho => ho.1) h (fun s ev s' hs ho hst => ?_) hr
  obtain ⟨l, hl, hfree⟩ := calendar_of_step hs ho.1 hst
  exact ⟨l, fun id hF hid => ho.2 id hF (hfree id hid), hl⟩

theorem calendar_of_run_twoPassengers :
    (Calendar.system Int String SeatLeg).Run (fun _ l => ∀ id, id = "b" → l.2 ≠ .free id)
      (seatsNow twoPassengers) (seatsNow (twoPassengersAfter (confirmRun ++ askRun))) := by
  have hrun : (seatCalls ⟨5, 5000, .texts⟩ unaryTokens).Run (fun s ev =>
    Timely ⟨5, 5000, .texts⟩ s ev ∧ ¬ Frees "b" s ev)
      twoPassengers (twoPassengersAfter (confirmRun ++ askRun)) :=
    LTS.run_of_execAll (show LTS.AllOk _ _ _ (confirmRun ++ askRun) by decide +kernel) rfl
  refine @calendar_of_run ⟨5, 5000, .texts⟩ _ _ _ (fun id => id = "b") (.of_init twoPassengers_init)
    (hrun.mono fun s ev ho => ⟨ho.1, fun id hid => ?_⟩)
  rw [hid]
  exact ho.2

/-- An answer is about ids that the columns take and stops in order. -/
theorem of_checkAvailability {C : IdColumn} {bookings : BookingTable} {t : Int}
    {tripId seatId : String}
    {f g : Number} {r : Bool} (h : checkAvailability tripId seatId (.number f) (.number g)
      (findActiveBookingsForSeat C bookings tripId seatId t) = .ok r) :
    f.lt g = true ∧ ∃ trip seat, C.keep tripId = some trip ∧ C.keep seatId = some seat := by
  unfold checkAvailability at h
  cases hv : validateSegment tripId seatId (.number f) (.number g) with
  | error e => rw [hv] at h; cases h
  | ok seg =>
    obtain ⟨hf, hg⟩ := validateSegment_ok hv
    cases hl : findActiveBookingsForSeat C bookings tripId seatId t with
    | error e => rw [hv, hl] at h; cases h
    | ok l =>
      obtain ⟨trip, seat, ht, hs, -⟩ := findActive_ok hl
      rw [Value.number.inj hf, Value.number.inj hg]
      exact ⟨seg.lt, trip, seat, ht, hs⟩

/-- The rows of holds of integer stops are not empty. -/
theorem wellFormed_reach (h : (seatCalls env T).Reach WritesWhole s) :
    ∀ b ∈ s.shared.bookings.rows, b.WellFormed := by
  obtain ⟨s₀, hi, hr⟩ := h
  have h' : (bookingCalls env T).Reach WritesWhole s := ⟨s₀, hi.1, hr⟩
  intro b hb
  obtain ⟨w, hw, hst⟩ := (rowHolds_reach h'.reachable).1 b hb
  exact (hst.created_iff.mpr (whole_reach h' w hw)).wellFormed

/-- **What a passenger is shown is the calendar**: where the stops that are held are
integers, an availability request is answered when the columns take its ids and its stops
are in order, and says whether their legs are free. -/
theorem availability_of_run {tripId seatId : String}
    (h : (seatCalls env T).Reach (fun s ev => Timely env s ev ∧ WritesWhole s ev) s)
    (htrip : tripId ≠ "") (hseat : seatId ≠ "") (q : Controller.AvailabilityQuery)
    (available : Bool) : Controller.checkAvailability tripId seatId q
        (findActiveBookingsForSeat env.ids s.shared.bookings tripId seatId s.shared.clock) =
          .ok available ↔
      ∃ trip seat f g, env.ids.keep tripId = some trip ∧ env.ids.keep seatId = some seat ∧
        q.fromParam.map parseInt = some f ∧ q.toParam.map parseInt = some g ∧ f.lt g = true ∧
        (available = true ↔ ∀ i : Int, f.le (.ofInt i) = true → (Number.ofInt i).lt g = true →
          (seatsNow s).holder ⟨trip, seat, i⟩ = none) := by
  have hw := wellFormed_reach (h.mono fun _ _ ho => ho.2)
  have key : ∀ {trip seat f g}, env.ids.keep tripId = some trip → env.ids.keep seatId = some seat →
      f.isWhole = true → g.isWhole = true → f.lt g = true →
      (checkAvailability tripId seatId (.number f) (.number g)
          (findActiveBookingsForSeat env.ids s.shared.bookings tripId seatId s.shared.clock) =
            .ok available ↔
        (available = true ↔ ∀ i : Int, f.le (.ofInt i) = true → (Number.ofInt i).lt g = true →
          (seatsNow s).holder ⟨trip, seat, i⟩ = none)) := by
    intro trip seat f g ht hs hf hg hfg
    rw [seatsNow, ← available_iff_free hw htrip hseat ht hs hf hg hfg, findActive_of_keep ht hs,
      checkAvailability_of_segment (validateSegment_of_lt htrip hseat hfg)]
    cases available <;> simp
  unfold Controller.checkAvailability
  cases q.fromParam with
  | none => simp
  | some fromParam =>
    cases q.toParam with
    | none => simp
    | some toParam =>
      simp only [Option.map_some, Option.some.injEq]
      constructor
      · intro hr
        obtain ⟨hfg, trip, seat, ht, hs⟩ := of_checkAvailability hr
        exact ⟨trip, seat, _, _, ht, hs, rfl, rfl, hfg,
          (key ht hs (isWhole_parseInt _) (isWhole_parseInt _) hfg).mp hr⟩
      · rintro ⟨trip, seat, f, g, ht, hs, rfl, rfl, hfg, hfree⟩
        exact (key ht hs (isWhole_parseInt _) (isWhole_parseInt _) hfg).mpr hfree

theorem availability_of_run_twoPassengers :
    Controller.checkAvailability "t" "1" ⟨some " 1st", none, none, some "2"⟩
      (findActiveBookingsForSeat .texts (twoPassengersAfter confirmRun).shared.bookings "t" "1"
        (twoPassengersAfter confirmRun).shared.clock) = .ok false := by
  have h : (seatCalls ⟨5, 5000, .texts⟩ unaryTokens).Reach
      (fun s ev => Timely ⟨5, 5000, .texts⟩ s ev ∧ WritesWhole s ev)
        (twoPassengersAfter confirmRun) :=
    LTS.reach_of_execAll confirmRun twoPassengers_init (by decide +kernel) rfl
  refine (availability_of_run h (by decide) (by decide) _ _).mpr ⟨"t", "1", .ofInt 1,
    .ofInt 2, rfl, rfl,
    by decide +kernel, by decide +kernel, by decide, fun ht => ?_, fun hfree => ?_⟩
  · cases ht
  · exact absurd (hfree 1 (by decide) (by decide)) (by decide +kernel)

/-- **A passenger keeps the seat**: until the deadline of a booking its legs are its own,
whatever else is called, unless a call takes the seat from that very booking. -/
theorem keepsLeg_of_run {b : Booking} {u : SeatLeg} (h : (seatCalls env T).Reach (Timely env) s)
    (hb : b ∈ s.shared.bookings.rows) (hact : isActive s.shared.clock b = true) (hu : b.Covers u)
    (hr : (seatCalls env T).Run (fun s ev => Timely env s ev ∧ ¬ Frees b.id s ev) s s')
    (hd : (s'.shared.clock : WithTop Int) < b.deadline) :
    HasLeg s'.shared.bookings s'.shared.clock b.id u := by
  have hrun := calendar_of_run (fun id => id = b.id) h
    (hr.mono fun s ev ho => ⟨ho.1, fun id hid => by rw [hid]; exact ho.2⟩)
  have hs' := seats_reach (h.run (hr.mono fun _ _ ho => ho.1))
  exact hasLeg_of_has hs'.1 (Calendar.held_of_run (i := b.id) (hrun.mono fun _ l hl => hl b.id rfl)
    (seatMap_holder_of_mem (seats_reach h).1 hb hact hu)) hd

theorem keepsLeg_of_run_twoPassengers :
    HasLeg (twoPassengersAfter (confirmRun ++ askRun)).shared.bookings
      (twoPassengersAfter (confirmRun ++ askRun)).shared.clock "b" ⟨"t", "1", 1⟩ := by
  have h : (seatCalls ⟨5, 5000, .texts⟩ unaryTokens).Reach (Timely ⟨5, 5000, .texts⟩)
    (twoPassengersAfter confirmRun) :=
    LTS.reach_of_execAll confirmRun twoPassengers_init (by decide +kernel) rfl
  refine keepsLeg_of_run (b := ⟨"b", "t", "1", "ann", 1, 2, .CONFIRMED, some 300000⟩) h
    (by decide +kernel) (by decide) (by decide) ?_ (WithTop.coe_lt_top _)
  exact LTS.run_of_execAll (show LTS.AllOk _ _ _ askRun by decide +kernel) rfl

end

/-- The second confirmation reads the row first and goes on after the hold has run out. -/
def lateConfirmRun : List (Pool.Event StepIn Nat) :=
  [.proc 0 {}, .proc 0 {}, .proc 0 {}, .proc 0 {}, .proc 0 { rowId := "b" }, .proc 3 {}, .proc 2 {},
    .proc 2 {}, .proc 2 {}, .env 300001, .proc 3 {}]

/-- **A confirmed booking expired**: a second confirmation reads the row before the
first one is written, and looks at the clock after the hold has run out. -/
theorem exists_confirmed_expired : ∃ s s', (seatCalls ⟨5, 5000, .texts⟩ unaryTokens).Reach
    (Timely ⟨5, 5000, .texts⟩) s ∧
    Pool.step (service ⟨5, 5000, .texts⟩ unaryTokens) s (.proc 3 {}) = some s' ∧
    (∃ row, s.procs[2]? = some (.confirmBooking "b" (.done (.ok row))) ∧ row.status = .CONFIRMED) ∧
    (s.shared.bookings.find "b").map (fun b => b.status) = some .CONFIRMED ∧
    (s'.shared.bookings.find "b").map (fun b => b.status) = some .EXPIRED := by
  refine ⟨twoPassengersAfter lateConfirmRun, _,
    LTS.reach_of_execAll lateConfirmRun twoPassengers_init (by decide +kernel) rfl, rfl,
    ⟨_, rfl, rfl⟩, ?_, ?_⟩ <;> decide +kernel

end RouteGo.Bookings
