import RouteGo.Bookings.Live
import RouteGo.Lib.LTS

/-!
# Calls executed one after another

Runs of `createHold`, `confirmBooking` and `releaseBooking`, never interleaved,
on one store and one clock. A call names its clock readings by the time that
passes before each of them, so the clock cannot go back. `exec` is total: a
call that throws is a step too.

The live rows stay disjoint unless a `confirmBooking` reads the clock at the
very millisecond at which its hold expires: the query no longer counts the hold
then (`gt: now`), the guard does not refuse it yet (`< Date.now()`).
-/

namespace RouteGo.Bookings

open Js

inductive Op where
  | createHold (a : HoldArgs) (id lockValue : String) (d : HoldDelays) (f : HoldFaults)
  | confirmBooking (id : String) (delay : Nat)
  | releaseBooking (id reason : String) (delay : Nat)

structure Seq where
  world : World
  clock : Int

def exec (env : Env) (s : Seq) : Op → Seq
  | .createHold a id lockValue d f =>
    let x := holdInputs s.clock id lockValue d f
    ⟨(createHold env x s.world a).2, x.tRelease⟩
  | .confirmBooking id delay =>
    ⟨⟨(confirmBooking s.world.bookings (s.clock + delay) id).2, s.world.locks⟩, s.clock + delay⟩
  | .releaseBooking id reason delay =>
    ⟨⟨(releaseBooking s.world.bookings id reason).2, s.world.locks⟩, s.clock + delay⟩

/-- From the empty store. -/
def sequential (env : Env) : LTS Seq Op :=
  .ofFn (fun s => s.world = ⟨Table.empty, Leases.empty⟩) fun s op => some (exec env s op)

theorem exec_clock_le (env : Env) (s : Seq) (op : Op) : s.clock ≤ (exec env s op).clock := by
  cases op <;> simp only [exec, holdInputs] <;> omega

/-- A `confirmBooking` that reads the clock at the expiry of its hold finds the
seat still available: no row that the query counts is in conflict. -/
def BoundaryFree (s : Seq) : Op → Prop
  | .confirmBooking id delay => ∀ b, s.world.bookings.find id = some b → b.status = .PENDING →
      b.holdExpiresAt = some (s.clock + delay) →
      hasSegmentConflict (segmentsOf (activeRows s.world.bookings b.tripId b.seatId
        (s.clock + delay))) (.ofInt b.fromStopSeq) (.ofInt b.toStopSeq) = false
  | _ => True

/-- The invariant: at the clock the live rows are disjoint. -/
def Seq.Live (s : Seq) : Prop := SeatDisjoint (queryLive.Live s.clock) s.world.bookings

theorem SeatDisjoint.wait {bookings : BookingTable} {t t' : Int}
    (h : SeatDisjoint (queryLive.Live t) bookings) (htt : t ≤ t') :
    SeatDisjoint (queryLive.Live t') bookings :=
  h.mono fun _ hl => queryLive.antitone htt hl

/-- A confirmed hold was live, or was confirmed at its expiry with the seat
still available. -/
theorem live_confirm {bookings : BookingTable} {now : Int} {id : String} {b : Booking}
    (hd : SeatDisjoint (queryLive.Live now) bookings) (hb : bookings.find id = some b)
    (hp : b.status = .PENDING) (he : b.hasExpired now = false)
    (hfree : b.holdExpiresAt = some now →
      hasSegmentConflict (segmentsOf (activeRows bookings b.tripId b.seatId now))
        (.ofInt b.fromStopSeq) (.ofInt b.toStopSeq) = false) :
    SeatDisjoint (queryLive.Live now) (setStatus bookings id .CONFIRMED) := by
  refine hd.setStatus fun b' hb' hbid hl c hc hcid hs hlc hov => ?_
  obtain rfl : b' = b := Table.eq_of_key_eq hb' (Table.mem_of_find hb)
    (hbid.trans (Table.key_of_find hb).symm)
  by_cases hx : b'.holdExpiresAt = some now
  · -- at the boundary the query does not count `b'`, and finds no other row
    have hf := hfree hx
    rw [Bool.eq_false_iff, ne_eq, segmentsOf_conflict_ofInt] at hf
    exact hf ⟨c, mem_activeRows.mpr ⟨hc, hs.1, hs.2, hlc⟩, blocking_of_isActive hlc, hov⟩
  · -- before it `b'` is itself live
    have hlive : isActive now b' = true := by
      unfold isActive Booking.hasExpired at *
      cases hh : b'.holdExpiresAt with
      | none => simp [hp]
      | some e =>
        simp only [hh, decide_eq_false_iff_not, Option.some.injEq] at he hx
        simp only [hp, decide_true, Bool.true_and, Bool.or_eq_true, decide_eq_true_eq]
        right; omega
    exact hd c hc b' hb' (by rw [hbid]; exact hcid) hs hlc hlive hov

theorem live_exec {env : Env} {s : Seq} {op : Op} (h : s.Live) (ho : BoundaryFree s op) :
    (exec env s op).Live := by
  cases op with
  | createHold a id lockValue d f =>
    have hwait := h.wait (exec_clock_le env s (.createHold a id lockValue d f))
    simp only [exec, Seq.Live] at hwait ⊢
    rcases createHold_cases env (holdInputs s.clock id lockValue d f) s.world a with
      ⟨e, -, hb⟩ | ⟨b, -, -, hg⟩
    · rw [hb]; exact hwait
    · exact hg.seatDisjoint queryLive (by simp only [holdInputs]; omega) hwait
  | confirmBooking id delay =>
    have hwait := h.wait (exec_clock_le env s (.confirmBooking id delay))
    simp only [exec, Seq.Live] at hwait ⊢
    rcases confirmBooking_cases s.world.bookings (s.clock + delay) id with
      ⟨e, hr⟩ | ⟨b, hb, hp, ⟨-, hr⟩ | ⟨he, hr⟩⟩
    · rw [hr]; exact hwait
    · rw [hr]
      exact hwait.setStatus_of_live fun _ _ _ hl =>
        absurd hl (not_isActive_withStatus ⟨by decide, by decide⟩)
    · rw [hr]; exact live_confirm hwait hb hp he (ho b hb hp)
  | releaseBooking id reason delay =>
    have hwait := h.wait (exec_clock_le env s (.releaseBooking id reason delay))
    simp only [exec, Seq.Live] at hwait ⊢
    rcases releaseBooking_cases s.world.bookings id reason with ⟨e, hr⟩ | ⟨b, target, -, ht, hr⟩
    · rw [hr]; exact hwait
    · rw [hr]
      exact hwait.setStatus_of_live fun _ _ _ hl =>
        absurd hl
          (not_isActive_withStatus (by rcases targetStatus_cases ht with rfl | rfl <;> decide))

theorem live_reach {env : Env} {s : Seq} (h : (sequential env).Reach BoundaryFree s) : s.Live := by
  refine h.invariant (fun s hi => ?_) fun s op s' _ hl ho hs => ?_
  · have hw : s.world = ⟨Table.empty, Leases.empty⟩ := hi
    rw [Seq.Live, hw]
    exact SeatDisjoint.empty
  · cases hs
    exact live_exec hl ho

/-- No two confirmed bookings overlap on a seat. -/
def ConfirmedDisjoint (bookings : BookingTable) : Prop :=
  SeatDisjoint (fun b => b.status = .CONFIRMED) bookings

/-- **No leg is sold twice**, in a run in which no hold is confirmed at the
millisecond it expires while the query already offers its legs to others. -/
theorem confirmedDisjoint_reach {env : Env} {s : Seq}
    (h : (sequential env).Reach BoundaryFree s) : ConfirmedDisjoint s.world.bookings :=
  (live_reach h).mono fun _ hb => isActive_of_confirmed hb

/-- Two neighbouring holds of a seat, each confirmed at its very expiry. -/
def neighboursRun : List Op :=
  [.createHold ⟨"t", "1", "ann", .ofInt 1, .ofInt 2⟩ "a" "x" {} {},
    .createHold ⟨"t", "1", "bob", .ofInt 2, .ofInt 3⟩ "b" "y" { acquire := 1000 } {},
    .confirmBooking "a" 299000, .confirmBooking "b" 1000]

/-- The state after `n` calls of the run. -/
def neighboursAfter (n : Nat) : Seq :=
  (neighboursRun.take n).foldl (exec ⟨5, 5000, .texts⟩) ⟨⟨Table.empty, Leases.empty⟩, 0⟩

/-- The rule admits confirmations at the expiry itself, another hold of the seat being
there that is not in the way. -/
theorem confirmedDisjoint_reach_at_expiry : ConfirmedDisjoint (neighboursAfter 4).world.bookings ∧
    ((neighboursAfter 4).world.bookings.rows.map fun b => b.status) = [.CONFIRMED, .CONFIRMED] := by
  refine ⟨@confirmedDisjoint_reach ⟨5, 5000, .texts⟩ _ ?_, by decide⟩
  have h0 : (sequential ⟨5, 5000, .texts⟩).Reach BoundaryFree (neighboursAfter 0) := .of_init rfl
  have h1 : (sequential ⟨5, 5000, .texts⟩).Reach BoundaryFree (neighboursAfter 1) :=
    h0.snoc (e := .createHold ⟨"t", "1", "ann", .ofInt 1, .ofInt 2⟩ "a" "x" {} {}) trivial rfl
  have h2 : (sequential ⟨5, 5000, .texts⟩).Reach BoundaryFree (neighboursAfter 2) :=
    h1.snoc (e := .createHold ⟨"t", "1", "bob", .ofInt 2, .ofInt 3⟩ "b" "y" { acquire := 1000 } {})
      trivial rfl
  have h3 : (sequential ⟨5, 5000, .texts⟩).Reach BoundaryFree (neighboursAfter 3) :=
    h2.snoc (e := Op.confirmBooking "a" 299000) (fun b hb _ _ => by
      obtain rfl : b = ⟨"a", "t", "1", "ann", 1, 2, .PENDING, some 300000⟩ :=
        (Option.some.inj hb).symm.trans (by decide)
      decide) rfl
  exact h3.snoc (e := Op.confirmBooking "b" 1000) (fun b hb _ _ => by
    obtain rfl : b = ⟨"b", "t", "1", "bob", 2, 3, .PENDING, some 301000⟩ :=
      (Option.some.inj hb).symm.trans (by decide)
    decide) rfl

/-- Two holds of one leg, the second taken at the millisecond the first expires,
both confirmed in that millisecond. -/
def boundaryRun : List Op :=
  [.createHold ⟨"t", "1", "ann", .ofInt 1, .ofInt 2⟩ "a" "x" {} {},
    .createHold ⟨"t", "1", "bob", .ofInt 1, .ofInt 2⟩ "b" "y" { acquire := 300000 } {},
    .confirmBooking "a" 0, .confirmBooking "b" 0]

/-- **Two confirmed bookings of one leg.** -/
theorem exists_confirmed_overlap : ¬ ∀ (env : Env) (s : Seq),
    (sequential env).Reachable s → ConfirmedDisjoint s.world.bookings := by
  intro h
  have hr : (sequential ⟨5, 5000, .texts⟩).Reachable
      (boundaryRun.foldl (exec ⟨5, 5000, .texts⟩) ⟨⟨Table.empty, Leases.empty⟩, 0⟩) :=
    LTS.reachable_foldl _ _ rfl
  refine h ⟨5, 5000, .texts⟩ _ hr ⟨"a", "t", "1", "ann", 1, 2, .CONFIRMED, some 300000⟩ ?_
    ⟨"b", "t", "1", "bob", 1, 2, .CONFIRMED, some 600000⟩ ?_ ?_ ?_ rfl rfl ?_ <;> decide

end RouteGo.Bookings
