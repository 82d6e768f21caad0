import RouteGo.Bookings.Mutex

/-!
# The rows of the booking table

Any calls of the three methods, interleaved, from the empty table. Every row is
the one some `createHold` wrote (`Stored`), and every step keeps the rows there
are (`RowsKept`), so every run does. The segment is checked long before the row
is written, so a call past its query carries the check along. The columns of the
stops are integers: a row has the segment of its call exactly if the stops of the
call are (`Stored.created_iff`), and may be empty else (`exists_stops_cut`).
-/

namespace RouteGo.Bookings

open Js

/-- `b` is what the columns keep of the call of `w`, whatever its status. -/
structure Stored (env : Env) (w : Write) (b : Booking) : Prop where
  id : b.id = w.id
  tripId : env.ids.keep w.args.tripId = some b.tripId
  seatId : env.ids.keep w.args.seatId = some b.seatId
  userId : env.ids.keep w.args.userId = some b.userId
  fromSeq : w.args.fromSeq.toInt4 = some b.fromStopSeq
  toSeq : w.args.toSeq.toInt4 = some b.toStopSeq
  expires : b.holdExpiresAt = some (w.tStamp + holdDurationMs env)
  valid : w.args.Valid

/-- `b` is the row of the call of `w`: its ids, as values of their columns, its segment
and its expiry. -/
structure Created (env : Env) (w : Write) (b : Booking) : Prop where
  id : b.id = w.id
  tripId : env.ids.keep w.args.tripId = some b.tripId
  seatId : env.ids.keep w.args.seatId = some b.seatId
  userId : env.ids.keep w.args.userId = some b.userId
  fromSeq : w.args.fromSeq = .ofInt b.fromStopSeq
  toSeq : w.args.toSeq = .ofInt b.toStopSeq
  expires : b.holdExpiresAt = some (w.tStamp + holdDurationMs env)
  wellFormed : b.fromStopSeq < b.toStopSeq

/-- A row is that of its call exactly if the stops of the call are integers. -/
theorem Stored.created_iff {env : Env} {w : Write} {b : Booking} (h : Stored env w b) :
    Created env w b ↔ w.args.Whole := by
  have hwhole : w.args.Whole ↔ w.args.fromSeq = .ofInt b.fromStopSeq ∧
    w.args.toSeq = .ofInt b.toStopSeq :=
    and_congr (Value.isInteger_iff_of_toInt4 h.fromSeq) (Value.isInteger_iff_of_toInt4 h.toSeq)
  rw [hwhole]
  refine ⟨fun hc => ⟨hc.fromSeq, hc.toSeq⟩, fun ⟨hf, ht⟩ => ?_⟩
  -- the stops were compared before they were stored
  exact ⟨h.id, h.tripId, h.seatId, h.userId, hf, ht, h.expires, h.valid.lt hf ht⟩

/-- Every row was written by a call. -/
def AllStored (env : Env) (sh : Shared) : Prop :=
  ∀ b ∈ sh.bookings.rows, ∃ w ∈ sh.writes, Stored env w b

/-! ## Assertions -/

def RowAssertion : Call → Prop
  | .createHold a (.available _ _) | .createHold a (.inserting _ _ _) => a.Valid
  | .releaseBooking _ _ (.writing target) => target ≠ .PENDING
  | _ => True

section
variable {env : Env} {T : Tokens} {sh sh' : Shared} {i : Nat} {a : HoldArgs} {p p' : Call}
  {id reason : String} {e : StepIn}

theorem valid_of_available {find : Result (List Booking)} {r : Bool}
    (h : a.available find = .ok r) : a.Valid := by
  unfold HoldArgs.available checkAvailability at h
  cases hv : validateSegment a.tripId a.seatId a.fromSeq a.toSeq with
  | error err => rw [hv] at h; cases h
  | ok seg => exact ⟨seg, hv⟩

theorem stored_of_createBooking {bookings : BookingTable} {w : Write} (hv : w.args.Valid)
    (h : createBooking env.ids sh.bookings w.id (holdData env w.args w.tStamp) =
      .ok (w.row, bookings)) : Stored env w w.row := by
  obtain ⟨-, hid, hr⟩ := createBooking_ok h
  exact ⟨hid, hr.tripId, hr.seatId, hr.userId, hr.fromStopSeq, hr.toStopSeq, hr.holdExpiresAt, hv⟩

/-- What is to be shown of a step. -/
structure Moves (env : Env) (sh sh' : Shared) (p' : Call) : Prop where
  stored : AllStored env sh'
  kept : RowsKept sh.bookings sh'.bookings
  call : RowAssertion p'

theorem Moves.of_same (hG : AllStored env sh) (hb : sh'.bookings = sh.bookings)
    (hw : sh'.writes = sh.writes) (hc : RowAssertion p') : Moves env sh sh' p' :=
  ⟨by rwa [AllStored, hb, hw], by rw [hb]; exact .refl _, hc⟩

/-- Another status does not matter. -/
theorem AllStored.setStatus {s : BookingStatus} (h : AllStored env sh)
    (hb : sh'.bookings = setStatus sh.bookings id s) (hw : sh'.writes = sh.writes) :
    AllStored env sh' := by
  intro b hb'
  rw [hb] at hb'
  rw [hw]
  rcases mem_setStatus.mp hb' with ⟨hb', -⟩ | ⟨c, hc, -, rfl⟩
  · exact h b hb'
  · obtain ⟨w, hw, hcr⟩ := h c hc
    exact ⟨w, hw, hcr.id, hcr.tripId, hcr.seatId, hcr.userId, hcr.fromSeq, hcr.toSeq, hcr.expires,
      hcr.valid⟩

theorem Moves.setStatus {s : BookingStatus} (hG : AllStored env sh)
    (hb : sh'.bookings = Bookings.setStatus sh.bookings id s) (hw : sh'.writes = sh.writes)
    (hs : s ≠ .PENDING) (hc : RowAssertion p') : Moves env sh sh' p' :=
  ⟨hG.setStatus hb hw, by rw [hb]; exact .setStatus hs, hc⟩

/-- The record of a release does not touch what was written. -/
theorem AllStored.close {t : Int} {f : Bool} (h : AllStored env sh)
    (hb : sh'.bookings = sh.bookings)
    (hw : sh'.writes = sh.writes.map (closeWrite i t f)) : AllStored env sh' := by
  intro b hb'
  rw [hb] at hb'
  obtain ⟨w, hwm, hcr⟩ := h b hb'
  refine ⟨closeWrite i t f w, by rw [hw]; exact List.mem_map_of_mem hwm, ?_⟩
  unfold closeWrite
  split
  · exact ⟨hcr.id, hcr.tripId, hcr.seatId, hcr.userId, hcr.fromSeq, hcr.toSeq, hcr.expires,
      hcr.valid⟩
  · exact hcr

theorem HoldMove.moves {pc pc' : HoldPc} (hm : HoldMove env T sh i a pc sh' pc')
    (hG : AllStored env sh) (hP : RowAssertion (.createHold a pc)) :
    Moves env sh sh' (.createHold a pc') := by
  cases hm with
  | fail _ | ask | refuse₁ _ | refuse₂ _ | refuse₃ _ => exact .of_same hG rfl rfl trivial
  | acquire _ _ _ => exact .of_same hG rfl rfl trivial
  | answer h => exact .of_same hG rfl rfl (valid_of_available h)
  | stamp => exact .of_same hG rfl rfl hP
  | @write l now stamp rowId row bookings hc =>
    have hcr :=
      stored_of_createBooking (w := ⟨i, a, rowId, l, now, stamp, sh.clock, row, none⟩) hP hc
    have hins := (createBooking_ok hc).1
    refine ⟨fun b hb => ?_, .insert hins, trivial⟩
    rcases (Table.mem_of_insert hins).mp hb with hb | rfl
    · obtain ⟨w, hw, hcw⟩ := hG b hb
      exact ⟨w, List.mem_append_left _ hw, hcw⟩
    · exact ⟨_, List.mem_append_right _ (List.mem_singleton_self _), hcr⟩
  | release fails => exact ⟨hG.close rfl rfl, .refl _, trivial⟩

theorem ConfirmMove.moves {pc pc' : ConfirmPc} (hm : ConfirmMove sh id pc sh' pc')
    (hG : AllStored env sh) : Moves env sh sh' (.confirmBooking id pc') := by
  cases hm with
  | fail _ | find _ | guardExpired _ _ | guardPassed _ _ => exact .of_same hG rfl rfl trivial
  | expire => exact .setStatus hG rfl rfl (by decide) trivial
  | confirm hb => exact .setStatus hG rfl rfl (by decide) trivial

theorem ReleaseMove.moves {pc pc' : ReleasePc} (hm : ReleaseMove sh id reason pc sh' pc')
    (hG : AllStored env sh) (hP : RowAssertion (.releaseBooking id reason pc)) :
    Moves env sh sh' (.releaseBooking id reason pc') := by
  cases hm with
  | fail _ => exact .of_same hG rfl rfl trivial
  | find ht hb =>
    refine .of_same hG rfl rfl ?_
    rcases targetStatus_cases ht with rfl | rfl <;> simp [RowAssertion]
  | write hb => exact .setStatus hG rfl rfl hP trivial

/-- Every step of every call. -/
theorem act_moves (ha : (service env T).act sh i p e = some (sh', p')) (hG : AllStored env sh)
    (hP : RowAssertion p) : Moves env sh sh' p' := by
  cases p with
  | createHold a pc => obtain ⟨pc', rfl, hm⟩ := act_createHold ha; exact hm.moves hG hP
  | confirmBooking id pc => obtain ⟨pc', rfl, hm⟩ := act_confirmBooking ha; exact hm.moves hG
  | releaseBooking id reason pc =>
    obtain ⟨pc', rfl, hm⟩ := act_releaseBooking ha
    exact hm.moves hG hP

end

theorem rowOutline (env : Env) (T : Tokens) :
    Pool.Outline (service env T) LTS.always (AllStored env) (fun _ _ p => RowAssertion p) where
  env s d sh h _ he := by
    cases he
    exact ⟨h.1, h.2⟩
  own s i p e sh p' h _ hp ha := by
    have hm := act_moves ha h.1 (h.2 i p hp)
    exact ⟨hm.stored, hm.call⟩
  other s i p e sh p' j q h _ hp ha _ hq := h.2 j q hq

/-! ## Runs -/

/-- Any calls, none begun, and no rows. -/
structure EmptyStore (s : Pool Shared Call) : Prop where
  bookings : s.shared.bookings = Table.empty
  writes : s.shared.writes = []
  fresh : ∀ p ∈ s.procs, p.Fresh

def bookingCalls (env : Env) (T : Tokens) : LTS (Pool Shared Call) (Pool.Event StepIn Nat) :=
  Pool.system (service env T) EmptyStore

theorem rowHolds_reach {env : Env} {T : Tokens} {s : Pool Shared Call}
    (h : (bookingCalls env T).Reachable s) :
    Pool.Holds (AllStored env) (fun _ _ p => RowAssertion p) s := by
  refine Pool.invariant (rowOutline env T) (fun s hi => ⟨fun b hb => ?_, fun i p hp => ?_⟩) h
  · rw [hi.bookings] at hb
    cases hb
  · have hf := hi.fresh p (List.mem_of_getElem? hp)
    cases p <;> cases hf <;> trivial

/-- The call of a write. -/
def WriteOf (s : Pool Shared Call) (w : Write) : Prop :=
  ∃ pc, s.procs[w.call]? = some (.createHold w.args pc)

/-- The arguments of a call do not change. -/
theorem writeOf_step {env : Env} {T : Tokens} {s s' : Pool Shared Call}
    {ev : Pool.Event StepIn Nat} {w : Write} (h : WriteOf s w)
    (hst : Pool.step (service env T) s ev = some s') : WriteOf s' w := by
  obtain ⟨pc, hpc⟩ := h
  cases ev with
  | env d => obtain ⟨sh, -, rfl⟩ := Pool.step_env hst; exact ⟨pc, hpc⟩
  | proc i e =>
    obtain ⟨p, sh, p', hp, ha, rfl⟩ := Pool.step_proc hst
    by_cases hi : i = w.call
    · subst hi
      rw [hp] at hpc
      cases hpc
      obtain ⟨pc', rfl, -⟩ := act_createHold ha
      exact ⟨pc', Pool.getElem?_set_self_of hp⟩
    · exact ⟨pc, (List.getElem?_set_ne hi).trans hpc⟩

/-- A write of the history was there, but for its release, or is made by the step. -/
theorem writes_step {env : Env} {T : Tokens} {s s' : Pool Shared Call} {ev : Pool.Event StepIn Nat}
    {w : Write} (hst : Pool.step (service env T) s ev = some s') (hw : w ∈ s'.shared.writes) :
    (∃ v ∈ s.shared.writes, v.call = w.call ∧ v.args = w.args) ∨
      ∃ e l now stamp, ev = .proc w.call e ∧
        s.procs[w.call]? = some (.createHold w.args (.inserting l now stamp)) := by
  have hold : w ∈ s.shared.writes → ∃ v ∈ s.shared.writes, v.call = w.call ∧ v.args = w.args :=
    fun h => ⟨w, h, rfl, rfl⟩
  cases ev with
  | env d =>
    obtain ⟨sh, he, rfl⟩ := Pool.step_env hst
    cases he
    exact .inl (hold hw)
  | proc i e =>
    obtain ⟨p, sh, p', hp, ha, rfl⟩ := Pool.step_proc hst
    cases p with
    | confirmBooking id pc =>
      obtain ⟨pc', rfl, hm⟩ := act_confirmBooking ha
      exact .inl (hold (hm.frame.2.2.1 ▸ hw))
    | releaseBooking id reason pc =>
      obtain ⟨pc', rfl, hm⟩ := act_releaseBooking ha
      exact .inl (hold (hm.frame.2.2 ▸ hw))
    | createHold a pc =>
      obtain ⟨pc', rfl, hm⟩ := act_createHold ha
      cases hm with
      | fail _ | acquire _ _ _ | ask | answer _ | stamp | refuse₁ _ | refuse₂ _ | refuse₃ _ =>
        exact .inl (hold hw)
      | write hc =>
        rcases List.mem_append.mp hw with hw | hw
        · exact .inl (hold hw)
        · cases List.mem_singleton.mp hw
          exact .inr ⟨_, _, _, _, rfl, hp⟩
      | release fails =>
        obtain ⟨v, hv, rfl⟩ := List.mem_map.mp hw
        exact .inl ⟨v, hv, (closeWrite_call ..).symm, (closeWrite_args ..).symm⟩

/-- Every write has its call. -/
theorem writeOf_reach {env : Env} {T : Tokens} {s : Pool Shared Call}
    (h : (bookingCalls env T).Reachable s) : ∀ w ∈ s.shared.writes, WriteOf s w := by
  refine h.invariant (I := fun s => ∀ w ∈ s.shared.writes, WriteOf s w)
    (fun s (hi : EmptyStore s) w hw => ?_) fun s ev s' hr hI _ hst w hw => ?_
  · rw [hi.writes] at hw
    cases hw
  · rcases writes_step hst hw with ⟨v, hv, hcall, hargs⟩ | ⟨e, l, now, stamp, rfl, hp⟩
    · obtain ⟨pc, hpc⟩ := hI v hv
      exact writeOf_step ⟨pc, by rw [← hcall, ← hargs]; exact hpc⟩ hst
    · exact writeOf_step ⟨_, hp⟩ hst

/-- The stops of a hold that is written are integers. -/
def Call.WritesWhole : Call → Prop
  | .createHold a (.inserting _ _ _) => a.Whole
  | _ => True

instance : ∀ p : Call, Decidable p.WritesWhole
  | .createHold a (.inserting _ _ _) => inferInstanceAs (Decidable a.Whole)
  | .createHold _ .start | .createHold _ (.locked _) | .createHold _ (.querying _ _)
  | .createHold _ (.available _ _) | .createHold _ (.releasing _ _) | .createHold _ (.done _)
  | .confirmBooking _ _ | .releaseBooking _ _ _ => .isTrue trivial

def WritesWhole (s : Pool Shared Call) : Pool.Event StepIn Nat → Prop
  | .env _ => True
  | .proc i _ => ∀ p ∈ s.procs[i]?, p.WritesWhole

instance (s : Pool Shared Call) : ∀ e, Decidable (WritesWhole s e)
  | .env _ => .isTrue trivial
  | .proc i _ => inferInstanceAs (Decidable (∀ p ∈ s.procs[i]?, p.WritesWhole))

theorem whole_reach {env : Env} {T : Tokens} {s : Pool Shared Call}
    (h : (bookingCalls env T).Reach WritesWhole s) : ∀ w ∈ s.shared.writes, w.args.Whole := by
  refine h.invariant (I := fun s => ∀ w ∈ s.shared.writes, w.args.Whole)
    (fun s (hi : EmptyStore s) w hw => ?_) fun s ev s' _ hI ho hst w hw => ?_
  · rw [hi.writes] at hw
    cases hw
  · rcases writes_step hst hw with ⟨v, hv, -, hargs⟩ | ⟨e, l, now, stamp, rfl, hp⟩
    · exact hargs ▸ hI v hv
    · exact ho _ hp

/-- The rows of a state, and what becomes of them until `s'`. -/
structure RowsSound (env : Env) (s s' : Pool Shared Call) : Prop where
  created : ∀ b ∈ s.shared.bookings.rows, ∃ w ∈ s.shared.writes, WriteOf s w ∧ Created env w b
  kept : ∀ b ∈ s.shared.bookings.rows, ∃ b' ∈ s'.shared.bookings.rows, Kept b b'

/-- **The rows are sound**, under every schedule, as long as the stops that are written
are integers. -/
theorem rows_sound {env : Env} {T : Tokens} {s s' : Pool Shared Call}
    (h : (bookingCalls env T).Reach WritesWhole s) (hr : (bookingCalls env T).Run LTS.always s s') :
    RowsSound env s s' := by
  constructor
  · intro b hb
    obtain ⟨w, hw, hst⟩ := (rowHolds_reach h.reachable).1 b hb
    exact ⟨w, hw, writeOf_reach h.reachable w hw, hst.created_iff.mpr (whole_reach h w hw)⟩
  · have htrans : ∀ a b c : Pool Shared Call, RowsKept a.shared.bookings b.shared.bookings →
        RowsKept b.shared.bookings c.shared.bookings →
          RowsKept a.shared.bookings c.shared.bookings :=
      fun _ _ _ => RowsKept.trans
    refine LTS.Run.preorder (R := fun s s' => RowsKept s.shared.bookings s'.shared.bookings)
      (fun _ => .refl _) htrans h.reachable (fun s ev s' hs _ hst => ?_) hr
    cases ev with
    | env d =>
      obtain ⟨sh, he, rfl⟩ := Pool.step_env hst
      cases he
      exact .refl _
    | proc i e =>
      obtain ⟨p, sh, p', hp, ha, rfl⟩ := Pool.step_proc hst
      have hI := rowHolds_reach hs
      exact (act_moves ha hI.1 (hI.2 i p hp)).kept

/-- A hold, its confirmation and its cancellation. -/
def holdAndSettle (fromSeq toSeq : Number) : Pool Shared Call where
  shared := ⟨Table.empty, Leases.empty, 0, [], []⟩
  procs := [.createHold ⟨"t", "1", "ann", .number fromSeq, .number toSeq⟩ .start,
    .confirmBooking "b" .start, .releaseBooking "b" "USER_CANCELLED" .start]

theorem holdAndSettle_init (f t : Number) : EmptyStore (holdAndSettle f t) := by
  refine ⟨rfl, rfl, fun p hp => ?_⟩
  simp only [holdAndSettle, List.mem_cons, List.not_mem_nil, or_false] at hp
  rcases hp with rfl | rfl | rfl <;> rfl

def holdAndSettleAfter (fromSeq toSeq : Number) (es : List (Pool.Event StepIn Nat)) :
    Pool Shared Call :=
  (LTS.execAll (Pool.step (service ⟨5, 5000, .texts⟩ unaryTokens))
    (holdAndSettle fromSeq toSeq) es).getD
    (holdAndSettle fromSeq toSeq)

/-- The hold is made. -/
def holdRun : List (Pool.Event StepIn Nat) :=
  [.proc 0 {}, .proc 0 {}, .proc 0 {}, .proc 0 {}, .proc 0 { rowId := "b" }]

/-- The release runs between the guard of the confirmation and its write. -/
def settleRun : List (Pool.Event StepIn Nat) :=
  [.proc 1 {}, .proc 1 {}, .proc 2 {}, .proc 2 {}, .proc 1 {}]

theorem rows_sound_settled :
    RowsSound ⟨5, 5000, .texts⟩ (holdAndSettleAfter (.ofInt 1) (.ofInt 2) holdRun)
    (holdAndSettleAfter (.ofInt 1) (.ofInt 2) (holdRun ++ settleRun)) := by
  refine @rows_sound ⟨5, 5000, .texts⟩ unaryTokens _ _ ?_ ?_
  · exact LTS.reach_of_execAll holdRun (holdAndSettle_init (.ofInt 1) (.ofInt 2)) (by decide) rfl
  · exact LTS.run_of_execAll (LTS.allOk_always _ _ settleRun) rfl

/-- **Stops are cut.** The hold of 1.2 to 1.8 returns a row of no segment. -/
theorem exists_stops_cut : ∃ s, (bookingCalls ⟨5, 5000, .texts⟩ unaryTokens).Reachable s ∧
    s.shared.bookings.rows = [⟨"b", "t", "1", "ann", 1, 1, .PENDING, some 300000⟩] ∧
    ¬ RowsSound ⟨5, 5000, .texts⟩ s s := by
  have hrows : (holdAndSettleAfter (.fin (6 / 5)) (.fin (9 / 5)) holdRun).shared.bookings.rows =
      [⟨"b", "t", "1", "ann", 1, 1, .PENDING, some 300000⟩] := by decide +kernel
  refine ⟨holdAndSettleAfter (.fin (6 / 5)) (.fin (9 / 5)) holdRun,
    LTS.reachable_of_execAll holdRun (holdAndSettle_init (.fin (6 / 5)) (.fin (9 / 5))) ?_,
    hrows, fun h => ?_⟩
  · exact LTS.execAll_getD (by decide +kernel)
  · obtain ⟨w, -, -, hc⟩ := h.created ⟨"b", "t", "1", "ann", 1, 1, .PENDING, some 300000⟩
      (by rw [hrows]; exact List.mem_singleton_self _)
    exact absurd hc.wellFormed (lt_irrefl 1)

end RouteGo.Bookings
