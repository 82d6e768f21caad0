import RouteGo.Gateway.Sagas
import RouteGo.Gateway.Sessions
import RouteGo.Orchestrator.Sold

/-!
# What a client has who was told of a seat

The whole way of a seat, from the account to the row. On the platform, whatever other
requests are served at the same time, a client whose confirmation is answered with a
booking has the seat and the stops of its own request, for the account its token was
given for; they are paid for, and stay its own unless some request asks for the booking
to be released or cancelled (`booked_of_told`).
-/

namespace RouteGo.Gateway

open Js Orchestrator Bookings

/-- No confirmation is served in the very millisecond in which its hold expires. -/
def Punctual (s : Pool Platform Client) : PlatformEvent → Prop
  | .env _ => True
  | .proc i e => ∀ c ∈ s.procs[i]?,
      (∀ p ∈ c.saga, ∀ id ∈ p.confirms, ¬ s.shared.shared.world.AtExpiry id) ∧
      ∀ op ∈ c.op e, ∀ id ∈ op.confirms, ¬ s.shared.shared.world.AtExpiry id

instance (s : Pool Platform Client) : (ev : PlatformEvent) → Decidable (Punctual s ev)
  | .env _ => .isTrue trivial
  | .proc i _ => inferInstanceAs (Decidable (∀ c ∈ s.procs[i]?, _))

/-- What is done for a client is what its request asks for. -/
structure Client.OfRequest (c : Client) : Prop where
  saga : ∀ input pc, c.pc = .serving (.task (.confirmBookingSaga input pc)) → ∃ user,
    Orchestrator.Controller.confirmInput (some user) (confirmBody c.request.body.booking) =
      .ok input
  cancel : ∀ id paymentId pc, c.pc = .serving (.cancel id paymentId pc) → c.request.freed = some id
  release : ∀ id reason, c.pc = .serving (.settle (.releaseBooking id reason)) →
    c.request.freed = some id

section
variable {D : Deployment} {P P' : Platform} {s s' : Pool Platform Client} {i : Nat} {c c' : Client}
  {e : PlatformIn} {q : HttpRequest} {id : String}
  {ok : Pool Platform Client → PlatformEvent → Prop}

theorem ofRequest_of_passGateway {now : Int} : (⟨q, passGateway D q now⟩ : Client).OfRequest := by
  refine ⟨fun input pc h => ?_, fun id paymentId pc h => ?_, fun id reason h => ?_⟩
  · obtain ⟨r, hr, hbody, -⟩ := request_of_passGateway h fun hd hj => by cases hd <;> cases hj
    exact ⟨r.tokenUser, hbody ▸ (Request.saga_of_job hr).2⟩
  · obtain ⟨r, hr, -, hq⟩ := request_of_passGateway h fun hd hj => by cases hd <;> cases hj
    rw [HttpRequest.freed, hq, (Request.cancel_of_job hr).2]
    rfl
  · obtain ⟨r, hr, -, hq⟩ := request_of_passGateway h fun hd hj => by cases hd <;> cases hj
    rw [HttpRequest.freed, hq, Request.release_of_job hr]
    rfl

theorem Client.OfRequest.step (h : c.OfRequest) (ha : c.step D P i e = some (P', c')) :
    c'.OfRequest := by
  rcases Client.step_cases ha with ⟨-, -, rfl⟩ | ⟨job, pc', hpc, hj, rfl⟩
  · exact ofRequest_of_passGateway
  · refine ⟨fun input pc hp => ?_, fun id paymentId pc hp => ?_, fun id reason hp => ?_⟩ <;>
      obtain rfl : pc' = _ := hp
    · obtain ⟨t, rfl, ht⟩ := Job.task_of_step hj
      cases t with
      | confirmBookingSaga input' pc₀ =>
        simp only [taskStep, Option.map_eq_some_iff, Prod.mk.injEq,
          Task.confirmBookingSaga.injEq] at ht
        obtain ⟨r, -, -, rfl, -⟩ := ht
        exact h.saga input' pc₀ hpc
      | done => cases ht
      | _ => simp only [taskStep, Option.some.injEq, Prod.mk.injEq, reduceCtorEq, and_false] at ht
    · cases Job.next_of_step hj
      exact h.cancel id paymentId _ hpc
    · cases Job.next_of_step hj

theorem ofRequest_reach (h : (platformRuns D).Reach ok s) (hc : s.procs[i]? = some c) :
    c.OfRequest := by
  have hout : Pool.Outline (platform D) ok (fun _ => True) fun _ _ c => c.OfRequest :=
    ⟨fun s e sh hs _ _ => ⟨trivial, hs.2⟩, fun s i c e sh c' hs _ hc ha =>
      ⟨trivial, (hs.2 i c hc).step ha⟩, fun s i c e sh c' j q hs _ _ _ _ hq => hs.2 j q hq⟩
  refine (Pool.invariant hout (fun s hs => ⟨trivial, fun j c hc => ?_⟩) h).2 i c hc
  have hsent := hs.sent c (List.mem_of_getElem? hc)
  have hne : ∀ job, c.pc ≠ .serving job := fun job hp => by
    rw [hsent] at hp
    cases hp
  exact ⟨fun _ _ hp => absurd hp (hne _), fun _ _ _ hp => absurd hp (hne _), fun _ _ hp =>
    absurd hp (hne _)⟩

theorem Client.pc_of_cancel {paymentId : Option String} {pc : CancelPc}
    (h : c.saga = some (.cancelBooking id paymentId pc)) :
    c.pc = .serving (.cancel id paymentId pc) := by
  unfold Client.saga at h
  split at h
  · cases h
  · next heq => cases h; exact heq
  · cases h

theorem Client.pc_of_release {reason : Value} (h : c.op e = some (.releaseBooking id reason)) :
    c.pc = .serving (.settle (.releaseBooking id reason)) := by
  unfold Client.op at h
  split at h
  · cases h
  · cases h
  · next x heq =>
    cases x <;> cases h
    exact heq
  · cases h

/-! ## The way of one seat -/

/-- No segment of the path is escaped, or is `.` or `..`. -/
def HttpRequest.Plain (q : HttpRequest) : Prop := ∀ t ∈ q.path, t = "" ∨ PathSegment t

instance (q : HttpRequest) : Decidable q.Plain :=
  List.decidableBAll (fun t => t = "" ∨ PathSegment t) q.path

/-- No request asks for the booking to be released or cancelled, however it spells the id. -/
def Spares (C : IdColumn) (id : String) (s : Pool Platform Client) : Prop :=
  ∀ c ∈ s.procs, c.request.Plain ∧ ∀ t ∈ c.request.freed, t ≠ id ∧ C.keep t ≠ some id

instance (C : IdColumn) (id : String) (s : Pool Platform Client) : Decidable (Spares C id s) :=
  inferInstanceAs (Decidable (∀ c ∈ s.procs, _ ∧ ∀ t ∈ c.request.freed, _ ∧ _))

/-- Then it is left alone by what comes to be of the requests. -/
theorem leftAlone_of_event {ev : PlatformEvent}
    {d : Pool.Event (Orchestrator.StepIn ⊕ Orchestrator.Call) Orchestrator.Op}
    (h : (platformRuns D).Reach ok s) (hp : Punctual s ev) (hn : Spares D.env.ids id s)
    (hd : SagaEvent D s ev d) : Pool.Births Begins (LeftAlone id) (sagas s) d := by
  cases hd with
  | wait => exact fun F => ⟨trivial, fun reason hrel => by cases hrel⟩
  | birth _ _ hb => exact hb
  | @act i e c p hc hsaga =>
    intro F
    have hF : ((sagas s).filled F).procs[i]? = some p :=
      Pool.filled_of_some (by rw [sagas_getElem? hc, hsaga])
    refine ⟨fun p' hp' j hj => ?_, fun paymentId pc hcancel => ?_⟩
    · obtain rfl : p = p' := Option.some.inj (hF.symm.trans hp')
      exact (hp c hc).1 p hsaga j hj
    · obtain rfl := Option.some.inj (hF.symm.trans hcancel)
      have hfreed := (ofRequest_reach h hc).cancel _ _ _ (Client.pc_of_cancel hsaga)
      exact ((hn c (List.mem_of_getElem? hc)).2 _ hfreed).1 rfl
  | @client i e c op hc hop =>
    intro F
    refine ⟨?_, fun reason hrel => ?_⟩
    · cases op with
      | confirmBooking j => exact (hp c hc).2 _ hop j rfl
      | _ => trivial
    · rw [hrel] at hop
      have hfreed := (ofRequest_reach h hc).release _ _ (Client.pc_of_release hop)
      exact ((hn c (List.mem_of_getElem? hc)).2 _ hfreed).1 rfl

theorem Spares.of_requests (h : Spares D.env.ids id s)
    (hreq : s'.procs.map Client.request = s.procs.map Client.request) : Spares D.env.ids id s' := by
  intro c hc
  have hm : c.request ∈ s.procs.map Client.request := hreq ▸ List.mem_map_of_mem hc
  obtain ⟨c₀, hc₀, heq⟩ := List.mem_map.mp hm
  exact heq ▸ h c₀ hc₀

/-- The runs of the platform that spare the booking at their end spare it all along. -/
theorem reach_spares (h : (platformRuns D).Reach ok s) (hn : Spares D.env.ids id s) :
    (platformRuns D).Reach (fun t ev => ok t ev ∧ Spares D.env.ids id t) s := by
  obtain ⟨s₀, hi, hr⟩ := h
  exact ⟨s₀, hi, LTS.Run.strengthen (.of_init hi)
    (fun t _ ht => hn.of_requests ((requests_run ht).trans (requests_run hr).symm)) hr⟩

/-- On the platform, what a saga was told is so. -/
theorem sold_on_platform {b : Booking}
    {payment : Payments.ChargeResult} {input : ConfirmBookingInput} {pc : Orchestrator.ConfirmPc}
    (hok : ∀ t ev, ok t ev → Punctual t ev) (h : (platformRuns D).Reach ok s)
    (hc : s.procs[i]? = some ⟨q, .serving (.task (.confirmBookingSaga input pc))⟩)
    (ht : pc.told = some (b, payment)) (hn : Spares D.env.ids b.id s) :
    Sold D.env.ids s.shared.shared.world input b payment := by
  obtain ⟨s₀, hi, hr⟩ := reach_spares h hn
  have hwait : ∀ j, Begins ((fun _ => .cancelBooking "" none .start : Nat → Orchestrator.Call) j) :=
    fun _ => .inr ⟨_, _, rfl⟩
  obtain ⟨waiting, hw, hrun⟩ := sagas_run_of
    (fun t ev d htr ho hd => leftAlone_of_event htr (hok t ev ho.1) ho.2 hd) (.of_init hi) hr hwait
  have hempty : SeatsApart ((sagas s₀).filled waiting) := by
    intro a ha
    have hrows : a ∈ s₀.shared.shared.world.bookings.rows := ha
    rw [hi.bookings] at hrows
    exact absurd hrows List.not_mem_nil
  exact sold_of_told ⟨_, ⟨beforeCalls_of_opening hi hw, hempty⟩, hrun⟩
    (Pool.filled_of_some (i := i) (by rw [sagas_getElem? hc]; rfl)) ht

/-- A saga that has answered stays as it is. -/
theorem answered_run {input : ConfirmBookingInput} {hold : Option Booking}
    {res : Result ConfirmBookingResult} (hr : (platformRuns D).Run ok s s')
    (hc : s.procs[i]? = some ⟨q, .serving (.task (.confirmBookingSaga input (.done hold res)))⟩) :
    s'.procs[i]? = some ⟨q, .serving (.task (.confirmBookingSaga input (.done hold res)))⟩ := by
  refine hr.keep (P := fun t => t.procs[i]? = _) (fun t ev t' hc _ hst => ?_) hc
  cases ev with
  | env d =>
    obtain ⟨sh, -, rfl⟩ := Pool.step_env hst
    exact hc
  | proc j e =>
    obtain ⟨c, P', c', hj, ha, rfl⟩ := Pool.step_proc hst
    by_cases hij : i = j
    · subst hij
      obtain rfl := Option.some.inj (hj.symm.trans hc)
      cases ha
    · show (t.procs.set j c')[i]? = _
      rw [List.getElem?_set_ne (Ne.symm hij)]
      exact hc

theorem eq_string_of_viaJson {v : Value} {t : String} (h : v.viaJson = .string t) :
    v = .string t := by
  cases v with
  | number n => cases n <;> cases h
  | _ => exact h

/-- The seat and the stops are those of the body, as the columns keep them; integer stops
are kept as they are. -/
structure SeatOf (C : IdColumn) (body : Body) (b : Booking) : Prop where
  tripId : ∃ t, body.tripId = .string t ∧ C.keep t = some b.tripId
  seatId : ∃ t, body.seatId = .string t ∧ C.keep t = some b.seatId
  fromStopSeq : body.fromStopSeq.toSeq.toInt4 = some b.fromStopSeq
  toStopSeq : body.toStopSeq.toSeq.toInt4 = some b.toStopSeq
  whole : ∀ m n : Int, body.fromStopSeq.toSeq = .ofInt m → body.toStopSeq.toSeq = .ofInt n →
    b.fromStopSeq = m ∧ b.toStopSeq = n ∧ m < n

/-- What JSON carries of a number is stored as the number. -/
theorem toInt4_of_viaJson {a : Number} {n : Int}
    (h : (Value.number a).viaJson.toSeq.toInt4 = some n) : a.toInt4 = some n := by
  cases a with
  | fin q => exact h
  | _ => cases h

theorem seatOf_confirmInput {C : IdColumn} {body : Body} {user : String}
    {input : ConfirmBookingInput} {b : Booking} (ha : AskedFor C input b)
    (h : Orchestrator.Controller.confirmInput (some user) (confirmBody body) = .ok input) :
    SeatOf C body b := by
  unfold Orchestrator.Controller.confirmInput at h
  simp only at h
  split at h
  · cases h
  · cases h
    obtain ⟨t, htrip, hkt⟩ := ha.tripId
    obtain ⟨u, hseat, hku⟩ := ha.seatId
    have hfrom := toInt4_of_viaJson ha.fromStopSeq
    have hto := toInt4_of_viaJson ha.toStopSeq
    refine ⟨⟨t, eq_string_of_viaJson htrip, hkt⟩, ⟨u, eq_string_of_viaJson hseat, hku⟩, hfrom, hto,
      fun m n hm hn => ?_⟩
    have hm' : body.fromStopSeq.toSeq = .ofInt m := hm
    have hn' : body.toStopSeq.toSeq = .ofInt n := hn
    refine ⟨Number.eq_of_toInt4_ofInt (hm' ▸ hfrom), Number.eq_of_toInt4_ofInt (hn' ▸ hto), ?_⟩
    refine ha.ordered m n ?_ ?_
    · show (Value.number body.fromStopSeq.toSeq).viaJson.toSeq = _
      rw [hm']
      rfl
    · show (Value.number body.toStopSeq.toSeq).viaJson.toSeq = _
      rw [hn']
      rfl

/-- What the client of `q` has who was told of `b` and `payment`. -/
structure Booked (D : Deployment) (s : Pool Platform Client) (q : HttpRequest) (b : Booking)
    (payment : Payments.ChargeResult) : Prop where
  stored : b ∈ s.shared.shared.world.bookings.rows
  confirmed : b.status = .CONFIRMED
  seat : SeatOf D.env.ids q.body.booking b
  alone : ∀ u, b.Covers u → HasLeg s.shared.shared.world.bookings s.shared.shared.world.clock b.id u
  paid : s.shared.shared.world.Took b.id payment.paymentId
  /-- The account was registered here and logged in to, and the request has its token. -/
  account : Accounted D s b.userId
  token : ∃ token, Middleware.Bears q.headers.authorization token ∧ Gave D s token b.userId

/-- **A seat, the whole way.** Whoever is told of a booking has it then and ever after, for
the account of the token, as long as no token is forged and no request asks for that
booking to be released or cancelled. -/
theorem booked_of_told {input : ConfirmBookingInput} {hold : Option Booking}
    {r : ConfirmBookingResult}
    {b : Booking} {payment : Payments.ChargeResult} (hS : D.users.jwt.Lawful)
    (hG : Users.SameAccess D.users D.gateway)
    (h : (platformRuns D).Reach (fun t ev => Unforged D t ev ∧ Punctual t ev) s)
    (hc : s.procs[i]? = some ⟨q, .serving (.task (.confirmBookingSaga input (.done hold (.ok r))))⟩)
    (ht : r.told = some (b, payment)) (hn : Spares D.env.ids b.id s)
    (hr : (platformRuns D).Run (fun t ev => Unforged D t ev ∧ Punctual t ev) s s') :
    Booked D s' q b payment := by
  have hc' := answered_run hr hc
  have h' := h.run hr
  have hu : (platformRuns D).Reach (Unforged D) s' := h'.mono fun _ _ ho => ho.1
  have hsold := sold_on_platform (fun _ _ ho => ho.2) h' hc' ht (hn.of_requests (requests_run hr))
  have hsound := sound_reach hS hG hu
  obtain ⟨token, id, hb, hg, hof⟩ := hsound.tasks i q _ hc'
  obtain rfl : input.userId = id := hof
  have hcan := hsound.canonical ⟨token, hg⟩
  have huser : b.userId = input.userId := Option.some.inj <|
    (hsold.asked.userId (trim_of_noSpace (noSpace_of_canonical hcan))).symm.trans
      (D.env.ids.canonical hcan)
  obtain ⟨user, hin⟩ := (ofRequest_reach h' hc').saga input _ rfl
  exact ⟨hsold.stored, hsold.confirmed, seatOf_confirmInput hsold.asked hin,
    hsold.alone, hsold.paid,
    (rows_of_sessions hS hG hu).bookings b hsold.stored, token, hb, huser ▸ hg⟩

end

/-! ### Dora books -/

/-- No token is forged, and no confirmation comes when its hold expires. -/
abbrev Guarded (s : Pool Platform Client) (ev : PlatformEvent) : Prop :=
  Unforged doras s ev ∧ Punctual s ev

/-- The saga has answered, and then the hold is refused. -/
theorem doraBooks_reach : (platformRuns doras).Reach Guarded (doraBooksAt 11) ∧
    (platformRuns doras).Run Guarded (doraBooksAt 11) (doraBooksAt 12) := by
  have h0 : (platformRuns doras).Reach Guarded (doraBooksAt 0) := .of_init doraBooks_opening
  have h1 : (platformRuns doras).Reach Guarded (doraBooksAt 1) :=
    h0.snoc (e := .proc 0 (input 0 "")) ⟨unforged_of_none (c := (doraBooksAt 0).procs[0]) rfl rfl,
      by decide +kernel⟩ rfl
  have h2 : (platformRuns doras).Reach Guarded (doraBooksAt 2) :=
    h1.snoc (e := .proc 0 (input 0 "")) ⟨unforged_of_none (c := (doraBooksAt 1).procs[0]) rfl rfl,
      by decide +kernel⟩ rfl
  have h3 : (platformRuns doras).Reach Guarded (doraBooksAt 3) :=
    h2.snoc (e := .proc 0 (input 0 "")) ⟨unforged_of_none (c := (doraBooksAt 2).procs[0]) rfl rfl,
      by decide +kernel⟩ rfl
  have h4 : (platformRuns doras).Reach Guarded (doraBooksAt 4) :=
    h3.snoc (e := .proc 1 (input 0 "")) ⟨unforged_of_none (c := (doraBooksAt 3).procs[1]) rfl rfl,
      by decide +kernel⟩ rfl
  have h5 : (platformRuns doras).Reach Guarded (doraBooksAt 5) :=
    h4.snoc (e := .proc 1 (input 0 "")) ⟨unforged_of_none (c := (doraBooksAt 4).procs[1]) rfl rfl,
      by decide +kernel⟩ rfl
  have h6 : (platformRuns doras).Reach Guarded (doraBooksAt 6) :=
    h5.snoc (e := .proc 2 (input 899999 "")) ⟨unforged_of_session (j := 1)
      (c := (doraBooksAt 5).procs[2]) "aaa.bbb.ccc" rfl rfl (by decide)
        rfl rfl, by decide +kernel⟩ rfl
  have h7 : (platformRuns doras).Reach Guarded (doraBooksAt 7) :=
    h6.snoc (e := .proc 3 (input 899999 "")) ⟨unforged_of_session (j := 1)
      (c := (doraBooksAt 6).procs[3]) "aaa.bbb.ccc" rfl rfl (by decide)
        rfl rfl, by decide +kernel⟩ rfl
  have h8 : (platformRuns doras).Reach Guarded (doraBooksAt 8) :=
    h7.snoc (e := .proc 2 (input 0 "b1")) ⟨unforged_of_session (j := 1)
      (c := (doraBooksAt 7).procs[2]) "aaa.bbb.ccc" rfl rfl (by decide)
        rfl rfl, by decide +kernel⟩ rfl
  have h9 : (platformRuns doras).Reach Guarded (doraBooksAt 9) :=
    h8.snoc (e := .proc 2 (input 0 "p1")) ⟨unforged_of_session (j := 1)
      (c := (doraBooksAt 8).procs[2]) "aaa.bbb.ccc" rfl rfl (by decide)
        rfl rfl, by decide +kernel⟩ rfl
  have h10 : (platformRuns doras).Reach Guarded (doraBooksAt 10) :=
    h9.snoc (e := .proc 2 (input 0 "")) ⟨unforged_of_session (j := 1)
      (c := (doraBooksAt 9).procs[2]) "aaa.bbb.ccc" rfl rfl (by decide)
        rfl rfl, by decide +kernel⟩ rfl
  have h11 : (platformRuns doras).Reach Guarded (doraBooksAt 11) :=
    h10.snoc (e := .proc 2 (input 0 "")) ⟨unforged_of_session (j := 1)
      (c := (doraBooksAt 10).procs[2]) "aaa.bbb.ccc" rfl rfl (by decide)
        rfl rfl, by decide +kernel⟩ rfl
  exact ⟨h11, (LTS.Run.refl _).snoc (e := .proc 3 (input 0 "b2")) ⟨unforged_of_session (j := 1)
    (c := (doraBooksAt 11).procs[3]) "aaa.bbb.ccc" rfl rfl (by decide)
      rfl rfl, by decide +kernel⟩ rfl⟩

def doraSeat : Booking := ⟨"b1", "t1", "s1", Users.doraId, 1, 3, .CONFIRMED, some 300000⟩

theorem booked_of_dora : ∃ q payment, Booked doras (doraBooksAt 12) q doraSeat payment := by
  obtain ⟨hreach, hrun⟩ := doraBooks_reach
  exact ⟨_, _, booked_of_told (i := 2) Users.listed_lawful ⟨rfl, rfl⟩ hreach rfl rfl
    (by decide +kernel) hrun⟩

end RouteGo.Gateway
