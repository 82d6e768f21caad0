import RouteGo.Gateway.Catalogues

/-!
# Whose rows, on the platform

As long as clients present no access token but those that log-ins have answered, every
booking and every payment is of an account that was registered and has logged in with
its password (`rows_of_sessions`), however the requests interleave and whatever their
bodies and headers say.
-/

namespace RouteGo.Gateway

open Js Jwt Orchestrator
open Bookings (BookingTable Writes)

/-! ## Rows and their users -/

/-- Every row is of a user with `P`. -/
structure Owned (P : String → Prop) (w : World) : Prop where
  bookings : ∀ b ∈ w.bookings.rows, P b.userId
  payments : ∀ p ∈ w.payments.rows, P p.userId

section
variable {P : String → Prop} {env : Bookings.Env} {w w' : World} {sh sh' : Shared}
  {i : Nat} {e : StepIn} {userId : String} {t t' : Task}

theorem Owned.imp {P' : String → Prop} (h : Owned P w) (hP : ∀ id, P id → P' id) : Owned P' w :=
  ⟨fun b hb => hP _ (h.bookings b hb), fun p hp => hP _ (h.payments p hp)⟩

/-- A row of the table is new, or of the user that it was of. -/
theorem Writes.back {t t' : BookingTable} (h : Writes t t') : ∀ b' ∈ t'.rows,
    (∃ b ∈ t.rows, b.userId = b'.userId) ∨ t.find b'.id = none := by
  have hset : ∀ (id : String) s, ∀ b' ∈ (Bookings.setStatus t id s).rows,
      ∃ b ∈ t.rows, b.userId = b'.userId := by
    intro id s b' hb'
    rcases Bookings.mem_setStatus.mp hb' with ⟨hb, -⟩ | ⟨b, hb, -, rfl⟩
    · exact ⟨b', hb, rfl⟩
    · exact ⟨b, hb, rfl⟩
  intro b' hb'
  cases h with
  | none => exact .inl ⟨b', hb', rfl⟩
  | insert h =>
    rcases (Table.mem_of_insert h).mp hb' with hb | rfl
    · exact .inl ⟨b', hb, rfl⟩
    · exact .inr (Table.insert_eq_some.mp h).1
  | confirm _ _ => exact .inl (hset _ _ b' hb')
  | free _ => exact .inl (hset _ _ b' hb')

/-- What adds no row keeps the users. -/
theorem Owned.of_noCharge (h : Owned P w) (hn : NoCharge w w') (hs : SameIds w w') :
    Owned P w' := by
  constructor
  · intro b hb
    rcases Writes.back hn.bookings b hb with ⟨c, hc, hu⟩ | hnone
    · rw [← hu]
      exact h.bookings c hc
    · obtain ⟨c, hc, hid⟩ := hs b hb
      exact absurd hid (Table.find_eq_none.mp hnone c hc)
  · intro p hp
    obtain ⟨q, hq, hev⟩ := hn.payments p hp
    rw [hev.userId]
    exact h.payments q hq

theorem sameIds_release (id : String) (reason : Value) (w : World) :
    SameIds w (w.exec env (.releaseBooking id reason)) := by
  have key : ∀ r, (Bookings.releaseBooking w.bookings id r).2 = w.bookings ∨
      ∃ s, (Bookings.releaseBooking w.bookings id r).2 = Bookings.setStatus w.bookings id s := by
    intro r
    rcases Bookings.releaseBooking_cases w.bookings id r with ⟨err, hr⟩ | ⟨b, target, -, -, hr⟩
    · exact .inl (congrArg Prod.snd hr)
    · exact .inr ⟨target, congrArg Prod.snd hr⟩
  have hcases : (w.exec env (.releaseBooking id reason)).bookings = w.bookings ∨
      ∃ s, (w.exec env (.releaseBooking id reason)).bookings =
        Bookings.setStatus w.bookings id s := by
    cases reason with
    | string r => exact key r
    | _ => exact key ""
  rcases hcases with hb | ⟨s, hb⟩
  · exact sameIds_of_bookings hb
  · exact sameIds_of_setStatus hb

theorem Owned.settle (h : Owned P w) (x : Settle) : Owned P (w.exec env x.op) := by
  cases x with
  | confirmBooking id =>
    exact h.of_noCharge (noCharge_confirmBooking id w) (sameIds_confirmBooking id w)
  | releaseBooking id reason =>
    exact h.of_noCharge (noCharge_exec (fun _ _ _ _ _ h => by cases h) w)
      (sameIds_release id reason w)
  | processRefund id =>
    exact h.of_noCharge (noCharge_refund id w) (sameIds_of_bookings (refund_effect id w).1)

theorem SameIds.remote {α : Type} {serve : World → Result α × World} (o : Outcome)
    (h : SameIds w (serve w).2) : SameIds w (remote o serve w).2 := by
  rw [remote_snd]
  split
  · exact .refl w
  · exact h

theorem Owned.cancel {id : String} {paymentId : Option String} {pc pc' : CancelPc}
    (h : Owned P sh.world) (hs : cancelStep sh i id paymentId e pc = some (sh', pc')) :
    Owned P sh'.world := by
  have hm := cancelStep_move hs
  refine h.of_noCharge hm.noCharge ?_
  cases hm with
  | enter _ | publish _ => exact .refl _
  | refund => exact .remote e.outcome (sameIds_of_bookings (refund_effect _ _).1)
  | release _ => exact .remote e.outcome (sameIds_releaseBooking _ _ _)

/-- A step of a task adds payments of its user. -/
theorem payments_of_taskStep (h : taskStep env sh i e t = some (sh', t')) (ht : t.Of userId)
    (hu : Uuid.Canonical userId) : ∀ p ∈ sh'.world.payments.rows,
      p ∈ sh.world.payments.rows ∨ p.userId = userId := by
  intro p hp
  have htrim := trim_of_noSpace (noSpace_of_canonical hu)
  cases t with
  | createHold xUserId body => cases h; exact .inl hp
  | confirmBookingSaga input pc =>
    obtain rfl : input.userId = userId := ht
    simp only [taskStep, Option.map_eq_some_iff, Prod.mk.injEq] at h
    obtain ⟨⟨sh₁, pc'⟩, hs, rfl, rfl⟩ := h
    have hm := confirmStep_move hs
    rcases pc.charging_or with ⟨c, rfl⟩ | hpc
    · rcases hm.charging with hch | hch <;> rw [hch] at hp
      · exact .inl hp
      · refine (userId_charge hu hp).imp_right fun hp => ?_
        rw [hp]
        exact htrim
    · rw [hm.payments hpc] at hp
      exact .inl hp
  | processCharge key xKey xUserId body =>
    obtain rfl : xUserId = some userId := ht
    cases h
    refine (Payments.Controller.userId_processCharge hp).imp_right fun hp => ?_
    rw [hp, header_of_canonical hu]
    exact htrim
  | done => cases h

theorem writes_of_taskStep (h : taskStep env sh i e t = some (sh', t')) :
    Writes sh.world.bookings sh'.world.bookings := by
  cases t with
  | createHold xUserId body => cases h; exact writes_exec _ _
  | confirmBookingSaga input pc =>
    simp only [taskStep, Option.map_eq_some_iff, Prod.mk.injEq] at h
    obtain ⟨⟨sh₁, pc'⟩, hs, rfl, rfl⟩ := h
    exact (confirmStep_move hs).writes
  | processCharge key xKey xUserId body => cases h; exact writes_exec _ _
  | done => cases h

theorem Owned.task (hO : Owned P sh.world) (h : taskStep env sh i e t = some (sh', t'))
    (ht : t.Of userId) (hid : Uuid.Canonical userId) (hu : P userId) : Owned P sh'.world := by
  have hrows := (taskStep_of h ht hid).2
  constructor
  · intro b hb
    rcases Writes.back (writes_of_taskStep h) b hb with ⟨c, hc, hcu⟩ | hnone
    · rw [← hcu]
      exact hO.bookings c hc
    · rw [hrows.bookings b hb hnone]
      exact hu
  · intro p hp
    rcases payments_of_taskStep h ht hid p hp with hold | hnew
    · exact hO.payments p hold
    · rw [hnew]
      exact hu

end

/-! ## Sessions -/

/-- The request `q` has logged in to the account `user` with its password, and was
answered with the tokens of `r`. -/
structure Session (D : Deployment) (q : HttpRequest) (r : Users.AuthResponse String)
    (user : Users.User) : Prop where
  active : user.isActive = true
  password : ∃ p, q.body.user.password = .string p ∧ D.comparePassword p user.password = true
  tokens : ∃ t, D.users.generateTokenPair t user.payload.claims = .ok r.tokens

/-- Somebody has logged in to the account with this id, and got the access token. -/
def Gave (D : Deployment) (s : Pool Platform Client) (token id : String) : Prop :=
  ∃ (j : Nat) (q : HttpRequest) (r : Users.AuthResponse String) (user : Users.User),
    s.procs[j]? = some ⟨q, .loggedIn r⟩ ∧ r.tokens.accessToken = token ∧
      user ∈ s.shared.users.users.rows ∧ user.id = id ∧ Session D q r user

def LoggedIn (D : Deployment) (s : Pool Platform Client) (id : String) : Prop :=
  ∃ token, Gave D s token id

/-- New accounts get a `uuid`, and a text under the access secret that comes with a
request was given to somebody who logged in. -/
def Unforged (D : Deployment) (s : Pool Platform Client) : PlatformEvent → Prop
  | .env _ => True
  | .proc i e => Uuid.Canonical e.newUser.id ∧ ∀ c token claims, s.procs[i]? = some c →
      Middleware.Bears c.request.headers.authorization token →
      D.gateway.jwt.verify token D.gateway.config.accessSecret e.now = .ok claims →
      ∃ (j : Nat) (q : HttpRequest) (r : Users.AuthResponse String),
        s.procs[j]? = some ⟨q, .loggedIn r⟩ ∧
          (token = r.tokens.accessToken ∨ token = r.tokens.refreshToken)

/-- What holds between the clients and the stores. -/
structure Sound (D : Deployment) (s : Pool Platform Client) : Prop where
  ids : ∀ u ∈ s.shared.users.users.rows, Uuid.Canonical u.id
  sessions : ∀ (j : Nat) q r, s.procs[j]? = some ⟨q, .loggedIn r⟩ →
    ∃ user ∈ s.shared.users.users.rows, Session D q r user
  tasks : ∀ (j : Nat) q t, s.procs[j]? = some ⟨q, .serving (.task t)⟩ → ∃ token id,
    Middleware.Bears q.headers.authorization token ∧ Gave D s token id ∧ t.Of id
  rows : Owned (LoggedIn D s) s.shared.shared.world

section
variable {D : Deployment} {P P' : Platform} {s s' : Pool Platform Client} {i : Nat}
  {q : HttpRequest} {e : PlatformIn} {job : Job} {pc' : ClientPc} {c c' : Client} {id : String}
  {r : Users.AuthResponse String}

/-- A step of a client that has not logged in takes no session away. -/
theorem Gave.set {token : String} (h : Gave D s token id) (hc : s.procs[i]? = some c)
    (hpc : ∀ r, c.pc ≠ .loggedIn r) (hu : ∀ u ∈ s.shared.users.users.rows, u ∈ P.users.users.rows) :
    Gave D ⟨P, s.procs.set i c'⟩ token id := by
  obtain ⟨j, q, r, user, hj, htoken, hm, hid, hs⟩ := h
  refine ⟨j, q, r, user, ?_, htoken, hu user hm, hid, hs⟩
  have hji : i ≠ j := by
    rintro rfl
    obtain rfl := Option.some.inj (hc.symm.trans hj)
    exact hpc r rfl
  show (s.procs.set i c')[j]? = _
  rw [List.getElem?_set_ne hji]
  exact hj

theorem Sound.canonical (h : Sound D s) (hl : LoggedIn D s id) : Uuid.Canonical id := by
  obtain ⟨-, j, q, r, user, -, -, hm, rfl, -⟩ := hl
  exact h.ids user hm

/-! ### Jobs -/

/-- Accounts are only added. -/
theorem Job.users_of_step (h : job.step D P i q e = some (P', pc')) : P'.users = P.users ∨
    ∃ user, P'.users.users.rows = P.users.users.rows ++ [user] ∧ user.id = e.newUser.id := by
  rcases (Job.step_frame h).1 with ⟨pc, rfl⟩ | ⟨hP, -⟩
  · simp only [Job.step, Option.map_eq_some_iff, Prod.mk.injEq] at h
    obtain ⟨⟨users, pc₁⟩, hr, rfl, rfl⟩ := h
    have ha : (Users.register D.hashPassword).spec.act P.users i ⟨q.body.user, pc⟩
      ⟨e.newUser, e.fault⟩ =
        some (users, ⟨q.body.user, pc₁⟩) := by simp only [CheckInsert.spec, hr, Option.map_some]
    cases (CheckInsert.act_moves ha).2 with
    | throw b hpc hs => exact .inl hs
    | pass d hpc hc ht hs => exact .inl hs
    | insert d user hpc hpc' hf hi =>
      exact .inr ⟨user, (Users.insert_ok hi).2.2, Users.id_of_insert hi⟩
  · exact .inl hP

theorem Job.session_of_step (h : job.step D P i q e = some (P', .loggedIn r)) :
    ∃ user ∈ P.users.users.rows, Session D q r user := by
  cases job with
  | login =>
    simp only [Job.step] at h
    split at h
    · cases h
    · split at h
      · cases h
      · next r' hr =>
        cases h
        obtain ⟨user, hm, hl⟩ := Users.loginRequest_ok hr
        exact ⟨user, hm, hl.active, hl.password, e.now, hl.tokens⟩
  | settle x => cases h
  | _ =>
    simp only [Job.step, Option.map_eq_some_iff, Prod.mk.injEq, reduceCtorEq, and_false,
      exists_false] at h

/-- A job that goes on is the same job. -/
inductive Job.Next : Job → Job → Prop
  | register {pc pc'} : Next (.register pc) (.register pc')
  | createRoute {pc pc'} : Next (.createRoute pc) (.createRoute pc')
  | tripService {pc pc'} : Next (.tripService pc) (.tripService pc')
  | task {t t'} : Next (.task t) (.task t')
  | cancel {id paymentId pc pc'} : Next (.cancel id paymentId pc) (.cancel id paymentId pc')

theorem Job.next_of_step {job' : Job} (h : job.step D P i q e = some (P', .serving job')) :
    job.Next job' := by
  cases job with
  | login =>
    simp only [Job.step] at h
    split at h
    · cases h
    · split at h <;> cases h
  | settle x => cases h
  | _ =>
    simp only [Job.step, Option.map_eq_some_iff, Prod.mk.injEq, ClientPc.serving.injEq] at h
    obtain ⟨r, -, -, rfl⟩ := h
    constructor

theorem Job.task_of_step {t' : Task} (h : job.step D P i q e = some (P', .serving (.task t'))) :
    ∃ t, job = .task t ∧ taskStep D.env P.shared i e.saga t = some (P'.shared, t') := by
  cases Job.next_of_step h
  simp only [Job.step, Option.map_eq_some_iff, Prod.mk.injEq, ClientPc.serving.injEq,
    Job.task.injEq] at h
  obtain ⟨⟨sh, t₁⟩, ht, rfl, rfl⟩ := h
  exact ⟨_, rfl, ht⟩

theorem Job.owned_of_step {Q : String → Prop} (hO : Owned Q P.shared.world)
    (ht : ∀ t, job = .task t → ∃ id, Uuid.Canonical id ∧ Q id ∧ t.Of id)
    (h : job.step D P i q e = some (P', pc')) : Owned Q P'.shared.world := by
  cases job with
  | task t =>
    obtain ⟨id, hns, hQ, hof⟩ := ht t rfl
    simp only [Job.step, Option.map_eq_some_iff, Prod.mk.injEq] at h
    obtain ⟨⟨sh, t'⟩, hs, rfl, -⟩ := h
    exact hO.task hs hof hns hQ
  | settle x => cases h; exact hO.settle x
  | cancel id paymentId pc =>
    simp only [Job.step, Option.map_eq_some_iff, Prod.mk.injEq] at h
    obtain ⟨⟨sh, pc₁⟩, hs, rfl, -⟩ := h
    exact hO.cancel hs
  | login =>
    simp only [Job.step] at h
    split at h
    · cases h; exact hO
    · split at h <;> cases h <;> exact hO
  | register pc | createRoute pc | tripService pc =>
    simp only [Job.step, Option.map_eq_some_iff, Prod.mk.injEq] at h
    obtain ⟨x, -, rfl, -⟩ := h
    exact hO

/-! ### The gateway -/

theorem passGateway_ne_loggedIn {now : Int} : passGateway D q now ≠ .loggedIn r := by
  have hb : ∀ o : Option Job, begin o ≠ .loggedIn r := fun o => by cases o <;> exact nofun
  unfold passGateway
  split
  · exact nofun
  · exact hb _
  · split
    · exact nofun
    · exact hb _

/-- A token that was given for a session and is accepted is its access token. -/
theorem token_of_session {user : Users.User} {token : String} {claims : Claims} {now : Int}
    (hS : D.users.jwt.Lawful) (hG : Users.SameAccess D.users D.gateway) (hs : Session D q r user)
    (htoken : token = r.tokens.accessToken ∨ token = r.tokens.refreshToken)
    (hv : D.gateway.verifyAccessToken token now = .ok claims) :
    r.tokens.accessToken = token ∧ claims.id = .string user.id := by
  obtain ⟨t, htokens⟩ := hs.tokens
  obtain ⟨ha, hr, -, -⟩ := Users.generateTokenPair_ok htokens
  rw [hG.verifyAccessToken] at hv
  obtain ⟨hok, htype⟩ := JWTService.verifyAs_ok.mp hv
  rcases htoken with rfl | rfl
  · rw [(JWTService.carries_of_access hS ha).signed _ _ _ hok]
    exact ⟨rfl, rfl⟩
  · rw [(JWTService.carries_of_refresh hS hr).signed _ _ _ hok] at htype
    have hne : Value.string "refresh" ≠ .string "access" := by decide
    exact absurd htype hne

theorem task_of_job {path : List String} {payload : Claims} {entry : Entry} {t : Task}
    (h : entry.job q path payload = some (.task t)) :
    ∃ r : Request, r.tokenUser = onWire payload.id.toText ∧ r.task = some t := by
  have key : ∀ r : Request, r.job = some (.task t) → r.task = some t := by
    intro r hr
    unfold Request.job at hr
    split at hr
    · cases hr
    · cases hr
    · cases hr
    · cases hr
    · obtain ⟨t', ht, heq⟩ := Option.map_eq_some_iff.mp hr
      cases heq
      exact ht
  have hbind : ∀ o : Option Handler, o.bind Handler.job ≠ some (.task t) := by
    intro o ho
    obtain ⟨hd, -, hj⟩ := Option.bind_eq_some_iff.mp ho
    cases hd <;> cases hj
  cases entry with
  | bookings => exact ⟨_, rfl, key _ h⟩
  | payments => exact ⟨_, rfl, key _ h⟩
  | auth | routes | buses | trips => exact absurd h (hbind _)

/-- Who is let through with a task is somebody who has logged in. -/
theorem Sound.task_of_passGateway {t : Task} (h : Sound D s) (hS : D.users.jwt.Lawful)
    (hG : Users.SameAccess D.users D.gateway) (hc : s.procs[i]? = some c)
    (ho : Unforged D s (.proc i e)) (ha : passGateway D c.request e.now = .serving (.task t)) :
    ∃ token id, Middleware.Bears c.request.headers.authorization token ∧
      Gave D s token id ∧ t.Of id := by
  rcases passGateway_serving ha with ⟨path, -, hj⟩ | ⟨entry, path, payload, -, hj, hauth⟩
  · exact (open_of_auth hj).elim
  · obtain ⟨token, hb, hv, -⟩ := Middleware.authorize_ok.mp hauth
    obtain ⟨hok, -⟩ := JWTService.verifyAs_ok.mp hv
    obtain ⟨j, q, r, hjs, htoken⟩ := ho.2 c token payload hc hb hok
    obtain ⟨user, hm, hs⟩ := h.sessions j q r hjs
    obtain ⟨haccess, hid⟩ := token_of_session hS hG hs htoken hv
    have hgave : Gave D s token user.id := ⟨j, q, r, user, hjs, haccess, hm, rfl, hs⟩
    obtain ⟨req, hu, ht⟩ := task_of_job hj
    rw [hid] at hu
    have hns := noSpace_of_canonical (h.canonical ⟨token, hgave⟩)
    have huser : req.tokenUser = user.id := hu.trans (onWire_of_noSpace hns)
    refine ⟨token, user.id, hb, hgave, ?_⟩
    rw [← huser]
    exact Request.task_of ht (by rw [huser]; exact hns.1)

/-! ## Runs -/

theorem Sound.step {ev : PlatformEvent} (h : Sound D s) (hS : D.users.jwt.Lawful)
    (hG : Users.SameAccess D.users D.gateway) (ho : Unforged D s ev)
    (hst : Pool.step (platform D) s ev = some s') : Sound D s' := by
  cases ev with
  | env d =>
    obtain ⟨sh, he, rfl⟩ := Pool.step_env hst
    cases he
    exact ⟨h.ids, h.sessions, h.tasks, h.rows.bookings, h.rows.payments⟩
  | proc i e =>
    obtain ⟨c, P', c', hc, ha, rfl⟩ := Pool.step_proc hst
    -- clients apart from `i` are as they were
    have hold : ∀ j q pc, (s.procs.set i c')[j]? = some ⟨q, pc⟩ → (j = i ∧ c' = ⟨q, pc⟩) ∨
        s.procs[j]? = some ⟨q, pc⟩ := by
      intro j q pc hj
      rcases Pool.getElem?_set_cases hj with ⟨rfl, heq⟩ | ⟨-, hj⟩
      · exact .inl ⟨rfl, heq.symm⟩
      · exact .inr hj
    rcases Client.step_cases ha with ⟨hpc, rfl, rfl⟩ | ⟨job, pc', hpc, hj, rfl⟩
    · have hset : ∀ token id, Gave D s token id →
          Gave D ⟨s.shared, s.procs.set i ⟨c.request, passGateway D c.request e.now⟩⟩ token id :=
        fun token id hg => hg.set hc (fun r => by rw [hpc]; exact nofun) fun u hu => hu
      refine ⟨h.ids, fun j q r hj => ?_, fun j q t hj => ?_,
        h.rows.imp fun id ⟨token, hg⟩ => ⟨token, hset token id hg⟩⟩
      · rcases hold j q _ hj with ⟨-, heq⟩ | hj
        · exact absurd (congrArg Client.pc heq) passGateway_ne_loggedIn
        · exact h.sessions j q r hj
      · rcases hold j q _ hj with ⟨-, heq⟩ | hj
        · obtain ⟨token, id, hb, hg, hof⟩ :=
            h.task_of_passGateway hS hG hc ho (congrArg Client.pc heq)
          rw [show c.request = q from congrArg Client.request heq] at hb
          exact ⟨token, id, hb, hset token id hg, hof⟩
        · obtain ⟨token, id, hb, hg, hof⟩ := h.tasks j q t hj
          exact ⟨token, id, hb, hset token id hg, hof⟩
    · have hmono : ∀ u ∈ s.shared.users.users.rows, u ∈ P'.users.users.rows := by
        intro u hu
        rcases Job.users_of_step hj with heq | ⟨user, heq, -⟩
        · rw [heq]; exact hu
        · rw [heq]; exact List.mem_append_left _ hu
      have hset : ∀ token id, Gave D s token id →
        Gave D ⟨P', s.procs.set i ⟨c.request, pc'⟩⟩ token id :=
        fun token id hg => hg.set hc (fun r => by rw [hpc]; exact nofun) hmono
      have hci : s.procs[i]? = some ⟨c.request, .serving job⟩ := by rw [hc, ← hpc]
      refine ⟨fun u hu => ?_, fun j q r hjs => ?_, fun j q t hjs => ?_, ?_⟩
      · rcases Job.users_of_step hj with heq | ⟨user, heq, hid⟩
        · rw [heq] at hu
          exact h.ids u hu
        · rw [heq] at hu
          rcases List.mem_append.mp hu with hu | hu
          · exact h.ids u hu
          · rw [List.mem_singleton.mp hu, hid]
            exact ho.1
      · rcases hold j q _ hjs with ⟨-, heq⟩ | hjs
        · cases heq
          obtain ⟨user, hm, hs⟩ := Job.session_of_step hj
          exact ⟨user, hmono user hm, hs⟩
        · obtain ⟨user, hm, hs⟩ := h.sessions j q r hjs
          exact ⟨user, hmono user hm, hs⟩
      · rcases hold j q _ hjs with ⟨-, heq⟩ | hjs
        · cases heq
          obtain ⟨t₀, rfl, hs⟩ := Job.task_of_step hj
          obtain ⟨token, id, hb, hg, hof⟩ := h.tasks i _ t₀ hci
          exact ⟨token, id, hb, hset token id hg, (taskStep_of hs hof (h.canonical ⟨token, hg⟩)).1⟩
        · obtain ⟨token, id, hb, hg, hof⟩ := h.tasks j q t hjs
          exact ⟨token, id, hb, hset token id hg, hof⟩
      · refine (Job.owned_of_step h.rows (fun t ht => ?_) hj).imp fun id ⟨token, hg⟩ =>
          ⟨token, hset token id hg⟩
        subst ht
        obtain ⟨token, id, -, hg, hof⟩ := h.tasks i _ t hci
        exact ⟨id, h.canonical ⟨token, hg⟩, ⟨token, hg⟩, hof⟩

theorem sound_reach (hS : D.users.jwt.Lawful) (hG : Users.SameAccess D.users D.gateway)
    (h : (platformRuns D).Reach (Unforged D) s) : Sound D s := by
  refine h.invariant (fun s hs => ?_) fun s ev s' _ hI ho hst => hI.step hS hG ho hst
  have hsent : ∀ (j : Nat) q pc, s.procs[j]? = some ⟨q, pc⟩ → pc = .sent :=
    fun j q pc hj => hs.sent _ (List.mem_of_getElem? hj)
  refine ⟨fun u hu => ?_, fun j q r hj => ?_, fun j q t hj => ?_, fun b hb => ?_, fun p hp => ?_⟩
  · rw [hs.users] at hu
    exact absurd hu List.not_mem_nil
  · cases hsent j q _ hj
  · cases hsent j q _ hj
  · rw [hs.bookings] at hb
    exact absurd hb List.not_mem_nil
  · rw [hs.payments] at hp
    exact absurd hp List.not_mem_nil

/-- The account was registered by a client of the platform, and some client has logged
in to it with its password. -/
def Accounted (D : Deployment) (s : Pool Platform Client) (id : String) : Prop :=
  ∃ user ∈ s.shared.users.users.rows, user.id = id ∧
    (∃ (i : Nat) (q : HttpRequest), s.procs[i]? =
      some ⟨q, .serving (.register (.done (.ok user)))⟩ ∧
      Users.AccountOf D.hashPassword q.body.user user) ∧
    ∃ (j : Nat) (q : HttpRequest) (r : Users.AuthResponse String),
      s.procs[j]? = some ⟨q, .loggedIn r⟩ ∧ Session D q r user

theorem register_of_done {pc : ClientPc} {user : Users.User} (h : pc.register = .done (.ok user)) :
    pc = .serving (.register (.done (.ok user))) := by
  unfold ClientPc.register at h
  split at h
  · rw [h]
  · cases h

theorem LoggedIn.accounted (h : LoggedIn D s id) (hr : (platformRuns D).Reachable s) :
    Accounted D s id := by
  obtain ⟨-, j, q, r, user, hj, -, hm, hid, hs⟩ := h
  obtain ⟨i, dto, hi, hacc⟩ :=
    Users.exists_call_of_user (services_run hr (.refl s)).1.before.reachable hm
  rw [registrations, Pool.map_getElem?, Option.map_eq_some_iff] at hi
  obtain ⟨c, hc, heq⟩ := hi
  obtain rfl : c.request.body.user = dto := congrArg CheckInsert.Call.request heq
  have hdone : c.pc = .serving (.register (.done (.ok user))) :=
    register_of_done (congrArg CheckInsert.Call.pc heq)
  refine ⟨user, hm, hid, ⟨i, c.request, ?_, hacc⟩, j, q, r, hj, hs⟩
  rw [hc, ← hdone]

end

/-- **Every row is of an account.** As long as no token is forged, whoever has booked or
paid has an account, which was registered here, and has logged in with its password. -/
theorem rows_of_sessions {D : Deployment} {s : Pool Platform Client} (hS : D.users.jwt.Lawful)
    (hG : Users.SameAccess D.users D.gateway) (h : (platformRuns D).Reach (Unforged D) s) :
    Owned (Accounted D s) s.shared.shared.world :=
  (sound_reach hS hG h).rows.imp fun _ hl => hl.accounted h.reachable

/-! ## One session -/

theorem canonical_doraId : Uuid.Canonical Users.doraId := ⟨_, rfl, by decide +kernel⟩

section
variable {s : Pool Platform Client} {i j : Nat} {c : Client} {now : Int} {rowId : String}

theorem unforged_of_none (hc : s.procs[i]? = some c) (hh : c.request.headers.authorization = none) :
    Unforged doras s (.proc i (input now rowId)) := by
  refine ⟨canonical_doraId, fun c' token claims hc' hb _ => ?_⟩
  obtain rfl := Option.some.inj (hc.symm.trans hc')
  obtain ⟨authHeader, ha, -⟩ := hb
  rw [hh] at ha
  cases ha

theorem unforged_of_session {q : HttpRequest} {r : Users.AuthResponse String} (token : String)
    (hc : s.procs[i]? = some c) (hh : c.request.headers.authorization = Users.bearer token)
    (hs : ' ' ∉ token.toList) (hj : s.procs[j]? = some ⟨q, .loggedIn r⟩)
    (hr : r.tokens.accessToken = token) : Unforged doras s (.proc i (input now rowId)) := by
  refine ⟨canonical_doraId, fun c' token' claims hc' hb _ => ⟨j, q, r, hj, .inl ?_⟩⟩
  obtain rfl := Option.some.inj (hc.symm.trans hc')
  rw [hh] at hb
  rw [hr]
  exact eq_of_bears hs hb

theorem unforged_of_refused (token : String) (hc : s.procs[i]? = some c)
    (hh : c.request.headers.authorization = Users.bearer token) (hs : ' ' ∉ token.toList)
    (hv : (Users.listed Users.doraTokens).verify token "s" now = .error .JsonWebTokenError) :
    Unforged doras s (.proc i (input now rowId)) := by
  refine ⟨canonical_doraId, fun c' token' claims hc' hb hv' => ?_⟩
  obtain rfl := Option.some.inj (hc.symm.trans hc')
  rw [hh] at hb
  rw [eq_of_bears hs hb] at hv'
  cases hv.symm.trans hv'

end

theorem doraAndEve_reach : (platformRuns doras).Reach (Unforged doras) (doraAndEveAt 8) := by
  have h0 : (platformRuns doras).Reach (Unforged doras) (doraAndEveAt 0) :=
    .of_init doraAndEve_opening
  have h1 : (platformRuns doras).Reach (Unforged doras) (doraAndEveAt 1) :=
    h0.snoc (e := .proc 0 (input 0 "")) (unforged_of_none (c := (doraAndEveAt 0).procs[0]) rfl rfl)
      rfl
  have h2 : (platformRuns doras).Reach (Unforged doras) (doraAndEveAt 2) :=
    h1.snoc (e := .proc 0 (input 0 "")) (unforged_of_none (c := (doraAndEveAt 1).procs[0]) rfl rfl)
      rfl
  have h3 : (platformRuns doras).Reach (Unforged doras) (doraAndEveAt 3) :=
    h2.snoc (e := .proc 0 (input 0 "")) (unforged_of_none (c := (doraAndEveAt 2).procs[0]) rfl rfl)
      rfl
  have h4 : (platformRuns doras).Reach (Unforged doras) (doraAndEveAt 4) :=
    h3.snoc (e := .proc 1 (input 0 "")) (unforged_of_none (c := (doraAndEveAt 3).procs[1]) rfl rfl)
      rfl
  have h5 : (platformRuns doras).Reach (Unforged doras) (doraAndEveAt 5) :=
    h4.snoc (e := .proc 1 (input 0 "")) (unforged_of_none (c := (doraAndEveAt 4).procs[1]) rfl rfl)
      rfl
  -- the token is that of the second client
  have h6 : (platformRuns doras).Reach (Unforged doras) (doraAndEveAt 6) :=
    h5.snoc (e := .proc 2 (input 899999 "")) (unforged_of_session (j := 1)
      (c := (doraAndEveAt 5).procs[2]) "aaa.bbb.ccc" rfl rfl (by decide) rfl rfl) rfl
  have h7 : (platformRuns doras).Reach (Unforged doras) (doraAndEveAt 7) :=
    h6.snoc (e := .proc 2 (input 0 "b1")) (unforged_of_session (j := 1)
      (c := (doraAndEveAt 6).procs[2]) "aaa.bbb.ccc" rfl rfl (by decide) rfl rfl) rfl
  exact h7.snoc (e := .proc 3 (input 0 "")) (unforged_of_refused (c := (doraAndEveAt 7).procs[3])
    "abc" rfl rfl (by decide) rfl) rfl

theorem rows_of_doraAndEve : ∃ b ∈ (doraAndEveAt 8).shared.shared.world.bookings.rows,
    b.userId = Users.doraId ∧ Accounted doras (doraAndEveAt 8) b.userId := by
  have hrows : (doraAndEveAt 8).shared.shared.world.bookings.rows.map (fun b => b.userId) =
    [Users.doraId] := by rfl
  have hm : Users.doraId ∈ (doraAndEveAt 8).shared.shared.world.bookings.rows.map fun b =>
    b.userId := by
    rw [hrows]
    exact List.mem_singleton_self _
  obtain ⟨b, hb, hid⟩ := List.mem_map.mp hm
  have howned := rows_of_sessions Users.listed_lawful ⟨rfl, rfl⟩ doraAndEve_reach
  exact ⟨b, hb, hid, howned.bookings b hb⟩

end RouteGo.Gateway
