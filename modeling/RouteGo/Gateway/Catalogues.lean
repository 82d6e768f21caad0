import RouteGo.Gateway.Platform

/-!
# The catalogues and the accounts

What the user, the route and the trip service have of a run of the platform. Their calls
are begun by the requests that the gateway lets through to their handlers, by the path of
their own mount and, but for the accounts, with a token (`begun_reach`); and what they make
of their stores is a run of the service alone, by those calls (`services_run`).
-/

namespace RouteGo.Gateway

/-! ## Who begins which call -/

/-- The gateway lets the request through to the handler: the path is of its own mount, and
only `/api/auth` goes without a token. -/
structure LetThrough (D : Deployment) (now : Int) (q : HttpRequest) (hd : Handler) : Prop where
  path : ∃ entry path, hd.entry = some entry ∧ entryOf q.path = some (entry, path) ∧
    entry.handler q.method path = some hd
  token : hd.entry = some .auth ∨ Middleware.Authorized D.gateway now q.headers.authorization

/-- The job is that of the handler, however far it has come. -/
def Handler.Does : Handler → Job → Prop
  | .register, .register _ | .createRoute, .createRoute _ | .createBus, .tripService _
  | .createTrip, .tripService _ => True
  | _, _ => False

/-- Jobs of the accounts and the catalogues. -/
def Job.Catalogue : Job → Prop
  | .register _ | .createRoute _ | .tripService _ => True
  | _ => False

/-- Whose call has begun, its request was let through to the handler. -/
def Client.Begun (D : Deployment) (c : Client) : Prop :=
  ∀ job, c.pc = .serving job → job.Catalogue → ∃ now hd, hd.Does job ∧ LetThrough D now c.request hd

section
variable {D : Deployment} {P P' : Platform} {i : Nat} {q : HttpRequest} {e : PlatformIn}
  {job job' : Job} {c c' : Client} {now : Int} {path : List String} {entry : Entry}

theorem does_of_job {hd : Handler} (h : hd.job = some job) (hc : job.Catalogue) :
    hd.Does job ∧ hd.entry.isSome := by
  cases hd <;> cases h <;> first | exact ⟨trivial, rfl⟩ | exact hc.elim

theorem Request.not_catalogue_of_job {r : Request} (h : r.job = some job) : ¬ job.Catalogue := by
  unfold Request.job at h
  split at h
  · cases h; exact id
  · cases h; exact id
  · cases h; exact id
  · cases h; exact id
  · obtain ⟨t, -, rfl⟩ := Option.map_eq_some_iff.mp h
    exact id

/-- A handler is let through to by the path of its mount. -/
theorem letThrough_of_handler {hd : Handler} (he : entryOf q.path = some (entry, path))
    (hh : entry.handler q.method path = some hd) (hsome : hd.entry.isSome)
    (ht : entry = .auth ∨ Middleware.Authorized D.gateway now q.headers.authorization) :
    LetThrough D now q hd := by
  obtain ⟨x, hx⟩ := Option.isSome_iff_exists.mp hsome
  obtain rfl := entry_of_handler hh x hx
  exact ⟨⟨x, path, hx, he, hh⟩, ht.imp_left fun h => hx.trans (congrArg some h)⟩

theorem begun_of_passGateway : (⟨q, passGateway D q now⟩ : Client).Begun D := by
  intro job h hcat
  have hbind : ∀ {entry : Entry} {path : List String}, entryOf q.path = some (entry, path) →
      (entry = .auth ∨ Middleware.Authorized D.gateway now q.headers.authorization) →
      (entry.handler q.method path).bind Handler.job = some job →
      ∃ now hd, hd.Does job ∧ LetThrough D now q hd := by
    intro entry path he ht hj
    obtain ⟨hd, hh, hj⟩ := Option.bind_eq_some_iff.mp hj
    obtain ⟨hdoes, hsome⟩ := does_of_job hj hcat
    exact ⟨now, hd, hdoes, letThrough_of_handler he hh hsome ht⟩
  rcases passGateway_serving h with ⟨path, he, hj⟩ | ⟨entry, path, payload, he, hj, ha⟩
  · exact hbind he (.inl rfl) hj
  · obtain ⟨token, hb, hv, hid⟩ := Middleware.authorize_ok.mp ha
    cases entry with
    | bookings | payments => exact absurd hcat (Request.not_catalogue_of_job hj)
    | auth | routes | buses | trips => exact hbind he (.inr ⟨token, payload, hb, hv, hid⟩) hj

/-- A step goes on with the job of the same handler. -/
theorem Job.does_of_step (h : job.step D P i q e = some (P', .serving job'))
    (hcat : job'.Catalogue) : job.Catalogue ∧ ∀ hd : Handler, hd.Does job → hd.Does job' := by
  cases job with
  | login =>
    simp only [Job.step] at h
    split at h
    · cases h
    · split at h <;> cases h
  | settle x => cases h
  | _ =>
    simp only [Job.step, Option.map_eq_some_iff, Prod.mk.injEq, ClientPc.serving.injEq] at h
    obtain ⟨r, -, -, rfl⟩ := h
    exact ⟨hcat, fun hd hdoes => by cases hd <;> exact hdoes⟩

theorem Client.Begun.step (hc : c.Begun D) (h : c.step D P i e = some (P', c')) : c'.Begun D := by
  rcases Client.step_cases h with ⟨-, -, rfl⟩ | ⟨job, pc', hpc, hj, rfl⟩
  · exact begun_of_passGateway
  · rintro job' (rfl : pc' = .serving job') hcat
    obtain ⟨hcat₀, hdoes⟩ := Job.does_of_step hj hcat
    obtain ⟨now, hd, hd₀, hlet⟩ := hc job hpc hcat₀
    exact ⟨now, hd, hdoes hd hd₀, hlet⟩

theorem begun_reach {s : Pool Platform Client} (h : (platformRuns D).Reachable s)
    (hc : s.procs[i]? = some c) : c.Begun D := by
  have hout : Pool.Outline (platform D) LTS.always (fun _ => True) fun _ _ c => c.Begun D :=
    ⟨fun s e sh hs _ _ => ⟨trivial, hs.2⟩, fun s i c e sh c' hs _ hc ha =>
      ⟨trivial, (hs.2 i c hc).step ha⟩, fun s i c e sh c' j q hs _ _ _ _ hq => hs.2 j q hq⟩
  refine (Pool.invariant hout (fun s hs => ⟨trivial, fun j c hc job hj => ?_⟩) h).2 i c hc
  rw [hs.sent c (List.mem_of_getElem? hc)] at hj
  cases hj

end

/-! ## One service at a time -/

/-- How far the client has come with a call of `UserService.register`. -/
def ClientPc.register : ClientPc → CheckInsert.Pc Users.RegisterDto Users.User AppError
  | .serving (.register pc) => pc
  | _ => .start

def ClientPc.createRoute : ClientPc → CheckInsert.Pc Routes.RouteData Routes.RouteWithStops AppError
  | .serving (.createRoute pc) => pc
  | _ => .start

def ClientPc.tripService : ClientPc → CheckInsert.Pc (Trips.BusLayout ⊕ Trips.TripData)
    (Trips.BusWithSeats ⊕ Trips.Trip) AppError
  | .serving (.tripService pc) => pc
  | _ => .start

/-- The client as a call of one service; clients of others never begin it. -/
def Client.registerCall (c : Client) : Users.RegisterCall := ⟨c.request.body.user, c.pc.register⟩

def Client.routeCall (c : Client) : Routes.Call := ⟨c.request.body.route, c.pc.createRoute⟩

def Client.tripCall (c : Client) : Trips.ServiceCall := ⟨c.request.tripDto, c.pc.tripService⟩

/-- No call has been begun. -/
structure ClientPc.Fresh (pc : ClientPc) : Prop where
  register : pc.register = .start
  createRoute : pc.createRoute = .start
  tripService : pc.tripService = .start

section
variable {D : Deployment} {P P' : Platform} {i : Nat} {q : HttpRequest} {e : PlatformIn} {job : Job}
  {pc' : ClientPc} {c' : Client} {now : Int}

theorem fresh_of_bind {o : Option Handler} (h : o.bind Handler.job = some job) :
    (ClientPc.serving job).Fresh := by
  obtain ⟨hd, -, hj⟩ := Option.bind_eq_some_iff.mp h
  cases hd <;> cases hj <;> exact ⟨rfl, rfl, rfl⟩

theorem Request.fresh_of_job {r : Request} (h : r.job = some job) :
    (ClientPc.serving job).Fresh := by
  unfold Request.job at h
  split at h
  · cases h; exact ⟨rfl, rfl, rfl⟩
  · cases h; exact ⟨rfl, rfl, rfl⟩
  · cases h; exact ⟨rfl, rfl, rfl⟩
  · cases h; exact ⟨rfl, rfl, rfl⟩
  · obtain ⟨t, -, rfl⟩ := Option.map_eq_some_iff.mp h
    exact ⟨rfl, rfl, rfl⟩

/-- A client that is let through has begun no call. -/
theorem fresh_of_passGateway : (passGateway D q now).Fresh := by
  cases h : passGateway D q now with
  | serving job =>
    rcases passGateway_serving h with ⟨path, -, hj⟩ | ⟨entry, path, payload, -, hj, -⟩
    · exact fresh_of_bind hj
    · cases entry with
      | bookings | payments => exact Request.fresh_of_job hj
      | auth | routes | buses | trips => exact fresh_of_bind hj
  | _ => exact ⟨rfl, rfl, rfl⟩

/-- What a job leaves alone, in the stores and in the calls. -/
theorem Job.step_frame (h : job.step D P i q e = some (P', pc')) :
    ((∃ pc, job = .register pc) ∨
      P'.users = P.users ∧ pc'.register = (ClientPc.serving job).register) ∧
    ((∃ pc, job = .createRoute pc) ∨
      P'.routes = P.routes ∧ pc'.createRoute = (ClientPc.serving job).createRoute) ∧
    ((∃ pc, job = .tripService pc) ∨
      P'.trips = P.trips ∧ pc'.tripService = (ClientPc.serving job).tripService) := by
  cases job with
  | login =>
    simp only [Job.step] at h
    split at h
    · cases h
      exact ⟨.inr ⟨rfl, rfl⟩, .inr ⟨rfl, rfl⟩, .inr ⟨rfl, rfl⟩⟩
    · split at h <;> cases h <;> exact ⟨.inr ⟨rfl, rfl⟩, .inr ⟨rfl, rfl⟩, .inr ⟨rfl, rfl⟩⟩
  | settle x =>
    cases h
    exact ⟨.inr ⟨rfl, rfl⟩, .inr ⟨rfl, rfl⟩, .inr ⟨rfl, rfl⟩⟩
  | register pc =>
    simp only [Job.step, Option.map_eq_some_iff, Prod.mk.injEq] at h
    obtain ⟨r, -, rfl, rfl⟩ := h
    exact ⟨.inl ⟨pc, rfl⟩, .inr ⟨rfl, rfl⟩, .inr ⟨rfl, rfl⟩⟩
  | createRoute pc =>
    simp only [Job.step, Option.map_eq_some_iff, Prod.mk.injEq] at h
    obtain ⟨r, -, rfl, rfl⟩ := h
    exact ⟨.inr ⟨rfl, rfl⟩, .inl ⟨pc, rfl⟩, .inr ⟨rfl, rfl⟩⟩
  | tripService pc =>
    simp only [Job.step, Option.map_eq_some_iff, Prod.mk.injEq] at h
    obtain ⟨r, -, rfl, rfl⟩ := h
    exact ⟨.inr ⟨rfl, rfl⟩, .inr ⟨rfl, rfl⟩, .inl ⟨pc, rfl⟩⟩
  | task t | cancel id paymentId pc =>
    simp only [Job.step, Option.map_eq_some_iff, Prod.mk.injEq] at h
    obtain ⟨r, -, rfl, rfl⟩ := h
    exact ⟨.inr ⟨rfl, rfl⟩, .inr ⟨rfl, rfl⟩, .inr ⟨rfl, rfl⟩⟩

end

/-- The gateway lets the request of client `i` through to the handler, at some time. -/
def Lets (D : Deployment) (s : Pool Platform Client) (hd : Handler) (i : Nat) : Prop :=
  ∃ c now, s.procs[i]? = some c ∧ LetThrough D now c.request hd

/-- The clients are those of `s`, and their calls begin as the gateway lets them. -/
structure Letting (D : Deployment) (s t : Pool Platform Client) : Prop where
  requests : t.procs.map Client.request = s.procs.map Client.request
  begun : ∀ (i : Nat) c, t.procs[i]? = some c → c.Begun D

/-- Only calls with the property take steps. -/
def Only {σ π ε : Type} (mine : Nat → Prop) (_ : Pool σ π) : Pool.Event ε Empty → Prop
  | .env _ => True
  | .proc i _ => mine i

section
variable {D : Deployment} {s t : Pool Platform Client} {i : Nat} {c : Client} {job : Job}

theorem Letting.lets (h : Letting D s t) (hc : t.procs[i]? = some c) (hpc : c.pc = .serving job)
    (hcat : job.Catalogue) : ∃ hd, hd.Does job ∧ Lets D s hd i := by
  obtain ⟨now, hd, hdoes, hlet⟩ := h.begun i c hc job hpc hcat
  have hreq : (s.procs.map Client.request)[i]? = some c.request := by
    rw [← h.requests, List.getElem?_map, hc, Option.map_some]
  obtain ⟨c₀, hc₀, hq⟩ := Option.map_eq_some_iff.mp (List.getElem?_map.symm.trans hreq)
  exact ⟨hd, hdoes, c₀, now, hc₀, hq ▸ hlet⟩

theorem does_register {hd : Handler} {pc : CheckInsert.Pc Users.RegisterDto Users.User AppError}
    (h : hd.Does (.register pc)) : hd = .register := by
  cases hd <;> first | rfl | exact h.elim

theorem does_createRoute {hd : Handler}
    {pc : CheckInsert.Pc Routes.RouteData Routes.RouteWithStops AppError}
    (h : hd.Does (.createRoute pc)) : hd = .createRoute := by
  cases hd <;> first | rfl | exact h.elim

theorem does_tripService {hd : Handler} {pc : CheckInsert.Pc (Trips.BusLayout ⊕ Trips.TripData)
    (Trips.BusWithSeats ⊕ Trips.Trip) AppError} (h : hd.Does (.tripService pc)) :
    hd = .createBus ∨ hd = .createTrip := by
  cases hd <;> first | exact .inl rfl | exact .inr rfl | exact h.elim

variable (D s)

theorem projects_users : Pool.Projects (platform D) (fun t _ => Letting D s t)
    (Users.register D.hashPassword).spec (Only (Lets D s .register)) Platform.users
    Client.registerCall where
  env _ _ _ _ h := by cases h; exact .inl rfl
  act t i c e P' c' hl hc h := by
    obtain ⟨q, pc⟩ := c
    rcases Client.step_cases h with ⟨rfl, rfl, rfl⟩ | ⟨job, pc', rfl, hj, rfl⟩
    · exact .inl ⟨rfl, congrArg (CheckInsert.Call.mk _) fresh_of_passGateway.register⟩
    · rcases (Job.step_frame hj).1 with ⟨rpc, rfl⟩ | ⟨hP, hpc⟩
      · obtain ⟨hd, hdoes, hlets⟩ := hl.lets hc rfl trivial
        obtain rfl := does_register hdoes
        simp only [Job.step, Option.map_eq_some_iff, Prod.mk.injEq] at hj
        obtain ⟨r, hr, rfl, rfl⟩ := hj
        refine .inr ⟨⟨e.newUser, e.fault⟩, hlets, ?_⟩
        simp only [CheckInsert.spec, Client.registerCall, ClientPc.register, hr, Option.map_some]
      · exact .inl ⟨hP, congrArg (CheckInsert.Call.mk _) hpc⟩

theorem projects_routes : Pool.Projects (platform D) (fun t _ => Letting D s t)
    Routes.createRoute.spec (Only (Lets D s .createRoute)) Platform.routes Client.routeCall where
  env _ _ _ _ h := by cases h; exact .inl rfl
  act t i c e P' c' hl hc h := by
    obtain ⟨q, pc⟩ := c
    rcases Client.step_cases h with ⟨rfl, rfl, rfl⟩ | ⟨job, pc', rfl, hj, rfl⟩
    · exact .inl ⟨rfl, congrArg (CheckInsert.Call.mk _) fresh_of_passGateway.createRoute⟩
    · rcases (Job.step_frame hj).2.1 with ⟨rpc, rfl⟩ | ⟨hP, hpc⟩
      · obtain ⟨hd, hdoes, hlets⟩ := hl.lets hc rfl trivial
        obtain rfl := does_createRoute hdoes
        simp only [Job.step, Option.map_eq_some_iff, Prod.mk.injEq] at hj
        obtain ⟨r, hr, rfl, rfl⟩ := hj
        refine .inr ⟨⟨e.newRoute, e.fault⟩, hlets, ?_⟩
        simp only [CheckInsert.spec, Client.routeCall, ClientPc.createRoute, hr, Option.map_some]
      · exact .inl ⟨hP, congrArg (CheckInsert.Call.mk _) hpc⟩

theorem projects_trips : Pool.Projects (platform D) (fun t _ => Letting D s t)
    (Trips.tripService D.otherDate).spec
      (Only fun i => Lets D s .createBus i ∨ Lets D s .createTrip i)
    Platform.trips Client.tripCall where
  env _ _ _ _ h := by cases h; exact .inl rfl
  act t i c e P' c' hl hc h := by
    obtain ⟨q, pc⟩ := c
    rcases Client.step_cases h with ⟨rfl, rfl, rfl⟩ | ⟨job, pc', rfl, hj, rfl⟩
    · exact .inl ⟨rfl, congrArg (CheckInsert.Call.mk _) fresh_of_passGateway.tripService⟩
    · rcases (Job.step_frame hj).2.2 with ⟨rpc, rfl⟩ | ⟨hP, hpc⟩
      · obtain ⟨hd, hdoes, hlets⟩ := hl.lets hc rfl trivial
        simp only [Job.step, Option.map_eq_some_iff, Prod.mk.injEq] at hj
        obtain ⟨r, hr, rfl, rfl⟩ := hj
        refine .inr ⟨⟨e.newTrip, e.fault⟩, ?_, ?_⟩
        · rcases does_tripService hdoes with rfl | rfl
          · exact .inl hlets
          · exact .inr hlets
        · simp only [CheckInsert.spec, Client.tripCall, ClientPc.tripService, hr, Option.map_some]
      · exact .inl ⟨hP, congrArg (CheckInsert.Call.mk _) hpc⟩

end

/-- What the services see of the platform. -/
def registrations (s : Pool Platform Client) : Pool Users.UserStore Users.RegisterCall :=
  s.map Platform.users Client.registerCall

def routeCalls (s : Pool Platform Client) : Pool Routes.RouteStore Routes.Call :=
  s.map Platform.routes Client.routeCall

def tripCalls (s : Pool Platform Client) : Pool Trips.TripStore Trips.ServiceCall :=
  s.map Platform.trips Client.tripCall

/-- A service goes from an empty store to `p` and from there to `p'` alone, by steps of the
calls that are `mine`. -/
structure OwnRun {σ ρ δ ι α β : Type} (C : CheckInsert σ ρ δ ι α β) (empty : σ) (mine : Nat → Prop)
    (p p' : Pool σ (CheckInsert.Call ρ δ α β)) : Prop where
  before : (C.calls fun store => store = empty).Reach (Only mine) p
  run : (C.calls fun store => store = empty).Run (Only mine) p p'

section
variable {D : Deployment} {s s' : Pool Platform Client}

theorem requests_run {ok : Pool Platform Client → PlatformEvent → Prop}
    (hr : (platformRuns D).Run ok s s') : s'.procs.map Client.request =
      s.procs.map Client.request :=
  hr.keep (P := fun t => t.procs.map Client.request = s.procs.map Client.request)
    (fun _ _ _ ht _ hst => (requests_step hst).trans ht) rfl

/-- A run of the platform lets its calls begin, before `s` and after. -/
theorem letting_run (h : (platformRuns D).Reachable s) (hr : (platformRuns D).Run LTS.always s s') :
    (platformRuns D).Reach (fun t _ => Letting D s t) s ∧
      (platformRuns D).Run (fun t _ => Letting D s t) s s' := by
  obtain ⟨s₀, hi, h₀⟩ := h
  refine ⟨⟨s₀, hi, ?_⟩, ?_⟩
  · refine (LTS.Run.strengthen (I := Letting D s) (.of_init hi) (fun t ht hrt => ?_) h₀).mono
      fun _ _ ho => ho.2
    exact ⟨(requests_run hrt).trans (requests_run h₀).symm, fun i c hc => begun_reach ht hc⟩
  · refine (LTS.Run.strengthen (I := Letting D s) ⟨s₀, hi, h₀⟩ (fun t ht hrt => ?_) hr).mono
      fun _ _ ho => ho.2
    exact ⟨requests_run hrt, fun i c hc => begun_reach ht hc⟩

/-- What a service sees of a run that lets calls begin is a run of its own. -/
theorem ownRun_of_projects {σ ρ δ ι α β : Type} {C : CheckInsert σ ρ δ ι α β} {empty : σ}
    {mine : Nat → Prop} {f : Platform → σ} {g : Client → CheckInsert.Call ρ δ α β}
    (hp : Pool.Projects (platform D) (fun t _ => Letting D s t) C.spec (Only mine) f g)
    (hf : ∀ t, Opening t → f t.shared = empty) (hg : ∀ c : Client, c.pc = .sent → (g c).pc = .start)
    (h : (platformRuns D).Reachable s) (hr : (platformRuns D).Run LTS.always s s') :
    OwnRun C empty mine (s.map f g) (s'.map f g) := by
  obtain ⟨hreach, hrun⟩ := letting_run h hr
  refine ⟨hp.reach (fun t ht => ⟨hf t ht, fun p hp => ?_⟩) hreach, hp.run hrun⟩
  obtain ⟨c, hc, rfl⟩ := List.mem_map.mp hp
  exact hg c (ht.sent c hc)

/-- **Each catalogue sees a run of its own.** What the users, the routes and the trips
become in a run of the platform, they become in a run of their service alone, from an
empty store, by the calls of those requests that the gateway lets through to it. -/
theorem services_run (h : (platformRuns D).Reachable s)
    (hr : (platformRuns D).Run LTS.always s s') :
    OwnRun (Users.register D.hashPassword) Users.UserStore.empty (Lets D s .register)
      (registrations s) (registrations s') ∧
    OwnRun Routes.createRoute Routes.RouteStore.empty (Lets D s .createRoute)
      (routeCalls s) (routeCalls s') ∧
    OwnRun (Trips.tripService D.otherDate) Trips.TripStore.empty
      (fun i => Lets D s .createBus i ∨ Lets D s .createTrip i) (tripCalls s) (tripCalls s') := by
  refine ⟨ownRun_of_projects (projects_users D s) (fun t ht => ht.users) (fun c hc => ?_) h hr,
    ownRun_of_projects (projects_routes D s) (fun t ht => ht.routes) (fun c hc => ?_) h hr,
    ownRun_of_projects (projects_trips D s) (fun t ht => ht.trips) (fun c hc => ?_) h hr⟩
  · rw [Client.registerCall, hc]
    rfl
  · rw [Client.routeCall, hc]
    rfl
  · rw [Client.tripCall, hc]
    rfl

end

theorem services_run_doraAndEve :
    OwnRun (Users.register Users.salted) Users.UserStore.empty
      (Lets doras (doraAndEveAt 3) .register)
        (registrations (doraAndEveAt 3)) (registrations (doraAndEveAt 8)) ∧
      OwnRun Routes.createRoute Routes.RouteStore.empty (Lets doras (doraAndEveAt 3) .createRoute)
        (routeCalls (doraAndEveAt 3)) (routeCalls (doraAndEveAt 8)) ∧
      OwnRun (Trips.tripService fun _ => none) Trips.TripStore.empty
        (fun i => Lets doras (doraAndEveAt 3) .createBus i ∨
          Lets doras (doraAndEveAt 3) .createTrip i)
        (tripCalls (doraAndEveAt 3)) (tripCalls (doraAndEveAt 8)) :=
  services_run ((LTS.Reach.of_init doraAndEve_opening).run doraAndEve_run.1) doraAndEve_run.2

end RouteGo.Gateway
