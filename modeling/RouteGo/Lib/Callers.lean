import RouteGo.Lib.Births

/-!
# Callers of a service

A service is a pool in which calls come to be. A caller sends a request, which is a call
of the service from then on, and goes on with the answer of that call when there is one,
or without it, as after a timeout, while the call goes on by itself. Every other request
is an event of the environment. A run of the callers is a run of the service
(`run_of_callers`), a caller waits for a call of the kind it sent (`awaits_reach`), and a
call that is served at once, with nothing in between, is one of those runs (`run_served`).
-/

universe u v w x k r y t

namespace Pool

/-- What a caller sends, how it goes on with an answer, and its other steps. -/
structure Caller (κ : Type k) (π : Type v) (ρ : Type r) (ι : Type y) where
  request : κ → Option π
  resume : κ → ρ → κ
  own : κ → ι → Option κ

inductive CallerIn (ι : Type y) where
  | send (place : Nat)
  | receive
  | own (e : ι)

variable {σ : Type u} {π : Type v} {ε : Type w} {η : Type x} {κ : Type k} {ρ : Type r} {ι : Type y}
  {τ : Type t}

/-- A caller is kept with the place of the call it waits for, which an own step forgets. -/
def Spec.callers (S : Spec σ π ε η) (answer : π → Option ρ) (C : Caller κ π ρ ι) :
    Spec (Pool σ (Option π)) (κ × Option Nat) (CallerIn ι) (Event (ε ⊕ π) η) where
  act n _ c e := match e, c.2 with
    | .send place, none => (C.request c.1).bind fun p =>
      (step S.births n (.proc place (.inr p))).map fun n' => (n', (c.1, some place))
    | .receive, some place => ((n.procs[place]?.bind id).bind answer).map fun a =>
      (n, (C.resume c.1 a, none))
    | .own e, _ => (C.own c.1 e).map fun q => (n, (q, none))
    | _, _ => none
  env := step S.births

/-- The moves of a caller. -/
inductive CallerMove (answer : π → Option ρ) (C : Caller κ π ρ ι) (n : Pool σ (Option π)) :
    κ × Option Nat → Pool σ (Option π) → κ × Option Nat → Prop
  | send {q : κ} {p : π} {place : Nat} (hp : C.request q = some p)
      (hn : n.procs[place]? = some none) : CallerMove answer C n (q, none)
        ⟨n.shared, n.procs.set place (some p)⟩ (q, some place)
  | receive {q : κ} {p : π} {place : Nat} {a : ρ} (hn : n.procs[place]? = some (some p))
      (ha : answer p = some a) : CallerMove answer C n (q, some place) n (C.resume q a, none)
  | own {q q' : κ} {o : Option Nat} (e : ι) (hq : C.own q e = some q') :
      CallerMove answer C n (q, o) n (q', none)

/-- What an event of the callers is to the service. -/
def seen (C : Caller κ π ρ ι) (s : Pool (Pool σ (Option π)) (κ × Option Nat)) :
    Event (CallerIn ι) (Event (ε ⊕ π) η) → Option (Event (ε ⊕ π) η)
  | .env e => some e
  | .proc i (.send place) =>
    s.procs[i]?.bind fun c => (C.request c.1).map fun p => .proc place (.inr p)
  | .proc _ _ => none

/-- What the event is to the service is admitted there. -/
def Seen (C : Caller κ π ρ ι) (ok : Pool σ (Option π) → Event (ε ⊕ π) η → Prop)
    (s : Pool (Pool σ (Option π)) (κ × Option Nat)) (ev : Event (CallerIn ι) (Event (ε ⊕ π) η)) :
    Prop :=
  ∀ e ∈ seen C s ev, ok s.shared e

instance (C : Caller κ π ρ ι) (ok : Pool σ (Option π) → Event (ε ⊕ π) η → Prop)
    [∀ n e, Decidable (ok n e)]
    (s : Pool (Pool σ (Option π)) (κ × Option Nat)) (ev : Event (CallerIn ι) (Event (ε ⊕ π) η)) :
    Decidable (Seen C ok s ev) := inferInstanceAs (Decidable (∀ e ∈ seen C s ev, ok s.shared e))

/-- Calls keep their kind, and an answer is the end of a call. -/
structure Answers (S : Spec σ π ε η) (answer : π → Option ρ) (kind : π → τ) : Prop where
  kind : ∀ sh i p e sh' p', S.act sh i p e = some (sh', p') → kind p' = kind p
  last : ∀ sh i p e a, answer p = some a → S.act sh i p e = none

/-- The call a caller waits for is there, and of the kind it sent. -/
def Awaits (C : Caller κ π ρ ι) (kind : π → τ) (n : Pool σ (Option π))
    (c : κ × Option Nat) : Prop :=
  ∀ place, c.2 = some place → ∃ p q, n.procs[place]? = some (some p) ∧ C.request c.1 = some q ∧
    kind p = kind q

section
variable {S : Spec σ π ε η} {answer : π → Option ρ} {C : Caller κ π ρ ι} {kind : π → τ}
  {n n' : Pool σ (Option π)} {s s' : Pool (Pool σ (Option π)) (κ × Option Nat)}
  {c c' : κ × Option Nat} {i place : Nat} {p : π} {ok : Pool σ (Option π) → Event (ε ⊕ π) η → Prop}
  {init : Pool (Pool σ (Option π)) (κ × Option Nat) → Prop} {init' : Pool σ (Option π) → Prop}

theorem step_birth (hn : n.procs[place]? = some none) :
    step S.births n (.proc place (.inr p)) = some ⟨n.shared, n.procs.set place (some p)⟩ := by
  rw [step, hn]
  rfl

theorem act_callers {e : CallerIn ι} (h : (S.callers answer C).act n i c e = some (n', c')) :
    CallerMove answer C n c n' c' := by
  obtain ⟨q, o⟩ := c
  cases e with
  | send place =>
    cases o with
    | some _ => cases h
    | none =>
      simp only [Spec.callers, Option.bind_eq_some_iff, Option.map_eq_some_iff, Prod.mk.injEq] at h
      obtain ⟨p, hp, m, hst, rfl, rfl⟩ := h
      obtain ⟨o, sh, o', ho, ha, rfl⟩ := step_proc hst
      cases o with
      | some _ => cases ha
      | none =>
        cases ha
        exact .send hp ho
  | receive =>
    cases o with
    | none => cases h
    | some place =>
      simp only [Spec.callers, Option.map_eq_some_iff, Option.bind_eq_some_iff, Prod.mk.injEq] at h
      obtain ⟨a, ⟨p, ⟨o, ho, hop⟩, ha⟩, rfl, rfl⟩ := h
      obtain rfl : o = some p := hop
      exact .receive ho ha
  | own e =>
    simp only [Spec.callers, Option.map_eq_some_iff, Prod.mk.injEq] at h
    obtain ⟨q', hq, rfl, rfl⟩ := h
    exact .own e hq

/-! ## The service in a run of its callers -/

/-- A step of the callers is one of the service or none. -/
theorem step_of_callers {ev : Event (CallerIn ι) (Event (ε ⊕ π) η)}
    (h : step (S.callers answer C) s ev = some s') :
    (∃ e ∈ seen C s ev, step S.births s.shared e = some s'.shared) ∨ s'.shared = s.shared := by
  cases ev with
  | env e =>
    obtain ⟨n, he, rfl⟩ := step_env h
    exact .inl ⟨e, rfl, he⟩
  | proc i e =>
    obtain ⟨⟨q, o⟩, n, c', hc, ha, rfl⟩ := step_proc h
    cases e with
    | send place =>
      cases o with
      | some _ => cases ha
      | none =>
        simp only [Spec.callers, Option.bind_eq_some_iff, Option.map_eq_some_iff,
          Prod.mk.injEq] at ha
        obtain ⟨p, hp, m, hst, rfl, -⟩ := ha
        exact .inl ⟨.proc place (.inr p), by simp [seen, hc, hp], hst⟩
    | receive =>
      cases o with
      | none => cases ha
      | some place =>
        simp only [Spec.callers, Option.map_eq_some_iff, Prod.mk.injEq] at ha
        obtain ⟨a, -, rfl, -⟩ := ha
        exact .inr rfl
    | own e =>
      simp only [Spec.callers, Option.map_eq_some_iff, Prod.mk.injEq] at ha
      obtain ⟨q', -, rfl, -⟩ := ha
      exact .inr rfl

/-- **A run of the callers is a run of the service.** -/
theorem run_of_callers (h : (system (S.callers answer C) init).Run (Seen C ok) s s') :
    (system S.births init').Run ok s.shared s'.shared := by
  refine h.keep (P := fun t => (system S.births init').Run ok s.shared t.shared)
    (fun t ev t' hr ho hst => ?_) (.refl _)
  rcases step_of_callers hst with ⟨e, he, hst'⟩ | heq
  · exact hr.snoc (ho e he) hst'
  · rw [heq]
    exact hr

/-! ## Places -/

/-- A call stays in its place, of its kind, and as it is once it has an answer. -/
theorem Answers.step (A : Answers S answer kind) {ev : Event (ε ⊕ π) η}
    (hn : n.procs[place]? = some (some p)) (h : Pool.step S.births n ev = some n') :
    ∃ p', n'.procs[place]? = some (some p') ∧ kind p' = kind p ∧
      ∀ a, answer p = some a → p' = p := by
  cases ev with
  | env e =>
    obtain ⟨sh, -, rfl⟩ := step_env h
    exact ⟨p, hn, rfl, fun _ _ => rfl⟩
  | proc i e =>
    obtain ⟨o, sh, o', ho, ha, rfl⟩ := step_proc h
    by_cases hi : i = place
    · subst hi
      obtain rfl : o = some p := Option.some.inj (ho.symm.trans hn)
      cases e with
      | inr q => cases ha
      | inl e =>
        simp only [Spec.births, Option.map_eq_some_iff, Prod.mk.injEq] at ha
        obtain ⟨⟨sh₁, p'⟩, ha, rfl, rfl⟩ := ha
        refine ⟨p', getElem?_set_self_of hn, A.kind _ _ _ _ _ _ ha, fun a hans => ?_⟩
        rw [A.last _ _ _ _ _ hans] at ha
        cases ha
    · exact ⟨p, (List.getElem?_set_ne hi).trans hn, rfl, fun _ _ => rfl⟩

/-- Another call that comes to be is in another place. -/
theorem getElem?_birth {q : π} {place' : Nat} (hn : n.procs[place]? = some (some p))
    (hb : n.procs[place']? = some none) : (n.procs.set place' (some q))[place]? =
      some (some p) := by
  refine (List.getElem?_set_ne fun heq => ?_).trans hn
  rw [heq, hn] at hb
  cases hb

theorem CallerMove.stays (hm : CallerMove answer C n c n' c')
    (hn : n.procs[place]? = some (some p)) : n'.procs[place]? = some (some p) := by
  cases hm with
  | send hp hb => exact getElem?_birth hn hb
  | receive _ _ | own _ _ => exact hn

theorem Awaits.step (A : Answers S answer kind) {ev : Event (ε ⊕ π) η} (h : Awaits C kind n c)
    (hst : Pool.step S.births n ev = some n') : Awaits C kind n' c := by
  intro place hc
  obtain ⟨p, q, hn, hq, hk⟩ := h place hc
  obtain ⟨p', hn', hk', -⟩ := A.step hn hst
  exact ⟨p', q, hn', hq, hk'.trans hk⟩

theorem awaitsOutline (A : Answers S answer kind) :
    Outline (S.callers answer C) LTS.always (fun _ => True) (fun n _ c => Awaits C kind n c) where
  env s e n h _ he := ⟨trivial, fun i c hc => (h.2 i c hc).step A he⟩
  own s i c e n c' h _ hc ha := by
    refine ⟨trivial, ?_⟩
    cases act_callers ha with
    | send hp hn =>
      intro place hplace
      cases hplace
      exact ⟨_, _, getElem?_set_self_of hn, hp, rfl⟩
    | receive _ _ | own _ _ => exact fun place hplace => nomatch hplace
  other s i c e n c' j d h _ hc ha hji hd := by
    intro place hplace
    obtain ⟨p, q, hn, hq, hk⟩ := h.2 j d hd place hplace
    exact ⟨p, q, (act_callers ha).stays hn, hq, hk⟩

/-- **A caller waits for what it sent.** -/
theorem awaits_reach
    {okC : Pool (Pool σ (Option π)) (κ × Option Nat) → Event (CallerIn ι) (Event (ε ⊕ π) η) → Prop}
    (A : Answers S answer kind) (hinit : ∀ s, init s → ∀ c ∈ s.procs, c.2 = none)
    (h : (system (S.callers answer C) init).Reach okC s) (hc : s.procs[i]? = some c) :
    Awaits C kind s.shared c := by
  refine (Pool.invariant (awaitsOutline A) (fun s hi => ⟨trivial, fun i c hc => ?_⟩) h.reachable).2
    i c hc
  intro place hplace
  rw [hinit s hi c (List.mem_of_getElem? hc)] at hplace
  cases hplace

/-! ## A call served at once -/

/-- What a call does alone, it does among the other calls. -/
theorem Solo.births {x z : σ × π} (h : Solo S place x z) (hn : n.procs[place]? = some (some x.2))
    (hs : n.shared = x.1) : (system S.births init').Run LTS.always n
      ⟨z.1, n.procs.set place (some z.2)⟩ := by
  have hlift : Solo S.births place (x.1, some x.2) (z.1, some z.2) := by
    induction h with
    | refl => exact .refl _
    | @tail y z _ hyz ih =>
      rcases hyz with ⟨e, he, hz⟩ | ⟨e, ha⟩
      · rw [hz]
        exact ih.env e he
      · refine ih.act (.inl e) ?_
        show (S.act y.1 place y.2 e).map _ = _
        rw [ha]
        rfl
  exact hlift.run hn hs

/-- A call of another client comes, and runs alone. -/
theorem run_alone {sh' : σ} {p' : π} (hn : n.procs[place]? = some none)
    (h : Solo S place (n.shared, p) (sh', p')) :
    (system S.births init').Run LTS.always n ⟨sh', n.procs.set place (some p')⟩ := by
  have hrun : (system S.births init').Run LTS.always ⟨n.shared, n.procs.set place (some p)⟩
      ⟨sh', (n.procs.set place (some p)).set place (some p')⟩ :=
        h.births (getElem?_set_self_of hn) rfl
  rw [List.set_set] at hrun
  exact ((LTS.Run.refl n).snoc (e := .proc place (.inr p)) trivial (step_birth hn)).trans hrun

/-- What the service does, it does beside its callers. -/
theorem run_beside (procs : List (κ × Option Nat))
    (h : (system S.births init').Run LTS.always n n') :
    (system (S.callers answer C) init).Run LTS.always ⟨n, procs⟩ ⟨n', procs⟩ := by
  refine h.keep (P := fun m => (system (S.callers answer C) init).Run LTS.always ⟨n,
    procs⟩ ⟨m, procs⟩)
    (fun m e m' hr _ hst => hr.snoc (e := .env e) trivial ?_) (.refl _)
  show (step S.births m e).map _ = _
  have hst' : step S.births m e = some m' := hst
  rw [hst']
  rfl

theorem act_send {q : κ} (hp : C.request q = some p) (hn : n.procs[place]? = some none) :
    (S.callers answer C).act n i (q, none) (.send place) =
      some (⟨n.shared, n.procs.set place (some p)⟩, (q, some place)) := by
  simp [Spec.callers, hp, step_birth hn]

theorem act_receive {q : κ} {a : ρ} (hn : n.procs[place]? = some (some p))
    (ha : answer p = some a) :
    (S.callers answer C).act n i (q, some place) .receive = some (n, (C.resume q a, none)) := by
  simp [Spec.callers, hn, ha]

theorem step_of_act {e : CallerIn ι} (hc : s.procs[i]? = some c)
    (ha : (S.callers answer C).act s.shared i c e = some (n, c')) :
    step (S.callers answer C) s (.proc i e) = some ⟨n, s.procs.set i c'⟩ := by
  rw [step, hc, Option.bind_some, ha]
  rfl

theorem act_own {q q' : κ} {o : Option Nat} {e : ι} (hq : C.own q e = some q') :
    (S.callers answer C).act n i (q, o) (.own e) = some (n, (q', none)) := by
  simp [Spec.callers, hq]

section
variable {q q' : κ} {sh' : σ} {p' : π} {a : ρ} {e : ι}

/-- A call is sent, and runs alone. -/
theorem run_sent (hc : s.procs[i]? = some (q, none)) (hp : C.request q = some p)
    (hn : s.shared.procs[place]? = some none) (h : Solo S place (s.shared.shared, p) (sh', p')) :
    (system (S.callers answer C) init).Run LTS.always s
      ⟨⟨sh', s.shared.procs.set place (some p')⟩, s.procs.set i (q, some place)⟩ := by
  have hsent : (s.shared.procs.set place (some p))[place]? = some (some p) :=
    getElem?_set_self_of hn
  have hsend : step (S.callers answer C) s (.proc i (.send place)) =
      some ⟨⟨s.shared.shared, s.shared.procs.set place (some p)⟩, s.procs.set i (q, some place)⟩ :=
    step_of_act hc (act_send hp hn)
  have hrun : (system S.births fun _ => True).Run LTS.always
      ⟨s.shared.shared, s.shared.procs.set place (some p)⟩
      ⟨sh', (s.shared.procs.set place (some p)).set place (some p')⟩ := h.births hsent rfl
  rw [List.set_set] at hrun
  exact ((LTS.Run.refl s).snoc (e := .proc i (.send place)) trivial hsend).trans (run_beside _ hrun)

/-- **A call served at once**: it is sent, runs alone to its answer, and is heard. -/
theorem run_served (hc : s.procs[i]? = some (q, none)) (hp : C.request q = some p)
    (hn : s.shared.procs[place]? = some none) (h : Solo S place (s.shared.shared, p) (sh', p'))
    (ha : answer p' = some a) : (system (S.callers answer C) init).Run LTS.always s
      ⟨⟨sh', s.shared.procs.set place (some p')⟩, s.procs.set i (C.resume q a, none)⟩ := by
  have hhear : step (S.callers answer C)
      ⟨⟨sh', s.shared.procs.set place (some p')⟩, s.procs.set i (q, some place)⟩
        (.proc i .receive) = some ⟨⟨sh', s.shared.procs.set place (some p')⟩,
        (s.procs.set i (q, some place)).set i (C.resume q a, none)⟩ :=
    step_of_act (getElem?_set_self_of hc) (act_receive (getElem?_set_self_of hn) ha)
  rw [List.set_set] at hhear
  exact (run_sent hc hp hn h).snoc (e := .proc i .receive) trivial hhear

/-- And one that is given up when it has run. -/
theorem run_unheard (hc : s.procs[i]? = some (q, none)) (hp : C.request q = some p)
    (hn : s.shared.procs[place]? = some none) (h : Solo S place (s.shared.shared, p) (sh', p'))
    (hq : C.own q e = some q') : (system (S.callers answer C) init).Run LTS.always s
      ⟨⟨sh', s.shared.procs.set place (some p')⟩, s.procs.set i (q', none)⟩ := by
  have hown : step (S.callers answer C)
      ⟨⟨sh', s.shared.procs.set place (some p')⟩, s.procs.set i (q, some place)⟩
        (.proc i (.own e)) = some ⟨⟨sh', s.shared.procs.set place (some p')⟩,
        (s.procs.set i (q, some place)).set i (q', none)⟩ :=
    step_of_act (getElem?_set_self_of hc) (act_own hq)
  rw [List.set_set] at hown
  exact (run_sent hc hp hn h).snoc (e := .proc i (.own e)) trivial hown

end

end

end Pool
