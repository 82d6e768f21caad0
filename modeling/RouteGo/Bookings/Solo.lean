import RouteGo.Bookings.Concurrent

/-!
# Uninterrupted calls of `BookingService`

A call that no other call interrupts ends as the method of the same name does:
`createHold`, `confirmBooking` and `releaseBooking` are the machine run alone,
with the time that passes between its steps.
-/

namespace RouteGo.Bookings

/-! ## Confirmation and release -/

section
variable {env : Env} {T : Tokens} {i : Nat}

theorem solo_confirmBooking (sh : Shared) (id : String) :
    Pool.Solo (service env T) i (sh, .confirmBooking id .start)
      ({ sh with bookings := (confirmBooking sh.bookings sh.clock id).2 },
        .confirmBooking id (.done (confirmBooking sh.bookings sh.clock id).1)) := by
  have h0 : Pool.Solo (service env T) i (sh, .confirmBooking id .start)
      (sh, .confirmBooking id .start) := .refl _
  unfold confirmBooking
  split
  · next hid => exact h0.act {} (by simp [service, callStep, confirmStep, hid])
  · next hid =>
    split
    · next hf => exact h0.act {} (by simp [service, callStep, confirmStep, hid, hf])
    · next b hf =>
      have h1 : Pool.Solo (service env T) i (sh, .confirmBooking id .start)
          (sh, .confirmBooking id (.found b)) :=
        h0.act {} (by simp [service, callStep, confirmStep, hid, hf])
      split
      · next hs => exact h1.act {} (by simp [service, callStep, confirmStep, hs])
      · next hs =>
        have hs' : b.status = .PENDING := not_not.mp hs
        split
        · next hx =>
          have h2 : Pool.Solo (service env T) i (sh, .confirmBooking id .start)
              (sh, .confirmBooking id .expiring) :=
            h1.act {} (by simp [service, callStep, confirmStep, hs', hx])
          rw [updateStatus_of_find .EXPIRED hf]
          exact h2.act {} (by
            simp [service, callStep, confirmStep, writeStatus, updateStatus_of_find .EXPIRED hf])
        · next hx =>
          have h2 : Pool.Solo (service env T) i (sh, .confirmBooking id .start)
              (sh, .confirmBooking id .confirming) :=
            h1.act {} (by simp [service, callStep, confirmStep, hs', hx])
          exact h2.act {} (by simp [service, callStep, confirmStep, writeStatus])

theorem solo_releaseBooking (sh : Shared) (id reason : String) :
    ∃ sh', Pool.Solo (service env T) i (sh, .releaseBooking id reason .start)
      (sh', .releaseBooking id reason (.done (releaseBooking sh.bookings id reason).1)) ∧
      sh'.bookings = (releaseBooking sh.bookings id reason).2 ∧ sh'.locks = sh.locks ∧
      sh'.clock = sh.clock := by
  have h0 : Pool.Solo (service env T) i (sh, .releaseBooking id reason .start)
      (sh, .releaseBooking id reason .start) := .refl _
  unfold releaseBooking
  split
  · next hid =>
    exact ⟨sh, h0.act {} (by simp [service, callStep, releaseStep, hid]), rfl, rfl, rfl⟩
  · next hid =>
    split
    · next ht =>
      exact ⟨sh, h0.act {} (by simp [service, callStep, releaseStep, hid, ht]), rfl, rfl, rfl⟩
    · next target ht =>
      split
      · next hf =>
        exact ⟨sh, h0.act {} (by simp [service, callStep, releaseStep, hid, ht, hf]), rfl, rfl, rfl⟩
      · next b hf =>
        have h1 : Pool.Solo (service env T) i (sh, .releaseBooking id reason .start)
            (sh, .releaseBooking id reason (.writing target)) :=
          h0.act {} (by simp [service, callStep, releaseStep, hid, ht, hf])
        rw [updateStatus_of_find target hf]
        exact ⟨{ sh with bookings := setStatus sh.bookings id target, released := id ::
          sh.released }, h1.act {} (by
            simp [service, callStep, releaseStep, writeStatus, updateStatus_of_find target hf]),
          rfl, rfl, rfl⟩

/-! ## Holds -/

section
variable {a : HoldArgs} {sh₀ sh sh' : Shared} {p₀ : Call} {pc pc' : HoldPc}

theorem Solo.hold (h : Pool.Solo (service env T) i (sh₀, p₀) (sh, .createHold a pc)) (e : StepIn)
    (hs : holdStep env T sh i a e pc = some (sh', pc')) :
    Pool.Solo (service env T) i (sh₀, p₀) (sh', .createHold a pc') :=
  h.act e (by simp [service, callStep, hs])

/-- Time passes between two steps. -/
theorem Solo.wait (h : Pool.Solo (service env T) i (sh₀, p₀) (sh, .createHold a pc)) (d : Nat) :
    Pool.Solo (service env T) i (sh₀, p₀) ({ sh with clock := sh.clock + d }, .createHold a pc) :=
  h.env d rfl

/-- The insert. -/
theorem solo_inserting (x : HoldInputs) (l : Held) (now : Int) (sh : Shared) :
    ∃ sh' res, Pool.Solo (service env T) i (sh, .createHold a (.inserting l now x.tStamp))
        (sh', .createHold a (.releasing l res)) ∧
      (res, sh'.bookings) = (if x.createFails then (.error prismaError, sh.bookings)
        else match createBooking env.ids sh.bookings x.id (holdData env a x.tStamp) with
          | .error e => (.error e, sh.bookings)
          | .ok (row, bookings') => (.ok row, bookings')) ∧
      sh'.locks = sh.locks ∧ sh'.clock = sh.clock := by
  have h0 : Pool.Solo (service env T) i (sh, .createHold a (.inserting l now x.tStamp))
      (sh, .createHold a (.inserting l now x.tStamp)) := .refl _
  split
  · exact ⟨sh, _, Solo.hold h0 { fault := true } (by simp [holdStep]), rfl, rfl, rfl⟩
  · split
    · next err hc =>
      exact ⟨sh, _, Solo.hold h0 { rowId := x.id } (by simp [holdStep, hc]), rfl, rfl, rfl⟩
    · next row bookings' hc =>
      exact ⟨{ sh with
          bookings := bookings'
          writes := sh.writes ++ [⟨i, a, x.id, l, now, x.tStamp, sh.clock, row, none⟩] }, _,
        Solo.hold h0 { rowId := x.id } (by simp [holdStep, hc]), rfl, rfl, rfl⟩

/-- The `try` block. -/
theorem solo_holdInLock (x : HoldInputs) (l : Held) (sh : Shared) (query stamp : Nat)
    (hq : x.tQuery = sh.clock + query) (ht : x.tStamp = sh.clock + query + stamp) :
    ∃ sh' res, Pool.Solo (service env T) i (sh, .createHold a (.locked l))
        (sh', .createHold a (.releasing l res)) ∧
      (res, sh'.bookings) = holdInLock env x sh.bookings a ∧
      sh'.locks = sh.locks ∧ sh'.clock = x.tStamp := by
  have h1 : Pool.Solo (service env T) i (sh, .createHold a (.locked l))
      ({ sh with clock := x.tQuery }, .createHold a (.locked l)) := by
    rw [hq]; exact Solo.wait (.refl _) query
  -- a call that goes no further still waits for the instant of its write
  have stop : ∀ res, Pool.Solo (service env T) i (sh, .createHold a (.locked l))
        ({ sh with clock := x.tQuery }, .createHold a (.releasing l res)) →
      Pool.Solo (service env T) i (sh, .createHold a (.locked l))
        ({ sh with clock := x.tStamp }, .createHold a (.releasing l res)) := fun res h => by
    rw [ht, ← hq]; exact Solo.wait h stamp
  unfold holdInLock
  cases hv : validateSegment a.tripId a.seatId a.fromSeq a.toSeq with
  | error err =>
    have hk : ∀ find, checkAvailability a.tripId a.seatId a.fromSeq a.toSeq find = .error err := by
      intro find; simp [checkAvailability, hv, bind, Except.bind]
    rw [hk]
    exact ⟨_, _, stop _ (Solo.hold h1 {} (by simp [holdStep, hv])), rfl, rfl, rfl⟩
  | ok seg =>
    have h2 : Pool.Solo (service env T) i (sh, .createHold a (.locked l))
        ({ sh with clock := x.tQuery }, .createHold a (.querying l x.tQuery)) :=
      Solo.hold h1 {} (by simp [holdStep, hv])
    cases hk : checkAvailability a.tripId a.seatId a.fromSeq a.toSeq
        (findActive env sh.bookings a x.tQuery x.findFails) with
    | error err =>
      exact ⟨_, _, stop _ (Solo.hold h2 { fault := x.findFails }
        (by simp [holdStep, HoldArgs.available, hk])), rfl, rfl, rfl⟩
    | ok isAvailable =>
      cases isAvailable with
      | false =>
        exact ⟨_, _, stop _ (Solo.hold h2 { fault := x.findFails }
          (by simp [holdStep, HoldArgs.available, hk])), rfl, rfl, rfl⟩
      | true =>
        have h3 : Pool.Solo (service env T) i (sh, .createHold a (.locked l))
            ({ sh with clock := x.tQuery }, .createHold a (.available l x.tQuery)) :=
          Solo.hold h2 { fault := x.findFails } (by simp [holdStep, HoldArgs.available, hk])
        have h4 : Pool.Solo (service env T) i (sh, .createHold a (.locked l))
            ({ sh with clock := x.tStamp }, .createHold a (.available l x.tQuery)) := by
          rw [ht, ← hq]; exact Solo.wait h3 stamp
        have h5 : Pool.Solo (service env T) i (sh, .createHold a (.locked l))
            ({ sh with clock := x.tStamp }, .createHold a (.inserting l x.tQuery x.tStamp)) :=
          Solo.hold h4 {} (by simp [holdStep])
        obtain ⟨sh', res, h6, hr, hl, hc⟩ :=
          solo_inserting (a := a) x l x.tQuery { sh with clock := x.tStamp }
        exact ⟨sh', res, h5.trans h6, hr, hl, hc⟩

/-- A hold, with the time that passes before each of its clock readings. -/
theorem solo_createHold (sh : Shared) (a : HoldArgs) (id : String) (d : HoldDelays)
    (f : HoldFaults) :
    ∃ sh' res, Pool.Solo (service env T) i (sh, .createHold a .start)
      (sh', .createHold a (.done res)) ∧ (res, ⟨sh'.bookings, sh'.locks⟩) =
        createHold env (holdInputs sh.clock id (T.gen i) d f) ⟨sh.bookings, sh.locks⟩ a ∧
      sh'.clock = (holdInputs sh.clock id (T.gen i) d f).tRelease := by
  have h1 : Pool.Solo (service env T) i (sh, .createHold a .start)
      ({ sh with clock := sh.clock + d.acquire }, .createHold a .start) :=
        Solo.wait (.refl _) d.acquire
  have stop : ∀ res, holdStep env T { sh with clock := sh.clock + d.acquire } i a {} .start =
        some ({ sh with clock := sh.clock + d.acquire }, .done res) →
      Pool.Solo (service env T) i (sh, .createHold a .start)
        ({ sh with clock := sh.clock + d.acquire + d.query + d.stamp + d.release },
          .createHold a (.done res)) := fun res hs =>
    Solo.wait (Solo.wait (Solo.wait (Solo.hold h1 {} hs) d.query) d.stamp) d.release
  unfold createHold
  split
  · next hu => exact ⟨_, _, stop _ (by simp [holdStep, hu]), rfl, rfl⟩
  · next hu =>
    split
    · next err hl =>
      have hl' : acquireLock sh.locks a.lockKey (T.gen i) (lockTtlMs env) (sh.clock + d.acquire) =
        .error err := hl
      exact ⟨_, _, stop _ (by simp [holdStep, hu, hl']), rfl, rfl⟩
    · next locks hl =>
      have hl' : acquireLock sh.locks a.lockKey (T.gen i) (lockTtlMs env) (sh.clock + d.acquire) =
        .ok (none, locks) := hl
      exact ⟨_, _, stop _ (by simp [holdStep, hu, hl']), rfl, rfl⟩
    · next lockValue locks hl =>
      have hl' : acquireLock sh.locks a.lockKey (T.gen i) (lockTtlMs env) (sh.clock + d.acquire) =
        .ok (some lockValue, locks) := hl
      have h2 : Pool.Solo (service env T) i (sh, .createHold a .start)
          ({ sh with clock := sh.clock + d.acquire, locks := locks },
            .createHold a (.locked ⟨lockValue, sh.clock + d.acquire⟩)) :=
        Solo.hold h1 {} (by simp [holdStep, hu, hl'])
      obtain ⟨sh₁, res, h3, hr, hlocks, hclock⟩ := @solo_holdInLock env T i a
        (holdInputs sh.clock id (T.gen i) d f) ⟨lockValue, sh.clock + d.acquire⟩
        { sh with clock := sh.clock + d.acquire, locks := locks } d.query d.stamp rfl rfl
      have h4 := Solo.wait (h2.trans h3) d.release
      refine ⟨_, res, Solo.hold h4 { fault := f.release } rfl, ?_, ?_⟩
      · obtain ⟨rfl, hb⟩ := Prod.mk.inj hr
        refine Prod.ext rfl ?_
        simp only [hb, hlocks, hclock]
        rfl
      · simp only [hclock]; rfl

end

/-! ## In a run -/

section
variable {init : Pool Shared Call → Prop} {s : Pool Shared Call}

/-- **`createHold` is a call of the machine that nothing interrupts.** -/
theorem createHold_uninterrupted {a : HoldArgs} (hp : s.procs[i]? = some (.createHold a .start))
    (id : String) (d : HoldDelays) (f : HoldFaults) :
    ∃ sh res, (Pool.system (service env T) init).Run LTS.always s
        ⟨sh, s.procs.set i (.createHold a (.done res))⟩ ∧
      (res, ⟨sh.bookings, sh.locks⟩) = createHold env (holdInputs s.shared.clock id (T.gen i) d f)
        ⟨s.shared.bookings, s.shared.locks⟩ a ∧
      sh.clock = (holdInputs s.shared.clock id (T.gen i) d f).tRelease := by
  obtain ⟨sh, res, h, hr⟩ := @solo_createHold env T i s.shared a id d f
  exact ⟨sh, res, h.run hp rfl, hr⟩

/-- **`confirmBooking` likewise.** -/
theorem confirmBooking_uninterrupted {id : String}
    (hp : s.procs[i]? = some (.confirmBooking id .start)) :
    (Pool.system (service env T) init).Run LTS.always s
      ⟨{ s.shared with bookings := (confirmBooking s.shared.bookings s.shared.clock id).2 },
        s.procs.set i (.confirmBooking id
          (.done (confirmBooking s.shared.bookings s.shared.clock id).1))⟩ :=
  (solo_confirmBooking s.shared id).run hp rfl

/-- **`releaseBooking` likewise.** -/
theorem releaseBooking_uninterrupted {id reason : String}
    (hp : s.procs[i]? = some (.releaseBooking id reason .start)) :
    ∃ sh, (Pool.system (service env T) init).Run LTS.always s
        ⟨sh, s.procs.set i (.releaseBooking id reason
          (.done (releaseBooking s.shared.bookings id reason).1))⟩ ∧
      sh.bookings = (releaseBooking s.shared.bookings id reason).2 ∧
      sh.locks = s.shared.locks ∧ sh.clock = s.shared.clock := by
  obtain ⟨sh, h, hr⟩ := @solo_releaseBooking env T i s.shared id reason
  exact ⟨sh, h.run hp rfl, hr⟩

end

end

end RouteGo.Bookings
