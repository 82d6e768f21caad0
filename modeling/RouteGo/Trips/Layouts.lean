import RouteGo.Lib.Atomic
import RouteGo.Lib.OrderBy
import RouteGo.Routes.Stops
import RouteGo.Trips.BusService
import RouteGo.Trips.TripService

/-!
# Layouts, written and read

`createBus` and `createTrip` as one service over one store, and the reads
`getBusLayout`, `getTripWithLayout` and `getTripSeats`, each of whose queries may see
a later store. The service is as good as calls one after another
(`tripService_linearizable`), and a trip is read with the layout its bus was created
with, whatever runs in between and however the rows are stored (`layout_of_trip`).
-/

namespace RouteGo.Trips

open Js
open Routes (AsksFor)

/-- The calls that write. -/
def tripService (other : String → Option Int) :
    CheckInsert TripStore (CreateBusDto ⊕ CreateTripDto) (BusLayout ⊕ TripData) (NewIds ⊕ String)
      (BusWithSeats ⊕ Trip) AppError :=
  createBus.sum (createTrip other)

abbrev ServiceCall :=
  CheckInsert.Call (CreateBusDto ⊕ CreateTripDto) (BusLayout ⊕ TripData)
    (BusWithSeats ⊕ Trip) AppError

/-! ## Reads -/

/-- The rows of `Seat` in the order the database comes upon them. -/
structure SeatScan (store : TripStore) where
  rows : List Seat
  perm : rows.Perm store.seats.rows

/-- `orderBy: { seatNumber: "asc" }` -/
def SeatScan.seatsOf {store : TripStore} (scan : SeatScan store) (C : Collation String)
    (busId : String) : List Seat :=
  C.orderBy Seat.seatNumber (scan.rows.filter fun s => s.busId = busId)

/-- The bus is read from `store`, its seats from what the store has become by then. -/
def findBusWithSeats (C : Collation String) (store : TripStore) {later : TripStore}
    (scan : SeatScan later) (id : String) : Result (Option BusWithSeats) :=
  match findBusById store id with
  | .error e => .error e
  | .ok none => .ok none
  | .ok (some bus) => .ok (some ⟨bus, scan.seatsOf C bus.id⟩)

/-- One query for the trip, one for its bus, one for the seats; Prisma throws when
the bus it must find is not there. -/
def findTripWithBusAndSeats (C : Collation String) (store store' : TripStore) {later : TripStore}
    (scan : SeatScan later) (id : String) : Result (Option TripWithBusAndSeats) :=
  match Uuid.read id with
  | none => .error prismaError
  | some v =>
    match store.trips.find (Uuid.text v) with
    | none => .ok none
    | some trip =>
      match store'.buses.find trip.busId with
      | none => .error prismaError
      | some bus => .ok (some ⟨trip, ⟨bus, scan.seatsOf C bus.id⟩⟩)

def layoutIdRequired : AppError := .ValidationError "Bus ID is required"

def layoutNotFound : AppError := .NotFoundError "Bus not found"

def tripIdRequired : AppError := .ValidationError "Trip ID is required"

def tripNotFound : AppError := .NotFoundError "Trip not found"

def getBusLayout (C : Collation String) (store : TripStore) {later : TripStore}
    (scan : SeatScan later) (busId : Value) : Result BusWithSeats :=
  match busId.trimmed with
  | none => .error layoutIdRequired
  | some id =>
    match findBusWithSeats C store scan id with
    | .error e => .error e
    | .ok none => .error layoutNotFound
    | .ok (some bus) => .ok bus

def getTripWithLayout (C : Collation String) (store store' : TripStore) {later : TripStore}
    (scan : SeatScan later) (tripId : Value) : Result TripWithBusAndSeats :=
  match tripId.trimmed with
  | none => .error tripIdRequired
  | some id =>
    match findTripWithBusAndSeats C store store' scan id with
    | .error e => .error e
    | .ok none => .error tripNotFound
    | .ok (some trip) => .ok trip

def getTripSeats (C : Collation String) (store store' : TripStore) {later : TripStore}
    (scan : SeatScan later) (tripId : Value) : Result (List Seat) :=
  (getTripWithLayout C store store' scan tripId).map fun trip => trip.bus.seats

section
variable {C : Collation String} {store store' later : TripStore} {busId : String}

/-- A bus has no number twice, so its seats come in one order. -/
theorem seatsOf_scan (scan : SeatScan store) :
    scan.seatsOf C busId = C.orderBy Seat.seatNumber (store.seatsOf busId) :=
  Collation.orderBy_eq (scan.perm.filter _) (nodup_seatsOf store busId)

theorem getBusLayout_of_mem {bus : Bus} {request : Value} (hb : bus ∈ store.buses.rows)
    (hr : AsksFor request bus.id) (scan : SeatScan later) : getBusLayout C store scan request =
      .ok ⟨bus, C.orderBy Seat.seatNumber (later.seatsOf bus.id)⟩ := by
  obtain ⟨t, v, ht, hv, hid⟩ := hr
  have hfind : findBusById store t = .ok (some bus) := by
    rw [findBusById, hv]
    exact congrArg Except.ok (Table.find_eq_some.mpr ⟨hb, hid.symm⟩)
  simp only [getBusLayout, ht, findBusWithSeats, hfind, seatsOf_scan]

theorem getTripWithLayout_of_mem {trip : Trip} {bus : Bus} {request : Value}
    (ht : trip ∈ store.trips.rows) (hb : bus ∈ store'.buses.rows) (hid : bus.id = trip.busId)
    (hr : AsksFor request trip.id) (scan : SeatScan later) :
    getTripWithLayout C store store' scan request =
      .ok ⟨trip, ⟨bus, C.orderBy Seat.seatNumber (later.seatsOf bus.id)⟩⟩ := by
  obtain ⟨t, v, htrim, hv, htext⟩ := hr
  have htrip : store.trips.find (Uuid.text v) = some trip := Table.find_eq_some.mpr ⟨ht, htext.symm⟩
  have hbus : store'.buses.find trip.busId = some bus := Table.find_eq_some.mpr ⟨hb, hid⟩
  simp only [getTripWithLayout, htrim, findTripWithBusAndSeats, hv, htrip, hbus, seatsOf_scan]

end

/-! ## What the calls have stored -/

/-- The number of a seat and what kind it is. -/
def Seat.spot (s : Seat) : String × SeatType := (s.seatNumber, s.seatType)

def CreateSeatDto.spot (s : CreateSeatDto) : String × SeatType := (s.seatNumber, s.seatType)

/-- The bus and its seats are those of the request. -/
structure Describes (d : BusLayout) (a : BusWithSeats) : Prop where
  registrationNumber : a.bus.registrationNumber = d.busData.registrationNumber
  operatorName : a.bus.operatorName = d.busData.operatorName
  busType : a.bus.busType = d.busData.busType
  totalSeats : d.busData.totalSeats = .ofInt a.bus.totalSeats
  seats : a.seats.map Seat.spot = d.seats.map CreateSeatDto.spot

structure BusStored (store : TripStore) (dto : CreateBusDto) (a : BusWithSeats) : Prop where
  mem : a.bus ∈ store.buses.rows
  seats : store.seatsOf a.bus.id = a.seats
  data : ∃ d, validateBus dto = .ok d ∧ Describes d a

/-- The trip is that of the request. -/
structure Schedules (other : String → Option Int) (dto : CreateTripDto) (trip : Trip) : Prop where
  routeId : AsksFor dto.routeId trip.routeId
  busId : AsksFor dto.busId trip.busId
  departureDate : Date.ofValue other dto.departureDate = some trip.departureDate
  departureTime : dto.departureTime.trimmed = some trip.departureTime
  status : statusOrScheduled dto.status = some trip.status

structure TripStored (other : String → Option Int) (store : TripStore) (dto : CreateTripDto)
    (trip : Trip) : Prop where
  mem : trip ∈ store.trips.rows
  schedules : Schedules other dto trip

/-- What a call that has returned has stored. -/
def Kept (other : String → Option Int) (store : TripStore) :
    CreateBusDto ⊕ CreateTripDto → BusWithSeats ⊕ Trip → Prop
  | .inl dto, .inl a => BusStored store dto a
  | .inr dto, .inr trip => TripStored other store dto trip
  | _, _ => False

section
variable {other : String → Option Int} {store store' : TripStore} {dto : CreateBusDto}
  {tdto : CreateTripDto} {ids : NewIds} {id : String} {d : BusLayout} {td : TripData}
  {a a' : BusWithSeats} {trip trip' : Trip}

theorem map_spot_seatsFrom {busId : String} {ids : List String} {seats : List CreateSeatDto}
    (h : ids.length = seats.length) :
    (seatsFrom busId ids seats).map Seat.spot = seats.map CreateSeatDto.spot := by
  induction ids generalizing seats with
  | nil =>
    obtain rfl := List.length_eq_zero_iff.mp h.symm
    rfl
  | cons id ids ih =>
    cases seats with
    | nil => cases h
    | cons s seats =>
      simp only [seatsFrom, List.map_cons, ih (Nat.succ.inj h)]
      rfl

theorem describes_of_create (hd : d.Checked)
    (h : createBusWithSeats store ids d.busData d.seats = some (.ok (a, store'))) :
    Describes d a := by
  have htotal : d.busData.totalSeats = .ofInt a.bus.totalSeats := by
    have hn := (createBusWithSeats_ok h).total
    rw [hd.total] at hn ⊢
    rw [Number.eq_of_toInt4_ofInt hn]
  unfold createBusWithSeats at h
  split at h
  · cases h
  · next hl =>
    split at h
    · cases h
    · split at h
      · simp only at h
        split at h
        · cases h
          exact ⟨rfl, rfl, rfl, htotal, map_spot_seatsFrom (not_not.mp hl)⟩
        · cases h
      · cases h

theorem busStored_insert (hd : validateBus dto = .ok d)
    (h : createBus.insert store ids d = some (.ok (a, store'))) : BusStored store' dto a := by
  have hc : BusCreated store d.busData d.seats a store' := createBusWithSeats_ok h
  exact ⟨hc.mem_buses.mpr (.inr rfl), hc.seatsOf_self, d, hd,
    describes_of_create (checked_of_validateBus hd) h⟩

/-- Another bus takes no seat of this one. -/
theorem BusStored.insertBus (hs : BusStored store dto a)
    (h : createBus.insert store ids d = some (.ok (a', store'))) : BusStored store' dto a := by
  have hc : BusCreated store d.busData d.seats a' store' := createBusWithSeats_ok h
  exact ⟨hc.mem_buses.mpr (.inl hs.mem), (hc.seatsOf_ne (hc.ne_of_mem hs.mem)).trans hs.seats,
    hs.data⟩

/-- What a new trip is, and that nothing else is touched. -/
theorem createTripRow_stores (h : createTripRow store id td = some (.ok (trip, store'))) :
    store'.buses = store.buses ∧ store'.seats = store.seats ∧
      store'.trips.rows = store.trips.rows ++ [trip] ∧
      (∃ v, Uuid.read td.routeId = some v ∧ Uuid.text v = trip.routeId) ∧
      (∃ v, Uuid.read td.busId = some v ∧ Uuid.text v = trip.busId) ∧
      trip.departureDate = td.departureDate ∧ trip.departureTime = td.departureTime ∧
      statusOrScheduled td.status = some trip.status := by
  unfold createTripRow at h
  split at h
  · next v status hv hstatus =>
    split at h
    · next bus hb =>
      simp only at h
      split at h
      · next trips ht =>
        cases h
        refine ⟨rfl, rfl, Table.rows_of_insert ht, ⟨v, hv, rfl⟩, ?_, rfl, rfl, hstatus⟩
        unfold findBusById at hb
        split at hb
        · next w hw =>
          have hkey : bus.id = Uuid.text w := Table.key_of_find (Except.ok.inj hb)
          exact ⟨w, hw, hkey.symm⟩
        · cases hb
      · cases h
    · cases h
  · cases h

theorem validateTrip_data (h : validateTrip other tdto = .ok td) :
    tdto.routeId.trimmed = some td.routeId ∧ tdto.busId.trimmed = some td.busId ∧
      Date.ofValue other tdto.departureDate = some td.departureDate ∧
      tdto.departureTime.trimmed = some td.departureTime ∧ tdto.status = td.status := by
  unfold validateTrip at h
  split at h
  · cases h
  · next hr =>
    split at h
    · cases h
    · next hb =>
      split at h
      · cases h
      · split at h
        · cases h
        · next htime =>
          split at h
          · cases h
          · next hdate =>
            cases h
            exact ⟨hr, hb, hdate, htime, rfl⟩

theorem schedules_of_create (hd : validateTrip other tdto = .ok td)
    (h : createTripRow store id td = some (.ok (trip, store'))) : Schedules other tdto trip := by
  obtain ⟨hroute, hbus, hdate, htime, hstatus⟩ := validateTrip_data hd
  obtain ⟨-, -, -, ⟨v, hv, hvt⟩, ⟨w, hw, hwt⟩, hdate', htime', hstatus'⟩ := createTripRow_stores h
  exact {
    routeId := ⟨td.routeId, v, hroute, hv, hvt⟩
    busId := ⟨td.busId, w, hbus, hw, hwt⟩
    departureDate := by rw [hdate, hdate']
    departureTime := by rw [htime, htime']
    status := by rw [hstatus, hstatus'] }

theorem BusStored.insertTrip (hs : BusStored store dto a)
    (h : createTripRow store id td = some (.ok (trip, store'))) : BusStored store' dto a := by
  obtain ⟨hbuses, hseats, -⟩ := createTripRow_stores h
  refine ⟨by rw [hbuses]; exact hs.mem, ?_, hs.data⟩
  rw [← hs.seats, TripStore.seatsOf, TripStore.seatsOf, hseats]

theorem trips_of_createBus (h : createBus.insert store ids d = some (.ok (a, store'))) :
    store'.trips = store.trips := by
  unfold createBus createBusWithSeats at h
  simp only at h
  split at h
  · cases h
  · split at h
    · cases h
    · split at h
      · split at h
        · cases h; rfl
        · cases h
      · cases h

/-- An insert of either kind stores what it returns. -/
theorem kept_insert {q : CreateBusDto ⊕ CreateTripDto} {data : BusLayout ⊕ TripData}
    {newIds : NewIds ⊕ String} {r : BusWithSeats ⊕ Trip}
    (hq : (tripService other).check q = .ok data)
    (h : (tripService other).insert store newIds data = some (.ok (r, store'))) :
    Kept other store' q r := by
  rcases CheckInsert.insert_sum h with
    ⟨ids, d, a, rfl, rfl, rfl, hi⟩ | ⟨id, td, trip, rfl, rfl, rfl, hi⟩
  · cases q with
    | inl dto => exact busStored_insert (CheckInsert.check_sum_inl.mp hq) hi
    | inr tdto => exact absurd hq CheckInsert.not_check_sum_inr
  · cases q with
    | inl dto => exact absurd hq CheckInsert.not_check_sum_inl
    | inr tdto =>
      have hrow : createTripRow store id td = some (.ok (trip, store')) := hi
      obtain ⟨-, -, hrows, -⟩ := createTripRow_stores hrow
      refine ⟨?_, schedules_of_create (CheckInsert.check_sum_inr.mp hq) hrow⟩
      rw [hrows]
      exact List.mem_append_right _ (List.mem_singleton_self _)

/-- What was stored stays, whatever is inserted. -/
theorem Kept.insert {q : CreateBusDto ⊕ CreateTripDto} {data : BusLayout ⊕ TripData}
    {newIds : NewIds ⊕ String} {r r' : BusWithSeats ⊕ Trip} (hk : Kept other store q r)
    (h : (tripService other).insert store newIds data = some (.ok (r', store'))) :
    Kept other store' q r := by
  rcases CheckInsert.insert_sum h with
    ⟨ids, d, a', rfl, rfl, rfl, hi⟩ | ⟨id, td, trip', rfl, rfl, rfl, hi⟩
  · match q, r, hk with
    | .inl dto, .inl a, hs => exact hs.insertBus hi
    | .inr tdto, .inr trip, hs => exact ⟨by rw [trips_of_createBus hi]; exact hs.mem, hs.schedules⟩
  · have hrow : createTripRow store id td = some (.ok (trip', store')) := hi
    match q, r, hk with
    | .inl dto, .inl a, hs => exact hs.insertTrip hrow
    | .inr tdto, .inr trip, hs =>
      obtain ⟨-, -, hrows, -⟩ := createTripRow_stores hrow
      refine ⟨?_, hs.schedules⟩
      rw [hrows]
      exact List.mem_append_left _ hs.mem

end

/-! ## One after another -/

theorem createBus_backed : createBus.Backed := by
  intro store ids d a store' h
  by_contra ht
  obtain ⟨b, hb, hr⟩ := findByRegistrationNumber_isSome_iff.mp ((Bool.not_eq_false _).mp ht)
  have hc : BusCreated store d.busData d.seats a store' := createBusWithSeats_ok h
  have hdistinct := store'.registrations.eq (hc.mem_buses.mpr (.inl hb))
    (hc.mem_buses.mpr (.inr rfl)) (hr.trans hc.registration.symm)
  exact hc.ne_of_mem hb (congrArg Bus.id hdistinct)

theorem createTrip_backed (other : String → Option Int) : (createTrip other).Backed := by
  intro store id td trip store' h
  have hrow : createTripRow store id td = some (.ok (trip, store')) := h
  unfold createTripRow at hrow
  split at hrow
  · split at hrow
    · next bus hb =>
      show (createTrip other).taken store td = false
      simp only [createTrip, hb, Option.isNone_some]
    · cases hrow
  · cases hrow

/-- **The trip service is atomic.** However its calls interleave, those that were
answered can be run one after another, each in one step, with the same results and
the same store; what runs later is added at the end. -/
theorem tripService_linearizable {other : String → Option Int} {init : TripStore → Prop}
    {p₀ p p' : Pool TripStore ServiceCall}
    (hi : init p₀.shared ∧ ∀ c ∈ p₀.procs, c.pc = .start)
    (h : ((tripService other).calls init).Run LTS.always p₀ p)
    (h' : ((tripService other).calls init).Run LTS.always p p') :
    ∃ ws more, (tripService other).Serial p₀.shared p ws ∧
      (tripService other).Serial p₀.shared p' (ws ++ more) :=
  CheckInsert.serial_of_run (createBus_backed.sum (createTrip_backed other)) hi h h'

/-- A bus of two seats. -/
def kaveri : CreateBusDto :=
  ⟨.string " kl-07-ab-1 ", .string "Kaveri", .string "AC_SEATER", .ofInt 2,
    some [.object (.string "1B") (.string "WINDOW"), .object (.string " 1A") (.string "AISLE")]⟩

/-- Two requests for one bus and one for a trip on it. -/
def busAndTrip : Pool TripStore ServiceCall where
  shared := TripStore.empty
  procs := [⟨.inl kaveri, .start⟩,
    ⟨.inl { kaveri with registrationNumber := .string "KL-07-AB-1" }, .start⟩,
    ⟨.inr (tripOn "2026-09-20"), .start⟩]

abbrev ServiceEvent := Pool.Event (CheckInsert.StepIn (NewIds ⊕ String)) Empty

def busAndTripAfter (es : List ServiceEvent) : Pool TripStore ServiceCall :=
  (LTS.execAll (Pool.step (tripService noOther).spec) busAndTrip es).getD busAndTrip

/-- Both requests look the plate up before the first stores it; the second insert is
refused. -/
def plateRace : List ServiceEvent :=
  [.proc 0 ⟨.inr "", false⟩, .proc 1 ⟨.inr "", false⟩, .proc 0 ⟨.inl ⟨busId, ["s1", "s2"]⟩, false⟩,
    .proc 1 ⟨.inl ⟨routeId, ["s3", "s4"]⟩, false⟩]

def tripId : String := "6f1c0a52-9b3e-4d7f-8a21-0c5d6e7f8a9b"

def tripStored : List ServiceEvent := [.proc 2 ⟨.inr "", false⟩, .proc 2 ⟨.inr tripId, false⟩]

theorem busAndTrip_start : True ∧ ∀ c ∈ busAndTrip.procs, c.pc = .start := by
  refine ⟨trivial, fun c hc => ?_⟩
  simp only [busAndTrip, List.mem_cons, List.not_mem_nil, or_false] at hc
  rcases hc with rfl | rfl | rfl <;> rfl

theorem busAndTrip_plateRace : LTS.execAll (Pool.step (tripService noOther).spec)
    busAndTrip plateRace = some (busAndTripAfter plateRace) := by rfl

theorem plateRace_tripStored : LTS.execAll (Pool.step (tripService noOther).spec)
    (busAndTripAfter plateRace) tripStored = some (busAndTripAfter (plateRace ++ tripStored)) := by
      rfl

theorem plateRace_run {init : TripStore → Prop} : ((tripService noOther).calls init).Run LTS.always
    (busAndTripAfter plateRace) (busAndTripAfter (plateRace ++ tripStored)) :=
  LTS.run_of_execAll (LTS.allOk_always _ _ _) plateRace_tripStored

theorem busAndTrip_runs : ∃ ws more,
    (tripService noOther).Serial TripStore.empty (busAndTripAfter plateRace) ws ∧
      (tripService noOther).Serial TripStore.empty (busAndTripAfter (plateRace ++ tripStored))
        (ws ++ more) := by
  have hr : ((tripService noOther).calls fun _ => True).Run LTS.always busAndTrip _ :=
    LTS.run_of_execAll (LTS.allOk_always _ _ _) busAndTrip_plateRace
  exact tripService_linearizable busAndTrip_start hr plateRace_run

/-! ## Read back -/

section
variable {other : String → Option Int} {p p₁ p₂ p₃ : Pool TripStore ServiceCall} {i : Nat}
  {C : Collation String}

theorem kept_of_returned {init : TripStore → Prop} {q : CreateBusDto ⊕ CreateTripDto}
    {r : BusWithSeats ⊕ Trip} (h : ((tripService other).calls init).Reachable p)
    (hc : p.procs[i]? = some ⟨q, .done (.ok r)⟩) : Kept other p.shared q r :=
  CheckInsert.returned (R := Kept other) (fun _ _ _ _ _ _ hd hi => kept_insert hd hi)
    (fun _ _ _ _ _ _ _ hk hi => hk.insert hi) h hc

theorem kept_of_run {init : TripStore → Prop} {q : CreateBusDto ⊕ CreateTripDto}
    {r : BusWithSeats ⊕ Trip} (h : ((tripService other).calls init).Reachable p)
    (hc : p.procs[i]? = some ⟨q, .done (.ok r)⟩)
    (hr : ((tripService other).calls init).Run LTS.always p p₁) : Kept other p₁.shared q r :=
  kept_of_returned (h.run hr) (CheckInsert.done_run hr hc)

/-- The layout of a request as a client reads it. -/
structure LayoutRead (C : Collation String) (dto : CreateBusDto) (bus : Bus) (seats : List Seat) :
    Prop where
  data : ∃ d rows, validateBus dto = .ok d ∧ Describes d ⟨bus, rows⟩ ∧ seats.Perm rows
  sorted : seats.Pairwise fun a b => C.le a.seatNumber b.seatNumber
  owned : ∀ s ∈ seats, s.busId = bus.id

theorem BusStored.layoutRead {store : TripStore} {dto : CreateBusDto} {a : BusWithSeats}
    (hs : BusStored store dto a) :
    LayoutRead C dto a.bus (C.orderBy Seat.seatNumber (store.seatsOf a.bus.id)) := by
  obtain ⟨d, hd, hdesc⟩ := hs.data
  refine ⟨⟨d, a.seats, hd, hdesc, ?_⟩, Collation.pairwise_orderBy _ _ _, fun s hm => ?_⟩
  · rw [hs.seats]
    exact Collation.orderBy_perm _ _ _
  · exact (mem_seatsOf.mp ((Collation.orderBy_perm _ _ _).mem_iff.mp hm)).2

/-- **A layout is read as it was created**, at any later time and from any store the
database keeps its rows in. -/
theorem layout_of_bus {init : TripStore → Prop} {dto : CreateBusDto} {a : BusWithSeats}
    {request : Value} (h : ((tripService other).calls init).Reachable p)
    (hc : p.procs[i]? = some ⟨.inl dto, .done (.ok (.inl a))⟩)
    (h₁ : ((tripService other).calls init).Run LTS.always p p₁)
    (h₂ : ((tripService other).calls init).Run LTS.always p₁ p₂) (scan : SeatScan p₂.shared)
    (hr : AsksFor request a.bus.id) :
    ∃ seats, getBusLayout C p₁.shared scan request = .ok ⟨a.bus, seats⟩ ∧
      LayoutRead C dto a.bus seats := by
  have hs : BusStored p₁.shared dto a := kept_of_run h hc h₁
  have hl : BusStored p₂.shared dto a := kept_of_run h hc (h₁.trans h₂)
  exact ⟨_, getBusLayout_of_mem hs.mem hr scan, hl.layoutRead⟩

/-- Every bus was created by a call that has returned it. -/
theorem exists_call_of_bus {b : Bus}
    (h : ((tripService other).calls fun store => store = TripStore.empty).Reachable p)
    (hb : b ∈ p.shared.buses.rows) : ∃ (i : Nat) (dto : CreateBusDto) (a : BusWithSeats),
      p.procs[i]? = some ⟨.inl dto, .done (.ok (.inl a))⟩ ∧ a.bus = b := by
  obtain ⟨r, ⟨i, q, hi⟩, hy⟩ := CheckInsert.origin (fun (store : TripStore) b =>
    b ∈ store.buses.rows)
    (fun (r : BusWithSeats ⊕ Trip) b => ∃ a, r = .inl a ∧ a.bus = b)
    (fun store hs b hm => by subst hs; exact List.not_mem_nil hm)
    (fun s d ids r s' hins b hm => by
      rcases CheckInsert.insert_sum hins with
        ⟨ids, d, a, rfl, rfl, rfl, hi⟩ | ⟨id, td, t, rfl, rfl, rfl, hi⟩
      · have hc : BusCreated s d.busData d.seats a s' := createBusWithSeats_ok hi
        rcases hc.mem_buses.mp hm with hm | rfl
        · exact .inl hm
        · exact .inr ⟨a, rfl, rfl⟩
      · obtain ⟨hbuses, -⟩ := createTripRow_stores hi
        rw [hbuses] at hm
        exact .inl hm) h b hb
  obtain ⟨a, rfl, hab⟩ := hy
  have hk := kept_of_returned h hi
  cases q with
  | inl dto => exact ⟨i, dto, a, hi, hab⟩
  | inr tdto => exact hk.elim

/-- **A trip is read with the layout of its bus.** Three queries, other calls between
any two of them, return the trip as it was scheduled and the seats that some call
created its bus with; so do a later read of its seats and of its bus. -/
theorem layout_of_trip {dto : CreateTripDto} {trip : Trip} {request busRequest : Value}
    (h : ((tripService other).calls fun store => store = TripStore.empty).Reachable p)
    (hc : p.procs[i]? = some ⟨.inr dto, .done (.ok (.inr trip))⟩)
    (h₁ : ((tripService other).calls fun store => store = TripStore.empty).Run LTS.always p p₁)
    (h₂ : ((tripService other).calls fun store => store = TripStore.empty).Run LTS.always p₁ p₂)
    (h₃ : ((tripService other).calls fun store => store = TripStore.empty).Run LTS.always p₂ p₃)
    (scan : SeatScan p₃.shared) (hr : AsksFor request trip.id)
    (hb : AsksFor busRequest trip.busId) :
    Schedules other dto trip ∧
      ∃ (j : Nat) (busDto : CreateBusDto) (a : BusWithSeats) (seats : List Seat),
      p.procs[j]? = some ⟨.inl busDto, .done (.ok (.inl a))⟩ ∧ a.bus.id = trip.busId ∧
      LayoutRead C busDto a.bus seats ∧
      getTripWithLayout C p₁.shared p₂.shared scan request = .ok ⟨trip, ⟨a.bus, seats⟩⟩ ∧
      getTripSeats C p₁.shared p₂.shared scan request = .ok seats ∧
      getBusLayout C p₂.shared scan busRequest = .ok ⟨a.bus, seats⟩ := by
  have htrip : TripStored other p.shared dto trip := kept_of_returned h hc
  have htrip₁ : TripStored other p₁.shared dto trip := kept_of_run h hc h₁
  obtain ⟨b, hmem, hid⟩ := p.shared.tripOwned trip htrip.mem
  obtain ⟨j, busDto, a, hj, rfl⟩ := exists_call_of_bus h hmem
  have hs₂ : BusStored p₂.shared busDto a := kept_of_run h hj (h₁.trans h₂)
  have hs₃ : BusStored p₃.shared busDto a := kept_of_run h hj ((h₁.trans h₂).trans h₃)
  have hread := getTripWithLayout_of_mem (C := C) htrip₁.mem hs₂.mem hid hr scan
  refine ⟨htrip.schedules, j, busDto, a, _, hj, hid, hs₃.layoutRead, hread, ?_, ?_⟩
  · rw [getTripSeats, hread]
    rfl
  · rw [← hid] at hb
    exact getBusLayout_of_mem hs₂.mem hb scan

end

/-! ## One bus and one trip -/

/-- Texts by their code points. -/
def codePoints : Collation String where
  le a b := decide (a ≤ b)
  total a b := by simpa using String.le_total a b
  trans a b c hab hbc := by
    simp only [decide_eq_true_eq] at hab hbc ⊢
    exact String.le_trans hab hbc
  antisymm a b hab hba := String.le_antisymm (of_decide_eq_true hab) (of_decide_eq_true hba)

/-- The rows from the last one on. -/
def SeatScan.fromTheLast (store : TripStore) : SeatScan store :=
  ⟨store.seats.rows.reverse, List.reverse_perm _⟩

def busOfKaveri : BusWithSeats :=
  ⟨⟨busId, "KL-07-AB-1", "Kaveri", .AC_SEATER, 2⟩,
    [⟨"s1", busId, "1B", .WINDOW⟩, ⟨"s2", busId, "1A", .AISLE⟩]⟩

theorem plateRace_reachable :
    ((tripService noOther).calls fun store => store = TripStore.empty).Reachable
    (busAndTripAfter plateRace) :=
  LTS.reachable_of_execAll plateRace ⟨rfl, busAndTrip_start.2⟩ busAndTrip_plateRace

/-- The bus is read before the trip is stored, its seats after. -/
theorem layout_of_kaveri : ∃ seats,
    getBusLayout codePoints (busAndTripAfter plateRace).shared
      (.fromTheLast (busAndTripAfter (plateRace ++ tripStored)).shared)
      (.string (" " ++ busId)) = .ok ⟨busOfKaveri.bus, seats⟩ ∧
      LayoutRead codePoints kaveri busOfKaveri.bus seats := by
  have hc : (busAndTripAfter plateRace).procs[0]? =
    some ⟨.inl kaveri, .done (.ok (.inl busOfKaveri))⟩ := rfl
  have hasks : AsksFor (.string (" " ++ busId)) busId :=
    ⟨busId, _, by decide +kernel, rfl, by decide +kernel⟩
  exact layout_of_bus plateRace_reachable hc (.refl _) plateRace_run _ hasks

theorem layout_of_kaveri_trip :
    ∃ (j : Nat) (busDto : CreateBusDto) (a : BusWithSeats) (seats : List Seat),
    (busAndTripAfter (plateRace ++ tripStored)).procs[j]? =
        some ⟨.inl busDto, .done (.ok (.inl a))⟩ ∧
      getTripSeats codePoints (busAndTripAfter (plateRace ++ tripStored)).shared
        (busAndTripAfter (plateRace ++ tripStored)).shared
        (.fromTheLast (busAndTripAfter (plateRace ++ tripStored)).shared) (.string tripId) =
          .ok seats := by
  have hc : (busAndTripAfter (plateRace ++ tripStored)).procs[2]? =
    some ⟨.inr (tripOn "2026-09-20"),
      .done (.ok (.inr ⟨tripId, routeId, busId, 1789862400000, "08:30 AM", .SCHEDULED⟩))⟩ := rfl
  have hasks : AsksFor (.string tripId) tripId :=
    ⟨tripId, _, by decide +kernel, rfl, by decide +kernel⟩
  have hbus : AsksFor (.string busId) busId := ⟨busId, _, by decide +kernel, rfl, by decide +kernel⟩
  obtain ⟨-, j, busDto, a, seats, hj, -, -, -, hseats, -⟩ := layout_of_trip (C := codePoints)
    (plateRace_reachable.run plateRace_run) hc (.refl _) (.refl _) (.refl _)
      (.fromTheLast _) hasks hbus
  exact ⟨j, busDto, a, seats, hj, hseats⟩

end RouteGo.Trips
