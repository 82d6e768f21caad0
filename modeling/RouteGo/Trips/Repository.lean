import RouteGo.Js.Number
import RouteGo.Lib.Table
import RouteGo.Lib.Uuid
import RouteGo.Utils.HttpErrors

/-!
# Buses, seats and trips

The repositories of the trip service over the tables of `schema.prisma`. A
`TripStore` keeps the unique `registrationNumber`, the unique
`(busId, seatNumber)` and the two foreign keys, so a nested create that would
break one of them is refused whole.
-/

namespace RouteGo.Trips

open Js

inductive BusType where
  | AC_SEATER
  | AC_SLEEPER
  | NON_AC_SEATER
  | NON_AC_SLEEPER
  deriving DecidableEq, Repr

inductive SeatType where
  | WINDOW
  | AISLE
  | UPPER_BERTH
  | LOWER_BERTH
  deriving DecidableEq, Repr

inductive TripStatus where
  | SCHEDULED
  | IN_PROGRESS
  | COMPLETED
  | CANCELLED
  deriving DecidableEq, Repr

def BusType.text : BusType → String
  | .AC_SEATER => "AC_SEATER"
  | .AC_SLEEPER => "AC_SLEEPER"
  | .NON_AC_SEATER => "NON_AC_SEATER"
  | .NON_AC_SLEEPER => "NON_AC_SLEEPER"

def SeatType.text : SeatType → String
  | .WINDOW => "WINDOW"
  | .AISLE => "AISLE"
  | .UPPER_BERTH => "UPPER_BERTH"
  | .LOWER_BERTH => "LOWER_BERTH"

def TripStatus.text : TripStatus → String
  | .SCHEDULED => "SCHEDULED"
  | .IN_PROGRESS => "IN_PROGRESS"
  | .COMPLETED => "COMPLETED"
  | .CANCELLED => "CANCELLED"

/-- `Object.values(BusType)` -/
def BusType.values : List BusType := [.AC_SEATER, .AC_SLEEPER, .NON_AC_SEATER, .NON_AC_SLEEPER]

/-- `Object.values(SeatType)` -/
def SeatType.values : List SeatType := [.WINDOW, .AISLE, .UPPER_BERTH, .LOWER_BERTH]

def TripStatus.values : List TripStatus := [.SCHEDULED, .IN_PROGRESS, .COMPLETED, .CANCELLED]

/-- The member of an enumeration that `v` spells. -/
def member {α : Type} (values : List α) (text : α → String) (v : Value) : Option α :=
  values.find? fun t => v = .string (text t)

def BusType.ofValue (v : Value) : Option BusType := member BusType.values BusType.text v

def SeatType.ofValue (v : Value) : Option SeatType := member SeatType.values SeatType.text v

def TripStatus.ofValue (v : Value) : Option TripStatus := member TripStatus.values TripStatus.text v

structure Bus where
  id : String
  registrationNumber : String
  operatorName : String
  busType : BusType
  totalSeats : Int
  deriving DecidableEq, Repr

structure Seat where
  id : String
  busId : String
  seatNumber : String
  seatType : SeatType
  deriving DecidableEq, Repr

structure Trip where
  id : String
  routeId : String
  busId : String
  departureDate : Int
  departureTime : String
  status : TripStatus
  deriving DecidableEq, Repr

instance : Keyed Bus String := ⟨Bus.id⟩

instance : Keyed Seat String := ⟨Seat.id⟩

instance : Keyed Trip String := ⟨Trip.id⟩

@[simp] theorem key_bus (b : Bus) : key b = b.id := rfl

@[simp] theorem key_seat (s : Seat) : key s = s.id := rfl

@[simp] theorem key_trip (t : Trip) : key t = t.id := rfl

/-- `@@unique([busId, seatNumber])` -/
def Seat.place (s : Seat) : String × String := (s.busId, s.seatNumber)

structure TripStore where
  buses : Table Bus
  seats : Table Seat
  trips : Table Trip
  registrations : buses.Distinct Bus.registrationNumber
  places : seats.Distinct Seat.place
  seatOwned : ∀ s ∈ seats.rows, ∃ b ∈ buses.rows, b.id = s.busId
  tripOwned : ∀ t ∈ trips.rows, ∃ b ∈ buses.rows, b.id = t.busId

namespace TripStore

def empty : TripStore :=
  ⟨Table.empty, Table.empty, Table.empty, List.nodup_nil, List.nodup_nil,
    fun _ h => absurd h List.not_mem_nil, fun _ h => absurd h List.not_mem_nil⟩

/-- The seats of a bus; the collation that `orderBy` sorts them by is left out. -/
def seatsOf (store : TripStore) (busId : String) : List Seat :=
  store.seats.rows.filter fun s => s.busId = busId

end TripStore

structure BusWithSeats where
  bus : Bus
  seats : List Seat
  deriving DecidableEq, Repr

structure CreateSeatDto where
  seatNumber : String
  seatType : SeatType

/-- What `createBusWithSeats` is given of a bus. -/
structure BusData where
  registrationNumber : String
  operatorName : String
  busType : BusType
  totalSeats : Number

/-- The `uuid`s the database gives to a bus and its seats. -/
structure NewIds where
  bus : String
  seats : List String

def findByRegistrationNumber (store : TripStore) (registrationNumber : String) : Option Bus :=
  store.buses.rows.find? fun b => b.registrationNumber = registrationNumber

/-- The seats of a nested create. -/
def seatsFrom (busId : String) : List String → List CreateSeatDto → List Seat
  | id :: ids, s :: seats => ⟨id, busId, s.seatNumber, s.seatType⟩ :: seatsFrom busId ids seats
  | _, _ => []

section
variable {busId : String} {ids : List String} {seats : List CreateSeatDto}

theorem map_seatNumber_seatsFrom (h : ids.length = seats.length) :
    (seatsFrom busId ids seats).map Seat.seatNumber = seats.map CreateSeatDto.seatNumber := by
  induction ids generalizing seats with
  | nil =>
    obtain rfl := List.length_eq_zero_iff.mp h.symm
    rfl
  | cons id ids ih =>
    cases seats with
    | nil => cases h
    | cons s seats => simp only [seatsFrom, List.map_cons, ih (Nat.succ.inj h)]

theorem busId_of_mem_seatsFrom {s : Seat} (h : s ∈ seatsFrom busId ids seats) :
    s.busId = busId := by
  induction ids generalizing seats with
  | nil => simp [seatsFrom] at h
  | cons id ids ih =>
    cases seats with
    | nil => simp [seatsFrom] at h
    | cons c seats =>
      rcases List.mem_cons.mp h with rfl | h
      · rfl
      · exact ih h

theorem nodup_seatsFrom (h : ids.length = seats.length)
    (hn : (seats.map CreateSeatDto.seatNumber).Nodup) :
    ((seatsFrom busId ids seats).map Seat.place).Nodup := by
  have hnum : ((seatsFrom busId ids seats).map Seat.seatNumber).Nodup := by
    rw [map_seatNumber_seatsFrom h]
    exact hn
  refine List.Nodup.of_map Prod.snd ?_
  rw [List.map_map]
  exact hnum

end

/-- A seat of a bus that is not there yet takes no place that is. -/
theorem place_ne_of_new {store : TripStore} {bus : Bus} (h : store.buses.find bus.id = none)
    {ids : List String} {seats : List CreateSeatDto} :
    ∀ x ∈ store.seats.rows, ∀ y ∈ seatsFrom bus.id ids seats, x.place ≠ y.place := by
  intro x hx y hy hp
  obtain ⟨b, hb, hid⟩ := store.seatOwned x hx
  have hbus : x.busId = bus.id := (congrArg Prod.fst hp).trans (busId_of_mem_seatsFrom hy)
  exact Table.find_eq_none.mp h b hb (hid.trans hbus)

/-- `prisma.bus.create` with nested seats, in one transaction; `none` for ids
that are not new. -/
def createBusWithSeats (store : TripStore) (ids : NewIds) (busData : BusData)
    (seats : List CreateSeatDto) : Option (Result (BusWithSeats × TripStore)) :=
  if hl : ids.seats.length ≠ seats.length then none
  else match busData.totalSeats.toInt4 with
    | none => some (.error prismaError)
    | some n =>
      if hu : (∀ b ∈ store.buses.rows, b.registrationNumber ≠ busData.registrationNumber) ∧
          (seats.map CreateSeatDto.seatNumber).Nodup then
        let bus : Bus :=
          ⟨ids.bus, busData.registrationNumber, busData.operatorName, busData.busType, n⟩
        let created := seatsFrom ids.bus ids.seats seats
        match hb : store.buses.insert bus, hs : store.seats.insertAll created with
        | some buses, some seats' => some (.ok (⟨bus, created⟩, {
            buses := buses
            seats := seats'
            trips := store.trips
            registrations := store.registrations.insert hb hu.1
            places := store.places.append (Table.rows_of_insertAll hs)
              (nodup_seatsFrom (not_not.mp hl) hu.2)
              (place_ne_of_new (Table.insert_eq_some.mp hb).1)
            seatOwned := fun s h => by
              rw [Table.rows_of_insertAll hs, List.mem_append] at h
              rcases h with h | h
              · obtain ⟨b, hrow, hid⟩ := store.seatOwned s h
                exact ⟨b, (Table.mem_of_insert hb).mpr (.inl hrow), hid⟩
              · exact ⟨bus, (Table.mem_of_insert hb).mpr (.inr rfl),
                  (busId_of_mem_seatsFrom h).symm⟩
            tripOwned := fun t h => by
              obtain ⟨b, hrow, hid⟩ := store.tripOwned t h
              exact ⟨b, (Table.mem_of_insert hb).mpr (.inl hrow), hid⟩ }))
        | _, _ => none
      else some (.error prismaError)

/-- What a nested create that succeeds has done. -/
structure BusCreated (store : TripStore) (busData : BusData) (seats : List CreateSeatDto)
    (created : BusWithSeats) (store' : TripStore) : Prop where
  registration : created.bus.registrationNumber = busData.registrationNumber
  total : busData.totalSeats.toInt4 = some created.bus.totalSeats
  numbers : created.seats.map Seat.seatNumber = seats.map CreateSeatDto.seatNumber
  owned : ∀ s ∈ created.seats, s.busId = created.bus.id
  fresh : store.buses.find created.bus.id = none
  buses : store'.buses.rows = store.buses.rows ++ [created.bus]
  seats : store'.seats.rows = store.seats.rows ++ created.seats

theorem createBusWithSeats_ok {store store' : TripStore} {ids : NewIds} {busData : BusData}
    {seats : List CreateSeatDto} {created : BusWithSeats}
    (h : createBusWithSeats store ids busData seats = some (.ok (created, store'))) :
    BusCreated store busData seats created store' := by
  unfold createBusWithSeats at h
  split at h
  · cases h
  · next hl =>
    split at h
    · cases h
    · next n hn =>
      split at h
      · simp only at h
        split at h
        · next buses seats' hb hs =>
          cases h
          exact {
            registration := rfl
            total := hn
            numbers := map_seatNumber_seatsFrom (not_not.mp hl)
            owned := fun s hs => busId_of_mem_seatsFrom hs
            fresh := (Table.insert_eq_some.mp hb).1
            buses := Table.rows_of_insert hb
            seats := Table.rows_of_insertAll hs }
        · cases h
      · cases h

section
variable {store store' : TripStore} {busData : BusData} {seats : List CreateSeatDto}
  {created : BusWithSeats} {busId : String}

theorem mem_seatsOf {s : Seat} : s ∈ store.seatsOf busId ↔ s ∈ store.seats.rows ∧
    s.busId = busId := by
  simp [TripStore.seatsOf]

/-- A bus has no number twice. -/
theorem nodup_seatsOf (store : TripStore) (busId : String) :
    ((store.seatsOf busId).map Seat.seatNumber).Nodup := by
  have hrows := List.Nodup.of_map _ store.places
  refine List.Nodup.map_on (fun x hx y hy hxy => ?_) (hrows.filter _)
  obtain ⟨hxr, hxb⟩ := mem_seatsOf.mp hx
  obtain ⟨hyr, hyb⟩ := mem_seatsOf.mp hy
  exact store.places.eq hxr hyr (Prod.ext (hxb.trans hyb.symm) hxy)

namespace BusCreated

theorem ne_of_mem {b : Bus} (h : BusCreated store busData seats created store')
    (hb : b ∈ store.buses.rows) : b.id ≠ created.bus.id :=
  Table.find_eq_none.mp h.fresh b hb

theorem mem_buses {b : Bus} (h : BusCreated store busData seats created store') :
    b ∈ store'.buses.rows ↔ b ∈ store.buses.rows ∨ b = created.bus := by
  rw [h.buses, List.mem_append, List.mem_singleton]

theorem mem_seats {s : Seat} (h : BusCreated store busData seats created store') :
    s ∈ store'.seats.rows ↔ s ∈ store.seats.rows ∨ s ∈ created.seats := by
  rw [h.seats, List.mem_append]

theorem seatsOf_self (h : BusCreated store busData seats created store') :
    store'.seatsOf created.bus.id = created.seats := by
  have hold : store.seats.rows.filter (fun s => s.busId = created.bus.id) = [] := by
    refine List.filter_eq_nil_iff.mpr fun s hs heq => ?_
    obtain ⟨b, hb, hid⟩ := store.seatOwned s hs
    exact h.ne_of_mem hb (hid.trans (of_decide_eq_true heq))
  have hnew : created.seats.filter (fun s => s.busId = created.bus.id) = created.seats :=
    List.filter_eq_self.mpr fun s hs => decide_eq_true (h.owned s hs)
  rw [TripStore.seatsOf, h.seats, List.filter_append, hold, hnew, List.nil_append]

theorem seatsOf_ne (h : BusCreated store busData seats created store')
    (hne : busId ≠ created.bus.id) : store'.seatsOf busId = store.seatsOf busId := by
  have hnew : created.seats.filter (fun s => s.busId = busId) = [] := by
    refine List.filter_eq_nil_iff.mpr fun s hs heq => hne ?_
    rw [← h.owned s hs, of_decide_eq_true heq]
  rw [TripStore.seatsOf, h.seats, List.filter_append, hnew, List.append_nil]
  rfl

end BusCreated

theorem findByRegistrationNumber_isSome_iff {r : String} :
    (findByRegistrationNumber store r).isSome = true ↔
      ∃ b ∈ store.buses.rows, b.registrationNumber = r := by
  rw [findByRegistrationNumber, List.find?_isSome]
  simp

end

/-! ## Trips -/

/-- What `createTrip` is given. -/
structure TripData where
  routeId : String
  busId : String
  departureDate : Int
  departureTime : String
  status : Value
  deriving DecidableEq, Repr

structure TripWithBusAndSeats where
  trip : Trip
  bus : BusWithSeats
  deriving DecidableEq, Repr

/-- `where: { id }` over a `uuid` column; a text that is none is an error. -/
def findBusById (store : TripStore) (id : String) : Result (Option Bus) :=
  match Uuid.read id with
  | some v => .ok (store.buses.find (Uuid.text v))
  | none => .error prismaError

/-- `status ?? TripStatus.SCHEDULED`; Prisma refuses what is no `TripStatus`. -/
def statusOrScheduled : Value → Option TripStatus
  | .undefined => some .SCHEDULED
  | .null => some .SCHEDULED
  | v => TripStatus.ofValue v

theorem mem_of_findBusById {store : TripStore} {id : String} {bus : Bus}
    (h : findBusById store id = .ok (some bus)) : bus ∈ store.buses.rows := by
  unfold findBusById at h
  split at h
  · exact Table.mem_of_find (Except.ok.inj h)
  · cases h

/-- `prisma.trip.create`, connected to its bus; `none` for an id that is not new. -/
def createTripRow (store : TripStore) (id : String) (data : TripData) :
    Option (Result (Trip × TripStore)) :=
  match Uuid.read data.routeId, statusOrScheduled data.status with
  | some route, some status =>
    match hb : findBusById store data.busId with
    | .ok (some bus) =>
      let trip : Trip :=
        ⟨id, Uuid.text route, bus.id, data.departureDate, data.departureTime, status⟩
      match ht : store.trips.insert trip with
      | some trips => some (.ok (trip, { store with
          trips := trips
          tripOwned := fun t h => by
            rcases (Table.mem_of_insert ht).mp h with h | rfl
            · exact store.tripOwned t h
            · exact ⟨bus, mem_of_findBusById hb, rfl⟩ }))
      | none => none
    | _ => some (.error prismaError)
  | _, _ => some (.error prismaError)

/-- The trip with its bus and the seats of the bus. -/
def TripStore.withBusAndSeats (store : TripStore) (trip : Trip) : Option TripWithBusAndSeats :=
  (store.buses.find trip.busId).map fun bus => ⟨trip, bus, store.seatsOf bus.id⟩

/-- The trips of a route that depart between two instants, the order left out. -/
def findTripsByRouteAndDate (store : TripStore) (routeId : String) (startDate endDate : Int) :
    Result (List TripWithBusAndSeats) :=
  match Uuid.read routeId with
  | some v => .ok ((store.trips.rows.filter fun t => t.routeId = Uuid.text v &&
      decide (startDate ≤ t.departureDate ∧ t.departureDate ≤ endDate)).filterMap
        store.withBusAndSeats)
  | none => .error prismaError

section
variable {store store' : TripStore} {id routeId : String} {data : TripData} {trip : Trip}
  {startDate endDate : Int} {trips : List TripWithBusAndSeats}

theorem createTripRow_ok (h : createTripRow store id data = some (.ok (trip, store'))) :
    (∃ v, Uuid.read data.routeId = some v ∧ trip.routeId = Uuid.text v) ∧
      trip.departureDate = data.departureDate ∧
      store'.trips.rows = store.trips.rows ++ [trip] := by
  unfold createTripRow at h
  split at h
  · next v status hv _ =>
    split at h
    · simp only at h
      split at h
      · next trips ht =>
        cases h
        exact ⟨⟨v, hv, rfl⟩, rfl, Table.rows_of_insert ht⟩
      · cases h
    · cases h
  · cases h

/-- No trip loses its bus. -/
theorem exists_withBusAndSeats (h : trip ∈ store.trips.rows) :
    ∃ t, store.withBusAndSeats trip = some t ∧ t.trip = trip := by
  obtain ⟨b, hb, hid⟩ := store.tripOwned trip h
  have hf : store.buses.find trip.busId = some b := hid ▸ Table.find_key hb
  exact ⟨⟨trip, b, store.seatsOf b.id⟩, by rw [TripStore.withBusAndSeats, hf]; rfl, rfl⟩

theorem trip_of_withBusAndSeats {t : TripWithBusAndSeats}
    (h : store.withBusAndSeats trip = some t) : t.trip = trip := by
  obtain ⟨b, -, rfl⟩ := Option.map_eq_some_iff.mp h
  rfl

theorem mem_findTrips (h : findTripsByRouteAndDate store routeId startDate endDate = .ok trips)
    (hm : trip ∈ store.trips.rows) : (∃ t ∈ trips, t.trip = trip) ↔
      (∃ v, Uuid.read routeId = some v ∧ trip.routeId = Uuid.text v) ∧
        startDate ≤ trip.departureDate ∧ trip.departureDate ≤ endDate := by
  unfold findTripsByRouteAndDate at h
  split at h
  · next v hv =>
    cases h
    constructor
    · rintro ⟨t, ht, rfl⟩
      obtain ⟨row, hrow, hw⟩ := List.mem_filterMap.mp ht
      obtain rfl := trip_of_withBusAndSeats hw
      simp only [List.mem_filter, Bool.and_eq_true, decide_eq_true_eq] at hrow
      exact ⟨⟨v, hv, hrow.2.1⟩, hrow.2.2⟩
    · rintro ⟨⟨v', hv', hr⟩, hd⟩
      obtain rfl := Option.some.inj (hv.symm.trans hv')
      obtain ⟨t, hw, htrip⟩ := exists_withBusAndSeats hm
      refine ⟨t, List.mem_filterMap.mpr ⟨trip, ?_, hw⟩, htrip⟩
      simp only [List.mem_filter, Bool.and_eq_true, decide_eq_true_eq]
      exact ⟨hm, hr, hd⟩
  · cases h

end

end RouteGo.Trips
