import RouteGo.Js.Date
import RouteGo.Lib.CheckInsert
import RouteGo.Trips.Repository

/-!
# `TripService.createTrip` and `searchTrips`

`tripService.ts`. A trip departs at the instant its `departureDate` denotes; a
search cuts its `date` at the `T` and takes the UTC day of what is left. The two
readings of one text agree when the instant is still on the day the text names
(`searchTrips_finds_iff`): an offset is lost in the cut.
-/

namespace RouteGo.Trips

open Js

structure CreateTripDto where
  routeId : Value
  busId : Value
  departureDate : Value
  departureTime : Value
  status : Value
  deriving DecidableEq, Repr

structure SearchTripsQuery where
  routeId : Value
  date : Value

/-! ## `createTrip` -/

def routeIdRequired : AppError := .ValidationError "routeId is required"

def busIdRequired : AppError := .ValidationError "busId is required"

def departureDateRequired : AppError := .ValidationError "departureDate is required"

def departureTimeRequired : AppError :=
  .ValidationError "departureTime is required (e.g. '08:30 AM' or '14:00')"

def invalidDepartureDate : AppError := .ValidationError "Invalid departureDate format"

def busNotFound (busId : String) : AppError :=
  .NotFoundError ("Bus with ID '" ++ busId ++ "' not found")

/-- The checks in the order of the source; `other` reads the dates of no format. -/
def validateTrip (other : String → Option Int) (data : CreateTripDto) : Result TripData :=
  match data.routeId.trimmed with
  | none => .error routeIdRequired
  | some routeId =>
    match data.busId.trimmed with
    | none => .error busIdRequired
    | some busId =>
      if !data.departureDate.truthy then .error departureDateRequired
      else match data.departureTime.trimmed with
        | none => .error departureTimeRequired
        | some departureTime =>
          match Date.ofValue other data.departureDate with
          | none => .error invalidDepartureDate
          | some dateObj => .ok ⟨routeId, busId, dateObj, departureTime, data.status⟩

/-- The three stages of `createTrip`. -/
def createTrip (other : String → Option Int) :
    CheckInsert TripStore CreateTripDto TripData String Trip AppError where
  check := validateTrip other
  taken store d :=
    match findBusById store d.busId with
    | .ok bus => bus.isNone
    | .error _ => true
  conflict d := if (Uuid.read d.busId).isNone then prismaError else busNotFound d.busId
  insert := createTripRow
  fault := prismaError

abbrev TripCall := CheckInsert.Call CreateTripDto TripData Trip AppError

/-! ## `searchTrips` -/

def searchRouteRequired : AppError := .ValidationError "routeId is required for searching trips"

def searchDateRequired : AppError :=
  .ValidationError "date query parameter is required (YYYY-MM-DD)"

def invalidSearchDate : AppError := .ValidationError "Invalid date format. Expected YYYY-MM-DD"

/-- `searchTrips`; Prisma refuses an invalid `Date`. -/
def searchTrips (other : String → Option Int) (store : TripStore) (query : SearchTripsQuery) :
    Result (List TripWithBusAndSeats) :=
  match query.routeId.trimmed with
  | none => .error searchRouteRequired
  | some routeId =>
    match query.date.trimmed with
    | none => .error searchDateRequired
    | some date =>
      match Date.parse other date with
      | none => .error invalidSearchDate
      | some _ =>
        let dateStr := Date.beforeT date
        match Date.parse other (dateStr ++ "T00:00:00.000Z"),
          Date.parse other (dateStr ++ "T23:59:59.999Z") with
        | some startDate, some endDate => findTripsByRouteAndDate store routeId startDate endDate
        | _, _ => .error prismaError

section
variable {other : String → Option Int} {store : TripStore} {dto : CreateTripDto} {d : TripData}
  {s r : String} {f : Date.Fields} {trips : List TripWithBusAndSeats}

theorem validateTrip_ok (h : validateTrip other dto = .ok d) :
    dto.routeId.trimmed = some d.routeId ∧
      Date.ofValue other dto.departureDate = some d.departureDate := by
  unfold validateTrip at h
  split at h
  · cases h
  · next routeId hr =>
    split at h
    · cases h
    · split at h
      · cases h
      · split at h
        · cases h
        · split at h
          · cases h
          · next dateObj hd =>
            cases h
            exact ⟨hr, hd⟩

theorem eq_of_timeClip {t t' : Int} (h : Date.timeClip t = some t') : t' = t := by
  unfold Date.timeClip at h
  split at h
  · exact (Option.some.inj h).symm
  · cases h

/-- The instant of a text of the format. -/
theorem parse_of_read (h : Date.read s = some f) :
    Date.parse other s = Date.timeClip f.instant := by
  rw [Date.parse, h]

/-- The day of the search is the one the text names. -/
theorem searchTrips_ok (hf : Date.read s = some f)
    (h : searchTrips other store ⟨.string r, .string s⟩ = .ok trips) :
    ∃ routeId, (Value.string r).trimmed = some routeId ∧
      findTripsByRouteAndDate store routeId (f.day * Date.msPerDay)
        (f.day * Date.msPerDay + (Date.msPerDay - 1)) = .ok trips := by
  have hstart : Date.read (Date.beforeT s ++ "T00:00:00.000Z") = some ⟨f.day, 0, 0⟩ :=
    Date.read_beforeT hf rfl Date.readTime_midnight
  have hend : Date.read (Date.beforeT s ++ "T23:59:59.999Z") = some ⟨f.day, Date.msPerDay - 1, 0⟩ :=
    Date.read_beforeT hf rfl Date.readTime_lastMillisecond
  unfold searchTrips at h
  split at h
  · cases h
  · next routeId hr =>
    split at h
    · cases h
    · next date hd =>
      obtain ⟨s', hs', rfl, -⟩ := Value.trimmed_eq_some hd
      cases hs'
      rw [Date.trim_of_read hf] at h
      split at h
      · cases h
      · simp only at h
        rw [parse_of_read hstart, parse_of_read hend] at h
        split at h
        · next a b ha hb =>
          rw [eq_of_timeClip ha, eq_of_timeClip hb] at h
          refine ⟨routeId, hr, ?_⟩
          simpa only [Date.Fields.instant, Int.add_zero, Int.sub_zero] using h
        · cases h

end

/-! ## Trips that calls have returned -/

/-- What is stored of a call that returned `trip`. -/
structure Stored (other : String → Option Int) (store : TripStore) (dto : CreateTripDto)
    (trip : Trip) : Prop where
  mem : trip ∈ store.trips.rows
  route : ∃ routeId v, dto.routeId.trimmed = some routeId ∧ Uuid.read routeId = some v ∧
    trip.routeId = Uuid.text v
  date : Date.ofValue other dto.departureDate = some trip.departureDate

section
variable {other : String → Option Int} {p : Pool TripStore TripCall} {dto : CreateTripDto}
  {trip : Trip} {init : TripStore → Prop}

theorem stored_of_returned {i : Nat} (h : ((createTrip other).calls init).Reachable p)
    (hc : p.procs[i]? = some ⟨dto, .done (.ok trip)⟩) : Stored other p.shared dto trip := by
  refine CheckInsert.returned (fun s q d id a s' hq hi =>
    ?_) (fun s q a d id a' s' hr hi => ?_) h hc
  · obtain ⟨hroute, hdate⟩ := validateTrip_ok hq
    obtain ⟨⟨v, hv, hid⟩, hdep, hrows⟩ := createTripRow_ok hi
    exact {
      mem := by rw [hrows]; exact List.mem_append_right _ (List.mem_singleton_self a)
      route := ⟨d.routeId, v, hroute, hv, hid⟩
      date := by rw [hdate, hdep] }
  · obtain ⟨-, -, hrows⟩ := createTripRow_ok hi
    exact {
      mem := by rw [hrows]; exact List.mem_append_left _ hr.mem
      route := hr.route
      date := hr.date }

/-- **Searching for a trip by its own date.** However the calls interleave and
whatever other trips there are, a trip created on a route with a date finds
itself exactly when its instant is on the day (in UTC) that the date names. -/
theorem searchTrips_finds_iff {i : Nat} {r s : String} {f : Date.Fields}
    {trips : List TripWithBusAndSeats} (h : ((createTrip other).calls init).Reachable p)
    (hc : p.procs[i]? = some ⟨dto, .done (.ok trip)⟩) (hr : dto.routeId = .string r)
    (hs : dto.departureDate = .string s) (hf : Date.read s = some f)
    (hq : searchTrips other p.shared ⟨.string r, .string s⟩ = .ok trips) :
    (∃ t ∈ trips, t.trip = trip) ↔ f.OnItsDay := by
  have hst := stored_of_returned h hc
  obtain ⟨routeId, v, hroute, hv, hid⟩ := hst.route
  obtain ⟨routeId', hroute', hfind⟩ := searchTrips_ok hf hq
  have heq : routeId' = routeId := by
    rw [hr, hroute'] at hroute
    exact Option.some.inj hroute
  subst heq
  have hdep : trip.departureDate = f.instant := by
    have hd := hst.date
    rw [hs, Date.ofValue, parse_of_read hf] at hd
    exact eq_of_timeClip hd
  rw [mem_findTrips hfind hst.mem, hdep]
  unfold Date.Fields.OnItsDay Date.Fields.instant
  constructor
  · rintro ⟨-, hlo, hhi⟩
    constructor <;> omega
  · rintro ⟨hlo, hhi⟩
    refine ⟨⟨v, hv, hid⟩, ?_, ?_⟩ <;> omega

end

/-! ## A date with an offset -/

def busId : String := "3f2a8c10-5b7d-4e21-9c44-0a1b2c3d4e5f"

def routeId : String := "9b1deb4d-3b7d-4bad-9bdd-2b0d7b3dcb6d"

/-- One bus with its seat, and no trip. -/
def oneBus : TripStore where
  buses := ⟨[⟨busId, "KL-07-AB-1", "Kaveri", .AC_SEATER, 1⟩], List.nodup_singleton _⟩
  seats := ⟨[⟨"s1", busId, "1A", .WINDOW⟩], List.nodup_singleton _⟩
  trips := Table.empty
  registrations := List.nodup_singleton _
  places := List.nodup_singleton _
  seatOwned := fun _ h => ⟨_, List.mem_singleton_self _, by rw [List.mem_singleton.mp h]⟩
  tripOwned := fun _ h => absurd h List.not_mem_nil

/-- A request for a trip on the date `s`. -/
def tripOn (s : String) : CreateTripDto :=
  ⟨.string routeId, .string busId, .string s, .string "08:30 AM", .undefined⟩

def oneTrip (s : String) : Pool TripStore TripCall := ⟨oneBus, [⟨tripOn s, .start⟩]⟩

def noOther : String → Option Int := fun _ => none

def oneTripAfter (s : String) : Pool TripStore TripCall :=
  (LTS.execAll (Pool.step (createTrip noOther).spec) (oneTrip s)
    [.proc 0 ⟨"t1", false⟩, .proc 0 ⟨"t1", false⟩]).getD (oneTrip s)

/-- A call that has returned has run. -/
theorem oneTrip_reachable {s : String} {t : Trip}
    (h : (oneTripAfter s).procs[0]? = some ⟨tripOn s, .done (.ok t)⟩) :
    ((createTrip noOther).calls fun _ => True).Reachable (oneTripAfter s) := by
  unfold oneTripAfter at h ⊢
  cases hp : LTS.execAll (Pool.step (createTrip noOther).spec) (oneTrip s)
      [.proc 0 ⟨"t1", false⟩, .proc 0 ⟨"t1", false⟩] with
  | none => rw [hp] at h; cases h
  | some p =>
    refine LTS.reachable_of_execAll _ ⟨trivial, fun c hc => ?_⟩ hp
    obtain rfl := List.mem_singleton.mp hc
    rfl

/-- The trip of `oneTripAfter`, departing at `t`. -/
def tripAt (t : Int) : Trip := ⟨"t1", routeId, busId, t, "08:30 AM", .SCHEDULED⟩

def foundAt (t : Int) : TripWithBusAndSeats :=
  ⟨tripAt t, ⟨busId, "KL-07-AB-1", "Kaveri", .AC_SEATER, 1⟩, [⟨"s1", busId, "1A", .WINDOW⟩]⟩

/-- Half past eight in Kochi, on the same day in UTC. -/
def morning : String := "2026-09-20T08:30:00+05:30"

/-- One o'clock at night in Kochi, on the day before in UTC. -/
def night : String := "2026-09-20T01:00:00+05:30"

theorem searchTrips_finds_morning : ∃ t ∈ [foundAt 1789873200000], t.trip =
    tripAt 1789873200000 := by
  have hrun : (oneTripAfter morning).procs[0]? =
      some ⟨tripOn morning, .done (.ok (tripAt 1789873200000))⟩ := by decide +kernel
  have hread : Date.read morning = some ⟨20716, 30600000, 19800000⟩ := by decide +kernel
  have hsearch : searchTrips noOther (oneTripAfter morning).shared
      ⟨.string routeId, .string morning⟩ = .ok [foundAt 1789873200000] := by decide +kernel
  have hday : (⟨20716, 30600000, 19800000⟩ : Date.Fields).OnItsDay := ⟨by decide, by decide⟩
  exact (searchTrips_finds_iff (oneTrip_reachable hrun) hrun rfl rfl hread hsearch).mpr hday

/-- **A trip is not found by its own date.** -/
theorem exists_trip_not_found : ¬ ∀ (other : String → Option Int) (p : Pool TripStore TripCall)
    (i : Nat) (dto : CreateTripDto) (trip : Trip) (r s : String) (f : Date.Fields)
    (trips : List TripWithBusAndSeats),
    ((createTrip other).calls fun _ => True).Reachable p →
    p.procs[i]? = some ⟨dto, .done (.ok trip)⟩ → dto.routeId = .string r →
    dto.departureDate = .string s → Date.read s = some f →
    searchTrips other p.shared ⟨.string r, .string s⟩ = .ok trips → ∃ t ∈ trips, t.trip = trip := by
  intro h
  have hrun : (oneTripAfter night).procs[0]? =
      some ⟨tripOn night, .done (.ok (tripAt 1789846200000))⟩ := by decide +kernel
  have hread : Date.read night = some ⟨20716, 3600000, 19800000⟩ := by decide +kernel
  have hsearch : searchTrips noOther (oneTripAfter night).shared
      ⟨.string routeId, .string night⟩ = .ok [] := by decide +kernel
  obtain ⟨t, ht, -⟩ := h noOther _ 0 _ _ routeId night _ [] (oneTrip_reachable hrun) hrun rfl rfl
    hread hsearch
  exact absurd ht List.not_mem_nil

end RouteGo.Trips
