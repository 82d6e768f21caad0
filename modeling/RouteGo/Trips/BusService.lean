import RouteGo.Js.Case
import RouteGo.Lib.CheckInsert
import RouteGo.Trips.Repository

/-!
# `BusService.createBus`

`busService.ts`: the layout is checked, the plate is looked up in its stored
spelling, and the bus goes in with its seats. However calls interleave, every
stored bus has the seats it says it has, and what is stored is what the calls
that returned have stored (`layouts`): the count is the service's, the plates are
kept apart by the unique index alone.
-/

namespace RouteGo.Trips

open Js

/-- An entry of `seats`: an object, read by its fields, or any other value. -/
inductive SeatEntry where
  | object (seatNumber seatType : Value)
  | value (v : Value)

/-- The body of the request; `none` for `seats` that are no array. -/
structure CreateBusDto where
  registrationNumber : Value
  operatorName : Value
  busType : Value
  totalSeats : Value
  seats : Option (List SeatEntry)

/-- What `createBus` stores. -/
structure BusLayout where
  busData : BusData
  seats : List CreateSeatDto

/-! ## Validation -/

def registrationRequired : AppError :=
  .ValidationError "Registration number is required and must be non-empty"

def operatorRequired : AppError :=
  .ValidationError "Operator name is required and must be non-empty"

def invalidBusType : AppError :=
  .ValidationError ("Invalid busType. Allowed values: " ++
    ", ".intercalate (BusType.values.map BusType.text))

def totalSeatsPositive : AppError := .ValidationError "totalSeats must be a positive integer"

def seatsRequired : AppError := .ValidationError "Seats array is required"

def seatsMismatch (length : Nat) (totalSeats : Number) : AppError :=
  .ValidationError ("Seats array length (" ++ toString length ++ ") must match totalSeats (" ++
    totalSeats.toText ++ ")")

def invalidSeatNumber (position : Nat) : AppError :=
  .ValidationError ("Seat at position " ++ toString position ++ " has an invalid seatNumber")

def invalidSeatType (seatNumber : Value) : AppError :=
  .ValidationError ("Seat " ++ seatNumber.toText ++ " has invalid seatType. Allowed values: " ++
    ", ".intercalate (SeatType.values.map SeatType.text))

def duplicateSeat (seatNumber : String) : AppError :=
  .ValidationError ("Duplicate seatNumber '" ++ seatNumber ++ "' provided in seat layout")

/-- The `TypeError` of a field access on `null` or `undefined`. -/
def cannotRead (v : Value) : AppError :=
  .Error ("Cannot read properties of " ++ v.toText ++ " (reading 'seatNumber')")

/-- `seat.seatNumber` and `seat.seatType`; a primitive value has neither. -/
def SeatEntry.fields : SeatEntry → Result (Value × Value)
  | .object seatNumber seatType => .ok (seatNumber, seatType)
  | .value .null => .error (cannotRead .null)
  | .value .undefined => .error (cannotRead .undefined)
  | .value _ => .ok (.undefined, .undefined)

/-- The entries from position `n` on, trimmed; `seenSeats` are the numbers before them. -/
def validateSeats : Nat → List String → List SeatEntry → Result (List CreateSeatDto)
  | _, _, [] => .ok []
  | n, seenSeats, seat :: seats => do
    let (seatNumber, seatType) ← seat.fields
    match seatNumber.trimmed with
    | none => .error (invalidSeatNumber n)
    | some trimmedNum =>
      match SeatType.ofValue seatType with
      | none => .error (invalidSeatType seatNumber)
      | some t =>
        if trimmedNum ∈ seenSeats then .error (duplicateSeat trimmedNum)
        else do
          let rest ← validateSeats (n + 1) (trimmedNum :: seenSeats) seats
          return ⟨trimmedNum, t⟩ :: rest

/-- A number that is neither falsy nor `<= 0`. -/
def positiveNumber : Value → Option Number
  | .number n => if !(Value.number n).truthy || n.le (.fin 0) then none else some n
  | _ => none

/-- The checks in the order of the source. -/
def validateBus (data : CreateBusDto) : Result BusLayout :=
  match data.registrationNumber.trimmed with
  | none => .error registrationRequired
  | some registrationNumber =>
    match data.operatorName.trimmed with
    | none => .error operatorRequired
    | some operatorName =>
      match BusType.ofValue data.busType with
      | none => .error invalidBusType
      | some busType =>
        match positiveNumber data.totalSeats with
        | none => .error totalSeatsPositive
        | some totalSeats =>
          match data.seats with
          | none => .error seatsRequired
          | some seats =>
            if seats = [] then .error seatsRequired
            else if Number.ofInt seats.length ≠ totalSeats then
              .error (seatsMismatch seats.length totalSeats)
            else do
              let layout ← validateSeats 1 [] seats
              return ⟨⟨toUpperCase registrationNumber, operatorName, busType, totalSeats⟩, layout⟩

def busTaken (registrationNumber : String) : AppError :=
  .ConflictError ("Bus with registration number '" ++ registrationNumber ++ "' already exists")

/-- The three stages of `createBus`. -/
def createBus : CheckInsert TripStore CreateBusDto BusLayout NewIds BusWithSeats AppError where
  check := validateBus
  taken store d := (findByRegistrationNumber store d.busData.registrationNumber).isSome
  conflict d := busTaken d.busData.registrationNumber
  insert store ids d := createBusWithSeats store ids d.busData d.seats
  fault := prismaError

abbrev BusCall := CheckInsert.Call CreateBusDto BusLayout BusWithSeats AppError

abbrev BusEvent := Pool.Event (CheckInsert.StepIn NewIds) Empty

/-! ## What a checked layout is -/

section
variable {n : Nat} {seen : List String} {seat : SeatEntry} {entries : List SeatEntry}
  {seats : List CreateSeatDto} {data : CreateBusDto} {d : BusLayout}

theorem validateSeats_cons (h : validateSeats n seen (seat :: entries) = .ok seats) :
    ∃ c rest, seats = c :: rest ∧ trim c.seatNumber = c.seatNumber ∧ c.seatNumber ≠ "" ∧
      c.seatNumber ∉ seen ∧ validateSeats (n + 1) (c.seatNumber :: seen) entries = .ok rest := by
  rw [validateSeats] at h
  cases hf : seat.fields with
  | error e => rw [hf] at h; cases h
  | ok fields =>
    obtain ⟨seatNumber, seatType⟩ := fields
    simp only [hf, bind, Except.bind] at h
    split at h
    · cases h
    · next trimmedNum ht =>
      split at h
      · cases h
      · next t hst =>
        split at h
        · cases h
        · next hseen =>
          obtain ⟨htrim, hne⟩ := Value.trim_of_trimmed ht
          cases hr : validateSeats (n + 1) (trimmedNum :: seen) entries with
          | error e => rw [hr] at h; cases h
          | ok rest =>
            rw [hr] at h
            cases h
            exact ⟨⟨trimmedNum, t⟩, rest, rfl, htrim, hne, hseen, hr⟩

theorem length_of_validateSeats (h : validateSeats n seen entries = .ok seats) :
    seats.length = entries.length := by
  induction entries generalizing n seen seats with
  | nil => cases h; rfl
  | cons seat entries ih =>
    obtain ⟨c, rest, rfl, -, -, -, hr⟩ := validateSeats_cons h
    simp only [List.length_cons, ih hr]

theorem trim_of_validateSeats (h : validateSeats n seen entries = .ok seats) :
    ∀ c ∈ seats, trim c.seatNumber = c.seatNumber ∧ c.seatNumber ≠ "" := by
  induction entries generalizing n seen seats with
  | nil => cases h; simp
  | cons seat entries ih =>
    obtain ⟨c, rest, rfl, htrim, hne, -, hr⟩ := validateSeats_cons h
    intro x hx
    rcases List.mem_cons.mp hx with rfl | hx
    · exact ⟨htrim, hne⟩
    · exact ih hr x hx

/-- No number twice, and none that was seen before. -/
theorem nodup_of_validateSeats (h : validateSeats n seen entries = .ok seats) :
    (seats.map CreateSeatDto.seatNumber).Nodup ∧ ∀ c ∈ seats, c.seatNumber ∉ seen := by
  induction entries generalizing n seen seats with
  | nil => cases h; simp
  | cons seat entries ih =>
    obtain ⟨c, rest, rfl, -, -, hseen, hr⟩ := validateSeats_cons h
    obtain ⟨hnodup, hnot⟩ := ih hr
    refine ⟨?_, fun x hx => ?_⟩
    · rw [List.map_cons, List.nodup_cons]
      refine ⟨fun hm => ?_, hnodup⟩
      obtain ⟨x, hx, heq⟩ := List.mem_map.mp hm
      exact hnot x hx (heq ▸ List.mem_cons_self)
    · rcases List.mem_cons.mp hx with rfl | hx
      · exact hseen
      · exact fun hs => hnot x hx (List.mem_cons_of_mem _ hs)

/-- What the checks let through. -/
structure BusLayout.Checked (d : BusLayout) : Prop where
  plate_trim : trim d.busData.registrationNumber = d.busData.registrationNumber
  plate_upper : toUpperCase d.busData.registrationNumber = d.busData.registrationNumber
  total : d.busData.totalSeats = .ofInt d.seats.length
  nonempty : d.seats ≠ []
  numbers : ∀ c ∈ d.seats, trim c.seatNumber = c.seatNumber ∧ c.seatNumber ≠ ""
  distinct : (d.seats.map CreateSeatDto.seatNumber).Nodup

theorem validateBus_ok (h : validateBus data = .ok d) :
    ∃ registrationNumber operatorName busType totalSeats entries seats,
      data.registrationNumber.trimmed = some registrationNumber ∧
      data.operatorName.trimmed = some operatorName ∧ BusType.ofValue data.busType = some busType ∧
      positiveNumber data.totalSeats = some totalSeats ∧ data.seats = some entries ∧
      entries ≠ [] ∧ totalSeats = .ofInt entries.length ∧ validateSeats 1 [] entries = .ok seats ∧
      d = ⟨⟨toUpperCase registrationNumber, operatorName, busType, totalSeats⟩, seats⟩ := by
  unfold validateBus at h
  split at h
  · cases h
  · next r hr =>
    split at h
    · cases h
    · next o ho =>
      split at h
      · cases h
      · next t ht =>
        split at h
        · cases h
        · next total htotal =>
          split at h
          · cases h
          · next entries he =>
            split at h
            · cases h
            · next hne =>
              split at h
              · cases h
              · next hlen =>
                cases hs : validateSeats 1 [] entries with
                | error e => rw [hs] at h; cases h
                | ok seats =>
                  rw [hs] at h
                  cases h
                  exact ⟨r, o, t, total, entries, seats, hr, ho, ht, htotal, he, hne,
                    (not_not.mp hlen).symm, hs, rfl⟩

theorem checked_of_validateBus (h : validateBus data = .ok d) : d.Checked := by
  obtain ⟨r, o, t, total, entries, seats, hr, -, -, -, -, hne, rfl, hs, rfl⟩ := validateBus_ok h
  have hlen := length_of_validateSeats hs
  exact {
    plate_trim := trim_toUpperCase (Value.trim_of_trimmed hr).1
    plate_upper := toUpperCase_toUpperCase r
    total := congrArg (fun n : Nat => Number.ofInt n) hlen.symm
    nonempty := by
      rintro rfl
      exact hne (List.length_eq_zero_iff.mp hlen.symm)
    numbers := trim_of_validateSeats hs
    distinct := (nodup_of_validateSeats hs).1 }

end

/-! ## Stored layouts -/

/-- Every bus has the seats it says it has, under the plate and the numbers the
service makes of what it is sent. -/
structure LayoutsOk (store : TripStore) : Prop where
  total : ∀ b ∈ store.buses.rows, b.totalSeats = (store.seatsOf b.id).length ∧ 0 < b.totalSeats
  numbers : ∀ s ∈ store.seats.rows, trim s.seatNumber = s.seatNumber ∧ trim s.seatNumber ≠ ""
  distinct : ∀ busId, ((store.seatsOf busId).map Seat.seatNumber).Nodup
  plates : ∀ b ∈ store.buses.rows, trim b.registrationNumber = b.registrationNumber ∧
    toUpperCase b.registrationNumber = b.registrationNumber
  plates_distinct : (store.buses.rows.map Bus.registrationNumber).Nodup

section
variable {store store' : TripStore} {ids : NewIds} {d : BusLayout} {a : BusWithSeats}

theorem layoutsOk_empty : LayoutsOk TripStore.empty := by
  constructor <;> simp [TripStore.empty, TripStore.seatsOf]

/-- Of what the checks let through the database refuses a plate that is taken and
a count that `INTEGER` does not hold. -/
theorem refused_of_checked {e : AppError} (hd : d.Checked)
    (h : createBus.insert store ids d = some (.error e)) :
    createBus.taken store d = true ∨ 2 ^ 31 ≤ d.seats.length := by
  by_cases hlen : 2 ^ 31 ≤ d.seats.length
  · exact .inr hlen
  · left
    by_contra ht
    have hplate : ∀ b ∈ store.buses.rows, b.registrationNumber ≠ d.busData.registrationNumber :=
      fun b hb heq => ht (findByRegistrationNumber_isSome_iff.mpr ⟨b, hb, heq⟩)
    have hint : d.busData.totalSeats.toInt4 = some (d.seats.length : Int) := by
      rw [hd.total]
      exact Number.toInt4_ofInt (by omega) (by omega)
    simp only [createBus, createBusWithSeats, hint] at h
    split at h
    · cases h
    · rw [dif_pos ⟨hplate, hd.distinct⟩] at h
      split at h <;> cases h

/-- The new bus has the seats it says it has. -/
theorem total_of_checked (hd : d.Checked) (hc : BusCreated store d.busData d.seats a store') :
    a.bus.totalSeats = a.seats.length ∧ 0 < a.bus.totalSeats := by
  have hlen : a.seats.length = d.seats.length := by
    rw [← List.length_map (f := Seat.seatNumber), hc.numbers, List.length_map]
  have htotal : a.bus.totalSeats = a.seats.length := by
    have hn := hc.total
    rw [hd.total, ← hlen] at hn
    exact Number.eq_of_toInt4_ofInt hn
  have hpos := List.length_pos_iff.mpr hd.nonempty
  exact ⟨htotal, by omega⟩

theorem number_of_checked {s : Seat} (hd : d.Checked)
    (hc : BusCreated store d.busData d.seats a store') (hs : s ∈ a.seats) :
    trim s.seatNumber = s.seatNumber ∧ trim s.seatNumber ≠ "" := by
  have hm : s.seatNumber ∈ d.seats.map CreateSeatDto.seatNumber :=
    hc.numbers ▸ List.mem_map_of_mem hs
  obtain ⟨c, hcm, heq⟩ := List.mem_map.mp hm
  obtain ⟨htrim, hne⟩ := hd.numbers c hcm
  rw [← heq, htrim]
  exact ⟨rfl, hne⟩

theorem layoutsOk_insert (hok : LayoutsOk store) (hd : d.Checked)
    (h : createBus.insert store ids d = some (.ok (a, store'))) : LayoutsOk store' := by
  have hc : BusCreated store d.busData d.seats a store' := createBusWithSeats_ok h
  exact {
    total := fun b hb => by
      rcases hc.mem_buses.mp hb with hb | rfl
      · rw [hc.seatsOf_ne (hc.ne_of_mem hb)]
        exact hok.total b hb
      · rw [hc.seatsOf_self]
        exact total_of_checked hd hc
    numbers := fun s hs => by
      rcases hc.mem_seats.mp hs with hs | hs
      · exact hok.numbers s hs
      · exact number_of_checked hd hc hs
    distinct := nodup_seatsOf store'
    plates := fun b hb => by
      rcases hc.mem_buses.mp hb with hb | rfl
      · exact hok.plates b hb
      · rw [hc.registration]
        exact ⟨hd.plate_trim, hd.plate_upper⟩
    plates_distinct := store'.registrations }

end

/-- A call that throws has left nothing: what is stored is what the calls that
returned have put there, and only their last step changes the store. -/
structure NothingLeft (p : Pool TripStore BusCall) : Prop where
  buses : ∀ b ∈ p.shared.buses.rows, ∃ a, CheckInsert.Returned p a ∧ a.bus = b
  seats : ∀ s ∈ p.shared.seats.rows, ∃ a, CheckInsert.Returned p a ∧ s ∈ a.seats
  steps : ∀ (i : Nat) e p' c', Pool.step createBus.spec p (.proc i e) = some p' →
    p'.procs[i]? = some c' → (∀ a, c'.pc ≠ .done (.ok a)) → p'.shared = p.shared

/-- **Layouts.** After any interleaving of calls every bus is stored with the
seats it says it has, and no call that threw has left anything. -/
theorem layouts {p : Pool TripStore BusCall}
    (h : (createBus.calls fun store => store = TripStore.empty).Reachable p) :
    LayoutsOk p.shared ∧ NothingLeft p := by
  refine ⟨?_, ?_, ?_, ?_⟩
  · refine CheckInsert.invariant (fun store hs => ?_) (fun store q d ids a s' hok hq hi => ?_) h
    · subst hs
      exact layoutsOk_empty
    · exact layoutsOk_insert hok (checked_of_validateBus hq) hi
  · refine CheckInsert.origin (fun (store : TripStore) b => b ∈ store.buses.rows)
      (fun (a : BusWithSeats) b => a.bus = b) (fun store hs b hb => ?_)
      (fun s d ids a s' hi b hb => ?_) h
    · subst hs
      exact absurd hb List.not_mem_nil
    · have hc := createBusWithSeats_ok hi
      exact (hc.mem_buses.mp hb).imp_right Eq.symm
  · refine CheckInsert.origin (fun (store : TripStore) s => s ∈ store.seats.rows)
      (fun (a : BusWithSeats) s => s ∈ a.seats) (fun store hs s hm => ?_)
      (fun s d ids a s' hi x hx => ?_) h
    · subst hs
      exact absurd hm List.not_mem_nil
    · have hc := createBusWithSeats_ok hi
      exact hc.mem_seats.mp hx
  · intro i e p' c' hst hc' hn
    obtain ⟨c, s', c'', hc, ha, rfl⟩ := Pool.step_proc hst
    have heq : c'' = c' := by
      rw [Pool.getElem?_set_self_of hc] at hc'
      exact Option.some.inj hc'
    subst heq
    exact CheckInsert.unchanged ha hn

/-- Two requests for one bus, its plate spelled in two ways. -/
def twoBuses : Pool TripStore BusCall where
  shared := TripStore.empty
  procs := [" kl-07-ab-1 ", "KL-07-AB-1"].map fun plate => ⟨⟨.string plate, .string "Kaveri",
    .string "AC_SEATER", .ofInt 2, some [.object (.string "1A") (.string "WINDOW"),
      .object (.string " 1B") (.string "AISLE")]⟩, .start⟩

/-- Both look their plate up before either inserts; the second insert is refused. -/
def busRace : List BusEvent :=
  [.proc 0 ⟨⟨"", []⟩, false⟩, .proc 1 ⟨⟨"", []⟩, false⟩, .proc 0 ⟨⟨"b1", ["s1", "s2"]⟩, false⟩,
    .proc 1 ⟨⟨"b2", ["s3", "s4"]⟩, false⟩]

def twoBusesAfter (es : List BusEvent) : Pool TripStore BusCall :=
  (LTS.execAll (Pool.step createBus.spec) twoBuses es).getD twoBuses

/-- One of the two buses is stored. -/
theorem layouts_race : (twoBusesAfter busRace).shared.buses.rows =
      [⟨"b1", "KL-07-AB-1", "Kaveri", .AC_SEATER, 2⟩] ∧
    LayoutsOk (twoBusesAfter busRace).shared ∧ NothingLeft (twoBusesAfter busRace) := by
  have hinit : twoBuses.shared = TripStore.empty ∧ ∀ c ∈ twoBuses.procs, c.pc = .start := by
    refine ⟨rfl, fun c hc => ?_⟩
    obtain ⟨plate, -, rfl⟩ := List.mem_map.mp hc
    rfl
  have hrows : (twoBusesAfter busRace).shared.buses.rows =
      [⟨"b1", "KL-07-AB-1", "Kaveri", .AC_SEATER, 2⟩] := by decide +kernel
  refine ⟨hrows, ?_⟩
  unfold twoBusesAfter at hrows ⊢
  cases hp : LTS.execAll (Pool.step createBus.spec) twoBuses busRace with
  | none => rw [hp] at hrows; cases hrows
  | some p => exact layouts (LTS.reachable_of_execAll busRace hinit hp)

end RouteGo.Trips
