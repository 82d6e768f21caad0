import RouteGo.Bookings.Service
import RouteGo.Utils.Http

/-!
# The handlers of the booking service

`booking.controller.ts`. The user is the one of the `x-user-id` header, else of
the body; segments are numbers or the text of one.
-/

namespace RouteGo.Bookings.Controller

open Js

/-- The query string of `checkAvailability`: of each parameter that was sent, the text
`String` makes of it. -/
structure AvailabilityQuery where
  fromSeq : Option String
  fromStopSeq : Option String
  toSeq : Option String
  toStopSeq : Option String

/-- `req.query.from ?? req.query.fromStopSeq`. -/
def AvailabilityQuery.fromParam (q : AvailabilityQuery) : Option String :=
  q.fromSeq <|> q.fromStopSeq

/-- `req.query.to ?? req.query.toStopSeq`. -/
def AvailabilityQuery.toParam (q : AvailabilityQuery) : Option String := q.toSeq <|> q.toStopSeq

def stopsRequired : AppError :=
  .ValidationError "Query parameters 'from' and 'to' stop sequences are required"

/-- `checkAvailability`, given what `findActiveBookingsForSeat` answers. -/
def checkAvailability (tripId seatId : String) (q : AvailabilityQuery)
    (find : Result (List Booking)) : Result Bool :=
  match q.fromParam, q.toParam with
  | some fromParam, some toParam =>
    Bookings.checkAvailability tripId seatId (.number (parseInt fromParam))
      (.number (parseInt toParam))
      find
  | _, _ => .error stopsRequired

structure HoldBody where
  tripId : Value
  seatId : Value
  userId : Value
  fromStopSeq : Value
  toStopSeq : Value

def userRequired : AppError :=
  .ValidationError "User ID is required. Please authenticate via API Gateway."

/-- How `createHold` ends for a `tripId` or `seatId` that is no string: the checks
of `checkAvailability`, then a query the database client refuses. The lock is
taken and given back. -/
def refuseHold (body : HoldBody) : AppError :=
  let text (v : Value) : String := if v.truthy then v.toText else ""
  match validateSegment (text body.tripId) (text body.seatId) (.number body.fromStopSeq.toSeq)
      (.number body.toStopSeq.toSeq) with
  | .error e => e
  | .ok _ => prismaError

def createHold (env : Env) (x : HoldInputs) (w : World) (xUserId : Header) (body : HoldBody) :
    Result Booking × World :=
  let userId := xUserId.or body.userId
  if !userId.truthy then (.error userRequired, w)
  else match body.tripId, body.seatId with
    | .string tripId, .string seatId =>
      Bookings.createHold env x w ⟨tripId, seatId, userId.toText, .number body.fromStopSeq.toSeq,
        .number body.toStopSeq.toSeq⟩
    | _, _ => (.error (refuseHold body), w)

/-- The arguments the handler passes on, if it does. -/
def holdArgs (xUserId : Header) (body : HoldBody) : Option HoldArgs :=
  let userId := xUserId.or body.userId
  if !userId.truthy then none
  else match body.tripId, body.seatId with
    | .string tripId, .string seatId => some ⟨tripId, seatId, userId.toText,
        .number body.fromStopSeq.toSeq, .number body.toStopSeq.toSeq⟩
    | _, _ => none

theorem createHold_of_holdArgs (env : Env) (x : HoldInputs) (w : World) {xUserId : Header}
    {body : HoldBody} {a : HoldArgs} (h : holdArgs xUserId body = some a) :
    createHold env x w xUserId body = Bookings.createHold env x w a := by
  unfold holdArgs at h
  unfold createHold
  simp only at h ⊢
  split at h
  · cases h
  · next hu =>
    rw [if_neg hu]
    split at h
    · cases h; rfl
    · cases h

theorem createHold_of_no_holdArgs (env : Env) (x : HoldInputs) (w : World) {xUserId : Header}
    {body : HoldBody} (h : holdArgs xUserId body = none) :
    ∃ e, createHold env x w xUserId body = (.error e, w) := by
  unfold holdArgs at h
  unfold createHold
  simp only at h ⊢
  split at h
  · next hu => exact ⟨_, if_pos hu⟩
  · next hu =>
    rw [if_neg hu]
    split at h
    · cases h
    · exact ⟨_, rfl⟩

def confirmBooking (bookings : BookingTable) (now : Int) (id : String) :
    Result Booking × BookingTable := Bookings.confirmBooking bookings now id

/-- A reason that is no string is none of the valid ones. -/
def releaseBooking (bookings : BookingTable) (id : String) (reason : Value) :
    Result Booking × BookingTable :=
  match reason with
  | .string r => Bookings.releaseBooking bookings id r
  | _ => Bookings.releaseBooking bookings id ""

/-- `a` are the arguments the handler passes on. -/
structure Passes (xUserId : Header) (body : HoldBody) (a : HoldArgs) : Prop where
  given : (xUserId.or body.userId).truthy = true
  tripId : body.tripId = .string a.tripId
  seatId : body.seatId = .string a.seatId
  userId : a.userId = (xUserId.or body.userId).toText
  fromSeq : a.fromSeq = .number body.fromStopSeq.toSeq
  toSeq : a.toSeq = .number body.toStopSeq.toSeq

/-- The handler leaves the table alone or adds one granted row. -/
theorem createHold_cases (env : Env) (x : HoldInputs) (w : World) (xUserId : Header)
    (body : HoldBody) :
    (∃ e, (createHold env x w xUserId body).1 = .error e ∧
      (createHold env x w xUserId body).2.bookings = w.bookings) ∨
    ∃ a b, Passes xUserId body a ∧ (createHold env x w xUserId body).1 = .ok b ∧ b.id = x.id ∧
      Granted env x.tQuery x.tStamp w.bookings a b
        (createHold env x w xUserId body).2.bookings := by
  unfold createHold
  simp only
  split
  · exact .inl ⟨_, rfl, rfl⟩
  · next hu =>
    split
    · next tripId seatId ht hs =>
      rcases Bookings.createHold_cases env x w ⟨tripId, seatId, (xUserId.or body.userId).toText,
        .number body.fromStopSeq.toSeq, .number body.toStopSeq.toSeq⟩ with h | ⟨b, hb, hid, hg⟩
      · exact .inl h
      · exact .inr ⟨_, b, ⟨by simpa using hu, ht, hs, rfl, rfl, rfl⟩, hb, hid, hg⟩
    · exact .inl ⟨_, rfl, rfl⟩

/-! ## What the handlers write -/

/-- A row a hold adds is the user's of the request, as its column spells it. -/
theorem userId_createHold {env : Env} {x : HoldInputs} {w : World} {xUserId : Header}
    {body : HoldBody} {b : Booking} (h : b ∈ (createHold env x w xUserId body).2.bookings.rows) :
    b ∈ w.bookings.rows ∨ env.ids.keep (xUserId.or body.userId).toText = some b.userId := by
  rcases createHold_cases env x w xUserId body with ⟨e, -, hb⟩ | ⟨a, c, hp, -, -, hg⟩
  · rw [hb] at h
    exact .inl h
  · rcases (Table.mem_of_insert hg.insert).mp h with h | rfl
    · exact .inl h
    · exact .inr (hp.userId ▸ hg.userId)

theorem writes_createHold (env : Env) (x : HoldInputs) (w : World) (xUserId : Header)
    (body : HoldBody) : Writes w.bookings (createHold env x w xUserId body).2.bookings := by
  rcases createHold_cases env x w xUserId body with ⟨e, -, hb⟩ | ⟨a, b, -, -, -, hg⟩
  · rw [hb]; exact .none
  · exact .insert hg.insert

theorem writes_confirmBooking (bookings : BookingTable) (now : Int) (id : String) :
    Writes bookings (confirmBooking bookings now id).2 := by
  show Writes bookings (Bookings.confirmBooking bookings now id).2
  rcases Bookings.confirmBooking_cases bookings now id with
    ⟨e, hr⟩ | ⟨b, hb, hs, ⟨-, hr⟩ | ⟨-, hr⟩⟩ <;> rw [hr]
  · exact .none
  · exact .free rfl
  · exact .confirm hb hs

theorem writes_releaseBooking (bookings : BookingTable) (id : String) (reason : Value) :
    Writes bookings (releaseBooking bookings id reason).2 := by
  have key : ∀ r, Writes bookings (Bookings.releaseBooking bookings id r).2 := by
    intro r
    rcases Bookings.releaseBooking_cases bookings id r with
      ⟨e, hr⟩ | ⟨b, target, -, ht, hr⟩ <;> rw [hr]
    · exact .none
    · rcases targetStatus_cases ht with rfl | rfl <;> exact .free rfl
  cases reason with
  | string r => exact key r
  | _ => exact key ""

end RouteGo.Bookings.Controller
