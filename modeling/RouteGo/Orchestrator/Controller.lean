import RouteGo.Orchestrator.Cancel

/-!
# The handlers of the orchestrator

`bookingOrchestrator.controller.ts`: what the handlers make of a request before
they call the service.
-/

namespace RouteGo.Orchestrator.Controller

open Js

structure ConfirmBody where
  tripId : Value
  seatId : Value
  userId : Value
  fromStopSeq : Value
  toStopSeq : Value
  amount : Value
  currency : Value

def userRequired : AppError :=
  .ValidationError "User ID is required. Please authenticate via API Gateway."

/-- The input of `confirmBookingSaga`. -/
def confirmInput (xUserId : Header) (body : ConfirmBody) : Result ConfirmBookingInput :=
  let userId := xUserId.or body.userId
  if !userId.truthy then .error userRequired
  else .ok {
    tripId := body.tripId
    seatId := body.seatId
    userId := userId.toText
    fromStopSeq := .number body.fromStopSeq.toSeq
    toStopSeq := .number body.toStopSeq.toSeq
    amount := .number body.amount.toAmount
    currency := body.currency }

/-- The `paymentId` of a cancellation, as the path of the refund has it. -/
def refundId (paymentId : Value) : Option String :=
  if paymentId.truthy then some paymentId.toText else none

end RouteGo.Orchestrator.Controller
