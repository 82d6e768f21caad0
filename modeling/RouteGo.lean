import RouteGo.Lib.LTS
import RouteGo.Lib.Pool
import RouteGo.Lib.Atomic
import RouteGo.Lib.OrderBy
import RouteGo.Lib.Project
import RouteGo.Lib.Births
import RouteGo.Lib.Callers
import RouteGo.Lib.Broker
import RouteGo.Lib.Tally
import RouteGo.Lib.Reservation
import RouteGo.Lib.Router
import RouteGo.Lib.Uuid
import RouteGo.Js.Text
import RouteGo.Js.Case
import RouteGo.Bookings.Sequential
import RouteGo.Bookings.Linear
import RouteGo.Bookings.TakenBack
import RouteGo.Bookings.SeatMap
import RouteGo.Bookings.SeatRuns
import RouteGo.Bookings.Statuses
import RouteGo.Bookings.LockRuns
import RouteGo.Bookings.LockKey
import RouteGo.Bookings.Rows
import RouteGo.Bookings.Occupancy
import RouteGo.Bookings.HoldOutcome
import RouteGo.Bookings.Commute
import RouteGo.Bookings.Solo
import RouteGo.Bookings.Controller
import RouteGo.Payments.Lifecycle
import RouteGo.Payments.ChargeOnce
import RouteGo.Payments.RefundOnce
import RouteGo.Payments.Provenance
import RouteGo.Payments.Exact
import RouteGo.Payments.Solo
import RouteGo.Payments.Serial
import RouteGo.Payments.Controller
import RouteGo.Orchestrator.Reply
import RouteGo.Orchestrator.Money
import RouteGo.Orchestrator.Cancel
import RouteGo.Orchestrator.Billing
import RouteGo.Orchestrator.Compensation
import RouteGo.Orchestrator.Retry
import RouteGo.Orchestrator.Frame
import RouteGo.Orchestrator.Validation
import RouteGo.Orchestrator.Controller
import RouteGo.Orchestrator.Kafka
import RouteGo.Orchestrator.Onward
import RouteGo.Orchestrator.Topic
import RouteGo.Orchestrator.Connection
import RouteGo.Orchestrator.Seats
import RouteGo.Orchestrator.Sold
import RouteGo.Orchestrator.InFlight
import RouteGo.Orchestrator.AtOnce
import RouteGo.Utils.TokenKinds
import RouteGo.Utils.TokenExpiry
import RouteGo.Users.UserService
import RouteGo.Users.Register
import RouteGo.Users.Session
import RouteGo.Routes.Service
import RouteGo.Routes.Stops
import RouteGo.Routes.Catalogue
import RouteGo.Trips.BusService
import RouteGo.Trips.BusValidation
import RouteGo.Trips.TripService
import RouteGo.Trips.Layouts
import RouteGo.Gateway.Paid
import RouteGo.Gateway.Identity
import RouteGo.Gateway.Middleware
import RouteGo.Gateway.Mounts
import RouteGo.Gateway.Platform
import RouteGo.Gateway.Catalogues
import RouteGo.Gateway.Sessions
import RouteGo.Gateway.Sagas
import RouteGo.Gateway.Booked
