/-!
# Errors of the services

The subclasses of `CustomError` the services throw, with the status each one
answers with; `Error` is any other error (Prisma, Redis, an unreachable host).
-/

namespace RouteGo

inductive AppError where
  | ValidationError (message : String)
  | NotFoundError (message : String)
  | ConflictError (message : String)
  | Error (message : String)
  deriving DecidableEq, Repr

namespace AppError

def message : AppError → String
  | .ValidationError m | .NotFoundError m | .ConflictError m | .Error m => m

/-- The status `AppResponse.error` sends. -/
def statusCode : AppError → Nat
  | .ValidationError _ => 400
  | .NotFoundError _ => 404
  | .ConflictError _ => 409
  | .Error _ => 500

end AppError

/-- The error of a database operation that threw, which no service inspects. -/
def prismaError : AppError := .Error "Invalid prisma invocation"

/-- How a call ends: with a value or with a thrown error. -/
abbrev Result (α : Type) := Except AppError α

end RouteGo
