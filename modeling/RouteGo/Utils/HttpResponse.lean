import RouteGo.Utils.HttpErrors

/-!
# `AppResponse.error`

What a client gets for an error that was thrown: the status the error carries, or
500 for an error that carries none.
-/

namespace RouteGo

/-- What is thrown: an error of the services, a plain `CustomError`, or the error
of the gateway. -/
inductive HttpError where
  | app (e : AppError)
  | CustomError (message : String) (statusCode : Nat)
  | UnauthorizedError (message : String)
  deriving DecidableEq, Repr

namespace HttpError

def message : HttpError → String
  | .app e => e.message
  | .CustomError m _ => m
  | .UnauthorizedError m => m

/-- `error.statusCode`. -/
def statusCode : HttpError → Option Nat
  | .app (.Error _) => none
  | .app e => some e.statusCode
  | .CustomError _ n => some n
  | .UnauthorizedError _ => some 401

end HttpError

structure ErrorBody where
  success : Bool
  statusCode : Nat
  message : String
  deriving DecidableEq, Repr

structure ErrorResponse where
  status : Nat
  body : ErrorBody
  deriving DecidableEq, Repr

namespace AppResponse

def httpStatus (e : HttpError) : Nat :=
  match e.statusCode with
  | some n => if n = 0 then 500 else n
  | none => 500

def error (e : HttpError) : ErrorResponse := ⟨httpStatus e, ⟨false, httpStatus e, e.message⟩⟩

end AppResponse

end RouteGo
