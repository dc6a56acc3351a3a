import CourierDispatch.Json.Value
import CourierDispatch.Trip.Status
import CourierDispatch.Uuid

/-!
# What can go wrong

The ways in which a request is refused or fails, what is said about each, and the status with
which it is answered (`into_response`).
-/

namespace CourierDispatch

inductive DispatchError
  | notFound (what : String)
  | badRequest (what : String)
  /-- The courier is bound to a trip already. -/
  | courierAlreadyAssigned (courier : Uuid)
  /-- The trip has a courier already, or has ended. -/
  | tripNotAssignable (trip : Uuid)
  /-- The trip has a final status. -/
  | tripClosed (trip : Uuid) (status : TripStatus)
  /-- A service that this one depends on has failed. -/
  | provider (what : String)
  | persistence (what : String)
  | internal (what : String)
  deriving DecidableEq, Repr

namespace DispatchError

def tripNotFound (id : Uuid) : DispatchError := .notFound s!"trip {id} not found"

def courierNotFound (id : Uuid) : DispatchError := .notFound s!"courier {id} not found"

def productNotFound (id : Uuid) : DispatchError := .notFound s!"product {id} not found"

def message : DispatchError → String
  | notFound what => s!"not found: {what}"
  | badRequest what => s!"bad request: {what}"
  | courierAlreadyAssigned courier => s!"courier {courier} already has an active trip"
  | tripNotAssignable trip => s!"trip {trip} already has a courier or has ended"
  | tripClosed trip status => s!"trip {trip} is already {status.text}"
  | provider what => s!"upstream failure: {what}"
  | persistence what => s!"persistence failure: {what}"
  | internal what => s!"internal error: {what}"

/-- The status code of the answer. -/
def status : DispatchError → Nat
  | notFound _ => 404
  | badRequest _ => 400
  | courierAlreadyAssigned _ | tripNotAssignable _ | tripClosed _ _ => 409
  | provider _ => 502
  | persistence _ | internal _ => 500

/-- The body of the answer. -/
def body (e : DispatchError) : Json.Value := .record [("error", .text e.message)]

end DispatchError

end CourierDispatch
