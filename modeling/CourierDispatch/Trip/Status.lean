import CourierDispatch.Json.Decode

/-!
# Trip status

A trip is created, looks for a courier, is served, and ends. Complete and cancelled are final: no
other status replaces them (`allows_transition_to`). A trip whose search found nobody has ended for the
search (`is_terminal`), but a later report may still move it.
-/

namespace CourierDispatch

inductive TripStatus
  | created
  | courierSearching
  | courierFound
  | courierNotFound
  | courierAssigned
  | courierArriving
  | courierEnRoute
  | complete
  | cancelled
  deriving DecidableEq, Repr

namespace TripStatus

def text : TripStatus → String
  | created => "created"
  | courierSearching => "courier_searching"
  | courierFound => "courier_found"
  | courierNotFound => "courier_not_found"
  | courierAssigned => "courier_assigned"
  | courierArriving => "courier_arriving"
  | courierEnRoute => "courier_en_route"
  | complete => "complete"
  | cancelled => "cancelled"

def all : List TripStatus :=
  [created, courierSearching, courierFound, courierNotFound, courierAssigned, courierArriving,
    courierEnRoute, complete, cancelled]

/-- The status with a given name. -/
def named? (name : String) : Option TripStatus := all.find? (·.text = name)

/-- Complete or cancelled: the status that is never replaced. -/
def final : TripStatus → Bool
  | complete | cancelled => true
  | _ => false

/-- No courier is bound any more. -/
def terminal : TripStatus → Bool
  | complete | cancelled | courierNotFound => true
  | _ => false

/-- May a status be replaced by another? Only by itself once it is final. -/
def allows (s next : TripStatus) : Bool := !s.final || s = next

def encode (s : TripStatus) : Json.Value := .text s.text

def decode : Json.Decoder TripStatus := Json.Decoder.choice named?

theorem named?_text (s : TripStatus) : named? s.text = some s := by cases s <;> decide

theorem text_injective {s t : TripStatus} (h : s.text = t.text) : s = t :=
  Option.some.inj ((named?_text s).symm.trans ((congrArg named? h).trans (named?_text t)))

end TripStatus

end CourierDispatch
