import CourierDispatch.Fare
import CourierDispatch.Search

/-!
# Dispatching

What the service does for its callers: quote a route, create a trip and look for a courier,
follow the trip through its statuses, bind a courier by hand, and answer questions.

The operations are those of the `Dispatcher`: `compute_route`, `create_trip` (which calls `spawn_match`),
`report_trip_status`, `assign_courier`, `confirm_pickup`, `get_nearby_couriers`, `get_trip_details` and
`autocomplete`.
-/

namespace CourierDispatch.Dispatch

variable (c : Config)

def reportStatus (trip : Uuid) (status : TripStatus) : Attempt Trip :=
  Trip.reportStatus c.settleDelay trip status

def quote (pickup dropoff : PlaceInput) : Attempt Quote :=
  Quote.make c.routing c.pricer pickup dropoff

/-- The route between two places with the prices on offer. -/
def computeRoute (pickup dropoff : PlaceInput) : Attempt Route := do
  return (← quote c pickup dropoff).route

/-- Quotes a route, records the trip, and starts to look for a courier. -/
def createTrip (requester : Uuid) (pickup dropoff : PlaceInput) : Attempt Trip := do
  let q ← quote c pickup dropoff
  let id ← Attempt.perform .drawId
  let trip ← Attempt.store
    (.createTrip id ⟨requester, q.pickup.point, q.dropoff.point, some q.routeRef⟩)
  let _ ← Attempt.perform (.startRun trip.id trip.start)
  return trip

/-- Reports a status; a trip that is over lets its courier go. -/
def reportTripStatus (trip : Uuid) (status : TripStatus) : Attempt Trip := do
  let t ← reportStatus c trip status
  if status.final ∧ t.courierId.isSome then
    Search.unassign trip
  return t

/-- Binds a given courier to a trip and reports it. -/
def assignCourier (trip courier : Uuid) : Attempt Trip := do
  Search.assign trip courier
  reportStatus c trip .courierAssigned

def confirmPickup (trip : Uuid) (point : GeoPoint) : Attempt Trip :=
  Attempt.store (.setConfirmedPickup trip point)

/-- The couriers around a point, within the search radius unless another one is given. -/
def nearbyCouriers (point : GeoPoint) (radius : Option Float) : Attempt (List Courier) :=
  let radius := radius.getD c.searchRadius
  if Config.usableRadius radius then Attempt.store (.nearbyCouriers point radius)
  else throw (.badRequest s!"invalid radius {Decimal.plainText radius}")

def tripDetails (trip : Uuid) : Attempt Trip := do
  Attempt.orElse (.tripNotFound trip) (← Attempt.store (.getTrip trip))

/-- Suggestions for what is being typed; none for a blank text. -/
def autocomplete (input : String) : Attempt (List PlaceSuggestion) :=
  if Text.blank input then pure [] else Attempt.suggestions input

end CourierDispatch.Dispatch
