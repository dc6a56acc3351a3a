import CourierDispatch.Http.Feed

/-!
# Calls

Everything that can be asked of the service from outside as a value, and the job that answers it: the
operations of the `Dispatcher`, its parts by themselves, and requests.
-/

namespace CourierDispatch

inductive Call
  | createTrip (requester : Uuid) (pickup dropoff : PlaceInput)
  | computeRoute (pickup dropoff : PlaceInput)
  /-- Reports a status and lets the courier of a trip go that is over. -/
  | reportTripStatus (trip : Uuid) (status : TripStatus)
  /-- Binds a courier and reports it. -/
  | assignCourier (trip courier : Uuid)
  | confirmPickup (trip : Uuid) (point : GeoPoint)
  | nearbyCouriers (point : GeoPoint) (radius : Option Float)
  | tripDetails (trip : Uuid)
  /-- Suggestions for a text; none for a blank one. -/
  | autocomplete (input : String)
  /-- Reports a status and nothing else. -/
  | reportStatus (trip : Uuid) (status : TripStatus)
  | resolve (place : PlaceInput)
  | quote (pickup dropoff : PlaceInput)
  | directions (pickup dropoff : GeoPoint)
  | pricedProducts (pickup : GeoPoint) (distanceMeters : UInt64)
  | priceTrip (trip : Trip) (product : Product)
  /-- Suggestions for any text. -/
  | suggest (input : String)
  | cacheGet (key : String)
  | cacheSet (key : String) (route : Directions) (ttl : Nat)
  /-- Starts a search in the background. -/
  | startRun (trip : Uuid) (pickup : GeoPoint)
  /-- Searches without a slot, and waits for the outcome. -/
  | search (trip : Uuid) (pickup : GeoPoint)
  /-- Binds a courier and nothing else. -/
  | bind (trip courier : Uuid)
  | release (trip : Uuid)
  | sleep (duration : Nat)
  | request (r : Http.Request)
  | openFeed (h : Http.Handshake)
  deriving DecidableEq, Repr

inductive Answer
  | done
  | trip (t : Trip)
  | couriers (cs : List Courier)
  | route (r : Route)
  | quote (q : Quote)
  | place (p : Place)
  | suggestions (ss : List PlaceSuggestion)
  | directions (key : String) (r : Directions)
  | products (ps : List PricedProduct)
  | amount (n : UInt64)
  | cached (r : Option Directions)
  | started (b : Bool)
  | outcome (o : MatchOutcome)
  | response (r : Http.Response)
  | opening (o : Http.Opening)
  | refused (e : DispatchError)
  deriving DecidableEq, Repr

/-- An attempt as an answer. -/
def Call.answerOf (wrap : α → Answer) (a : Attempt α) : Job Answer := do
  match ← a.result with
  | .ok v => pure (wrap v)
  | .error e => pure (.refused e)

/-- The job that answers a call. -/
def Call.job (c : Config) : Call → Job Answer
  | .createTrip requester pickup dropoff =>
      answerOf .trip (Dispatch.createTrip c requester pickup dropoff)
  | .computeRoute pickup dropoff => answerOf .route (Dispatch.computeRoute c pickup dropoff)
  | .reportTripStatus trip status => answerOf .trip (Dispatch.reportTripStatus c trip status)
  | .assignCourier trip courier => answerOf .trip (Dispatch.assignCourier c trip courier)
  | .confirmPickup trip p => answerOf .trip (Dispatch.confirmPickup trip p)
  | .nearbyCouriers p radius => answerOf .couriers (Dispatch.nearbyCouriers c p radius)
  | .tripDetails trip => answerOf .trip (Dispatch.tripDetails trip)
  | .autocomplete input => answerOf .suggestions (Dispatch.autocomplete input)
  | .reportStatus trip status => answerOf .trip (Dispatch.reportStatus c trip status)
  | .resolve place => answerOf .place (Quote.resolve place)
  | .quote pickup dropoff => answerOf .quote (Dispatch.quote c pickup dropoff)
  | .directions a b =>
      answerOf (fun (key, r) => .directions key r) (Quote.directionsBetween c.routing a b)
  | .pricedProducts p distance =>
      answerOf .products (Quote.pricedProducts c.routing c.pricer p distance)
  | .priceTrip t product => answerOf .amount (Quote.priceTrip c.routing c.pricer t product)
  | .suggest input => answerOf .suggestions (Attempt.suggestions input)
  | .cacheGet key => answerOf .cached (ExceptT.mk (Job.perform (.cacheGet key)))
  | .cacheSet key route ttl =>
      answerOf (fun _ => .done) (ExceptT.mk (Job.perform (.cacheSet key route ttl)))
  | .startRun trip pickup => Answer.started <$> Job.perform (.startRun trip pickup)
  | .search trip pickup => Answer.outcome <$> Search.run c.matching c.settleDelay trip pickup
  | .bind trip courier => answerOf (fun _ => .done) (Search.assign trip courier)
  | .release trip => answerOf (fun _ => .done) (Search.unassign trip)
  | .sleep duration => do
      Job.perform (.sleep duration)
      return .done
  | .request r => Answer.response <$> Http.handle c r
  | .openFeed h => Answer.opening <$> Http.openFeed c h

end CourierDispatch
