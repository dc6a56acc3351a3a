import CourierDispatch.Config
import CourierDispatch.Geo.Literal
import CourierDispatch.Job

/-!
# Quotes

A quote resolves the two ends of a trip, finds the way between them, and prices the products
on offer at the pickup for that way. Directions are kept by route key when caching is on; a
cache that cannot be read counts as empty, and one that cannot be written is left alone. The
directions provider's refusals are passed on and never kept.

| here | in the dispatcher |
| --- | --- |
| `make`, `routeRef` | `quote`, `route_ref` |
| `resolve` | `resolve` |
| `directionsBetween`, `fetch` | `directions_between`; what follows a look-up without a way is `fetch` |
| `pricedProducts` | `priced_products` |
| `priceTrip`, `chargedDistance` | `price_trip`, and the distance it settles on first |
-/

namespace CourierDispatch

/-- A priced route with the ends that it was built from. -/
structure Quote where
  pickup : Place
  dropoff : Place
  cacheKey : String
  route : Route
  deriving DecidableEq, Repr

namespace Quote

/-- What a trip keeps of its quote. -/
def routeRef (q : Quote) : RouteRef := ⟨q.cacheKey, q.route.distanceMeters, q.route.polyline⟩

/-- The place that an input names. Coordinates win; an input without them is looked up. -/
def resolve (input : PlaceInput) : Attempt Place :=
  if input.location.isZero then Attempt.place input.placeId
  else pure ⟨input.placeId, input.address, input.location⟩

/-- Asks for directions and keeps them. -/
def fetch (c : RouteConfig) (key : String) (pickup dropoff : GeoPoint) : Attempt Directions := do
  let route ← Attempt.directions pickup dropoff
  let _ ← Attempt.perform (.cacheSet key route c.cacheTtl)
  return route

/-- The way between two points with its key, from the cache where allowed. -/
def directionsBetween (c : RouteConfig) (pickup dropoff : GeoPoint) :
    Attempt (String × Directions) := do
  let key := Geo.routeKey pickup dropoff
  if !c.cacheEnabled then
    Attempt.perform (.countLookup .bypass)
    return (key, ← Attempt.directions pickup dropoff)
  else
    match ← Attempt.perform (.cacheGet key) with
    | .ok (some route) =>
      Attempt.perform (.countLookup .hit)
      return (key, route)
    | .ok none =>
      Attempt.perform (.countLookup .miss)
      return (key, ← fetch c key pickup dropoff)
    | .error _ =>
      Attempt.perform (.countLookup .failed)
      return (key, ← fetch c key pickup dropoff)

/-- The products on offer around a pickup, priced for a distance. -/
def pricedProducts (c : RouteConfig) (pricer : Pricer) (pickup : GeoPoint)
    (distanceMeters : UInt64) : Attempt (List PricedProduct) := do
  let products ← Attempt.store (.nearbyProducts pickup c.productRadius)
  return products.map fun p => ⟨p, pricer.price p distanceMeters⟩

/-- A quote for a trip between two places. -/
def make (c : RouteConfig) (pricer : Pricer) (pickup dropoff : PlaceInput) : Attempt Quote := do
  let pickup ← resolve pickup
  let dropoff ← resolve dropoff
  let (key, directions) ← directionsBetween c pickup.point dropoff.point
  let products ← pricedProducts c pricer pickup.point directions.distanceMeters
  return ⟨pickup, dropoff, key, ⟨directions.polyline, directions.distanceMeters, products⟩⟩

/-- The distance that a trip is charged for: the quoted one, unless the pickup was changed. -/
def chargedDistance (c : RouteConfig) (t : Trip) : Attempt UInt64 :=
  match t.route, t.confirmedPickup with
  | some route, none => pure route.distanceMeters
  | _, _ => do return (← directionsBetween c t.pickup t.finish).2.distanceMeters

/-- The fare of a trip in a product. -/
def priceTrip (c : RouteConfig) (pricer : Pricer) (t : Trip) (product : Product) :
    Attempt UInt64 := do
  return pricer.price product (← chargedDistance c t)

end Quote

end CourierDispatch
