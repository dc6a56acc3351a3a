import CourierDispatch.Store.Basic

/-!
# Store operations as data

Every question to the store and every change of it, with the type of its answer: the methods of a
`GeoStore`. One operation is one indivisible step.
-/

namespace CourierDispatch

inductive StoreOp
  | createTrip (id : Uuid) (request : TripRequest)
  | getTrip (trip : Uuid)
  | setTripStatus (trip : Uuid) (status : TripStatus)
  | setTripCost (trip : Uuid) (cost : UInt64)
  | setConfirmedPickup (trip : Uuid) (point : GeoPoint)
  | assignCourier (trip courier : Uuid)
  | unassignTrip (trip : Uuid)
  | upsertCourier (courier : Courier)
  | getCourier (courier : Uuid)
  | updateCourierLocation (courier : Uuid) (point : GeoPoint)
  | updateCourierStatus (courier : Uuid) (status : CourierStatus)
  | nearestAvailableCourier (point : GeoPoint) (radius : Float)
  | nearbyCouriers (point : GeoPoint) (radius : Float)
  | upsertProduct (product : Product)
  | getProduct (product : Uuid)
  | listProducts
  | nearbyProducts (point : GeoPoint) (radius : Float)
  deriving DecidableEq, Repr

namespace StoreOp

/-- What an operation that is not refused answers. -/
abbrev Answer : StoreOp → Type
  | createTrip .. | setTripStatus .. | setConfirmedPickup .. => Trip
  | getTrip _ => Option Trip
  | setTripCost .. | assignCourier .. | unassignTrip _ => Unit
  | upsertCourier _ | updateCourierLocation .. | updateCourierStatus .. => Courier
  | getCourier _ | nearestAvailableCourier .. => Option Courier
  | nearbyCouriers .. => List Courier
  | upsertProduct _ => Product
  | getProduct _ => Option Product
  | listProducts | nearbyProducts .. => List Product

end StoreOp

namespace Store

/-- An answer that leaves the store as it is. -/
def unchanged (s : Store) (a : α) : Change α := .ok (a, s)

/-- Performs an operation at a point in time. -/
def perform (s : Store) (now : Timestamp) : (op : StoreOp) → Change op.Answer
  | .createTrip id request => .ok (s.createTrip now id request)
  | .getTrip id => s.unchanged (s.trip? id)
  | .setTripStatus id status => s.setTripStatus now id status
  | .setTripCost id cost => s.setTripCost now id cost
  | .setConfirmedPickup id p => s.setConfirmedPickup now id p
  | .assignCourier trip courier => s.assignCourier now trip courier
  | .unassignTrip trip => s.unassignTrip now trip
  | .upsertCourier c => .ok (s.upsertCourier c)
  | .getCourier id => s.unchanged (s.courier? id)
  | .updateCourierLocation id p => s.updateCourierLocation now id p
  | .updateCourierStatus id status => s.updateCourierStatus now id status
  | .nearestAvailableCourier p radius => s.unchanged (s.nearestAvailable p radius)
  | .nearbyCouriers p radius => s.unchanged (s.nearbyCouriers p radius)
  | .upsertProduct p => .ok (s.upsertProduct p)
  | .getProduct id => s.unchanged (s.product? id)
  | .listProducts => s.unchanged s.listProducts
  | .nearbyProducts p radius => s.unchanged (s.nearbyProducts p radius)

/-- The store after an operation; one that is refused leaves it as it was. -/
def after (s : Store) (now : Timestamp) (op : StoreOp) : Store :=
  match s.perform now op with
  | .ok (_, s') => s'
  | .error _ => s

end Store

end CourierDispatch
