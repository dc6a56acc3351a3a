import CourierDispatch.Geo.Point
import CourierDispatch.Route
import CourierDispatch.Timestamp
import CourierDispatch.Trip.Status

/-!
# Trips

A trip runs from a requested start to an end. The courier collects at the confirmed pickup if
there is one, and at the start otherwise.
-/

namespace CourierDispatch

structure Trip where
  id : Uuid
  requesterId : Uuid
  courierId : Option Uuid
  start : GeoPoint
  finish : GeoPoint
  confirmedPickup : Option GeoPoint
  status : TripStatus
  cost : Option UInt64
  route : Option RouteRef
  createdAt : Timestamp
  updatedAt : Timestamp
  deriving DecidableEq, Repr

/-- What a new trip is made from. -/
structure TripRequest where
  requesterId : Uuid
  start : GeoPoint
  finish : GeoPoint
  route : Option RouteRef
  deriving DecidableEq, Repr

namespace Trip

/-- Where the courier collects. -/
def pickup (t : Trip) : GeoPoint := t.confirmedPickup.getD t.start

/-- A trip as it is made. -/
def new (id : Uuid) (now : Timestamp) (r : TripRequest) : Trip where
  id := id
  requesterId := r.requesterId
  courierId := none
  start := r.start
  finish := r.finish
  confirmedPickup := none
  status := .created
  cost := none
  route := r.route
  createdAt := now
  updatedAt := now

/-! ## On the wire -/

open Json (Value Shape Decoder)

def encode (t : Trip) : Value :=
  .record [("id", t.id.encode), ("requester_id", t.requesterId.encode),
    ("courier_id", Value.optional Uuid.encode t.courierId),
    ("start", t.start.encode), ("end", t.finish.encode),
    ("confirmed_pickup", Value.optional GeoPoint.encode t.confirmedPickup),
    ("status", t.status.encode), ("cost", Value.optional Value.natural t.cost),
    ("route", Value.optional RouteRef.encode t.route),
    ("created_at", t.createdAt.encode), ("updated_at", t.updatedAt.encode)]

def shape : Shape Trip :=
  (((((((((((Shape.required "id" Uuid.decode).andThen
    (Shape.required "requester_id" Uuid.decode)).andThen
    (Shape.nullable "courier_id" Uuid.decode)).andThen
    (Shape.required "start" GeoPoint.decode)).andThen
    (Shape.required "end" GeoPoint.decode)).andThen
    (Shape.nullable "confirmed_pickup" GeoPoint.decode)).andThen
    (Shape.required "status" TripStatus.decode)).andThen
    (Shape.nullable "cost" Decoder.natural)).andThen
    (Shape.nullable "route" RouteRef.decode)).andThen
    (Shape.required "created_at" Timestamp.decode)).andThen
    (Shape.required "updated_at" Timestamp.decode)).map
      fun ((((((((((id, requesterId), courierId), start), finish), confirmedPickup), status),
        cost), route), createdAt), updatedAt) =>
        ⟨id, requesterId, courierId, start, finish, confirmedPickup, status, cost, route,
          createdAt, updatedAt⟩

def decode : Decoder Trip := shape.decode

end Trip

end CourierDispatch
