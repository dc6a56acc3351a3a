import CourierDispatch.Geo.Point
import CourierDispatch.Trip.Status
import CourierDispatch.Uuid

/-!
# Notices

A status change is announced on up to two channels: one that follows a trip, and one on which
couriers learn what concerns them. `TripStatus.channels` says which (`channels_for`); a cancellation is
announced to couriers, and only while no courier is bound.
-/

namespace CourierDispatch

inductive Channel
  | tripUpdates
  | assignment
  deriving DecidableEq, Repr

namespace Channel

/-- The name of a channel as it is written on records. -/
def text : Channel → String
  | tripUpdates => "trip_updates"
  | assignment => "assignment"

/-- The name of a channel for readers of a log. -/
def title : Channel → String
  | tripUpdates => "trip-updates"
  | assignment => "assignment"

def named? (name : String) : Option Channel := [tripUpdates, assignment].find? (·.text = name)

def encode (c : Channel) : Json.Value := .text c.text

def decode : Json.Decoder Channel := Json.Decoder.choice named?

end Channel

/-- The channels on which a status is announced, in order. -/
def TripStatus.channels : TripStatus → List Channel
  | .courierArriving | .courierEnRoute | .complete | .courierNotFound => [.tripUpdates]
  | .courierAssigned => [.tripUpdates, .assignment]
  | .cancelled => [.assignment]
  | .created | .courierSearching | .courierFound => []

/-- What is announced about a trip. -/
structure TripUpdate where
  tripId : Uuid
  status : TripStatus
  courierId : Option Uuid
  courierLocation : Option GeoPoint
  deriving DecidableEq, Repr

namespace TripUpdate

open Json (Value Shape Decoder)

/-- A member that is left out where there is no value. -/
def memberOf (name : String) (encode : α → Value) : Option α → List (String × Value)
  | some a => [(name, encode a)]
  | none => []

def encode (u : TripUpdate) : Value :=
  .record ([("trip_id", u.tripId.encode), ("status", u.status.encode)] ++
    memberOf "courier_id" Uuid.encode u.courierId ++
    memberOf "courier_location" GeoPoint.encode u.courierLocation)

def shape : Shape TripUpdate :=
  ((((Shape.required "trip_id" Uuid.decode).andThen
    (Shape.required "status" TripStatus.decode)).andThen
    (Shape.withDefault "courier_id" none (Decoder.optional Uuid.decode))).andThen
    (Shape.withDefault "courier_location" none (Decoder.optional GeoPoint.decode))).map
      fun (((tripId, status), courierId), courierLocation) =>
        ⟨tripId, status, courierId, courierLocation⟩

def decode : Decoder TripUpdate := shape.decode

end TripUpdate

end CourierDispatch
