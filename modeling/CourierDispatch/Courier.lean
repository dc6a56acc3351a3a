import CourierDispatch.Geo.Point
import CourierDispatch.Timestamp
import CourierDispatch.Uuid

/-!
# Couriers

A courier is available when online, located, and not bound to a trip (`is_available`).
-/

namespace CourierDispatch

inductive CourierStatus
  | offline
  | online
  | onboarding
  deriving DecidableEq, Repr

def CourierStatus.text : CourierStatus → String
  | .offline => "offline"
  | .online => "online"
  | .onboarding => "onboarding"

def CourierStatus.all : List CourierStatus := [.offline, .online, .onboarding]

/-- The status with a given name. -/
def CourierStatus.named? (name : String) : Option CourierStatus :=
  all.find? (·.text = name)

structure Courier where
  id : Uuid
  userId : Uuid
  location : Option GeoPoint
  status : CourierStatus
  productId : Uuid
  tripId : Option Uuid
  updatedAt : Timestamp
  deriving DecidableEq, Repr

/-- Online, located and not bound to a trip. -/
def Courier.available (c : Courier) : Bool :=
  c.status = .online && c.location.isSome && c.tripId.isNone

/-! ## On the wire -/

open Json (Value Shape Decoder)

def CourierStatus.encode (s : CourierStatus) : Value := .text s.text

def CourierStatus.decode : Decoder CourierStatus := Decoder.choice CourierStatus.named?

namespace Courier

def encode (c : Courier) : Value :=
  .record [("id", c.id.encode), ("user_id", c.userId.encode),
    ("location", Value.optional GeoPoint.encode c.location), ("status", c.status.encode),
    ("product_id", c.productId.encode), ("trip_id", Value.optional Uuid.encode c.tripId),
    ("updated_at", c.updatedAt.encode)]

def shape : Shape Courier :=
  (((((((Shape.required "id" Uuid.decode).andThen
    (Shape.required "user_id" Uuid.decode)).andThen
    (Shape.nullable "location" GeoPoint.decode)).andThen
    (Shape.required "status" CourierStatus.decode)).andThen
    (Shape.required "product_id" Uuid.decode)).andThen
    (Shape.nullable "trip_id" Uuid.decode)).andThen
    (Shape.required "updated_at" Timestamp.decode)).map
      fun ((((((id, userId), location), status), productId), tripId), updatedAt) =>
        ⟨id, userId, location, status, productId, tripId, updatedAt⟩

def decode : Decoder Courier := shape.decode

end Courier

end CourierDispatch
