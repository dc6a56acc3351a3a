import CourierDispatch.Json.Decode

/-!
# Points

A point on the globe in degrees. A place that was picked from a list of suggestions arrives
without coordinates and reads as the point zero (`is_zero`).
-/

namespace CourierDispatch

structure GeoPoint where
  lat : Float
  lng : Float
  deriving DecidableEq, Repr

namespace GeoPoint

def zero : GeoPoint := ⟨0.0, 0.0⟩

/-- Are both coordinates zero, of either sign? -/
def isZero (p : GeoPoint) : Bool := p.lat == 0.0 && p.lng == 0.0

/-! ## On the wire -/

def encode (p : GeoPoint) : Json.Value :=
  .record [("lat", .real p.lat), ("lng", .real p.lng)]

def shape : Json.Shape GeoPoint :=
  ((Json.Shape.required "lat" Json.Decoder.real).andThen
    (Json.Shape.required "lng" Json.Decoder.real)).map fun (lat, lng) => ⟨lat, lng⟩

def decode : Json.Decoder GeoPoint := shape.decode

end GeoPoint

end CourierDispatch
