import CourierDispatch.Product

/-!
# Routes

What a directions provider answers for an ordered pair of points, the route that a caller is
quoted, and the reference that a trip keeps to it.
-/

namespace CourierDispatch

/-- The answer of a directions provider. -/
structure Directions where
  polyline : String
  distanceMeters : UInt64
  durationSecs : UInt64
  staticDurationSecs : UInt64
  deriving DecidableEq, Repr

/-- A route with the products on offer along it. -/
structure Route where
  polyline : String
  distanceMeters : UInt64
  products : List PricedProduct
  deriving DecidableEq, Repr

/-- What a trip keeps of the route it was quoted. -/
structure RouteRef where
  cacheKey : String
  distanceMeters : UInt64
  polyline : String
  deriving DecidableEq, Repr

/-! ## On the wire -/

open Json (Value Shape Decoder)

def Directions.encode (r : Directions) : Value :=
  .record [("polyline", .text r.polyline), ("distance_meters", .natural r.distanceMeters),
    ("duration_secs", .natural r.durationSecs),
    ("static_duration_secs", .natural r.staticDurationSecs)]

def Directions.shape : Shape Directions :=
  ((((Shape.required "polyline" Decoder.text).andThen
    (Shape.required "distance_meters" Decoder.natural)).andThen
    (Shape.required "duration_secs" Decoder.natural)).andThen
    (Shape.required "static_duration_secs" Decoder.natural)).map
      fun (((polyline, distance), duration), staticDuration) =>
        ⟨polyline, distance, duration, staticDuration⟩

def Directions.decode : Decoder Directions := Directions.shape.decode

def Route.encode (r : Route) : Value :=
  .record [("polyline", .text r.polyline), ("distance_meters", .natural r.distanceMeters),
    ("products", .list (r.products.map PricedProduct.encode))]

/-- The products stand inside two brackets, of the route and of their list. -/
def Route.shape : Shape Route :=
  (((Shape.required "polyline" Decoder.text).andThen
    (Shape.required "distance_meters" Decoder.natural)).andThen
    (Shape.required "products" (Decoder.list (PricedProduct.decodeWithin 2)))).map
      fun ((polyline, distance), products) => ⟨polyline, distance, products⟩

def Route.decode : Decoder Route := Route.shape.decode

def RouteRef.encode (r : RouteRef) : Value :=
  .record [("cache_key", .text r.cacheKey), ("distance_meters", .natural r.distanceMeters),
    ("polyline", .text r.polyline)]

def RouteRef.shape : Shape RouteRef :=
  (((Shape.required "cache_key" Decoder.text).andThen
    (Shape.required "distance_meters" Decoder.natural)).andThen
    (Shape.required "polyline" Decoder.text)).map
      fun ((cacheKey, distance), polyline) => ⟨cacheKey, distance, polyline⟩

def RouteRef.decode : Decoder RouteRef := RouteRef.shape.decode

end CourierDispatch
