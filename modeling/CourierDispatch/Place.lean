import CourierDispatch.Geo.Point

/-!
# Places

A place as a caller names it, as a directory knows it, and as a suggestion for what is being
typed.
-/

namespace CourierDispatch

/-- A pickup or dropoff as a caller names it: by coordinates, or by the id of a place. -/
structure PlaceInput where
  placeId : String
  address : String
  location : GeoPoint
  deriving DecidableEq, Repr

/-- A place with its coordinates. -/
structure Place where
  placeId : String
  address : String
  point : GeoPoint
  deriving DecidableEq, Repr

/-- A place offered for a text that is being typed. -/
structure PlaceSuggestion where
  placeId : String
  description : String
  deriving DecidableEq, Repr

/-! ## On the wire -/

open Json (Value Shape Decoder)

def PlaceInput.encode (p : PlaceInput) : Value :=
  .record [("place_id", .text p.placeId), ("formatted_address", .text p.address),
    ("location", p.location.encode)]

/-- All three fields may be left out. -/
def PlaceInput.shape : Shape PlaceInput :=
  (((Shape.withDefault "place_id" "" Decoder.text).andThen
    (Shape.withDefault "formatted_address" "" Decoder.text)).andThen
    (Shape.withDefault "location" GeoPoint.zero GeoPoint.decode)).map
      fun ((placeId, address), location) => ⟨placeId, address, location⟩

def PlaceInput.decode : Decoder PlaceInput := PlaceInput.shape.decode

def Place.encode (p : Place) : Value :=
  .record [("place_id", .text p.placeId), ("formatted_address", .text p.address),
    ("point", p.point.encode)]

def Place.shape : Shape Place :=
  (((Shape.required "place_id" Decoder.text).andThen
    (Shape.required "formatted_address" Decoder.text)).andThen
    (Shape.required "point" GeoPoint.decode)).map
      fun ((placeId, address), point) => ⟨placeId, address, point⟩

def Place.decode : Decoder Place := Place.shape.decode

def PlaceSuggestion.encode (p : PlaceSuggestion) : Value :=
  .record [("place_id", .text p.placeId), ("description", .text p.description)]

def PlaceSuggestion.shape : Shape PlaceSuggestion :=
  ((Shape.required "place_id" Decoder.text).andThen
    (Shape.required "description" Decoder.text)).map
      fun (placeId, description) => ⟨placeId, description⟩

def PlaceSuggestion.decode : Decoder PlaceSuggestion := PlaceSuggestion.shape.decode

end CourierDispatch
