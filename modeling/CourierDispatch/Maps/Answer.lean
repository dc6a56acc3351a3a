import CourierDispatch.Decimal.Numeral
import CourierDispatch.DispatchError
import CourierDispatch.Http.Reason
import CourierDispatch.Place
import CourierDispatch.Route
import CourierDispatch.Text.Utf8

/-!
# Answers of the maps services

Directions, place details and suggestions arrive as JSON. An answer is trusted only when it is
clean: its body decodes, it carries no error with a code, and its status says success, in this
order. What is not clean is a failure of the provider.

`readClean` is `decode` with the `check_error` behind it, `durationSecs` is `parse_duration_secs`, and the
three readers are what `compute_route`, `place_details` and `autocomplete` do with an answer.

Fields that are left out of an answer count as empty, `0` or absent. Which charset a body is written in is
for the transport to find out; an answer has its text.
-/

namespace CourierDispatch.Maps

open Json (Value Shape Decoder)

/-- What comes back for a request. -/
structure Incoming where
  status : Nat
  /-- The body, read in the charset that the answer names or its first bytes tell. -/
  text : String
  deriving DecidableEq, Repr

/-- The error that an answer carries; code `0` stands for none. -/
structure ApiError where
  code : Int
  message : String
  status : String
  deriving DecidableEq, Repr

def ApiError.shape : Shape ApiError :=
  (((Shape.withDefault "code" 0 Decoder.integer).andThen
    (Shape.withDefault "message" "" Decoder.text)).andThen
    (Shape.withDefault "status" "" Decoder.text)).map
      fun ((code, message), status) => ⟨code, message, status⟩

def ApiError.report (e : ApiError) : DispatchError :=
  .provider s!"google api error {e.code} {e.status}: {e.message}"

/-- Reads the answer to a question about `what`, if it is clean. -/
def readClean (what : String) (decode : Decoder (α × Option ApiError)) (r : Incoming) :
    Except DispatchError α :=
  match decode.readAll r.text with
  | .error _ => .error (.provider s!"{what} returned {Http.statusText r.status}: {r.text}")
  | .ok (a, fault) =>
    match fault.filter (·.code ≠ 0) with
    | some e => .error e.report
    | none =>
      if Http.succeeded r.status then .ok a
      else .error (.provider s!"{what} returned {Http.statusText r.status}")

/-- The fields of an answer, and the error that it may carry. -/
def withError (s : Shape α) : Decoder (α × Option ApiError) :=
  (s.andThen (Shape.nullable "error" ApiError.shape.decode)).decode

/-! ## Directions -/

/-- A number of seconds with an `s` behind it; anything else is `0`. -/
def durationSecs (s : Option String) : UInt64 :=
  match s with
  | none => 0
  | some s =>
    let digits := (s.toList.reverse.dropWhile (· = 's')).reverse
    match Decimal.readReal (String.ofList digits) with
    | .ok x => x.toUInt64
    | .error _ => 0

/-- A route as the service writes it. -/
def routeShape : Shape Directions :=
  ((((Shape.withDefault "distanceMeters" 0 Decoder.natural).andThen
    (Shape.nullable "duration" Decoder.text)).andThen
    (Shape.nullable "staticDuration" Decoder.text)).andThen
    (Shape.nullable "polyline" (Shape.withDefault "encodedPolyline" "" Decoder.text).decode)).map
      fun (((distance, duration), staticDuration), polyline) =>
        ⟨polyline.getD "", distance, durationSecs duration, durationSecs staticDuration⟩

def routesShape : Shape (List Directions) :=
  Shape.withDefault "routes" [] (Decoder.list routeShape.decode)

/-- The first route of an answer. -/
def readDirections (r : Incoming) : Except DispatchError Directions := do
  match ← readClean "directions" (withError routesShape) r with
  | route :: _ => .ok route
  | [] => .error (.provider "directions returned no routes")

/-! ## Places -/

/-- Coordinates as the service writes them. -/
def locationShape : Shape GeoPoint :=
  ((Shape.required "latitude" Decoder.real).andThen (Shape.required "longitude" Decoder.real)).map
    fun (lat, lng) => ⟨lat, lng⟩

def placeShape : Shape ((String × String) × Option GeoPoint) :=
  ((Shape.withDefault "id" "" Decoder.text).andThen
    (Shape.withDefault "formattedAddress" "" Decoder.text)).andThen
    (Shape.nullable "location" locationShape.decode)

/-- The place that was asked for; an answer without an id is about the id that was asked. -/
def readPlace (asked : String) (r : Incoming) : Except DispatchError Place := do
  match ← readClean "place details" (withError placeShape) r with
  | ((id, address), some p) => .ok ⟨if id.isEmpty then asked else id, address, p⟩
  | (_, none) => .error (.provider s!"place {asked} has no location")

/-! ## Suggestions -/

/-- A suggested place; its text may be missing. -/
def predictionShape : Shape PlaceSuggestion :=
  ((Shape.required "placeId" Decoder.text).andThen
    (Shape.nullable "text" (Shape.required "text" Decoder.text).decode)).map
      fun (id, text) => ⟨id, text.getD ""⟩

/-- Suggestions, some of which are no places. -/
def suggestionsShape : Shape (List (Option PlaceSuggestion)) :=
  Shape.withDefault "suggestions" []
    (Decoder.list (Shape.nullable "placePrediction" predictionShape.decode).decode)

/-- The suggested places, in order. -/
def readSuggestions (r : Incoming) : Except DispatchError (List PlaceSuggestion) :=
  (readClean "autocomplete" (withError suggestionsShape) r).map fun ss => ss.filterMap id

end CourierDispatch.Maps
