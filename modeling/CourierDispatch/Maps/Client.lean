import CourierDispatch.Config
import CourierDispatch.Http.Message
import CourierDispatch.Maps.Answer
import CourierDispatch.Url.Read

/-!
# The maps client

Directions, place details and suggestions from two services with one key. A question becomes a
request, a transport carries it, and the answer is read. What can be found wrong with a request
is reported before anything is sent.

A place is asked for under its own segment of the address, so that no id can name another
endpoint; the ids `.` and `..`, which would, are refused.

The questions are `compute_route`, `place_details` and `autocomplete` of the `GoogleMapsClient`; `new` is
`with_base_urls` and `placeUrl` is `place_url`.
-/

namespace CourierDispatch.Maps

open Json (Value)

/-- A request to one of the services. -/
structure Outgoing where
  method : String
  url : Url
  headers : List (String × String)
  body : Option Value
  deriving Repr

/-- Carries a request; `none` if the connection broke. -/
abbrev Transport := Outgoing → Option Incoming

structure Client where
  key : String
  routesUrl : String
  placesUrl : String
  deriving DecidableEq, Repr

namespace Client

/-- An address without slashes at its end. -/
def withoutSlashes (s : String) : String :=
  String.ofList (s.toList.reverse.dropWhile (· = '/')).reverse

/-- A client for two addresses. -/
def new (key routesUrl placesUrl : String) : Client :=
  ⟨key, withoutSlashes routesUrl, withoutSlashes placesUrl⟩

/-- The client of a configured service. -/
def ofConfig (c : Config) : Client := new c.mapsApiKey c.routesUrl c.placesUrl

/-! ## Requests -/

/-- The fields that are wanted of directions. -/
def routeFields : String :=
  "routes.duration,routes.distanceMeters,routes.polyline.encodedPolyline,routes.staticDuration"

/-- The fields that are wanted of a place. -/
def placeFields : String := "id,formattedAddress,location"

/-- A request that cannot be built. -/
def unbuilt (url : Option Url) : DispatchError :=
  .provider ("builder error" ++ match url with
    | some u => s!" for url ({u})"
    | none => "")

/-- A request with the key, once everything about it has been checked. A user in the address is
no part of what is asked. -/
def request (c : Client) (method : String) (url : Url) (headers : List (String × String))
    (body : Option Value) : Except DispatchError Outgoing :=
  if !url.hasHost then .error (unbuilt (some url))
  else
    let url := url.withoutUser
    if !c.key.toList.all Http.isHeaderChar then .error (unbuilt none)
    else if url.scheme ≠ "http" ∧ url.scheme ≠ "https" then .error (unbuilt (some url))
    else if (Http.Target.read? url.chars).isNone then .error (unbuilt (some url))
    else .ok ⟨method, url, ("x-goog-api-key", c.key) :: headers, body⟩

/-- A request that sends JSON to an address. -/
def post (c : Client) (url : String) (headers : List (String × String)) (body : Value) :
    Except DispatchError Outgoing :=
  match Url.read url with
  | .error _ => .error (unbuilt none)
  | .ok u => c.request "POST" u (headers ++ [("content-type", "application/json")]) (some body)

def waypoint (p : GeoPoint) : Value :=
  .record [("location", .record [("latLng",
    .record [("latitude", .real p.lat), ("longitude", .real p.lng)])])]

/-- Asks for the way by car in the present traffic. -/
def routeRequest (c : Client) (origin destination : GeoPoint) : Except DispatchError Outgoing :=
  c.post (c.routesUrl ++ "/directions/v2:computeRoutes") [("x-goog-fieldmask", routeFields)]
    (.record [("origin", waypoint origin), ("destination", waypoint destination),
      ("travelMode", .text "DRIVE"), ("routingPreference", .text "TRAFFIC_AWARE"),
      ("computeAlternativeRoutes", .bool false)])

/-- The address of a place. -/
def placeUrl (c : Client) (id : String) : Except DispatchError Url :=
  if id = "." ∨ id = ".." then .error (.badRequest s!"invalid place id {id}")
  else match Url.read c.placesUrl with
    | .error e => .error (.internal s!"invalid places url {c.placesUrl}: {e.message}")
    | .ok base => match base.push ["v1".toList, "places".toList, id.toList] with
      | none => .error (.internal s!"invalid places url {c.placesUrl}")
      | some u => .ok u

/-- Asks for a place. An id of blanks names none. -/
def placeRequest (c : Client) (id : String) : Except DispatchError Outgoing :=
  if Text.blank id then
    .error (.badRequest "place id is required when coordinates are missing")
  else do
    c.request "GET" (← c.placeUrl id) [("x-goog-fieldmask", placeFields)] none

/-- Asks for suggestions. -/
def suggestionsRequest (c : Client) (input : String) : Except DispatchError Outgoing :=
  c.post (c.placesUrl ++ "/v1/places:autocomplete") [] (.record [("input", .text input)])

/-! ## Questions -/

/-- Has a request carried. -/
def send (t : Transport) (r : Outgoing) : Except DispatchError Incoming :=
  match t r with
  | some a => .ok a
  | none => .error (.provider s!"error sending request for url ({r.url})")

def computeRoute (c : Client) (t : Transport) (origin destination : GeoPoint) :
    Except DispatchError Directions := do
  readDirections (← send t (← c.routeRequest origin destination))

def placeDetails (c : Client) (t : Transport) (id : String) : Except DispatchError Place := do
  readPlace id (← send t (← c.placeRequest id))

def autocomplete (c : Client) (t : Transport) (input : String) :
    Except DispatchError (List PlaceSuggestion) := do
  readSuggestions (← send t (← c.suggestionsRequest input))

end Client

end CourierDispatch.Maps
