import CourierDispatch.Dispatch
import CourierDispatch.Http.Endpoint
import CourierDispatch.Http.MediaType
import CourierDispatch.Http.Message

/-!
# Answering requests

A request is checked from the outside in: the target has to be one, its path known, the method
allowed, the id in the path readable, then the body or the query. Only then is anything asked of
the service, and its refusals are answered as they are.

Each line of `serve` is the handler of its route: `create_trip`, `get_trip`, `report_status`,
`confirm_pickup`, `assign_courier`, `compute_route`, `create_courier`, `nearby_couriers`, `get_courier`,
`update_courier_status`, `update_courier_location`, `create_product`, `list_products`, `autocomplete`,
`trip_updates`, `courier_assignments`, `health` and `metrics`.
-/

namespace CourierDispatch.Http

open Json (Decoder Shape Value)

/-! ## Bodies -/

/-- Reads a JSON body, or says how the request is refused. -/
def readBody (decode : Decoder α) (r : Request) : Except Response α :=
  if (r.contentType.map isJsonType).getD false then
    match decode.readFront r.body with
    | .ok a => .ok a
    | .error .malformed => .error (.rejected 400 "the body is not JSON")
    | .error .mismatch => .error (.rejected 422 "the body is JSON of another shape")
  else .error (.rejected 415 "the body has to be JSON")

/-- A body of a single field. -/
def single (name : String) (decode : Decoder α) : Decoder α := (Shape.required name decode).decode

structure NewCourier where
  userId : Uuid
  productId : Uuid
  location : Option GeoPoint
  status : Option CourierStatus
  deriving DecidableEq, Repr

def NewCourier.decode : Decoder NewCourier :=
  ((((Shape.required "user_id" Uuid.decode).andThen
    (Shape.required "product_id" Uuid.decode)).andThen
    (Shape.nullable "location" GeoPoint.decode)).andThen
    (Shape.nullable "status" CourierStatus.decode)).map
      (fun (((userId, productId), location), status) =>
        (⟨userId, productId, location, status⟩ : NewCourier)) |>.decode

structure NewProduct where
  name : String
  weightClass : UInt64
  description : String
  iconUrl : Option String
  deriving DecidableEq, Repr

def NewProduct.decode : Decoder NewProduct :=
  ((((Shape.required "name" Decoder.text).andThen
    (Shape.required "weight_class" Decoder.natural)).andThen
    (Shape.withDefault "description" "" Decoder.text)).andThen
    (Shape.nullable "icon_url" Decoder.text)).map
      (fun (((name, weightClass), description), iconUrl) =>
        (⟨name, weightClass, description, iconUrl⟩ : NewProduct)) |>.decode

/-- The two ends of a route. -/
def endsShape : Shape (PlaceInput × PlaceInput) :=
  (Shape.required "pickup" PlaceInput.decode).andThen (Shape.required "dropoff" PlaceInput.decode)

/-- A requester and the two ends of a trip. -/
def newTripShape : Shape (Uuid × PlaceInput × PlaceInput) :=
  (Shape.required "requester_id" Uuid.decode).andThen endsShape

/-! ## Queries -/

/-- A value of a query; a name must not come twice. -/
def queryValue? (name : String) (pairs : List (String × String)) :
    Except Response (Option String) :=
  match pairs.filter (·.1 = name) with
  | [] => .ok none
  | [(_, v)] => .ok (some v)
  | _ => .error (.rejected 400 "a query field is repeated")

def required (v : Option α) : Except Response α :=
  match v with
  | some a => .ok a
  | none => .error (.rejected 400 "a query field is missing")

def queryReal (s : String) : Except Response Float :=
  match Decimal.readReal s with
  | .ok x => .ok x
  | .error _ => .error (.rejected 400 "a query field is not a number")

/-- The point and the radius of a query. -/
def nearbyQuery (r : Request) : Except Response (GeoPoint × Option Float) := do
  let pairs := Text.formPairs r.query
  let lat ← queryValue? "lat" pairs
  let lng ← queryValue? "lng" pairs
  let radius ← queryValue? "radius" pairs
  let lat ← queryReal (← required lat)
  let lng ← queryReal (← required lng)
  match radius with
  | none => return (⟨lat, lng⟩, none)
  | some s => return (⟨lat, lng⟩, some (← queryReal s))

/-- The text of a query for suggestions. -/
def inputQuery (r : Request) : Except Response String := do
  required (← queryValue? "input" (Text.formPairs r.query))

/-! ## Handlers -/

/-- An attempt as an answer. -/
def answer (encode : α → Value) (a : Attempt α) : Job Response := do
  match ← a.result with
  | .ok v => pure (.json 200 (encode v))
  | .error e => pure (.ofError e)

/-- Goes on with a part of the request that could be read. -/
def reading (part : Except Response α) (next : α → Job Response) : Job Response :=
  match part with
  | .ok a => next a
  | .error r => pure r

/-- The id in the path, or the refusal of one that is none. -/
def readId (part : List Char) : Except Response Uuid :=
  match pathId? part with
  | some id => .ok id
  | none => .error (.rejected 400 "the path has no valid id")

/-- An id in the path and a body. -/
def readIdAndBody (part : List Char) (decode : Decoder α) (r : Request) :
    Except Response (Uuid × α) := do
  let id ← readId part
  let a ← readBody decode r
  return (id, a)

/-- Records a new courier for a product that has to be there. -/
def createCourier (n : NewCourier) : Attempt Courier := do
  match ← Attempt.store (.getProduct n.productId) with
  | none => throw (.badRequest s!"product {n.productId} does not exist")
  | some _ =>
    let id ← Attempt.perform .drawId
    let now ← Attempt.perform .stamp
    Attempt.store (.upsertCourier
      ⟨id, n.userId, n.location, n.status.getD .onboarding, n.productId, none, now⟩)

/-- Records a new product, which has to have a name. -/
def createProduct (n : NewProduct) : Attempt Product := do
  if Text.blank n.name then throw (.badRequest "name cannot be empty")
  else
    let id ← Attempt.perform .drawId
    Attempt.store (.upsertProduct ⟨id, n.name, n.weightClass, n.description, n.iconUrl⟩)

/-- A courier that has to be there. -/
def courierDetails (id : Uuid) : Attempt Courier := do
  Attempt.orElse (.courierNotFound id) (← Attempt.store (.getCourier id))

/-- Reports a status; looking for a courier is not for callers to report. -/
def reportStatus (c : Config) (id : Uuid) (status : TripStatus) : Attempt Trip :=
  if status = .courierSearching then
    throw (.badRequest "courier_searching cannot be reported")
  else Dispatch.reportTripStatus c id status

def healthReport : Job Response := do
  let n ← Job.perform .census
  return .json 200 (.record [("status", .text "ok"),
    ("couriers", .natural (UInt64.ofNat n.couriers)), ("trips", .natural (UInt64.ofNat n.trips)),
    ("active_matches", .natural (UInt64.ofNat n.activeMatches))])

def expositionType : String := "text/plain; version=0.0.4; charset=utf-8"

def expositionReport : Job Response := do
  return ⟨200, some expositionType, none, (← Job.perform .exposition).text⟩

/-- What an endpoint does with a method that it allows. -/
def serve (c : Config) (r : Request) : Endpoint → Method → Job Response
  | .trips, _ => reading (readBody newTripShape.decode r) fun (requester, pickup, dropoff) =>
      answer Trip.encode (Dispatch.createTrip c requester pickup dropoff)
  | .trip id, _ => reading (readId id) fun id => answer Trip.encode (Dispatch.tripDetails id)
  | .tripStatus id, _ =>
    reading (readIdAndBody id (single "status" TripStatus.decode) r) fun (id, status) =>
      answer Trip.encode (reportStatus c id status)
  | .tripPickup id, _ =>
    reading (readIdAndBody id (single "location" GeoPoint.decode) r) fun (id, p) =>
      answer Trip.encode (Dispatch.confirmPickup id p)
  | .tripCourier id, _ =>
    reading (readIdAndBody id (single "courier_id" Uuid.decode) r) fun (id, courier) =>
      answer Trip.encode (Dispatch.assignCourier c id courier)
  | .routes, _ => reading (readBody endsShape.decode r) fun (pickup, dropoff) =>
      answer Route.encode (Dispatch.computeRoute c pickup dropoff)
  | .couriers, _ => reading (readBody NewCourier.decode r) fun n =>
      answer Courier.encode (createCourier n)
  | .nearbyCouriers, _ => reading (nearbyQuery r) fun (p, radius) =>
      answer (fun cs => Value.list (cs.map Courier.encode)) (Dispatch.nearbyCouriers c p radius)
  | .courier id, _ => reading (readId id) fun id => answer Courier.encode (courierDetails id)
  | .courierStatus id, _ =>
    reading (readIdAndBody id (single "status" CourierStatus.decode) r) fun (id, status) =>
      answer Courier.encode (Attempt.store (.updateCourierStatus id status))
  | .courierLocation id, _ =>
    reading (readIdAndBody id (single "location" GeoPoint.decode) r) fun (id, p) =>
      answer Courier.encode (Attempt.store (.updateCourierLocation id p))
  | .products, .post => reading (readBody NewProduct.decode r) fun n =>
      answer Product.encode (createProduct n)
  | .products, _ =>
      answer (fun ps => Value.list (ps.map Product.encode)) (Attempt.store .listProducts)
  | .suggestions, _ => reading (inputQuery r) fun input =>
      answer (fun ss => Value.list (ss.map PlaceSuggestion.encode)) (Dispatch.autocomplete input)
  | .tripFeed _, _ | .courierFeed _, _ =>
      pure (.rejected (if r.method = "HEAD" then 405 else 400) "a feed needs an upgrade")
  | .health, _ => healthReport
  | .metrics, _ => expositionReport

/-- The method of a request; asking for an answer without its body is a `get`. -/
def method? (name : String) : Option Method :=
  if name = "GET" ∨ name = "HEAD" then some .get
  else if name = "POST" then some .post
  else if name = "PATCH" then some .patch
  else none

/-- Answers a request for an endpoint. A question about its options is always answered. -/
def handleAt (c : Config) (r : Request) (e : Endpoint) : Job Response :=
  if r.method = "OPTIONS" then pure { Response.bare 200 with allow := some e.allow }
  else match method? r.method with
    | none => pure { Response.bare 405 with allow := some e.allow }
    | some m =>
      if m ∈ e.methods then
        if r.method = "HEAD" then Response.withoutBody <$> serve c r e m else serve c r e m
      else pure { Response.bare 405 with allow := some e.allow }

/-- Answers a request. -/
def handle (c : Config) (r : Request) : Job Response :=
  match r.target? with
  | none => pure (.bare 400)
  | some t => match Endpoint.ofPath? t.path with
    | none => pure (.bare (if r.method = "OPTIONS" then 200 else 404))
    | some e => handleAt c r e

end CourierDispatch.Http
