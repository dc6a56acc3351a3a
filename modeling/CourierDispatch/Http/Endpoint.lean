import CourierDispatch.Text.Percent
import CourierDispatch.Uuid

/-!
# Endpoints

The paths that the service answers and the methods each of them takes. A part of a path that
stands for an id may be anything, and only the last part of a path may not be empty; whether it
is an id is seen later. Fixed parts are compared as they are written. The routes are those that `router`
nests.
-/

namespace CourierDispatch.Http

inductive Method
  | get
  | post
  | patch
  deriving DecidableEq, Repr

inductive Endpoint
  | trips
  | trip (id : List Char)
  | tripStatus (id : List Char)
  | tripPickup (id : List Char)
  | tripCourier (id : List Char)
  | routes
  | couriers
  | nearbyCouriers
  | courier (id : List Char)
  | courierStatus (id : List Char)
  | courierLocation (id : List Char)
  | products
  | suggestions
  | tripFeed (id : List Char)
  | courierFeed (id : List Char)
  | health
  | metrics
  deriving DecidableEq, Repr

namespace Endpoint

/-- The endpoint of a path, given as the parts between its slashes. -/
def ofParts : List String → Option Endpoint
  | ["trips"] => some .trips
  | ["trips", id] => some (.trip id.toList)
  | ["trips", id, "status"] => some (.tripStatus id.toList)
  | ["trips", id, "pickup"] => some (.tripPickup id.toList)
  | ["trips", id, "courier"] => some (.tripCourier id.toList)
  | ["routes"] => some .routes
  | ["couriers"] => some .couriers
  | ["couriers", "nearby"] => some .nearbyCouriers
  | ["couriers", id] => some (.courier id.toList)
  | ["couriers", id, "status"] => some (.courierStatus id.toList)
  | ["couriers", id, "location"] => some (.courierLocation id.toList)
  | ["products"] => some .products
  | ["places", "autocomplete"] => some .suggestions
  | ["ws", "trips", id] => some (.tripFeed id.toList)
  | ["ws", "couriers", id, "assignments"] => some (.courierFeed id.toList)
  | ["health"] => some .health
  | ["metrics"] => some .metrics
  | _ => none

/-- The endpoint of a path. The last part may not be empty. -/
def ofPath? (path : List Char) : Option Endpoint :=
  match Text.splitOn '/' path with
  | [] :: parts => if parts.getLast? = some [] then none else ofParts (parts.map String.ofList)
  | _ => none

/-- The methods of an endpoint. -/
def methods : Endpoint → List Method
  | trips | routes | couriers => [.post]
  | tripStatus _ | tripPickup _ | tripCourier _ | courierStatus _ | courierLocation _ => [.patch]
  | products => [.post, .get]
  | trip _ | nearbyCouriers | courier _ | suggestions | tripFeed _ | courierFeed _ | health
  | metrics => [.get]

end Endpoint

/-- A method as it is listed; whatever can be got can be asked for without its body. -/
def Method.listed : Method → String
  | .get => "GET,HEAD"
  | .post => "POST"
  | .patch => "PATCH"

/-- The methods of an endpoint as they are listed. -/
def Endpoint.allow (e : Endpoint) : String := String.intercalate "," (e.methods.map Method.listed)

example : Endpoint.allow .products = "POST,GET,HEAD" := by decide

/-- The id in a path. -/
def pathId? (part : List Char) : Option Uuid :=
  (Text.percentDecode? part).bind fun s => Uuid.read? (String.ofList s)

end CourierDispatch.Http
