import CourierDispatch.Courier
import CourierDispatch.DispatchError
import CourierDispatch.Geo.Distance
import CourierDispatch.Table
import CourierDispatch.Trip.Basic

/-!
# The store of records

Trips, couriers and products by id. Nothing is ever removed. A change either is refused, and
then nothing has changed, or gives its answer and the new store: both stand in the type
`Except DispatchError (α × Store)`.

Courier and trip are linked in both directions by `assignCourier`, which refuses a trip that has
a courier or has ended and a courier that is bound. `unassignTrip` lets the courier go and leaves
the trip's record of it.

The functions are the methods of the `InMemoryStore`, each under its own name: `create_trip`,
`set_trip_status`, `set_trip_cost`, `set_confirmed_pickup`, `assign_courier`, `unassign_trip`,
`upsert_courier`, `update_courier_location`, `update_courier_status`, `nearest_available_courier`,
`nearby_couriers`, `upsert_product`, `list_products`, `nearby_products`. `located` is their
`located_within`.
-/

namespace CourierDispatch

structure Store where
  trips : Table Uuid Trip
  couriers : Table Uuid Courier
  products : Table Uuid Product

/-- The answer of a change together with the store behind it. -/
abbrev Change (α : Type) := Except DispatchError (α × Store)

namespace Store

def empty : Store := ⟨.empty, .empty, .empty⟩

instance : Inhabited Store := ⟨empty⟩

/-! ## Trips -/

def setTrip (s : Store) (t : Trip) : Store := { s with trips := s.trips.insert t.id t }

def setCourier (s : Store) (c : Courier) : Store :=
  { s with couriers := s.couriers.insert c.id c }

def trip? (s : Store) (id : Uuid) : Option Trip := s.trips.get? id

def courier? (s : Store) (id : Uuid) : Option Courier := s.couriers.get? id

def product? (s : Store) (id : Uuid) : Option Product := s.products.get? id

/-- Records a new trip under a fresh id. -/
def createTrip (s : Store) (now : Timestamp) (id : Uuid) (r : TripRequest) : Trip × Store :=
  let t := Trip.new id now r
  (t, s.setTrip t)

/-- Changes a trip that has to be there. -/
def updateTrip (s : Store) (now : Timestamp) (id : Uuid) (change : Trip → Trip) : Change Trip :=
  match s.trip? id with
  | none => .error (.tripNotFound id)
  | some t =>
    let t := { change t with updatedAt := now }
    .ok (t, { s with trips := s.trips.insert id t })

/-- Writes a status, unless the trip has a final one. -/
def setTripStatus (s : Store) (now : Timestamp) (id : Uuid) (status : TripStatus) : Change Trip :=
  match s.trip? id with
  | none => .error (.tripNotFound id)
  | some t =>
    if t.status.allows status then s.updateTrip now id ({ · with status := status })
    else .error (.tripClosed id t.status)

def setTripCost (s : Store) (now : Timestamp) (id : Uuid) (cost : UInt64) : Change Unit :=
  (s.updateTrip now id ({ · with cost := some cost })).map fun (_, s) => ((), s)

def setConfirmedPickup (s : Store) (now : Timestamp) (id : Uuid) (p : GeoPoint) : Change Trip :=
  s.updateTrip now id ({ · with confirmedPickup := some p })

/-! ## Links -/

/-- Binds a courier to a trip. -/
def assignCourier (s : Store) (now : Timestamp) (trip courier : Uuid) : Change Unit :=
  match s.trip? trip with
  | none => .error (.tripNotFound trip)
  | some t =>
    if t.courierId.isSome ∨ t.status.terminal then .error (.tripNotAssignable trip)
    else match s.courier? courier with
      | none => .error (.courierNotFound courier)
      | some c =>
        if c.tripId.isSome then .error (.courierAlreadyAssigned courier)
        else
          let c := { c with tripId := some trip, updatedAt := now }
          let t := { t with courierId := some courier, updatedAt := now }
          .ok ((), { s with
            couriers := s.couriers.insert courier c
            trips := s.trips.insert trip t })

/-- Lets the courier of a trip go, if it is still bound to this trip. -/
def unassignTrip (s : Store) (now : Timestamp) (trip : Uuid) : Change Unit :=
  match s.trip? trip with
  | none => .error (.tripNotFound trip)
  | some t =>
    match t.courierId.bind fun id => (s.courier? id).map (id, ·) with
    | none => .ok ((), s)
    | some (id, c) =>
      if c.tripId = some trip then
        let c := { c with tripId := none, updatedAt := now }
        .ok ((), { s with couriers := s.couriers.insert id c })
      else .ok ((), s)

/-! ## Couriers -/

/-- Records a courier as it is given. -/
def upsertCourier (s : Store) (c : Courier) : Courier × Store := (c, s.setCourier c)

/-- Changes a courier that has to be there. -/
def updateCourier (s : Store) (now : Timestamp) (id : Uuid) (change : Courier → Courier) :
    Change Courier :=
  match s.courier? id with
  | none => .error (.courierNotFound id)
  | some c =>
    let c := { change c with updatedAt := now }
    .ok (c, { s with couriers := s.couriers.insert id c })

def updateCourierLocation (s : Store) (now : Timestamp) (id : Uuid) (p : GeoPoint) :
    Change Courier :=
  s.updateCourier now id ({ · with location := some p })

def updateCourierStatus (s : Store) (now : Timestamp) (id : Uuid) (status : CourierStatus) :
    Change Courier :=
  s.updateCourier now id ({ · with status := status })

/-- A courier's distance from a point, if it is located within a radius. -/
def hit? (centre : GeoPoint) (radius : Float) (c : Courier) : Option (Float × Courier) :=
  match c.location with
  | none => none
  | some p =>
    let d := Geo.distance centre p
    if d ≤ radius then some (d, c) else none

/-- Nearer first; of two at one distance the smaller id. -/
def nearer (a b : Float × Courier) : Bool :=
  let (da, db) := (Geo.orderKey a.1, Geo.orderKey b.1)
  da < db || (da = db && a.2.id.bits.toNat ≤ b.2.id.bits.toNat)

/-- The couriers located within a radius, nearest first. -/
def located (s : Store) (centre : GeoPoint) (radius : Float) : List (Float × Courier) :=
  (s.couriers.values.filterMap (hit? centre radius)).mergeSort nearer

def nearbyCouriers (s : Store) (centre : GeoPoint) (radius : Float) : List Courier :=
  (s.located centre radius).map Prod.snd

/-- The nearest available courier within a radius. -/
def nearestAvailable (s : Store) (centre : GeoPoint) (radius : Float) : Option Courier :=
  (s.nearbyCouriers centre radius).find? Courier.available

/-! ## Products -/

def upsertProduct (s : Store) (p : Product) : Product × Store :=
  (p, { s with products := s.products.insert p.id p })

/-- Products by weight class, lightest first. -/
def byWeight (ps : List Product) : List Product :=
  ps.mergeSort fun a b => a.weightClass ≤ b.weightClass

def listProducts (s : Store) : List Product := byWeight s.products.values

/-- The products that available couriers within a radius serve. -/
def nearbyProducts (s : Store) (centre : GeoPoint) (radius : Float) : List Product :=
  let offered := ((s.nearbyCouriers centre radius).filter Courier.available).map Courier.productId
  byWeight ((s.products.rows.filter fun (id, _) => offered.contains id).map Prod.snd)

end Store

end CourierDispatch
