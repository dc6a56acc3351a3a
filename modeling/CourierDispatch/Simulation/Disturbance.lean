import CourierDispatch.Service.World

/-!
# Disturbances

A disturbance waits at one kind of effect. It lets a number of them pass, then strikes a number of
times, and is spent. When it strikes it may first change the records behind the service's
back; then the effect is refused, finds nothing, or goes through. Of several disturbances at one
kind of effect each counts down on its own, and the first one that is ready strikes.
-/

namespace CourierDispatch.Simulation

/-- Where a disturbance can wait. -/
inductive Site
  | createTrip | getTrip | setTripStatus | setTripCost | setConfirmedPickup
  | assignCourier | unassignTrip
  | upsertCourier | getCourier | updateCourierLocation | updateCourierStatus
  | nearestAvailableCourier | nearbyCouriers
  | upsertProduct | getProduct | listProducts | nearbyProducts
  | cacheGet | cacheSet | publish | computeRoute | placeDetails | autocomplete
  deriving DecidableEq, Repr

/-- The site of a store operation. -/
def siteOfStore : StoreOp → Site
  | .createTrip .. => .createTrip
  | .getTrip _ => .getTrip
  | .setTripStatus .. => .setTripStatus
  | .setTripCost .. => .setTripCost
  | .setConfirmedPickup .. => .setConfirmedPickup
  | .assignCourier .. => .assignCourier
  | .unassignTrip _ => .unassignTrip
  | .upsertCourier _ => .upsertCourier
  | .getCourier _ => .getCourier
  | .updateCourierLocation .. => .updateCourierLocation
  | .updateCourierStatus .. => .updateCourierStatus
  | .nearestAvailableCourier .. => .nearestAvailableCourier
  | .nearbyCouriers .. => .nearbyCouriers
  | .upsertProduct _ => .upsertProduct
  | .getProduct _ => .getProduct
  | .listProducts => .listProducts
  | .nearbyProducts .. => .nearbyProducts

/-- The site of an effect; some effects cannot be disturbed. -/
def siteOf? : Effect → Option Site
  | .store op => some (siteOfStore op)
  | .cacheGet _ => some .cacheGet
  | .cacheSet .. => some .cacheSet
  | .publish .. => some .publish
  | .computeRoute .. => some .computeRoute
  | .placeDetails _ => some .placeDetails
  | .autocomplete _ => some .autocomplete
  | _ => none

/-- A change of the records that is made from outside the service. -/
inductive Direct
  | createTrip (request : TripRequest)
  | perform (op : StoreOp)
  deriving DecidableEq, Repr

structure Disturbance where
  site : Site
  /-- How many effects it lets pass. -/
  skip : Nat
  /-- How many times it strikes. -/
  count : Nat
  act : Option Direct
  verdict : Verdict
  deriving DecidableEq, Repr

/-- Lets an effect run into the disturbances: the one that strikes, and all of them behind it. -/
def strike (site : Site) (struck : Bool) :
    List Disturbance → Option Disturbance × List Disturbance
  | [] => (none, [])
  | d :: rest =>
    if d.site = site ∧ 0 < d.skip then
      let (hit, rest) := strike site struck rest
      (hit, { d with skip := d.skip - 1 } :: rest)
    else if d.site = site ∧ 0 < d.count ∧ !struck then
      (some d, { d with count := d.count - 1 } :: (strike site true rest).2)
    else
      let (hit, rest) := strike site struck rest
      (hit, d :: rest)

end CourierDispatch.Simulation
