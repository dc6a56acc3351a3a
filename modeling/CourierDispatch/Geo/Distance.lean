import CourierDispatch.Geo.Point

/-!
# Distances

The great-circle distance of two points by the haversine formula, on a sphere with the mean
radius of the Earth (`haversine_meters`). For coordinates that are no finite numbers it is no number, and
such a distance is within no radius.

What is known of the trigonometric functions is only their value at zero: `sine` and `arcsine` keep
a zero and its sign, and `cosine` makes it one.

Distances are put in order by `orderKey`, which is a linear order on all doubles and agrees
with `<` on numbers of one sign.
-/

namespace CourierDispatch.Geo

/-- The mean radius of the Earth in metres. -/
def earthRadius : Float := 6371000.0

def radians (degrees : Float) : Float := degrees * (3.14159265358979323846 / 180.0)

def sine (x : Float) : Float := if x == 0.0 then x else x.sin

def cosine (x : Float) : Float := if x == 0.0 then 1.0 else x.cos

def arcsine (x : Float) : Float := if x == 0.0 then x else x.asin

/-- The distance of two points in metres. -/
def distance (a b : GeoPoint) : Float :=
  let lat1 := radians a.lat
  let lat2 := radians b.lat
  let sinLat := sine (radians (b.lat - a.lat) / 2.0)
  let sinLng := sine (radians (b.lng - a.lng) / 2.0)
  let haversine := sinLat * sinLat + cosine lat1 * cosine lat2 * sinLng * sinLng
  earthRadius * (2.0 * arcsine haversine.sqrt)

/-- The place of a double in the order from minus infinity to infinity. -/
def orderKey (x : Float) : Int :=
  let bits := x.toBits.toNat
  if bits < UInt64.size / 2 then bits else -((bits - UInt64.size / 2 : Nat) : Int) - 1

/-- Is a point within a radius of another? Never where the distance is no number. -/
def within (centre : GeoPoint) (radius : Float) (p : GeoPoint) : Bool := distance centre p ≤ radius

end CourierDispatch.Geo
