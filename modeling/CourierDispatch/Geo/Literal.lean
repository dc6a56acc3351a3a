import CourierDispatch.Decimal.Fixed
import CourierDispatch.Geo.Point
import CourierDispatch.Json.Text

/-!
# Point literals and route keys

A point is written as a geography literal with eight decimals, longitude first (`to_ewkt`). A route key
names an ordered pair of points by the list of their two literals (`route_key`).
-/

namespace CourierDispatch.Geo

/-- How many decimals of a coordinate tell points apart. -/
def places : Nat := 8

/-- A point as `SRID=4326;POINT(lng lat)`. -/
def literal (p : GeoPoint) : String :=
  String.ofList <| "SRID=4326;POINT(".toList ++ Decimal.fixedText places p.lng ++
    ' ' :: Decimal.fixedText places p.lat ++ [')']

/-- The key of a pickup and a dropoff. -/
def routeKey (pickup dropoff : GeoPoint) : String :=
  String.ofList <| "route:".toList ++
    (Json.Value.list [.text (literal pickup), .text (literal dropoff)]).chars

end CourierDispatch.Geo
