import CourierDispatch.Product
import CourierDispatch.Text.Blank

/-!
# Fares

The work of a trip is its weight class times its distance, in millions; a fare is twice the
work at the hourly wage. Every product but the base product also earns a surcharge for fuel: the
fare once more for each whole unit of wage per minute. Divisions truncate. Amounts that do not
fit in 64 bits stop at the greatest one.

`cost`, `price`, `revenue` and `earnsFuel` are `calculate_trip_cost`, `price_for`,
`calculate_trip_revenue` and `earns_with_fuel` of the `Pricer`.
-/

namespace CourierDispatch

/-- The greatest amount. -/
def greatestAmount : Nat := UInt64.size - 1

/-- An amount, or the greatest one if it does not fit. -/
def amount (n : Nat) : UInt64 := UInt64.ofNat (min n greatestAmount)

/-- The product of two amounts, capped. -/
def cappedMul (a b : UInt64) : UInt64 := amount (a.toNat * b.toNat)

/-- The sum of two amounts, capped. -/
def cappedAdd (a b : UInt64) : UInt64 := amount (a.toNat + b.toNat)

theorem amount_toNat (n : Nat) : (amount n).toNat = min n greatestAmount := by
  have h : min n greatestAmount < UInt64.size := by
    simp only [greatestAmount, UInt64.size]; omega
  simp only [amount, UInt64.toNat_ofNat']
  exact Nat.mod_eq_of_lt h

theorem cappedMul_toNat (a b : UInt64) :
    (cappedMul a b).toNat = min (a.toNat * b.toNat) greatestAmount := amount_toNat _

theorem cappedAdd_toNat (a b : UInt64) :
    (cappedAdd a b).toNat = min (a.toNat + b.toNat) greatestAmount := amount_toNat _

/-- How fares are set. -/
structure Pricer where
  hourlyWage : UInt64
  baseProduct : String
  deriving DecidableEq, Repr

namespace Pricer

/-- The share of a fare that is kept as revenue, in percent. -/
def revenuePercent : UInt64 := 16

/-- Every product but the base product earns the fuel surcharge. -/
def earnsFuel (p : Pricer) (product : Product) : Bool :=
  !Text.sameFolded product.name p.baseProduct

/-- The fare for a weight class over a distance. -/
def cost (p : Pricer) (weightClass distanceMeters : UInt64) (fuel : Bool) : UInt64 :=
  let work := cappedMul weightClass distanceMeters / 1000000
  let base := cappedMul work p.hourlyWage
  let fare := cappedAdd base base
  if fuel then cappedAdd fare (cappedMul (p.hourlyWage / 60) fare) else fare

/-- The fare for a product over a distance. -/
def price (p : Pricer) (product : Product) (distanceMeters : UInt64) : UInt64 :=
  p.cost product.weightClass distanceMeters (p.earnsFuel product)

/-- The part of a fare that is kept. -/
def revenue (fare : UInt64) : UInt64 := cappedMul fare revenuePercent / 100

end Pricer

end CourierDispatch
