import CourierDispatch.Pricing

/-!
# Fares in exact numbers

A fare is capped at each product and at each sum on its way. From the work on this does no harm: the
numbers only grow there, so that a fare is the greatest amount where it does not fit (`cost_toNat`).
But the product of weight class and distance is capped before it is divided, and so is the fare before
its revenue is. What comes out then is a plain amount, less than the exact number and less than the
greatest one (`fares_exact_iff`, `fares_fall_short`).
-/

namespace CourierDispatch

/-- What is multiplied may be capped before. -/
theorem min_mul_min {n k cap : Nat} (pos : 0 < k) : min (min n cap * k) cap = min (n * k) cap := by
  rcases Nat.le_total n cap with fits | beyond
  · rw [Nat.min_eq_left fits]
  · have grows : cap ≤ cap * k := Nat.le_mul_of_pos_right cap pos
    rw [Nat.min_eq_right beyond, Nat.min_eq_right grows,
      Nat.min_eq_right (Nat.le_trans grows (Nat.mul_le_mul_right k beyond))]

/-- A factor that is capped before it is multiplied is not missed where it fits, where it is
multiplied by nothing, and where the product is capped all the same. -/
theorem min_mul_eq_iff (n k most cap : Nat) :
    min (min n most * k) cap = min (n * k) cap ↔ n ≤ most ∨ k = 0 ∨ cap ≤ most * k := by
  rcases Nat.le_total n most with fits | beyond
  · simp [fits]
  · have grows : most * k ≤ n * k := Nat.mul_le_mul_right k beyond
    rw [Nat.min_eq_right beyond]
    constructor
    · intro same
      have reached : n * k ≤ most * k ∨ cap ≤ most * k := by omega
      rcases reached with reached | capped
      · rcases Nat.eq_zero_or_pos k with none_ | pos
        · exact .inr (.inl none_)
        · exact .inl (Nat.le_of_mul_le_mul_right reached pos)
      · exact .inr (.inr capped)
    · rintro (fits | rfl | capped)
      · rw [Nat.le_antisymm fits beyond]
      · rfl
      · omega

namespace Pricer

/-- What a unit of work costs. -/
def rate (p : Pricer) (fuel : Bool) : Nat :=
  2 * p.hourlyWage.toNat * if fuel then 1 + p.hourlyWage.toNat / 60 else 1

/-- The work of a trip in exact numbers. -/
def exactWork (weightClass distanceMeters : UInt64) : Nat :=
  weightClass.toNat * distanceMeters.toNat / 1000000

/-- The most work that is counted. -/
def greatestWork : Nat := greatestAmount / 1000000

theorem work_toNat (weightClass distance : UInt64) :
    (cappedMul weightClass distance / 1000000).toNat =
      min (exactWork weightClass distance) greatestWork := by
  rw [UInt64.toNat_div, cappedMul_toNat]
  change min _ greatestAmount / 1000000 = _
  unfold exactWork greatestWork
  omega

/-- A fare is the price of the work that is counted, or the greatest amount if that does not fit. -/
theorem cost_toNat (p : Pricer) (weightClass distance : UInt64) (fuel : Bool) :
    (p.cost weightClass distance fuel).toNat =
      min (min (exactWork weightClass distance) greatestWork * p.rate fuel) greatestAmount := by
  rw [← work_toNat]
  unfold cost
  dsimp only
  generalize cappedMul weightClass distance / 1000000 = work
  have twice : (cappedAdd (cappedMul work p.hourlyWage) (cappedMul work p.hourlyWage)).toNat =
      min (work.toNat * (2 * p.hourlyWage.toNat)) greatestAmount := by
    rw [cappedAdd_toNat, cappedMul_toNat, Nat.mul_left_comm]
    omega
  generalize cappedAdd (cappedMul work p.hourlyWage) (cappedMul work p.hourlyWage) = fare at twice ⊢
  cases fuel with
  | false => simpa [rate] using twice
  | true =>
    have perMinute : (p.hourlyWage / 60).toNat = p.hourlyWage.toNat / 60 := UInt64.toNat_div ..
    calc (cappedAdd fare (cappedMul (p.hourlyWage / 60) fare)).toNat
        = min (fare.toNat + p.hourlyWage.toNat / 60 * fare.toNat) greatestAmount := by
          rw [cappedAdd_toNat, cappedMul_toNat, perMinute]
          omega
      _ = min (fare.toNat * (1 + p.hourlyWage.toNat / 60)) greatestAmount := by
          rw [Nat.mul_add, Nat.mul_one, Nat.mul_comm fare.toNat (_ / 60)]
      _ = min (work.toNat * p.rate true) greatestAmount := by
          rw [twice, min_mul_min (by omega), Nat.mul_assoc]
          rfl

theorem revenue_toNat (fare : UInt64) :
    (revenue fare).toNat = min (16 * fare.toNat / 100) (greatestAmount / 100) := by
  unfold revenue
  rw [UInt64.toNat_div, cappedMul_toNat]
  change min (fare.toNat * 16) greatestAmount / 100 = _
  omega

theorem rate_eq_zero_iff {p : Pricer} {fuel : Bool} : p.rate fuel = 0 ↔ p.hourlyWage = 0 := by
  have some_ : (if fuel then 1 + p.hourlyWage.toNat / 60 else 1) ≠ 0 := by split <;> omega
  rw [rate, Nat.mul_eq_zero, Nat.mul_eq_zero, or_iff_left some_, ← UInt64.toNat_inj]
  simp

/-- A fare is exact, or the greatest amount where it does not fit, as long as its work is counted in
full, the wage is zero, or not even the most work that is counted has a price that fits. Otherwise it is
the price of the most work that is counted, which is too little. The revenue of a fare always fits; it is
exact up to a hundredth of the greatest amount, and stops there. -/
theorem fares_exact_iff (p : Pricer) (weightClass distance : UInt64) (fuel : Bool) (fare : UInt64) :
    ((p.cost weightClass distance fuel).toNat =
        min (exactWork weightClass distance * p.rate fuel) greatestAmount ↔
      exactWork weightClass distance ≤ greatestWork ∨ p.hourlyWage = 0 ∨
        greatestAmount ≤ greatestWork * p.rate fuel) ∧
    (greatestWork ≤ exactWork weightClass distance → (p.cost weightClass distance fuel).toNat =
      min (greatestWork * p.rate fuel) greatestAmount) ∧
    16 * fare.toNat / 100 ≤ greatestAmount ∧
    ((revenue fare).toNat = 16 * fare.toNat / 100 ↔ 16 * fare.toNat / 100 ≤ greatestAmount / 100) ∧
    (greatestAmount / 100 ≤ 16 * fare.toNat / 100 → (revenue fare).toNat = greatestAmount / 100) := by
  rw [cost_toNat, revenue_toNat, min_mul_eq_iff, rate_eq_zero_iff]
  have amount : fare.toNat ≤ greatestAmount := Nat.le_pred_of_lt fare.toNat_lt
  refine ⟨Iff.rfl, fun most => by rw [Nat.min_eq_right most], by omega, by omega, by omega⟩

/-- It is not so that a fare is exact or the greatest amount, nor that a revenue is exact. -/
theorem fares_fall_short :
    (¬ ∀ (p : Pricer) (weightClass distance : UInt64) (fuel : Bool),
      (p.cost weightClass distance fuel).toNat =
        min (2 * (weightClass.toNat * distance.toNat / 1000000) * p.hourlyWage.toNat *
          if fuel then 1 + p.hourlyWage.toNat / 60 else 1) greatestAmount) ∧
    ¬ ∀ fare : UInt64, (revenue fare).toNat = 16 * fare.toNat / 100 := by
  constructor
  · intro exact_
    have short := exact_ ⟨1, "economy"⟩ 8589934592 4294967296 false
    revert short
    decide
  · intro exact_
    have short := exact_ 18446744073709551615
    revert short
    decide

end Pricer

end CourierDispatch
