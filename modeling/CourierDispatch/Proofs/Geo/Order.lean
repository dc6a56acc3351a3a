import Mathlib
import CourierDispatch.Geo.Distance

/-!
# The order of distances

Distances are listed by `orderKey`, which reads the bits of a double, and are held against a radius by
`≤`, which compares numbers. What comes first in the one order is not greater in the other
(`le_of_orderKey_le`), as long as both are numbers; and what is no number is not `≤` anything
(`isNaN_of_le`). The converse fails for the two zeros: neither is less, and their bits differ.

A double is unpacked into sign, mantissa and exponent, and doubles are compared by these. Both readings
are counted on one line of numbers, in doubles from zero: the bits of a double say where it stands
(`rank`), and so does its unpacked value (`place`). The exponent is worth more than any mantissa because
a mantissa is short, and full unless the exponent is the least (`Normal`).
-/

namespace CourierDispatch.Geo

open Float.Model (UnpackedFloat Format)
open Float.Model.UnpackedFloat

/-! ## The line of numbers -/

/-- A mantissa and an exponent as they are unpacked. Only at the least exponent the mantissa may be less
than full. -/
structure Normal (m : Nat) (e : Int) : Prop where
  least : -1074 ≤ e
  most : e ≤ 971
  short : m < 2 ^ 53
  full : -1074 < e → 2 ^ 52 ≤ m

/-- How many doubles stand between zero and a number. -/
def rung (m : Nat) (e : Int) : Int := (e + 1074) * 2 ^ 52 + m

theorem compare_rung {m m' : Nat} {e e' : Int} (h : Normal m e) (h' : Normal m' e') :
    (compare e e').then (compare m m') = compare (rung m e) (rung m' e') := by
  obtain ⟨least, most, short, full⟩ := h
  obtain ⟨least', most', short', full'⟩ := h'
  unfold rung
  rcases Int.lt_trichotomy e e' with below | rfl | above
  · rw [Int.compare_eq_lt.2 below, Ordering.lt_then, eq_comm, Int.compare_eq_lt]
    have := full' (by omega)
    omega
  · rw [Int.compare_eq_eq.2 rfl, Ordering.eq_then]
    rcases Nat.lt_trichotomy m m' with below | rfl | above
    · rw [Nat.compare_eq_lt.2 below, eq_comm, Int.compare_eq_lt]
      omega
    · simp
    · rw [Nat.compare_eq_gt.2 above, eq_comm, Int.compare_eq_gt]
      omega
  · rw [Int.compare_eq_gt.2 above, Ordering.gt_then, eq_comm, Int.compare_eq_gt]
    have := full (by omega)
    omega

/-- A value as it is unpacked. -/
def Written : UnpackedFloat → Prop
  | .finite _ m e _ => Normal m e
  | _ => True

/-- Where a value stands on the line of numbers, counted in doubles from zero. -/
def place : UnpackedFloat → Int
  | .notANumber | .zero _ => 0
  | .infinity s => s.apply (2047 * 2 ^ 52)
  | .finite s m e _ => s.apply (rung m e)

theorem rung_bounds {m : Nat} {e : Int} (h : Normal m e) (pos : 0 < m) :
    0 < rung m e ∧ rung m e < 2047 * 2 ^ 52 := by
  obtain ⟨least, most, short, full⟩ := h
  unfold rung
  omega

theorem compare_neg (a b : Int) : compare (-a) (-b) = (compare a b).swap := by
  rcases Int.lt_trichotomy a b with below | rfl | above
  · rw [Int.compare_eq_lt.2 below, Int.compare_eq_gt.2 (by omega)]
    rfl
  · simp
  · rw [Int.compare_eq_gt.2 above, Int.compare_eq_lt.2 (by omega)]
    rfl

/-- Values are compared as they stand on the line of numbers. -/
theorem compare_eq {u v : UnpackedFloat} (hu : Written u) (hv : Written v) (nu : u ≠ .notANumber)
    (nv : v ≠ .notANumber) : u.compare v = some (compare (place u) (place v)) := by
  have below {a b : Int} (h : a < b) : some Ordering.lt = some (compare a b) :=
    congrArg some (Int.compare_eq_lt.2 h).symm
  have above {a b : Int} (h : b < a) : some Ordering.gt = some (compare a b) :=
    congrArg some (Int.compare_eq_gt.2 h).symm
  cases u with
  | notANumber => exact absurd rfl nu
  | infinity s =>
    cases v with
    | notANumber => exact absurd rfl nv
    | infinity t => cases s <;> cases t <;> rfl
    | zero t => cases s <;> rfl
    | finite t m e pos =>
      have bounds := rung_bounds hv pos
      cases s with
      | negative => exact below (by cases t <;> simp only [place, Sign.apply] <;> omega)
      | positive => exact above (by cases t <;> simp only [place, Sign.apply] <;> omega)
  | zero s =>
    cases v with
    | notANumber => exact absurd rfl nv
    | infinity t => cases t <;> rfl
    | zero t => rfl
    | finite t m e pos =>
      have bounds := rung_bounds hv pos
      cases t with
      | negative => exact above (by simp only [place, Sign.apply]; omega)
      | positive => exact below (by simp only [place, Sign.apply]; omega)
  | finite s m e pos =>
    have bounds := rung_bounds hu pos
    cases v with
    | notANumber => exact absurd rfl nv
    | infinity t =>
      cases t with
      | negative => exact above (by cases s <;> simp only [place, Sign.apply] <;> omega)
      | positive => exact below (by cases s <;> simp only [place, Sign.apply] <;> omega)
    | zero t =>
      cases s with
      | negative => exact below (by simp only [place, Sign.apply]; omega)
      | positive => exact above (by simp only [place, Sign.apply]; omega)
    | finite t m' e' pos' =>
      have bounds' := rung_bounds hv pos'
      have same := compare_rung hu hv
      cases s <;> cases t
      case positive.positive => exact congrArg some same
      case negative.negative => exact congrArg some (same ▸ (compare_neg _ _).symm)
      case positive.negative => exact above (by simp only [place, Sign.apply]; omega)
      case negative.positive => exact below (by simp only [place, Sign.apply]; omega)

/-! ## The bits -/

/-- Where a double stands on the line of numbers, by its bits: the sign and how far from zero. -/
def rank (x : Float) : Int :=
  let bits := x.toBits.toNat
  if bits < UInt64.size / 2 then bits else -((bits - UInt64.size / 2 : Nat) : Int)

theorem rank_le_rank {x y : Float} (h : orderKey x ≤ orderKey y) : rank x ≤ rank y := by
  unfold orderKey at h
  unfold rank
  simp only [UInt64.size] at h ⊢
  split at h <;> split at h <;> simp only [*, if_true, if_false] <;> omega

/-- The sign, the exponent and the mantissa in a word of 64 bits. -/
theorem sign_exponent_mantissa (b : BitVec Format.binary64.numBits) :
    (∀ k, (Sign.ofBitVec (unpackSign b)).apply k = if b.toNat < 2 ^ 63 then k else -k) ∧
    (unpackExponent b).toNat = b.toNat / 2 ^ 52 % 2 ^ 11 ∧ (unpackMantissa b).toNat = b.toNat % 2 ^ 52 := by
  have word : b.toNat < 2 ^ 64 := b.isLt
  have sign : (unpackSign b).toNat = b.toNat / 2 ^ 63 % 2 := by
    rw [← Nat.shiftRight_eq_div_pow]
    rfl
  have exponent : (unpackExponent b).toNat = b.toNat / 2 ^ 52 % 2 ^ 11 := by
    rw [← Nat.shiftRight_eq_div_pow]
    rfl
  refine ⟨fun k => ?_, exponent, rfl⟩
  unfold Sign.ofBitVec
  split
  · next zero =>
    have zero := congrArg BitVec.toNat zero
    rw [if_pos (by simp only [sign, BitVec.toNat_ofNat] at zero; omega)]
    rfl
  · next one =>
    have low : ¬ b.toNat < 2 ^ 63 := fun low =>
      one (BitVec.eq_of_toNat_eq (by simp only [sign, BitVec.toNat_ofNat]; omega))
    rw [if_neg low]
    rfl

theorem toNat_append_one (v : BitVec 52) : (1#1 ++ v).toNat = 2 ^ 52 + v.toNat := by
  rw [BitVec.toNat_append, ← Nat.shiftLeft_add_eq_or_of_lt v.isLt, Nat.shiftLeft_eq]
  rfl

/-- What is a number stands where its bits say. -/
theorem place_unpack (x : Float) (number : x.isNaN = false) :
    Written x.toModel.unpack ∧ place x.toModel.unpack = rank x := by
  have word : x.toBits.toNat < 2 ^ 64 := x.toBits.toNat_lt
  obtain ⟨sign, exponent, mantissa⟩ := sign_exponent_mantissa x.toBits.toBitVec
  change ∀ k, _ = if x.toBits.toNat < 2 ^ 63 then k else -k at sign
  change _ = x.toBits.toNat / 2 ^ 52 % 2 ^ 11 at exponent
  change _ = x.toBits.toNat % 2 ^ 52 at mantissa
  have stands : rank x = if x.toBits.toNat < 2 ^ 63 then (x.toBits.toNat : Int)
    else -((x.toBits.toNat - 2 ^ 63 : Nat) : Int) := rfl
  change x.toModel.unpack.isNaN = false at number
  generalize value : x.toModel.unpack = u at number ⊢
  change UnpackedFloat.unpack Format.binary64 x.toBits.toBitVec = u at value
  unfold UnpackedFloat.unpack at value
  dsimp only at value
  split at value
  · next full =>
    split at value
    · next zero =>
      subst value
      have full : _ = 2047 := exponent.symm.trans (congrArg BitVec.toNat full)
      have zero : _ = 0 := mantissa.symm.trans (congrArg BitVec.toNat zero)
      refine ⟨trivial, ?_⟩
      rw [place, sign, stands]
      split <;> omega
    · subst value
      cases number
  · next other =>
    have bias : (Format.binary64.exponentBias : Int) = 1023 := rfl
    split at value
    · next low =>
      have low : _ = 0 := exponent.symm.trans (congrArg BitVec.toNat low)
      split at value
      · next zero =>
        subst value
        have zero : _ = 0 := mantissa.symm.trans (congrArg BitVec.toNat zero)
        refine ⟨trivial, ?_⟩
        rw [place, stands]
        split <;> omega
      · subst value
        refine ⟨⟨by omega, by omega, by omega, by omega⟩, ?_⟩
        rw [place, rung, sign, stands]
        split <;> omega
    · next normal =>
      subst value
      have normal : x.toBits.toNat / 2 ^ 52 % 2 ^ 11 ≠ 0 := fun zero =>
        normal (BitVec.eq_of_toNat_eq (exponent.trans zero))
      have other : x.toBits.toNat / 2 ^ 52 % 2 ^ 11 ≠ 2047 := fun full =>
        other (BitVec.eq_of_toNat_eq (exponent.trans full))
      have implicit := toNat_append_one (@unpackMantissa Format.binary64 x.toBits.toBitVec)
      refine ⟨⟨by omega, by omega, by omega, by omega⟩, ?_⟩
      rw [place, rung, sign, stands]
      split <;> omega

/-! ## Numbers -/

variable {x y : Float}

theorem compare_rank (hx : x.isNaN = false) (hy : y.isNaN = false) :
    x.toModel.unpack.compare y.toModel.unpack = some (compare (rank x) (rank y)) := by
  have apart {z : Float} (number : z.isNaN = false) : z.toModel.unpack ≠ .notANumber := by
    intro undefined
    change z.toModel.unpack.isNaN = false at number
    rw [undefined] at number
    cases number
  obtain ⟨first, hx'⟩ := place_unpack x hx
  obtain ⟨second, hy'⟩ := place_unpack y hy
  rw [compare_eq first second (apart hx) (apart hy), hx', hy']

theorem le_iff_compare : x ≤ y ↔ (x.toModel.unpack.compare y.toModel.unpack).any (·.isLE) := by
  change decide _ = true ↔ _
  rw [decide_eq_true_eq]
  exact Iff.rfl

theorem lt_iff_compare : x < y ↔ x.toModel.unpack.compare y.toModel.unpack = some .lt := by
  change decide (_ = true) = true ↔ _
  rw [decide_eq_true_eq]
  exact beq_iff_eq

theorem le_iff_rank (hx : x.isNaN = false) (hy : y.isNaN = false) : x ≤ y ↔ rank x ≤ rank y := by
  rw [le_iff_compare, compare_rank hx hy, Option.any_some, Int.isLE_compare]

theorem lt_iff_rank (hx : x.isNaN = false) (hy : y.isNaN = false) : x < y ↔ rank x < rank y := by
  rw [lt_iff_compare, compare_rank hx hy, Option.some.injEq, Int.compare_eq_lt]

/-- Only numbers are compared. -/
theorem isNaN_of_le (h : x ≤ y) : x.isNaN = false ∧ y.isNaN = false := by
  rw [le_iff_compare] at h
  change x.toModel.unpack.isNaN = false ∧ y.toModel.unpack.isNaN = false
  generalize x.toModel.unpack = u at *
  generalize y.toModel.unpack = v at *
  cases u with
  | notANumber => cases h
  | infinity | zero | finite =>
    cases v with
    | notANumber => cases h
    | infinity | zero | finite => exact ⟨rfl, rfl⟩

/-- What stands first by its bits is not greater. -/
theorem le_of_orderKey_le (hx : x.isNaN = false) (hy : y.isNaN = false)
    (h : orderKey x ≤ orderKey y) : x ≤ y := (le_iff_rank hx hy).2 (rank_le_rank h)

/-- Of two numbers in order the second is not below the first. -/
theorem not_below_of_le (h : x ≤ y) : ¬ y < x := by
  obtain ⟨hx, hy⟩ := isNaN_of_le h
  rw [lt_iff_rank hy hx]
  have := (le_iff_rank hx hy).1 h
  omega

end CourierDispatch.Geo
