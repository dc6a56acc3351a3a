import CourierDispatch.Proofs.Geo.Rounding

/-!
# Points that are written alike

Two doubles, finite or not, have the same text with some decimals exactly if they coincide up to these
decimals: both are no number, or both are infinite on one side, or both are finite, have the same sign and
are rounded to the same number (`fixedText_eq_fixedText_iff`). So a route key names its ordered pair of
points up to the eighth decimal, coordinate by coordinate (`routeKey_eq_iff_writtenAlike`).
-/

namespace CourierDispatch

namespace Decimal

/-- Two doubles stand for the same up to some decimals. -/
def Coincide (places : Nat) (x y : Float) : Prop :=
  match Reading.ofFloat x, Reading.ofFloat y with
  | .notANumber, .notANumber => True
  | .infinite s, .infinite t => s = t
  | .finite b, .finite c => b.negative = c.negative ∧ b.units places = c.units places
  | _, _ => False

variable {places : Nat} {x y : Float}

/-- A number with its sign is not written like the word for no number. -/
theorem signed_unitsText_ne_nan {units : Nat} {s : Bool} :
    signText s ++ unitsText places units ≠ "NaN".toList := by
  cases s with
  | false => exact unitsText_ne_of_front rfl
  | true => exact fun same => absurd (List.cons.inj same).1 (by decide)

/-- A number with its sign is not written like the word for what is infinite, with its own sign. -/
theorem signed_unitsText_ne_inf {units : Nat} {s t : Bool} :
    signText s ++ unitsText places units ≠ signText t ++ "inf".toList := by
  cases s <;> cases t
  · exact unitsText_ne_of_front rfl
  · exact unitsText_ne_of_front rfl
  · exact fun same => absurd (List.cons.inj same).1 (by decide)
  · exact fun same => unitsText_ne_of_front rfl (List.cons.inj same).2

theorem fixedText_eq_fixedText_iff :
    fixedText places x = fixedText places y ↔ Coincide places x y := by
  have words (s : Bool) : "NaN".toList ≠ signText s ++ "inf".toList := by cases s <;> decide
  have sides (s t : Bool) : signText s ++ "inf".toList = signText t ++ "inf".toList ↔ s = t := by
    cases s <;> cases t <;> decide
  unfold fixedText Coincide
  generalize Reading.ofFloat x = first
  generalize Reading.ofFloat y = second
  cases first with
  | notANumber =>
    cases second with
    | notANumber => exact iff_of_true rfl trivial
    | infinite t => exact iff_of_false (words t) id
    | finite c => exact iff_of_false signed_unitsText_ne_nan.symm id
  | infinite s =>
    cases second with
    | notANumber => exact iff_of_false (words s).symm id
    | infinite t => exact sides s t
    | finite c => exact iff_of_false signed_unitsText_ne_inf.symm id
  | finite b =>
    cases second with
    | notANumber => exact iff_of_false signed_unitsText_ne_nan id
    | infinite t => exact iff_of_false signed_unitsText_ne_inf id
    | finite c => exact signed_unitsText_eq_iff

end Decimal

namespace Geo

/-- Two points whose coordinates are written alike with eight decimals. -/
structure WrittenAlike (a b : GeoPoint) : Prop where
  lat : Decimal.fixedText places a.lat = Decimal.fixedText places b.lat
  lng : Decimal.fixedText places a.lng = Decimal.fixedText places b.lng

variable {a b a' b' : GeoPoint}

theorem rendering_eq_iff : rendering a = rendering b ↔ WrittenAlike a b :=
  Prod.ext_iff.trans ⟨fun ⟨lng, lat⟩ => ⟨lat, lng⟩, fun ⟨lat, lng⟩ => ⟨lng, lat⟩⟩

theorem writtenAlike_iff : WrittenAlike a b ↔
    Decimal.Coincide places a.lat b.lat ∧ Decimal.Coincide places a.lng b.lng := by
  rw [← Decimal.fixedText_eq_fixedText_iff, ← Decimal.fixedText_eq_fixedText_iff]
  exact ⟨fun ⟨lat, lng⟩ => ⟨lat, lng⟩, fun ⟨lat, lng⟩ => ⟨lat, lng⟩⟩

/-- Only ordered pairs that are written alike, coordinate by coordinate, share a key. -/
theorem routeKey_eq_iff_writtenAlike :
    routeKey a b = routeKey a' b' ↔ WrittenAlike a a' ∧ WrittenAlike b b' := by
  rw [routeKey_eq_iff, rendering_eq_iff, rendering_eq_iff]

end Geo

end CourierDispatch
