import CourierDispatch.Proofs.Geo.RouteKey

/-!
# Points that are rounded alike

A finite double is rounded to the nearest number with some decimals, and of two that are equally near to
the even one (`divHalfEven_eq_iff`). Its text says which number that is, and which sign the double has,
and nothing else (`fixedText_eq_iff`). So two doubles that are rounded to the same number are written
alike, except where this number is zero and their signs differ; and two pairs of points that are rounded
alike have the same route key exactly if no such coordinate is among them (`routeKey_eq_iff_of_alike`).
-/

namespace CourierDispatch

namespace Decimal

/-! ## Rounding -/

/-- The whole number `n` is the nearest to `num / den`, and the even one if another is as near. -/
structure RoundsTo (num den n : Nat) : Prop where
  below : 2 * num ≤ 2 * (n * den) + den
  above : 2 * (n * den) ≤ 2 * num + den
  even : 2 * num = 2 * (n * den) + den ∨ 2 * (n * den) = 2 * num + den → n % 2 = 0

theorem RoundsTo.unique {num den m n : Nat} (pos : 0 < den) (h : RoundsTo num den m)
    (h' : RoundsTo num den n) : m = n := by
  -- Of two such numbers neither is smaller: they would be neighbours, and both even.
  have least {m n : Nat} (h : RoundsTo num den m) (h' : RoundsTo num den n) : ¬ m < n := by
    intro less
    have next : m * den + den ≤ n * den := by
      rw [← Nat.succ_mul]
      exact Nat.mul_le_mul_right den less
    obtain ⟨below, -, even⟩ := h
    obtain ⟨-, above', even'⟩ := h'
    have low := even (.inl (by omega))
    have high := even' (.inr (by omega))
    have far : m * den + 2 * den ≤ n * den := by
      rw [← Nat.add_mul]
      exact Nat.mul_le_mul_right den (by omega)
    omega
  have := least h h'
  have := least h' h
  omega

theorem roundsTo_divHalfEven {num den : Nat} (pos : 0 < den) :
    RoundsTo num den (divHalfEven num den) := by
  obtain ⟨below, above⟩ := divHalfEven_near num den pos
  refine ⟨below, above, ?_⟩
  have split := Nat.div_add_mod num den
  have small := Nat.mod_lt num pos
  have whole : (num / den) * den = den * (num / den) := Nat.mul_comm _ _
  have next : (num / den + 1) * den = den * (num / den) + den := by
    rw [Nat.add_mul, whole, Nat.one_mul]
  unfold divHalfEven
  simp only
  split
  · rw [whole]; omega
  · split
    · rw [next]; omega
    · split
      · omega
      · omega

theorem divHalfEven_eq_iff {num den n : Nat} (pos : 0 < den) :
    divHalfEven num den = n ↔ RoundsTo num den n :=
  ⟨fun same => same ▸ roundsTo_divHalfEven pos, fun h => (roundsTo_divHalfEven pos).unique pos h⟩

/-- How many units of `10 ^ -places` the number comes to that a finite double is rounded to. -/
def rounded? (places : Nat) (x : Float) : Option Int :=
  match Reading.ofFloat x with
  | .finite b => some (if b.negative then -b.units places else b.units places)
  | _ => none

/-- Is a number, or a zero, below zero by its sign? -/
def negative (x : Float) : Bool :=
  match Reading.ofFloat x with
  | .finite b => b.negative
  | .infinite negative => negative
  | .notANumber => false

/-! ## Digits -/

theorem digits_injective {m n : Nat} (same : digits m = digits n) : m = n := by
  have read (n : Nat) : Nat.ofDigitChars 10 (digits n) 0 = n :=
    Nat.ofDigitChars_toDigits (by decide) (by decide)
  rw [← read m, ← read n, same]

theorem paddedDigits_injective {width m n : Nat}
    (same : paddedDigits width m = paddedDigits width n) : m = n := by
  have read (k n : Nat) : Nat.ofDigitChars 10 (List.replicate k '0' ++ digits n) 0 = n := by
    induction k with
    | zero => exact Nat.ofDigitChars_toDigits (by decide) (by decide)
    | succ k ih => exact ih
  have first := read (width - (digits m).length) m
  have second := read (width - (digits n).length) n
  rw [show List.replicate (width - (digits m).length) '0' ++ digits m = _ from same] at first
  exact first.symm.trans second

theorem unitsText_injective {places m n : Nat} (same : unitsText places m = unitsText places n) :
    m = n := by
  have free (n : Nat) : '.' ∉ digits n := fun member => by
    have digit := isDigit_of_mem_digits member
    cases digit
  unfold unitsText at same
  by_cases none_ : places = 0
  · subst none_
    simp only [if_true, List.append_nil] at same
    simpa using digits_injective same
  · simp only [if_neg none_] at same
    obtain ⟨whole, rest⟩ := Geo.eq_of_cut (free _) (free _) same
    have whole := digits_injective whole
    have rest := paddedDigits_injective rest
    rw [← Nat.div_add_mod m (Nat.pow 10 places), ← Nat.div_add_mod n (Nat.pow 10 places), whole, rest]

/-- A text without a sign begins with a digit. -/
theorem unitsText_ne_of_front {places n : Nat} {c : Char} {rest : List Char}
    (other : c.isDigit = false) : unitsText places n ≠ c :: rest := by
  intro same
  obtain ⟨d, ds, front⟩ : ∃ d ds, digits (n / Nat.pow 10 places) = d :: ds :=
    List.exists_cons_of_ne_nil (List.ne_nil_of_length_pos Nat.length_toDigits_pos)
  rw [unitsText, front] at same
  obtain ⟨rfl, -⟩ := List.cons.inj same
  have digit : d.isDigit := isDigit_of_mem_digits (front ▸ List.mem_cons_self)
  rw [other] at digit
  cases digit

theorem signed_unitsText_eq_iff {places m n : Nat} {s t : Bool} :
    signText s ++ unitsText places m = signText t ++ unitsText places n ↔ s = t ∧ m = n := by
  constructor
  · intro same
    cases s <;> cases t
    · exact ⟨rfl, unitsText_injective same⟩
    · exact absurd same (unitsText_ne_of_front rfl)
    · exact absurd same.symm (unitsText_ne_of_front rfl)
    · exact ⟨rfl, unitsText_injective (List.cons.inj same).2⟩
  · rintro ⟨rfl, rfl⟩
    rfl

/-- The text of a finite double tells which number it is rounded to, and its sign. -/
theorem fixedText_eq_iff {places : Nat} {x y : Float} {m n : Int} (hx : rounded? places x = some m)
    (hy : rounded? places y = some n) :
    fixedText places x = fixedText places y ↔ m = n ∧ (m = 0 → negative x = negative y) := by
  unfold rounded? at hx hy
  split at hx
  · next b first =>
    split at hy
    · next c second =>
      cases hx
      cases hy
      simp only [fixedText, negative, first, second, signed_unitsText_eq_iff]
      cases b.negative <;> cases c.negative <;> simp <;> omega
    · cases hy
  · cases hx

end Decimal

namespace Geo

/-! ## Points -/

/-- Two points with finite coordinates that are rounded to the same numbers with eight decimals. -/
structure Alike (a b : GeoPoint) : Prop where
  lat : ∃ n, Decimal.rounded? places a.lat = some n ∧ Decimal.rounded? places b.lat = some n
  lng : ∃ n, Decimal.rounded? places a.lng = some n ∧ Decimal.rounded? places b.lng = some n

/-- Coordinates of points that are rounded to zero have the same signs. -/
structure SameZeros (a b : GeoPoint) : Prop where
  lat : Decimal.rounded? places a.lat = some 0 → Decimal.negative a.lat = Decimal.negative b.lat
  lng : Decimal.rounded? places a.lng = some 0 → Decimal.negative a.lng = Decimal.negative b.lng

variable {a b a' b' : GeoPoint}

theorem rendering_eq_iff_of_alike (h : Alike a b) : rendering a = rendering b ↔ SameZeros a b := by
  obtain ⟨⟨lat, first, first'⟩, ⟨lng, second, second'⟩⟩ := h
  simp only [rendering, Prod.mk.injEq, Decimal.fixedText_eq_iff first first',
    Decimal.fixedText_eq_iff second second', true_and]
  constructor
  · rintro ⟨lng_, lat_⟩
    exact ⟨fun zero => lat_ (by simpa [first] using zero),
      fun zero => lng_ (by simpa [second] using zero)⟩
  · rintro ⟨lat_, lng_⟩
    exact ⟨fun zero => lng_ (by rw [second, zero]), fun zero => lat_ (by rw [first, zero])⟩

/-- The key of a way tells points that are rounded alike apart only by the signs of zeros. -/
theorem routeKey_eq_iff_of_alike (first : Alike a a') (second : Alike b b') :
    routeKey a b = routeKey a' b' ↔ SameZeros a a' ∧ SameZeros b b' := by
  rw [routeKey_eq_iff, rendering_eq_iff_of_alike first, rendering_eq_iff_of_alike second]

end Geo

end CourierDispatch
