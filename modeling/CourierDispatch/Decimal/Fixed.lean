import CourierDispatch.Decimal.Binary

/-!
# Fixed places

A double written with a fixed number of decimals: the exact value is rounded to the
grid, a half going to the even neighbour. The sign is kept even where the value rounds
to zero.
-/

namespace CourierDispatch.Decimal

/-- `num / den` rounded to the nearest whole number, a half to the even one. -/
def divHalfEven (num den : Nat) : Nat :=
  let whole := num / den
  let rest := num % den
  if 2 * rest < den then whole
  else if den < 2 * rest then whole + 1
  else if whole % 2 = 0 then whole else whole + 1

example : divHalfEven 5 2 = 2 ∧ divHalfEven 7 2 = 4 ∧ divHalfEven 8 3 = 3 := by decide

/-- How many units of `10 ^ -places` the magnitude comes to. -/
def Binary.units (places : Nat) (b : Binary) : Nat :=
  divHalfEven (b.fraction.1 * Nat.pow 10 places) b.fraction.2

/-- A number of units of `10 ^ -places`, written with that many decimals. -/
def unitsText (places units : Nat) : List Char :=
  digits (units / Nat.pow 10 places) ++
    (if places = 0 then [] else '.' :: paddedDigits places (units % Nat.pow 10 places))

/-- A double with a fixed number of decimals. -/
def fixedText (places : Nat) (x : Float) : List Char :=
  match Reading.ofFloat x with
  | .notANumber => "NaN".toList
  | .infinite negative => signText negative ++ "inf".toList
  | .finite b => signText b.negative ++ unitsText places (b.units places)

/-- The rounded quotient is within half a divisor. -/
theorem divHalfEven_near (num den : Nat) (h : 0 < den) :
    2 * num ≤ 2 * (divHalfEven num den * den) + den ∧
      2 * (divHalfEven num den * den) ≤ 2 * num + den := by
  have split := Nat.div_add_mod num den
  have small := Nat.mod_lt num h
  have whole : (num / den) * den = den * (num / den) := Nat.mul_comm _ _
  have next : (num / den + 1) * den = den * (num / den) + den := by
    rw [Nat.add_mul, whole, Nat.one_mul]
  unfold divHalfEven
  simp only
  split
  · rw [whole]; omega
  · split
    · rw [next]; omega
    · split
      · rw [whole]; omega
      · rw [next]; omega

end CourierDispatch.Decimal
