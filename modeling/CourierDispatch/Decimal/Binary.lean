/-!
# What a double stands for

A finite double is a whole number times a power of two. `Reading.ofFloat` takes a
double apart; the writers of decimal text work on the parts with exact natural numbers.
-/

namespace CourierDispatch.Decimal

/-- A finite double: `± mantissa · 2 ^ exponent`. -/
structure Binary where
  negative : Bool
  mantissa : Nat
  exponent : Int
  deriving DecidableEq, Repr

/-- The three kinds of value a double can have. -/
inductive Reading
  | notANumber
  | infinite (negative : Bool)
  | finite (value : Binary)
  deriving DecidableEq, Repr

/-- Is it the minus sign? -/
def isMinus : Float.Model.UnpackedFloat.Sign → Bool
  | .negative => true
  | .positive => false

/-- The value of a double. A zero keeps its sign. -/
def Reading.ofFloat (x : Float) : Reading :=
  match x.toModel.unpack with
  | .notANumber => .notANumber
  | .infinity sign => .infinite (isMinus sign)
  | .zero sign => .finite ⟨isMinus sign, 0, 0⟩
  | .finite sign mantissa exponent _ => .finite ⟨isMinus sign, mantissa, exponent⟩

/-- The magnitude as a fraction of natural numbers, the divisor a power of two. -/
def Binary.fraction (b : Binary) : Nat × Nat :=
  (b.mantissa * Nat.pow 2 b.exponent.toNat, Nat.pow 2 (-b.exponent).toNat)

/-- The sign that is written in front of a number. -/
def signText (negative : Bool) : List Char := if negative then ['-'] else []

/-- The digits of a natural number, most significant first. -/
def digits (n : Nat) : List Char := Nat.toDigits 10 n

/-- The digits of a natural number, filled with zeros on the left to a width. -/
def paddedDigits (width n : Nat) : List Char :=
  List.replicate (width - (digits n).length) '0' ++ digits n

/-- The value of a decimal digit. -/
def digitValue (c : Char) : Nat := c.toNat - '0'.toNat

/-- The natural number that a run of digits writes. -/
def ofDigits (s : List Char) : Nat := s.foldl (fun n c => 10 * n + digitValue c) 0

end CourierDispatch.Decimal
