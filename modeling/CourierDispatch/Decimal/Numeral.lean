import CourierDispatch.Decimal.Binary

/-!
# Reading settings

How the text of a setting becomes a number or a flag, and what is said about a text
that does not. A natural number is a run of ASCII digits with an optional plus sign; a
real number has an optional sign and may have a point, an exponent, or be one of the words for
infinity and "not a number" in any case.
-/

namespace CourierDispatch.Decimal

/-- Why a text is not a natural number. -/
inductive NaturalFault
  | empty
  | invalidDigit
  | tooLarge
  deriving DecidableEq, Repr

def NaturalFault.message : NaturalFault → String
  | .empty => "cannot parse integer from empty string"
  | .invalidDigit => "invalid digit found in string"
  | .tooLarge => "number too large to fit in target type"

/-- Why a text is not a real number. -/
inductive RealFault
  | empty
  | invalid
  deriving DecidableEq, Repr

def RealFault.message : RealFault → String
  | .empty => "cannot parse float from empty string"
  | .invalid => "invalid float literal"

/-- The message about a flag that is neither of its two words. -/
def flagFault : String := "provided string was not `true` or `false`"

/-- Reads the digits of a natural number below `bound`. The first fault from the left
counts, so an overlong number that goes on with a letter is too large. -/
def readDigits (bound : Nat) : Nat → List Char → Except NaturalFault Nat
  | value, [] => .ok value
  | value, c :: rest =>
    if c.isDigit then
      let next := 10 * value + digitValue c
      if next < bound then readDigits bound next rest else .error .tooLarge
    else .error .invalidDigit

/-- A natural number below `bound`. -/
def readNatural (bound : Nat) (s : String) : Except NaturalFault Nat :=
  match s.toList with
  | [] => .error .empty
  | ['+'] | ['-'] => .error .invalidDigit
  | '+' :: ds => readDigits bound 0 ds
  | ds => readDigits bound 0 ds

/-- A flag. -/
def readFlag (s : String) : Except String Bool :=
  if s = "true" then .ok true else if s = "false" then .ok false else .error flagFault

/-- The digits at the front of a text, and what follows them. -/
def spanDigits (s : List Char) : List Char × List Char :=
  (s.takeWhile Char.isDigit, s.dropWhile Char.isDigit)

/-- The exponent part that must end a number: nothing, or `e` with a signed number. -/
def readExponent : List Char → Option Int
  | [] => some 0
  | e :: rest =>
    if e ≠ 'e' ∧ e ≠ 'E' then none
    else
      let (negative, rest) := match rest with
        | '-' :: r => (true, r)
        | '+' :: r => (false, r)
        | r => (false, r)
      if rest ≠ [] ∧ rest.all Char.isDigit then
        some (if negative then -(ofDigits rest : Int) else ofDigits rest)
      else none

/-- The double nearest to `m · 10 ^ e`. -/
def ofScientific (m : Nat) (e : Int) : Float :=
  Float.ofScientific m (e < 0) e.natAbs

/-- An unsigned real number. -/
def readMagnitude (s : List Char) : Option Float :=
  let word := s.map Char.toLower
  if word = "inf".toList ∨ word = "infinity".toList then some (1.0 / 0.0)
  else if word = "nan".toList then some (0.0 / 0.0)
  else
    let (whole, rest) := spanDigits s
    let (decimals, rest) := match rest with
      | '.' :: r => spanDigits r
      | r => ([], r)
    if whole = [] ∧ decimals = [] then none
    else (readExponent rest).map fun e =>
      ofScientific (ofDigits (whole ++ decimals)) (e - decimals.length)

/-- A real number, rounded to the nearest double. -/
def readReal (s : String) : Except RealFault Float :=
  match s.toList with
  | [] => .error .empty
  | '-' :: r => match readMagnitude r with
    | some x => .ok (-x)
    | none => .error .invalid
  | '+' :: r => match readMagnitude r with
    | some x => .ok x
    | none => .error .invalid
  | r => match readMagnitude r with
    | some x => .ok x
    | none => .error .invalid

end CourierDispatch.Decimal
