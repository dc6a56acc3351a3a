import CourierDispatch.DomainName.PropertyTable

/-!
# Directions

A name with letters that are written from right to left can be read in the wrong order. In such a
name every label has to go one way from its first letter to its last: `goesOneWay`.
-/

namespace CourierDispatch.DomainName

inductive Direction
  | left
  | right
  /-- Digits of the European kind. -/
  | european
  /-- Digits of the Arabic kind. -/
  | arabic
  /-- A mark, which goes with the character before it. -/
  | mark
  | neutral
  deriving DecidableEq, Repr

namespace Direction

def ofChar (c : Char) : Direction :=
  if within Property.following c then mark
  else if within Property.nonspacing c then if within Property.upright c then left else mark
  else if within Property.rightToLeft c then right
  else if within Property.europeanDigit c then european
  else if within Property.arabicDigit c then arabic
  else if within Property.neutral c then neutral
  else left

/-- Does a character make the whole name one with right-to-left parts? -/
def isRightward (c : Char) : Bool := ofChar c = right || ofChar c = arabic

/-- The last direction that is not a mark's. -/
def lastOf (ds : List Direction) : Option Direction := (ds.reverse.dropWhile (· = mark)).head?

/-- Do the directions of a label go one way? -/
def oneWay : List Direction → Bool
  | [] => true
  | left :: ds =>
    ds.all ([left, european, neutral, mark].contains ·) &&
      (lastOf (left :: ds)).any ([left, european].contains ·)
  | right :: ds =>
    ds.all ([right, arabic, european, neutral, mark].contains ·) &&
      (lastOf (right :: ds)).any ([right, european, arabic].contains ·) &&
      !(ds.contains european && ds.contains arabic)
  | _ => false

example : oneWay [left, neutral, european] = true ∧ oneWay [european, left] = false := by decide
example : oneWay [right, arabic, mark] = true ∧ oneWay [right, arabic, european] = false := by
  decide

end Direction

/-- Does a label go one way? -/
def goesOneWay (label : List Char) : Bool := Direction.oneWay (label.map Direction.ofChar)

end CourierDispatch.DomainName
