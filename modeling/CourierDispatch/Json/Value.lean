/-!
# JSON values

What a record looks like on the wire. A number keeps apart whole numbers of 64 bits, with
and without a minus sign, and doubles, because a decoder of whole numbers refuses a double
even where it has no fraction.
-/

namespace CourierDispatch.Json

inductive Number
  /-- A whole number below `2 ^ 64`. -/
  | natural (n : UInt64)
  /-- Minus a whole number, from `-1` down to `-2 ^ 63`. -/
  | negative (n : UInt64)
  | real (x : Float)
  deriving DecidableEq, Repr

/-- The double nearest to a number. -/
def Number.toFloat : Number → Float
  | .natural n => n.toFloat
  | .negative n => -n.toFloat
  | .real x => x

inductive Value
  | null
  | bool (b : Bool)
  | number (n : Number)
  | text (s : String)
  | list (items : List Value)
  | record (members : List (String × Value))
  deriving Repr, Inhabited

namespace Value

def natural (n : UInt64) : Value := .number (.natural n)

/-- A double; one that is no finite number is written as `null`. -/
def real (x : Float) : Value := if x.isFinite then .number (.real x) else .null

/-- A value or `null`. -/
def optional (encode : α → Value) : Option α → Value
  | some a => encode a
  | none => .null

/-- The member of a record with a given name. -/
def member? : Value → String → Option Value
  | .record members, name => members.lookup name
  | _, _ => none

end Value

end CourierDispatch.Json
