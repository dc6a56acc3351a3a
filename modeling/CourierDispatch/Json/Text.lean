import CourierDispatch.Decimal.Shortest
import CourierDispatch.Json.Value

/-!
# Writing JSON

The compact text of a value: no blanks, members in their order. A quote, a backslash and the
control characters of a text are escaped, all else stands as it is.
-/

namespace CourierDispatch.Json

/-- One digit of a number in base sixteen, in lower case. -/
def hexDigit (n : Nat) : Char := (Nat.digitChar n)

/-- A character inside quotes. -/
def escape (c : Char) : List Char :=
  if c = '"' then ['\\', '"']
  else if c = '\\' then ['\\', '\\']
  else if c.toNat = 0x08 then ['\\', 'b']
  else if c.toNat = 0x09 then ['\\', 't']
  else if c.toNat = 0x0A then ['\\', 'n']
  else if c.toNat = 0x0C then ['\\', 'f']
  else if c.toNat = 0x0D then ['\\', 'r']
  else if c.toNat < 0x20 then
    ['\\', 'u', '0', '0', hexDigit (c.toNat / 16), hexDigit (c.toNat % 16)]
  else [c]

/-- A text in quotes. -/
def quoted (s : List Char) : List Char := '"' :: s.flatMap escape ++ ['"']

def Number.chars : Number → List Char
  | .natural n => Decimal.digits n.toNat
  | .negative n => '-' :: Decimal.digits n.toNat
  | .real x => match Decimal.Reading.ofFloat x with
    | .finite b => b.scientificText
    | _ => "null".toList

mutual

/-- The compact text of a value. -/
def Value.chars : Value → List Char
  | .null => "null".toList
  | .bool true => "true".toList
  | .bool false => "false".toList
  | .number n => n.chars
  | .text s => quoted s.toList
  | .list items => '[' :: itemChars items ++ [']']
  | .record members => '\x7b' :: memberChars members ++ ['\x7d']

/-- Items separated by commas. -/
def itemChars : List Value → List Char
  | [] => []
  | [v] => v.chars
  | v :: w :: rest => v.chars ++ ',' :: itemChars (w :: rest)

/-- Members separated by commas. -/
def memberChars : List (String × Value) → List Char
  | [] => []
  | [(name, v)] => quoted name.toList ++ ':' :: v.chars
  | (name, v) :: m :: rest => quoted name.toList ++ ':' :: v.chars ++ ',' :: memberChars (m :: rest)

end

/-- The compact text of a value. -/
def Value.render (v : Value) : String := String.ofList v.chars

end CourierDispatch.Json
