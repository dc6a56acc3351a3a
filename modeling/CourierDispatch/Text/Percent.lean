import CourierDispatch.Json.Document
import CourierDispatch.Text.Utf8

/-!
# Percent coding

In paths and queries a byte may be written as `%` and two digits in base sixteen. A `%` that is
not followed by two such digits stands for itself. In a form, a plus sign is a blank, and pairs
of a name and a value are separated by `&`.
-/

namespace CourierDispatch.Text

/-- The bytes that a coded text stands for. -/
def percentBytes : List UInt8 → List UInt8
  | 0x25 :: a :: b :: rest =>
    match Json.hexValue? (Char.ofNat a.toNat), Json.hexValue? (Char.ofNat b.toNat) with
    | some high, some low => UInt8.ofNat (high * 16 + low) :: percentBytes rest
    | _, _ => 0x25 :: percentBytes (a :: b :: rest)
  | c :: rest => c :: percentBytes rest
  | [] => []

/-- The text that a coded text stands for, if its bytes are one. -/
def percentDecode? (s : List Char) : Option (List Char) := strict? (percentBytes (bytes s))

/-- A name or a value of a form. -/
def formDecode (s : List Char) : List Char :=
  lossy (percentBytes (bytes (s.map fun c => if c = '+' then ' ' else c)))

/-- The parts of a text between marks. -/
def splitOn (mark : Char) : List Char → List (List Char)
  | [] => [[]]
  | c :: rest =>
    if c = mark then [] :: splitOn mark rest
    else match splitOn mark rest with
      | [] => [[c]]
      | part :: parts => (c :: part) :: parts

/-- The pairs of a form. A part without `=` is a name with an empty value. -/
def formPairs (s : List Char) : List (String × String) :=
  ((splitOn '&' s).filter (· ≠ [])).map fun part =>
    (String.ofList (formDecode (part.takeWhile (· ≠ '='))),
      String.ofList (formDecode ((part.dropWhile (· ≠ '=')).drop 1)))

/-- A byte as `%` and two upper-case digits. -/
def percentByte (b : UInt8) : List Char :=
  ['%', (Nat.digitChar (b.toNat / 16)).toUpper, (Nat.digitChar (b.toNat % 16)).toUpper]

/-- A character as its coded bytes. -/
def percentChar (c : Char) : List Char := (String.utf8EncodeChar c).flatMap percentByte

end CourierDispatch.Text
