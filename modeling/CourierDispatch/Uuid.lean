import CourierDispatch.Json.Decode
import CourierDispatch.Json.Text
import CourierDispatch.Text.Blank

/-!
# Identifiers

Trips, couriers, products and users are named by 128-bit identifiers, written as
thirty-two lower-case digits in base sixteen with hyphens between groups of 8, 4, 4, 4 and 12.
A reader also takes the digits without hyphens, in braces, or behind `urn:uuid:`, all in any case.
-/

namespace CourierDispatch

structure Uuid where
  bits : BitVec 128
  deriving DecidableEq, Repr

namespace Uuid

/-- The identifier all of whose digits are zero. -/
def nil : Uuid := ⟨0⟩

/-- The digits at some positions, the most significant at position 0. -/
def hexDigits (u : Uuid) : List Char :=
  (List.range 32).map fun i => Json.hexDigit (u.bits.toNat / Nat.pow 16 (31 - i) % 16)

/-- Hyphens between the groups of digits. -/
def hyphenated (ds : List Char) : List Char :=
  ds.take 8 ++ '-' :: (ds.drop 8).take 4 ++ '-' :: (ds.drop 12).take 4 ++
    '-' :: (ds.drop 16).take 4 ++ '-' :: ds.drop 20

/-- The written form. -/
def text (u : Uuid) : String := String.ofList (hyphenated u.hexDigits)

instance : ToString Uuid := ⟨text⟩

/-- The number that some digits in base sixteen write. -/
def ofHex? (ds : List Char) : Option Nat :=
  ds.foldlM (fun n c => (Json.hexValue? c).map (16 * n + ·)) 0

/-- Thirty-two digits. -/
def ofDigits? (ds : List Char) : Option Uuid :=
  if ds.length = 32 then (ofHex? ds).map fun n => ⟨BitVec.ofNat 128 n⟩ else none

/-- Five groups of digits with hyphens between them. -/
def ofHyphenated? (s : List Char) : Option Uuid :=
  let hyphens := [s[8]?, s[13]?, s[18]?, s[23]?]
  if s.length = 36 ∧ hyphens = [some '-', some '-', some '-', some '-'] then
    ofDigits? (s.take 8 ++ (s.drop 9).take 4 ++ (s.drop 14).take 4 ++ (s.drop 19).take 4 ++
      s.drop 24)
  else none

/-- What stands between two braces. -/
def unbraced? : List Char → Option (List Char)
  | '\x7b' :: rest => if rest.getLast? = some '\x7d' then some rest.dropLast else none
  | _ => none

/-- Reads any of the written forms. -/
def read? (s : String) : Option Uuid :=
  let cs := s.toList
  if cs.length = 32 then ofDigits? cs
  else if cs.length = 36 then ofHyphenated? cs
  else if cs.length = 38 then (unbraced? cs).bind ofHyphenated?
  else if Text.lower (cs.take 9) = "urn:uuid:".toList then ofHyphenated? (cs.drop 9)
  else none

def encode (u : Uuid) : Json.Value := .text u.text

def decode : Json.Decoder Uuid := Json.Decoder.refine Json.Decoder.text read?

end Uuid

end CourierDispatch
