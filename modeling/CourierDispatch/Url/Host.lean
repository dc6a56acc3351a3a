import CourierDispatch.DomainName.Ascii
import CourierDispatch.Url.Basic

/-!
# Hosts

The host of an address is a name, or a number of the fourth or the sixth version of the
protocol. A name is put in its form in ASCII and may not have characters that mean something
else in an address; a name whose last label is a number is an address of the fourth version in
one of many notations.
-/

namespace CourierDispatch

/-- What is wrong with the text of an address. -/
inductive UrlFault
  | emptyHost
  | badName
  | badPort
  | badIpv4
  | badIpv6
  | badCharacter
  | noScheme
  deriving DecidableEq, Repr

def UrlFault.message : UrlFault → String
  | .emptyHost => "empty host"
  | .badName => "invalid international domain name"
  | .badPort => "invalid port number"
  | .badIpv4 => "invalid IPv4 address"
  | .badIpv6 => "invalid IPv6 address"
  | .badCharacter => "invalid domain character"
  | .noScheme => "relative URL without a base"

namespace Url

/-! ## The fourth version -/

/-- The digits of a number and its base: sixteen behind `0x`, eight behind another zero. -/
def ipv4Digits : List Char → List Char × Nat
  | '0' :: 'x' :: ds => (ds, 16)
  | '0' :: c :: ds => (c :: ds, 8)
  | ds => (ds, 10)

/-- The value of a digit in some base. -/
def digitIn (base : Nat) (c : Char) : Option Nat :=
  (Json.hexValue? c).filter (· < base)

/-- A number in one of the notations; `0x` alone is zero. -/
def ipv4Number? (s : List Char) : Option Nat :=
  if s = [] then none
  else
    let (ds, base) := ipv4Digits s
    ds.foldlM (fun n c => (digitIn base c).map (base * n + ·)) 0

/-- The parts of a name, without the empty one behind a last dot. -/
def labels (s : List Char) : List (List Char) :=
  let parts := Text.splitOn '.' s
  if 2 ≤ parts.length ∧ parts.getLast? = some [] then parts.dropLast else parts

def endsInNumber (s : List Char) : Bool :=
  match (labels s).getLast? with
  | some l => (l ≠ [] && l.all Char.isDigit) || (ipv4Number? l).isSome
  | none => false

/-- The last number fills the bytes that the ones before it leave. -/
def ipv4Value? (parts : List (List Char)) : Option Nat := do
  let numbers ← parts.mapM ipv4Number?
  let last ← numbers.getLast?
  let bytes := numbers.dropLast
  guard (bytes.length ≤ 3 ∧ bytes.all (· ≤ 255) ∧ last < Nat.pow 256 (4 - bytes.length))
  return bytes.zipIdx.foldl (fun n (b, i) => n + b * Nat.pow 256 (3 - i)) last

def ipv4Text (n : Nat) : List Char :=
  (".".intercalate ([16777216, 65536, 256, 1].map fun d => toString (n / d % 256))).toList

example : (ipv4Value? (labels "127.0x1".toList)).map ipv4Text = some "127.0.0.1".toList := by decide

/-! ## The sixth version -/

/-- A number below 256 in plain decimal digits. -/
def ipv4Byte? (s : List Char) : Option Nat :=
  if s = [] ∨ !s.all Char.isDigit ∨ 3 < s.length ∨ (s.head? = some '0' ∧ s ≠ ['0']) then none
  else (ipv4Number? s).filter (· < 256)

/-- The two pieces that four bytes stand for. -/
def ipv4Pieces? (s : List Char) : Option (List Nat) := do
  match ← (Text.splitOn '.' s).mapM ipv4Byte? with
  | [a, b, c, d] => some [a * 256 + b, c * 256 + d]
  | _ => none

/-- One piece: up to four digits. -/
def ipv6Piece? (s : List Char) : Option Nat :=
  if s = [] ∨ 4 < s.length then none
  else s.foldlM (fun n c => (Json.hexValue? c).map (16 * n + ·)) 0

/-- Pieces between colons, the last of which may be four bytes. -/
def ipv6Pieces? (s : List Char) : Option (List Nat) :=
  if s = [] then some []
  else
    let parts := Text.splitOn ':' s
    match parts.getLast? with
    | some last =>
      if last.contains '.' then do
        return (← parts.dropLast.mapM ipv6Piece?) ++ (← ipv4Pieces? last)
      else parts.mapM ipv6Piece?
    | none => none

/-- What stands before and behind the first two colons in a row. -/
def aroundColons : List Char → Option (List Char × List Char)
  | ':' :: ':' :: rest => some ([], rest)
  | c :: rest => (aroundColons rest).map fun (before, behind) => (c :: before, behind)
  | [] => none

/-- The eight pieces; two colons in a row stand for as many zeros as are missing. -/
def ipv6? (s : List Char) : Option (List Nat) :=
  match aroundColons s with
  | none => (ipv6Pieces? s).filter (·.length = 8)
  | some (before, behind) => do
    guard (!before.contains '.')
    let before ← ipv6Pieces? before
    let behind ← ipv6Pieces? behind
    guard (before.length + behind.length ≤ 7)
    return before ++ List.replicate (8 - before.length - behind.length) 0 ++ behind

/-- The length of the run of zeros at a position. -/
def zerosAt (pieces : List Nat) (i : Nat) : Nat := ((pieces.drop i).takeWhile (· = 0)).length

/-- The first of the longest runs of zeros. -/
def longestZeros (pieces : List Nat) : Nat × Nat :=
  (List.range pieces.length).foldl (fun (at_, n) i =>
    if n < zerosAt pieces i then (i, zerosAt pieces i) else (at_, n)) (0, 0)

def piecesText (pieces : List Nat) : List Char :=
  (":".intercalate (pieces.map fun n => String.ofList (Nat.toDigits 16 n))).toList

/-- The written form, the longest run of two zeros and more as two colons. -/
def ipv6Text (pieces : List Nat) : List Char :=
  let (start, n) := longestZeros pieces
  if n < 2 then piecesText pieces
  else piecesText (pieces.take start) ++ ':' :: ':' :: piecesText (pieces.drop (start + n))

example : (ipv6? "1:0:0:2::0.0.0.3".toList).map ipv6Text = some "1:0:0:2::3".toList := by decide

/-! ## Names -/

/-- The characters that may not stand in a name. -/
def forbiddenInName (c : Char) : Bool :=
  c.toNat ≤ 0x20 || c.toNat = 0x7F || "%#/:<>?@[\\]^|".toList.contains c

/-- A name in ASCII; coded characters are decoded before they are looked at. -/
def readName (s : List Char) : Except UrlFault (List Char) :=
  match (Text.percentDecode? s).bind DomainName.toAscii? with
  | none => .error .badName
  | some name =>
    if name.any forbiddenInName then .error .badName
    else if name = [] then .error .emptyHost
    else .ok name

/-- What stands in square brackets. -/
def readBracketed (s : List Char) : Except UrlFault (List Char) :=
  if s.getLast? = some ']' then
    match ipv6? s.dropLast with
    | some pieces => .ok ('[' :: ipv6Text pieces ++ [']'])
    | none => .error .badIpv6
  else .error .badIpv6

/-- The characters that may not stand in a host of any scheme. -/
def forbiddenInHost (c : Char) : Bool := "\x00\t\n\r #/:<>?@[\\]^|".toList.contains c

/-- A host as it is written in an address with this kind of scheme. -/
def readHost (special : Bool) : List Char → Except UrlFault (List Char)
  | '[' :: rest => readBracketed rest
  | s =>
    if special then do
      let name ← readName s
      if endsInNumber name then
        match ipv4Value? (labels name) with
        | some n => .ok (ipv4Text n)
        | none => .error .badIpv4
      else .ok name
    else if s.any forbiddenInHost then .error .badCharacter
    else .ok (code codedAnywhere s)

end Url

end CourierDispatch
