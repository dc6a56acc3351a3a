import CourierDispatch.Text.Percent

/-!
# Tables of characters

Properties of characters are written down as words with code points in base sixteen. A word of a
set is one code point or a range, `AD` or `300-36F`. A word of a map says what stands for
such characters: `41-5A:61` moves a whole range, `100-12E/2:101` every second code point of one,
`C6:61,65` gives two characters, and `AD:` none.
-/

namespace CourierDispatch.DomainName

/-- A number in base sixteen. -/
def hexNumber (s : List Char) : Nat :=
  s.foldl (fun n c => 16 * n + (Json.hexValue? c).getD 0) 0

/-- The words of some lines. -/
def words (lines : List String) : List (List Char) :=
  lines.flatMap fun l => (Text.splitOn ' ' l.toList).filter (· ≠ [])

/-! ## Sets -/

structure CodeRange where
  first : Nat
  last : Nat
  deriving DecidableEq, Repr

namespace CodeRange

def has (r : CodeRange) (c : Char) : Bool := r.first ≤ c.toNat && c.toNat ≤ r.last

def ofWord (s : List Char) : CodeRange :=
  match Text.splitOn '-' s with
  | [first, last] => ⟨hexNumber first, hexNumber last⟩
  | _ => ⟨hexNumber s, hexNumber s⟩

end CodeRange

def readRanges (lines : List String) : List CodeRange := (words lines).map CodeRange.ofWord

/-- Is a character in one of the ranges? -/
def within (rs : List CodeRange) (c : Char) : Bool := rs.any (·.has c)

example : readRanges ["AD 300-36F"] = [⟨0xAD, 0xAD⟩, ⟨0x300, 0x36F⟩] := by decide

/-! ## Maps -/

/-- Characters at equal distances and what stands for the first of them; what stands for a later
one lies as much further on. -/
structure Run where
  range : CodeRange
  step : Nat
  target : List Nat
  deriving DecidableEq, Repr

namespace Run

/-- What stands for a character, if the run has it. -/
def at? (r : Run) (c : Char) : Option (List Char) :=
  let past := c.toNat - r.range.first
  if r.range.has c && past % r.step = 0 then some (r.target.map fun n => Char.ofNat (n + past))
  else none

def ofWord (s : List Char) : Run :=
  let codes := s.takeWhile (· ≠ ':')
  let target := (s.dropWhile (· ≠ ':')).drop 1
  {
    range := CodeRange.ofWord (codes.takeWhile (· ≠ '/'))
    step := if codes.contains '/' then 2 else 1
    target := ((Text.splitOn ',' target).filter (· ≠ [])).map hexNumber }

end Run

def readRuns (lines : List String) : List Run := (words lines).map Run.ofWord

/-- What stands for a character in a table, if the table has it. -/
def lookup? (table : List Run) (c : Char) : Option (List Char) := table.findSome? (·.at? c)

example : lookup? (readRuns ["41-5A:61 AD:", "100-12E/2:101"]) 'C' = some ['c'] := by decide
example : lookup? (readRuns ["41-5A:61 AD:", "100-12E/2:101"]) 'Ą' = some ['ą'] := by decide
example : lookup? (readRuns ["41-5A:61 AD:", "100-12E/2:101"]) 'ą' = none := by decide

end CourierDispatch.DomainName
