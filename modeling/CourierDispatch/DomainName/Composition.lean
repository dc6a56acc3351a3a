import CourierDispatch.DomainName.CompositionTable

/-!
# One form for characters with marks

A letter with marks can be written as one character or as several. `normal` gives the one form
that all the ways of writing it share: characters are taken apart, the marks behind a letter are
sorted by class, and then each letter takes up as many marks as there are characters for.
Syllables of the Korean script are put together from their letters in the same way, by
arithmetic.
-/

namespace CourierDispatch.DomainName

namespace Composition

/-! ## Korean syllables -/

/-- The first code points of the syllables and of their first, middle and last letters; the last
letter with number zero is none. -/
def syllableBase : Nat := 0xAC00
def leadBase : Nat := 0x1100
def vowelBase : Nat := 0x1161
def tailBase : Nat := 0x11A7

/-- How many first, middle and last letters there are. -/
def leadCount : Nat := 19
def vowelCount : Nat := 21
def tailCount : Nat := 28

/-- The number of a character in a range, if it is there. -/
def indexIn (base count : Nat) (c : Char) : Option Nat :=
  if base ≤ c.toNat ∧ c.toNat < base + count then some (c.toNat - base) else none

def splitSyllable? (c : Char) : Option (Char × Char) := do
  let n ← indexIn syllableBase (leadCount * vowelCount * tailCount) c
  if n % tailCount = 0 then
    return (Char.ofNat (leadBase + n / tailCount / vowelCount),
      Char.ofNat (vowelBase + n / tailCount % vowelCount))
  else
    return (Char.ofNat (c.toNat - n % tailCount), Char.ofNat (tailBase + n % tailCount))

def joinSyllable? (a b : Char) : Option Char :=
  match indexIn leadBase leadCount a, indexIn vowelBase vowelCount b with
  | some lead, some vowel =>
    some (Char.ofNat (syllableBase + (lead * vowelCount + vowel) * tailCount))
  | _, _ =>
    match indexIn syllableBase (leadCount * vowelCount * tailCount) a,
      indexIn (tailBase + 1) (tailCount - 1) b with
    | some n, some tail =>
      if n % tailCount = 0 then some (Char.ofNat (a.toNat + tail + 1)) else none
    | _, _ => none

example : splitSyllable? '한' = some ('하', '\u11ab') := by decide
example : joinSyllable? '하' '\u11ab' = some '한' := by decide

/-! ## Characters and marks -/

/-- The two parts of a character. -/
def split? (c : Char) : Option (Char × Char) :=
  match lookup? pairs c with
  | some [a, b] => some (a, b)
  | _ => splitSyllable? c

/-- The character that two parts make. -/
def join? (a b : Char) : Option Char :=
  match pairs.find? (·.target = [a.toNat, b.toNat]) with
  | some r => some (Char.ofNat r.range.first)
  | none => joinSyllable? a b

/-- How deep characters are made of parts of parts. -/
def depth : Nat := 3

/-- A character in its last parts, as far as the fuel goes; second parts have no parts. -/
def unfold : Nat → Char → List Char
  | 0, c => [c]
  | n + 1, c => match split? c with
    | some (a, b) => unfold n a ++ [b]
    | none => [c]

/-- The class of a mark; zero for a character that is none. -/
def markClass (c : Char) : Nat :=
  (classes.findSome? fun (n, rs) => if within rs c then some n else none).getD 0

/-- Puts a character behind a text that is read backwards: a mark goes before the marks of
higher classes. -/
def insertMark (c : Char) : List Char → List Char
  | [] => [c]
  | d :: rest =>
    if markClass c ≠ 0 ∧ markClass c < markClass d then d :: insertMark c rest else c :: d :: rest

/-- The marks behind each letter sorted by class. -/
def sortMarks (s : List Char) : List Char :=
  (s.foldl (fun done c => insertMark c done) []).reverse

/-- Puts together a letter, the marks that stay behind it, the last one first, and what follows.
A mark can be taken up unless one of its class or a higher one stays before it. -/
def gather (letter : Char) (staying : List Char) : List Char → List Char
  | [] => letter :: staying.reverse
  | c :: rest =>
    match if staying.all (markClass · < markClass c) then join? letter c else none with
    | some joined => gather joined staying rest
    | none =>
      if markClass c = 0 then letter :: staying.reverse ++ gather c [] rest
      else gather letter (c :: staying) rest

end Composition

/-- The form that all ways to write a text share. -/
def normal (s : List Char) : List Char :=
  match Composition.sortMarks (s.flatMap (Composition.unfold Composition.depth)) with
  | [] => []
  | c :: rest => Composition.gather c [] rest

end CourierDispatch.DomainName
