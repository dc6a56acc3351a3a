import CourierDispatch.Decimal.Binary
import CourierDispatch.Json.Value

/-!
# Reading JSON

A text is read into a `Document`: a value as it stands in the text, with its defects kept in
place. Reading never fails. Where the text stops being JSON the tree has a `cut`, and the lists
and records around it have a broken ending; a numeral out of range and a text with half a
surrogate pair are there without a value. A decoder walks the tree in the order of the text,
so the first defect or the first mismatch, whichever comes first, decides what is reported,
and a part that no decoder asks for only has to be well formed.
-/

namespace CourierDispatch.Json

/-- How a list or a record ends. -/
inductive Ending
  /-- With its closing bracket. -/
  | closed
  /-- Where the text stops being JSON. -/
  | broken
  deriving DecidableEq, Repr

inductive Document
  | null
  | bool (b : Bool)
  /-- A numeral; `none` if it is out of the range of a double. -/
  | number (n : Option Number)
  /-- A text; `none` if it holds half a surrogate pair. -/
  | text (s : Option String)
  | list (items : List Document) (ending : Ending)
  | record (members : List (Option String × Document)) (ending : Ending)
  /-- Here the text is no JSON value. -/
  | cut
  deriving Repr, Inhabited

/-! ## Blanks and words -/

def isSpace (c : Char) : Bool := c = ' ' || c = '\n' || c = '\t' || c = '\r'

def skipSpace (s : List Char) : List Char := s.dropWhile isSpace

/-- The rest of the text behind a word. -/
def word? : List Char → List Char → Option (List Char)
  | [], rest => some rest
  | _ :: _, [] => none
  | p :: ps, c :: rest => if p = c then word? ps rest else none

/-! ## Texts -/

/-- The value of a digit in base sixteen. -/
def hexValue? (c : Char) : Option Nat :=
  if c.isDigit then some (c.toNat - '0'.toNat)
  else if 'a' ≤ c ∧ c ≤ 'f' then some (c.toNat - 'a'.toNat + 10)
  else if 'A' ≤ c ∧ c ≤ 'F' then some (c.toNat - 'A'.toNat + 10)
  else none

/-- Four digits in base sixteen. -/
def hexUnit? (a b c d : Char) : Option Nat := do
  let a ← hexValue? a
  let b ← hexValue? b
  let c ← hexValue? c
  let d ← hexValue? d
  return ((a * 16 + b) * 16 + c) * 16 + d

/-- The character that an escape of one letter stands for. -/
def unescape? (c : Char) : Option Char :=
  if c = '"' ∨ c = '\\' ∨ c = '/' then some c
  else if c = 'b' then some '\x08'
  else if c = 'f' then some '\x0c'
  else if c = 'n' then some '\n'
  else if c = 'r' then some '\r'
  else if c = 't' then some '\t'
  else none

/-- A text in progress: its characters, or `none` once half a pair was met, and what follows. -/
abbrev TextRead := Option (Option (List Char) × List Char)

/-- One more character in front. -/
def TextRead.push (c : Char) (r : TextRead) : TextRead :=
  r.map fun (s, rest) => (s.map (c :: ·), rest)

/-- Half a pair in front. -/
def TextRead.spoil (r : TextRead) : TextRead := r.map fun (_, rest) => (none, rest)

/-- The character of a surrogate pair. -/
def pairChar (high low : Nat) : Char :=
  Char.ofNat (0x10000 + (high - 0xD800) * 0x400 + (low - 0xDC00))

/-- The text up to its closing quote; `none` if there is no such text. -/
def readText : List Char → TextRead
  | [] => none
  | '"' :: rest => some (some [], rest)
  | '\\' :: 'u' :: a :: b :: c :: d :: rest =>
    match hexUnit? a b c d with
    | none => none
    | some unit =>
      if unit < 0xD800 ∨ 0xE000 ≤ unit then (readText rest).push (Char.ofNat unit)
      else if 0xDC00 ≤ unit then (readText rest).spoil
      else match rest with
        | '\\' :: 'u' :: w :: x :: y :: z :: more =>
          match hexUnit? w x y z with
          | some low =>
            if 0xDC00 ≤ low ∧ low < 0xE000 then (readText more).push (pairChar unit low)
            else (readText ('\\' :: 'u' :: w :: x :: y :: z :: more)).spoil
          | none => none
        | rest => (readText rest).spoil
  | '\\' :: e :: rest =>
    match unescape? e with
    | some c => (readText rest).push c
    | none => none
  | c :: rest => if c = '\\' ∨ c.toNat < 0x20 then none else (readText rest).push c

/-! ## Numerals

The significand is gathered digit by digit while it fits in 64 bits; the digits beyond count
as a power of ten. The result is then scaled once by a power of ten that is itself a double,
so a long numeral may come out beside the nearest double. -/

/-- Gathers digits while the significand stays below `2 ^ 64`: the significand, and how many
digits were left over. -/
def gather (significand : Nat) : List Char → Nat × Nat
  | [] => (significand, 0)
  | c :: rest =>
    let next := 10 * significand + Decimal.digitValue c
    if next < UInt64.size then gather next rest else (significand, rest.length + 1)

/-- The double nearest to a power of ten. -/
def powerOfTen (k : Nat) : Float := Float.ofScientific 1 false k

/-- Scales by a power of ten; `none` beyond the greatest double. -/
def scale (x : Float) (e : Int) : Option Float :=
  if e.natAbs ≤ 308 then
    if 0 ≤ e then
      let y := x * powerOfTen e.natAbs
      if y.isInf then none else some y
    else some (x / powerOfTen e.natAbs)
  else if x == 0.0 then some x
  else if 0 ≤ e then none
  else scale (x / powerOfTen 308) (e + 308)
  termination_by e.natAbs
  decreasing_by omega

/-- The parts of a numeral. -/
structure Numeral where
  negative : Bool
  whole : List Char
  decimals : Option (List Char)
  exponent : Option Int
  deriving DecidableEq, Repr

def Numeral.signed (n : Numeral) (x : Float) : Float := if n.negative then -x else x

/-- The number that a numeral writes; `none` beyond the greatest double. -/
def Numeral.value? (n : Numeral) : Option Number :=
  let (significand, excess) := gather 0 n.whole
  if excess = 0 ∧ n.decimals.isNone ∧ n.exponent.isNone then
    if ¬ n.negative then some (.natural (UInt64.ofNat significand))
    else if 0 < significand ∧ significand ≤ UInt64.size / 2 then
      some (.negative (UInt64.ofNat significand))
    else some (.real (-(UInt64.ofNat significand).toFloat))
  else
    let decimals := n.decimals.getD []
    let (significand, unused) := gather significand decimals
    let places : Int := decimals.length - unused
    let power := excess - places + n.exponent.getD 0
    (scale (UInt64.ofNat significand).toFloat power).map fun x => .real (n.signed x)

/-- The digits at the front, and what follows. -/
def digitSpan (s : List Char) : List Char × List Char :=
  (s.takeWhile Char.isDigit, s.dropWhile Char.isDigit)

/-- The exponent of a numeral, if one follows; `none` if its digits are missing. -/
def readPower : List Char → Option (Option Int × List Char)
  | [] => some (none, [])
  | e :: rest =>
    if e = 'e' ∨ e = 'E' then
      let (negative, rest) := match rest with
        | '-' :: r => (true, r)
        | '+' :: r => (false, r)
        | r => (false, r)
      let (ds, rest) := digitSpan rest
      if ds = [] then none
      else
        let k : Int := Decimal.ofDigits ds
        some (some (if negative then -k else k), rest)
    else some (none, e :: rest)

/-- The decimals of a numeral, if a point follows; `none` if they are missing. -/
def readDecimals : List Char → Option (Option (List Char) × List Char)
  | '.' :: rest =>
    let (ds, rest) := digitSpan rest
    if ds = [] then none else some (some ds, rest)
  | rest => some (none, rest)

/-- A numeral behind its sign: no leading zeros, digits on both sides of a point. -/
def readNumeral (negative : Bool) (s : List Char) : Option (Numeral × List Char) := do
  let (whole, rest) := digitSpan s
  if whole = [] ∨ (whole.head? = some '0' ∧ whole ≠ ['0']) then none
  else
    let (decimals, rest) ← readDecimals rest
    let (exponent, rest) ← readPower rest
    return (⟨negative, whole, decimals, exponent⟩, rest)

/-! ## Values -/

/-- What was read, and the text behind it unless the reading broke off. -/
abbrev Read (α : Type) := α × Option (List Char)

/-- A word of the grammar. -/
def readWord (w : List Char) (d : Document) (s : List Char) : Read Document :=
  match word? w s with
  | some rest => (d, some rest)
  | none => (.cut, none)

def readNumber (negative : Bool) (s : List Char) : Read Document :=
  match readNumeral negative s with
  | some (n, rest) => (.number n.value?, some rest)
  | none => (.cut, none)

mutual

/-- The value at the front of a text. The fuel bounds the nesting and is never used up when
it is twice the length of the text. -/
def readValue : Nat → List Char → Read Document
  | 0, _ => (.cut, none)
  | fuel + 1, s =>
    match skipSpace s with
    | [] => (.cut, none)
    | c :: rest =>
      if c = '"' then
        match readText rest with
        | some (s, rest) => (.text (s.map String.ofList), some rest)
        | none => (.cut, none)
      else if c = '[' then
        match skipSpace rest with
        | ']' :: rest => (.list [] .closed, some rest)
        | rest =>
          let ((items, ending), rest) := readItems fuel rest
          (.list items ending, rest)
      else if c = '\x7b' then
        match skipSpace rest with
        | '\x7d' :: rest => (.record [] .closed, some rest)
        | rest =>
          let ((members, ending), rest) := readMembers fuel rest
          (.record members ending, rest)
      else if c = 'n' then readWord "ull".toList .null rest
      else if c = 't' then readWord "rue".toList (.bool true) rest
      else if c = 'f' then readWord "alse".toList (.bool false) rest
      else if c = '-' then readNumber true rest
      else readNumber false (c :: rest)

/-- The items of a list behind its bracket or a comma. -/
def readItems : Nat → List Char → Read (List Document × Ending)
  | 0, _ => (([], .broken), none)
  | fuel + 1, s =>
    match skipSpace s with
    | ']' :: _ => (([], .broken), none)
    | s =>
      match readValue fuel s with
      | (item, none) => (([item], .broken), none)
      | (item, some rest) =>
        match skipSpace rest with
        | ']' :: rest => (([item], .closed), some rest)
        | ',' :: rest =>
          let ((items, ending), rest) := readItems fuel rest
          ((item :: items, ending), rest)
        | _ => (([item], .broken), none)

/-- The members of a record behind its bracket or a comma. -/
def readMembers : Nat → List Char → Read (List (Option String × Document) × Ending)
  | 0, _ => (([], .broken), none)
  | fuel + 1, s =>
    match skipSpace s with
    | '"' :: rest =>
      match readText rest with
      | none => (([], .broken), none)
      | some (name, rest) =>
        let name := name.map String.ofList
        match skipSpace rest with
        | ':' :: rest =>
          match readValue fuel rest with
          | (item, none) => (([(name, item)], .broken), none)
          | (item, some rest) =>
            match skipSpace rest with
            | '\x7d' :: rest => (([(name, item)], .closed), some rest)
            | ',' :: rest =>
              let ((members, ending), rest) := readMembers fuel rest
              (((name, item) :: members, ending), rest)
            | _ => (([(name, item)], .broken), none)
        | _ => (([(name, .cut)], .broken), none)
    | _ => (([], .broken), none)

end

/-- The value at the front of a text, and the text behind it. -/
def Document.readPart (s : List Char) : Read Document := readValue (2 * s.length + 2) s

/-- The whole text as one value: what is read, and whether nothing but blanks follow. -/
def Document.readAll (s : String) : Document × Bool :=
  match Document.readPart s.toList with
  | (d, some rest) => (d, skipSpace rest = [])
  | (d, none) => (d, false)

/-! ## Looking at a document -/

mutual

/-- Is it well formed from end to end? Enough for a part that no decoder asks for. -/
def Document.intact : Document → Bool
  | .null | .bool _ | .number _ | .text _ => true
  | .list items ending => ending = .closed && intactItems items
  | .record members ending => ending = .closed && intactMembers members
  | .cut => false

def intactItems : List Document → Bool
  | [] => true
  | d :: rest => d.intact && intactItems rest

def intactMembers : List (Option String × Document) → Bool
  | [] => true
  | (_, d) :: rest => d.intact && intactMembers rest

end

mutual

/-- Can it be kept as a value, with at most `depth` brackets around any part? -/
def Document.sound (depth : Nat) : Document → Bool
  | .null | .bool _ => true
  | .number n => n.isSome
  | .text s => s.isSome
  | .list items ending => ending = .closed && 0 < depth && soundItems (depth - 1) items
  | .record members ending => ending = .closed && 0 < depth && soundMembers (depth - 1) members
  | .cut => false

def soundItems (depth : Nat) : List Document → Bool
  | [] => true
  | d :: rest => d.sound depth && soundItems depth rest

def soundMembers (depth : Nat) : List (Option String × Document) → Bool
  | [] => true
  | (name, d) :: rest => name.isSome && d.sound depth && soundMembers depth rest

end

/-! ## Values and documents -/

/-- Sets a member: a name that is there keeps its place and gets the new value. -/
def setMember (name : String) (v : Value) : List (String × Value) → List (String × Value)
  | [] => [(name, v)]
  | (n, w) :: rest => if n = name then (n, v) :: rest else (n, w) :: setMember name v rest

mutual

/-- The value of a document without defects; of a repeated name the last member counts. -/
def Document.value? : Document → Option Value
  | .null => some .null
  | .bool b => some (.bool b)
  | .number n => n.map .number
  | .text s => s.map .text
  | .list items .closed => (itemValues? items).map .list
  | .record members .closed => (memberValues? [] members).map .record
  | .list _ _ | .record _ _ | .cut => none

def itemValues? : List Document → Option (List Value)
  | [] => some []
  | d :: rest => do return (← d.value?) :: (← itemValues? rest)

def memberValues? (before : List (String × Value)) :
    List (Option String × Document) → Option (List (String × Value))
  | [] => some before
  | (none, _) :: _ => none
  | (some name, d) :: rest => do
    let v ← d.value?
    memberValues? (setMember name v before) rest

end

mutual

/-- A value as a document without defects. -/
def Value.document : Value → Document
  | .null => .null
  | .bool b => .bool b
  | .number n => .number (some n)
  | .text s => .text (some s)
  | .list items => .list (itemDocuments items) .closed
  | .record members => .record (memberDocuments members) .closed

def itemDocuments : List Value → List Document
  | [] => []
  | v :: rest => v.document :: itemDocuments rest

def memberDocuments : List (String × Value) → List (Option String × Document)
  | [] => []
  | (name, v) :: rest => (some name, v.document) :: memberDocuments rest

end

/-- Reads a text that is one value with nothing but blanks around it. -/
def Value.read? (s : String) : Option Value :=
  match Document.readAll s with
  | (d, true) => d.value?
  | (_, false) => none

end CourierDispatch.Json
