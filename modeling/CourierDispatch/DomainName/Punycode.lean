import CourierDispatch.Text.Percent

/-!
# Punycode

A label beyond ASCII written in ASCII: first its ASCII characters, then, behind a hyphen, where
the others go. They are put in by ascending code point, and each is described by how many
places and code points it lies past the one before it. The descriptions are numbers in base
thirty-six whose digits end where a digit is below its threshold; the thresholds follow the size
of the numbers before.
-/

namespace CourierDispatch.DomainName.Punycode

def base : Nat := 36

/-- The first code point that is described, and the bias of the first description. -/
def firstCode : Nat := 0x80
def firstBias : Nat := 72

/-- How many characters a text may have to be written or read. -/
def longestPlain : Nat := 1000
def longestCoded : Nat := 2000

/-- The least digit that another one follows, at a place that is counted in steps of the base. -/
def threshold (bias place : Nat) : Nat := min (max (place - bias) 1) 26

theorem threshold_pos (bias place : Nat) : 1 ≤ threshold bias place := by
  unfold threshold
  omega

/-- Halves of the scale that a number spans, and what is left of it. -/
def scale (n places : Nat) : Nat × Nat :=
  if 455 < n then scale (n / 35) (places + base) else (n, places)
termination_by n

/-- The bias behind a number, when there are so many characters then. -/
def bias (first : Bool) (n count : Nat) : Nat :=
  let n := n / (if first then 700 else 2)
  let (n, places) := scale (n + n / count) 0
  places + base * n / (n + 38)

/-! ## Writing -/

def digitChar (d : Nat) : Char := Char.ofNat (if d < 26 then 'a'.toNat + d else '0'.toNat + d - 26)

/-- The digits of a number. -/
def digits (bias place n : Nat) : List Char :=
  let t := threshold bias place
  if n < t then [digitChar n]
  else digitChar (t + (n - t) % (base - t)) :: digits bias (place + base) ((n - t) / (base - t))
termination_by n
decreasing_by
  have := threshold_pos bias place
  exact Nat.lt_of_le_of_lt (Nat.div_le_self _ _) (by omega)

/-- How far the writing has come: what is written, the distance since the last character, the
bias, and how many characters are described. -/
structure Writing where
  written : List Char
  distance : Nat
  bias : Nat
  count : Nat

/-- Passes a character while those with some code are described. -/
def Writing.pass (plain code : Nat) (w : Writing) (c : Char) : Writing :=
  if c.toNat < code then { w with distance := w.distance + 1 }
  else if c.toNat = code then
    ⟨w.written ++ digits w.bias base w.distance, 0,
      Punycode.bias (w.count = plain) w.distance (w.count + 1), w.count + 1⟩
  else w

/-- Describes the characters with one code after another, each code past the one before. -/
def Writing.describe (s : List Char) (plain : Nat) : Nat → List Nat → Writing → Writing
  | _, [], w => w
  | past, code :: codes, w =>
    let w := { w with distance := w.distance + (code - past) * (w.count + 1) }
    let w := s.foldl (Writing.pass plain code) w
    describe s plain (code + 1) codes { w with distance := w.distance + 1 }

def isPlain (c : Char) : Bool := c.toNat < firstCode

/-- A text in ASCII; `none` if it is too long. -/
def encode? (s : List Char) : Option (List Char) :=
  let plain := s.filter isPlain
  let codes := (((s.filter (!isPlain ·)).map Char.toNat).mergeSort (· ≤ ·)).eraseDups
  let start := if plain = [] then [] else plain ++ ['-']
  if longestPlain < s.length then none
  else some
    (Writing.describe s plain.length firstCode codes ⟨start, 0, firstBias, plain.length⟩).written

/-! ## Reading -/

def digitValue? (c : Char) : Option Nat :=
  if c.isLower then some (c.toNat - 'a'.toNat)
  else if c.isDigit then some (c.toNat - '0'.toNat + 26)
  else none

/-- Adds the number at the front of a text; it has to fit 32 bits. -/
def number? (bias place weight sum : Nat) : List Char → Option (Nat × List Char)
  | [] => none
  | c :: rest => do
    let d ← digitValue? c
    let sum := sum + d * weight
    let t := threshold bias place
    if UInt32.size ≤ sum then none
    else if d < t then some (sum, rest)
    else if UInt32.size ≤ weight * (base - t) then none
    else number? bias (place + base) (weight * (base - t)) sum rest

theorem number?_shorter {bias place weight sum n : Nat} {s rest : List Char}
    (h : number? bias place weight sum s = some (n, rest)) : rest.length < s.length := by
  induction s generalizing place weight sum with
  | nil => simp [number?] at h
  | cons c s ih =>
    simp only [number?, Option.bind_eq_bind, Option.bind_eq_some_iff] at h
    obtain ⟨d, -, h⟩ := h
    split at h
    · simp at h
    · split at h
      · simp only [Option.some.injEq, Prod.mk.injEq] at h
        simp [← h.2]
      · split at h
        · simp at h
        · exact Nat.lt_succ_of_lt (ih h)

/-- Puts in the characters that a text describes: `place` is where the last one went, and `code`
its code. -/
def fill? (bias code place : Nat) (done : List Char) (s : List Char) : Option (List Char) :=
  match s with
  | [] => some done
  | c :: rest =>
    match _h : number? bias base 1 place (c :: rest) with
    | none => none
    | some (n, rest') =>
      let count := done.length + 1
      let code := code + n / count
      if code.isValidChar then
        fill? (Punycode.bias (place = 0) (n - place) count) code (n % count + 1)
          (done.insertIdx (n % count) (Char.ofNat code)) rest'
      else none
termination_by s.length
decreasing_by exact number?_shorter (by assumption)

/-- The text that was written in ASCII. -/
def decode? (s : List Char) : Option (List Char) :=
  let behind := (s.reverse.takeWhile (· ≠ '-')).reverse
  let plain := (s.take (s.length - behind.length)).dropLast
  if longestCoded < s.length ∨ (plain = [] ∧ s.contains '-') then none
  else fill? firstBias firstCode 0 plain behind

end CourierDispatch.DomainName.Punycode
