/-!
# Bytes as text

UTF-8 read byte by byte. A defect is a longest run of bytes that begins a character and does
not finish it, or one byte that begins none. `strict?` refuses a text with defects, `lossy`
puts the replacement character in the place of each.
-/

namespace CourierDispatch.Text

/-- A character that has begun: its value so far, how many bytes are owed, and the range of
the next one. -/
structure Begun where
  value : Nat
  owed : Nat
  low : Nat
  high : Nat
  deriving DecidableEq, Repr

/-- What the first byte of a character says. -/
inductive Lead
  | whole (c : Char)
  | begun (b : Begun)
  | none
  deriving DecidableEq, Repr

/-- The first byte of a character. -/
def lead (b : UInt8) : Lead :=
  let n := b.toNat
  if n < 0x80 then .whole (Char.ofNat n)
  else if n < 0xC2 then .none
  else if n < 0xE0 then .begun ⟨n % 0x20, 1, 0x80, 0xBF⟩
  else if n < 0xF0 then
    .begun ⟨n % 0x10, 2, if n = 0xE0 then 0xA0 else 0x80, if n = 0xED then 0x9F else 0xBF⟩
  else if n < 0xF5 then
    .begun ⟨n % 0x08, 3, if n = 0xF0 then 0x90 else 0x80, if n = 0xF4 then 0x8F else 0xBF⟩
  else .none

/-- The characters of a run of bytes; `none` stands for a defect. -/
def scanBytes : Option Begun → List UInt8 → List (Option Char)
  | none, [] => []
  | some _, [] => [none]
  | none, b :: rest =>
    match lead b with
    | .whole c => some c :: scanBytes none rest
    | .begun p => scanBytes (some p) rest
    | .none => none :: scanBytes none rest
  | some p, b :: rest =>
    if p.low ≤ b.toNat ∧ b.toNat ≤ p.high then
      let value := p.value * 0x40 + b.toNat % 0x40
      if p.owed ≤ 1 then some (Char.ofNat value) :: scanBytes none rest
      else scanBytes (some ⟨value, p.owed - 1, 0x80, 0xBF⟩) rest
    else
      none :: match lead b with
      | .whole c => some c :: scanBytes none rest
      | .begun p => scanBytes (some p) rest
      | .none => none :: scanBytes none rest

/-- The text of some bytes; `none` if they have a defect. -/
def strict? (bytes : List UInt8) : Option (List Char) := (scanBytes none bytes).mapM id

/-- The text of some bytes, with a replacement character for each defect. -/
def lossy (bytes : List UInt8) : List Char :=
  (scanBytes none bytes).map fun c => c.getD '\ufffd'

/-- The bytes of a text. -/
def bytes (s : List Char) : List UInt8 := s.flatMap String.utf8EncodeChar

example : lossy [0x61, 0xC3, 0xA9, 0xE2, 0x82, 0x28, 0xFF] =
    ['a', 'é', '\ufffd', '(', '\ufffd'] := by decide

end CourierDispatch.Text
