import CourierDispatch.Json.Document

/-!
# Decoding records

A decoder turns a document into a domain value or reports one of two faults: the text is
no JSON (`malformed`), or it is JSON of another shape (`mismatch`). Members are looked at in
the order of the text, so of two defects the first one is reported.

A `Shape` describes a record: its named fields, each with a decoder and with what stands in
when the field is left out. Every shape reads a record by name and, as well, a list of the
fields in order. Members with other names are skipped; a repeated field is a mismatch.
-/

namespace CourierDispatch.Json

inductive Fault
  /-- The text is no JSON. -/
  | malformed
  /-- The text is JSON of another shape. -/
  | mismatch
  deriving DecidableEq, Repr

abbrev Decoder (α : Type) := Document → Except Fault α

/-- What is reported about a document of an unexpected kind. -/
def Document.unexpected : Document → Fault
  | .cut | .number none | .text none => .malformed
  | _ => .mismatch

/-- What is reported where a list or record does not go on as it should. -/
def Ending.check : Ending → Except Fault Unit
  | .closed => .ok ()
  | _ => .error .malformed

namespace Decoder

def text : Decoder String
  | .text (some s) => .ok s
  | d => .error d.unexpected

def natural : Decoder UInt64
  | .number (some (.natural n)) => .ok n
  | d => .error d.unexpected

/-- A whole number of 64 bits with a sign. -/
def integer : Decoder Int
  | .number (some (.natural n)) =>
    if n.toNat < UInt64.size / 2 then .ok n.toNat else .error .mismatch
  | .number (some (.negative n)) => .ok (-(n.toNat : Int))
  | d => .error d.unexpected

def real : Decoder Float
  | .number (some n) => .ok n.toFloat
  | d => .error d.unexpected

/-- A value or `null`. -/
def optional (decode : Decoder α) : Decoder (Option α)
  | .null => .ok none
  | d => (decode d).map some

/-- A decoded value that has to pass a further reading. -/
def refine (decode : Decoder α) (read : α → Option β) : Decoder β := fun d =>
  match decode d with
  | .error e => .error e
  | .ok a => match read a with
    | some b => .ok b
    | none => .error .mismatch

/-- Every item of a list. -/
def list (decode : Decoder α) : Decoder (List α)
  | .list items ending => do
    let values ← items.mapM decode
    ending.check
    return values
  | d => .error d.unexpected

/-- One of some names, as a text or as a record with that name and `null`. -/
def choice (named? : String → Option α) : Decoder α
  | .text (some s) => match named? s with
    | some a => .ok a
    | none => .error .mismatch
  | .record ((some name, d) :: more) ending =>
    match named? name with
    | none => .error .mismatch
    | some a => match d with
      | .null => if more.isEmpty ∧ ending = .closed then .ok a else .error .malformed
      | d => .error d.unexpected
  | _ => .error .malformed

end Decoder

/-! ## Records -/

/-- The fields of a record, as they are checked in the order of the text, read by name, and
read in order from a list. -/
structure Shape (α : Type) where
  checks : List (String × (Document → Except Fault Unit))
  ofMembers : List (Option String × Document) → Except Fault α
  ofItems : List Document → Ending → Except Fault (α × List Document)

/-- What to do about a field that is not there. -/
inductive Absence (α : Type)
  /-- It has to be there. -/
  | refused
  /-- It may be left out of a record, not of a list. -/
  | inRecord (instead : α)
  /-- It may be left out of both. -/
  | anywhere (instead : α)

def Absence.ofMembers : Absence α → Except Fault α
  | .refused => .error .mismatch
  | .inRecord a | .anywhere a => .ok a

def Absence.ofItems : Absence α → Except Fault α
  | .refused | .inRecord _ => .error .mismatch
  | .anywhere a => .ok a

/-- The first member with a name. -/
def member? (name : String) : List (Option String × Document) → Option Document
  | [] => none
  | (n, d) :: rest => if n = some name then some d else member? name rest

namespace Shape

/-- One field. -/
def field (name : String) (absence : Absence α) (decode : Decoder α) : Shape α where
  checks := [(name, fun d => (decode d).map fun _ => ())]
  ofMembers members := match member? name members with
    | some d => decode d
    | none => absence.ofMembers
  ofItems
    | [], ending => do
      ending.check
      return (← absence.ofItems, [])
    | d :: rest, _ => (decode d).map (·, rest)

/-- A field that has to be there. -/
def required (name : String) (decode : Decoder α) : Shape α := field name .refused decode

/-- A field that may be `null`, or left out of a record. -/
def nullable (name : String) (decode : Decoder α) : Shape (Option α) :=
  field name (.inRecord none) (Decoder.optional decode)

/-- A field with a default. -/
def withDefault (name : String) (instead : α) (decode : Decoder α) : Shape α :=
  field name (.anywhere instead) decode

def map (f : α → β) (s : Shape α) : Shape β where
  checks := s.checks
  ofMembers members := (s.ofMembers members).map f
  ofItems items ending := (s.ofItems items ending).map fun (a, rest) => (f a, rest)

/-- The fields of one shape, then those of another. -/
def andThen (s : Shape α) (t : Shape β) : Shape (α × β) where
  checks := s.checks ++ t.checks
  ofMembers members := do
    let a ← s.ofMembers members
    let b ← t.ofMembers members
    return (a, b)
  ofItems items ending := do
    let (a, rest) ← s.ofItems items ending
    let (b, rest) ← t.ofItems rest ending
    return ((a, b), rest)

end Shape

/-- Checks the members in the order of the text. `skip` says which values may stand under a
name that is none of the fields. -/
def scan (skip : Document → Bool) (checks : List (String × (Document → Except Fault Unit)))
    (seen : List String) : List (Option String × Document) → Except Fault Unit
  | [] => .ok ()
  | (none, _) :: _ => .error .malformed
  | (some name, d) :: rest =>
    match checks.lookup name with
    | none => if skip d then scan skip checks seen rest else .error .malformed
    | some check =>
      if name ∈ seen then .error .mismatch
      else match check d with
        | .error e => .error e
        | .ok _ => scan skip checks (name :: seen) rest

/-- Reads a record by name, or a list of its fields in order. -/
def Shape.decode (s : Shape α) : Decoder α
  | .record members ending => do
    scan Document.intact s.checks [] members
    ending.check
    s.ofMembers members
  | .list items ending => do
    let (a, rest) ← s.ofItems items ending
    if rest.isEmpty then ending.check else .error .malformed
    return a
  | d => .error d.unexpected

/-- How many brackets a text may open around any part that is kept as it stands. -/
def nestingLimit : Nat := 127

/-- Reads two records whose members share one pair of brackets. The members that are not
fields of the first are kept for the second, so each of them has to be sound. Such a record
cannot be written as a list. -/
def Shape.decodeMerged (around : Nat) (s : Shape α) (t : Shape β) : Decoder (α × β)
  | .record members ending => do
    scan (Document.sound (nestingLimit - 1 - around)) s.checks [] members
    ending.check
    let a ← s.ofMembers members
    scan Document.intact t.checks [] members
    let b ← t.ofMembers members
    return (a, b)
  | d => .error d.unexpected

/-- Decodes a text that is one value with nothing but blanks around it. -/
def Decoder.readAll (decode : Decoder α) (s : String) : Except Fault α :=
  let (d, alone) := Document.readAll s
  match decode d with
  | .error e => .error e
  | .ok a => if alone then .ok a else .error .malformed

/-- Decodes the value at the front of a text, whatever follows it. -/
def Decoder.readFront (decode : Decoder α) (s : String) : Except Fault α :=
  decode (Document.readPart s.toList).1

/-- Decodes a value. -/
def Decoder.ofValue (decode : Decoder α) (v : Value) : Except Fault α := decode v.document

end CourierDispatch.Json
