import CourierDispatch.Text.Blank

/-!
# Content types

A content type is a type and a subtype, in any case, and may have parameters behind semicolons. The
last plus sign in a subtype, unless it comes first, divides it into the subtype proper and a
suffix. A body counts as JSON if its type is `application` and the subtype proper or the suffix is
`json`.
-/

namespace CourierDispatch.Http

/-- May the character stand in a name? -/
def isTokenChar (c : Char) : Bool :=
  c.isAlphanum || "!#$%&'*+-.^_|~".toList.contains c || c.toNat = 0x60

/-! ## Parameters -/

/-- Where the reading of parameters stands. -/
inductive ParameterPlace
  /-- Behind a semicolon, where blanks may stand and the text may end. -/
  | front
  | name
  /-- In a plain value, which may be empty only at the end of the text. -/
  | value (begun : Bool)
  /-- In a value in quotes, which is not empty: a quote that comes first belongs to it. -/
  | quoted (begun : Bool)
  /-- Behind a value in quotes, where blanks may stand. -/
  | closed
  deriving DecidableEq, Repr

namespace ParameterPlace

/-- May the character stand in quotes? -/
def isQuotable (c : Char) : Bool := 0x1F < c.toNat && c.toNat ≠ 0x7F

/-- Reads one character. -/
def step : ParameterPlace → Char → Option ParameterPlace
  | front, c => if c = ' ' then some front else if isTokenChar c then some name else none
  | name, c => if c = '=' then some (value false) else if isTokenChar c then some name else none
  | value false, c =>
    if c = '"' then some (quoted false) else if isTokenChar c then some (value true) else none
  | value true, c =>
    if c = ';' then some front else if isTokenChar c then some (value true) else none
  | quoted begun, c =>
    if c = '"' ∧ begun then some closed else if isQuotable c then some (quoted true) else none
  | closed, c => if c = ';' then some front else if c = ' ' then some closed else none

/-- May the text end here? -/
def canEnd : ParameterPlace → Bool
  | front | value _ | closed => true
  | name | quoted _ => false

end ParameterPlace

/-- Is a text behind a semicolon a list of parameters? -/
def areParameters (s : List Char) : Bool :=
  (s.foldlM ParameterPlace.step .front).any ParameterPlace.canEnd

/-! ## Types -/

structure MediaType where
  kind : List Char
  subtype : List Char
  suffix : Option (List Char)
  deriving DecidableEq, Repr

namespace MediaType

/-- A subtype and its suffix. -/
def splitSuffix (s : List Char) : List Char × Option (List Char) :=
  if (s.drop 1).contains '+' then
    let suffix := (s.reverse.takeWhile (· ≠ '+')).reverse
    (s.take (s.length - suffix.length - 1), some suffix)
  else (s, none)

/-- May the character stand in a content type? -/
def isWritten (c : Char) : Bool := (0x20 ≤ c.toNat && c.toNat < 0x7F) || c = '\t'

/-- Reads a content type in lower case. -/
def read? (s : List Char) : Option MediaType := do
  guard (s.all isWritten)
  let s := Text.lower s
  let kind := s.takeWhile isTokenChar
  guard (kind ≠ [])
  match s.drop kind.length with
  | '/' :: rest =>
    let name := rest.takeWhile isTokenChar
    let (subtype, suffix) := splitSuffix name
    match rest.drop name.length with
    | [] => return ⟨kind, subtype, suffix⟩
    | ';' :: parameters =>
      guard (name ≠ [] && areParameters parameters)
      return ⟨kind, subtype, suffix⟩
    | _ => none
  | _ => none

def isJson (t : MediaType) : Bool :=
  t.kind = "application".toList && (t.subtype = "json".toList || t.suffix = some "json".toList)

end MediaType

/-- Does a content type say that a body is JSON? -/
def isJsonType (s : String) : Bool := (MediaType.read? s.toList).any MediaType.isJson

example : isJsonType "Application/vnd.x+JSON; a=\";\" ; b" = false := by decide
example : isJsonType "Application/vnd.x+JSON; a=\";\" ; b=c" = true := by decide
example : isJsonType "application/json+xml" = true ∧ isJsonType "application/+json" = false := by
  decide

end CourierDispatch.Http
