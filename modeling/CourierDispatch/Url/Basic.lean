import CourierDispatch.Text.Blank
import CourierDispatch.Text.Percent

/-!
# Addresses

An address in parts: scheme, host, path, query and fragment, each as it is written, with what
may not stand there percent-coded. A user may be named before the host, and a number behind it
tells its services apart. A path is either a list of segments, each behind a slash, or a bare
text that has no segments. No path climbs out of a segment that names a drive.

`Url.push` puts a text behind the path as one segment. Three things happen to the text: tabs
and line ends are dropped, the characters that end or split a segment are coded, and what is
then a dot segment is followed as one. A percent sign is coded too, so nothing that was coded
before is decoded by it.
-/

namespace CourierDispatch

/-- A segment of a path as it is written. -/
abbrev Segment := List Char

inductive UrlPath
  | segments (parts : List Segment)
  | bare (text : List Char)
  deriving DecidableEq, Repr

/-- Where an address points to; the host may be empty. -/
structure Authority where
  /-- A name, or a name, a colon and a password; empty if no user is named. -/
  user : List Char
  host : List Char
  portNumber : Option Nat
  deriving DecidableEq, Repr

structure Url where
  scheme : String
  authority : Option Authority
  /-- Is the path kept apart from a host that is not there? -/
  apart : Bool
  path : UrlPath
  query : Option (List Char)
  fragment : Option (List Char)
  deriving DecidableEq, Repr

namespace Url

/-! ## Schemes -/

/-- The schemes with rules of their own, and the number that goes without saying. -/
def specialSchemes : List (String × Option Nat) :=
  [("http", some 80), ("https", some 443), ("ws", some 80), ("wss", some 443), ("ftp", some 21),
    ("file", none)]

def isSpecial (scheme : String) : Bool := (specialSchemes.lookup scheme).isSome

def defaultPort (scheme : String) : Option Nat := (specialSchemes.lookup scheme).join

def hasHost (u : Url) : Bool := u.authority.any fun a => a.host ≠ []

/-! ## Characters that are coded -/

/-- Is a character coded everywhere? -/
def codedAnywhere (c : Char) : Bool := c.toNat < 0x20 || 0x7F ≤ c.toNat

def codedInFragment (c : Char) : Bool := codedAnywhere c || " \"<>`".toList.contains c

def codedInPath (c : Char) : Bool := codedInFragment c || "#?\x7b\x7d".toList.contains c

def codedInUser (c : Char) : Bool := codedInPath c || "/:;=@[\\]^|".toList.contains c

def codedInSegment (special : Bool) (c : Char) : Bool :=
  codedInPath c || c = '/' || c = '%' || (special && c = '\\')

def codedInQuery (special : Bool) (c : Char) : Bool :=
  codedAnywhere c || " \"#<>".toList.contains c || (special && c = '\'')

/-- A text with some of its characters coded. -/
def code (coded : Char → Bool) (s : List Char) : List Char :=
  s.flatMap fun c => if coded c then Text.percentChar c else [c]

/-- Tabs and line ends, which are dropped wherever they stand. -/
def dropped (c : Char) : Bool := c = '\t' || c = '\n' || c = '\r'

/-! ## Paths -/

/-- The dot, plain or coded. -/
def dots : List Segment := [".".toList, "%2e".toList]

/-- Does a segment stay where it is? -/
def stays (s : Segment) : Bool := dots.contains (Text.lower s)

/-- Does a segment climb to the one above? -/
def climbs (s : Segment) : Bool :=
  (dots.flatMap fun a => dots.map fun b => a ++ b).contains (Text.lower s)

/-- Does a segment name a drive? -/
def isDrive (s : Segment) : Bool :=
  match s with
  | [c, d] => c.isAlpha && (d = ':' || d = '|')
  | _ => false

/-- Does a segment begin with a drive that ends there or at a backslash? -/
def holdsDrive (s : Segment) : Bool :=
  isDrive (s.take 2) && (s.length = 2 || s[2]? = some '\\')

/-- The segments above the last one, unless that holds a drive. -/
def above (done : List Segment) : List Segment :=
  if done.getLast?.any holdsDrive then done else done.dropLast

/-- Walks on along some segments. A dot segment at the end leaves an empty one behind. -/
def walk (done : List Segment) : List Segment → List Segment
  | [] => done
  | [s] => if climbs s then above done ++ [[]] else if stays s then done ++ [[]] else done ++ [s]
  | s :: t :: rest =>
    walk (if climbs s then above done else if stays s then done else done ++ [s]) (t :: rest)

/-- The path without an empty segment behind its last slash; the root stays. -/
def closePath (parts : List Segment) : List Segment :=
  if 2 ≤ parts.length ∧ parts.getLast? = some [] then parts.dropLast else parts

/-- What stands before the segment that is pushed next: of the root nothing does. -/
def openPath (parts : List Segment) : List Segment := if parts = [[]] then [] else parts

/-- A text as it is written in one segment. -/
def segmentOf (special : Bool) (s : List Char) : Segment :=
  code (codedInSegment special) (s.filter fun c => !dropped c)

/-- Pushes a text behind a path. A plain dot segment is left out. -/
def pushPart (special : Bool) (parts : List Segment) (s : List Char) : List Segment :=
  if s = ['.'] ∨ s = ['.', '.'] then parts else walk (openPath parts) [segmentOf special s]

/-- Pushes texts behind the path, each as one segment; `none` if the path has no segments. -/
def push (u : Url) (texts : List (List Char)) : Option Url :=
  match u.path with
  | .segments parts =>
    let special := isSpecial u.scheme
    some { u with path := .segments (texts.foldl (pushPart special) (closePath parts)) }
  | .bare _ => none

/-! ## Writing -/

def pathText : UrlPath → List Char
  | .segments parts => parts.flatMap fun s => '/' :: s
  | .bare text => text

def authorityText (a : Authority) : List Char :=
  '/' :: '/' :: (if a.user = [] then [] else a.user ++ ['@']) ++ a.host ++
    match a.portNumber with
    | some n => ':' :: (toString n).toList
    | none => []

/-- A part behind its mark, if it is there. -/
def marked (mark : Char) : Option (List Char) → List Char
  | some s => mark :: s
  | none => []

/-- What is asked of the host: the path and the query. -/
def target (u : Url) : List Char := pathText u.path ++ marked '?' u.query

/-- The written form. -/
def chars (u : Url) : List Char :=
  u.scheme.toList ++ ':' :: (match u.authority with
    | some a => authorityText a
    | none => if u.apart then ['/', '.'] else []) ++
    u.target ++ marked '#' u.fragment

def text (u : Url) : String := String.ofList u.chars

instance : ToString Url := ⟨text⟩

/-! ## Users -/

/-- The name and the password of a user, decoded; `none` where the bytes are no text. -/
def readUser (user : List Char) : Option (List Char) × Option (List Char) :=
  (Text.percentDecode? (user.takeWhile (· ≠ ':')),
    if user.contains ':' then Text.percentDecode? ((user.dropWhile (· ≠ ':')).drop 1) else none)

/-- The address without a user who can be read. -/
def withoutUser (u : Url) : Url :=
  { u with authority := u.authority.map fun a => match readUser a.user with
    | (none, _) | (some [], none) => a
    | _ => { a with user := [] } }

end Url

end CourierDispatch
