import CourierDispatch.Url.Host

/-!
# Reading addresses

The text of a whole address as its parts. Blanks around it and tabs and line ends within it are
dropped. After one of the special schemes the host stands behind any number of slashes, and a
backslash counts as a slash; after any other scheme there is a host only behind two slashes. The
path of a file may begin with a drive instead of a host.
-/

namespace CourierDispatch.Url

/-- Does a character end the authority? -/
def endsAuthority (special : Bool) (c : Char) : Bool :=
  c = '/' || c = '?' || c = '#' || (special && c = '\\')

/-- The scheme in lower case, and what follows its colon. -/
def splitScheme? (s : List Char) : Option (String × List Char) :=
  let name := s.takeWhile (· ≠ ':')
  let known (c : Char) : Bool := c.isAlphanum || c = '+' || c = '-' || c = '.'
  if (s.head?.any Char.isAlpha) ∧ name.all known ∧ name.length < s.length then
    some (String.ofList (Text.lower name), s.drop (name.length + 1))
  else none

/-! ## Authorities -/

/-- A user as it is written: the colon is left out before an empty password. -/
def writeUser (s : List Char) : List Char :=
  let name := s.takeWhile (· ≠ ':')
  let password := s.drop (name.length + 1)
  code codedInUser name ++ if password = [] then [] else ':' :: code codedInUser password

/-- The user before the last at sign, and what follows that. Something has to follow if there is
nothing before it, unless the text ends. -/
def splitUser (special : Bool) (s : List Char) : Except UrlFault (List Char × List Char) :=
  let authority := s.takeWhile fun c => !endsAuthority special c
  if authority.contains '@' then
    let behind := (authority.reverse.takeWhile (· ≠ '@')).length
    let user := authority.take (authority.length - behind - 1)
    let rest := s.drop (authority.length - behind)
    if user = [] ∧ rest.head?.any (endsAuthority special) then .error .emptyHost
    else .ok (writeUser user, rest)
  else .ok ([], s)

/-- The host and what follows it: a colon in square brackets belongs to the host. -/
def splitHost (special bracketed : Bool) : List Char → List Char × List Char
  | [] => ([], [])
  | c :: rest =>
    if endsAuthority special c ∨ (c = ':' ∧ !bracketed) then ([], c :: rest)
    else
      let bracketed := if c = '[' then true else if c = ']' then false else bracketed
      let (host, tail) := splitHost special bracketed rest
      (c :: host, tail)

/-- The number behind a colon; none for no digits and for the default of the scheme. -/
def readPort (scheme : String) (s : List Char) : Except UrlFault (Option Nat) :=
  if !s.all Char.isDigit then .error .badPort
  else if s = [] then .ok none
  else
    let n := Decimal.ofDigits s
    if UInt16.size ≤ n then .error .badPort
    else if some n = defaultPort scheme then .ok none
    else .ok (some n)

/-- The number behind a host, if there is a colon, and what follows. A backslash ends it after
every scheme. -/
def splitPort (scheme : String) : List Char → Except UrlFault (Option Nat × List Char)
  | ':' :: s =>
    let digits := s.takeWhile fun c => !endsAuthority true c
    (readPort scheme digits).map (·, s.drop digits.length)
  | s => .ok (none, s)

/-- A user, a host and its number, and what follows. A host may be empty only where the scheme
is not special and neither of the others is given. -/
def splitAuthority (scheme : String) (s : List Char) : Except UrlFault (Authority × List Char) := do
  let special := isSpecial scheme
  let (user, s) ← splitUser special s
  let (host, tail) := splitHost special false s
  if host = [] ∧ (special ∨ user ≠ [] ∨ tail.head? = some ':') then .error .emptyHost
  else
    let host ← readHost special host
    let (portNumber, tail) ← splitPort scheme tail
    return (⟨user, host, portNumber⟩, tail)

/-! ## Paths and what follows -/

/-- The parts of a text between slashes, coded. -/
def parts (special : Bool) (s : List Char) : List Segment :=
  let s := if special then s.map fun c => if c = '\\' then '/' else c else s
  (Text.splitOn '/' s).map (code codedInPath)

/-- The segments of a path that begins with a slash or with its first segment. -/
def readSegments (special : Bool) (s : List Char) : List Segment :=
  match parts special s with
  | [] :: t :: rest => walk [] (t :: rest)
  | ps => walk [] ps

/-- An address from its scheme and authority and the text behind them. -/
def readRest (scheme : String) (authority : Option Authority) (path : List Char → UrlPath)
    (s : List Char) : Url :=
  let whole := s.takeWhile (· ≠ '#')
  let path := path (whole.takeWhile (· ≠ '?'))
  {
    scheme, authority, path
    apart := authority.isNone && (pathText path).take 2 = ['/', '/']
    query := if whole.contains '?' then
        some (code (codedInQuery (isSpecial scheme)) ((whole.dropWhile (· ≠ '?')).drop 1))
      else none
    fragment := if s.contains '#' then
        some (code codedInFragment ((s.dropWhile (· ≠ '#')).drop 1))
      else none }

/-! ## Whole addresses -/

/-- An address with a host behind two slashes. -/
def readHosted (scheme : String) (s : List Char) : Except UrlFault Url := do
  let special := isSpecial scheme
  let (authority, tail) ← splitAuthority scheme s
  let path (p : List Char) : UrlPath :=
    .segments (if p = [] ∧ !special then [] else readSegments special p)
  return readRest scheme (some authority) path tail

/-- The path of a file: a drive that comes first is written with a colon, and there are no
empty segments in front. -/
def filePath (segments : List Segment) : UrlPath :=
  let segments := match segments with
    | [c, d] :: rest => (if isDrive [c, d] then [c, ':'] else [c, d]) :: rest
    | segments => segments
  .segments (if segments.all (· = []) then [[]] else segments.dropWhile (· = []))

/-- The host of a file, if it is not this one, and the text of the path. A drive in its place
begins the path. -/
def splitFileHost (s : List Char) : Except UrlFault (List Char × List Char) :=
  let name := s.takeWhile fun c => !endsAuthority true c
  if isDrive name then .ok ([], s)
  else if name = [] then .ok ([], s)
  else do
    let host ← readHost true name
    return (if host = "localhost".toList then [] else host, s.drop name.length)

/-- An address of a file. A drive that comes first takes the place of the host. -/
def readFile (s : List Char) : Except UrlFault Url := do
  let slash (c : Char) : Bool := c = '/' || c = '\\'
  let here : Authority := ⟨[], [], none⟩
  let near (p : List Char) : UrlPath := filePath (readSegments true p)
  match s with
  | a :: b :: rest =>
    if slash a ∧ slash b then
      let (host, rest) ← splitFileHost rest
      if host = [] then
        return readRest "file" (some here) (fun p => filePath (walk [] (parts true p))) rest
      else
        let path := rest.takeWhile fun c => c ≠ '?' && c ≠ '#'
        let driven := (readSegments true path).head?.any isDrive
        return readRest "file" (some { here with host := if driven then [] else host }) near rest
    else return readRest "file" (some here) near s
  | s => return readRest "file" (some here) near s

/-- The text without blanks around it and without tabs and line ends. -/
def cleaned (s : List Char) : List Char :=
  let blank (c : Char) : Bool := c.toNat ≤ 0x20
  (((s.dropWhile blank).reverse.dropWhile blank).reverse).filter fun c => !dropped c

/-- Reads the text of a whole address. -/
def read (s : String) : Except UrlFault Url :=
  match splitScheme? (cleaned s.toList) with
  | none => .error .noScheme
  | some (scheme, rest) =>
    if scheme = "file" then readFile rest
    else if isSpecial scheme then readHosted scheme (rest.dropWhile fun c => c = '/' || c = '\\')
    else match rest with
      | '/' :: '/' :: rest => readHosted scheme rest
      | '/' :: _ => .ok (readRest scheme none (fun p => .segments (readSegments false p)) rest)
      | _ => .ok (readRest scheme none (fun p => .bare (code codedAnywhere p)) rest)

end CourierDispatch.Url
