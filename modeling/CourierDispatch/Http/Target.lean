import CourierDispatch.Text.Blank
import CourierDispatch.Text.Utf8

/-!
# Request targets

What a request asks for, as it is written in the request: a path with a query, or a whole address,
of which only the path and the query count. An asterisk and a host alone are targets as well.
What follows `#` is dropped. `Target.read?` says which texts are targets.
-/

namespace CourierDispatch.Http

structure Target where
  path : List Char
  /-- What follows the question mark; empty without one. -/
  query : List Char
  deriving DecidableEq, Repr

namespace Target

/-- How many bytes a target may have. -/
def longest : Nat := 65534

/-! ## Path and query -/

/-- May a character stand in a path? -/
def inPath (c : Char) : Bool := 0x20 < c.toNat && !"<>`#?".toList.contains c

/-- May a character stand in a query? -/
def inQuery (c : Char) : Bool := 0x20 < c.toNat && !"\"<>#".toList.contains c

/-- A path and a query. An empty path is the root. -/
def ofPath? (s : List Char) : Option Target :=
  let s := s.takeWhile (· ≠ '#')
  let path := s.takeWhile (· ≠ '?')
  let query := (s.dropWhile (· ≠ '?')).drop 1
  if path.all inPath && query.all inQuery then some ⟨if path = [] then ['/'] else path, query⟩
  else none

/-! ## Hosts -/

/-- What has been seen of the part that names a host. -/
structure HostScan where
  /-- Colons since the last at sign or closing bracket. -/
  colons : Nat
  opened : Bool
  closed : Bool
  /-- Is there a percent sign since the last at sign or closing bracket? -/
  percent : Bool
  deriving DecidableEq, Repr

/-- The most colons in a row of a host. -/
def mostColons : Nat := 8

/-- May a character stand around a host without a meaning of its own? -/
def inHost (c : Char) : Bool := c.isAlphanum || "-._~!$&'()*+,;=".toList.contains c

def HostScan.step (h : HostScan) (c : Char) : Option HostScan :=
  if c = ':' then if h.colons < mostColons then some { h with colons := h.colons + 1 } else none
  else if c = '[' then if h.percent || h.opened then none else some { h with opened := true }
  else if c = ']' then
    if !h.opened || h.closed then none else some ⟨0, true, true, false⟩
  else if c = '@' then some { h with colons := 0, percent := false }
  else if c = '%' then some { h with percent := true }
  else if inHost c then some h
  else none

/-- Can a text name a host, with a user before it and a number behind it? -/
def namesHost (s : List Char) : Bool :=
  match s.foldlM HostScan.step ⟨0, false, false, false⟩ with
  | some h =>
    h.opened = h.closed && h.colons ≤ 1 && !h.percent && s.getLast? ≠ some '@'
  | none => false

/-! ## Whole addresses -/

/-- The longest scheme that is not known. -/
def longestScheme : Nat := 64

/-- What follows the scheme and two slashes; the text itself if there is no scheme. -/
def behindScheme? (s : List Char) : Option (Bool × List Char) :=
  match Text.after? "http://".toList (Text.lower (s.take 7)),
    Text.after? "https://".toList (Text.lower (s.take 8)) with
  | some _, _ => some (true, s.drop 7)
  | _, some _ => some (true, s.drop 8)
  | none, none =>
    let scheme := s.takeWhile fun c => c.isAlphanum || c = '+' || c = '-' || c = '.'
    match Text.after? "://".toList (s.drop scheme.length) with
    | none => some (false, s)
    | some rest =>
      if s.length ≤ 3 then some (false, s)
      else if longestScheme < scheme.length then none
      else some (true, rest)

/-- An address with a scheme and a host, or a host alone, which has no path. -/
def ofAddress? (s : List Char) : Option Target := do
  let (schemed, rest) ← behindScheme? s
  let host := rest.takeWhile fun c => c ≠ '/' && c ≠ '?' && c ≠ '#'
  guard (namesHost host)
  if schemed then
    guard (host ≠ [])
    ofPath? (rest.drop host.length)
  else
    guard (host = rest)
    return ⟨[], []⟩

/-- Reads a target. -/
def read? (s : List Char) : Option Target :=
  if longest < (Text.bytes s).length then none
  else match s with
    | [] => none
    | ['*'] => some ⟨['*'], []⟩
    | '/' :: _ => ofPath? s
    | _ => ofAddress? s

example : read? "/a?b#c".toList = some ⟨"/a".toList, ['b']⟩ := by decide
example : read? "HTTP://u@h:1?b".toList = some ⟨['/'], ['b']⟩ := by decide
example : read? "h:1".toList = some ⟨[], []⟩ ∧ read? "h/a".toList = none := by decide

end Target

end CourierDispatch.Http
