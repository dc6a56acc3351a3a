import CourierDispatch.DomainName.Direction
import CourierDispatch.DomainName.Joining
import CourierDispatch.DomainName.Mapping
import CourierDispatch.DomainName.Punycode
import CourierDispatch.Text.Blank

/-!
# Names in ASCII

A name of labels between full stops may have characters of any script, and is known by a form in
ASCII. Its characters are mapped and brought into their normal form; a label beyond ASCII is
then written in Punycode behind `xn--`. A label that is given like that has to be one that could
have been written so.
-/

namespace CourierDispatch.DomainName

/-- What stands before a label in Punycode. -/
def codedMark : List Char := "xn--".toList

/-- Is a text in normal form, and each character of it kept as it is? -/
def isSettled (s : List Char) : Bool := s.all isKept && normal s = s

/-- A label in its own characters. -/
def readLabel? (s : List Char) : Option (List Char) :=
  match Text.after? codedMark s with
  | none => some s
  | some coded =>
    if coded = [] ∨ coded.getLast? = some '-' ∨ !coded.all Punycode.isPlain then none
    else (Punycode.decode? coded).filter isSettled

/-- Is a character a mark? -/
def isMark (c : Char) : Bool := within Property.nonspacing c || within Property.spacing c

/-- May a name have a label? -/
def labelHolds (label : List Char) : Bool := !label.head?.any isMark && joinersSeen [] label

/-- A label in ASCII. -/
def writeLabel? (label : List Char) : Option (List Char) :=
  if label.all Punycode.isPlain then some label
  else (Punycode.encode? label).map (codedMark ++ ·)

/-- The form of a name in ASCII; `none` if there can be no such name. -/
def toAscii? (name : List Char) : Option (List Char) := do
  let labels ← (Text.splitOn '.' (normal (← mapAll? name))).mapM readLabel?
  guard (labels.all labelHolds)
  guard (!labels.any (·.any Direction.isRightward) || labels.all goesOneWay)
  return (← labels.mapM writeLabel?).intersperse ['.'] |>.flatten

end CourierDispatch.DomainName
