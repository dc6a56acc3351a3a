import CourierDispatch.DomainName.MappingTable

/-!
# What a name keeps of its characters

Each character of a name is replaced by what stands for it, so that names that look the same to
their readers are the same: `mapped?` of a capital is the small letter, of a soft hyphen nothing,
and of an ideographic full stop the full stop. What remains stands for itself.
-/

namespace CourierDispatch.DomainName

/-- What stands for a character; `none` if a name cannot have it. -/
def mapped? (c : Char) : Option (List Char) :=
  match lookup? Mapping.table c with
  | some s => some s
  | none => if within Mapping.refused c then none else some [c]

/-- Does a character stand for itself? -/
def isKept (c : Char) : Bool := mapped? c = some [c]

/-- What stands for the characters of a text. -/
def mapAll? (s : List Char) : Option (List Char) := (s.mapM mapped?).map List.flatten

end CourierDispatch.DomainName
