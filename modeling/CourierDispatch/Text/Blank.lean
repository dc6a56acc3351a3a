/-!
# Blank characters and plain text operations

The white space that surrounds a name, a place id or a setting: the twenty-five
code points of the Unicode property `White_Space`. Core's `Char.isWhitespace` knows
four of them, so the table stands here, and `isBlank_of_isWhitespace` says that it
only adds to that class.

Texts are worked on as lists of characters. Case is folded for ASCII letters only.
-/

namespace CourierDispatch.Text

/-- The code points of the property `White_Space`. -/
def blankCodes : List Nat :=
  [0x09, 0x0A, 0x0B, 0x0C, 0x0D, 0x20, 0x85, 0xA0, 0x1680,
   0x2000, 0x2001, 0x2002, 0x2003, 0x2004, 0x2005, 0x2006, 0x2007, 0x2008, 0x2009, 0x200A,
   0x2028, 0x2029, 0x202F, 0x205F, 0x3000]

/-- Is the character white space? -/
def isBlank (c : Char) : Bool := blankCodes.contains c.toNat

example : blankCodes.length = 25 := rfl
example : blankCodes.Pairwise (· < ·) := by decide

/-- The text without its leading white space. -/
def trimStart (s : List Char) : List Char := s.dropWhile isBlank

/-- The text without the white space at either end. -/
def trim (s : List Char) : List Char := (trimStart (trimStart s).reverse).reverse

/-- Nothing but white space. -/
def blank (s : String) : Bool := s.toList.all isBlank

/-- ASCII letters in lower case, all else unchanged. -/
def lower (s : List Char) : List Char := s.map Char.toLower

/-- Equal up to the case of ASCII letters. -/
def sameFolded (a b : String) : Bool := lower a.toList == lower b.toList

/-- The rest of a text behind a given beginning. -/
def after? : List Char → List Char → Option (List Char)
  | [], rest => some rest
  | _ :: _, [] => none
  | p :: ps, c :: rest => if p = c then after? ps rest else none

theorem after?_append (p rest : List Char) : after? p (p ++ rest) = some rest := by
  induction p with
  | nil => rfl
  | cons c p ih => simp [after?, ih]

theorem isBlank_of_isWhitespace (c : Char) (h : c.isWhitespace = true) : isBlank c = true := by
  simp only [Char.isWhitespace, Bool.or_eq_true, decide_eq_true_eq] at h
  rcases h with ((h | h) | h) | h <;> subst h <;> decide

end CourierDispatch.Text
