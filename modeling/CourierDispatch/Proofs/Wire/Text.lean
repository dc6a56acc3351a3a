import CourierDispatch.Proofs.Wire.Identifier

/-!
# Written text is read back

The compact text of a value is read as the document of that value, and nothing is left over
(`Document.readAll_render`): every escape is undone, a numeral ends where its digits end, and the fuel
of the reader, twice the length of the text, outlasts the brackets. A decoder that is given the text
therefore answers what it answers to the value (`Decoder.readAll_render`).

This is about values whose numbers are whole. A double is written with the fewest digits that tell it
apart, while the reader scales by a power of ten that is itself a double, so that a long numeral may
come back as the double beside the one that was written.
-/

namespace CourierDispatch.Json

/-! ## Values whose numbers are whole -/

/-- A whole number in the range of its constructor. -/
def Number.Whole : Number → Prop
  | .natural _ => True
  | .negative n => 0 < n.toNat ∧ n.toNat ≤ UInt64.size / 2
  | .real _ => False

mutual

/-- No number in it is a double. -/
def Value.Whole : Value → Prop
  | .null | .bool _ | .text _ => True
  | .number n => n.Whole
  | .list items => ItemsWhole items
  | .record members => MembersWhole members

def ItemsWhole : List Value → Prop
  | [] => True
  | v :: rest => v.Whole ∧ ItemsWhole rest

def MembersWhole : List (String × Value) → Prop
  | [] => True
  | (_, v) :: rest => v.Whole ∧ MembersWhole rest

end

theorem skipSpace_cons {c : Char} (ink : isSpace c = false) (rest : List Char) :
    skipSpace (c :: rest) = c :: rest := by
  simp [skipSpace, ink]

/-! ## Texts -/

/-- An escape of one letter is undone. -/
theorem readText_letter {e c : Char} (letter : unescape? e = some c) (rest : List Char) :
    readText ('\\' :: e :: rest) = (readText rest).push c := by
  have other : e ≠ 'u' := by
    rintro rfl
    have none_ : unescape? 'u' = none := by decide
    exact absurd (none_.symm.trans letter) nofun
  rw [readText]
  · simp only [letter]
  · intro _ _ _ _ _ same
    exact absurd same other

/-- An escape of four digits is undone if it is no part of a pair. -/
theorem readText_unit {a b c d : Char} {unit : Nat} (digits : hexUnit? a b c d = some unit)
    (single : unit < 0xD800) (rest : List Char) :
    readText ('\\' :: 'u' :: a :: b :: c :: d :: rest) = (readText rest).push (Char.ofNat unit) := by
  rw [readText]
  simp only [digits, single, true_or, if_true]

/-- What stands for one character inside quotes is read as that character. -/
theorem readText_escape (c : Char) (rest : List Char) :
    readText (escape c ++ rest) = (readText rest).push c := by
  have named {n : Nat} (code : c.toNat = n) : c = Char.ofNat n := by rw [← code, Char.ofNat_toNat]
  unfold escape
  split
  · exact readText_letter (by subst c; decide) rest
  split
  · exact readText_letter (by subst c; decide) rest
  split
  · exact readText_letter (by rw [named ‹_›]; decide) rest
  split
  · exact readText_letter (by rw [named ‹_›]; decide) rest
  split
  · exact readText_letter (by rw [named ‹_›]; decide) rest
  split
  · exact readText_letter (by rw [named ‹_›]; decide) rest
  split
  · exact readText_letter (by rw [named ‹_›]; decide) rest
  split
  · have high := Uuid.hexValue?_hexDigit (c.toNat / 16) (by omega)
    have low := Uuid.hexValue?_hexDigit (c.toNat % 16) (by omega)
    have zero : hexValue? '0' = some 0 := by decide
    have unit : hexUnit? '0' '0' (hexDigit (c.toNat / 16)) (hexDigit (c.toNat % 16)) =
        some c.toNat := by
      simp only [hexUnit?, zero, high, low, Option.bind_eq_bind, Option.bind_some,
        Option.pure_def, Option.some.injEq]
      omega
    exact (readText_unit unit (by omega) rest).trans (by rw [Char.ofNat_toNat])
  · rename_i quote backslash _ _ _ _ _ printed
    rw [List.singleton_append, readText]
    · simp [backslash, printed]
    · exact quote
    · exact fun _ _ _ _ _ same => absurd same backslash
    · exact fun _ _ same => absurd same backslash

/-- A text is read up to the quote behind it. -/
theorem readText_flatMap_escape (s rest : List Char) :
    readText (s.flatMap escape ++ '"' :: rest) = some (some s, rest) := by
  induction s with
  | nil => simp [readText]
  | cons c s ih =>
    rw [List.flatMap_cons, List.append_assoc, readText_escape, ih]
    rfl

/-! ## Numerals -/

/-- Here no numeral goes on. -/
def Closes (rest : List Char) : Prop :=
  ∀ c ∈ rest.head?, c.isDigit = false ∧ c ≠ '.' ∧ c ≠ 'e' ∧ c ≠ 'E'

theorem digitSpan_digits (n : Nat) {rest : List Char} (closes : Closes rest) :
    digitSpan (Decimal.digits n ++ rest) = (Decimal.digits n, rest) := by
  have all : ∀ c ∈ Decimal.digits n, c.isDigit = true := fun c member =>
    Nat.isDigit_of_mem_toDigits (by decide) (by decide) member
  have stop : rest.takeWhile Char.isDigit = [] ∧ rest.dropWhile Char.isDigit = rest := by
    cases rest with
    | nil => exact ⟨rfl, rfl⟩
    | cons c rest => simp [(closes c rfl).1]
  rw [digitSpan, List.takeWhile_append_of_pos all, List.dropWhile_append_of_pos all, stop.1, stop.2,
    List.append_nil]

/-- Only zero is written with a zero in front. -/
theorem digits_of_head?_zero (n : Nat) (zero : (Decimal.digits n).head? = some '0') :
    Decimal.digits n = ['0'] := by
  induction n using Nat.strongRecOn with
  | ind n ih =>
    by_cases small : n < 10
    · rw [Decimal.digits, Nat.toDigits_of_lt_base small] at zero ⊢
      simpa using zero
    · have split : Decimal.digits n = Decimal.digits (n / 10) ++ [(n % 10).digitChar] :=
        Nat.toDigits_of_base_le (by decide) (by omega)
      have nonempty : Decimal.digits (n / 10) ≠ [] := Nat.toDigits_ne_nil
      rw [split, List.head?_append, List.head?_eq_some_head nonempty, Option.some_or,
        ← List.head?_eq_some_head nonempty] at zero
      have leading := ih (n / 10) (by omega) zero
      have read : Nat.ofDigitChars 10 (Decimal.digits (n / 10)) 0 = n / 10 :=
        Nat.ofDigitChars_toDigits (by decide) (by decide)
      rw [leading] at read
      have : n / 10 = 0 := read.symm
      omega

theorem le_ofDigits (m : Nat) (ds : List Char) :
    m ≤ ds.foldl (fun n c => 10 * n + Decimal.digitValue c) m := by
  induction ds generalizing m with
  | nil => exact Nat.le_refl m
  | cons d ds ih =>
    have := ih (10 * m + Decimal.digitValue d)
    rw [List.foldl_cons]
    omega

/-- All digits of a number that fits in a word are gathered. -/
theorem gather_eq (m : Nat) (ds : List Char)
    (fits : ds.foldl (fun n c => 10 * n + Decimal.digitValue c) m < UInt64.size) :
    gather m ds = (ds.foldl (fun n c => 10 * n + Decimal.digitValue c) m, 0) := by
  induction ds generalizing m with
  | nil => rfl
  | cons d ds ih =>
    have next := Nat.lt_of_le_of_lt (le_ofDigits (10 * m + Decimal.digitValue d) ds) fits
    rw [gather]
    simp only [next, if_true]
    exact ih _ fits

theorem gather_digits {n : Nat} (fits : n < UInt64.size) : gather 0 (Decimal.digits n) = (n, 0) := by
  have read : (Decimal.digits n).foldl (fun n c => 10 * n + Decimal.digitValue c) 0 = n :=
    Nat.ofDigitChars_toDigits (by decide) (by decide)
  have gathered := gather_eq 0 (Decimal.digits n) (by rw [read]; exact fits)
  rwa [read] at gathered

theorem readNumeral_digits (negative : Bool) (n : Nat) {rest : List Char} (closes : Closes rest) :
    readNumeral negative (Decimal.digits n ++ rest) =
      some (⟨negative, Decimal.digits n, none, none⟩, rest) := by
  have nonempty : Decimal.digits n ≠ [] := Nat.toDigits_ne_nil
  have leading := digits_of_head?_zero n
  have decimals : readDecimals rest = some (none, rest) := by
    cases rest with
    | nil => rfl
    | cons c rest =>
      have point := (closes c rfl).2.1
      rw [readDecimals]
      simpa using point
  have power : readPower rest = some (none, rest) := by
    cases rest with
    | nil => rfl
    | cons c rest =>
      have letter := (closes c rfl).2.2
      simp [readPower, letter]
  have allowed : ¬ (Decimal.digits n = [] ∨
      ((Decimal.digits n).head? = some '0' ∧ Decimal.digits n ≠ ['0'])) := by
    rintro (empty | ⟨zero, more⟩)
    · exact nonempty empty
    · exact more (leading zero)
  simp only [readNumeral, digitSpan_digits n closes, if_neg allowed]
  simp [decimals, power]

theorem value?_digits {n : Nat} (fits : n < UInt64.size) :
    Numeral.value? ⟨false, Decimal.digits n, none, none⟩ = some (.natural (UInt64.ofNat n)) := by
  simp [Numeral.value?, gather_digits fits]

theorem value?_minus_digits {n : Nat} (pos : 0 < n) (fits : n ≤ UInt64.size / 2) :
    Numeral.value? ⟨true, Decimal.digits n, none, none⟩ = some (.negative (UInt64.ofNat n)) := by
  have small : n < UInt64.size := Nat.lt_of_le_of_lt fits (by decide)
  simp [Numeral.value?, gather_digits small, pos, fits]

theorem readNumber_digits (n : UInt64) {rest : List Char} (closes : Closes rest) :
    readNumber false (Decimal.digits n.toNat ++ rest) =
      (.number (some (.natural n)), some rest) := by
  rw [readNumber, readNumeral_digits false n.toNat closes]
  simp [value?_digits n.toNat_lt]

theorem readNumber_minus_digits {n : UInt64} (whole : (Number.negative n).Whole) {rest : List Char}
    (closes : Closes rest) :
    readNumber true (Decimal.digits n.toNat ++ rest) =
      (.number (some (.negative n)), some rest) := by
  rw [readNumber, readNumeral_digits true n.toNat closes]
  simp [value?_minus_digits whole.1 whole.2]

theorem exists_digits (n : Nat) :
    ∃ c rest, Decimal.digits n = c :: rest ∧ c.isDigit = true := by
  have nonempty : Decimal.digits n ≠ [] := Nat.toDigits_ne_nil
  obtain ⟨c, rest, front⟩ := List.exists_cons_of_ne_nil nonempty
  have member : c ∈ Nat.toDigits 10 n := by
    rw [← Decimal.digits, front]
    exact List.mem_cons_self
  exact ⟨c, rest, front, Nat.isDigit_of_mem_toDigits (by decide) (by decide) member⟩

theorem ne_of_isDigit {c d : Char} (digit : c.isDigit = true) (other : d.isDigit = false) :
    c ≠ d := by
  rintro rfl
  rw [digit] at other
  cases other

theorem isSpace_of_isDigit {c : Char} (digit : c.isDigit = true) : isSpace c = false := by
  simp [isSpace, ne_of_isDigit digit (d := ' ') rfl, ne_of_isDigit digit (d := '\n') rfl,
    ne_of_isDigit digit (d := '\t') rfl, ne_of_isDigit digit (d := '\r') rfl]

/-- A numeral without a sign is not taken for anything else. -/
theorem readValue_digit (fuel : Nat) {c : Char} (digit : c.isDigit = true) (rest : List Char) :
    readValue (fuel + 1) (c :: rest) = readNumber false (c :: rest) := by
  have apart (d : Char) (other : d.isDigit = false) : c ≠ d := ne_of_isDigit digit other
  simp [readValue, skipSpace, isSpace_of_isDigit digit, apart '"' rfl, apart '[' rfl,
    apart '\x7b' rfl, apart 'n' rfl, apart 't' rfl, apart 'f' rfl, apart '-' rfl]

/-! ## Values -/

/-- No numeral goes on with what stands behind a value inside brackets. -/
theorem closes_cons {c : Char} (behind : c = ',' ∨ c = ']' ∨ c = '\x7d') (rest : List Char) :
    Closes (c :: rest) := by
  rintro _ ⟨⟩
  rcases behind with rfl | rfl | rfl <;> decide

/-- A written value begins with no blank, and not like the end of a list. -/
theorem Value.exists_chars {v : Value} (whole : v.Whole) :
    ∃ c rest, v.chars = c :: rest ∧ isSpace c = false ∧ c ≠ ']' := by
  cases v with
  | null => exact ⟨'n', _, rfl, by decide, by decide⟩
  | bool b => cases b with
    | false => exact ⟨'f', _, rfl, by decide, by decide⟩
    | true => exact ⟨'t', _, rfl, by decide, by decide⟩
  | text s => exact ⟨'"', _, rfl, by decide, by decide⟩
  | list items => exact ⟨'[', _, rfl, by decide, by decide⟩
  | record members => exact ⟨'\x7b', _, rfl, by decide, by decide⟩
  | number n => cases n with
    | real x => exact whole.elim
    | negative n => exact ⟨'-', _, rfl, by decide, by decide⟩
    | natural n =>
      obtain ⟨c, rest, front, digit⟩ := exists_digits n.toNat
      exact ⟨c, rest, front, isSpace_of_isDigit digit, ne_of_isDigit digit rfl⟩

theorem exists_itemChars {items : List Value} (nonempty : items ≠ []) (whole : ItemsWhole items) :
    ∃ c rest, itemChars items = c :: rest ∧ isSpace c = false ∧ c ≠ ']' := by
  match items, whole with
  | [v], whole => exact v.exists_chars whole.1
  | v :: w :: items, whole =>
    obtain ⟨c, rest, front, plain⟩ := v.exists_chars whole.1
    exact ⟨c, _, by rw [itemChars, front, List.cons_append], plain⟩

theorem exists_memberChars {members : List (String × Value)} (nonempty : members ≠ []) :
    ∃ rest, memberChars members = '"' :: rest := by
  match members with
  | [(name, v)] => exact ⟨_, rfl⟩
  | (name, v) :: m :: members => exact ⟨_, rfl⟩

mutual

/-- A value is read up to what stands behind it. -/
theorem readValue_chars : ∀ (v : Value), v.Whole → ∀ (fuel : Nat) (rest : List Char),
    2 * v.chars.length ≤ fuel → Closes rest →
      readValue fuel (v.chars ++ rest) = (v.document, some rest)
  | v, whole, 0, rest, enough, _ => by
    obtain ⟨c, more, front, -⟩ := v.exists_chars whole
    simp [front] at enough
  | .null, _, fuel + 1, rest, _, _ => by
    simp [Value.chars, readValue, skipSpace, isSpace, readWord, word?, Value.document]
  | .bool true, _, fuel + 1, rest, _, _ => by
    simp [Value.chars, readValue, skipSpace, isSpace, readWord, word?, Value.document]
  | .bool false, _, fuel + 1, rest, _, _ => by
    simp [Value.chars, readValue, skipSpace, isSpace, readWord, word?, Value.document]
  | .number (.natural n), _, fuel + 1, rest, _, closes => by
    obtain ⟨c, more, front, digit⟩ := exists_digits n.toNat
    have read := readNumber_digits n closes
    rw [front, List.cons_append] at read
    rw [Value.chars, Number.chars, front, List.cons_append, readValue_digit fuel digit, read,
      Value.document]
  | .number (.negative n), whole, fuel + 1, rest, _, closes => by
    simp [Value.chars, Number.chars, readValue, skipSpace, isSpace,
      readNumber_minus_digits whole closes, Value.document]
  | .number (.real _), whole, _, _, _, _ => whole.elim
  | .text s, _, fuel + 1, rest, _, _ => by
    simp [Value.chars, quoted, readValue, skipSpace, isSpace, readText_flatMap_escape,
      Value.document]
  | .list [], _, fuel + 1, rest, _, _ => by
    simp [Value.chars, itemChars, readValue, skipSpace, isSpace, Value.document, itemDocuments]
  | .list (v :: items), whole, fuel + 1, rest, enough, _ => by
    have read := readItems_chars (v :: items) (List.cons_ne_nil v items) whole fuel rest (by
      simp only [Value.chars, List.cons_append, List.length_cons, List.length_append] at enough
      omega)
    obtain ⟨c, more, front, ink, inside⟩ := exists_itemChars (List.cons_ne_nil v items) whole
    rw [front, List.cons_append] at read
    simp [Value.chars, front, readValue, skipSpace_cons (c := '[') rfl, skipSpace_cons ink, inside, read,
      Value.document]
  | .record [], _, fuel + 1, rest, _, _ => by
    simp [Value.chars, memberChars, readValue, skipSpace, isSpace, Value.document, memberDocuments]
  | .record (m :: members), whole, fuel + 1, rest, enough, _ => by
    have read := readMembers_chars (m :: members) (List.cons_ne_nil m members) whole fuel rest (by
      simp only [Value.chars, List.cons_append, List.length_cons, List.length_append] at enough
      omega)
    obtain ⟨more, front⟩ := exists_memberChars (List.cons_ne_nil m members)
    rw [front, List.cons_append] at read
    simp [Value.chars, front, readValue, skipSpace, isSpace, read, Value.document]

/-- The items of a list are read up to its end. -/
theorem readItems_chars : ∀ (items : List Value), items ≠ [] → ItemsWhole items →
    ∀ (fuel : Nat) (rest : List Char), 2 * (itemChars items).length + 1 ≤ fuel →
      readItems fuel (itemChars items ++ ']' :: rest) =
        ((itemDocuments items, .closed), some rest)
  | [], nonempty, _, _, _, _ => absurd rfl nonempty
  | _, _, _, 0, _, enough => absurd enough (by omega)
  | [v], _, whole, fuel + 1, rest, enough => by
    have read := readValue_chars v whole.1 fuel (']' :: rest) (by
      rw [itemChars] at enough
      omega) (closes_cons (by simp) rest)
    obtain ⟨c, more, front, ink, inside⟩ := v.exists_chars whole.1
    rw [front, List.cons_append] at read
    simp [itemChars, front, readItems, skipSpace_cons ink, inside, read,
      skipSpace_cons (c := ']') rfl, itemDocuments]
  | v :: w :: items, _, whole, fuel + 1, rest, enough => by
    have length : (itemChars (v :: w :: items)).length =
        v.chars.length + 1 + (itemChars (w :: items)).length := by
      simp only [itemChars, List.length_append, List.length_cons]
      omega
    have first := readValue_chars v whole.1 fuel (',' :: (itemChars (w :: items) ++ ']' :: rest))
      (by omega) (closes_cons (by simp) _)
    have others := readItems_chars (w :: items) (List.cons_ne_nil w items) whole.2 fuel rest
      (by omega)
    obtain ⟨c, more, front, ink, inside⟩ := v.exists_chars whole.1
    rw [front, List.cons_append] at first
    simp [itemChars, front, readItems, skipSpace_cons ink, inside, first,
      skipSpace_cons (c := ',') rfl, others, itemDocuments]

/-- The members of a record are read up to its end. -/
theorem readMembers_chars : ∀ (members : List (String × Value)), members ≠ [] →
    MembersWhole members → ∀ (fuel : Nat) (rest : List Char),
      2 * (memberChars members).length + 1 ≤ fuel →
      readMembers fuel (memberChars members ++ '\x7d' :: rest) =
        ((memberDocuments members, .closed), some rest)
  | [], nonempty, _, _, _, _ => absurd rfl nonempty
  | _, _, _, 0, _, enough => absurd enough (by omega)
  | [(name, v)], _, whole, fuel + 1, rest, enough => by
    have read := readValue_chars v whole.1 fuel ('\x7d' :: rest) (by
      simp only [memberChars, List.length_append, List.length_cons] at enough
      omega) (closes_cons (by simp) rest)
    simp [memberChars, quoted, readMembers, skipSpace, isSpace, readText_flatMap_escape, read,
      memberDocuments]
  | (name, v) :: m :: members, _, whole, fuel + 1, rest, enough => by
    have length : (memberChars ((name, v) :: m :: members)).length =
        (quoted name.toList).length + 1 + v.chars.length + 1 +
          (memberChars (m :: members)).length := by
      simp only [memberChars, List.length_append, List.length_cons]
      omega
    have first := readValue_chars v whole.1 fuel
      (',' :: (memberChars (m :: members) ++ '\x7d' :: rest)) (by omega) (closes_cons (by simp) _)
    have others := readMembers_chars (m :: members) (List.cons_ne_nil m members) whole.2 fuel rest
      (by omega)
    simp [memberChars, quoted, readMembers, skipSpace, isSpace, readText_flatMap_escape, first,
      others, memberDocuments]

end

/-- A written value is read as itself, and nothing is left over. -/
theorem Document.readAll_render {v : Value} (whole : v.Whole) :
    Document.readAll v.render = (v.document, true) := by
  have read := readValue_chars v whole (2 * v.chars.length + 2) [] (by omega) nofun
  rw [List.append_nil] at read
  simp [Document.readAll, Document.readPart, Value.render, read, skipSpace]

/-- A decoder that is given the text of a value answers what it answers to the value. -/
theorem Decoder.readAll_render (decode : Decoder α) {v : Value} (whole : v.Whole) :
    decode.readAll v.render = decode.ofValue v := by
  simp only [Decoder.readAll, Document.readAll_render whole, Decoder.ofValue]
  cases decode v.document with
  | error e => rfl
  | ok a => rfl

end CourierDispatch.Json
