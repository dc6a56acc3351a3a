import CourierDispatch.Url.Basic

/-!
# Coded segments

A text that is written as one segment of a path can be read off it again: decoding the segment gives
the bytes of the text (`percentBytes_segmentOf`), and no two texts have the same bytes (`bytes_inj`).
Nothing in a segment ends or splits a path (`unmarked_segmentOf`), and it is a dot segment only if that
is what the text was (`stays_segmentOf`, `climbs_segmentOf`).
-/

namespace CourierDispatch

namespace Text

@[simp] theorem bytes_append (s t : List Char) : bytes (s ++ t) = bytes s ++ bytes t :=
  List.flatMap_append

theorem bytes_cons (c : Char) (s : List Char) : bytes (c :: s) = String.utf8EncodeChar c ++ bytes s := rfl

/-- No two texts have the same bytes. -/
theorem bytes_inj {s t : List Char} : bytes s = bytes t ↔ s = t := by
  refine ⟨fun same => ?_, fun same => same ▸ rfl⟩
  have encoded : s.utf8Encode = t.utf8Encode := congrArg List.toByteArray same
  have decoded := congrArg ByteArray.utf8Decode? encoded
  rw [List.utf8Decode?_utf8Encode, List.utf8Decode?_utf8Encode] at decoded
  exact List.toArray_inj (Option.some.inj decoded)

theorem utf8EncodeChar_ascii {c : Char} (ascii : c.toNat < 0x80) :
    String.utf8EncodeChar c = [UInt8.ofNat c.toNat] := by
  have small : ¬ 0x7F < c.toNat := Nat.not_lt.2 (Nat.le_of_lt_succ ascii)
  simp [String.utf8EncodeChar, small]

/-! ## Decoding -/

theorem percentBytes_cons {b : UInt8} (other : b ≠ 0x25) (rest : List UInt8) :
    percentBytes (b :: rest) = b :: percentBytes rest := by
  rw [percentBytes]
  exact fun _ _ _ same _ => other same

/-- A digit in upper case is one byte, which has the value of the digit. -/
theorem bytes_digit : ∀ n : Fin 16, ∃ b ∈ bytes [(Nat.digitChar n).toUpper],
    bytes [(Nat.digitChar n).toUpper] = [b] ∧ Json.hexValue? (Char.ofNat b.toNat) = some n.val := by
  decide

theorem percentBytes_percentByte (b : UInt8) (rest : List UInt8) :
    percentBytes (bytes (percentByte b) ++ rest) = b :: percentBytes rest := by
  have byte : b.toNat < 256 := b.toNat_lt
  obtain ⟨high, -, coded, value⟩ := bytes_digit ⟨b.toNat / 16, by omega⟩
  obtain ⟨low, -, coded', value'⟩ := bytes_digit ⟨b.toNat % 16, by omega⟩
  have three : bytes (percentByte b) = [0x25, high, low] := by
    rw [percentByte, ← List.singleton_append, ← List.singleton_append (l := [_]), bytes_append,
      bytes_append, coded, coded']
    rfl
  rw [three]
  simp only [List.cons_append, List.nil_append, percentBytes, value, value']
  rw [show b.toNat / 16 * 16 + b.toNat % 16 = b.toNat by omega, UInt8.ofNat_toNat]

theorem percentBytes_percentChar (c : Char) (rest : List UInt8) :
    percentBytes (bytes (percentChar c) ++ rest) = String.utf8EncodeChar c ++ percentBytes rest := by
  unfold percentChar
  induction String.utf8EncodeChar c with
  | nil => rfl
  | cons b bs ih =>
    rw [List.flatMap_cons, bytes_append, List.append_assoc, percentBytes_percentByte, ih,
      List.cons_append]

/-! ## Characters -/

theorem isAlphanum_digit : ∀ n : Fin 16, (Nat.digitChar n).toUpper.isAlphanum = true := by decide

/-- A coded character is written with percent signs and digits. -/
theorem mem_percentChar {c x : Char} (member : x ∈ percentChar c) : x = '%' ∨ x.isAlphanum := by
  obtain ⟨b, -, inside⟩ := List.mem_flatMap.1 member
  have byte : b.toNat < 256 := b.toNat_lt
  simp only [percentByte, List.mem_cons, List.not_mem_nil, or_false] at inside
  rcases inside with rfl | rfl | rfl
  · exact .inl rfl
  · exact .inr (isAlphanum_digit ⟨b.toNat / 16, by omega⟩)
  · exact .inr (isAlphanum_digit ⟨b.toNat % 16, by omega⟩)

/-- Only a letter in upper case is changed, and moved on by 32. -/
theorem toLower_cases (c : Char) :
    c.toLower = c ∨ 'A'.toNat ≤ c.toNat ∧ c.toLower.toNat = c.toNat + 32 := by
  unfold Char.toLower
  split
  · next upper =>
    have small : c.val.toNat ≤ 'Z'.val.toNat := upper.2
    refine .inr ⟨upper.1, ?_⟩
    change (c.val + ('a'.val - 'A'.val)).toNat = c.val.toNat + 32
    rw [UInt32.toNat_add, show ('a'.val - 'A'.val).toNat = 32 from rfl]
    have bound : 'Z'.val.toNat = 90 := rfl
    omega
  · exact .inl rfl

theorem eq_of_toLower {c d : Char} (caseless : d.toNat < 'a'.toNat) (same : c.toLower = d) : c = d := by
  rcases toLower_cases c with kept | ⟨upper, moved⟩
  · rw [← kept, same]
  · have first : 'A'.toNat = 65 ∧ 'a'.toNat = 97 := ⟨rfl, rfl⟩
    rw [same] at moved
    omega

theorem toLower_eq_e {c : Char} (same : c.toLower = 'e') : c = 'e' ∨ c = 'E' := by
  rcases toLower_cases c with kept | ⟨upper, moved⟩
  · exact .inl (by rw [← kept, same])
  · refine .inr (Char.toNat_inj.1 ?_)
    have letters : 'e'.toNat = 101 ∧ 'E'.toNat = 69 := ⟨rfl, rfl⟩
    rw [same] at moved
    omega

end Text

namespace Url

open Text

variable {coded : Char → Bool} {special : Bool} {s : List Char}

/-! ## Coding -/

theorem code_cons (c : Char) (s : List Char) :
    code coded (c :: s) = (if coded c then percentChar c else [c]) ++ code coded s := rfl

/-- What is coded can be decoded, if percent signs are coded and all that is not plain. -/
theorem percentBytes_code (plain : ∀ c, coded c = false → c.toNat < 0x7F ∧ c ≠ '%') (s : List Char) :
    percentBytes (bytes (code coded s)) = bytes s := by
  induction s with
  | nil => rfl
  | cons c s ih =>
    rw [code_cons, bytes_append, bytes_cons]
    cases marks : coded c with
    | true => rw [if_pos rfl, percentBytes_percentChar, ih]
    | false =>
      obtain ⟨ascii, other⟩ := plain c marks
      have differs : UInt8.ofNat c.toNat ≠ 0x25 := fun same => by
        have value := congrArg UInt8.toNat same
        rw [UInt8.toNat_ofNat_of_lt' (Nat.lt_trans ascii (by decide))] at value
        exact other (Char.toNat_inj.1 value)
      rw [if_neg nofun, bytes_cons, utf8EncodeChar_ascii (by omega)]
      exact (percentBytes_cons differs _).trans (congrArg _ ih)

theorem mem_code {x : Char} (member : x ∈ code coded s) :
    (x ∈ s ∧ coded x = false) ∨ x = '%' ∨ x.isAlphanum := by
  obtain ⟨c, inside, written⟩ := List.mem_flatMap.1 member
  cases marks : coded c with
  | true =>
    rw [marks, if_pos rfl] at written
    exact .inr (mem_percentChar written)
  | false =>
    rw [marks, if_neg nofun, List.mem_singleton] at written
    subst written
    exact .inl ⟨inside, marks⟩

/-! ## Segments -/

/-- What of a text is left in a segment. -/
def kept (s : List Char) : List Char := s.filter fun c => !dropped c

theorem plain_segment {c : Char} (plain : codedInSegment special c = false) :
    c.toNat < 0x7F ∧ c ≠ '%' := by
  simp only [codedInSegment, codedInPath, codedInFragment, codedAnywhere, Bool.or_eq_false_iff,
    decide_eq_false_iff_not] at plain
  obtain ⟨⟨⟨⟨⟨⟨-, ascii⟩, -⟩, -⟩, -⟩, other⟩, -⟩ := plain
  exact ⟨Nat.not_le.1 ascii, other⟩

theorem percentBytes_segmentOf (special : Bool) (s : List Char) :
    percentBytes (bytes (segmentOf special s)) = bytes (kept s) :=
  percentBytes_code (fun _ => plain_segment) _

/-- Nothing in a segment ends it. -/
theorem unmarked_segmentOf {x : Char} (member : x ∈ segmentOf special s) :
    x ≠ '/' ∧ x ≠ '?' ∧ x ≠ '#' := by
  have unlike {mark : Char} (marks : codedInSegment special mark = true)
      (other : mark ≠ '%' ∧ mark.isAlphanum = false) : x ≠ mark := by
    rintro rfl
    rcases mem_code member with ⟨-, plain⟩ | rfl | digit
    · rw [marks] at plain
      cases plain
    · exact other.1 rfl
    · rw [other.2] at digit
      cases digit
  exact ⟨unlike (by cases special <;> decide) (by decide), unlike (by cases special <;> decide) (by decide),
    unlike (by cases special <;> decide) (by decide)⟩

/-! ## Dot segments -/

/-- The dot as it may be written. -/
theorem eq_of_lower_mem_dots {t : Segment} (h : lower t ∈ dots) :
    t = ['.'] ∨ t = ['%', '2', 'e'] ∨ t = ['%', '2', 'E'] := by
  simp only [dots, List.mem_cons, List.not_mem_nil, or_false] at h
  rcases h with h | h
  · obtain ⟨c, rest, rfl, dot, h⟩ := List.map_eq_cons_iff.1 h
    rw [eq_of_toLower (by decide) dot, List.map_eq_nil_iff.1 h]
    exact .inl rfl
  · obtain ⟨c, rest, rfl, percent, h⟩ := List.map_eq_cons_iff.1 h
    obtain ⟨d, rest, rfl, two, h⟩ := List.map_eq_cons_iff.1 h
    obtain ⟨e, rest, rfl, letter, h⟩ := List.map_eq_cons_iff.1 h
    rw [eq_of_toLower (by decide) percent, eq_of_toLower (by decide) two, List.map_eq_nil_iff.1 h]
    rcases toLower_eq_e letter with rfl | rfl
    · exact .inr (.inl rfl)
    · exact .inr (.inr rfl)

theorem percentBytes_of_stays {t : Segment} (h : stays t) : percentBytes (bytes t) = bytes ['.'] := by
  rcases eq_of_lower_mem_dots (List.contains_iff_mem.1 h) with rfl | rfl | rfl <;> decide

theorem percentBytes_of_climbs {t : Segment} (h : climbs t) :
    percentBytes (bytes t) = bytes ['.', '.'] := by
  obtain ⟨a, first, h⟩ := List.mem_flatMap.1 (List.contains_iff_mem.1 h)
  obtain ⟨b, second, same⟩ := List.mem_map.1 h
  obtain ⟨t₁, t₂, rfl, rfl, rfl⟩ := List.map_eq_append_iff.1 same.symm
  rcases eq_of_lower_mem_dots first with rfl | rfl | rfl <;>
    rcases eq_of_lower_mem_dots second with rfl | rfl | rfl <;> decide

/-- A segment is a dot segment where its text is a dot. -/
theorem stays_segmentOf : stays (segmentOf special s) = true ↔ kept s = ['.'] := by
  constructor
  · intro h
    rw [← bytes_inj, ← percentBytes_of_stays h, percentBytes_segmentOf]
  · intro dot
    change stays (code (codedInSegment special) (kept s)) = true
    rw [dot]
    cases special <;> decide

theorem climbs_segmentOf : climbs (segmentOf special s) = true ↔ kept s = ['.', '.'] := by
  constructor
  · intro h
    rw [← bytes_inj, ← percentBytes_of_climbs h, percentBytes_segmentOf]
  · intro dots
    change climbs (code (codedInSegment special) (kept s)) = true
    rw [dots]
    cases special <;> decide

end Url

end CourierDispatch
