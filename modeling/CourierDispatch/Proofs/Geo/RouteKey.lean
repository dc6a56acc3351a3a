import CourierDispatch.Geo.Literal

/-!
# What a route key tells apart

Two pairs of points have the same route key exactly if their coordinates are written alike with
eight decimals, in the same order (`routeKey_eq_iff`). A coordinate is written without blanks,
parentheses, quotes or backslashes (`isBare_of_mem_fixedText`), so nothing in a literal is escaped
and each part of a key ends at the first separator behind it.
-/

namespace CourierDispatch

/-- A character of a number as it is written, or of a word for what is no finite number. -/
def Decimal.isBare (c : Char) : Bool := c.isDigit || "-.Nainf".toList.contains c

namespace Decimal

theorem isDigit_of_mem_digits {n : Nat} {c : Char} (member : c ∈ digits n) : c.isDigit :=
  Nat.isDigit_of_mem_toDigits (by decide) (by decide) member

theorem isBare_of_mem_digits {n : Nat} {c : Char} (member : c ∈ digits n) : isBare c := by
  simp [isBare, isDigit_of_mem_digits member]

theorem isBare_of_mem_unitsText {places units : Nat} {c : Char}
    (member : c ∈ unitsText places units) : isBare c := by
  rcases List.mem_append.1 member with whole | rest
  · exact isBare_of_mem_digits whole
  · split at rest
    · cases rest
    · rcases List.mem_cons.1 rest with rfl | rest
      · decide
      · rcases List.mem_append.1 rest with zero | digit
        · rw [List.eq_of_mem_replicate zero]
          decide
        · exact isBare_of_mem_digits digit

theorem isBare_of_mem_signText {negative : Bool} {c : Char} (member : c ∈ signText negative) :
    isBare c := by
  cases negative with
  | false => cases member
  | true =>
    rw [List.mem_singleton.1 member]
    decide

theorem isBare_of_mem_fixedText {places : Nat} {x : Float} {c : Char}
    (member : c ∈ fixedText places x) : isBare c := by
  have words : ("NaN".toList ++ "inf".toList).all isBare := by decide
  unfold fixedText at member
  split at member
  · exact List.all_eq_true.1 words c (List.mem_append_left _ member)
  · rcases List.mem_append.1 member with sign | word
    · exact isBare_of_mem_signText sign
    · exact List.all_eq_true.1 words c (List.mem_append_right _ word)
  · rcases List.mem_append.1 member with sign | number
    · exact isBare_of_mem_signText sign
    · exact isBare_of_mem_unitsText number

end Decimal

namespace Geo

/-- The coordinates of a point as they are written in a literal, longitude first. -/
def rendering (p : GeoPoint) : List Char × List Char :=
  (Decimal.fixedText places p.lng, Decimal.fixedText places p.lat)

/-- Texts without a separator end where it comes first. -/
theorem eq_of_cut {α : Type} {s : α} {x x' rest rest' : List α} (free : s ∉ x) (free' : s ∉ x')
    (same : x ++ s :: rest = x' ++ s :: rest') : x = x' ∧ rest = rest' := by
  induction x generalizing x' with
  | nil =>
    cases x' with
    | nil => exact ⟨rfl, (List.cons.inj same).2⟩
    | cons c x' => exact absurd (List.cons.inj same).1 fun here => free' (here ▸ List.mem_cons_self)
  | cons c x ih =>
    cases x' with
    | nil => exact absurd (List.cons.inj same).1 fun here => free (here ▸ List.mem_cons_self)
    | cons c' x' =>
      obtain ⟨rfl, behind⟩ := List.cons.inj same
      obtain ⟨rfl, ends⟩ := ih (fun there => free (List.mem_cons_of_mem _ there))
        (fun there => free' (List.mem_cons_of_mem _ there)) behind
      exact ⟨rfl, ends⟩

theorem free_of_bare {s : Char} {x : Float} (other : Decimal.isBare s = false) :
    s ∉ Decimal.fixedText places x := fun member => by
  rw [Decimal.isBare_of_mem_fixedText member] at other
  cases other

/-- What is bare is not escaped. -/
theorem escape_of_bare {c : Char} (bare : Decimal.isBare c) : Json.escape c = [c] := by
  have range : 0x2D ≤ c.toNat ∧ c.toNat ≠ 0x5C := by
    rcases Bool.or_eq_true_iff.1 bare with digit | listed
    · obtain ⟨low, high⟩ := Char.isDigit_iff_toNat.1 digit
      change 0x30 ≤ c.toNat at low
      change c.toNat ≤ 0x39 at high
      omega
    · have words : "-.Nainf".toList.all fun c => 0x2D ≤ c.toNat ∧ c.toNat ≠ 0x5C := by decide
      exact of_decide_eq_true (List.all_eq_true.1 words c (List.contains_iff_mem.1 listed))
  have quote : c ≠ '"' := by rintro rfl; exact absurd range.1 (by decide)
  have backslash : c ≠ '\\' := by rintro rfl; exact absurd rfl range.2
  unfold Json.escape
  rw [if_neg quote, if_neg backslash, if_neg (by omega), if_neg (by omega), if_neg (by omega),
    if_neg (by omega), if_neg (by omega), if_neg (by omega)]

theorem flatMap_escape_fixedText (x : Float) :
    (Decimal.fixedText places x).flatMap Json.escape = Decimal.fixedText places x := by
  have plain (s : List Char) (bare : ∀ c ∈ s, Decimal.isBare c) : s.flatMap Json.escape = s := by
    induction s with
    | nil => rfl
    | cons c s ih =>
      rw [List.flatMap_cons, escape_of_bare (bare c List.mem_cons_self),
        ih fun d there => bare d (.tail _ there)]
      rfl
  exact plain _ fun _ => Decimal.isBare_of_mem_fixedText

/-- How a literal begins. -/
def literalFront : List Char := "SRID=4326;POINT(".toList

/-- A literal stands in quotes as it is. -/
theorem quoted_literal (p : GeoPoint) : Json.quoted (literal p).toList =
    '"' :: (literalFront ++ ((rendering p).1 ++ ' ' :: ((rendering p).2 ++ ')' :: ['"']))) := by
  have front : literalFront.flatMap Json.escape = literalFront := by decide
  have same : (literal p).toList =
      literalFront ++ (rendering p).1 ++ ' ' :: (rendering p).2 ++ [')'] := String.toList_ofList
  have blank : Json.escape ' ' = [' '] := by decide
  have close : Json.escape ')' = [')'] := by decide
  simp only [Json.quoted, same, List.flatMap_append, List.flatMap_cons, List.flatMap_nil, front, blank,
    close, rendering, flatMap_escape_fixedText, List.cons_append, List.nil_append, List.append_assoc]

/-- How a route key begins. -/
def keyFront : List Char := "route:".toList

/-- A route key tells its points apart by their renderings, and by nothing else. -/
theorem routeKey_eq_iff {a b a' b' : GeoPoint} :
    routeKey a b = routeKey a' b' ↔ rendering a = rendering a' ∧ rendering b = rendering b' := by
  have chars (p d : GeoPoint) : (routeKey p d).toList = keyFront ++ '[' ::
      (Json.quoted (literal p).toList ++ ',' :: (Json.quoted (literal d).toList ++ [']'])) := by
    refine (String.toList_ofList : _ = keyFront ++ (Json.Value.list _).chars).trans ?_
    rw [Json.Value.chars, Json.itemChars, Json.itemChars, Json.Value.chars, Json.Value.chars,
      List.cons_append, List.append_assoc, List.cons_append]
  have cut {p p' : GeoPoint} {rest rest' : List Char}
      (same : Json.quoted (literal p).toList ++ rest = Json.quoted (literal p').toList ++ rest') :
      rendering p = rendering p' ∧ rest = rest' := by
    simp only [quoted_literal, List.cons_append, List.append_assoc, List.nil_append] at same
    have same := List.append_cancel_left (List.cons.inj same).2
    obtain ⟨lng, same⟩ := eq_of_cut (free_of_bare rfl) (free_of_bare rfl) same
    obtain ⟨lat, same⟩ := eq_of_cut (free_of_bare rfl) (free_of_bare rfl) same
    exact ⟨Prod.ext lng lat, (List.cons.inj same).2⟩
  constructor
  · intro same
    have same := congrArg String.toList same
    rw [chars, chars] at same
    obtain ⟨first, same⟩ := cut (List.cons.inj (List.append_cancel_left same)).2
    exact ⟨first, (cut (List.cons.inj same).2).1⟩
  · rintro ⟨first, second⟩
    apply String.toList_injective
    rw [chars, chars, quoted_literal, quoted_literal, quoted_literal, quoted_literal, first, second]

end Geo

end CourierDispatch
