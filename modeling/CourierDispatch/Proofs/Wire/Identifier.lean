import CourierDispatch.Uuid

/-!
# Identifiers are read back

The written form of an identifier is read as the identifier (`Uuid.read?_text`): its digits write its
number, and the reader takes the hyphens out where the writer put them.
-/

namespace CourierDispatch

open Json (hexDigit hexValue? Decoder Value)

namespace Uuid

theorem hexValue?_hexDigit : ∀ d < 16, hexValue? (hexDigit d) = some d := by decide

@[simp] theorem length_hexDigits (u : Uuid) : u.hexDigits.length = 32 := by simp [hexDigits]

/-- The first digits write the number without its last ones. -/
theorem ofHex?_leading (n : Nat) (h : n < Nat.pow 16 32) (k : Nat) (le : k ≤ 32) :
    ofHex? ((List.range k).map fun i => hexDigit (n / Nat.pow 16 (31 - i) % 16)) =
      some (n / Nat.pow 16 (32 - k)) := by
  induction k with
  | zero => simp [ofHex?, Nat.div_eq_of_lt h]
  | succ k ih =>
    have ih := ih (by omega)
    have power : Nat.pow 16 (32 - k) = Nat.pow 16 (31 - k) * 16 := by
      rw [show 32 - k = (31 - k) + 1 by omega]
      rfl
    have digit := hexValue?_hexDigit (n / Nat.pow 16 (31 - k) % 16) (Nat.mod_lt _ (by decide))
    rw [power, ← Nat.div_div_eq_div_mul] at ih
    rw [List.range_succ, List.map_append, ofHex?, List.foldlM_append]
    rw [ofHex?] at ih
    rw [ih]
    simp only [List.map_cons, List.map_nil, List.foldlM_cons, List.foldlM_nil, digit,
      Option.map_some, Option.bind_eq_bind, Option.bind_some, Option.pure_def,
      show 32 - (k + 1) = 31 - k by omega, Option.some.injEq]
    omega

theorem ofDigits?_hexDigits (u : Uuid) : ofDigits? u.hexDigits = some u := by
  have whole := ofHex?_leading u.bits.toNat u.bits.isLt 32 (Nat.le_refl 32)
  have value : ofHex? u.hexDigits = some u.bits.toNat := by simpa [hexDigits] using whole
  simp [ofDigits?, value]

/-- Five groups of digits with hyphens between them are read as the digits. -/
theorem ofHyphenated?_groups (a b c d e : List Char) (ha : a.length = 8) (hb : b.length = 4)
    (hc : c.length = 4) (hd : d.length = 4) (he : e.length = 12) :
    ofHyphenated? (a ++ '-' :: b ++ '-' :: c ++ '-' :: d ++ '-' :: e) =
      ofDigits? (a ++ b ++ c ++ d ++ e) := by
  have first : (a ++ '-' :: (b ++ '-' :: (c ++ '-' :: (d ++ '-' :: e))))[8]? = some '-' := by
    simp [ha]
  have second : (a ++ '-' :: (b ++ '-' :: (c ++ '-' :: (d ++ '-' :: e))))[13]? = some '-' := by
    simp [List.getElem?_append, ha, hb]
  have third : (a ++ '-' :: (b ++ '-' :: (c ++ '-' :: (d ++ '-' :: e))))[18]? = some '-' := by
    simp [List.getElem?_append, ha, hb, hc]
  have fourth : (a ++ '-' :: (b ++ '-' :: (c ++ '-' :: (d ++ '-' :: e))))[23]? = some '-' := by
    simp [List.getElem?_append, ha, hb, hc, hd]
  simp (disch := omega) [ofHyphenated?, first, second, third, fourth, List.drop_append,
    List.drop_eq_nil_of_le, ha, hb, hc, hd, he]

theorem ofHyphenated?_hyphenated (u : Uuid) : ofHyphenated? (hyphenated u.hexDigits) = some u := by
  have length := u.length_hexDigits
  have groups := ofHyphenated?_groups (u.hexDigits.take 8) ((u.hexDigits.drop 8).take 4)
    ((u.hexDigits.drop 12).take 4) ((u.hexDigits.drop 16).take 4) (u.hexDigits.drop 20)
    (by simp) (by simp) (by simp) (by simp) (by simp)
  have whole : u.hexDigits.take 8 ++ (u.hexDigits.drop 8).take 4 ++ (u.hexDigits.drop 12).take 4 ++
      (u.hexDigits.drop 16).take 4 ++ u.hexDigits.drop 20 = u.hexDigits := by
    rw [← List.take_add, ← List.take_add, ← List.take_add, List.take_append_drop]
  rw [hyphenated, groups, whole, ofDigits?_hexDigits]

/-- An identifier is read back from its written form. -/
theorem read?_text (u : Uuid) : read? u.text = some u := by
  have length : (hyphenated u.hexDigits).length = 36 := by simp [hyphenated]
  simp [read?, text, length, ofHyphenated?_hyphenated]

theorem decode_encode (u : Uuid) : decode.ofValue u.encode = .ok u := by
  simp [Decoder.ofValue, decode, Decoder.refine, encode, Value.document, Decoder.text, read?_text]

end Uuid

end CourierDispatch
