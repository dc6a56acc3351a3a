import CourierDispatch.Json.Decode

/-!
# Records are read back

A value has no defects, so a decoder sees in it what the value holds. A record whose members have
different names is read if each member passes the check of its field (`Shape.decode_record`).
-/

namespace CourierDispatch.Json

/-! ## Values without defects -/

mutual

theorem intact_document : ∀ v : Value, v.document.intact = true
  | .null | .bool _ | .number _ | .text _ => rfl
  | .list items => by simp [Value.document, Document.intact, intactItems_itemDocuments items]
  | .record members => by
    simp [Value.document, Document.intact, intactMembers_memberDocuments members]

theorem intactItems_itemDocuments : ∀ items : List Value, intactItems (itemDocuments items) = true
  | [] => rfl
  | v :: rest => by
    simp [itemDocuments, intactItems, intact_document v, intactItems_itemDocuments rest]

theorem intactMembers_memberDocuments : ∀ members : List (String × Value),
    intactMembers (memberDocuments members) = true
  | [] => rfl
  | (_, v) :: rest => by
    simp [memberDocuments, intactMembers, intact_document v, intactMembers_memberDocuments rest]

end

/-! ## Members -/

theorem member?_memberDocuments (name : String) (members : List (String × Value)) :
    member? name (memberDocuments members) = (members.lookup name).map Value.document := by
  induction members with
  | nil => rfl
  | cons m rest ih =>
    obtain ⟨n, v⟩ := m
    by_cases own : n = name
    · simp [memberDocuments, member?, own]
    · have other : (name == n) = false := by simpa using Ne.symm own
      simp [memberDocuments, member?, List.lookup_cons, own, other, ih]

/-- Members with different names pass if each of them may be skipped and passes the check of its
field. -/
theorem scan_memberDocuments {skip : Document → Bool}
    {checks : List (String × (Document → Except Fault Unit))} {members : List (String × Value)}
    {seen : List String} (apart : (members.map Prod.fst).Nodup)
    (unseen : ∀ m ∈ members, m.1 ∉ seen) (skipped : ∀ m ∈ members, skip m.2.document = true)
    (pass : ∀ m ∈ members, ∀ check, checks.lookup m.1 = some check → check m.2.document = .ok ()) :
    scan skip checks seen (memberDocuments members) = .ok () := by
  induction members generalizing seen with
  | nil => rfl
  | cons m rest ih =>
    obtain ⟨name, v⟩ := m
    simp only [List.map_cons, List.nodup_cons] at apart
    have skippedLater : ∀ m ∈ rest, skip m.2.document = true := fun m there =>
      skipped m (List.mem_cons_of_mem _ there)
    have later : ∀ m ∈ rest, ∀ check, checks.lookup m.1 = some check →
        check m.2.document = .ok () := fun m there => pass m (List.mem_cons_of_mem _ there)
    rw [memberDocuments, scan]
    cases known : checks.lookup name with
    | none =>
      have own : skip v.document = true := skipped _ List.mem_cons_self
      simp only [own, if_true]
      exact ih apart.2 (fun m there => unseen m (List.mem_cons_of_mem _ there)) skippedLater later
    | some check =>
      have passed : check v.document = .ok () := pass _ List.mem_cons_self check known
      have new : name ∉ seen := unseen _ List.mem_cons_self
      simp only [new, if_false, passed]
      refine ih apart.2 (fun m there => ?_) skippedLater later
      have other : m.1 ≠ name := fun same => apart.1 (same ▸ List.mem_map_of_mem there)
      simp [other, unseen m (List.mem_cons_of_mem _ there)]

/-- A record is read if its members have different names, pass the checks, and are read together. -/
theorem Shape.decode_record {s : Shape α} {members : List (String × Value)} {a : α}
    (apart : (members.map Prod.fst).Nodup)
    (pass : ∀ m ∈ members, ∀ check, s.checks.lookup m.1 = some check →
      check m.2.document = .ok ())
    (read : s.ofMembers (memberDocuments members) = .ok a) :
    s.decode.ofValue (.record members) = .ok a := by
  have unseen : ∀ m ∈ members, m.1 ∉ ([] : List String) := by simp
  have scanned := scan_memberDocuments apart unseen (fun m _ => intact_document m.2) pass
  simp [Decoder.ofValue, Shape.decode, Value.document, scanned, Ending.check, read]
  rfl

/-- Two records in one pair of brackets are read if the members together have different names, pass
the checks of both, and can be kept for the second while the first is read. -/
theorem Shape.decodeMerged_record {around : Nat} {s : Shape α} {t : Shape β}
    {members : List (String × Value)} {a : α} {b : β} (apart : (members.map Prod.fst).Nodup)
    (kept : ∀ m ∈ members, m.2.document.sound (nestingLimit - 1 - around) = true)
    (passFirst : ∀ m ∈ members, ∀ check, s.checks.lookup m.1 = some check →
      check m.2.document = .ok ())
    (passSecond : ∀ m ∈ members, ∀ check, t.checks.lookup m.1 = some check →
      check m.2.document = .ok ())
    (first : s.ofMembers (memberDocuments members) = .ok a)
    (second : t.ofMembers (memberDocuments members) = .ok b) :
    Decoder.ofValue (Shape.decodeMerged around s t) (.record members) = .ok (a, b) := by
  have unseen : ∀ m ∈ members, m.1 ∉ ([] : List String) := by simp
  have scannedFirst := scan_memberDocuments apart unseen kept passFirst
  have scannedSecond := scan_memberDocuments apart unseen (fun m _ => intact_document m.2) passSecond
  simp [Decoder.ofValue, Shape.decodeMerged, Value.document, scannedFirst, scannedSecond,
    Ending.check, first, second]
  rfl

/-! ## Single fields -/

@[simp] theorem Decoder.text_document (s : String) :
    Decoder.text (Value.text s).document = .ok s := rfl

@[simp] theorem Decoder.natural_document (n : UInt64) :
    Decoder.natural (Value.natural n).document = .ok n := rfl

theorem Decoder.real_ofValue_real {x : Float} (h : x.isFinite = true) :
    Decoder.real.ofValue (.real x) = .ok x := by
  simp [Decoder.ofValue, Value.real, h, Value.document, Decoder.real, Number.toFloat]

theorem Decoder.optional_ofValue {decode : Decoder α} {v : Value} {a : α} (there : v ≠ .null)
    (read : decode.ofValue v = .ok a) : (Decoder.optional decode).ofValue v = .ok (some a) := by
  rw [Decoder.ofValue] at read ⊢
  cases v with
  | null => exact absurd rfl there
  | _ =>
    rw [Value.document] at read ⊢
    rw [Decoder.optional, read]
    · rfl
    · nofun

/-- A value that may be missing is read, there or not. -/
theorem Decoder.optional_ofValue_optional {decode : Decoder α} {encode : α → Value}
    (there : ∀ a, encode a ≠ .null) (read : ∀ a, decode.ofValue (encode a) = .ok a) (o : Option α) :
    (Decoder.optional decode).ofValue (Value.optional encode o) = .ok o := by
  cases o with
  | none => rfl
  | some a => exact Decoder.optional_ofValue (there a) (read a)

/-- A list is read if its items are. -/
theorem Decoder.list_ofValue_map {decode : Decoder α} {encode : α → Value}
    (read : ∀ a, decode.ofValue (encode a) = .ok a) (as : List α) :
    (Decoder.list decode).ofValue (.list (as.map encode)) = .ok as := by
  have items : (itemDocuments (as.map encode)).mapM decode = .ok as := by
    induction as with
    | nil => rfl
    | cons a as ih =>
      have own := read a
      rw [Decoder.ofValue] at own
      simp only [List.map_cons, itemDocuments, List.mapM_cons, own, ih]
      rfl
  simp only [Decoder.ofValue, Value.document, Decoder.list, items]
  rfl

end CourierDispatch.Json
