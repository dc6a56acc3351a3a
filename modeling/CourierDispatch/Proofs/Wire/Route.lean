import CourierDispatch.Proofs.Wire.Record
import CourierDispatch.Proofs.Wire.Text
import CourierDispatch.Route

/-!
# Routes are read back

A route with the products on offer along it, the reference that a trip keeps to it, the answer of a
provider, a product and a priced product are read from their own text as they were
(`route_answers_read_back`), whatever is in their texts and numbers. None of them holds a double.

A priced product shares one pair of brackets with its product: the price is taken out first, and the
members of the product are kept for a second reading. No two of the six members have one name, and
none of them has brackets of its own, so each record finds its fields among those of the other.
-/

namespace CourierDispatch

open Json (Decoder ItemsWhole MembersWhole Number Shape Value member?_memberDocuments)

/-! ## Products -/

namespace Product

theorem whole_members (p : Product) : MembersWhole p.members := by
  cases icon : p.iconUrl <;>
    simp [members, icon, MembersWhole, Value.Whole, Uuid.encode, Value.natural, Number.Whole,
      Value.optional]

/-- No member of a product has brackets of its own. -/
theorem sound_of_mem_members {p : Product} {m : String × Value} (member : m ∈ p.members)
    (depth : Nat) : m.2.document.sound depth = true := by
  have icon : (Value.optional Value.text p.iconUrl).document.sound depth = true := by
    cases p.iconUrl <;> rfl
  simp only [members, List.mem_cons, List.not_mem_nil, or_false] at member
  rcases member with rfl | rfl | rfl | rfl | rfl
  · rfl
  · rfl
  · rfl
  · rfl
  · exact icon

theorem iconUrl_ofValue (url : Option String) :
    (Decoder.optional Decoder.text).ofValue (Value.optional Value.text url) = .ok url :=
  Decoder.optional_ofValue_optional nofun (fun _ => rfl) url

/-- The members of a product pass the checks of its fields. -/
theorem checked (p : Product) : ∀ m ∈ p.members, ∀ check, shape.checks.lookup m.1 = some check →
    check m.2.document = .ok () := by
  have id := Uuid.decode_encode p.id
  have icon := iconUrl_ofValue p.iconUrl
  rw [Decoder.ofValue] at id icon
  simp [members, shape, Shape.map, Shape.andThen, Shape.required, Shape.nullable, Shape.field,
    List.lookup_cons, id, icon, Except.map]

/-- A product is found among its own members, whatever stands behind them. -/
theorem ofMembers_members (p : Product) (more : List (String × Value)) :
    shape.ofMembers (Json.memberDocuments (p.members ++ more)) = .ok p := by
  have id := Uuid.decode_encode p.id
  have icon := iconUrl_ofValue p.iconUrl
  rw [Decoder.ofValue] at id icon
  simp [members, shape, Shape.map, Shape.andThen, Shape.required, Shape.nullable, Shape.field,
    member?_memberDocuments, List.lookup_cons, id, icon, Except.map]
  rfl

theorem whole_encode (p : Product) : p.encode.Whole := p.whole_members

theorem decode_encode (p : Product) : decode.ofValue p.encode = .ok p := by
  have read := p.ofMembers_members []
  rw [List.append_nil] at read
  exact Shape.decode_record (by simp [members]) p.checked read

end Product

namespace PricedProduct

theorem whole_encode (p : PricedProduct) : p.encode.Whole := by
  have product := p.product.whole_members
  simp_all [encode, Product.members, Value.Whole, MembersWhole, Value.natural, Number.Whole]

/-- A priced product is read inside any number of brackets. -/
theorem decodeWithin_encode (around : Nat) (p : PricedProduct) :
    (decodeWithin around).ofValue p.encode = .ok p := by
  have merged : (Decoder.ofValue
      (Shape.decodeMerged around (Shape.required "price" Decoder.natural) Product.shape) p.encode) =
        .ok (p.price, p.product) := by
    refine Shape.decodeMerged_record (by simp [Product.members]) ?_ ?_ ?_ ?_
      (p.product.ofMembers_members _)
    · intro m member
      rcases List.mem_append.1 member with product | price
      · exact Product.sound_of_mem_members product _
      · rw [List.mem_singleton.1 price]
        rfl
    · simp [Product.members, Shape.required, Shape.field, List.lookup_cons, Except.map]
    · intro m member check known
      rcases List.mem_append.1 member with product | price
      · exact p.product.checked m product check known
      · rw [List.mem_singleton.1 price] at known
        simp [Product.shape, Shape.map, Shape.andThen, Shape.required, Shape.nullable, Shape.field,
          List.lookup_cons] at known
    · simp [Product.members, Shape.required, Shape.field, member?_memberDocuments, List.lookup_cons]
  rw [Decoder.ofValue] at merged
  rw [Decoder.ofValue, decodeWithin, merged]
  rfl

end PricedProduct

/-! ## Routes -/

namespace Directions

theorem whole_encode (r : Directions) : r.encode.Whole :=
  ⟨trivial, trivial, trivial, trivial, trivial⟩

theorem decode_encode (r : Directions) : decode.ofValue r.encode = .ok r := by
  refine Shape.decode_record (by simp) ?_ ?_
  · simp [shape, Shape.map, Shape.andThen, Shape.required, Shape.field, List.lookup_cons,
      Except.map]
  · simp [shape, Shape.map, Shape.andThen, Shape.required, Shape.field, member?_memberDocuments,
      List.lookup_cons, Except.map]
    rfl

end Directions

namespace RouteRef

theorem whole_encode (r : RouteRef) : r.encode.Whole := ⟨trivial, trivial, trivial, trivial⟩

theorem decode_encode (r : RouteRef) : decode.ofValue r.encode = .ok r := by
  refine Shape.decode_record (by simp) ?_ ?_
  · simp [shape, Shape.map, Shape.andThen, Shape.required, Shape.field, List.lookup_cons,
      Except.map]
  · simp [shape, Shape.map, Shape.andThen, Shape.required, Shape.field, member?_memberDocuments,
      List.lookup_cons, Except.map]
    rfl

end RouteRef

namespace Route

theorem whole_encode (r : Route) : r.encode.Whole := by
  have products : ItemsWhole (r.products.map PricedProduct.encode) := by
    induction r.products with
    | nil => trivial
    | cons p rest ih => exact ⟨p.whole_encode, ih⟩
  simpa [encode, Value.Whole, MembersWhole, Value.natural, Number.Whole] using products

theorem decode_encode (r : Route) : decode.ofValue r.encode = .ok r := by
  have products := Decoder.list_ofValue_map (PricedProduct.decodeWithin_encode 2) r.products
  rw [Decoder.ofValue] at products
  refine Shape.decode_record (by simp) ?_ ?_
  · simp [shape, Shape.map, Shape.andThen, Shape.required, Shape.field, List.lookup_cons, products,
      Except.map]
  · simp [shape, Shape.map, Shape.andThen, Shape.required, Shape.field, member?_memberDocuments,
      List.lookup_cons, products, Except.map]
    rfl

end Route

/-- Routes, references, answers of a provider, products and priced products are read from their own
text as they were. -/
theorem route_answers_read_back :
    (∀ r : Route, Route.decode.readAll r.encode.render = .ok r) ∧
    (∀ r : RouteRef, RouteRef.decode.readAll r.encode.render = .ok r) ∧
    (∀ r : Directions, Directions.decode.readAll r.encode.render = .ok r) ∧
    (∀ p : Product, Product.decode.readAll p.encode.render = .ok p) ∧
    (∀ p : PricedProduct, PricedProduct.decode.readAll p.encode.render = .ok p) := by
  refine ⟨fun r => ?_, fun r => ?_, fun r => ?_, fun p => ?_, fun p => ?_⟩
  · rw [Decoder.readAll_render _ r.whole_encode, Route.decode_encode]
  · rw [Decoder.readAll_render _ r.whole_encode, RouteRef.decode_encode]
  · rw [Decoder.readAll_render _ r.whole_encode, Directions.decode_encode]
  · rw [Decoder.readAll_render _ p.whole_encode, Product.decode_encode]
  · rw [Decoder.readAll_render _ p.whole_encode, PricedProduct.decode,
      PricedProduct.decodeWithin_encode]

end CourierDispatch
