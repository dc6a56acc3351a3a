import CourierDispatch.Json.Decode
import CourierDispatch.Uuid

/-!
# Products

A product is a class of vehicle that couriers serve. On the wire a priced product is one record:
the fields of the product and its price.
-/

namespace CourierDispatch

structure Product where
  id : Uuid
  name : String
  weightClass : UInt64
  description : String
  iconUrl : Option String
  deriving DecidableEq, Repr

structure PricedProduct where
  product : Product
  price : UInt64
  deriving DecidableEq, Repr

/-! ## On the wire -/

open Json (Value Shape Decoder)

def Product.members (p : Product) : List (String × Value) :=
  [("id", p.id.encode), ("name", .text p.name), ("weight_class", .natural p.weightClass),
    ("description", .text p.description), ("icon_url", Value.optional Value.text p.iconUrl)]

def Product.encode (p : Product) : Value := .record p.members

def Product.shape : Shape Product :=
  (((((Shape.required "id" Uuid.decode).andThen
    (Shape.required "name" Decoder.text)).andThen
    (Shape.required "weight_class" Decoder.natural)).andThen
    (Shape.required "description" Decoder.text)).andThen
    (Shape.nullable "icon_url" Decoder.text)).map
      fun ((((id, name), weightClass), description), iconUrl) =>
        ⟨id, name, weightClass, description, iconUrl⟩

def Product.decode : Decoder Product := Product.shape.decode

def PricedProduct.encode (p : PricedProduct) : Value :=
  .record (p.product.members ++ [("price", .natural p.price)])

/-- Reads a priced product that stands inside a number of brackets. -/
def PricedProduct.decodeWithin (around : Nat) : Decoder PricedProduct := fun d =>
  (Shape.decodeMerged around (Shape.required "price" Decoder.natural) Product.shape d).map
    fun (price, product) => ⟨product, price⟩

def PricedProduct.decode : Decoder PricedProduct := PricedProduct.decodeWithin 0

end CourierDispatch
