import CourierDispatch.DispatchError
import CourierDispatch.Http.Target
import CourierDispatch.Json.Text

/-!
# Requests and responses

A request names a method and a target, and may bring a body with a content type. A response has a
status and may have a body. Whatever the service answers of its own is JSON; a request that
cannot be understood is answered in plain text.
-/

namespace CourierDispatch.Http

/-- May a character stand in a header? -/
def isHeaderChar (c : Char) : Bool := c = '\t' || (0x20 ≤ c.toNat && c.toNat ≠ 0x7F)

structure Request where
  method : String
  target : String
  contentType : Option String
  body : String
  deriving DecidableEq, Repr

structure Response where
  status : Nat
  contentType : Option String
  /-- The methods that are allowed instead. -/
  allow : Option String
  body : String
  deriving DecidableEq, Repr

namespace Request

/-- The target, if the request has one. -/
def target? (r : Request) : Option Target := Target.read? r.target.toList

/-- The path of the target. -/
def path (r : Request) : List Char := (r.target?.map Target.path).getD []

/-- The query of the target, without its mark. -/
def query (r : Request) : List Char := (r.target?.map Target.query).getD []

end Request

namespace Response

def jsonType : String := "application/json"

def plainType : String := "text/plain; charset=utf-8"

/-- A status without a body. -/
def bare (status : Nat) : Response := ⟨status, none, none, ""⟩

/-- A value as the answer. -/
def json (status : Nat) (v : Json.Value) : Response := ⟨status, some jsonType, none, v.render⟩

/-- A request that cannot be understood. -/
def rejected (status : Nat) (why : String) : Response := ⟨status, some plainType, none, why⟩

def ofError (e : DispatchError) : Response := json e.status e.body

/-- The answer without its body. -/
def withoutBody (r : Response) : Response := { r with body := "" }

end Response

end CourierDispatch.Http
