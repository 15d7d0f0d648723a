/-
StripeTransfer/Store/Message.lean

What travels between an uploader and an object store: requests on one object of
a bucket, and the store's replies.
-/
import StripeTransfer.Text.Ascii
import StripeTransfer.Text.Quoted
import StripeTransfer.Text.Utf8

namespace StripeTransfer

open Text

/-! ### Requests -/

/-- A request on one object. -/
structure Request where
  /-- The method of the protocol, in upper case. -/
  method : String
  bucket : String
  key : String
  /-- Query parameters by name; a sub-resource without a value has the empty text. -/
  query : List (String × String)
  body : ByteArray

/-- What a request asks the store to do. -/
inductive Operation where
  | initiate
  | part (number : String)
  | complete
  | put
  | abort
  | other
  deriving Repr, DecidableEq

namespace Request

/-- A request without parameters and body. -/
def of (method bucket key : String) : Request := ⟨method, bucket, key, [], ByteArray.empty⟩

/-- The parameter of a name. -/
def parameter? (r : Request) (name : String) : Option String := r.query.lookup name

/-- What the request asks for, by its method and parameters. -/
def operation (r : Request) : Operation :=
  match r.method with
  | "POST" => if (r.parameter? "uploads").isSome then .initiate else .complete
  | "PUT" =>
    match r.parameter? "partNumber" with
    | some number => .part number
    | none => .put
  | "DELETE" => .abort
  | _ => .other

/-- The description of a request, with the size of the body in place of the body. -/
def text (r : Request) : String :=
  let pair (name value : String) : String := quoted name ++ ": " ++ quoted value
  let query := String.intercalate ", " (r.query.map fun (n, v) => pair n v)
  s!"StoreRequest \x7b method: {r.method}, bucket: {quoted r.bucket}, key: {quoted r.key}, " ++
    s!"query: \x7b{query}\x7d, body_len: {r.body.size} \x7d"

end Request

/-! ### Replies -/

/-- A reply of the store. -/
structure Reply where
  status : Nat
  /-- Names and values in the order received. -/
  headers : List (String × List UInt8)
  body : ByteArray

namespace Reply

/-- Whether the status reports an error. -/
def isError (r : Reply) : Bool := 400 ≤ r.status

/-- The body as text, malformed octets replaced. -/
def text (r : Reply) : String := decodeLenient r.body

/-- The value of the first header of a name. -/
def header? (r : Reply) (name : String) : Option (List UInt8) :=
  (r.headers.find? fun h => sameIgnoringCase h.1 name).map Prod.snd

end Reply

end StripeTransfer
