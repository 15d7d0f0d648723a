/-
StripeTransfer/Store/Practice.lean

A store for practice runs.  It accepts every request of an upload and keeps
nothing; on demand it leaves out the tags of some parts, or answers some
operations with an error.
-/
import StripeTransfer.Upload.Session

namespace StripeTransfer

open Text

/-- What a practice store does out of the ordinary. -/
structure PracticeStore where
  /-- The numbers of the parts that get no tag. -/
  untagged : List Nat
  /-- Status and error code by name of operation. -/
  failing : List (String × Nat × String)

namespace PracticeStore

/-- The name of an operation. -/
def operationName : Operation → String
  | .initiate => "initiate"
  | .part _ => "part"
  | .complete => "complete"
  | .put => "put"
  | .abort => "abort"
  | .other => "unknown"

/-- A reply with a body and no headers. -/
def plain (status : Nat) (body : String) : Reply := ⟨status, [], body.toUTF8⟩

/-- An empty reply with a tag in quotes. -/
def tagged (tag : String) : Reply := ⟨200, [("etag", octets ("\"" ++ tag ++ "\""))], ByteArray.empty⟩

/-- The name that the store gives to every upload. -/
def uploadId : String := "mock-upload-id"

/-- The tag of every finished object. -/
def finalTag : String := "mock-final-etag"

/-- The reply to a request. -/
def reply (s : PracticeStore) (r : Request) : Reply :=
  match s.failing.lookup (operationName r.operation) with
  | some (status, code) =>
    plain status s!"<Error><Code>{code}</Code><Message>mock failure</Message></Error>"
  | none =>
    match r.operation with
    | .initiate =>
      plain 200 ("<InitiateMultipartUploadResult><UploadId>" ++ uploadId ++
        "</UploadId></InitiateMultipartUploadResult>")
    | .part number =>
      if ((count? max32 number.toList).map s.untagged.contains).getD false then plain 200 ""
      else tagged ("etag-" ++ number)
    | .complete =>
      plain 200 ("<CompleteMultipartUploadResult><ETag>&quot;" ++ finalTag ++
        "&quot;</ETag></CompleteMultipartUploadResult>")
    | .put => tagged finalTag
    | .abort => plain 204 ""
    | .other => plain 405 "<Error><Code>MethodNotAllowed</Code></Error>"

/-- The practice store as a store. -/
def store (s : PracticeStore) : Store := fun _ r => .ok (s.reply r)

/-- The manifest of the last completion among some requests, the latest one first. -/
def manifest (log : List Request) : Option String :=
  (log.find? fun r => r.operation == .complete).map fun r => decodeLenient r.body

end PracticeStore

end StripeTransfer
