/-
StripeTransfer/Signature/Sign.lean

Signing a request.  The request is written in a canonical form that covers its
method, path, query, headers and the digest of its body; a digest of that form,
with the instant and the scope, is signed by a key that is derived from the
secret key, the date, the region and the service.

`canonical` is the canonical form as a function of what it covers, so that a
reader of the returned headers can rebuild it.
-/
import StripeTransfer.Digest.Sha256
import StripeTransfer.Signature.Credentials
import StripeTransfer.Signature.Fields
import StripeTransfer.Signature.Instant
import StripeTransfer.Signature.Percent

namespace StripeTransfer

open Text

/-- What a signature covers. -/
structure SigningRequest where
  /-- The method in upper case. -/
  method : String
  /-- The name of the host, with the port if it is not the usual one. -/
  host : String
  /-- The encoded path. -/
  path : String
  /-- The parameters, not yet encoded. -/
  query : List (String × String)
  /-- The digest of the body in hexadecimal digits, or the mark of an unsigned one. -/
  payloadHash : String
  /-- Further headers, by names in lower case. -/
  headers : Fields

namespace Signature

/-- The payload hash of a body that is not signed. -/
def unsignedPayload : String := "UNSIGNED-PAYLOAD"

/-- The name of the method of signing. -/
def algorithm : String := "AWS4-HMAC-SHA256"

/-- The service that requests are signed for. -/
def service : String := "s3"

/-- The headers that are signed: those of the request, and three that every request has. -/
def signedFields (r : SigningRequest) (now : Instant) : Fields :=
  ((r.headers.set "host" r.host).set "x-amz-date" now.text).set "x-amz-content-sha256" r.payloadHash

/-- The names of the signed headers, between semicolons. -/
def nameList (fields : Fields) : String := String.intercalate ";" fields.names

/-- One line of a header: its name, a colon, its value without blanks around it. -/
def headerLine (name value : String) : String := name ++ ":" ++ trimmed value ++ "\n"

/-- The lines of some headers. -/
def headerLines (fields : Fields) : String :=
  String.join (fields.map fun (name, value) => headerLine name value)

/-- The canonical form of a request with all the headers to sign. -/
def canonical (method path : String) (query : List (String × String)) (fields : Fields)
    (payloadHash : String) : String :=
  String.intercalate "\n"
    [method, path, Percent.encodeQuery query, headerLines fields, nameList fields, payloadHash]

/-- The scope of a signature. -/
def scope (date region : String) : String :=
  String.intercalate "/" [date, region, service, "aws4_request"]

/-- What is signed: the algorithm, the instant, the scope and the digest of the canonical form. -/
def stringToSign (instant scope canonical : String) : String :=
  String.intercalate "\n" [algorithm, instant, scope, Sha256.hexDigest canonical.toUTF8]

/-- The key for a day, a region and the service. -/
def signingKey (secretKey date region : String) : ByteArray :=
  let chain := [date, region, service, "aws4_request"]
  chain.foldl (fun key part => Sha256.hmac key part.toUTF8) ("AWS4" ++ secretKey).toUTF8

/-- The signature of a string as hexadecimal digits. -/
def signatureOf (key : ByteArray) (text : String) : String :=
  String.ofList (hexOctets (Sha256.hmac key text.toUTF8).toList)

/-- All headers that authenticate a request. -/
def sign (r : SigningRequest) (credentials : Credentials) (region : String) (now : Instant) : Fields :=
  let fields := signedFields r now
  let scope := scope now.dateText region
  let text := stringToSign now.text scope (canonical r.method r.path r.query fields r.payloadHash)
  let signature := signatureOf (signingKey credentials.secretKey now.dateText region) text
  fields.set "authorization"
    (algorithm ++ " Credential=" ++ credentials.accessKey ++ "/" ++ scope ++ ", SignedHeaders=" ++
      nameList fields ++ ", Signature=" ++ signature)

end Signature

end StripeTransfer
