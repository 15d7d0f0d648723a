/-
StripeTransfer/Store/Client.lean

A store that is reached over the network.  A request on an object becomes a
signed request to the address `endpoint/bucket/key`.  The bodies of `PUT`
requests are not covered by the signature, so that large parts are read once
only.

What is signed is `Client.path` and the canonical form of the query; what is
sent is the address that these are read as (`Client.target`).  The two agree
where no segment of the path is a dot segment.
-/
import StripeTransfer.Signature.Sign
import StripeTransfer.Store.Message
import StripeTransfer.Web.Url

namespace StripeTransfer

open Text

/-- A request as it is sent. -/
structure WireRequest where
  method : String
  url : Url
  /-- All headers but those that follow from the address and the body. -/
  headers : Fields
  body : ByteArray

/-- A network: the reply to a request. -/
abbrev Network : Type := WireRequest → Except NetworkError Reply

namespace Network

/-- The network when nothing is connected.  A request to the host itself fails when its name is
looked up, and any other at the first hop; only requests that are not encrypted take a proxy. -/
def down (hasProxy : Bool) : Network := fun r =>
  match hasProxy && !r.url.secure, r.url.host with
  | false, .name _ => .error (.unresolved r.url.text)
  | _, _ => .error (.unreachable r.url.text)

end Network

/-- Access to a store over the network. -/
structure Client where
  endpoint : Url
  region : String
  credentials : Credentials

namespace Client

/-- Access to the store at an endpoint. -/
def of (endpoint region : String) (credentials : Credentials) : Except UploadError Client :=
  match Url.parse endpoint with
  | .error e => .error (.refused (.endpoint (.malformed endpoint e)))
  | .ok .other => .error (.refused (.endpoint .unsupportedScheme))
  | .ok (.web url) => .ok ⟨url, region, credentials⟩

/-- The description of a client. -/
def text (c : Client) : String :=
  s!"S3Client \x7b endpoint: {quoted c.endpoint.text}, region: {quoted c.region}, " ++
    s!"credentials: {c.credentials.text}, .. \x7d"

/-- How the client presents itself. -/
def userAgent : String := "stripebench/0.1.0"

/-- The text without the slashes at its end. -/
def withoutEndSlashes (s : List Char) : List Char := (s.reverse.dropWhile (· == '/')).reverse

/-- The path of an object: the path of the endpoint, the bucket, and the key without slashes at its
start. -/
def path (c : Client) (bucket key : String) : List Char :=
  withoutEndSlashes c.endpoint.path ++ '/' :: Percent.encodeChars bucket ++
    '/' :: Percent.encodePathChars (String.ofList (key.toList.dropWhile (· == '/')))

/-- What stands for the body in the signature of a request. -/
def payloadHash (r : Request) : String :=
  if r.method == "PUT" then Signature.unsignedPayload else Sha256.hexDigest r.body

/-- What the signature of a request covers. -/
def signing (c : Client) (r : Request) : SigningRequest :=
  { method := r.method, host := String.ofList c.endpoint.authority
    path := String.ofList (c.path r.bucket r.key), query := r.query
    payloadHash := payloadHash r, headers := [] }

/-- The path and the query of a request, as they are put behind the host. -/
def target (c : Client) (r : Request) : List Char :=
  let query := Percent.encodeQueryChars r.query
  c.path r.bucket r.key ++ if query.isEmpty then [] else '?' :: query

/-- A request as it is sent at an instant. -/
def wire (c : Client) (now : Instant) (r : Request) : WireRequest :=
  let signed := Signature.sign (c.signing r) c.credentials c.region now
  { method := r.method, url := c.endpoint.at_ (c.target r)
    headers := Fields.set "user-agent" userAgent (signed.filter fun h => h.1 != "host")
    body := r.body }

/-- Whether a header can carry a value: no control other than a tab is in it. -/
def canCarry (value : String) : Bool :=
  value.toList.all fun c => c == '\t' || (32 ≤ c.toNat && c.toNat ≠ 127)

/-- Sends a request over a network at an instant. -/
def send (c : Client) (network : Network) (now : Instant) (r : Request) : Except UploadError Reply :=
  let w := c.wire now r
  if w.headers.all fun h => canCarry h.2 then
    match network w with
    | .ok reply => .ok reply
    | .error e => .error (.transport e)
  else .error (.transport .badHeader)

/-- The client as a store, with a clock that stands still. -/
def store (c : Client) (network : Network) (now : Instant) :
    List Request → Request → Except UploadError Reply :=
  fun _ r => c.send network now r

end Client

end StripeTransfer
