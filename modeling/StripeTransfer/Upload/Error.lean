/-
StripeTransfer/Upload/Error.lean

The errors of uploading a file.
-/
import StripeTransfer.Text.Quoted
import StripeTransfer.Transfer.Error
import StripeTransfer.Web.Url

namespace StripeTransfer

open Text

/-- Why an endpoint is refused. -/
inductive EndpointError where
  /-- The text is no address; `reason` says why. -/
  | malformed (endpoint : String) (reason : UrlError)
  | unsupportedScheme
  deriving Repr, DecidableEq

/-- The message of a refused endpoint. -/
def EndpointError.message : EndpointError → String
  | .malformed endpoint reason => s!"invalid endpoint {quoted endpoint}: {reason.message}"
  | .unsupportedScheme => "only 'http' and 'https' endpoints are supported"

/-- Why the parameters of an upload are refused. -/
inductive UploadRefusal where
  | tooFewJobs (given : Nat)
  | tooFewRetries (given : Nat)
  | unknownSource (name : String)
  | halfKeyPair
  | endpoint (e : EndpointError)
  deriving Repr, DecidableEq

/-- The message of refused parameters. -/
def UploadRefusal.message : UploadRefusal → String
  | .tooFewJobs given => s!"number of jobs must be at least one, {given} provided"
  | .tooFewRetries given => s!"number of retries must be at least one, {given} provided"
  | .unknownSource name =>
    s!"unknown source mode \"{name}\": expected one of \"none\", \"preload\", \"map\""
  | .halfKeyPair => "both access and secret keys have to be specified"
  | .endpoint e => e.message

/-- Why there are no usable credentials. -/
inductive CredentialsError where
  | fileUnknown
  | profileNotFound (profile : String)
  | keyMissing (profile key : String)
  /-- The store itself turned the request away. -/
  | declined (reason : String)
  deriving Repr, DecidableEq

/-- The message of missing credentials. -/
def CredentialsError.message : CredentialsError → String
  | .fileUnknown => "cannot locate the credentials file"
  | .profileNotFound profile => s!"profile {profile} not found"
  | .keyMissing profile key => s!"profile {profile} has no {key}"
  | .declined reason => reason

/-- Why no reply came back for a request. -/
inductive NetworkError where
  /-- The request has a header that cannot be sent. -/
  | badHeader
  /-- The request did not reach its address; the causes go from the outermost inwards. -/
  | unsent (url : String) (causes : List String)
  deriving Repr, DecidableEq

namespace NetworkError

/-- The causes of a request without a reply, from the outermost inwards. -/
def causes : NetworkError → List String
  | badHeader => ["builder error", "failed to parse header value"]
  | unsent url causes => s!"error sending request for url ({url})" :: causes

/-- There is no way to the address. -/
def unreachable (url : String) : NetworkError :=
  .unsent url
    ["client error (Connect)", "tcp connect error", "Network is unreachable (os error 101)"]

/-- The name of the host cannot be looked up. -/
def unresolved (url : String) : NetworkError :=
  .unsent url
    ["client error (Connect)", "dns error",
      "failed to lookup address information: Temporary failure in name resolution"]

end NetworkError

/-- The steps of an upload, by the names that the store's protocol gives them. -/
inductive UploadStep where
  | putObject
  | createUpload
  | uploadPart
  | completeUpload
  deriving Repr, DecidableEq

/-- The protocol's name of a step. -/
def UploadStep.name : UploadStep → String
  | .putObject => "PutObject"
  | .createUpload => "CreateMultipartUpload"
  | .uploadPart => "UploadPart"
  | .completeUpload => "CompleteMultipartUpload"

/-- Why an upload failed. -/
inductive UploadError where
  | refused (reason : UploadRefusal)
  | io (e : FileError)
  /-- The store reported an error, or a reply lacks what the step needs. -/
  | protocol (step : UploadStep) (status : Nat) (code : String)
  /-- No reply to a part carried a tag. -/
  | partUntagged (part attempts : Nat)
  | transport (e : NetworkError)
  | credentials (e : CredentialsError)
  /-- Loading the file failed. -/
  | loading (e : TransferError)
  deriving Repr, DecidableEq

namespace UploadError

/-- The message of a failed upload, without its causes. -/
def message : UploadError → String
  | refused reason => s!"invalid argument: {reason.message}"
  | io e => e.message
  | protocol step status code => s!"{step.name} failed with status {status}: {code}"
  | partUntagged part attempts => s!"part {part} failed after {attempts} attempts: no ETag in response"
  | transport _ => "transport error"
  | credentials e => s!"credentials error: {e.message}"
  | loading _ => "failed to load file"

end UploadError

/-- The causes of a failed transfer. -/
def TransferError.causes : TransferError → List String
  | .io e => [e.cause.message]
  | _ => []

/-- The causes of a failed upload, from the outermost inwards. -/
def UploadError.causes : UploadError → List String
  | .io e => [e.cause.message]
  | .transport e => e.causes
  | .loading e => e.message :: e.causes
  | _ => []

end StripeTransfer
