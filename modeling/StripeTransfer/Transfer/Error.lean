/-
StripeTransfer/Transfer/Error.lean

The errors of planning, moving and describing a file.
-/
import StripeTransfer.Extent.Plan
import StripeTransfer.Extent.Shard
import StripeTransfer.Files.Cause
import StripeTransfer.Layout.Basic
import StripeTransfer.Transfer.Strategy

namespace StripeTransfer

/-- Why the parameters of a transfer are refused. -/
inductive Refusal where
  | plan (e : PlanError)
  | shard (e : ShardError)
  | zeroBlock
  /-- The data to write are not as long as the extent. -/
  | sourceLength (source extent : Nat)
  /-- The buffer is not as long as the span. -/
  | bufferLength (buffer : Nat) (span : Span)
  | unknownStrategy (name : String)
  | unknownSync (name : String)
  deriving Repr, DecidableEq

/-- The message of refused parameters. -/
def Refusal.message : Refusal → String
  | .plan e => e.message
  | .shard e => e.message
  | .zeroBlock => "block size must be at least 1"
  | .sourceLength source extent =>
    s!"source of {source} bytes does not match extent of {extent} bytes"
  | .bufferLength buffer span => s!"buffer of {buffer} bytes does not match range {span.text}"
  | .unknownStrategy name =>
    s!"unknown transfer mode \"{name}\": expected one of \"buffered\", \"unbuffered\", \"mmap\""
  | .unknownSync name =>
    s!"unknown sync policy \"{name}\": expected one of \"end\", \"worker\", \"none\""

/-- The strategy of a name, or its refusal. -/
def Strategy.ofName (s : String) : Except Refusal Strategy :=
  match ofName? s with
  | some strategy => .ok strategy
  | none => .error (.unknownStrategy s)

/-- The policy of a name, or its refusal. -/
def SyncPolicy.ofName (s : String) : Except Refusal SyncPolicy :=
  match ofName? s with
  | some policy => .ok policy
  | none => .error (.unknownSync s)

/-- Why a transfer failed. -/
inductive TransferError where
  | refused (reason : Refusal)
  | io (e : FileError)
  | layout (e : LayoutError)
  /-- A worker ended without a result. -/
  | lost
  deriving Repr, DecidableEq

/-- The message of a failed transfer, without its cause. -/
def TransferError.message : TransferError → String
  | .refused reason => s!"invalid argument: {reason.message}"
  | .io e => e.message
  | .layout e => s!"layout error: {e.message}"
  | .lost => "worker did not complete: task panicked"

end StripeTransfer
