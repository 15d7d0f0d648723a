/-
StripeTransfer/Files/Cause.lean

What can go wrong with a file: the action that was attempted, and the cause for
which the system refused it.
-/
import StripeTransfer.Extent.Span

namespace StripeTransfer

/-! ### Causes -/

/-- Why the system refused a call. -/
inductive Cause where
  | notFound
  | isDirectory
  | notDirectory
  | alreadyExists
  | permissionDenied
  /-- The call does not fit the kind of file. -/
  | noDevice
  /-- An offset is out of range. -/
  | badOffset
  /-- A path holds a zero character. -/
  | zeroInPath
  /-- The file ended before the buffer was full. -/
  | shortFile
  /-- The file ended before its announced size. -/
  | endOfFile
  /-- The file does not hold text. -/
  | notText
  deriving Repr, DecidableEq

/-- The system's own message for a cause. -/
def Cause.message : Cause → String
  | .notFound => "No such file or directory (os error 2)"
  | .isDirectory => "Is a directory (os error 21)"
  | .notDirectory => "Not a directory (os error 20)"
  | .alreadyExists => "File exists (os error 17)"
  | .permissionDenied => "Permission denied (os error 13)"
  | .noDevice => "No such device (os error 19)"
  | .badOffset => "Invalid argument (os error 22)"
  | .zeroInPath => "file name contained an unexpected NUL byte"
  | .shortFile => "failed to fill whole buffer"
  | .endOfFile => "unexpected end of file"
  | .notText => "stream did not contain valid UTF-8"

/-! ### Actions -/

/-- What was attempted on a file. -/
inductive FileAction where
  | openFile (path : String)
  | openDirect (path : String)
  | create (path : String)
  | write (path : String)
  | stat (path : String)
  | inspect (path : String)
  | extend (path : String)
  | seek (path : String)
  /-- Fill a block from a stream. -/
  | readBlock (length offset : Nat) (path : String)
  /-- Fill a block by one positioned call. -/
  | readAt (length offset : Nat) (path : String)
  | writeAt (length offset : Nat) (path : String)
  | readSpan (span : Span) (path : String)
  | writeDirect (path : String)
  | map (length offset : Nat) (path : String)
  | mapWhole (path : String)
  | preload (path : String)
  | readCredentials (path : String)
  | runTool (tool request : String)
  deriving Repr, DecidableEq

/-- The description of a failed action. -/
def FileAction.text : FileAction → String
  | .openFile path => s!"failed to open {path}"
  | .openDirect path => s!"failed to open {path} with O_DIRECT"
  | .create path => s!"failed to create {path}"
  | .write path => s!"failed to write {path}"
  | .stat path => s!"failed to stat {path}"
  | .inspect path => s!"cannot open file {path}"
  | .extend path => s!"failed to extend {path}"
  | .seek path => s!"failed to seek in {path}"
  | .readBlock length offset path => s!"short read of {length} bytes at {offset} in {path}"
  | .readAt length offset path => s!"failed to read {length} bytes at {offset} from {path}"
  | .writeAt length offset path => s!"failed to write {length} bytes at {offset} to {path}"
  | .readSpan span path => s!"failed to read {span.text} of {path}"
  | .writeDirect path => s!"failed to write {path} with O_DIRECT"
  | .map length offset path => s!"failed to map {length} bytes at {offset} of {path}"
  | .mapWhole path => s!"failed to map {path}"
  | .preload path => s!"failed to preload {path}"
  | .readCredentials path => s!"failed to read credentials file {path}"
  | .runTool tool request => s!"failed to run {tool} {request}"

/-- A refused action and its cause. -/
structure FileError where
  action : FileAction
  cause : Cause
  deriving Repr, DecidableEq

/-- The message of a refused action, without its cause. -/
def FileError.message (e : FileError) : String := s!"i/o error: {e.action.text}"

end StripeTransfer
