/-
StripeTransfer/Upload/Source.lean

Where the bodies of parts come from.  A source either reads each range from the
file when it is asked for, or hands out slices of a copy of the file that was
made beforehand, by a parallel run or through one mapping.
-/
import StripeTransfer.Transfer.Run
import StripeTransfer.Upload.Error

namespace StripeTransfer

open Text

/-- How a file is brought into memory before parts are sent. -/
inductive SourceMode where
  /-- Every part reads its own range. -/
  | onDemand
  /-- The whole file is read in parallel, then sliced. -/
  | preload
  /-- The whole file is mapped once, then sliced. -/
  | map
  deriving Repr, DecidableEq, Inhabited

namespace SourceMode

/-- The name of a mode. -/
def name : SourceMode → String
  | onDemand => "none"
  | preload => "preload"
  | map => "map"

/-- All modes. -/
def all : List SourceMode := [onDemand, preload, map]

/-- The mode of a name. -/
def ofName? (s : String) : Option SourceMode := all.find? fun x => sameIgnoringCase x.name s

/-- The mode of a name, or its refusal. -/
def ofName (s : String) : Except UploadRefusal SourceMode :=
  match ofName? s with
  | some mode => .ok mode
  | none => .error (.unknownSource s)

end SourceMode

/-- A source of part bodies. -/
inductive PartSource where
  /-- Reads ranges from the file at a path. -/
  | file (path : String) (slot : Slot)
  /-- Slices a copy of the file. -/
  | memory (bytes : ByteArray)

/-- Why a range cannot be had. -/
inductive RangeFailure where
  | error (e : UploadError)
  /-- The range leaves the copy of the file. -/
  | outOfBounds
  deriving Repr, DecidableEq

namespace PartSource

/-- Reads the whole file in parallel. -/
def preload (path : String) (size parts : Nat) (slot : Slot) : Except UploadError PartSource :=
  let spec : RunSpec := { path, extent := size, workers := parts, sync := .never }
  match spec.build with
  | .error e => .error (.loading e)
  | .ok run =>
    match run.read slot run.planOrder with
    | .error e => .error (.loading e)
    | .ok report =>
      if report.total ≠ size then .error (.io ⟨.preload path, .endOfFile⟩)
      else .ok (.memory (report.buffer.getD ByteArray.empty))

/-- Maps the whole file. -/
def mapFile (path : String) (size : Nat) (slot : Slot) : Except UploadError PartSource :=
  if size = 0 then .ok (.memory ByteArray.empty)
  else
    match slot.openRead with
    | .error cause => .error (.io ⟨.openFile path, cause⟩)
    | .ok .directory => .error (.io ⟨.mapWhole path, .noDevice⟩)
    | .ok (.content bytes) => .ok (.memory bytes)

/-- Prepares a source for a file of `size` bytes that is sent in `parts` parts. -/
def prepare (path : String) (size parts : Nat) (mode : SourceMode) (slot : Slot) :
    Except UploadError PartSource :=
  match mode with
  | .onDemand => .ok (.file path slot)
  | .preload => preload path size parts slot
  | .map => mapFile path size slot

/-- Reads a range from a file, wanting every byte. -/
def readRange (path : String) (slot : Slot) (range : Span) : Except UploadError ByteArray :=
  match slot.openRead with
  | .error cause => .error (.io ⟨.openFile path, cause⟩)
  | .ok source =>
    if range.length = 0 then .ok ByteArray.empty
    else
      match source.readAt range.offset range.length with
      | .error cause => .error (.io ⟨.readSpan range path, cause⟩)
      | .ok data =>
        if data.size < range.length then .error (.io ⟨.readSpan range path, .shortFile⟩)
        else .ok data

/-- The bytes of a range. -/
def read (source : PartSource) (range : Span) : Except RangeFailure ByteArray :=
  match source with
  | file path slot =>
    match readRange path slot range with
    | .ok data => .ok data
    | .error e => .error (.error e)
  | memory bytes =>
    match range.slice? bytes with
    | some data => .ok data
    | none => .error .outOfBounds

end PartSource

end StripeTransfer
