/-
StripeTransfer/Transfer/Worker.lean

The transfer of one span by one worker.  The three strategies agree on what they
move where the file reaches; they differ at its end and in how they meet a path
that cannot be opened:

* buffered reads want every byte, and fail at the first block that the file does
  not fill;
* unbuffered reads and mapped reads stop at the end of the file, and leave the
  rest of the buffer as it was;
* a mapped transfer of nothing does not touch the path, a mapped write does not
  create or extend the file, and loses what lies behind its end.
-/
import StripeTransfer.Files.Slot
import StripeTransfer.Transfer.Error
import StripeTransfer.Transfer.Strategy

namespace StripeTransfer

/-! ### Blocks -/

/-- The most bytes that one positioned call moves. -/
def maxChunk : Nat := 0x40000000

/-- A ceiling above all sizes. -/
def anySize : Nat := 0xFFFFFFFFFFFFFFFF

/-- The number of bytes per call: the block size as far as the ceiling and the length allow. -/
def callSize (blockSize : Option Nat) (ceiling length : Nat) : Nat :=
  max 1 (min (min (blockSize.getD ceiling) ceiling) length)

/-- The blocks of `call` bytes that make up `length` bytes; the last one may be shorter. -/
def blocks (length call : Nat) : List Span :=
  (List.range ((length + call - 1) / call)).map fun i => ⟨i * call, min call (length - i * call)⟩

/-- A transfer to carry out: its strategy, the cap on a single call, and the path. -/
structure Worker where
  strategy : Strategy
  blockSize : Option Nat
  path : String
  deriving Repr, DecidableEq

namespace Worker

/-- A refused action of a worker. -/
def fail (action : FileAction) (cause : Cause) : TransferError := .io ⟨action, cause⟩

/-! ### Reading -/

/-- Copies bytes into a buffer. -/
def copyInto (buffer : ByteArray) (offset : Nat) (data : ByteArray) : ByteArray :=
  data.copySlice 0 buffer offset data.size

/-- Fills every block, or fails at the first one that the file does not fill. -/
def fillBlocks (w : Worker) (source : Slot.Readable) (base : Nat) (buffer : ByteArray) :
    List Span → Except TransferError ByteArray
  | [] => .ok buffer
  | b :: rest =>
    let offset := base + b.offset
    match source.readAt offset b.length with
    | .error cause => .error (fail (.readBlock b.length offset w.path) cause)
    | .ok data =>
      if data.size < b.length then .error (fail (.readBlock b.length offset w.path) .shortFile)
      else fillBlocks w source base (copyInto buffer b.offset data) rest

/-- Fills blocks until one meets the end of the file; also says how many bytes were moved. -/
def readBlocks (w : Worker) (source : Slot.Readable) (base : Nat) (buffer : ByteArray)
    (moved : Nat) : List Span → Except TransferError (Nat × ByteArray)
  | [] => .ok (moved, buffer)
  | b :: rest =>
    let offset := base + b.offset
    match source.readAt offset b.length with
    | .error cause => .error (fail (.readAt b.length offset w.path) cause)
    | .ok data =>
      let buffer := copyInto buffer b.offset data
      let moved := moved + data.size
      if data.size < b.length then .ok (moved, buffer)
      else readBlocks w source base buffer moved rest

/-- Reads a span through a buffered stream. -/
def readBuffered (w : Worker) (slot : Slot) (span : Span) (buffer : ByteArray) :
    Except TransferError (Nat × ByteArray) :=
  match slot.openRead with
  | .error cause => .error (fail (.openFile w.path) cause)
  | .ok source =>
    if maxOffset < span.offset then .error (fail (.seek w.path) .badOffset)
    else
      let call := callSize w.blockSize anySize span.length
      (fillBlocks w source span.offset buffer (blocks span.length call)).map (span.length, ·)

/-- Reads a span by positioned calls. -/
def readUnbuffered (w : Worker) (slot : Slot) (span : Span) (buffer : ByteArray) :
    Except TransferError (Nat × ByteArray) :=
  match slot.openRead with
  | .error cause => .error (fail (.openFile w.path) cause)
  | .ok source =>
    let call := callSize w.blockSize maxChunk span.length
    readBlocks w source span.offset buffer 0 (blocks span.length call)

/-- Reads a span through a mapping, which is one page at least. -/
def readMapped (w : Worker) (slot : Slot) (span : Span) (buffer : ByteArray) (page : PageSize) :
    Except TransferError (Nat × ByteArray) :=
  if span.length = 0 then .ok (0, buffer)
  else
    match slot.openRead with
    | .error cause => .error (fail (.openFile w.path) cause)
    | .ok source =>
      let available := min (source.size - span.offset) span.length
      if available = 0 then .ok (0, buffer)
      else
        match source with
        | .directory =>
          .error (fail (.map (max available page.bytes) span.offset w.path) .noDevice)
        | .content bytes =>
          .ok (available, copyInto buffer 0 (Content.readAt bytes span.offset available))

/-- Reads a span into a buffer of its length; gives the bytes moved and the buffer after. -/
def read (w : Worker) (slot : Slot) (span : Span) (buffer : ByteArray)
    (page : PageSize := .standard) : Except TransferError (Nat × ByteArray) :=
  if buffer.size ≠ span.length then .error (.refused (.bufferLength buffer.size span))
  else
    match w.strategy with
    | .buffered => w.readBuffered slot span buffer
    | .unbuffered => w.readUnbuffered slot span buffer
    | .mapped => w.readMapped slot span buffer page

/-! ### Writing -/

/-- Writes blocks one after the other. -/
def writeBlocks (data : ByteArray) (base : Nat) (content : ByteArray) (bs : List Span) : ByteArray :=
  bs.foldl (fun content b => Content.writeAt content (base + b.offset) (b.slice data)) content

/-- Writes a span in blocks of `call` bytes to a file that is created if it is missing. -/
def writeCreate (w : Worker) (slot : Slot) (span : Span) (data : ByteArray) (call : Nat)
    (outOfRange : FileAction) : Except TransferError Nat × Slot :=
  match slot.openCreate with
  | .error cause => (.error (fail (.openFile w.path) cause), slot)
  | .ok content =>
    if maxOffset < span.stop ∧ (0 < span.length ∨ w.strategy = .buffered) then
      (.error (fail outOfRange .badOffset), .file content)
    else (.ok span.length, .file (writeBlocks data span.offset content (blocks span.length call)))

/-- Writes a span through a mapping of a file that exists already. -/
def writeMapped (w : Worker) (slot : Slot) (span : Span) (data : ByteArray) :
    Except TransferError Nat × Slot :=
  if span.length = 0 then (.ok 0, slot)
  else
    match slot.openUpdate with
    | .error cause => (.error (fail (.openFile w.path) cause), slot)
    | .ok content => (.ok span.length, .file (Content.overwrite content span.offset data))

/-- Writes a span from data of its length; gives the bytes moved and the slot after. -/
def write (w : Worker) (slot : Slot) (span : Span) (data : ByteArray) :
    Except TransferError Nat × Slot :=
  if data.size ≠ span.length then (.error (.refused (.bufferLength data.size span)), slot)
  else
    match w.strategy with
    | .buffered =>
      w.writeCreate slot span data (callSize w.blockSize anySize span.length) (.seek w.path)
    | .unbuffered =>
      let call := callSize w.blockSize maxChunk span.length
      w.writeCreate slot span data call (.writeAt (min call span.length) span.offset w.path)
    | .mapped => w.writeMapped slot span data

end Worker

end StripeTransfer
