/-
StripeTransfer/Files/PatternFile.lean

Files that hold the test pattern: a whole file, written in large chunks over
whatever was there, and the one page that shows whether a file system accepts
writes that bypass its cache.
-/
import StripeTransfer.Files.Slot
import StripeTransfer.Pattern

namespace StripeTransfer.PatternFile

/-- The number of bytes written at a time. -/
def chunkSize : Nat := 8 * 1048576

/-- Appends the pattern from `offset` up to `size`, in `count` chunks at most. -/
def appendChunks (size : Nat) (content : ByteArray) (offset : Nat) : (count : Nat) → ByteArray
  | 0 => content
  | count + 1 =>
    let length := min (size - offset) chunkSize
    appendChunks size (Pattern.push content offset length) (offset + length) count

/-- The content of a pattern file. -/
def content (size : Nat) : ByteArray :=
  appendChunks size ByteArray.empty 0 ((size + chunkSize - 1) / chunkSize)

/-- Writes a file of `size` bytes of the pattern in place of what was there. -/
def create (path : String) (size : Nat) (slot : Slot) : Except FileError Slot :=
  match slot.openCreate with
  | .error cause => .error ⟨.create path, cause⟩
  | .ok _ =>
    if maxOffset < size then .error ⟨.write path, .badOffset⟩ else .ok (.file (content size))

/-- Writes the first page of the pattern to the start of a file, creating it if it is missing. -/
def writePage (path : String) (slot : Slot) (page : PageSize := .standard) :
    Except FileError Slot :=
  match slot.openCreate with
  | .error cause => .error ⟨.openDirect path, cause⟩
  | .ok content => .ok (.file (Content.writeAt content 0 (Pattern.window 0 page.bytes)))

end StripeTransfer.PatternFile
