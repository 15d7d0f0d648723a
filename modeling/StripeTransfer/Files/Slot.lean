/-
StripeTransfer/Files/Slot.lean

What is found at a path, and the calls on it.  All workers of a run address one
path, so a transfer is a function on the slot there: what it holds before, and
what it holds after.

Contents are plain byte arrays.  `readAt` gives fewer bytes than asked for at
the end of the file; `writeAt` overwrites, extends, and fills a gap between the
old end and the offset with zeros.
-/
import StripeTransfer.Files.Cause
import StripeTransfer.Buffer

namespace StripeTransfer

/-! ### Contents of a file -/

namespace Content

/-- Up to `length` bytes from `offset` on; fewer where the file ends. -/
def readAt (content : ByteArray) (offset length : Nat) : ByteArray :=
  content.extract offset (offset + length)

/-- The content grown to at least `size` bytes with zeros. -/
def growTo (content : ByteArray) (size : Nat) : ByteArray :=
  if size ≤ content.size then content else content ++ Buffer.zeros (size - content.size)

/-- The content cut or grown to exactly `size` bytes. -/
def resize (content : ByteArray) (size : Nat) : ByteArray :=
  if size ≤ content.size then content.extract 0 size else growTo content size

/-- The content with `data` at `offset`; nothing changes if there are no data. -/
def writeAt (content : ByteArray) (offset : Nat) (data : ByteArray) : ByteArray :=
  if data.size = 0 then content
  else data.copySlice 0 (growTo content offset) offset data.size

/-- The content with `data` at `offset` as far as the file reaches. -/
def overwrite (content : ByteArray) (offset : Nat) (data : ByteArray) : ByteArray :=
  writeAt content offset (data.extract 0 (content.size - offset))

end Content

/-! ### Slots -/

/-- What is found at a path. -/
inductive Slot where
  /-- Nothing, but a file can be created there. -/
  | vacant
  | file (content : ByteArray)
  | directory
  /-- The path cannot be reached. -/
  | blocked (cause : Cause)

namespace Slot

instance : Inhabited Slot := ⟨vacant⟩

/-- What a reading call finds behind an opened path. -/
inductive Readable where
  | content (bytes : ByteArray)
  | directory

/-- Opens for reading. -/
def openRead : Slot → Except Cause Readable
  | vacant => .error .notFound
  | file content => .ok (.content content)
  | directory => .ok .directory
  | blocked cause => .error cause

/-- Opens for writing, creating an empty file where there is none. -/
def openCreate : Slot → Except Cause ByteArray
  | vacant => .ok ByteArray.empty
  | file content => .ok content
  | directory => .error .isDirectory
  | blocked cause => .error cause

/-- Opens an existing file for reading and writing. -/
def openUpdate : Slot → Except Cause ByteArray
  | vacant => .error .notFound
  | file content => .ok content
  | directory => .error .isDirectory
  | blocked cause => .error cause

/-- The size that the system reports for a directory. -/
def directorySize : Nat := 4096

/-- The reported size of what is found at a path. -/
def size : Slot → Except Cause Nat
  | vacant => .error .notFound
  | file content => .ok content.size
  | directory => .ok directorySize
  | blocked cause => .error cause

/-- The content of a file. -/
def content? : Slot → Option ByteArray
  | file content => some content
  | _ => none

end Slot

/-- The largest offset that a call can address. -/
def maxOffset : Nat := 0x7FFFFFFFFFFFFFFF

namespace Slot.Readable

/-- Reads up to `length` bytes at `offset`. -/
def readAt (r : Readable) (offset length : Nat) : Except Cause ByteArray :=
  match r with
  | directory => .error .isDirectory
  | content bytes =>
    if maxOffset < offset + length then .error .badOffset else .ok (Content.readAt bytes offset length)

/-- The reported size. -/
def size : Readable → Nat
  | directory => directorySize
  | content bytes => bytes.size

end Slot.Readable

end StripeTransfer
