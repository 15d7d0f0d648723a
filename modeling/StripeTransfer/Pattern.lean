/-
StripeTransfer/Pattern.lean

The test pattern: the little-endian 64-bit encodings of 0, 1, 2, … one after the
other.  Any window of it can be made on its own, which lets independent writers
agree on the contents of a file.

`Pattern.byteAt` says what the byte at an offset is; `Pattern.window` makes a
window word by word, with the odd bytes before the first and after the last
whole word made one at a time.  Offsets are words themselves; behind the last one
comes the first.
-/
import StripeTransfer.Number.Word

namespace StripeTransfer.Pattern

/-- The byte of the pattern at an offset. -/
def byteAt (offset : Nat) : UInt8 := (offset / 8 / Nat.pow 256 (offset % 8)).toUInt8

/-- Appends `count` bytes from `offset` on, one at a time. -/
def pushBytes (buffer : ByteArray) (offset : Nat) : (count : Nat) → ByteArray
  | 0 => buffer
  | count + 1 => pushBytes (buffer.push (byteAt (Word.wrap offset))) (offset + 1) count

/-- Appends the eight bytes of a word, the lowest first. -/
def pushWord (buffer : ByteArray) (word : UInt64) : ByteArray :=
  (((((((buffer.push word.toUInt8).push (word >>> 8).toUInt8).push (word >>> 16).toUInt8).push
    (word >>> 24).toUInt8).push (word >>> 32).toUInt8).push (word >>> 40).toUInt8).push
    (word >>> 48).toUInt8).push (word >>> 56).toUInt8

/-- Appends `count` words from `word` on. -/
def pushWords (buffer : ByteArray) (word : UInt64) : (count : Nat) → ByteArray
  | 0 => buffer
  | count + 1 => pushWords (pushWord buffer word) (word + 1) count

/-- Appends the window of `length` bytes at `offset`: up to the next word, whole words, the rest. -/
def push (buffer : ByteArray) (offset length : Nat) : ByteArray :=
  let head := if offset % 8 = 0 then 0 else min (8 - offset % 8) length
  let first := Word.wrap (offset + head) / 8
  let words := (length - head) / 8
  let body := pushWords (pushBytes buffer offset head) first.toUInt64 words
  pushBytes body (Word.wrap (8 * (first + words))) ((length - head) % 8)

/-- The `length` bytes of the pattern from `offset` on. -/
def window (offset length : Nat) : ByteArray := push (ByteArray.emptyWithCapacity length) offset length

end StripeTransfer.Pattern
