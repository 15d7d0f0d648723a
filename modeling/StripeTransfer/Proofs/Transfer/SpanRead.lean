/-
StripeTransfer/Proofs/Transfer/SpanRead.lean

One span read by one worker, for all strategies side by side.  What a read leaves
in the buffer is said here without any blocks: the bytes of the file up to its
end, and behind them the old bytes of the buffer.  Positioned and mapped reads
always come to this, and a buffered one does just if the span is within the file
(`Worker.read_agrees`).

The size of the calls can be seen in one place only, the message of a buffered
read that fails: it names the first block that is not wholly inside the file.
-/
import StripeTransfer.Proofs.Transfer.Worker
import Mathlib

namespace StripeTransfer

variable {file buffer data : ByteArray} {span : Span}

/-! ### The buffer after a read -/

namespace Content

/-- A write to the front of a content that is long enough replaces its first bytes. -/
theorem writeAt_front {content : ByteArray} (h : data.size ≤ content.size) :
    writeAt content 0 data = data ++ content.extract data.size content.size := by
  refine ext_octet ?_ fun i hi => ?_
  · rw [size_writeAt, ByteArray.size_append, ByteArray.size_extract]
    split_ifs <;> omega
  · rw [size_writeAt] at hi
    rw [octet_writeAt, octet_append, octet_extract]
    by_cases hfront : i < data.size
    · rw [if_pos (by omega), if_pos hfront, Nat.sub_zero]
    · have hbehind : data.size + (i - data.size) = i := by omega
      have hlt : i < content.size := by split_ifs at hi <;> omega
      rw [if_neg (by omega), if_neg hfront, hbehind, if_pos hlt]

/-- A read asks for no more than the file has. -/
theorem readAt_eq_extract (content : ByteArray) (offset length : Nat) :
    readAt content offset length =
      content.extract offset (offset + min length (content.size - offset)) := by
  refine ext_octet ?_ fun i hi => ?_
  · rw [size_readAt, ByteArray.size_extract]
    omega
  · rw [size_readAt] at hi
    rw [octet_readAt, octet_extract, if_pos (by omega), if_pos (by omega)]

end Content

/-! ### Blocks of a span -/

/-- The block of a number, of a span that is moved in calls of `call` bytes. -/
def Span.block (s : Span) (call k : Nat) : Span :=
  ⟨s.offset + k * call, min call (s.length - k * call)⟩

/-- Without a ceiling, a call moves as much as the block size and the length allow, and at least one
byte. -/
theorem callSize_anySize (blockSize : Option Nat) {length : Nat} (h : length ≤ anySize) :
    callSize blockSize anySize length = max 1 (min (blockSize.getD length) length) := by
  cases blockSize with
  | none => simp only [callSize, Option.getD_none, Nat.min_self, Nat.min_eq_right h]
  | some size =>
    simp only [callSize, Option.getD_some]
    omega

/-- **The first block that is found outside the file is the one with the least number.** -/
theorem find?_blocks_eq_some {call : Nat} (hcall : 0 < call) {b : Span}
    (h : (blocks span.length call).find? (Worker.leavesFile file span.offset) = some b) :
    ∃ k, IsLeast {k | k * call < span.length ∧ file.size < (span.block call k).stop} k ∧
      b = ⟨k * call, (span.block call k).length⟩ := by
  -- a block with a byte in the span leaves the file just if it ends behind the end of the file
  have hleaves (k : Nat) (hk : k * call < span.length) :
      Worker.leavesFile file span.offset ⟨k * call, min call (span.length - k * call)⟩ = true ↔
        file.size < (span.block call k).stop := by
    rw [Worker.leavesFile, decide_eq_true_iff]
    simp only [Span.block, Span.stop]
    omega
  rw [blocks, List.find?_map, Option.map_eq_some_iff] at h
  obtain ⟨k, hk, rfl⟩ := h
  obtain ⟨hout, hrange, hinside⟩ := List.find?_range_eq_some.mp hk
  rw [List.mem_range, lt_blockCount_iff hcall] at hrange
  refine ⟨k, ⟨⟨hrange, (hleaves k hrange).mp hout⟩, ?_⟩, rfl⟩
  rintro j ⟨hj, hleave⟩
  by_contra hlt
  have hstays := hinside j (not_le.mp hlt)
  rw [Function.comp_apply, (hleaves j hj).mpr hleave] at hstays
  cases hstays

/-! ### All strategies -/

namespace Worker

/-- What a read of a span leaves in the buffer: the bytes of the file, as far as it reaches, and then
what was there before. -/
def received (file buffer : ByteArray) (span : Span) : ByteArray :=
  let moved := min span.length (file.size - span.offset)
  file.extract span.offset (span.offset + moved) ++ buffer.extract moved buffer.size

theorem writeAt_readAt_eq_received (h : buffer.size = span.length) :
    Content.writeAt buffer 0 (Content.readAt file span.offset span.length) =
      received file buffer span := by
  have hsize := Content.size_readAt file span.offset span.length
  rw [Content.writeAt_front (by omega), hsize, Content.readAt_eq_extract, received]

/-- A buffer that is filled from a file that holds the whole span has the bytes of the span, and
nothing else. -/
theorem received_of_stop_le (h : buffer.size = span.length)
    (hfile : span.length = 0 ∨ span.stop ≤ file.size) : received file buffer span = span.slice file := by
  have hstop : span.stop = span.offset + span.length := rfl
  have hmoved : min span.length (file.size - span.offset) = span.length := by omega
  rw [received, hmoved, h, ByteArray.extract_same, ByteArray.append_empty]
  rfl

/-- A span that the file holds is read whole. -/
theorem read_within (w : Worker) (page : PageSize) (hsize : buffer.size = span.length)
    (hrange : span.stop ≤ maxOffset) (hfile : span.length = 0 ∨ span.stop ≤ file.size) :
    w.read (.file file) span buffer page = .ok (span.length, span.slice file) := by
  have hstop : span.stop = span.offset + span.length := rfl
  have hmoved : min span.length (file.size - span.offset) = span.length := by omega
  rw [read_eq page hsize hrange fun _ => hfile, writeAt_readAt_eq_received hsize,
    received_of_stop_le hsize hfile, hmoved]

/-- A buffered read of a span that leaves the file fails at the first block outside. -/
theorem read_buffered_leaving (path : String) (blockSize : Option Nat) (page : PageSize)
    (hsize : buffer.size = span.length) (hrange : span.stop ≤ maxOffset) (hpos : 0 < span.length)
    (hfile : file.size < span.stop) :
    let call := max 1 (min (blockSize.getD span.length) span.length)
    ∃ k, IsLeast {k | k * call < span.length ∧ file.size < (span.block call k).stop} k ∧
      read ⟨.buffered, blockSize, path⟩ (.file file) span buffer page = .error (fail
        (.readBlock (span.block call k).length (span.block call k).offset path) .shortFile) := by
  intro call
  have hcall : callSize blockSize anySize span.length = call := by
    have hstop : span.stop = span.offset + span.length := rfl
    have hle : maxOffset ≤ anySize := by decide
    exact callSize_anySize blockSize (by omega)
  obtain ⟨b, hb, hread⟩ :=
    read_buffered_short (w := ⟨.buffered, blockSize, path⟩) page rfl hsize hrange hpos hfile
  rw [hcall] at hb
  obtain ⟨k, hk, rfl⟩ := find?_blocks_eq_some (Nat.le_max_left 1 _) hb
  exact ⟨k, hk, hread⟩

/-- **Reads of one span agree.**  The span lies where calls can address it, and the buffer is as long
as the span.

A positioned or a mapped read succeeds, and moves what the file holds of the span; the rest of the
buffer stays as it was.  A buffered read succeeds just if the span is empty or within the file, and
then fills the buffer with the bytes of the span.  If it fails, it names the first block that is not
wholly inside the file.  The block size, which may be zero, is seen nowhere else, and the page size
not at all. -/
theorem read_agrees (path : String) (blockSize : Option Nat) (page : PageSize)
    (hsize : buffer.size = span.length) (hrange : span.stop ≤ maxOffset) :
    let buffered : Worker := ⟨.buffered, blockSize, path⟩
    let call := max 1 (min (blockSize.getD span.length) span.length)
    (∀ strategy, strategy ≠ .buffered →
      read ⟨strategy, blockSize, path⟩ (.file file) span buffer page =
        .ok (min span.length (file.size - span.offset), received file buffer span)) ∧
    ((∃ result, buffered.read (.file file) span buffer page = .ok result) ↔
      span.length = 0 ∨ span.stop ≤ file.size) ∧
    (∀ result, buffered.read (.file file) span buffer page = .ok result →
      result = (span.length, span.slice file)) ∧
    ∀ e, buffered.read (.file file) span buffer page = .error e →
      ∃ k b, IsLeast {k | k * call < span.length ∧ file.size < (span.block call k).stop} k ∧
        b = span.block call k ∧ e = fail (.readBlock b.length b.offset path) .shortFile ∧
        e.message = "i/o error: " ++ s!"short read of {b.length} bytes at {b.offset} in {path}" := by
  intro buffered call
  have hplain : ∀ strategy, strategy ≠ .buffered →
      read ⟨strategy, blockSize, path⟩ (.file file) span buffer page =
        .ok (min span.length (file.size - span.offset), received file buffer span) := by
    intro strategy hother
    rw [read_eq page hsize hrange fun hbuffered => absurd hbuffered hother,
      writeAt_readAt_eq_received hsize]
  by_cases hfile : span.length = 0 ∨ span.stop ≤ file.size
  · have hfilled : buffered.read (.file file) span buffer page = .ok (span.length, span.slice file) :=
      read_within buffered page hsize hrange hfile
    refine ⟨hplain, ⟨fun _ => hfile, fun _ => ⟨_, hfilled⟩⟩, ?_, ?_⟩
    · intro result hok
      exact (Except.ok.inj (hfilled.symm.trans hok)).symm
    · intro e herror
      rw [hfilled] at herror
      cases herror
  · rw [not_or, not_le] at hfile
    obtain ⟨k, hk, hshort⟩ := read_buffered_leaving path blockSize page hsize hrange
      (Nat.pos_of_ne_zero hfile.1) hfile.2
    have hrefused (result : Nat × ByteArray) :
        buffered.read (.file file) span buffer page ≠ .ok result := fun hok => by
      cases hshort.symm.trans hok
    refine ⟨hplain, ⟨?_, ?_⟩, ?_, ?_⟩
    · rintro ⟨result, hok⟩
      exact absurd hok (hrefused result)
    · intro hwithin
      exact absurd hwithin (not_or.mpr ⟨hfile.1, not_le.mpr hfile.2⟩)
    · intro result hok
      exact absurd hok (hrefused result)
    · intro e herror
      obtain rfl := Except.error.inj (herror.symm.trans hshort)
      exact ⟨k, _, hk, rfl, rfl, rfl⟩

/-- Six bytes from the third one of a file of five, in calls of two: three of them are there, and the
second block is the first one that is not. -/
theorem read_agrees_past_end :
    let file : ByteArray := ⟨#[1, 2, 3, 4, 5]⟩
    let buffer : ByteArray := ⟨#[9, 9, 9, 9, 9, 9]⟩
    let span : Span := ⟨2, 6⟩
    (buffer.size = span.length ∧ span.stop ≤ maxOffset) ∧
    read ⟨.mapped, some 2, "f"⟩ (.file file) span buffer = .ok (3, ⟨#[3, 4, 5, 9, 9, 9]⟩) ∧
    ∃ e, read ⟨.buffered, some 2, "f"⟩ (.file file) span buffer = .error e ∧
      e.message = "i/o error: short read of 2 bytes at 4 in f" := by
  intro file buffer span
  have hsize : buffer.size = span.length := by decide
  have hrange : span.stop ≤ maxOffset := by decide
  obtain ⟨hplain, hiff, -, hfails⟩ := @read_agrees file buffer span "f" (some 2) .standard hsize hrange
  refine ⟨⟨hsize, hrange⟩, ?_, ?_⟩
  · rw [hplain .mapped (by decide)]
    decide +kernel
  · cases hread : read ⟨.buffered, some 2, "f"⟩ (.file file) span buffer with
    | ok result => exact absurd (hiff.mp ⟨result, hread⟩) (by decide)
    | error e =>
      obtain ⟨k, b, hk, rfl, -, hmessage⟩ := hfails e hread
      have hsecond : IsLeast {k | k * 2 < 6 ∧ 5 < (span.block 2 k).stop} 1 := by
        refine ⟨by decide, ?_⟩
        rintro j ⟨-, hj⟩
        by_contra hlt
        obtain rfl := Nat.lt_one_iff.mp (not_le.mp hlt)
        exact absurd hj (by decide)
      obtain rfl := hk.unique hsecond
      exact ⟨e, rfl, hmessage.trans (by decide)⟩

end Worker

end StripeTransfer
