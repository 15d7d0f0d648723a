/-
StripeTransfer/Proofs/Transfer/Worker.lean

What a worker does to a file and to its buffer.  However it moves the bytes, in
one call, in blocks or by a copy, the outcome is that of one call for the whole
span:

* a write is `Content.writeAt` (`Worker.write_eq`), also through a mapping, if
  the file was extended before;
* a read puts `Content.readAt` into the buffer and counts its bytes
  (`Worker.read_eq`);
* a buffered read of a span that the file does not fill fails at the first block
  that is not wholly inside the file (`Worker.read_buffered_short`), and an
  unbuffered one fails whose span reaches further than a call can address
  (`Worker.read_unbuffered_beyond`).

The loops go over adjacent blocks, so each induction is on `Contiguous`: what is
left to do is always the rest of one extent.
-/
import StripeTransfer.Proofs.Files.Content
import StripeTransfer.Transfer.Worker
import Mathlib

namespace StripeTransfer

/-! ### Blocks -/

theorem callSize_pos (blockSize : Option Nat) (ceiling length : Nat) :
    0 < callSize blockSize ceiling length := Nat.lt_of_lt_of_le Nat.one_pos (Nat.le_max_left _ _)

/-- There are as many blocks as begin before the end. -/
theorem lt_blockCount_iff {length call n : Nat} (h : 0 < call) :
    n < (length + call - 1) / call ↔ n * call < length := by
  rw [← Nat.succ_le_iff, Nat.le_div_iff_mul_le h, Nat.succ_mul]
  omega

theorem blocks_contiguous (length : Nat) {call : Nat} (h : 0 < call) :
    Contiguous 0 (blocks length call) length := by
  let bound (i : Nat) : Nat := min (i * call) length
  have hblock : ∀ i < (length + call - 1) / call,
      (⟨i * call, min call (length - i * call)⟩ : Span).offset = bound i ∧
      (⟨i * call, min call (length - i * call)⟩ : Span).stop = bound (i + 1) := by
    intro i hi
    rw [lt_blockCount_iff h] at hi
    simp only [bound, Span.stop, Nat.succ_mul]
    omega
  have hend : bound ((length + call - 1) / call) = length := by
    have := (lt_blockCount_iff h).not.mp (lt_irrefl ((length + call - 1) / call))
    simp only [bound]
    omega
  have hstart : bound 0 = 0 := by simp [bound]
  have hall := Contiguous.map_range hblock
  rw [hstart, hend] at hall
  exact hall

/-! ### Reading from a content -/

namespace Content

theorem size_readAt (content : ByteArray) (offset length : Nat) :
    (readAt content offset length).size = min length (content.size - offset) := by
  simp only [readAt, ByteArray.size_extract]
  omega

theorem octet_readAt (content : ByteArray) (offset length i : Nat) :
    octet (readAt content offset length) i =
      if i < length then octet content (offset + i) else 0 := by
  simp only [readAt, octet_extract, Nat.add_lt_add_iff_left]

theorem readAt_append (content : ByteArray) (offset m n : Nat) :
    readAt content offset m ++ readAt content (offset + m) n = readAt content offset (m + n) := by
  have h := ByteArray.extract_eq_extract_append_extract (a := content) (offset + m)
    (Nat.le_add_right offset m) (Nat.le_add_right (offset + m) n)
  rw [Nat.add_assoc] at h
  simp only [readAt]
  rw [h, Nat.add_assoc]

/-- Nothing follows a read that falls short. -/
theorem readAt_of_short {content : ByteArray} {offset m : Nat}
    (h : (readAt content offset m).size < m) (n : Nat) :
    readAt content offset (m + n) = readAt content offset m := by
  rw [size_readAt] at h
  rw [← readAt_append]
  have hsize : (readAt content (offset + m) n).size = 0 := by
    rw [size_readAt]
    omega
  rw [ByteArray.size_eq_zero_iff.mp hsize, ByteArray.append_empty]

end Content

namespace Worker

variable {w : Worker} {file buffer data : ByteArray} {base start stop : Nat} {bs : List Span}

theorem copyInto_eq_writeAt {offset : Nat} (h : offset ≤ buffer.size) (data : ByteArray) :
    copyInto buffer offset data = Content.writeAt buffer offset data := by
  have hgrow : Content.growTo buffer offset = buffer := if_pos h
  unfold Content.writeAt
  split_ifs with hdata
  · refine ext_octet ?_ fun i _ => ?_
    · rw [copyInto, size_copySlice h]
      omega
    · rw [copyInto, octet_copySlice h, if_neg (by omega)]
  · rw [hgrow]
    rfl

/-! ### Reading in blocks -/

/-- One block that the file fills, and then the rest of the extent, are the whole of it. -/
theorem writeAt_readAt_block {b : Span} (hle : b.stop ≤ stop)
    (hfull : (Content.readAt file (base + b.offset) b.length).size = b.length) :
    Content.writeAt
        (Content.writeAt buffer b.offset (Content.readAt file (base + b.offset) b.length)) b.stop
        (Content.readAt file (base + b.stop) (stop - b.stop)) =
      Content.writeAt buffer b.offset (Content.readAt file (base + b.offset) (stop - b.offset)) := by
  have hstop : b.stop = b.offset + b.length := rfl
  have hnext : b.stop = b.offset + (Content.readAt file (base + b.offset) b.length).size := by
    rw [hfull, hstop]
  have hplace : base + b.stop = base + b.offset + b.length := by omega
  have hsplit : stop - b.offset = b.length + (stop - b.stop) := by omega
  rw [hsplit, ← Content.readAt_append, ← Content.writeAt_writeAt, ← hnext, hplace]

/-- Reading adjacent blocks is reading all of them at once, up to the end of the file. -/
theorem readBlocks_eq (h : Contiguous start bs stop) (hrange : base + stop ≤ maxOffset)
    (hbuffer : stop ≤ buffer.size) (moved : Nat) :
    w.readBlocks (.content file) base buffer moved bs =
      .ok (moved + (Content.readAt file (base + start) (stop - start)).size,
        Content.writeAt buffer start (Content.readAt file (base + start) (stop - start))) := by
  induction h generalizing buffer moved with
  | nil start =>
    have hsize : (Content.readAt file (base + start) (start - start)).size = 0 := by
      rw [Content.size_readAt]
      omega
    rw [Content.writeAt_empty _ _ hsize, hsize]
    rfl
  | @cons b rest stop hrest ih =>
    have hle := hrest.le
    have hstop : b.stop = b.offset + b.length := rfl
    have hin : ¬ maxOffset < base + b.offset + b.length := by omega
    have hcopy := copyInto_eq_writeAt (show b.offset ≤ buffer.size by omega)
      (Content.readAt file (base + b.offset) b.length)
    have hsize := Content.size_readAt file (base + b.offset) b.length
    simp only [readBlocks, Slot.Readable.readAt, if_neg hin, hcopy]
    split_ifs with hshort
    · -- the file ends in this block, so the blocks after it add nothing
      have hsplit : stop - b.offset = b.length + (stop - b.stop) := by omega
      rw [hsplit, Content.readAt_of_short hshort]
    · have hcount : (Content.readAt file (base + b.offset) b.length).size +
          (Content.readAt file (base + b.stop) (stop - b.stop)).size =
          (Content.readAt file (base + b.offset) (stop - b.offset)).size := by
        simp only [Content.size_readAt] at hshort ⊢
        omega
      rw [ih hrange (hbuffer.trans (Content.size_le_writeAt _ _ _)),
        writeAt_readAt_block hle (by omega), Nat.add_assoc, hcount]

/-- Reading adjacent blocks fails at some block, if the file holds them but no call can address their
end. -/
theorem readBlocks_beyond (h : Contiguous start bs stop) (hpos : start < stop)
    (hfile : base + stop ≤ file.size) (hbeyond : maxOffset < base + stop) (moved : Nat) :
    ∃ b ∈ bs, w.readBlocks (.content file) base buffer moved bs =
      .error (fail (.readAt b.length (base + b.offset) w.path) .badOffset) := by
  induction h generalizing buffer moved with
  | nil => omega
  | @cons b rest stop hrest ih =>
    have hle := hrest.le
    have hstop : b.stop = b.offset + b.length := rfl
    by_cases hin : maxOffset < base + b.offset + b.length
    · refine ⟨b, List.mem_cons_self, ?_⟩
      simp only [readBlocks, Slot.Readable.readAt, if_pos hin]
    · -- the end lies behind this block, which the file fills
      have hfull : ¬ (Content.readAt file (base + b.offset) b.length).size < b.length := by
        rw [Content.size_readAt]
        omega
      obtain ⟨c, hc, herror⟩ := ih (by omega) hfile hbeyond
        (moved + (Content.readAt file (base + b.offset) b.length).size)
      refine ⟨c, List.mem_cons_of_mem b hc, ?_⟩
      simp only [readBlocks, Slot.Readable.readAt, if_neg hin, if_neg hfull]
      exact herror

/-- Whatever calls can address, blocks that are read move no more than the file holds of them. -/
theorem moved_readBlocks_le (h : Contiguous start bs stop) {moved found : Nat} {filled : ByteArray}
    (hread : w.readBlocks (.content file) base buffer moved bs = .ok (found, filled)) :
    found ≤ moved + min (stop - start) (file.size - (base + start)) := by
  induction h generalizing buffer moved with
  | nil =>
    obtain ⟨rfl, -⟩ := Prod.mk.inj (Except.ok.inj hread)
    exact Nat.le_add_right _ _
  | @cons b rest stop hrest ih =>
    have hle := hrest.le
    have hstop : b.stop = b.offset + b.length := rfl
    have hsize := Content.size_readAt file (base + b.offset) b.length
    by_cases hin : maxOffset < base + b.offset + b.length
    · simp only [readBlocks, Slot.Readable.readAt, if_pos hin] at hread
      cases hread
    · simp only [readBlocks, Slot.Readable.readAt, if_neg hin] at hread
      split_ifs at hread with hshort
      · obtain ⟨rfl, -⟩ := Prod.mk.inj (Except.ok.inj hread)
        omega
      · have hrest := ih hread
        omega

/-- Filling adjacent blocks is reading all of them at once, if the file holds them. -/
theorem fillBlocks_eq (h : Contiguous start bs stop) (hrange : base + stop ≤ maxOffset)
    (hfile : start = stop ∨ base + stop ≤ file.size) (hbuffer : stop ≤ buffer.size) :
    w.fillBlocks (.content file) base buffer bs =
      .ok (Content.writeAt buffer start (Content.readAt file (base + start) (stop - start))) := by
  induction h generalizing buffer with
  | nil start =>
    have hsize : (Content.readAt file (base + start) (start - start)).size = 0 := by
      rw [Content.size_readAt]
      omega
    rw [Content.writeAt_empty _ _ hsize]
    rfl
  | @cons b rest stop hrest ih =>
    have hle := hrest.le
    have hstop : b.stop = b.offset + b.length := rfl
    have hin : ¬ maxOffset < base + b.offset + b.length := by omega
    have hcopy := copyInto_eq_writeAt (show b.offset ≤ buffer.size by omega)
      (Content.readAt file (base + b.offset) b.length)
    have hfull : (Content.readAt file (base + b.offset) b.length).size = b.length := by
      rw [Content.size_readAt]
      omega
    simp only [fillBlocks, Slot.Readable.readAt, if_neg hin, hcopy, hfull, lt_irrefl, if_false]
    rw [ih hrange (by omega) (hbuffer.trans (Content.size_le_writeAt _ _ _)),
      writeAt_readAt_block hle hfull]

/-- Whether a block is not wholly inside the file. -/
def leavesFile (file : ByteArray) (base : Nat) (b : Span) : Bool :=
  decide (0 < b.length ∧ file.size < base + b.stop)

/-- Filling adjacent blocks fails at the first one that is not wholly inside the file, if the file
ends before all of them do. -/
theorem fillBlocks_short (h : Contiguous start bs stop) (hrange : base + stop ≤ maxOffset)
    (hpos : start < stop) (hfile : file.size < base + stop) :
    ∃ b, bs.find? (leavesFile file base) = some b ∧ w.fillBlocks (.content file) base buffer bs =
      .error (fail (.readBlock b.length (base + b.offset) w.path) .shortFile) := by
  induction h generalizing buffer with
  | nil => omega
  | @cons b rest stop hrest ih =>
    have hle := hrest.le
    have hstop : b.stop = b.offset + b.length := rfl
    have hin : ¬ maxOffset < base + b.offset + b.length := by omega
    have hleaves : (Content.readAt file (base + b.offset) b.length).size < b.length ↔
        leavesFile file base b = true := by
      rw [leavesFile, decide_eq_true_iff, Content.size_readAt]
      omega
    simp only [fillBlocks, Slot.Readable.readAt, if_neg hin]
    split_ifs with hshort
    · exact ⟨b, List.find?_cons_of_pos (hleaves.mp hshort), rfl⟩
    · have hinside : leavesFile file base b = false :=
        Bool.eq_false_iff.mpr fun hleave => hshort (hleaves.mpr hleave)
      rw [Content.size_readAt] at hshort
      obtain ⟨c, hc, herror⟩ := ih hrange (by omega) hfile
      refine ⟨c, ?_, herror⟩
      rw [List.find?_cons_of_neg (by simp [hinside])]
      exact hc

/-! ### Reading a span -/

variable {span : Span}

/-- **A read moves what the file holds of its span** to the front of the buffer, and leaves the
rest of the buffer as it was; a buffered one needs the file to hold the whole span. -/
theorem read_eq (page : PageSize) (hsize : buffer.size = span.length)
    (hrange : span.stop ≤ maxOffset)
    (hfile : w.strategy = .buffered → span.length = 0 ∨ span.stop ≤ file.size) :
    w.read (.file file) span buffer page =
      .ok (min span.length (file.size - span.offset),
        Content.writeAt buffer 0 (Content.readAt file span.offset span.length)) := by
  have hstop : span.stop = span.offset + span.length := rfl
  have hblocks (ceiling : Nat) : Contiguous 0
      (blocks span.length (callSize w.blockSize ceiling span.length)) span.length :=
    blocks_contiguous span.length (callSize_pos _ _ _)
  rw [read, if_neg (not_not.mpr hsize)]
  rcases hs : w.strategy with - | - | -
  · -- buffered
    have hfill : w.fillBlocks (.content file) span.offset buffer
        (blocks span.length (callSize w.blockSize anySize span.length)) = _ :=
      fillBlocks_eq (hblocks anySize) hrange ((hfile hs).imp_left Eq.symm) hsize.ge
    have hseek : ¬ maxOffset < span.offset := by omega
    have hmoved : min span.length (file.size - span.offset) = span.length := by
      have := hfile hs
      omega
    simp only [readBuffered, Slot.openRead, if_neg hseek, hfill, Except.map, hmoved, Nat.add_zero,
      Nat.sub_zero]
  · -- unbuffered
    have hread : w.readBlocks (.content file) span.offset buffer 0
        (blocks span.length (callSize w.blockSize maxChunk span.length)) = _ :=
      readBlocks_eq (hblocks maxChunk) hrange hsize.ge 0
    simp only [readUnbuffered, Slot.openRead, hread, Nat.add_zero, Nat.zero_add, Nat.sub_zero,
      Content.size_readAt]
  · -- mapped
    have hclip : Content.readAt file span.offset (min (file.size - span.offset) span.length) =
        Content.readAt file span.offset span.length := by
      refine ext_octet ?_ fun i hi => ?_
      · simp only [Content.size_readAt]
        omega
      · rw [Content.size_readAt] at hi
        rw [Content.octet_readAt, Content.octet_readAt, if_pos (by omega), if_pos (by omega)]
    have hnone (h : min span.length (file.size - span.offset) = 0) :
        Content.writeAt buffer 0 (Content.readAt file span.offset span.length) = buffer :=
      Content.writeAt_empty _ _ ((Content.size_readAt _ _ _).trans h)
    simp only [readMapped, Slot.openRead, Slot.Readable.size, hclip]
    rw [Nat.min_comm (file.size - span.offset)]
    split_ifs with hlen havail
    · rw [hnone (by omega), hlen, Nat.zero_min]
    · rw [hnone havail, havail]
    · rw [copyInto_eq_writeAt (Nat.zero_le _)]

/-- **A buffered read of more than the file holds fails** at the first of its blocks that is not
wholly inside the file. -/
theorem read_buffered_short (page : PageSize) (hs : w.strategy = .buffered)
    (hsize : buffer.size = span.length) (hrange : span.stop ≤ maxOffset) (hpos : 0 < span.length)
    (hfile : file.size < span.stop) :
    ∃ b : Span, (blocks span.length (callSize w.blockSize anySize span.length)).find?
        (leavesFile file span.offset) = some b ∧
      w.read (.file file) span buffer page =
        .error (fail (.readBlock b.length (span.offset + b.offset) w.path) .shortFile) := by
  have hstop : span.stop = span.offset + span.length := rfl
  have hseek : ¬ maxOffset < span.offset := by omega
  obtain ⟨b, hb, hfill⟩ : ∃ b, (blocks span.length _).find? (leavesFile file span.offset) = some b ∧
      w.fillBlocks (.content file) span.offset buffer
        (blocks span.length (callSize w.blockSize anySize span.length)) = _ :=
    fillBlocks_short (blocks_contiguous _ (callSize_pos _ _ _)) hrange hpos hfile
  refine ⟨b, hb, ?_⟩
  simp only [read, if_neg (not_not.mpr hsize), hs, readBuffered, Slot.openRead, if_neg hseek, hfill,
    Except.map]

/-- An unbuffered read fails, if the file holds its span but no call can address the end of it. -/
theorem read_unbuffered_beyond (page : PageSize) (hs : w.strategy = .unbuffered)
    (hsize : buffer.size = span.length) (hpos : 0 < span.length) (hfile : span.stop ≤ file.size)
    (hbeyond : maxOffset < span.stop) :
    ∃ b : Span, w.read (.file file) span buffer page =
      .error (fail (.readAt b.length (span.offset + b.offset) w.path) .badOffset) := by
  obtain ⟨b, -, hread⟩ : ∃ b ∈ blocks span.length (callSize w.blockSize maxChunk span.length),
      w.readBlocks (.content file) span.offset buffer 0 _ = _ :=
    readBlocks_beyond (blocks_contiguous _ (callSize_pos _ _ _)) hpos hfile hbeyond 0
  refine ⟨b, ?_⟩
  simp only [read, if_neg (not_not.mpr hsize), hs, readUnbuffered, Slot.openRead, hread]

/-- An unbuffered read moves no more than the file holds of its span. -/
theorem moved_read_unbuffered_le {page : PageSize} (hs : w.strategy = .unbuffered) {found : Nat}
    {filled : ByteArray}
    (hread : w.read (.file file) span buffer page = .ok (found, filled)) :
    found ≤ min span.length (file.size - span.offset) := by
  unfold read at hread
  split_ifs at hread
  simp only [hs, readUnbuffered, Slot.openRead] at hread
  have hle := moved_readBlocks_le (blocks_contiguous _ (callSize_pos _ _ _)) hread
  simpa only [Nat.zero_add, Nat.sub_zero, Nat.add_zero] using hle

/-! ### Writing a span -/

/-- Writing adjacent blocks is writing all of them at once. -/
theorem writeBlocks_eq (h : Contiguous start bs stop) (hdata : stop ≤ data.size)
    (content : ByteArray) :
    writeBlocks data base content bs =
      Content.writeAt content (base + start) (data.extract start stop) := by
  induction h generalizing content with
  | nil start =>
    rw [ByteArray.extract_same, Content.writeAt_empty _ _ ByteArray.size_empty]
    rfl
  | @cons b rest stop hrest ih =>
    have hle := hrest.le
    have hstop : b.stop = b.offset + b.length := rfl
    have hsize : (data.extract b.offset b.stop).size = b.length := by
      rw [ByteArray.size_extract]
      omega
    have hnext : base + b.stop = base + b.offset + (data.extract b.offset b.stop).size := by
      omega
    have hcut : data.extract b.offset stop =
        data.extract b.offset b.stop ++ data.extract b.stop stop :=
      ByteArray.extract_eq_extract_append_extract b.stop (by omega) hle
    have hfirst : writeBlocks data base content (b :: rest) =
        writeBlocks data base (Content.writeAt content (base + b.offset) (b.slice data)) rest := rfl
    rw [hfirst, ih hdata, hcut, ← Content.writeAt_writeAt, hnext]
    rfl

/-- **A write puts its data into the file** and grows it as far as needed; a write through a
mapping needs a file that reaches far enough already. -/
theorem write_eq {slot : Slot} {old : ByteArray} (hslot : slot.Holds old)
    (hsize : data.size = span.length) (hrange : span.stop ≤ maxOffset)
    (hmapped : w.strategy = .mapped → slot = .file old ∧ span.stop ≤ old.size) :
    w.write slot span data =
      (.ok span.length, .file (Content.writeAt old span.offset data)) := by
  have hall : data.extract 0 span.length = data := extract_of_size_le hsize.le
  have hcreate (ceiling : Nat) (action : FileAction) :
      w.writeCreate slot span data (callSize w.blockSize ceiling span.length) action =
        (.ok span.length, .file (Content.writeAt old span.offset data)) := by
    have hblocks := blocks_contiguous span.length (callSize_pos w.blockSize ceiling span.length)
    have hwrite : writeBlocks data span.offset old _ = _ := writeBlocks_eq hblocks hsize.ge old
    rw [hall, Nat.add_zero] at hwrite
    have hin : ¬(maxOffset < span.stop ∧ (0 < span.length ∨ w.strategy = .buffered)) :=
      fun h => absurd h.1 (not_lt.mpr hrange)
    simp only [writeCreate, hslot.openCreate, if_neg hin, hwrite]
  rw [write, if_neg (not_not.mpr hsize)]
  rcases hs : w.strategy with - | - | -
  · exact hcreate anySize _
  · exact hcreate maxChunk _
  · obtain ⟨rfl, hreach⟩ := hmapped hs
    have hfit : span.offset + data.size ≤ old.size := by rw [hsize]; exact hreach
    simp only [writeMapped, Slot.openUpdate, Content.overwrite_eq_writeAt hfit]
    split_ifs with hlen
    · rw [Content.writeAt_empty _ _ (hsize.trans hlen), hlen]
    · rfl

end Worker

end StripeTransfer
