/-
StripeTransfer/Proofs/Files/Content.lean

What writes do to the content of a file.  `Content.writeAt` changes the bytes it
writes and grows the file up to their end; what lies between the old end and the
write becomes zero, which is what it was in the view of octets already.

A list of patches is a sequence of writes.  If all of them are cut from one
source, the order in which they are written does not matter, and neither does it
whether they overlap (`Content.octet_patch`, `Content.size_patch_le_iff`).
-/
import StripeTransfer.Files.Slot
import StripeTransfer.Proofs.Bytes
import StripeTransfer.Proofs.Extent.Contiguous
import Mathlib

namespace StripeTransfer

namespace Content

variable {content : ByteArray} {offset size : Nat} {data : ByteArray}

/-! ### Growing -/

theorem size_growTo (content : ByteArray) (size : Nat) :
    (growTo content size).size = max content.size size := by
  unfold growTo
  split_ifs with h
  · omega
  · simp only [ByteArray.size_append, size_zeros]
    omega

@[simp] theorem octet_growTo (content : ByteArray) (size i : Nat) :
    octet (growTo content size) i = octet content i := by
  unfold growTo
  split_ifs with h
  · rfl
  · rw [octet_append, octet_zeros]
    split_ifs with hi
    · rfl
    · exact (octet_of_le (by omega)).symm

theorem resize_eq_growTo (h : content.size ≤ size) : resize content size = growTo content size := by
  unfold resize
  split_ifs with hle
  · rw [growTo, if_pos hle]
    exact extract_of_size_le h
  · rfl

theorem size_resize (content : ByteArray) (size : Nat) : (resize content size).size = size := by
  unfold resize
  split_ifs with hle
  · rw [ByteArray.size_extract]
    omega
  · rw [size_growTo]
    omega

/-! ### Writing -/

theorem size_writeAt (content : ByteArray) (offset : Nat) (data : ByteArray) :
    (writeAt content offset data).size =
      if data.size = 0 then content.size else max content.size (offset + data.size) := by
  unfold writeAt
  split_ifs with h
  · rfl
  · rw [size_copySlice (by rw [size_growTo]; omega), size_growTo]
    omega

theorem octet_writeAt (content : ByteArray) (offset : Nat) (data : ByteArray) (i : Nat) :
    octet (writeAt content offset data) i =
      if offset ≤ i ∧ i < offset + data.size then octet data (i - offset) else octet content i := by
  unfold writeAt
  split_ifs with h hi hi
  · omega
  · rfl
  · rw [octet_copySlice (by rw [size_growTo]; omega), if_pos hi]
  · rw [octet_copySlice (by rw [size_growTo]; omega), if_neg hi, octet_growTo]

theorem size_le_writeAt (content : ByteArray) (offset : Nat) (data : ByteArray) :
    content.size ≤ (writeAt content offset data).size := by
  rw [size_writeAt]
  split_ifs <;> omega

theorem writeAt_empty (content : ByteArray) (offset : Nat) (h : data.size = 0) :
    writeAt content offset data = content := if_pos h

/-- Two writes of which the second starts where the first stops are one write. -/
theorem writeAt_writeAt (content : ByteArray) (offset : Nat) (data more : ByteArray) :
    writeAt (writeAt content offset data) (offset + data.size) more =
      writeAt content offset (data ++ more) := by
  refine ext_octet ?_ fun i _ => ?_
  · simp only [size_writeAt, ByteArray.size_append]
    split_ifs <;> omega
  · simp only [octet_writeAt, ByteArray.size_append, octet_append]
    by_cases hmore : offset + data.size ≤ i ∧ i < offset + data.size + more.size
    · rw [if_pos hmore, if_pos (by omega), if_neg (by omega), Nat.sub_add_eq]
    · rw [if_neg hmore]
      by_cases hdata : offset ≤ i ∧ i < offset + data.size
      · rw [if_pos hdata, if_pos (by omega), if_pos (by omega)]
      · rw [if_neg hdata, if_neg (by omega)]

/-- A write into the leading bytes is a write into all of them. -/
theorem writeAt_lead {n : Nat} (hn : n ≤ content.size) (hdata : data.size ≤ n) :
    writeAt (content.extract 0 n) 0 data ++ content.extract n content.size =
      writeAt content 0 data := by
  have hlead : (writeAt (content.extract 0 n) 0 data).size = n := by
    rw [size_writeAt, ByteArray.size_extract]
    split_ifs <;> omega
  refine ext_octet ?_ fun i hi => ?_
  · rw [ByteArray.size_append, hlead, ByteArray.size_extract, size_writeAt]
    split_ifs <;> omega
  · rw [ByteArray.size_append, hlead, ByteArray.size_extract, Nat.min_self] at hi
    rw [octet_append, hlead, octet_writeAt, octet_writeAt, octet_extract, octet_extract,
      Nat.zero_add]
    by_cases hfront : i < n
    · rw [if_pos hfront, Nat.zero_add, if_pos hfront]
    · have hunwritten : ¬(0 ≤ i ∧ i < data.size) := by omega
      rw [if_neg hfront, if_pos (by omega), Nat.add_sub_cancel' (by omega), if_neg hunwritten]

/-- A write through a mapping is a plain write, if the file reaches far enough. -/
theorem overwrite_eq_writeAt (h : offset + data.size ≤ content.size) :
    overwrite content offset data = writeAt content offset data := by
  unfold overwrite
  rw [extract_of_size_le (by omega)]

/-- A write through a mapping leaves the size as it is. -/
theorem size_overwrite (content : ByteArray) (offset : Nat) (data : ByteArray) :
    (overwrite content offset data).size = content.size := by
  rw [overwrite, size_writeAt, ByteArray.size_extract]
  split_ifs <;> omega

end Content

/-! ### Sequences of writes -/

/-- Data and their place in a file. -/
structure Patch where
  offset : Nat
  data : ByteArray

/-- The bytes that a patch writes. -/
def Patch.span (p : Patch) : Span := ⟨p.offset, p.data.size⟩

/-- A patch that holds the bytes of a source at its place. -/
def Patch.From (source : Nat → UInt8) (p : Patch) : Prop :=
  ∀ i < p.data.size, octet p.data i = source (p.offset + i)

namespace Content

/-- The content after several writes, one after the other. -/
def patch (content : ByteArray) (patches : List Patch) : ByteArray :=
  patches.foldl (fun content p => writeAt content p.offset p.data) content

/-- **The bytes after writes that are cut from one source**: what some patch covers comes from the
source, and all else is as it was. -/
theorem octet_patch {source : Nat → UInt8} {patches : List Patch}
    (h : ∀ p ∈ patches, p.From source) (content : ByteArray) (i : Nat) :
    octet (patch content patches) i =
      if ∃ p ∈ patches, i ∈ p.span then source i else octet content i := by
  induction patches generalizing content with
  | nil => simp [patch]
  | cons p rest ih =>
    have hrest := ih (fun q hq => h q (List.mem_cons_of_mem p hq))
      (writeAt content p.offset p.data)
    have hfirst : octet (writeAt content p.offset p.data) i =
        if i ∈ p.span then source i else octet content i := by
      have hspan : (p.offset ≤ i ∧ i < p.offset + p.data.size) = (i ∈ p.span) := rfl
      rw [octet_writeAt]
      simp only [hspan]
      split_ifs with hi
      · have hlt : i - p.offset < p.data.size := Nat.sub_lt_left_of_lt_add hi.1 hi.2
        have hpos : p.offset + (i - p.offset) = i := Nat.add_sub_cancel' hi.1
        rw [h p List.mem_cons_self _ hlt, hpos]
      · rfl
    rw [hfirst] at hrest
    rw [show patch content (p :: rest) = patch (writeAt content p.offset p.data) rest from rfl,
      hrest]
    simp only [List.mem_cons, exists_eq_or_imp]
    -- a byte that is written twice gets the same value both times
    by_cases hp : i ∈ p.span <;> simp [hp]

/-- **The size after several writes**: it is the least one that holds what was there before and
all patches, empty ones apart. -/
theorem size_patch_le_iff {patches : List Patch} (content : ByteArray) (size : Nat) :
    (patch content patches).size ≤ size ↔
      content.size ≤ size ∧ ∀ p ∈ patches, 0 < p.data.size → p.span.stop ≤ size := by
  induction patches generalizing content with
  | nil => simp [patch]
  | cons p rest ih =>
    rw [show patch content (p :: rest) = patch (writeAt content p.offset p.data) rest from rfl,
      ih, size_writeAt]
    simp only [List.mem_cons, forall_eq_or_imp, Patch.span, Span.stop]
    split_ifs with hp
    · constructor
      · rintro ⟨hc, hrest⟩
        exact ⟨hc, fun hpos => by omega, hrest⟩
      · rintro ⟨hc, -, hrest⟩
        exact ⟨hc, hrest⟩
    · rw [Nat.max_le, and_assoc]
      exact and_congr_right fun _ =>
        and_congr_left fun _ => ⟨fun h _ => h, fun h => h (Nat.pos_of_ne_zero hp)⟩

end Content

/-! ### Paths that hold a file -/

/-- A path at which there is a file of this content, or at which an empty file can be created. -/
inductive Slot.Holds : Slot → ByteArray → Prop
  | vacant : Holds .vacant ByteArray.empty
  | file (content : ByteArray) : Holds (.file content) content

theorem Slot.Holds.openCreate {slot : Slot} {content : ByteArray} (h : slot.Holds content) :
    slot.openCreate = .ok content := by
  cases h <;> rfl

end StripeTransfer
