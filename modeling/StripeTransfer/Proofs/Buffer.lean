/-
StripeTransfer/Proofs/Buffer.lean

Cutting up the shared buffer.  On adjacent spans, cutting by lengths and slicing
by offsets give the same pieces (`Buffer.splitSpans_eq`, `Buffer.mapM_slice?_eq`),
and the pieces put together are what the spans cover (`Buffer.join_slices`).
-/
import StripeTransfer.Proofs.Bytes
import StripeTransfer.Proofs.Extent.Plan
import Mathlib

namespace StripeTransfer.Buffer

variable {buffer : ByteArray} {start stop : Nat} {spans : List Span}

theorem octet_slice (s : Span) (buffer : ByteArray) (i : Nat) :
    octet (s.slice buffer) i = if i < s.length then octet buffer (s.offset + i) else 0 := by
  simp only [Span.slice, Span.stop, octet_extract, Nat.add_lt_add_iff_left]

theorem size_slice {s : Span} (h : s.stop ≤ buffer.size) : (s.slice buffer).size = s.length := by
  simp only [Span.slice, Span.stop, ByteArray.size_extract] at h ⊢
  omega

/-- Cutting adjacent spans off the front, one after the other. -/
theorem splitSpans_eq (h : Contiguous start spans stop) (hstop : stop ≤ buffer.size) :
    splitSpans (buffer.extract start buffer.size) spans =
      some (spans.map fun s => s.slice buffer) := by
  induction h with
  | nil => rfl
  | @cons s rest stop hrest ih =>
    have hle := hrest.le
    have hs : s.stop = s.offset + s.length := rfl
    have hsize : (buffer.extract s.offset buffer.size).size = buffer.size - s.offset := by
      rw [ByteArray.size_extract, Nat.min_self]
    have hfront : (buffer.extract s.offset buffer.size).extract 0 s.length = s.slice buffer := by
      rw [ByteArray.extract_extract, Nat.add_zero, Nat.min_eq_left (by omega)]
      rfl
    have hback : (buffer.extract s.offset buffer.size).extract s.length
        (buffer.size - s.offset) = buffer.extract s.stop buffer.size := by
      rw [ByteArray.extract_extract, Nat.min_eq_right (by omega), hs]
    rw [splitSpans, hsize, if_pos (by omega), hfront, hback, ih hstop]
    rfl

/-- Slices that stay within the buffer are all there. -/
theorem mapM_slice?_eq (h : ∀ s ∈ spans, s.stop ≤ buffer.size) :
    (spans.mapM fun s => s.slice? buffer) = some (spans.map fun s => s.slice buffer) := by
  induction spans with
  | nil => rfl
  | cons s rest ih =>
    have hs : s.slice? buffer = some (s.slice buffer) := if_pos (h s List.mem_cons_self)
    rw [List.mapM_cons, hs, ih fun t ht => h t (List.mem_cons_of_mem s ht)]
    rfl

/-- The slices of adjacent spans, put together. -/
theorem join_slices (h : Contiguous start spans stop) :
    join (spans.map fun s => s.slice buffer) = buffer.extract start stop := by
  have hfold : ∀ front, (spans.map fun s => s.slice buffer).foldl (· ++ ·) front =
      front ++ buffer.extract start stop := by
    induction h with
    | nil start =>
      intro front
      rw [ByteArray.extract_same, ByteArray.append_empty]
      rfl
    | @cons s rest stop hrest ih =>
      intro front
      have hcut : buffer.extract s.offset stop = s.slice buffer ++ buffer.extract s.stop stop :=
        ByteArray.extract_eq_extract_append_extract s.stop (Nat.le_add_right _ _) hrest.le
      rw [List.map_cons, List.foldl_cons, ih, hcut, ByteArray.append_assoc]
  rw [join, hfold, ByteArray.empty_append]

/-! ### Regions of a plan -/

variable {plan : Plan}

theorem split_eq (h : plan.Complete) (hsize : buffer.size = plan.extent) :
    split buffer plan = some (plan.spans.map fun s => s.slice buffer) := by
  have hsplit := splitSpans_eq h.contiguous hsize.ge
  rwa [ByteArray.extract_zero_size] at hsplit

theorem slices_eq (h : plan.Complete) (hsize : buffer.size = plan.extent) :
    slices buffer plan = some (plan.spans.map fun s => s.slice buffer) :=
  mapM_slice?_eq fun _ hs => hsize ▸ (h.contiguous.bounds hs).2

theorem join_eq (h : plan.Complete) (hsize : buffer.size = plan.extent) :
    join (plan.spans.map fun s => s.slice buffer) = buffer := by
  rw [join_slices h.contiguous, ← hsize, ByteArray.extract_zero_size]

end StripeTransfer.Buffer
