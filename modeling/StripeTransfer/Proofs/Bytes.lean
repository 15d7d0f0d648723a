/-
StripeTransfer/Proofs/Bytes.lean

Byte arrays as functions.  `octet b i` is the byte of `b` at `i`, and zero behind
the end of `b`; a byte array is given by its size and its octets
(`ext_octet`).  In this view the zeros that fill the gap before a far write are
not seen at all, and each operation on byte arrays has two lemmas: one for the
size, one for the octets.
-/
import StripeTransfer.Buffer
import Mathlib

namespace StripeTransfer

/-- The byte at `i`; zero behind the end. -/
def octet (b : ByteArray) (i : Nat) : UInt8 := b.data[i]?.getD 0

/-! ### The view -/

theorem getElem?_eq_octet {b : ByteArray} {i : Nat} (h : i < b.size) :
    b[i]? = some (octet b i) := by
  have hdata : i < b.data.size := h
  rw [getElem?_pos b i h, octet, getElem?_pos b.data i hdata]
  rfl

theorem octet_of_le {b : ByteArray} {i : Nat} (h : b.size ≤ i) : octet b i = 0 := by
  have hdata : b.data.size ≤ i := h
  rw [octet, Array.getElem?_eq_none hdata]
  rfl

/-- Byte arrays of one size with the same octets are equal. -/
theorem ext_octet {a b : ByteArray} (hsize : a.size = b.size)
    (h : ∀ i < a.size, octet a i = octet b i) : a = b := by
  refine ByteArray.ext_getElem hsize fun i hi hi' => ?_
  have hi? := getElem?_eq_octet hi
  rw [h i hi, ← getElem?_eq_octet hi', getElem?_pos a i hi, getElem?_pos b i hi'] at hi?
  exact Option.some.inj hi?

/-! ### Operations -/

@[simp] theorem octet_empty (i : Nat) : octet ByteArray.empty i = 0 := octet_of_le (Nat.zero_le i)

@[simp] theorem size_zeros (size : Nat) : (Buffer.zeros size).size = size := by
  simp [Buffer.zeros, ByteArray.size]

@[simp] theorem octet_zeros (size i : Nat) : octet (Buffer.zeros size) i = 0 := by
  by_cases h : i < size <;> simp [octet, Buffer.zeros, h]

theorem octet_append (a b : ByteArray) (i : Nat) :
    octet (a ++ b) i = if i < a.size then octet a i else octet b (i - a.size) := by
  have hsize : a.data.size = a.size := rfl
  simp only [octet, ByteArray.data_append, Array.getElem?_append, hsize]
  split_ifs <;> rfl

theorem octet_extract (b : ByteArray) (start stop i : Nat) :
    octet (b.extract start stop) i = if start + i < stop then octet b (start + i) else 0 := by
  have hsize : b.data.size = b.size := rfl
  simp only [octet, ByteArray.data_extract, Array.getElem?_extract, hsize]
  split_ifs with hmin hstop hstop
  · rfl
  · omega
  · exact (octet_of_le (by omega : b.size ≤ start + i)).symm
  · rfl

theorem octet_push (b : ByteArray) (x : UInt8) (i : Nat) :
    octet (b.push x) i = if i = b.size then x else octet b i := by
  have hsize : b.data.size = b.size := rfl
  have hdata : (b.push x).data = b.data.push x := rfl
  simp only [octet, hdata, Array.getElem?_push, hsize]
  split_ifs <;> rfl

@[simp] theorem octet_ofFn {n : Nat} (f : Fin n → UInt8) {i : Nat} (h : i < n) :
    octet (ByteArray.ofFn f) i = f ⟨i, h⟩ := by
  simp [octet, h]

/-- Leading bytes, as many as asked for. -/
theorem size_lead {b : ByteArray} {size : Nat} (h : size ≤ b.size) :
    (b.extract 0 size).size = size := by
  rw [ByteArray.size_extract, Nat.min_eq_left h, Nat.sub_zero]

theorem extract_of_size_le {b : ByteArray} {size : Nat} (h : b.size ≤ size) :
    b.extract 0 size = b := by
  refine ext_octet (by simp only [ByteArray.size_extract]; omega) fun i hi => ?_
  rw [ByteArray.size_extract] at hi
  rw [octet_extract, Nat.zero_add, if_pos (by omega)]

/-! ### Copying one byte array into another -/

variable {src dest : ByteArray} {offset : Nat}

/-- Copying grows the destination as far as needed. -/
theorem size_copySlice (h : offset ≤ dest.size) :
    (src.copySlice 0 dest offset src.size).size = max dest.size (offset + src.size) := by
  have hsrc : src.data.size = src.size := rfl
  have hdest : dest.data.size = dest.size := rfl
  simp only [ByteArray.copySlice_eq_append, ByteArray.size_append, ByteArray.size_extract, hsrc,
    hdest]
  omega

/-- Copying changes the bytes that are copied, and no other. -/
theorem octet_copySlice (h : offset ≤ dest.size) (i : Nat) :
    octet (src.copySlice 0 dest offset src.size) i =
      if offset ≤ i ∧ i < offset + src.size then octet src (i - offset) else octet dest i := by
  have hsrc : src.data.size = src.size := rfl
  have hdest : dest.data.size = dest.size := rfl
  simp only [ByteArray.copySlice_eq_append, octet_append, octet_extract, ByteArray.size_append,
    ByteArray.size_extract, hsrc, hdest, Nat.zero_add, Nat.sub_zero, Nat.min_self,
    Nat.min_eq_left h]
  by_cases hbefore : i < offset
  · rw [if_pos (by omega), if_pos hbefore, if_pos hbefore, if_neg (by omega)]
  · by_cases hinside : i < offset + src.size
    · rw [if_pos hinside, if_neg hbefore, if_pos (by omega), if_pos (by omega)]
    · have hpos : offset + src.size + (i - (offset + src.size)) = i := by omega
      have hout : ¬(offset ≤ i ∧ i < offset + src.size) := by omega
      rw [if_neg hinside, hpos, if_neg hout]
      split_ifs with hend
      · rfl
      · exact (octet_of_le (by omega)).symm

/-! ### Lists of bytes -/

/-- The loop that makes a list of the bytes goes on from where it is. -/
theorem toList_loop (b : ByteArray) (i : Nat) (read : List UInt8) :
    ByteArray.toList.loop b i read = read.reverse ++ b.data.toList.drop i := by
  induction i, read using ByteArray.toList.loop.induct b with
  | case1 i read hlt ih =>
    have hdata : i < b.data.toList.length := hlt
    have hget : b.get! i = b.data.toList[i] := by
      rw [Array.getElem_toList]
      exact getElem!_pos b.data i hlt
    rw [ByteArray.toList.loop, if_pos hlt, ih, List.drop_eq_getElem_cons hdata, hget,
      List.reverse_cons, List.append_assoc, List.singleton_append]
  | case2 i read hge =>
    have hdata : b.data.toList.length ≤ i := not_lt.mp hge
    rw [ByteArray.toList.loop, if_neg hge, List.drop_of_length_le hdata, List.append_nil]

theorem toList_eq_data (b : ByteArray) : b.toList = b.data.toList := by
  rw [ByteArray.toList, toList_loop]
  rfl

theorem eq_of_toList_eq {a b : ByteArray} (h : a.toList = b.toList) : a = b := by
  rw [toList_eq_data, toList_eq_data] at h
  exact ByteArray.ext (Array.toList_inj.mp h)

end StripeTransfer
