/-
StripeTransfer/Proofs/Text/Ascii.lean

The octets of ASCII characters.  Each of these characters has one octet, its number
(`Text.octets_ofList`), so texts of them are ordered as their octets are.
-/
import StripeTransfer.Proofs.Bytes
import StripeTransfer.Text.Utf8
import Mathlib

namespace StripeTransfer.Text

theorem toNat_toUInt8 {c : Char} (h : c.toNat < 128) : c.toUInt8.toNat = c.toNat :=
  Nat.mod_eq_of_lt (h.trans (by decide))

/-- The octets of a text of ASCII characters are the numbers of these. -/
theorem octets_ofList {s : List Char} (h : ∀ c ∈ s, c.toNat < 128) :
    octets (String.ofList s) = s.map Char.toUInt8 := by
  have hchar (c : Char) (hc : c ∈ s) : String.utf8EncodeChar c = [c.toUInt8] := by
    have hsize : c.utf8Size = 1 := by
      rw [Char.utf8Size_eq_one_iff, UInt32.le_iff_toNat_le]
      exact Nat.le_of_lt_succ (h c hc)
    exact String.utf8EncodeChar_eq_singleton hsize
  rw [octets, toList_eq_data, String.toUTF8, String.toByteArray_ofList, List.utf8Encode,
    List.data_toByteArray, List.toList_toArray, List.flatMap_congr hchar, List.map_eq_flatMap]

/-- Texts of ASCII characters are ordered as their octets are. -/
theorem map_toUInt8_lt {s t : List Char} (hs : ∀ c ∈ s, c.toNat < 128)
    (ht : ∀ c ∈ t, c.toNat < 128) (h : s < t) : s.map Char.toUInt8 < t.map Char.toUInt8 := by
  induction h with
  | nil => exact List.Lex.nil
  | @rel a l b l' hlt =>
    refine List.Lex.rel (UInt8.lt_iff_toNat_lt.mpr ?_)
    rw [toNat_toUInt8 (hs a List.mem_cons_self), toNat_toUInt8 (ht b List.mem_cons_self)]
    exact hlt
  | @cons a l l' _ ih =>
    exact List.Lex.cons (ih (fun c hc => hs c (List.mem_cons_of_mem a hc))
      fun c hc => ht c (List.mem_cons_of_mem a hc))

end StripeTransfer.Text
