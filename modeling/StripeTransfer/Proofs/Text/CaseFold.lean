/-
StripeTransfer/Proofs/Text/CaseFold.lean

How a letter may be written where case is disregarded: small or capital, and for
two letters in one more way each, the Kelvin sign for `k` and the long `s` for `s`
(`Text.sameFold_iff`).  Folding sends no other character outside ASCII to a letter.
-/
import StripeTransfer.Text.Ascii
import StripeTransfer.Text.CaseFold
import Mathlib

namespace StripeTransfer.Text

variable {a c : Char}

/-- The ways to write a letter regardless of case. -/
def IsCaseOf (a c : Char) : Prop :=
  asciiLower c = asciiLower a ∨ (asciiLower a = 'k' ∧ c = '\u212a') ∨
    (asciiLower a = 's' ∧ c = '\u017f')

instance : Decidable (IsCaseOf a c) := inferInstanceAs (Decidable (_ ∨ _))

/-! ### ASCII -/

/-- What holds of the first 128 characters holds of ASCII. -/
theorem of_forall_ascii {P : Char → Prop} (h : ∀ n < 128, P (Char.ofNat n)) (hc : c.toNat < 128) :
    P c := by
  have hn := h c.toNat hc
  rwa [Char.ofNat_toNat] at hn

theorem toNat_lt_of_isLetter (h : isLetter a = true) : a.toNat < 128 := by
  have hle {x y : Char} (hxy : decide (x ≤ y) = true) : x.toNat ≤ y.toNat :=
    UInt32.le_iff_toNat_le.mp (of_decide_eq_true hxy)
  rw [isLetter, Bool.or_eq_true, Bool.and_eq_true, Bool.and_eq_true] at h
  rcases h with ⟨-, h⟩ | ⟨-, h⟩
  · exact lt_of_le_of_lt (hle h) (by decide)
  · exact lt_of_le_of_lt (hle h) (by decide)

/-- In ASCII, folding makes capitals small. -/
theorem fold_of_lt (h : c.toNat < 128) : fold c = asciiLower c :=
  of_forall_ascii (P := fun c => fold c = asciiLower c) (by decide +kernel) h

/-- The codes of small letters. -/
theorem toNat_asciiLower (h : isLetter a = true) :
    97 ≤ (asciiLower a).toNat ∧ (asciiLower a).toNat ≤ 122 :=
  of_forall_ascii (P := fun a => isLetter a = true →
    97 ≤ (asciiLower a).toNat ∧ (asciiLower a).toNat ≤ 122) (by decide +kernel)
    (toNat_lt_of_isLetter h) h

/-- Only capitals have a small letter of their own. -/
theorem asciiLower_of_le (h : 128 ≤ c.toNat) : asciiLower c = c := by
  rw [asciiLower, if_neg]
  rintro ⟨-, hle⟩
  have hz : c.toNat ≤ 'Z'.toNat := UInt32.le_iff_toNat_le.mp hle
  exact absurd (h.trans hz) (by decide)

/-! ### Outside of ASCII -/

/-- A character is its own folded form, or there is a row for it. -/
theorem fold_cases (c : Char) : fold c = c ∨ ∃ lo hi step shift, (lo, hi, step, shift) ∈ foldRows ∧
    lo ≤ c.toNat ∧ c.toNat ≤ hi ∧ fold c = Char.ofNat ((c.toNat : Int) + shift).toNat := by
  simp only [fold]
  split
  next row lo hi step shift hrow =>
    have hrange := List.find?_some hrow
    simp only [Bool.and_eq_true, decide_eq_true_eq] at hrange
    exact .inr ⟨lo, hi, step, shift, List.mem_of_find?_eq_some hrow, hrange.1.1, hrange.1.2, rfl⟩
  next => exact .inl rfl

/-- Apart from two rows, the table leads from outside of ASCII to outside of ASCII. -/
theorem row_cases : ∀ row ∈ foldRows, 128 ≤ row.2.1 → row = (383, 383, 1, -268) ∨
    row = (8490, 8490, 1, -8383) ∨ 128 ≤ (row.1 : Int) + row.2.2.2 := by
  decide +kernel

/-- Apart from two signs, no character outside of ASCII is folded to a letter. -/
theorem fold_of_le (h : 128 ≤ c.toNat) (hkelvin : c ≠ '\u212a') (hlong : c ≠ '\u017f') :
    128 ≤ (fold c).toNat ∨ fold c = '\x00' := by
  rcases fold_cases c with hc | ⟨lo, hi, step, shift, hmem, hlo, hhi, hfold⟩
  · rw [hc]
    exact .inl h
  · rcases row_cases _ hmem (h.trans hhi) with heq | heq | hshift
    · cases heq
      have hcode : c.toNat = '\u017f'.toNat := le_antisymm hhi hlo
      exact absurd (Char.toNat_inj.mp hcode) hlong
    · cases heq
      have hcode : c.toNat = '\u212a'.toNat := le_antisymm hhi hlo
      exact absurd (Char.toNat_inj.mp hcode) hkelvin
    · rw [hfold]
      by_cases hvalid : ((c.toNat : Int) + shift).toNat.isValidChar
      · left
        rw [Char.toNat_ofNat, if_pos hvalid]
        simp only at hshift
        omega
      · right
        rw [Char.ofNat, dif_neg hvalid]
        rfl

/-- **A letter agrees with the ways to write it** and with nothing else. -/
theorem sameFold_iff (h : isLetter a = true) : sameFold a c = true ↔ IsCaseOf a c := by
  obtain ⟨hlo, hhi⟩ := toNat_asciiLower h
  rw [sameFold, beq_iff_eq, fold_of_lt (toNat_lt_of_isLetter h), IsCaseOf]
  have hne {x : Char} (hx : 128 ≤ x.toNat) : x ≠ asciiLower a := by
    rintro rfl
    omega
  by_cases hc : c.toNat < 128
  · have hkelvin : c ≠ '\u212a' := by rintro rfl; exact absurd hc (by decide)
    have hlong : c ≠ '\u017f' := by rintro rfl; exact absurd hc (by decide)
    simp [fold_of_lt hc, hkelvin, hlong, eq_comm]
  · have hle := not_lt.mp hc
    rw [asciiLower_of_le hle, or_iff_right (hne hle)]
    by_cases hkelvin : c = '\u212a'
    · subst hkelvin
      have hfold : fold '\u212a' = 'k' := by decide +kernel
      simp [hfold]
    · by_cases hlong : c = '\u017f'
      · subst hlong
        have hfold : fold '\u017f' = 's' := by decide +kernel
        simp [hfold]
      · simp only [hkelvin, hlong, and_false, or_false, iff_false]
        intro heq
        rcases fold_of_le hle hkelvin hlong with hfold | hfold
        · rw [← heq] at hfold
          omega
        · rw [heq, hfold] at hlo
          exact absurd hlo (by decide)

end StripeTransfer.Text
