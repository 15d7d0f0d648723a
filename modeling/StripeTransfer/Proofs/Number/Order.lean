/-
StripeTransfer/Proofs/Number/Order.lean

Two orders on patterns.  The order of numbers is the machine's: it takes the two
zeros for equal, and a NaN is in no relation to anything.  The total order of the
standard (`Binary64.Precedes`) tells all patterns apart; the ranks by which lists
are sorted follow it (`Binary64.le_iff_precedes`).

Both come from one integer, the pattern without its sign bit, taken with its
sign: numbers compare as these integers do (`Binary64.compare_toFloat`).  So the
total order goes on from the order of numbers (`Binary64.precedes_of_lt`), with
the NaNs at its ends (`Binary64.precedes_of_isNaN`); and on numbers whose sign bit
is clear the two orders and the two equalities are the same
(`Binary64.numEq_iff_of_plain`, `Binary64.lt_iff_of_plain`).
-/
import StripeTransfer.Proofs.Number.Pattern
import Mathlib

namespace StripeTransfer.Binary64

open Float.Model
open Float.Model.UnpackedFloat (Sign)

variable {x y : Binary64}

/-! ### Patterns without a sign -/

/-- The pattern without its sign bit. -/
def magnitudeField (x : Binary64) : Nat := x.exponentField * fractions + x.fractionField

theorem magnitudeField_lt (x : Binary64) : x.magnitudeField < 2048 * fractions := by
  have hexponent := x.exponentField_lt
  have hfraction := x.fractionField_lt
  simp only [magnitudeField, fractions] at *
  omega

theorem toNat_bits (x : Binary64) : x.bits.toNat =
    (if x.isNegative then 2048 * fractions else 0) + x.magnitudeField := by
  have hlt := x.bits.toNat_lt
  have htop : (0x8000000000000000 : UInt64).toNat = 0x8000000000000000 := rfl
  simp only [isNegative, decide_eq_true_eq, UInt64.le_iff_toNat_le, htop, magnitudeField,
    exponentField, fractionField, fractions]
  split_ifs <;> omega

theorem rank_eq (x : Binary64) : x.rank =
    if x.isNegative then 2048 * fractions - 1 - x.magnitudeField
    else 2048 * fractions + x.magnitudeField := by
  have hlt := x.magnitudeField_lt
  rw [rank, toNat_bits]
  simp only [fractions] at *
  split_ifs <;> omega

theorem magnitudeField_of_isInfinite (h : x.isInfinite) :
    x.magnitudeField = 2047 * fractions := by
  simp only [isInfinite, Bool.and_eq_true, beq_iff_eq] at h
  rw [magnitudeField, h.1, h.2, Nat.add_zero]

theorem magnitudeField_le_of_not_isNaN (h : x.isNaN = false) :
    x.magnitudeField ≤ 2047 * fractions := by
  have hexponent := x.exponentField_lt
  have hfraction := x.fractionField_lt
  simp only [isNaN, Bool.and_eq_false_iff, beq_eq_false_iff_ne, bne_eq_false_iff_eq] at h
  simp only [magnitudeField, fractions] at *
  omega

theorem lt_magnitudeField_of_isNaN (h : x.isNaN) : 2047 * fractions < x.magnitudeField := by
  simp only [isNaN, Bool.and_eq_true, beq_iff_eq, bne_iff_ne] at h
  rw [magnitudeField, h.1]
  omega

theorem magnitudeField_eq_zero_iff (x : Binary64) :
    x.magnitudeField = 0 ↔ x.significand = 0 := by
  rw [significand_eq_zero_iff]
  simp only [magnitudeField, fractions]
  omega

theorem magnitudeField_lt_of_finite (h : x.exponentField ≠ 2047) :
    x.magnitudeField < 2047 * fractions := by
  have hexponent := x.exponentField_lt
  have hfraction := x.fractionField_lt
  simp only [magnitudeField, fractions] at *
  omega

/-! ### Numbers -/

/-- Significands with their exponents compare as the patterns do: the exponent is the leading part
of the pattern. -/
theorem compare_significands (x y : Binary64) :
    (compare x.leastExponent y.leastExponent).then (compare x.significand y.significand) =
      compare (x.magnitudeField : Int) y.magnitudeField := by
  have hx := x.fractionField_lt
  have hy := y.fractionField_lt
  have hsx : x.significand =
      if x.exponentField = 0 then x.fractionField else fractions + x.fractionField := rfl
  have hsy : y.significand =
      if y.exponentField = 0 then y.fractionField else fractions + y.fractionField := rfl
  have hex : x.leastExponent = ((x.exponentField - 1 : Nat) : Int) - 1074 := rfl
  have hey : y.leastExponent = ((y.exponentField - 1 : Nat) : Int) - 1074 := rfl
  apply Eq.symm
  simp only [magnitudeField, fractions] at *
  rcases lt_trichotomy x.leastExponent y.leastExponent with h | h | h
  · rw [compare_lt_iff_lt.mpr h, Ordering.lt_then, compare_lt_iff_lt]
    omega
  · -- the same exponent, or one that is zero in a pattern where the other has one
    rw [compare_eq_iff_eq.mpr h, Ordering.eq_then]
    rcases lt_trichotomy x.significand y.significand with hs | hs | hs
    · rw [compare_lt_iff_lt.mpr hs, compare_lt_iff_lt]
      split_ifs at hsx hsy <;> omega
    · rw [compare_eq_iff_eq.mpr hs, compare_eq_iff_eq]
      split_ifs at hsx hsy <;> omega
    · rw [compare_gt_iff_gt.mpr hs, compare_gt_iff_gt]
      split_ifs at hsx hsy <;> omega
  · rw [compare_gt_iff_gt.mpr h, Ordering.gt_then, compare_gt_iff_gt]
    omega

theorem compare_neg (k l : Int) : compare (-k) (-l) = compare l k := by
  rcases lt_trichotomy l k with h | h | h
  · rw [compare_lt_iff_lt.mpr h, compare_lt_iff_lt.mpr (Int.neg_lt_neg h)]
  · rw [compare_eq_iff_eq.mpr h, compare_eq_iff_eq.mpr (congrArg Neg.neg h.symm)]
  · rw [compare_gt_iff_gt.mpr h, compare_gt_iff_gt.mpr (Int.neg_lt_neg h)]

/-- The pattern without its sign bit, with its sign. -/
def signedField (x : Binary64) : Int := x.sign.apply x.magnitudeField

theorem signedField_eq (x : Binary64) : x.signedField =
    if x.isNegative then -(x.magnitudeField : Int) else x.magnitudeField := by
  unfold signedField sign
  split_ifs <;> rfl

/-- What a number is taken for in arithmetic, beside its pattern as a signed integer. -/
inductive Stands : UnpackedFloat → Int → Prop
  | infinity (s : Sign) : Stands (.infinity s) (s.apply (2047 * fractions : Nat))
  | zero (s : Sign) : Stands (.zero s) 0
  | finite (x : Binary64) (s : Sign) (h : x.exponentField ≠ 2047) (hpos : 0 < x.significand) :
      Stands (.finite s x.significand x.leastExponent hpos) (s.apply x.magnitudeField)

theorem stands (h : x.isNaN = false) : Stands x.toFloat.toModel.unpack x.signedField := by
  rw [unpack_toFloat, signedField]
  rcases cases_of_not_isNaN h with h | h | ⟨h, hpos⟩
  · rw [unpacked_of_isInfinite h, magnitudeField_of_isInfinite h]
    exact .infinity x.sign
  · rw [unpacked_of_significand_eq_zero h, (magnitudeField_eq_zero_iff x).mpr h]
    have hzero : x.sign.apply ((0 : Nat) : Int) = 0 := by cases x.sign <;> rfl
    rw [hzero]
    exact .zero x.sign
  · rw [unpacked_of_finite h hpos]
    exact .finite x x.sign h hpos

theorem some_lt_eq_compare {k l : Int} (h : k < l) : some Ordering.lt = some (compare k l) :=
  congrArg some (compare_lt_iff_lt.mpr h).symm

theorem some_gt_eq_compare {k l : Int} (h : l < k) : some Ordering.gt = some (compare k l) :=
  congrArg some (compare_gt_iff_gt.mpr h).symm

/-- Finite numbers of one sign. -/
theorem compare_finite (s : Sign) (hx : 0 < x.significand) (hy : 0 < y.significand) :
    UnpackedFloat.compare (.finite s x.significand x.leastExponent hx)
      (.finite s y.significand y.leastExponent hy) =
        some (compare (s.apply x.magnitudeField) (s.apply y.magnitudeField)) := by
  have hfields := compare_significands x y
  cases s with
  | positive => exact congrArg some hfields
  | negative =>
    have hswap : (compare (x.magnitudeField : Int) y.magnitudeField).swap =
        compare (-(x.magnitudeField : Int)) (-y.magnitudeField) := by
      rw [Int.compare_swap, compare_neg]
    exact congrArg some ((congrArg Ordering.swap hfields).trans hswap)

/-- Numbers compare as their signed patterns do. -/
theorem Stands.compare_eq {u v : UnpackedFloat} {k l : Int} (hu : Stands u k) (hv : Stands v l) :
    u.compare v = some (compare k l) := by
  cases hu with
  | infinity s =>
    cases hv with
    | infinity t => cases s <;> cases t <;> rfl
    | zero t => cases s <;> rfl
    | finite y t hy hpos =>
      have hlt := magnitudeField_lt_of_finite hy
      cases s with
      | negative => exact some_lt_eq_compare (by cases t <;> simp only [Sign.apply] <;> omega)
      | positive => exact some_gt_eq_compare (by cases t <;> simp only [Sign.apply] <;> omega)
  | zero s =>
    cases hv with
    | infinity t => cases t <;> rfl
    | zero t => rfl
    | finite y t hy hpos =>
      have hne := (magnitudeField_eq_zero_iff y).not.mpr hpos.ne'
      cases t with
      | negative => exact some_gt_eq_compare (by simp only [Sign.apply]; omega)
      | positive => exact some_lt_eq_compare (by simp only [Sign.apply]; omega)
  | finite x s hx hposx =>
    have hlt := magnitudeField_lt_of_finite hx
    have hne := (magnitudeField_eq_zero_iff x).not.mpr hposx.ne'
    cases hv with
    | infinity t =>
      have hinfinity : UnpackedFloat.compare (.finite s x.significand x.leastExponent hposx)
          (.infinity t) = match t with | .negative => some .gt | .positive => some .lt := by
        cases s <;> cases t <;> rfl
      rw [hinfinity]
      cases t with
      | negative => exact some_gt_eq_compare (by cases s <;> simp only [Sign.apply] <;> omega)
      | positive => exact some_lt_eq_compare (by cases s <;> simp only [Sign.apply] <;> omega)
    | zero t =>
      cases s with
      | negative => exact some_lt_eq_compare (by simp only [Sign.apply]; omega)
      | positive => exact some_gt_eq_compare (by simp only [Sign.apply]; omega)
    | finite y t hy hposy =>
      have hney := (magnitudeField_eq_zero_iff y).not.mpr hposy.ne'
      cases s with
      | negative =>
        cases t with
        | negative => exact compare_finite .negative hposx hposy
        | positive => exact some_lt_eq_compare (by simp only [Sign.apply]; omega)
      | positive =>
        cases t with
        | negative => exact some_gt_eq_compare (by simp only [Sign.apply]; omega)
        | positive => exact compare_finite .positive hposx hposy

/-- **The machine compares numbers as their signed patterns.** -/
theorem compare_toFloat (hx : x.isNaN = false) (hy : y.isNaN = false) :
    x.toFloat.toModel.unpack.compare y.toFloat.toModel.unpack =
      some (compare x.signedField y.signedField) := (stands hx).compare_eq (stands hy)

theorem compare_toFloat_of_isNaN (h : x.isNaN ∨ y.isNaN) :
    x.toFloat.toModel.unpack.compare y.toFloat.toModel.unpack = none := by
  rw [unpack_toFloat, unpack_toFloat]
  rcases h with h | h
  · rw [unpacked_of_isNaN h]
    cases y.unpacked <;> rfl
  · rw [unpacked_of_isNaN h]
    cases x.unpacked <;> rfl

theorem numEq_iff (hx : x.isNaN = false) (hy : y.isNaN = false) :
    x.numEq y ↔ x.signedField = y.signedField := by
  show (x.toFloat.toModel.unpack.compare y.toFloat.toModel.unpack == some .eq) = true ↔ _
  rw [compare_toFloat hx hy, beq_iff_eq, Option.some.injEq, compare_eq_iff_eq]

theorem toFloat_lt_iff_compare : x.toFloat < y.toFloat ↔
    x.toFloat.toModel.unpack.compare y.toFloat.toModel.unpack = some .lt := by
  have hlt : x.toFloat < y.toFloat ↔
      x.toFloat.toModel.unpack.compare y.toFloat.toModel.unpack == some .lt := decide_eq_true_iff
  rw [hlt, beq_iff_eq]

theorem toFloat_lt_iff (hx : x.isNaN = false) (hy : y.isNaN = false) :
    x.toFloat < y.toFloat ↔ x.signedField < y.signedField := by
  rw [toFloat_lt_iff_compare, compare_toFloat hx hy, Option.some.injEq, compare_lt_iff_lt]

theorem not_toFloat_lt_of_isNaN (h : x.isNaN ∨ y.isNaN) : ¬ x.toFloat < y.toFloat := by
  rw [toFloat_lt_iff_compare, compare_toFloat_of_isNaN h]
  exact nofun

/-! ### The total order -/

/-- The total order of the standard.  A set sign bit comes before a clear one; with a clear sign bit
the rest of the pattern decides, and with a set one it decides the other way round. -/
def Precedes (x y : Binary64) : Prop :=
  match x.isNegative, y.isNegative with
  | true, false => True
  | false, true => False
  | false, false => x.magnitudeField ≤ y.magnitudeField
  | true, true => y.magnitudeField ≤ x.magnitudeField

/-- **Ranks follow the total order.** -/
theorem le_iff_precedes : x.le y ↔ x.Precedes y := by
  have hx := x.magnitudeField_lt
  have hy := y.magnitudeField_lt
  simp only [le, decide_eq_true_eq, rank_eq, Precedes]
  cases x.isNegative <;> cases y.isNegative <;> simp only [if_true, if_false, Bool.false_eq_true,
    iff_true, iff_false] <;> omega

instance : DecidableRel Precedes := fun _ _ => decidable_of_iff _ le_iff_precedes

theorem Precedes.refl (x : Binary64) : x.Precedes x :=
  le_iff_precedes.mp (decide_eq_true (Nat.le_refl x.rank))

theorem Precedes.antisymm (hxy : x.Precedes y) (hyx : y.Precedes x) : x = y := by
  apply rank_injective
  apply Nat.le_antisymm
  · exact of_decide_eq_true (le_iff_precedes.mpr hxy)
  · exact of_decide_eq_true (le_iff_precedes.mpr hyx)

theorem le_trans (x y z : Binary64) (hxy : x.le y) (hyz : y.le z) : x.le z :=
  decide_eq_true (Nat.le_trans (of_decide_eq_true hxy) (of_decide_eq_true hyz))

theorem le_total (x y : Binary64) : (x.le y || y.le x) = true := by
  rw [Bool.or_eq_true]
  exact (Nat.le_total x.rank y.rank).imp decide_eq_true decide_eq_true

/-- **The total order goes on from the order of numbers.** -/
theorem precedes_of_lt (h : x.toFloat < y.toFloat) : x.Precedes y := by
  have hx : x.isNaN = false := by
    by_contra hx
    exact not_toFloat_lt_of_isNaN (.inl (eq_true_of_ne_false hx)) h
  have hy : y.isNaN = false := by
    by_contra hy
    exact not_toFloat_lt_of_isNaN (.inr (eq_true_of_ne_false hy)) h
  rw [toFloat_lt_iff hx hy, signedField_eq, signedField_eq] at h
  revert h
  unfold Precedes
  cases x.isNegative <;> cases y.isNegative <;> simp only [if_true, if_false, Bool.false_eq_true,
    implies_true, imp_false] <;> omega

/-- The NaNs of either sign lie beyond all numbers on the side of that sign. -/
theorem precedes_of_isNaN (hx : x.isNaN = false) (hy : y.isNaN) :
    if y.isNegative then y.Precedes x else x.Precedes y := by
  have hnumber := magnitudeField_le_of_not_isNaN hx
  have hbeyond := lt_magnitudeField_of_isNaN hy
  unfold Precedes
  cases x.isNegative <;> cases y.isNegative <;> simp only [if_true, if_false,
    Bool.false_eq_true] <;> omega

/-! ### Numbers with a clear sign bit -/

/-- Being a number whose sign bit is clear: neither a NaN, nor below zero, nor negative zero. -/
structure Plain (x : Binary64) : Prop where
  sign_clear : x.isNegative = false
  number : x.isNaN = false

theorem Plain.signedField_eq (h : x.Plain) : x.signedField = x.magnitudeField := by
  rw [Binary64.signedField_eq, h.sign_clear]
  rfl

theorem Plain.rank_eq (h : x.Plain) : x.rank = 2048 * fractions + x.magnitudeField := by
  rw [Binary64.rank_eq, h.sign_clear]
  rfl

/-- **Plain numbers that are equal as numbers are the same pattern.** -/
theorem numEq_iff_of_plain (hx : x.Plain) (hy : y.Plain) : x.numEq y ↔ x = y := by
  rw [numEq_iff hx.number hy.number, hx.signedField_eq, hy.signedField_eq]
  constructor
  · intro h
    apply rank_injective
    rw [hx.rank_eq, hy.rank_eq, Int.ofNat_inj.mp h]
  · rintro rfl
    rfl

/-- **Plain numbers are ordered by their ranks.** -/
theorem lt_iff_of_plain (hx : x.Plain) (hy : y.Plain) :
    x.toFloat < y.toFloat ↔ x.rank < y.rank := by
  rw [toFloat_lt_iff hx.number hy.number, hx.signedField_eq, hy.signedField_eq, hx.rank_eq,
    hy.rank_eq]
  omega

/-! ### Sorted lists -/

variable {xs ys : List Binary64}

theorem sorted_perm (xs : List Binary64) : (sorted xs).Perm xs := List.mergeSort_perm xs le

theorem pairwise_sorted (xs : List Binary64) : (sorted xs).Pairwise Precedes := by
  apply (List.pairwise_mergeSort le_trans le_total xs).imp
  exact le_iff_precedes.mp

/-- **A list of patterns has exactly one ascending arrangement.** -/
theorem eq_sorted_iff : ys.Perm xs ∧ ys.Pairwise Precedes ↔ ys = sorted xs := by
  constructor
  · rintro ⟨hperm, hpairwise⟩
    apply (hperm.trans (sorted_perm xs).symm).eq_of_pairwise _ hpairwise (pairwise_sorted xs)
    exact fun _ _ _ _ => Precedes.antisymm
  · rintro rfl
    exact ⟨sorted_perm xs, pairwise_sorted xs⟩

theorem sorted_eq_of_perm (h : ys.Perm xs) : sorted ys = sorted xs :=
  eq_sorted_iff.mp ⟨(sorted_perm ys).trans h, pairwise_sorted ys⟩

end StripeTransfer.Binary64
