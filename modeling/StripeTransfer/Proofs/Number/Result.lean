/-
StripeTransfer/Proofs/Number/Result.lean

Results of arithmetic.  A result of positive sign has a plain pattern
(`Binary64.Clear.plain`), and a positive sign survives every division
(`Binary64.Clear.div`), so a quotient of plain numbers is plain unless it is
infinity over infinity or zero over zero (`Binary64.plain_div`).

A count that fits a word is converted to a number far from infinity
(`Binary64.exists_moderate_ofNat`), because rounding moves an exponent by no more
than the significand is long (`Binary64.within_roundWithAccuracy`).  The machine
has two ways of converting it: in one rounding, or exactly and with a
multiplication by one.
-/
import StripeTransfer.Proofs.Number.Order
import Mathlib

namespace StripeTransfer

open Float.Model
open Float.Model.UnpackedFloat (Sign Accuracy ExtendedMantissa packComponents unpackExponent
  roundWithAccuracy)

namespace Binary64

/-! ### Results with a positive sign -/

/-- The pattern of a result. -/
def ofUnpacked (u : UnpackedFloat) : Binary64 :=
  ⟨UInt64.ofBitVec (UnpackedFloat.pack Format.binary64 u)⟩

/-- Being a number of positive sign. -/
inductive Clear : UnpackedFloat → Prop
  | infinity : Clear (.infinity .positive)
  | zero : Clear (.zero .positive)
  | finite (m : Nat) (e : Int) (h : 0 < m) : Clear (.finite .positive m e h)

variable {x y : Binary64} {u v : UnpackedFloat}

theorem Plain.sign_eq (h : x.Plain) : x.sign = .positive := by
  rw [sign, h.sign_clear]
  rfl

theorem Plain.clear (h : x.Plain) : Clear x.unpacked := by
  rcases cases_of_not_isNaN h.number with hinf | hzero | ⟨hexponent, hpos⟩
  · rw [unpacked_of_isInfinite hinf, h.sign_eq]
    exact .infinity
  · rw [unpacked_of_significand_eq_zero hzero, h.sign_eq]
    exact .zero
  · rw [unpacked_of_finite hexponent hpos, h.sign_eq]
    exact .finite _ _ _

theorem pack_finite (s : Sign) (m : Nat) (e : Int) (h : 0 < m) :
    UnpackedFloat.pack Format.binary64 (.finite s m e h) =
      if 2 ^ 11 ≤ (e + 1023 + 52).toNat + 1 then packComponents Format.binary64 s (-1#11) 0#52
      else if m.log2 + 1 = 53 then
        packComponents Format.binary64 s (BitVec.ofNat 11 (e + 1023 + 52).toNat) (BitVec.ofNat 52 m)
      else packComponents Format.binary64 s 0#11 (BitVec.ofNat 52 m) := rfl

/-- A pattern made up of a clear sign bit and of fields that are not a NaN's. -/
theorem plain_of_components {exponent : BitVec 11} {mantissa : BitVec 52}
    (hu : UnpackedFloat.pack Format.binary64 u =
      packComponents Format.binary64 .positive exponent mantissa)
    (hnumber : exponent = -1#11 → mantissa = 0#52) : (ofUnpacked u).Plain := by
  have hvector : (ofUnpacked u).vector =
      packComponents Format.binary64 .positive exponent mantissa := hu
  constructor
  · have hsign := ofBitVec_unpackSign (ofUnpacked u)
    rw [hvector, Packing.unpackSign_packComponents, sign] at hsign
    cases h : (ofUnpacked u).isNegative with
    | false => rfl
    | true =>
      rw [h] at hsign
      cases hsign
  · rw [isNaN, Bool.and_eq_false_iff, beq_eq_false_iff_ne, bne_eq_false_iff_eq, ne_eq,
      ← exponent_eq_ones_iff, ← mantissa_eq_zero_iff, hvector,
      UnpackedFloat.unpackExponent_packComponents, UnpackedFloat.unpackMantissa_packComponents]
    exact not_or_of_imp hnumber

/-- A number of positive sign has a plain pattern. -/
theorem Clear.plain (h : Clear u) : (ofUnpacked u).Plain := by
  cases h with
  | infinity => exact plain_of_components rfl fun _ => rfl
  | zero => exact plain_of_components rfl fun _ => rfl
  | finite m e hpos =>
    have hpack := pack_finite .positive m e hpos
    -- too large, normal, subnormal
    split_ifs at hpack with hover hbits
    · exact plain_of_components hpack fun _ => rfl
    · apply plain_of_components hpack
      intro hones
      have hvalue : (e + 1023 + 52).toNat % 2 ^ 11 = 2047 := congrArg BitVec.toNat hones
      omega
    · apply plain_of_components hpack
      intro hones
      exact absurd hones (by decide)

/-! ### Quotients -/

theorem clear_roundWithAccuracy (spec : Format) (m : Nat) (e : Int) (accuracy : Accuracy) :
    Clear (roundWithAccuracy spec .positive m e accuracy) := by
  unfold roundWithAccuracy
  dsimp only
  split_ifs
  · exact .zero
  · exact .finite _ _ _

/-- A quotient of numbers of positive sign has one, unless it is no number. -/
theorem Clear.div (hu : Clear u) (hv : Clear v) (hinfinity : u = .infinity .positive → u ≠ v)
    (hzero : v ≠ .zero .positive) : Clear (UnpackedFloat.div Format.binary64 u v) := by
  cases hv with
  | zero => exact absurd rfl hzero
  | infinity =>
    cases hu with
    | infinity => exact absurd rfl (hinfinity rfl)
    | zero => exact .zero
    | finite m e hpos => exact .zero
  | finite n d hn =>
    cases hu with
    | infinity => exact .infinity
    | zero => exact .zero
    | finite m e hpos => exact clear_roundWithAccuracy _ _ _ _

theorem div_eq (x y : Binary64) :
    x / y = ofUnpacked (UnpackedFloat.div Format.binary64 x.unpacked y.unpacked) := by
  rw [← unpack_toFloat, ← unpack_toFloat]
  rfl

/-! ### Exponents of results -/

/-- Being zero or finite, with an exponent up to a bound. -/
inductive Within (bound : Int) : UnpackedFloat → Prop
  | zero (s : Sign) : Within bound (.zero s)
  | finite (s : Sign) (m : Nat) (e : Int) (h : 0 < m) (he : e ≤ bound) :
    Within bound (.finite s m e h)

theorem shift_mantissa_le (em : ExtendedMantissa) (n : Nat) :
    (em >>> n).mantissa ≤ em.mantissa := by
  induction n with
  | zero => exact Nat.le_refl _
  | succ n ih => exact (Nat.div_le_self _ 2).trans ih

theorem roundedMantissa_le (em : ExtendedMantissa) : em.roundedMantissa ≤ em.mantissa + 1 := by
  obtain ⟨m, round, sticky⟩ := em
  cases round <;> cases sticky <;>
    simp only [ExtendedMantissa.roundedMantissa, ExtendedMantissa.accuracy,
      Accuracy.roundToNearestEven] <;> omega

theorem ofMantissaAndAccuracy_mantissa (m : Nat) (accuracy : Accuracy) :
    (ExtendedMantissa.ofMantissaAndAccuracy m accuracy).mantissa = m := by
  cases accuracy with
  | exact => rfl
  | inexact order => cases order <;> rfl

/-- Shifting to the exponent of a format moves the exponent by no more than the significand is
long. -/
theorem shiftToTargetExponent_le {m k : Nat} (hm : m ≤ 2 ^ k) (e : Int) (accuracy : Accuracy) :
    (UnpackedFloat.shiftToTargetExponent Format.binary64 m e accuracy).1.mantissa ≤ m ∧
    (UnpackedFloat.shiftToTargetExponent Format.binary64 m e accuracy).2 ≤
      max (max e (k + e - 52)) (-1074) := by
  have hlog : m.log2 ≤ k := by
    rcases Nat.eq_zero_or_pos m with rfl | hpos
    · exact Nat.zero_le k
    · exact (Nat.pow_le_pow_iff_right (by decide)).mp ((Nat.log2_self_le hpos.ne').trans hm)
  constructor
  · apply (shift_mantissa_le _ _).trans
    rw [ofMantissaAndAccuracy_mantissa]
  · show e + ((max ((m.log2 + 1 + e) - 53) (-1074) - e).toNat : Int) ≤ _
    omega

/-- Rounding moves the exponent by no more than twice as much. -/
theorem within_roundWithAccuracy {m k : Nat} (hm : m < 2 ^ k) (s : Sign) (e : Int)
    (accuracy : Accuracy) :
    Within (max (e + 2 * k) k) (roundWithAccuracy Format.binary64 s m e accuracy) := by
  obtain ⟨hmantissa, hexponent⟩ := shiftToTargetExponent_le hm.le e accuracy
  unfold roundWithAccuracy
  generalize UnpackedFloat.shiftToTargetExponent Format.binary64 m e accuracy = first at *
  obtain ⟨em, e₁⟩ := first
  have hrounded : em.roundedMantissa ≤ 2 ^ k :=
    (roundedMantissa_le em).trans ((Nat.succ_le_succ hmantissa).trans hm)
  obtain ⟨-, hsecond⟩ := shiftToTargetExponent_le hrounded e₁ .exact
  dsimp only at *
  -- after rounding up, the significand may have one bit too many, and is shifted once more
  split_ifs
  · exact .zero s
  · exact .finite _ _ _ _ (by omega)

/-- A result within the range of the format has a pattern with the exponent that it has. -/
theorem exponentField_le_of_within {bound : Int} (h : Within bound u) (hleast : -1074 ≤ bound)
    (hgreatest : bound < 971) : ((ofUnpacked u).exponentField : Int) ≤ bound + 1075 := by
  have hfield : ∀ (s : Sign) (exponent : BitVec 11) (mantissa : BitVec 52),
      UnpackedFloat.pack Format.binary64 u =
        packComponents Format.binary64 s exponent mantissa →
      (ofUnpacked u).exponentField = exponent.toNat := by
    intro s exponent mantissa hpack
    rw [← toNat_exponent]
    show (unpackExponent (UnpackedFloat.pack Format.binary64 u)).toNat = _
    rw [hpack, UnpackedFloat.unpackExponent_packComponents]
  cases h with
  | zero s =>
    rw [hfield s 0#11 0#52 rfl]
    show (0 : Int) ≤ _
    omega
  | finite s m e hpos he =>
    have hpack := pack_finite s m e hpos
    split_ifs at hpack with hover hbits
    · omega
    · rw [hfield _ _ _ hpack, BitVec.toNat_ofNat]
      omega
    · rw [hfield _ _ _ hpack]
      show (0 : Int) ≤ _
      omega

theorem Within.mono {bound bound' : Int} (h : Within bound u) (hle : bound ≤ bound') :
    Within bound' u := by
  cases h with
  | zero s => exact .zero s
  | finite s m e hpos he => exact .finite s m e hpos (he.trans hle)

/-! ### Whole numbers -/

/-- Being a number of positive sign that is not infinite, with an exponent up to a bound. -/
structure Moderate (bound : Int) (u : UnpackedFloat) : Prop where
  clear : Clear u
  within : Within bound u

theorem Moderate.exponentField_lt (h : Moderate 300 u) : (ofUnpacked u).exponentField < 2047 := by
  have hle := exponentField_le_of_within h.within (by omega) (by omega)
  omega

theorem moderate_zero (bound : Int) : Moderate bound (.zero .positive) := ⟨.zero, .zero _⟩

theorem moderate_roundWithAccuracy {bound e : Int} {m k : Nat} (hm : m < 2 ^ k) (hk : k ≤ bound)
    (he : e + 2 * k ≤ bound) (accuracy : Accuracy) :
    Moderate bound (roundWithAccuracy Format.binary64 .positive m e accuracy) where
  clear := clear_roundWithAccuracy _ _ _ _
  within := (within_roundWithAccuracy hm _ _ _).mono (by omega)

/-- A count that fits the significand is moved up to its top bit. -/
theorem ofNat_eq_roundWithAccuracy {n : Nat} (hpos : 0 < n) (hlog : n.log2 < 53) :
    UnpackedFloat.ofNat Format.binary64 n = roundWithAccuracy Format.binary64 .positive
      (n <<< (52 - n.log2)) (0 - (52 - n.log2 : Nat)) .exact := by
  have hcompare : compare (n : Int) 0 = .gt := Int.compare_eq_gt.mpr (Int.natCast_pos.mpr hpos)
  have hshift : (0 - Format.binary64.targetExponent (totalExponent n 0)).toNat =
      52 - n.log2 := by
    show (0 - max ((n.log2 + 1 + 0 : Int) - 53) (-1074)).toNat = _
    omega
  rw [UnpackedFloat.ofNat, UnpackedFloat.ofInt, UnpackedFloat.normalize, hcompare]
  show UnpackedFloat.round _ .positive n 0 = _
  rw [UnpackedFloat.round, UnpackedFloat.decreaseExponent, hshift]

theorem shiftLeft_log2_lt {n : Nat} (hlog : n.log2 < 53) : n <<< (52 - n.log2) < 2 ^ 53 := by
  have hsum : n.log2 + 1 + (52 - n.log2) = 53 := by omega
  rw [Nat.shiftLeft_eq]
  calc n * 2 ^ (52 - n.log2)
      < 2 ^ (n.log2 + 1) * 2 ^ (52 - n.log2) :=
        Nat.mul_lt_mul_of_pos_right Nat.lt_log2_self (by positivity)
    _ = 2 ^ 53 := by rw [← Nat.pow_add, hsum]

/-- A count that fits the significand, as the machine converts it. -/
theorem moderate_ofNat {n : Nat} (hn : n < 2 ^ 53) :
    Moderate 106 (UnpackedFloat.ofNat Format.binary64 n) := by
  rcases Nat.eq_zero_or_pos n with rfl | hpos
  · exact moderate_zero 106
  · have hlog : n.log2 < 53 := (Nat.log2_lt hpos.ne').mpr hn
    rw [ofNat_eq_roundWithAccuracy hpos hlog]
    exact moderate_roundWithAccuracy (shiftLeft_log2_lt hlog) (by omega) (by omega) _

/-- A count that fits a word, converted in one rounding. -/
theorem moderate_ofScientific {n : Nat} (hn : n < 2 ^ 64) :
    Moderate 300 (UnpackedFloat.ofScientific Format.binary64 n 0) := by
  rcases Nat.eq_zero_or_pos n with rfl | hpos
  · exact moderate_zero 300
  have hround : UnpackedFloat.ofScientific Format.binary64 n 0 =
      roundWithAccuracy Format.binary64 .positive (n <<< 53 * 10 ^ 0) (-53 + 0) .exact := by
    unfold UnpackedFloat.ofScientific
    have hsmall : ¬ (0 : Int) < -((2 ^ 11 : Int) + n.log2) := by omega
    rw [dif_neg hpos.ne', if_neg (by decide), if_neg hsmall, if_pos (Int.le_refl 0)]
    rfl
  have hm : n <<< 53 * 10 ^ 0 < 2 ^ 117 := by
    rw [Nat.shiftLeft_eq]
    omega
  rw [hround]
  exact moderate_roundWithAccuracy hm (by omega) (by omega) _

theorem significand_lt (x : Binary64) : x.significand < 2 ^ 53 := by
  have hfraction := x.fractionField_lt
  simp only [significand, fractions] at *
  split_ifs <;> omega

/-- The pattern of one. -/
def one : Binary64 := ⟨0x3FF0000000000000⟩

theorem unpacked_one : one.unpacked = .finite .positive (2 ^ 52) (-52) (by decide) := rfl

/-- Multiplication by one rounds again, so the exponent may move once more. -/
theorem moderate_mul_one (hu : Moderate 106 u) :
    Moderate 300 (UnpackedFloat.mul Format.binary64 (ofUnpacked u).unpacked one.unpacked) := by
  have hplain := hu.clear.plain
  have hfield := exponentField_le_of_within hu.within (by omega) (by omega)
  rw [unpacked_one]
  rcases cases_of_not_isNaN hplain.number with hinf | hzero | ⟨hexponent, hpos⟩
  · simp only [isInfinite, Bool.and_eq_true, beq_iff_eq] at hinf
    omega
  · rw [unpacked_of_significand_eq_zero hzero, hplain.sign_eq]
    exact moderate_zero 300
  · have hsignificand := (ofUnpacked u).significand_lt
    have hproduct : (ofUnpacked u).significand * 2 ^ 52 < 2 ^ 105 := by omega
    have hscale : (ofUnpacked u).leastExponent ≤ 107 := by
      unfold leastExponent scale
      omega
    rw [unpacked_of_finite hexponent hpos, hplain.sign_eq]
    exact moderate_roundWithAccuracy hproduct (by omega) (by omega) _

/-- A count that fits a word, as it is read. -/
theorem exists_moderate_ofScientific {n : Nat} (hn : n < 2 ^ 64) :
    ∃ u, ofFloat (Float.ofScientific n false 0) = ofUnpacked u ∧ Moderate 300 u := by
  unfold Float.ofScientific
  by_cases hfast : n < 2 ^ 53 ∧ 0 ≤ 22
  · -- the count is below 2 ^ 53 also after it went through a word
    have hcount : n.toUInt64.toNat = n := Nat.mod_eq_of_lt hn
    rw [dif_pos hfast, if_neg Bool.false_ne_true]
    refine ⟨_, ?_, moderate_mul_one (moderate_ofNat (hcount.trans_lt hfast.1))⟩
    rw [← unpack_toFloat one]
    rfl
  · rw [dif_neg hfast]
    exact ⟨_, rfl, moderate_ofScientific hn⟩

/-- **A count that fits a word is a number of positive sign far from infinity.** -/
theorem exists_moderate_ofNat {n : Nat} (hn : n < 2 ^ 64) :
    ∃ u, ofNat n = ofUnpacked u ∧ Moderate 300 u := by
  have hlength : (Nat.toDigits 10 n).length ≤ 20 :=
    (Nat.length_toDigits_le_iff (by decide) (by decide)).mpr (hn.trans (by decide))
  unfold ofNat ofDecimal
  dsimp only
  split_ifs with hzero hlarge hsmall
  · exact ⟨.zero .positive, rfl, moderate_zero 300⟩
  · omega
  · omega
  · exact exists_moderate_ofScientific hn

/-! ### Quotients of plain numbers -/

theorem Plain.exponentField_of_infinity (h : x.Plain) (hx : x.unpacked = .infinity .positive) :
    x.exponentField = 2047 := by
  by_contra hne
  rcases cases_of_not_isNaN h.number with hinf | hzero | ⟨hexponent, hpos⟩
  · rw [isInfinite, Bool.and_eq_true, beq_iff_eq] at hinf
    exact hne hinf.1
  · rw [unpacked_of_significand_eq_zero hzero] at hx
    cases hx
  · rw [unpacked_of_finite hexponent hpos] at hx
    cases hx

theorem Plain.significand_of_zero (h : x.Plain) (hx : x.unpacked = .zero .positive) :
    x.significand = 0 := by
  rcases cases_of_not_isNaN h.number with hinf | hzero | ⟨hexponent, hpos⟩
  · rw [unpacked_of_isInfinite hinf] at hx
    cases hx
  · exact hzero
  · rw [unpacked_of_finite hexponent hpos] at hx
    cases hx

/-- **Plain numbers have a plain quotient**, except for infinity over infinity and zero over zero;
a zero divisor is left out altogether. -/
theorem plain_div (hx : x.Plain) (hy : y.Plain)
    (hfinite : x.exponentField ≠ 2047 ∨ y.exponentField ≠ 2047) (hzero : y.significand ≠ 0) :
    (x / y).Plain := by
  rw [div_eq]
  apply (hx.clear.div hy.clear _ _).plain
  · intro hinfinity heq
    have hx2047 := hx.exponentField_of_infinity hinfinity
    have hy2047 := hy.exponentField_of_infinity (heq.symm.trans hinfinity)
    exact hfinite.elim (absurd hx2047) (absurd hy2047)
  · intro hunpacked
    exact hzero (hy.significand_of_zero hunpacked)

end Binary64

end StripeTransfer
