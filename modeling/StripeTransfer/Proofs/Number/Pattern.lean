/-
StripeTransfer/Proofs/Number/Pattern.lean

What a pattern stands for in arithmetic.  The machine unpacks a pattern into a
sign, a significand and an exponent, and packs a result into a pattern again.
Here both are described by the fields of a pattern: what an infinity, a zero, a
NaN and any other number unpack to (`Binary64.unpack_of_isInfinite` and so on),
and that packing undoes unpacking (`Packing.pack_unpack`), so that a number
is taken to the machine and back unchanged (`Binary64.ofFloat_toFloat`).

The first section is about any format; the fields of a format are cut out of a
pattern by division and remainder.
-/
import StripeTransfer.Number.Binary64
import Mathlib

namespace StripeTransfer

open Float.Model
open Float.Model.UnpackedFloat (Sign packComponents unpackExponent unpackMantissa unpackSign)

/-! ### Packing and unpacking -/

namespace Packing

variable {spec : Format} {b : BitVec spec.numBits}

theorem unpack_infinity (hexponent : unpackExponent b = -1#_) (hmantissa : unpackMantissa b = 0#_) :
    UnpackedFloat.unpack spec b = .infinity (Sign.ofBitVec (unpackSign b)) := by
  unfold UnpackedFloat.unpack
  simp only [hexponent, hmantissa, if_true]

theorem unpack_notANumber (hexponent : unpackExponent b = -1#_)
    (hmantissa : unpackMantissa b ≠ 0#_) :
    UnpackedFloat.unpack spec b = .notANumber := by
  unfold UnpackedFloat.unpack
  simp only [hexponent, hmantissa, if_true, if_false]

theorem unpack_zero (hexponent : unpackExponent b = 0#_) (hones : unpackExponent b ≠ -1#_)
    (hmantissa : unpackMantissa b = 0#_) :
    UnpackedFloat.unpack spec b = .zero (Sign.ofBitVec (unpackSign b)) := by
  unfold UnpackedFloat.unpack
  rw [hexponent] at hones
  simp only [hexponent, hones, hmantissa, if_true, if_false, dif_pos]

theorem unpack_subnormal (hexponent : unpackExponent b = 0#_) (hones : unpackExponent b ≠ -1#_)
    (hpos : 0 < (unpackMantissa b).toNat) : UnpackedFloat.unpack spec b =
      .finite (Sign.ofBitVec (unpackSign b)) (unpackMantissa b).toNat
        (1 - (spec.exponentBias + spec.mantissaBitsWithoutImplicit)) hpos := by
  have hmantissa : unpackMantissa b ≠ 0#_ := by
    intro hzero
    rw [hzero] at hpos
    exact absurd hpos (Nat.lt_irrefl 0)
  unfold UnpackedFloat.unpack
  rw [hexponent] at hones
  simp only [hexponent, hones, hmantissa, if_true, if_false, dif_neg, not_false_iff]
  congr 1
  rw [BitVec.toNat_zero]
  omega

theorem unpack_normal (hexponent : unpackExponent b ≠ 0#_) (hones : unpackExponent b ≠ -1#_)
    (hpos : 0 < 2 ^ spec.mantissaBitsWithoutImplicit + (unpackMantissa b).toNat) :
    UnpackedFloat.unpack spec b =
      .finite (Sign.ofBitVec (unpackSign b))
        (2 ^ spec.mantissaBitsWithoutImplicit + (unpackMantissa b).toNat)
        ((unpackExponent b).toNat - (spec.exponentBias + spec.mantissaBitsWithoutImplicit))
        hpos := by
  have hhidden : (1#1 ++ unpackMantissa b).toNat =
      2 ^ spec.mantissaBitsWithoutImplicit + (unpackMantissa b).toNat := by
    rw [BitVec.toNat_append, ← Nat.shiftLeft_add_eq_or_of_lt (BitVec.isLt _), Nat.shiftLeft_eq,
      BitVec.toNat_ofNat]
    exact congrArg (· + _) (Nat.one_mul _)
  unfold UnpackedFloat.unpack
  simp only [hexponent, hones, if_false, hhidden]

theorem toNat_packComponents (s : Sign) (exponent : BitVec spec.exponentBits)
    (mantissa : BitVec spec.mantissaBitsWithoutImplicit) :
    (packComponents spec s exponent mantissa).toNat =
      (s.toBitVec.toNat * 2 ^ spec.exponentBits + exponent.toNat) *
        2 ^ spec.mantissaBitsWithoutImplicit + mantissa.toNat := by
  unfold packComponents
  rw [BitVec.toNat_append, ← Nat.shiftLeft_add_eq_or_of_lt (BitVec.isLt _), BitVec.toNat_append,
    ← Nat.shiftLeft_add_eq_or_of_lt (BitVec.isLt _), Nat.shiftLeft_eq, Nat.shiftLeft_eq]

theorem toBitVec_ofBitVec (sign : BitVec 1) : (Sign.ofBitVec sign).toBitVec = sign := by
  unfold Sign.ofBitVec
  split_ifs with hzero
  · exact hzero.symm
  · have hne : sign.toNat ≠ 0 := fun h => hzero (BitVec.eq_of_toNat_eq h)
    have hlt := sign.isLt
    apply BitVec.eq_of_toNat_eq
    show 1 = sign.toNat
    omega

theorem toNat_unpackMantissa (b : BitVec spec.numBits) :
    (unpackMantissa b).toNat = b.toNat % 2 ^ spec.mantissaBitsWithoutImplicit := by
  have hwidth : spec.mantissaBitsWithoutImplicit - 1 - 0 + 1 = spec.mantissaBitsWithoutImplicit :=
    Nat.sub_add_cancel spec.hm
  simp only [unpackMantissa, BitVec.toNat_cast, BitVec.extractLsb_toNat, hwidth,
    Nat.shiftRight_zero]

theorem toNat_unpackExponent (b : BitVec spec.numBits) : (unpackExponent b).toNat =
    b.toNat / 2 ^ spec.mantissaBitsWithoutImplicit % 2 ^ spec.exponentBits := by
  have hpos := spec.he
  have hwidth : spec.mantissaBitsWithoutImplicit + spec.exponentBits - 1 -
      spec.mantissaBitsWithoutImplicit + 1 = spec.exponentBits := by omega
  simp only [unpackExponent, BitVec.toNat_cast, BitVec.extractLsb_toNat, hwidth,
    Nat.shiftRight_eq_div_pow]

theorem toNat_unpackSign (b : BitVec spec.numBits) : (unpackSign b).toNat =
    b.toNat / 2 ^ spec.mantissaBitsWithoutImplicit / 2 ^ spec.exponentBits := by
  have hlt : b.toNat <
      2 ^ spec.mantissaBitsWithoutImplicit * (2 ^ spec.exponentBits * 2) := by
    rw [← Nat.pow_succ, ← Nat.pow_add, Nat.add_comm, Nat.succ_eq_one_add]
    exact b.isLt
  have hbit : b.toNat / 2 ^ spec.mantissaBitsWithoutImplicit / 2 ^ spec.exponentBits < 2 :=
    Nat.div_lt_of_lt_mul (Nat.div_lt_of_lt_mul hlt)
  simp only [unpackSign, BitVec.toNat_cast, BitVec.extractLsb_toNat, Nat.shiftRight_eq_div_pow,
    Nat.pow_add, ← Nat.div_div_eq_div_mul, Nat.sub_self, Nat.zero_add, Nat.pow_one]
  exact Nat.mod_eq_of_lt hbit

theorem unpackSign_packComponents (s : Sign) (exponent : BitVec spec.exponentBits)
    (mantissa : BitVec spec.mantissaBitsWithoutImplicit) :
    unpackSign (packComponents spec s exponent mantissa) = s.toBitVec := by
  apply BitVec.eq_of_toNat_eq
  rw [toNat_unpackSign, toNat_packComponents, Nat.mul_comm,
    Nat.mul_add_div (by positivity), Nat.div_eq_of_lt mantissa.isLt, Nat.add_zero, Nat.mul_comm,
    Nat.mul_add_div (by positivity), Nat.div_eq_of_lt exponent.isLt, Nat.add_zero]

/-- The components of a pattern make up the pattern. -/
theorem packComponents_fields (b : BitVec spec.numBits) :
    packComponents spec (Sign.ofBitVec (unpackSign b)) (unpackExponent b) (unpackMantissa b) =
      b := by
  apply BitVec.eq_of_toNat_eq
  rw [toNat_packComponents, toBitVec_ofBitVec, toNat_unpackSign, toNat_unpackExponent,
    toNat_unpackMantissa, Nat.div_add_mod', Nat.div_add_mod']

/-- **Packing undoes unpacking**, except for a NaN. -/
theorem pack_unpack (hspec : 2 < 2 ^ spec.exponentBits)
    (hnumber : unpackExponent b = -1#_ → unpackMantissa b = 0#_) :
    UnpackedFloat.pack spec (UnpackedFloat.unpack spec b) = b := by
  by_cases hones : unpackExponent b = -1#_
  · rw [unpack_infinity hones (hnumber hones)]
    show packComponents spec _ (-1#_) 0#_ = b
    rw [← hones, ← hnumber hones, packComponents_fields]
  by_cases hexponent : unpackExponent b = 0#_
  · by_cases hmantissa : unpackMantissa b = 0#_
    · rw [unpack_zero hexponent hones hmantissa]
      show packComponents spec _ 0#_ 0#_ = b
      rw [← hexponent, ← hmantissa, packComponents_fields]
    · have hpos : 0 < (unpackMantissa b).toNat := by
        rw [BitVec.toNat_pos, BitVec.pos_iff_ne_zero]
        exact hmantissa
      have hbiased : (1 - ((spec.exponentBias : Int) + spec.mantissaBitsWithoutImplicit) +
          spec.exponentBias + spec.mantissaBitsWithoutImplicit).toNat = 1 := by omega
      -- without the hidden bit, the significand has fewer bits than there is room for
      have hbits : (unpackMantissa b).toNat.log2 + 1 ≠ spec.mantissaBits := by
        have hlog := (Nat.log2_lt hpos.ne').mpr (unpackMantissa b).isLt
        rw [Format.mantissaBits]
        omega
      rw [unpack_subnormal hexponent hones hpos]
      simp only [UnpackedFloat.pack, hbiased, if_neg (not_le.mpr hspec), if_neg hbits]
      rw [← hexponent, BitVec.ofNat_toNat, BitVec.setWidth_eq, packComponents_fields]
  · have hmantissa := (unpackMantissa b).isLt
    have hpos : 0 < 2 ^ spec.mantissaBitsWithoutImplicit + (unpackMantissa b).toNat := by positivity
    have hbiased : (((unpackExponent b).toNat : Int) -
        (spec.exponentBias + spec.mantissaBitsWithoutImplicit) + spec.exponentBias +
          spec.mantissaBitsWithoutImplicit).toNat = (unpackExponent b).toNat := by omega
    have hroom : ¬ 2 ^ spec.exponentBits ≤ (unpackExponent b).toNat + 1 := by
      intro hle
      have hlt := (unpackExponent b).isLt
      apply hones
      apply BitVec.eq_of_toNat_eq
      rw [BitVec.neg_one_eq_allOnes, BitVec.toNat_allOnes]
      omega
    have hbits : (2 ^ spec.mantissaBitsWithoutImplicit + (unpackMantissa b).toNat).log2 + 1 =
        spec.mantissaBits := by
      have hlog := (Nat.log2_eq_iff hpos.ne').mpr
        ⟨Nat.le_add_right _ _, by rw [Nat.pow_succ]; omega⟩
      rw [Format.mantissaBits, Nat.add_comm 1, hlog]
    -- the hidden bit is cut off again
    have hcut : BitVec.ofNat spec.mantissaBitsWithoutImplicit
        (2 ^ spec.mantissaBitsWithoutImplicit + (unpackMantissa b).toNat) = unpackMantissa b := by
      apply BitVec.eq_of_toNat_eq
      rw [BitVec.toNat_ofNat, Nat.add_mod_left, Nat.mod_eq_of_lt hmantissa]
    rw [unpack_normal hexponent hones hpos]
    simp only [UnpackedFloat.pack, hbiased, if_neg hroom, if_pos hbits]
    rw [hcut, BitVec.ofNat_toNat, BitVec.setWidth_eq, packComponents_fields]

end Packing

/-! ### Fields of a pattern -/

namespace Binary64

open Packing

variable {x : Binary64}

theorem exponentField_lt (x : Binary64) : x.exponentField < 2048 := Nat.mod_lt _ (by decide)

theorem fractionField_lt (x : Binary64) : x.fractionField < fractions := Nat.mod_lt _ (by decide)

theorem significand_eq_zero_iff (x : Binary64) :
    x.significand = 0 ↔ x.exponentField = 0 ∧ x.fractionField = 0 := by
  have hpos : 0 < fractions := by decide
  unfold significand
  split_ifs <;> omega

/-- A pattern that is a number is infinite, or zero, or has a significand. -/
theorem cases_of_not_isNaN (h : x.isNaN = false) :
    x.isInfinite ∨ x.significand = 0 ∨ x.exponentField ≠ 2047 ∧ 0 < x.significand := by
  have hzero := x.significand_eq_zero_iff
  simp only [isNaN, isInfinite, Bool.and_eq_true, beq_iff_eq, Bool.and_eq_false_iff,
    bne_eq_false_iff_eq, beq_eq_false_iff_ne] at h ⊢
  omega

/-- The sign of a pattern. -/
def sign (x : Binary64) : Sign := if x.isNegative then .negative else .positive

/-- The power of two that scales the significand. -/
def leastExponent (x : Binary64) : Int := (x.scale : Int) - 1074

/-- The pattern as the machine unpacks it. -/
def vector (x : Binary64) : BitVec Format.binary64.numBits := x.bits.toBitVec

theorem toNat_mantissa (x : Binary64) : (unpackMantissa x.vector).toNat = x.fractionField :=
  toNat_unpackMantissa x.vector

theorem toNat_exponent (x : Binary64) : (unpackExponent x.vector).toNat = x.exponentField :=
  toNat_unpackExponent x.vector

theorem mantissa_eq_zero_iff (x : Binary64) :
    unpackMantissa x.vector = 0#52 ↔ x.fractionField = 0 := by
  rw [← BitVec.toNat_inj, toNat_mantissa]
  rfl

theorem exponent_eq_zero_iff (x : Binary64) :
    unpackExponent x.vector = 0#11 ↔ x.exponentField = 0 := by
  rw [← BitVec.toNat_inj, toNat_exponent]
  rfl

theorem exponent_eq_ones_iff (x : Binary64) :
    unpackExponent x.vector = -1#11 ↔ x.exponentField = 2047 := by
  rw [← BitVec.toNat_inj, toNat_exponent]
  rfl

theorem ofBitVec_unpackSign (x : Binary64) : Sign.ofBitVec (unpackSign x.vector) = x.sign := by
  have hlt := x.bits.toNat_lt
  have htop : (0x8000000000000000 : UInt64).toNat = 0x8000000000000000 := rfl
  have hbits : x.vector.toNat = x.bits.toNat := rfl
  have hsign : unpackSign x.vector = 0#1 ↔ ¬ x.isNegative := by
    rw [← BitVec.toNat_inj, toNat_unpackSign, hbits, isNegative, decide_eq_true_eq,
      UInt64.le_iff_toNat_le, htop]
    show x.bits.toNat / 4503599627370496 / 2048 = 0 ↔ _
    omega
  unfold Sign.ofBitVec sign
  cases h : x.isNegative <;> simp [hsign, h]

/-! ### Patterns in arithmetic -/

/-- What a pattern is taken for in arithmetic. -/
def unpacked (x : Binary64) : UnpackedFloat :=
  UnpackedFloat.unpack Format.binary64 x.vector

theorem unpacked_of_isInfinite (h : x.isInfinite) : x.unpacked = .infinity x.sign := by
  simp only [isInfinite, Bool.and_eq_true, beq_iff_eq] at h
  rw [unpacked, unpack_infinity (x.exponent_eq_ones_iff.mpr h.1) (x.mantissa_eq_zero_iff.mpr h.2),
    ofBitVec_unpackSign]

theorem unpacked_of_isNaN (h : x.isNaN) : x.unpacked = .notANumber := by
  simp only [isNaN, Bool.and_eq_true, beq_iff_eq, bne_iff_ne] at h
  exact unpack_notANumber (x.exponent_eq_ones_iff.mpr h.1) (x.mantissa_eq_zero_iff.not.mpr h.2)

theorem unpacked_of_significand_eq_zero (h : x.significand = 0) : x.unpacked = .zero x.sign := by
  obtain ⟨hexponent, hfraction⟩ := x.significand_eq_zero_iff.mp h
  rw [unpacked, unpack_zero (x.exponent_eq_zero_iff.mpr hexponent)
    (x.exponent_eq_ones_iff.not.mpr (by omega)) (x.mantissa_eq_zero_iff.mpr hfraction),
    ofBitVec_unpackSign]

theorem unpacked_of_finite (h : x.exponentField ≠ 2047) (hpos : 0 < x.significand) :
    x.unpacked = .finite x.sign x.significand x.leastExponent hpos := by
  have hones := x.exponent_eq_ones_iff.not.mpr h
  have hbias : (Format.binary64.exponentBias : Int) +
      Format.binary64.mantissaBitsWithoutImplicit = 1075 := rfl
  by_cases hexponent : x.exponentField = 0
  · have hsignificand : x.significand = x.fractionField := if_pos hexponent
    have hmantissa : 0 < (unpackMantissa x.vector).toNat := by
      rwa [toNat_mantissa, ← hsignificand]
    rw [unpacked, unpack_subnormal (x.exponent_eq_zero_iff.mpr hexponent) hones hmantissa,
      ofBitVec_unpackSign]
    simp only [toNat_mantissa, hbias, hsignificand, leastExponent, scale, hexponent]
    rfl
  · have hsignificand : x.significand = fractions + x.fractionField := if_neg hexponent
    rw [unpacked, unpack_normal (x.exponent_eq_zero_iff.not.mpr hexponent) hones (by positivity),
      ofBitVec_unpackSign]
    simp only [toNat_mantissa, toNat_exponent, hbias, hsignificand, leastExponent, scale]
    congr 1
    omega

/-- **A number is its own pattern**, also after it was a machine number. -/
theorem ofFloat_toFloat (h : x.isNaN = false) : ofFloat x.toFloat = x := by
  have hpack : UnpackedFloat.pack Format.binary64 x.unpacked = x.vector := by
    apply pack_unpack (by decide)
    intro hones
    have hexponent := x.exponent_eq_ones_iff.mp hones
    apply x.mantissa_eq_zero_iff.mpr
    simpa [isNaN, hexponent] using h
  show (⟨UInt64.ofBitVec (UnpackedFloat.pack Format.binary64 x.unpacked)⟩ : Binary64) = x
  rw [hpack]
  rfl

/-- A machine number stands for what its pattern does. -/
theorem unpack_toFloat (x : Binary64) : x.toFloat.toModel.unpack = x.unpacked := by
  cases h : x.isNaN with
  | false =>
    have hbits : x.toFloat.toModel.toBits = x.bits := congrArg Binary64.bits (ofFloat_toFloat h)
    rw [Float.Model.unpack, hbits]
    rfl
  | true =>
    show (Float.Model.pack x.unpacked).unpack = x.unpacked
    rw [unpacked_of_isNaN h]
    rfl

end Binary64

end StripeTransfer
