/-
StripeTransfer/Number/Binary64.lean

Measurements are IEEE 754 numbers of 64 bits, kept as their bit patterns.  The
arithmetic is the machine's; the order is the total order on patterns, in which
negative patterns come before positive ones, and the NaNs of either sign lie
beyond the infinity of that sign.

The order is given by a rank in the natural numbers, and two patterns of equal
rank are equal (`rank_injective`), so a list of measurements has exactly one
sorted arrangement.
-/

namespace StripeTransfer

/-- A 64-bit IEEE 754 number, as its bit pattern. -/
structure Binary64 where
  bits : UInt64
  deriving DecidableEq, Repr, Inhabited

namespace Binary64

/-! ### Arithmetic -/

/-- The machine number of a bit pattern. -/
def toFloat (x : Binary64) : Float := Float.ofBits x.bits

/-- The bit pattern of a machine number. -/
def ofFloat (x : Float) : Binary64 := ⟨x.toBits⟩

instance : Add Binary64 := ⟨fun x y => ofFloat (x.toFloat + y.toFloat)⟩
instance : Sub Binary64 := ⟨fun x y => ofFloat (x.toFloat - y.toFloat)⟩
instance : Mul Binary64 := ⟨fun x y => ofFloat (x.toFloat * y.toFloat)⟩
instance : Div Binary64 := ⟨fun x y => ofFloat (x.toFloat / y.toFloat)⟩

/-- The square root. -/
def sqrt (x : Binary64) : Binary64 := ofFloat x.toFloat.sqrt

/-- Positive zero. -/
def zero : Binary64 := ⟨0⟩

/-- Negative zero, the neutral element of addition. -/
def negZero : Binary64 := ⟨0x8000000000000000⟩

/-- Whether two numbers are equal as numbers: the two zeros are, a NaN equals nothing. -/
def numEq (x y : Binary64) : Bool := x.toFloat == y.toFloat

/-- The sum from the left, starting with the neutral element. -/
def sum (xs : List Binary64) : Binary64 := xs.foldl (· + ·) negZero

/-! ### Parts of a pattern -/

/-- Whether the sign bit is set. -/
def isNegative (x : Binary64) : Bool := 0x8000000000000000 ≤ x.bits

/-- The number of fractions, one for each pattern of 52 bits. -/
def fractions : Nat := 0x10000000000000

/-- The eleven bits of the exponent. -/
def exponentField (x : Binary64) : Nat := (x.bits.toNat / fractions) % 2048

/-- The 52 bits of the fraction. -/
def fractionField (x : Binary64) : Nat := x.bits.toNat % fractions

/-- Whether the pattern is no number. -/
def isNaN (x : Binary64) : Bool := x.exponentField == 2047 && x.fractionField != 0

/-- Whether the pattern is an infinity. -/
def isInfinite (x : Binary64) : Bool := x.exponentField == 2047 && x.fractionField == 0

/-- The significand of a finite pattern, its hidden bit included. -/
def significand (x : Binary64) : Nat :=
  if x.exponentField = 0 then x.fractionField else fractions + x.fractionField

/-- The power of two that scales the significand of a finite pattern, plus 1074. -/
def scale (x : Binary64) : Nat := x.exponentField - 1

/-- A fraction equal to the absolute value of a finite pattern. -/
def magnitude (x : Binary64) : Nat × Nat :=
  if 1074 ≤ x.scale then (x.significand * Nat.pow 2 (x.scale - 1074), 1)
  else (x.significand, Nat.pow 2 (1074 - x.scale))

/-! ### Numbers from decimals -/

/-- The same magnitude with the sign bit set. -/
def withSign (negative : Bool) (x : Binary64) : Binary64 :=
  if negative then ⟨x.bits ||| 0x8000000000000000⟩ else x

/-- The number nearest to `digits * 10 ^ exponent`, ties to even. -/
def ofDecimal (digits : Nat) (exponent : Int) : Binary64 :=
  let length : Int := (Nat.toDigits 10 digits).length
  if digits = 0 then zero
  else if exponent + length > 320 then ⟨0x7FF0000000000000⟩
  else if exponent + length < -400 then zero
  else ofFloat (Float.ofScientific digits (exponent < 0) exponent.natAbs)

/-- The number nearest to `n`, ties to even. -/
def ofNat (n : Nat) : Binary64 := ofDecimal n 0

/-- Positive infinity. -/
def infinity : Binary64 := ⟨0x7FF0000000000000⟩

/-- The positive quiet NaN. -/
def nan : Binary64 := ⟨0x7FF8000000000000⟩

/-- The largest whole number that is not above a positive number and not above `2 ^ 64 - 1`; zero
for anything that is not positive. -/
def toCount (x : Binary64) : Nat :=
  if x.isNaN || x.isNegative then 0
  else if x.isInfinite then 0xFFFFFFFFFFFFFFFF
  else
    let (num, den) := x.magnitude
    min (num / den) 0xFFFFFFFFFFFFFFFF

/-! ### The total order -/

/-- The place of a pattern in the total order. -/
def rank (x : Binary64) : Nat :=
  if x.isNegative then 0xFFFFFFFFFFFFFFFF - x.bits.toNat else x.bits.toNat + 0x8000000000000000

/-- Whether `x` comes no later than `y` in the total order. -/
def le (x y : Binary64) : Bool := x.rank ≤ y.rank

/-- A list of numbers in ascending order. -/
def sorted (xs : List Binary64) : List Binary64 := xs.mergeSort le

theorem rank_injective {x y : Binary64} (h : x.rank = y.rank) : x = y := by
  have hx := x.bits.toNat_lt
  have hy := y.bits.toNat_lt
  have key : x.bits.toNat = y.bits.toNat := by
    simp only [rank, isNegative, decide_eq_true_eq, UInt64.le_iff_toNat_le] at h
    have hc : (0x8000000000000000 : UInt64).toNat = 0x8000000000000000 := rfl
    rw [hc] at h
    split at h <;> split at h <;> omega
  cases x
  cases y
  exact congrArg _ (UInt64.toNat_inj.1 key)

end Binary64

end StripeTransfer
