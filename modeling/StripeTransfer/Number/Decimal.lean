/-
StripeTransfer/Number/Decimal.lean

Decimal texts of measurements.  A number is written either with the fewest
digits that read back to it, or with a set number of places.

Both go through exact arithmetic on the fraction that the bit pattern stands
for.  The reals that round to a pattern form an interval around it, closed when
the significand is even; the search tries one digit, two digits, and so on, and
on each decimal grid looks at the two neighbours of the number only, because if
any point of a grid lies in the interval then one of these two does.
-/
import StripeTransfer.Number.Binary64

namespace StripeTransfer

/-! ### Rounding quotients -/

/-- The whole number nearest to `num / den`; a tie goes to the even neighbour. -/
def roundDiv (num den : Nat) : Nat :=
  let q := num / den
  let r := num % den
  if 2 * r < den then q
  else if den < 2 * r then q + 1
  else if q % 2 = 0 then q else q + 1

/-! ### Positional notation -/

/-- The digits of `n`, with zeros in front until there are `width` of them. -/
def padded (width n : Nat) : List Char :=
  let ds := Nat.toDigits 10 n
  List.replicate (width - ds.length) '0' ++ ds

/-- The text of `n / 10 ^ places`, with exactly that many digits behind the point. -/
def pointed (n places : Nat) : List Char :=
  if places = 0 then Nat.toDigits 10 n
  else Nat.toDigits 10 (n / Nat.pow 10 places) ++ '.' :: padded places (n % Nat.pow 10 places)

/-- A decimal `digits * 10 ^ exponent`. -/
structure Decimal where
  digits : Nat
  exponent : Int
  deriving Repr, DecidableEq

/-- Removes zeros at the end of the digits, up to `fuel` of them. -/
def Decimal.strip : (fuel : Nat) → Decimal → Decimal
  | 0, d => d
  | fuel + 1, d =>
    if d.digits ≠ 0 ∧ d.digits % 10 = 0 then strip fuel ⟨d.digits / 10, d.exponent + 1⟩ else d

/-- Positional text: zeros in place of a positive exponent, places for a negative one. -/
def Decimal.text (d : Decimal) : List Char :=
  match d.exponent with
  | .ofNat e => Nat.toDigits 10 (d.digits * Nat.pow 10 e)
  | .negSucc e => pointed d.digits (e + 1)

/-! ### The fewest digits that read back -/

namespace Binary64

/-- The interval of reals that round to a finite pattern other than zero, as two numerators over
one denominator, and whether its ends belong to it. -/
def interval (x : Binary64) : Nat × Nat × Nat × Bool :=
  let (num, den) := x.magnitude
  let unit := if 1074 ≤ x.scale then Nat.pow 2 (x.scale - 1074) else 1
  let below := if x.fractionField = 0 ∧ 1 < x.exponentField then unit else 2 * unit
  (4 * num - below, 4 * num + 2 * unit, 4 * den, x.significand % 2 = 0)

/-- Whether the decimal lies in the interval of `x`. -/
def admits (x : Binary64) (d : Decimal) : Bool :=
  let (lo, hi, den, closed) := x.interval
  let (num, scale) := match d.exponent with
    | .ofNat e => (d.digits * Nat.pow 10 e, 1)
    | .negSucc e => (d.digits, Nat.pow 10 (e + 1))
  let value := num * den
  if closed then lo * scale ≤ value && value ≤ hi * scale
  else lo * scale < value && value < hi * scale

/-- The neighbours of `x` on the grid of multiples of `10 ^ exponent`, the nearer one first; a tie
puts the even one first. -/
def neighbours (x : Binary64) (exponent : Int) : List Decimal :=
  let (num, den) := x.magnitude
  let (num, den) := match exponent with
    | .ofNat e => (num, den * Nat.pow 10 e)
    | .negSucc e => (num * Nat.pow 10 (e + 1), den)
  let near := roundDiv num den
  let floor := num / den
  let far := if near = floor then floor + 1 else floor
  [⟨near, exponent⟩, ⟨far, exponent⟩]

/-- The exponent of the leading digit of a finite pattern other than zero. -/
def leadingExponent (x : Binary64) : Int :=
  let (num, den) := x.magnitude
  if den ≤ num then ((Nat.toDigits 10 (num / den)).length : Int) - 1
  else
    -- one more than the zeros behind the point: the digits of `den / num`, corrected at powers
    let e := (Nat.toDigits 10 (den / num)).length
    if den ≤ num * Nat.pow 10 (e - 1) then -((e : Int) - 1) else -(e : Int)

/-- The shortest decimal in the interval of `x`, trying `tried + 1` digits and then more. -/
def shortestFrom (x : Binary64) : (fuel tried : Nat) → Decimal
  | 0, tried => ((x.neighbours (x.leadingExponent - tried)).headD ⟨0, 0⟩)
  | fuel + 1, tried =>
    match (x.neighbours (x.leadingExponent - tried)).find? x.admits with
    | some d => d
    | none => shortestFrom x fuel (tried + 1)

/-- The decimal with the fewest digits that reads back to a finite pattern other than zero. -/
def shortest (x : Binary64) : Decimal := (x.shortestFrom 17 0).strip 400

/-- The shortest text that reads back: positional, without a point for whole numbers. -/
def text (x : Binary64) : String :=
  if x.isNaN then "NaN"
  else
    let sign := if x.isNegative then "-" else ""
    if x.isInfinite then sign ++ "inf"
    else if x.significand = 0 then sign ++ "0"
    else sign ++ String.ofList x.shortest.text

/-- The text with a set number of places, rounded from the exact value with ties to even. -/
def fixedText (x : Binary64) (places : Nat) : String :=
  if x.isNaN then "NaN"
  else
    let sign := if x.isNegative then "-" else ""
    if x.isInfinite then sign ++ "inf"
    else
      let (num, den) := x.magnitude
      sign ++ String.ofList (pointed (roundDiv (num * Nat.pow 10 places) den) places)

end Binary64

end StripeTransfer
