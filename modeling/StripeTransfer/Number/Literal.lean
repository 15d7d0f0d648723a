/-
StripeTransfer/Number/Literal.lean

Reading decimals: an optional sign, digits with an optional point before, among
or behind them, and an optional exponent.  The value is the nearest machine
number.
-/
import StripeTransfer.Number.Binary64
import StripeTransfer.Text.Blank
import StripeTransfer.Text.Numeral

namespace StripeTransfer

open Text

/-- A whole number with an optional sign. -/
def signedDigits? (s : List Char) : Option Int :=
  match s with
  | '-' :: rest => (digits? rest).map fun n => -(n : Int)
  | '+' :: rest => (digits? rest).map Int.ofNat
  | s => (digits? s).map Int.ofNat

/-- The text before the exponent, and the exponent. -/
def splitExponent (s : List Char) : Option (List Char × Int) :=
  let isMark (c : Char) : Bool := c == 'e' || c == 'E'
  match s.dropWhile (!isMark ·) with
  | [] => some (s, 0)
  | _ :: exponent => (signedDigits? exponent).map fun e => (s.takeWhile (!isMark ·), e)

namespace Binary64

/-- Reads a decimal without a sign. -/
def ofDigits? (s : List Char) : Option Binary64 := do
  let (mantissa, exponent) ← splitExponent s
  let (whole, places) := (splitFirst '.' mantissa).getD (mantissa, [])
  let digits ← digits? (whole ++ places)
  return ofDecimal digits (exponent - places.length)

/-- Reads a decimal. -/
def ofText? (s : List Char) : Option Binary64 :=
  match s with
  | '-' :: rest => (ofDigits? rest).map (withSign true)
  | '+' :: rest => ofDigits? rest
  | s => ofDigits? s

end Binary64

end StripeTransfer
