/-
StripeTransfer/Text/Numeral.lean

Reading whole numbers.  A numeral is an optional sign followed by at least one
ASCII digit, and nothing else: no blanks, no separators, no exponent.  A reader
for counts accepts a plus sign only, and refuses values past its bound.
-/
import StripeTransfer.Text.Ascii

namespace StripeTransfer.Text

/-- Largest value of a 16-bit count. -/
def max16 : Nat := 0xFFFF

/-- Largest value of a 32-bit count. -/
def max32 : Nat := 0xFFFFFFFF

/-- Largest value of a 64-bit count. -/
def max64 : Nat := 0xFFFFFFFFFFFFFFFF

/-- The value of a run of digits read after the value `acc`; `none` at any other character. -/
def digitsFrom (acc : Nat) : List Char → Option Nat
  | [] => some acc
  | c :: rest => if isDigit c then digitsFrom (10 * acc + (c.toNat - 48)) rest else none

/-- The value of a run of at least one digit. -/
def digits? : List Char → Option Nat
  | [] => none
  | s@(_ :: _) => digitsFrom 0 s

/-- Reads a count that is at most `bound`, with an optional plus sign. -/
def count? (bound : Nat) (s : List Char) : Option Nat :=
  let value := match s with
    | '+' :: rest => digits? rest
    | s => digits? s
  value.filter (· ≤ bound)

/-- Why a text is no count. -/
inductive CountError where
  | empty
  | digit
  | tooLarge
  deriving Repr, DecidableEq

/-- The message of a text that is no count. -/
def CountError.message : CountError → String
  | .empty => "cannot parse integer from empty string"
  | .digit => "invalid digit found in string"
  | .tooLarge => "number too large to fit in target type"

/-- The value of a run of digits read after the value `acc`, or what is wrong with it first. -/
def readDigits (bound acc : Nat) : List Char → Except CountError Nat
  | [] => .ok acc
  | c :: rest =>
    let value := 10 * acc + (c.toNat - 48)
    if !isDigit c then .error .digit
    else if bound < value then .error .tooLarge
    else readDigits bound value rest

/-- Reads a count like `count?`, and says what is wrong with other texts. -/
def readCount (bound : Nat) : List Char → Except CountError Nat
  | [] => .error .empty
  | ['+'] => .error .digit
  | '+' :: rest => readDigits bound 0 rest
  | s => readDigits bound 0 s

/-- Reads a whole number with an optional sign whose value fits 64 bits in two's complement. -/
def int64? (s : List Char) : Option Int :=
  match s with
  | '-' :: rest => ((digits? rest).filter (· ≤ 0x8000000000000000)).map fun n => -(n : Int)
  | s => (count? 0x7FFFFFFFFFFFFFFF s).map Int.ofNat

/-- The value of a hexadecimal digit. -/
def hexDigit? (c : Char) : Option Nat :=
  if isDigit c then some (c.toNat - 48)
  else if 'a' ≤ c && c ≤ 'f' then some (c.toNat - 87)
  else if 'A' ≤ c && c ≤ 'F' then some (c.toNat - 55)
  else none

/-- The character of a hexadecimal digit below 16, in lower case. -/
def hexDigit (n : Nat) : Char := if n < 10 then Char.ofNat (48 + n) else Char.ofNat (87 + n)

/-- The character of a hexadecimal digit below 16, in upper case. -/
def hexDigitUpper (n : Nat) : Char := if n < 10 then Char.ofNat (48 + n) else Char.ofNat (55 + n)

/-- Two lower-case hexadecimal digits for each octet. -/
def hexOctets (octets : List UInt8) : List Char :=
  octets.flatMap fun b => [hexDigit (b.toNat / 16), hexDigit (b.toNat % 16)]

/-- The hexadecimal numeral of `n` in lower case, without leading zeros. -/
def hexNumeral (n : Nat) : List Char := Nat.toDigits 16 n

end StripeTransfer.Text
