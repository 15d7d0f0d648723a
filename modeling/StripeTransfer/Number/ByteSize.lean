/-
StripeTransfer/Number/ByteSize.lean

Sizes in bytes as people write them.  A size prints with one place and the
largest binary unit that is not above it.  Reading accepts a plain count, or a
decimal with a decimal (`kb`) or binary (`kib`) unit in any letter case.  A
decimal without a point is scaled exactly and capped at the largest 64-bit
count; one with a point is scaled as a machine number and cut to a whole number.
-/
import StripeTransfer.Number.Decimal
import StripeTransfer.Text.Blank
import StripeTransfer.Text.Numeral
import StripeTransfer.Text.Quoted

namespace StripeTransfer.ByteSize

open Text

/-! ### Writing -/

/-- The letters of the binary units, from 1024 upwards. -/
def unitLetters : List Char := ['K', 'M', 'G', 'T', 'P', 'E']

/-- The unit of a size of at least 1024: its letter and its size. -/
def unitOf (size : Nat) : List Char → (scale : Nat) → Char × Nat
  | [], scale => ('E', scale)
  | [c], scale => (c, scale)
  | c :: rest, scale => if size < scale * 1024 then (c, scale) else unitOf size rest (scale * 1024)

/-- The text of a size: whole bytes below 1024, otherwise one place and a binary unit. -/
def text (bytes : Nat) : String :=
  if bytes < 1024 then s!"{bytes} B"
  else
    let (num, den) := (Binary64.ofNat bytes).magnitude
    let (letter, scale) := unitOf (num / den) unitLetters 1024
    String.ofList (pointed (roundDiv (num * 10) (den * scale)) 1) ++ " " ++ letter.toString ++ "iB"

/-! ### Reading -/

/-- Why a text is not a size. -/
inductive Error where
  /-- The text does not start with a decimal. -/
  | number (text : String) (empty : Bool)
  /-- The text behind the decimal is not a unit. -/
  | unit (suffix : String)
  deriving Repr, DecidableEq

/-- The first characters of a unit that make up at least three octets. -/
def abridged (budget : Nat) : List Char → List Char
  | [] => []
  | c :: rest => if budget = 0 then [] else c :: abridged (budget - c.utf8Size) rest

/-- The unit as a message shows it. -/
def shownUnit (suffix : String) : String :=
  if suffix.utf8ByteSize ≤ 3 then suffix
  else String.ofList (abridged 3 suffix.toList) ++ "..."

/-- The message of a refused size. -/
def Error.message : Error → String
  | .number text true =>
    s!"couldn't parse {quoted text} into a ByteSize, cannot parse float from empty string"
  | .number text false => s!"couldn't parse {quoted text} into a ByteSize, invalid float literal"
  | .unit suffix =>
    s!"couldn't parse {quoted suffix} into a known SI unit, Failed to parse unit \"" ++
      shownUnit suffix ++ "\""

/-- The number of bytes in a unit, by its lower-case name. -/
def unitSize? : List Char → Option Nat
  | ['b'] => some 1
  | [c] => decimal c
  | [c, 'b'] => decimal c
  | [c, 'i'] => binary c
  | [c, 'i', 'b'] => binary c
  | _ => none
where
  rank (c : Char) : Option Nat := ['k', 'm', 'g', 't', 'p', 'e'].findIdx? (· == c)
  decimal (c : Char) : Option Nat := (rank c).map fun i => Nat.pow 1000 (i + 1)
  binary (c : Char) : Option Nat := (rank c).map fun i => Nat.pow 1024 (i + 1)

/-- The digits before and behind the point of a decimal with at least one digit. -/
def decimal? (s : List Char) : Option (List Char × List Char) :=
  let (whole, places) := (splitFirst '.' s).getD (s, [])
  if (whole ++ places).all isDigit && !(whole ++ places).isEmpty then some (whole, places) else none

/-- Reads a size. -/
def parse (s : String) : Except Error Nat :=
  match count? max64 s.toList with
  | some n => .ok n
  | none =>
    let isNumber (c : Char) : Bool := isDigit c || c == '.'
    let number := s.toList.takeWhile isNumber
    let suffix := trimLeft (s.toList.dropWhile isNumber)
    match decimal? number with
    | none => .error (.number s number.isEmpty)
    | some (whole, places) =>
      match unitSize? (suffix.map asciiLower) with
      | none => .error (.unit (String.ofList suffix))
      | some size =>
        let digits := (digitsFrom 0 (whole ++ places)).getD 0
        if number.contains '.' then
          .ok (Binary64.ofDecimal digits (-(places.length : Int)) * Binary64.ofNat size).toCount
        else .ok (min (digits * size) max64)

end StripeTransfer.ByteSize
