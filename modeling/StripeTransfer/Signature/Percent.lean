/-
StripeTransfer/Signature/Percent.lean

Percent encoding.  Letters, digits and four marks stand for themselves; every
other octet of a text is written as a percent sign and two capital hexadecimal
digits.  Decoding gives the octets back.
-/
import StripeTransfer.Text.Blank
import StripeTransfer.Text.Numeral
import StripeTransfer.Text.Utf8

namespace StripeTransfer.Percent

open Text

/-- Whether an octet stands for itself. -/
def isUnreserved (b : UInt8) : Bool :=
  (65 ≤ b && b ≤ 90) || (97 ≤ b && b ≤ 122) || (48 ≤ b && b ≤ 57) || b == 45 || b == 95 || b == 46 ||
    b == 126

/-- How one octet is written. -/
def encodeOctet (b : UInt8) : List Char :=
  if isUnreserved b then [Char.ofNat b.toNat]
  else ['%', hexDigitUpper (b.toNat / 16), hexDigitUpper (b.toNat % 16)]

/-- The encoded octets of a text. -/
def encodeChars (s : String) : List Char := (octets s).flatMap encodeOctet

/-- The encoded form of a text. -/
def encode (s : String) : String := String.ofList (encodeChars s)

/-- The octets of an encoded text. -/
def decode : List Char → Option (List UInt8)
  | [] => some []
  | '%' :: hi :: lo :: rest =>
    match hexDigit? hi, hexDigit? lo, decode rest with
    | some h, some l, some bs => some ((16 * h + l).toUInt8 :: bs)
    | _, _, _ => none
  | c :: rest => if c = '%' then none else (decode rest).map (c.toNat.toUInt8 :: ·)

/-- The encoded form of a path: its segments encoded, the slashes between them kept. -/
def encodePathChars (path : String) : List Char :=
  List.intercalate ['/'] ((pieces '/' path.toList).map fun p => encodeChars (String.ofList p))

/-- The encoded form of a path. -/
def encodePath (path : String) : String := String.ofList (encodePathChars path)

/-! ### Queries -/

/-- Whether a pair of encoded texts comes no later than another: by the first text, then by the
second. -/
def pairLe (p q : List Char × List Char) : Bool := p.1 < q.1 || (p.1 == q.1 && !(q.2 < p.2))

/-- The encoded parameters in ascending order. -/
def encodedPairs (query : List (String × String)) : List (List Char × List Char) :=
  (query.map fun (n, v) => (encodeChars n, encodeChars v)).mergeSort pairLe

/-- One parameter: its name, an equals sign, its value. -/
def joinPair (p : List Char × List Char) : List Char := p.1 ++ '=' :: p.2

/-- The encoded form of query parameters, in canonical order. -/
def encodeQueryChars (query : List (String × String)) : List Char :=
  List.intercalate ['&'] ((encodedPairs query).map joinPair)

/-- The encoded form of query parameters, in canonical order. -/
def encodeQuery (query : List (String × String)) : String := String.ofList (encodeQueryChars query)

end StripeTransfer.Percent
