/-
StripeTransfer/Text/Ascii.lean

Letter case among the 26 ASCII letters.  Names of options, policies and keys are
compared this way: characters outside ASCII stand for themselves only.
-/

namespace StripeTransfer.Text

/-- The lower-case form of an ASCII capital; any other character is unchanged. -/
def asciiLower (c : Char) : Char :=
  if 'A' ≤ c ∧ c ≤ 'Z' then Char.ofNat (c.toNat + 32) else c

/-- The text with its ASCII capitals in lower case. -/
def lowered (s : String) : String := String.ofList (s.toList.map asciiLower)

/-- Whether two texts agree up to the case of ASCII letters. -/
def sameIgnoringCase (s t : String) : Bool := s.toList.map asciiLower == t.toList.map asciiLower

/-- Whether `c` is one of the digits `0` to `9`. -/
def isDigit (c : Char) : Bool := '0' ≤ c && c ≤ '9'

/-- Whether `c` is an ASCII letter. -/
def isLetter (c : Char) : Bool := ('a' ≤ c && c ≤ 'z') || ('A' ≤ c && c ≤ 'Z')

end StripeTransfer.Text
