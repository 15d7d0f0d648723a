/-
StripeTransfer/Text/Utf8.lean

Reading octets as UTF-8.  `step` reads one character off the front, or says how
many octets form the longest prefix that could still have begun a character.
A strict reading fails at the first such prefix; a lenient one replaces each of
them by the replacement character and goes on behind it.
-/

namespace StripeTransfer.Text

/-- What stands at the front of a list of octets: a character and how many octets it took, or a
malformed prefix and its length. -/
inductive Utf8Step where
  | char (c : Char) (length : Nat)
  | malformed (length : Nat)
  deriving Repr, DecidableEq

/-- Whether an octet continues a character. -/
def isTrail (b : UInt8) : Bool := 0x80 ≤ b && b ≤ 0xBF

/-- How many octets follow the leading octet `b0`, and the range of the first of them; `none` if no
character of several octets starts with `b0`. -/
def utf8Lead (b0 : UInt8) : Option (Nat × UInt8 × UInt8) :=
  if 0xC2 ≤ b0 && b0 ≤ 0xDF then some (1, 0x80, 0xBF)
  else if b0 == 0xE0 then some (2, 0xA0, 0xBF)
  else if b0 == 0xED then some (2, 0x80, 0x9F)
  else if 0xE1 ≤ b0 && b0 ≤ 0xEF then some (2, 0x80, 0xBF)
  else if b0 == 0xF0 then some (3, 0x90, 0xBF)
  else if 0xF1 ≤ b0 && b0 ≤ 0xF3 then some (3, 0x80, 0xBF)
  else if b0 == 0xF4 then some (3, 0x80, 0x8F)
  else none

/-- The six payload bits of a continuing octet. -/
def trailBits (b : UInt8) : Nat := b.toNat % 64

/-- Reads one character off the front of `b0 :: rest`. -/
def utf8Step (b0 : UInt8) (rest : List UInt8) : Utf8Step :=
  if b0 < 0x80 then .char (Char.ofNat b0.toNat) 1
  else
    match utf8Lead b0, rest with
    | none, _ => .malformed 1
    | some _, [] => .malformed 1
    | some (n, lo, hi), b1 :: rest =>
      if !(lo ≤ b1 && b1 ≤ hi) then .malformed 1
      else if n == 1 then .char (Char.ofNat (b0.toNat % 32 * 64 + trailBits b1)) 2
      else
        match rest with
        | [] => .malformed 2
        | b2 :: rest =>
          if !isTrail b2 then .malformed 2
          else if n == 2 then
            .char (Char.ofNat ((b0.toNat % 16 * 64 + trailBits b1) * 64 + trailBits b2)) 3
          else
            match rest with
            | [] => .malformed 3
            | b3 :: _ =>
              if !isTrail b3 then .malformed 3
              else .char (Char.ofNat
                (((b0.toNat % 8 * 64 + trailBits b1) * 64 + trailBits b2) * 64 + trailBits b3)) 4

/-- How many octets the step consumed. -/
def Utf8Step.length : Utf8Step → Nat
  | .char _ n => n
  | .malformed n => n

/-- Reads octets as characters; `skip` octets belong to the character read last. -/
def utf8Lenient : (skip : Nat) → List UInt8 → List Char
  | _, [] => []
  | skip + 1, _ :: rest => utf8Lenient skip rest
  | 0, b0 :: rest =>
    let front := utf8Step b0 rest
    (match front with
      | .char c _ => c
      | .malformed _ => '\uFFFD') :: utf8Lenient (front.length - 1) rest

/-- The text of some octets, with `U+FFFD` for each maximal malformed prefix. -/
def decodeLenient (octets : ByteArray) : String :=
  String.ofList (utf8Lenient 0 octets.toList)

/-- The text of some octets, if they are well-formed. -/
def decode? (octets : ByteArray) : Option String := String.fromUTF8? octets

/-- The octets of a text. -/
def octets (s : String) : List UInt8 := s.toUTF8.toList

end StripeTransfer.Text
