/-
StripeTransfer/Web/Domain.lean

The names of hosts in ASCII.  A name is put in lower case; each of its labels
that has characters outside ASCII is written as `xn--` followed by its ASCII
characters and by the others as differences between code points, in ascending
order, in numerals whose digit thresholds follow what has been written so far.

Writing and reading of the differences are both here, since a label that already
starts with `xn--` is only accepted if it reads as a label that would be written
so.
-/
import StripeTransfer.Text.Blank
import StripeTransfer.Text.CaseFold
import StripeTransfer.Text.Hidden
import StripeTransfer.Text.Numeral

namespace StripeTransfer.Domain

open Text

/-! ### Numerals of differences -/

/-- The digit of a value below 36: the letters, then the ten digits. -/
def digit (n : Nat) : Char := if n < 26 then Char.ofNat (97 + n) else Char.ofNat (22 + n)

/-- The value of a digit, letters in either case. -/
def digitValue? (c : Char) : Option Nat :=
  if isDigit c then some (c.toNat - 22)
  else if isLetter c then some ((asciiLower c).toNat - 97)
  else none

/-- The first value at a place that does not end a numeral. -/
def threshold (place bias : Nat) : Nat := min 26 (max 1 (place - bias))

theorem threshold_pos (place bias : Nat) : 1 ≤ threshold place bias := by
  unfold threshold; omega

/-- How often a difference is reduced before it is small, and what remains of it. -/
def reduced (delta : Nat) : Nat × Nat :=
  if _h : 455 < delta then
    let (rest, k) := reduced (delta / 35)
    (rest, k + 36)
  else (delta, 0)
termination_by delta
decreasing_by exact Nat.div_lt_self (by omega) (by omega)

/-- The bias after a difference has been written as the `count`-th one. -/
def adapted (delta count : Nat) (first : Bool) : Nat :=
  let delta := if first then delta / 700 else delta / 2
  let (rest, k) := reduced (delta + delta / count)
  k + 36 * rest / (rest + 38)

/-- The numeral of a difference, from a place on. -/
def numeral (bias place n : Nat) : List Char :=
  let t := threshold place bias
  if h : n < t then [digit n]
  else digit (t + (n - t) % (36 - t)) :: numeral bias (place + 36) ((n - t) / (36 - t))
termination_by n
decreasing_by
  have h1 := threshold_pos place bias
  exact Nat.lt_of_le_of_lt (Nat.div_le_self _ _) (by omega)

/-- Reads a numeral: its value and the text behind it. -/
def readNumeral (bias : Nat) : (place weight value : Nat) → List Char → Option (Nat × List Char)
  | _, _, _, [] => none
  | place, weight, value, c :: rest =>
    match digitValue? c with
    | none => none
    | some d =>
      let t := threshold place bias
      if d < t then some (value + d * weight, rest)
      else readNumeral bias (place + 36) (weight * (36 - t)) (value + d * weight) rest

/-! ### Labels -/

/-- Whether a character is in ASCII. -/
def isAscii (c : Char) : Bool := c.toNat < 128

/-- How far the writing of a label has come. -/
structure Progress where
  written : List Char
  delta : Nat
  bias : Nat
  /-- How many characters of the label are accounted for. -/
  count : Nat

/-- Passes one character of the label while the code point `n` is written. -/
def pass (basics n : Nat) (p : Progress) (c : Char) : Progress :=
  if c.toNat < n then { p with delta := p.delta + 1 }
  else if c.toNat = n then
    ⟨p.written ++ numeral p.bias 36 p.delta, 0, adapted p.delta (p.count + 1) (p.count == basics),
      p.count + 1⟩
  else p

/-- Writes the given code points of the label, in ascending order; `n` is the least one that has
not been passed. -/
def writePoints (label : List Char) (basics : Nat) (n : Nat) (p : Progress) : List Nat → Progress
  | [] => p
  | m :: rest =>
    let p := { p with delta := p.delta + (m - n) * (p.count + 1) }
    let p := label.foldl (pass basics m) p
    writePoints label basics (m + 1) { p with delta := p.delta + 1 } rest

/-- The code points of a label outside ASCII, in ascending order, each once. -/
def foreignPoints (label : List Char) : List Nat :=
  (((label.filter fun c => !isAscii c).map Char.toNat).mergeSort fun a b => a ≤ b).eraseDups

/-- The label without the characters outside ASCII, and these as differences behind it. -/
def encodeLabel (label : List Char) : List Char :=
  let basics := label.filter isAscii
  let start : Progress := ⟨[], 0, 72, basics.length⟩
  let separator := if basics.isEmpty then [] else ['-']
  basics ++ separator ++ (writePoints label basics.length 128 start (foreignPoints label)).written

/-- Reads differences behind the characters `known`, at most `fuel` of them; `n` and `i` are the
code point and the place reached. -/
def readPoints : (fuel : Nat) → (known : List Char) → (n i bias : Nat) → (first : Bool) →
    List Char → Option (List Char)
  | _, known, _, _, _, _, [] => some known
  | 0, _, _, _, _, _, _ :: _ => none
  | fuel + 1, known, n, i, bias, first, s@(_ :: _) =>
    match readNumeral bias 36 1 0 s with
    | none => none
    | some (delta, rest) =>
      let count := known.length + 1
      let place := (i + delta) % count
      let point := n + (i + delta) / count
      if point.isValidChar then
        let known := known.take place ++ Char.ofNat point :: known.drop place
        readPoints fuel known point (place + 1) (adapted delta count first) false rest
      else none

/-- The label that is written as `s`. -/
def decodeLabel (s : List Char) : Option (List Char) :=
  let tail := (s.reverse.takeWhile (· != '-')).reverse
  let basics := (s.take (s.length - tail.length)).dropLast
  readPoints tail.length basics 128 0 72 true tail

/-! ### Names -/

/-- The start of a label in ASCII that is written for another one. -/
def foreignMark : List Char := ['x', 'n', '-', '-']

/-- The characters that no host name has. -/
def isForbidden (c : Char) : Bool :=
  c.toNat ≤ 32 || c.toNat == 127 ||
    ['%', '#', '/', ':', '<', '>', '?', '@', '[', '\\', ']', '^', '|'].contains c

/-- What a character of a name stands for. -/
def mapped (c : Char) : List Char :=
  let n := c.toNat
  if isAscii c then [asciiLower c]
  else if n == 0x3002 || n == 0xFF61 then ['.']
  else if 0xFF01 ≤ n && n ≤ 0xFF5E then [asciiLower (Char.ofNat (n - 0xFEE0))]
  else if n == 0x3C2 then [c]
  else if n == 0xAD || n == 0x200B || n == 0x2060 || n == 0xFEFF then []
  else [fold c]

/-- Whether a label of mapped characters is acceptable before it is written in ASCII. -/
def isLabel (label : List Char) : Bool :=
  label.all fun c => if isAscii c then !isForbidden c else !(isBlank c || isHidden c)

/-- Whether a label in ASCII is one that is written for another label. -/
def isWritten (written : List Char) : Bool :=
  match decodeLabel written with
  | none => false
  | some read =>
    isLabel read && !read.all isAscii && read.flatMap mapped == read && encodeLabel read == written

/-- The form in ASCII of a label of mapped characters. -/
def asciiLabel? (label : List Char) : Option (List Char) :=
  if !isLabel label then none
  else
    match dropLead foreignMark label with
    | some written => if written.all isAscii && isWritten written then some label else none
    | none => some (if label.all isAscii then label else foreignMark ++ encodeLabel label)

/-- The form in ASCII of a host's name. -/
def toAscii? (name : List Char) : Option (List Char) :=
  ((pieces '.' (name.flatMap mapped)).mapM asciiLabel?).map (List.intercalate ['.'])

end StripeTransfer.Domain
