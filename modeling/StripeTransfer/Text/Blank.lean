/-
StripeTransfer/Text/Blank.lean

White space and lines.  A character is blank when it has the Unicode property
`White_Space`; trimming, splitting into words and splitting into lines are all
defined from that one predicate on lists of characters, so that each can be
reasoned about by induction on the text.

A line ends at a line feed, and one carriage return directly before the line
feed belongs to the line end.  A carriage return anywhere else is part of the
line, and text after the last line feed is a line of its own unless it is empty.
-/

namespace StripeTransfer.Text

/-! ### Blank characters -/

/-- Whether `c` has the Unicode property `White_Space`. -/
def isBlank (c : Char) : Bool :=
  let n := c.toNat
  (9 ≤ n && n ≤ 13) || n == 0x20 || n == 0x85 || n == 0xA0 || n == 0x1680 ||
    (0x2000 ≤ n && n ≤ 0x200A) || n == 0x2028 || n == 0x2029 || n == 0x202F ||
    n == 0x205F || n == 0x3000

/-- The text without the blanks at its start. -/
def trimLeft (s : List Char) : List Char := s.dropWhile isBlank

/-- The text without the blanks at its end. -/
def trimRight (s : List Char) : List Char := (s.reverse.dropWhile isBlank).reverse

/-- The text without the blanks at either end. -/
def trim (s : List Char) : List Char := trimRight (trimLeft s)

/-- `trim` on strings. -/
def trimmed (s : String) : String := String.ofList (trim s.toList)

/-! ### Words -/

/-- The maximal runs of characters that are not blank; the first component is the run that is
still open at the start of the text. -/
def wordsAux : List Char → List Char × List (List Char)
  | [] => ([], [])
  | c :: rest =>
    let (open_, done) := wordsAux rest
    if isBlank c then ([], if open_.isEmpty then done else open_ :: done) else (c :: open_, done)

/-- The words of a text: its maximal runs of characters that are not blank. -/
def words (s : List Char) : List (List Char) :=
  let (open_, done) := wordsAux s
  if open_.isEmpty then done else open_ :: done

/-! ### Lines -/

/-- The lines of a text, without their line ends. -/
def lines : List Char → List (List Char)
  | [] => []
  | '\n' :: rest => [] :: lines rest
  | '\r' :: '\n' :: rest => [] :: lines rest
  | c :: rest =>
    match lines rest with
    | [] => [[c]]
    | l :: ls => (c :: l) :: ls

/-! ### Pieces -/

/-- The pieces of a text between the occurrences of `sep`, one more than there are of them. -/
def pieces (sep : Char) : List Char → List (List Char)
  | [] => [[]]
  | c :: rest =>
    if c = sep then [] :: pieces sep rest
    else
      match pieces sep rest with
      | [] => [[c]]
      | p :: ps => (c :: p) :: ps

/-- The text before and after the first occurrence of `sep`. -/
def splitFirst (sep : Char) : List Char → Option (List Char × List Char)
  | [] => none
  | c :: rest =>
    if c = sep then some ([], rest)
    else (splitFirst sep rest).map fun p => (c :: p.1, p.2)

/-- The text after `lead`, if it starts with it. -/
def dropLead : (lead : List Char) → List Char → Option (List Char)
  | [], s => some s
  | _ :: _, [] => none
  | a :: lead, c :: s => if a = c then dropLead lead s else none

/-- The text before `tail`, if it ends with it. -/
def dropTail (tail s : List Char) : Option (List Char) :=
  (dropLead tail.reverse s.reverse).map List.reverse

end StripeTransfer.Text
