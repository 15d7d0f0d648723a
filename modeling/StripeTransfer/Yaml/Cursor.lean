/-
StripeTransfer/Yaml/Cursor.lean

Places in a YAML text, and what is said when something unexpected stands there.
-/

namespace StripeTransfer.Yaml

/-- A place in a text: its line and column, and the number of characters before it, all from zero
on. -/
structure Mark where
  line : Nat
  column : Nat
  index : Nat
  deriving Repr, DecidableEq, Inhabited

namespace Mark

/-- The beginning of a text. -/
def start : Mark := ⟨0, 0, 0⟩

/-- Whether a place is where another one is. -/
def sameAs (m n : Mark) : Bool := m.line == n.line && m.column == n.column

/-- Where a problem is, as messages put it; nothing is said of the beginning of the text. -/
def text (m : Mark) : String :=
  if m.sameAs start then "" else s!" at line {m.line + 1} column {m.column + 1}"

/-- The place behind some characters of a line. -/
def after (m : Mark) (n : Nat) : Mark := ⟨m.line, m.column + n, m.index + n⟩

/-- The place behind a line end of some characters. -/
def nextLine (m : Mark) (n : Nat) : Mark := ⟨m.line + 1, 0, m.index + n⟩

end Mark

/-- Why a text cannot be read. -/
inductive Problem where
  /-- What is unexpected, where, and what was being read since when. -/
  | malformed (what : String) (mark : Mark) (reading : Option (String × Mark))
  /-- A character that no text may have, by the number of octets before it. -/
  | control (offset : Nat)
  /-- An alias for something that has no name. -/
  | unknownAnchor (mark : Mark)
  /-- The text is no mapping. -/
  | notMapping (found : String) (mark : Mark)
  | severalDocuments
  deriving Repr, DecidableEq

/-- The message of a problem. -/
def Problem.message : Problem → String
  | malformed what mark none => what ++ mark.text
  | malformed what mark (some (reading, since)) =>
    what ++ mark.text ++ ", " ++ reading ++ if since.sameAs mark then "" else since.text
  | control offset =>
    "control characters are not allowed" ++ if offset = 0 then "" else s!" at position {offset}"
  | unknownAnchor mark => "unknown anchor" ++ mark.text
  | notMapping found mark => s!"invalid type: {found}, expected a map" ++ mark.text
  | severalDocuments =>
    "deserializing from YAML containing more than one document is not supported"

/-! ### Characters -/

/-- Whether a character ends a line. -/
def isBreak (c : Char) : Bool :=
  c == '\n' || c == '\r' || c.toNat == 0x85 || c.toNat == 0x2028 || c.toNat == 0x2029

/-- Whether a character is a space or a tab. -/
def isGap (c : Char) : Bool := c == ' ' || c == '\t'

/-- Whether a word ends before what comes next. -/
def endsWord : Option Char → Bool
  | none => true
  | some c => isGap c || isBreak c

/-- Whether a character may stand in a text. -/
def isAllowed (c : Char) : Bool :=
  let n := c.toNat
  n == 9 || n == 10 || n == 13 || (0x20 ≤ n && n ≤ 0x7E) || n == 0x85 ||
    (0xA0 ≤ n && n ≤ 0xFFFD) || 0x10000 ≤ n

/-- The number of octets before the first character that may not stand in a text. -/
def firstControl (offset : Nat) : List Char → Option Nat
  | [] => none
  | c :: rest => if isAllowed c then firstControl (offset + c.utf8Size) rest else some offset

/-- A part of a text: what is still to be read, and where it begins. -/
structure Cursor where
  rest : List Char
  mark : Mark
  deriving Repr, DecidableEq

namespace Cursor

/-- The next character. -/
def next? (c : Cursor) : Option Char := c.rest.head?

/-- The cursor behind some characters of a line. -/
def skip (c : Cursor) (n : Nat) : Cursor := ⟨c.rest.drop n, c.mark.after n⟩

/-- The cursor behind the characters of a line that satisfy `p`. -/
def skipWhile (c : Cursor) (p : Char → Bool) : Cursor := c.skip (c.rest.takeWhile p).length

/-- The cursor behind a line end, and the line end as it is kept in folded texts. -/
def skipBreak (c : Cursor) : Char × Cursor :=
  match c.rest with
  | '\r' :: '\n' :: rest => ('\n', ⟨rest, c.mark.nextLine 2⟩)
  | b :: rest =>
    (if b.toNat == 0x2028 || b.toNat == 0x2029 then b else '\n', ⟨rest, c.mark.nextLine 1⟩)
  | [] => ('\n', c)

/-- Whether a document starts or ends here. -/
def atDocumentMark (c : Cursor) : Bool :=
  c.mark.column == 0 &&
    match c.rest with
    | a :: b :: d :: rest => (a == '-' || a == '.') && a == b && b == d && endsWord rest.head?
    | _ => false

/-- A problem at the cursor while something is being read. -/
def fail {α : Type} (c : Cursor) (what reading : String) (since : Mark) : Except Problem α :=
  .error (.malformed what c.mark (some (reading, since)))

end Cursor

end StripeTransfer.Yaml
