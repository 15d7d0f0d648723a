/-
StripeTransfer/Settings/Inline.lean

Settings written on one line, as in the environment.  A text is a truth value, a
list in brackets, a map in braces, a text in quotes, one character in single
quotes, a number, or else itself.  A text that is none of these in full stands
for itself with all its blanks.
-/
import StripeTransfer.Settings.Value
import StripeTransfer.Text.Ascii

namespace StripeTransfer.Inline

open Text

/-- Whether a character is a blank between the parts of a setting. -/
def isSpace (c : Char) : Bool :=
  c == ' ' || c == '\t' || c == '\n' || c == '\r' || c == '\x0c'

/-- The text without the blanks at its start. -/
def dropSpaces (s : List Char) : List Char := s.dropWhile isSpace

/-- Whether a character stands between the items of a list or around them. -/
def isSeparator (c : Char) : Bool := [',', '\x7b', '\x7d', '[', ']'].contains c

/-- Whether a character may be part of a key. -/
def isKeyChar (c : Char) : Bool := isDigit c || isLetter c || c == '_' || c == '-'

/-- The value of a word. -/
def word (s : List Char) : Leaf :=
  let s := trim s
  match (if s.contains '.' then Binary64.ofText? s else none), count? max64 s, int64? s with
  | some x, _, _ => .float x
  | none, some n, _ => .unsigned n
  | none, none, some n => .signed n
  | none, none, none => .text (String.ofList s)

/-- The value of some hexadecimal digits. -/
def hexValue? (s : List Char) : Option Nat :=
  s.foldlM (fun n c => (hexDigit? c).map fun d => 16 * n + d) 0

/-- The character with the code point that `width` digits give, and the text behind them. -/
def codePoint? (width : Nat) (s : List Char) : Option (Char × List Char) :=
  if s.length < width then none
  else
    match hexValue? (s.take width) with
    | some n => if n.isValidChar then some (Char.ofNat n, s.drop width) else none
    | none => none

/-- Reads a text behind its opening quote, up to `fuel` characters: the text, and what follows the
closing quote. -/
def quotedText? : (fuel : Nat) → List Char → Option (List Char × List Char)
  | 0, _ => none
  | _ + 1, [] => none
  | _ + 1, '"' :: rest => some ([], rest)
  | fuel + 1, '\\' :: rest =>
    let escaped : Option (Char × List Char) := match rest with
      | '"' :: r => some ('"', r)
      | '\\' :: r => some ('\\', r)
      | 'b' :: r => some ('\x08', r)
      | 'f' :: r => some ('\x0c', r)
      | 'n' :: r => some ('\n', r)
      | 'r' :: r => some ('\r', r)
      | 't' :: r => some ('\t', r)
      | 'u' :: r => codePoint? 4 r
      | 'U' :: r => codePoint? 8 r
      | _ => none
    match escaped with
    | some (c, r) => (quotedText? fuel r).map fun (s, after) => (c :: s, after)
    | none => none
  | fuel + 1, c :: rest => (quotedText? fuel rest).map fun (s, after) => (c :: s, after)

mutual

/-- Reads one setting at the start of a text, up to `fuel` deep; gives what follows it too. -/
def value? (origin : Origin) : (fuel : Nat) → List Char → Option (Setting × List Char)
  | 0, _ => none
  | fuel + 1, s =>
    let s := dropSpaces s
    let found : Option (Setting × List Char) :=
      match dropLead "true".toList s, dropLead "false".toList s with
      | some rest, _ => some (.leaf origin (.truth true), rest)
      | none, some rest => some (.leaf origin (.truth false), rest)
      | none, none =>
        match s with
        | '\x7b' :: rest => (entries? origin fuel rest).map fun (es, r) =>
            (.map origin (Setting.sorted es), r)
        | '[' :: rest => (items? origin fuel rest).map fun (is, r) => (.list origin is, r)
        | '"' :: rest => (quotedText? (rest.length + 1) rest).map fun (t, r) =>
            (.leaf origin (.text (String.ofList t)), r)
        | '\'' :: c :: '\'' :: rest => some (.leaf origin (.char c), rest)
        | '\'' :: _ => none
        | s => some (.leaf origin (word (s.takeWhile (!isSeparator ·))), s.dropWhile (!isSeparator ·))
    found.map fun (v, rest) => (v, dropSpaces rest)

/-- Reads the items of a list behind its opening bracket. -/
def items? (origin : Origin) : (fuel : Nat) → List Char → Option (List Setting × List Char)
  | 0, _ => none
  | fuel + 1, s =>
    match s with
    | ']' :: rest => some ([], rest)
    | s =>
      match value? origin fuel s with
      | none => none
      | some (v, ',' :: rest) => (items? origin fuel rest).map fun (vs, r) => (v :: vs, r)
      | some (v, ']' :: rest) => some ([v], rest)
      | some _ => none

/-- Reads the entries of a map behind its opening brace. -/
def entries? (origin : Origin) : (fuel : Nat) → List Char →
    Option (List (String × Setting) × List Char)
  | 0, _ => none
  | fuel + 1, s =>
    match s with
    | '\x7d' :: rest => some ([], rest)
    | s =>
      let s := dropSpaces s
      let key := s.takeWhile isKeyChar
      if key.isEmpty then none
      else
        match dropSpaces (s.dropWhile isKeyChar) with
        | '=' :: rest =>
          match value? origin fuel rest with
          | none => none
          | some (v, ',' :: rest) =>
            (entries? origin fuel rest).map fun (es, r) => ((String.ofList key, v) :: es, r)
          | some (v, '\x7d' :: rest) => some ([(String.ofList key, v)], rest)
          | some _ => none
        | _ => none

end

/-- The setting of a text. -/
def parse (origin : Origin) (s : String) : Setting :=
  match value? origin (2 * s.length + 4) s.toList with
  | some (v, []) => v
  | _ => .leaf origin (.text s)

end StripeTransfer.Inline
