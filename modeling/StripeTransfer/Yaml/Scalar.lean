/-
StripeTransfer/Yaml/Scalar.lean

The written forms of scalars: plain, in single or double quotes, and as blocks
of indented lines.  Except in literal blocks, a line end inside a scalar is
folded: alone it stands for a space, and of several in a row the first one is
dropped.
-/
import StripeTransfer.Text.Numeral
import StripeTransfer.Yaml.Cursor

namespace StripeTransfer.Yaml

open Text

/-! ### Gaps between words -/

/-- What stands between two words of a scalar. -/
inductive Gap where
  | blanks (between : List Char)
  /-- The first line end and the others. -/
  | breaks (first : Char) (more : List Char)
  deriving Repr, DecidableEq

namespace Gap

/-- No gap. -/
def none : Gap := blanks []

/-- What is kept of a gap. -/
def folded : Gap → List Char
  | blanks between => between
  | breaks '\n' [] => [' ']
  | breaks '\n' more => more
  | breaks first more => first :: more

/-- Whether a gap holds a line end. -/
def isBroken : Gap → Bool
  | blanks _ => false
  | breaks _ _ => true

/-- Reads a gap, at most `fuel` characters and line ends of it.  Behind a line end, `refused` says
which characters must not stand there. -/
def read (refused : Cursor → Bool) : (fuel : Nat) → Gap → Cursor → Except Cursor (Gap × Cursor)
  | 0, g, c => .ok (g, c)
  | fuel + 1, g, c =>
    match c.next? with
    | Option.none => .ok (g, c)
    | some x =>
      if isGap x then
        match g with
        | blanks between => read refused fuel (blanks (between ++ [x])) (c.skip 1)
        | breaks .. => if refused c then .error c else read refused fuel g (c.skip 1)
      else if isBreak x then
        let (kept, c) := c.skipBreak
        match g with
        | blanks _ => read refused fuel (breaks kept []) c
        | breaks first more => read refused fuel (breaks first (more ++ [kept])) c
      else .ok (g, c)

end Gap

/-! ### Plain scalars -/

/-- Whether a character is a mark of flow collections. -/
def isFlowMark (c : Char) : Bool := [',', '[', ']', '\x7b', '\x7d'].contains c

/-- The length of the run of characters that belong to a plain scalar; and whether it ends at a
colon that must not stand there. -/
def plainRun (inFlow : Bool) : List Char → Nat × Bool
  | [] => (0, false)
  | x :: rest =>
    let follows (p : Char → Bool) : Bool := (rest.head?.map p).getD false
    if isGap x || isBreak x then (0, false)
    else if x == ':' && endsWord rest.head? then (0, false)
    else if inFlow && x == ':' && follows (fun y => isFlowMark y || y == '?') then (0, true)
    else if inFlow && isFlowMark x then (0, false)
    else
      let (n, bad) := plainRun inFlow rest
      (n + 1, bad)

/-- Reads a plain scalar from `since` on, at most `fuel` words of it; `indent` is the least column
of its further lines.  Gives the text, the gap behind it, and the cursor. -/
def readPlain (inFlow : Bool) (indent : Nat) (since : Mark) :
    (fuel : Nat) → (text : List Char) → Gap → Cursor → Except Problem (List Char × Gap × Cursor)
  | 0, text, g, c => .ok (text, g, c)
  | fuel + 1, text, g, c =>
    if c.atDocumentMark || c.next? == some '#' then .ok (text, g, c)
    else
      let (n, bad) := plainRun inFlow c.rest
      let (text, g) := if n = 0 then (text, g) else (text ++ g.folded ++ c.rest.take n, Gap.none)
      let c := c.skip n
      if bad then c.fail "found unexpected ':'" "while scanning a plain scalar" since
      else if (c.next?.map fun x => isGap x || isBreak x).getD false then
        let refused (c : Cursor) : Bool := c.mark.column < indent && c.next? == some '\t'
        match g.read refused (c.rest.length + 1) c with
        | .error c =>
          c.fail "found a tab character that violates indentation" "while scanning a plain scalar" since
        | .ok (g, c) =>
          if !inFlow && c.mark.column < indent then .ok (text, g, c)
          else readPlain inFlow indent since fuel text g c
      else .ok (text, g, c)

/-! ### Scalars in quotes -/

/-- The character that a letter behind a backslash stands for. -/
def escaped? (x : Char) : Option Char :=
  match x with
  | '0' => some '\x00'
  | 'a' => some '\x07'
  | 'b' => some '\x08'
  | 't' => some '\t'
  | '\t' => some '\t'
  | 'n' => some '\n'
  | 'v' => some '\x0b'
  | 'f' => some '\x0c'
  | 'r' => some '\r'
  | 'e' => some '\x1b'
  | ' ' => some ' '
  | '"' => some '"'
  | '/' => some '/'
  | '\\' => some '\\'
  | 'N' => some '\u0085'
  | '_' => some '\u00a0'
  | 'L' => some '\u2028'
  | 'P' => some '\u2029'
  | _ => none

/-- How many hexadecimal digits follow a letter behind a backslash. -/
def hexWidth? (x : Char) : Option Nat :=
  match x with
  | 'x' => some 2
  | 'u' => some 4
  | 'U' => some 8
  | _ => none

/-- Reads what follows a backslash. -/
def readEscape (since : Mark) (c : Cursor) : Except Problem (Char × Cursor) :=
  let reading := "while parsing a quoted scalar"
  match c.rest with
  | _ :: x :: rest =>
    match escaped? x, hexWidth? x with
    | some y, _ => .ok (y, c.skip 2)
    | none, some width =>
      let digits := (rest.take width).map hexDigit?
      if digits.length < width || digits.any (·.isNone) then
        (c.skip 2).fail "did not find expected hexdecimal number" reading since
      else
        let n := digits.foldl (fun n d => 16 * n + d.getD 0) 0
        if n.isValidChar then .ok (Char.ofNat n, c.skip (2 + width))
        else (c.skip 2).fail "found invalid Unicode character escape code" reading since
    | none, none => c.fail "found unknown escape character" reading since
  | _ => c.fail "found unknown escape character" reading since

/-- Reads a scalar in quotes behind its opening quote, at most `fuel` characters and gaps of it. -/
def readQuoted (double : Bool) (since : Mark) :
    (fuel : Nat) → (text : List Char) → Cursor → Except Problem (List Char × Cursor)
  | 0, text, c => .ok (text, c)
  | fuel + 1, text, c =>
    let quote := if double then '"' else '\''
    let reading := "while scanning a quoted scalar"
    if c.atDocumentMark then c.fail "found unexpected document indicator" reading since
    else
      match c.rest with
      | [] => c.fail "found unexpected end of stream" reading since
      | x :: rest =>
        if isGap x || isBreak x then
          match Gap.none.read (fun _ => false) (c.rest.length + 1) c with
          | .error c => c.fail "found unexpected end of stream" reading since
          | .ok (g, c) => readQuoted double since fuel (text ++ g.folded) c
        else if !double && x == quote && rest.head? == some quote then
          readQuoted double since fuel (text ++ [quote]) (c.skip 2)
        else if x == quote then .ok (text, c.skip 1)
        else if double && x == '\\' then
          if (rest.head?.map isBreak).getD false then
            -- an escaped line end is dropped, with the blanks before the next word
            let c := (c.skip 1).skipBreak.2
            match (Gap.breaks '\n' []).read (fun _ => false) (c.rest.length + 1) c with
            | .error c => c.fail "found unexpected end of stream" reading since
            | .ok (.breaks _ more, c) => readQuoted double since fuel (text ++ more) c
            | .ok (.blanks _, c) => readQuoted double since fuel text c
          else
            match readEscape since c with
            | .error e => .error e
            | .ok (y, c) => readQuoted double since fuel (text ++ [y]) c
        else readQuoted double since fuel (text ++ [x]) (c.skip 1)

/-! ### Blocks -/

/-- What is done with the line ends behind a block. -/
inductive Chomping where
  | clip
  | strip
  | keep
  deriving Repr, DecidableEq

/-- Reads the indentation and the line ends before a line of a block; `indent` is zero as long as
the indentation of the block is not known.  Gives the deepest indentation and the line ends. -/
def readBlockGap (indent : Nat) (since : Mark) :
    (fuel : Nat) → (deepest : Nat) → (breaks : List Char) → Cursor →
      Except Problem (Nat × List Char × Cursor)
  | 0, deepest, breaks, c => .ok (deepest, breaks, c)
  | fuel + 1, deepest, breaks, c =>
    let spaces := (c.rest.takeWhile (· == ' ')).length
    let c := c.skip (if indent = 0 then spaces else min spaces (indent - c.mark.column))
    let deepest := max deepest c.mark.column
    let isInside := indent = 0 || c.mark.column < indent
    if isInside && c.next? == some '\t' then
      c.fail "found a tab character where an indentation space is expected"
        "while scanning a block scalar" since
    else if (c.next?.map isBreak).getD false then
      let (kept, c) := c.skipBreak
      readBlockGap indent since fuel deepest (breaks ++ [kept]) c
    else .ok (deepest, breaks, c)

/-- What has been read of a block. -/
structure Block where
  text : List Char
  /-- The end of the last line. -/
  ending : List Char
  /-- The line ends behind that. -/
  breaks : List Char
  /-- Whether the last line starts with a blank. -/
  blank : Bool

/-- Reads the lines of a block, at most `fuel` of them. -/
def readBlockLines (isLiteral : Bool) (indent : Nat) (since : Mark) :
    (fuel : Nat) → Block → Cursor → Except Problem (Block × Cursor)
  | 0, b, c => .ok (b, c)
  | fuel + 1, b, c =>
    if c.mark.column != indent || c.rest.isEmpty then .ok (b, c)
    else
      let blank := (c.next?.map isGap).getD false
      let joint :=
        if !isLiteral && b.ending == ['\n'] && !b.blank && !blank then
          if b.breaks.isEmpty then [' '] else []
        else b.ending
      let line := c.rest.takeWhile fun x => !isBreak x
      let c := c.skip line.length
      let (ending, c) := if c.rest.isEmpty then ([], c) else
        let (kept, c) := c.skipBreak
        ([kept], c)
      match readBlockGap indent since (c.rest.length + 1) 0 [] c with
      | .error e => .error e
      | .ok (_, breaks, c) =>
        readBlockLines isLiteral indent since fuel
          ⟨b.text ++ joint ++ b.breaks ++ line, ending, breaks, blank⟩ c

/-- The marks behind the start of a block: what is done with line ends, and an indentation. -/
def readBlockHeader (since : Mark) (c : Cursor) : Except Problem (Chomping × Nat × Cursor) := do
  let chomping? (c : Cursor) : Chomping × Cursor :=
    match c.next? with
    | some '+' => (.keep, c.skip 1)
    | some '-' => (.strip, c.skip 1)
    | _ => (.clip, c)
  let digit? (c : Cursor) : Except Problem (Nat × Cursor) :=
    match c.next? with
    | some '0' =>
      c.fail "found an indentation indicator equal to 0" "while scanning a block scalar" since
    | some x => .ok (if isDigit x then (x.toNat - 48, c.skip 1) else (0, c))
    | none => .ok (0, c)
  let (first, c) := chomping? c
  let (increment, c) ← digit? c
  let (second, c) := if first == .clip then chomping? c else (first, c)
  return (second, increment, c)

/-- Reads a block behind the mark that starts it; `indent` is the indentation around it. -/
def readBlock (isLiteral : Bool) (indent : Int) (since : Mark) (c : Cursor) :
    Except Problem (List Char × Cursor) := do
  let (chomping, increment, c) ← readBlockHeader since c
  let c := c.skipWhile isGap
  let c := if c.next? == some '#' then c.skipWhile fun x => !isBreak x else c
  if !(c.next?.map isBreak).getD true then
    c.fail "did not find expected comment or line break" "while scanning a block scalar" since
  else
    let c := if c.rest.isEmpty then c else c.skipBreak.2
    let given := if increment = 0 then 0 else (max indent 0).toNat + increment
    let (deepest, breaks, c) ← readBlockGap given since (c.rest.length + 1) 0 [] c
    let indent := if given = 0 then max (max deepest (indent + 1).toNat) 1 else given
    let (b, c) ← readBlockLines isLiteral indent since (c.rest.length + 1) ⟨[], [], breaks, false⟩ c
    let tail := match chomping with
      | .strip => []
      | .clip => b.ending
      | .keep => b.ending ++ b.breaks
    return (b.text ++ tail, c)

end StripeTransfer.Yaml
