/-
StripeTransfer/Yaml/Token.lean

The tokens of a YAML text.  Indentation is turned into tokens of its own: a line
that goes deeper starts a block, and one that goes back ends the blocks that it
leaves.  A scalar may turn out to be a key only when the colon behind it is
seen, so a token is given out only once no key can start there any more; the
start of the key's block and the key itself are then put before it.
-/
import StripeTransfer.Yaml.Scalar

namespace StripeTransfer.Yaml

open Text

/-! ### Tokens -/

/-- What a token is. -/
inductive TokenKind where
  | streamEnd
  | directive
  | documentStart
  | documentEnd
  | blockSequence
  | blockMapping
  | blockEnd
  | flowSequence
  | flowSequenceEnd
  | flowMapping
  | flowMappingEnd
  | blockEntry
  | flowEntry
  | key
  | value
  | alias (name : List Char)
  | anchor (name : List Char)
  | tag (text : List Char)
  | scalar (text : List Char) (isPlain : Bool)
  deriving Repr, DecidableEq

/-- A token and where it starts. -/
structure Token where
  kind : TokenKind
  mark : Mark
  deriving Repr, DecidableEq

/-- A token that becomes a key if a colon follows. -/
structure KeyCandidate where
  /-- Whether nothing but a key may stand there. -/
  isRequired : Bool
  /-- The number of the token. -/
  number : Nat
  mark : Mark
  deriving Repr, DecidableEq

/-- How far a text has been read. -/
structure Reader where
  cursor : Cursor
  /-- The column of the innermost block; below zero outside of all blocks. -/
  indent : Int
  /-- The columns of the blocks around it. -/
  outer : List Int
  /-- Whether a key may start at the cursor. -/
  allowsKey : Bool
  /-- The candidates outside of flow collections and in each of them, the innermost one first. -/
  candidates : List (Option KeyCandidate)
  /-- Tokens that have been read and not given out. -/
  queue : List Token
  /-- How many tokens have been given out. -/
  given : Nat

namespace Reader

/-- The reader at the beginning of a text. -/
def start (text : List Char) : Reader := ⟨⟨text, .start⟩, -1, [], true, [none], [], 0⟩

/-- Whether the cursor is in a flow collection. -/
def inFlow (r : Reader) : Bool := 1 < r.candidates.length

/-- The reader with a token more. -/
def push (r : Reader) (kind : TokenKind) (mark : Mark) : Reader :=
  { r with queue := r.queue ++ [⟨kind, mark⟩] }

/-- The reader with a token put before the one of a number. -/
def insertAt (r : Reader) (number : Nat) (kind : TokenKind) (mark : Mark) : Reader :=
  let n := number - r.given
  { r with queue := r.queue.take n ++ ⟨kind, mark⟩ :: r.queue.drop n }

/-- The reader behind a token of some characters at the cursor. -/
def pushSkipping (r : Reader) (kind : TokenKind) (n : Nat) : Reader :=
  { (r.push kind r.cursor.mark) with cursor := r.cursor.skip n }

/-! ### Keys -/

/-- What is said where a key lacks its colon. -/
def missingColon {α : Type} (r : Reader) (since : Mark) : Except Problem α :=
  r.cursor.fail "could not find expected ':'" "while scanning a simple key" since

/-- Gives up the innermost candidate. -/
def dropCandidate (r : Reader) : Except Problem Reader :=
  match r.candidates with
  | some k :: rest =>
    if k.isRequired then r.missingColon k.mark else .ok { r with candidates := none :: rest }
  | _ => .ok r

/-- Gives up the candidates that the cursor has left: those of earlier lines, and far ones. -/
def dropStale (r : Reader) : List (Option KeyCandidate) → Except Problem (List (Option KeyCandidate))
  | [] => .ok []
  | none :: rest => (dropStale r rest).map (none :: ·)
  | some k :: rest => do
    let rest ← dropStale r rest
    if k.mark.line < r.cursor.mark.line || k.mark.index + 1024 < r.cursor.mark.index then
      if k.isRequired then r.missingColon k.mark else return none :: rest
    else return some k :: rest

/-- Makes the next token a candidate, if a key may start there. -/
def addCandidate (r : Reader) : Except Problem Reader := do
  if !r.allowsKey then return r
  let isRequired := !r.inFlow && r.indent == r.cursor.mark.column
  let r ← r.dropCandidate
  let k : KeyCandidate := ⟨isRequired, r.given + r.queue.length, r.cursor.mark⟩
  return { r with candidates := some k :: r.candidates.drop 1 }

/-! ### Indentation -/

/-- Starts a block at a column, if it is deeper than the innermost one; the token is put before the
one of a number, or behind all others. -/
def deepen (r : Reader) (column : Nat) (number : Option Nat) (kind : TokenKind) (mark : Mark) : Reader :=
  if r.inFlow || (column : Int) ≤ r.indent then r
  else
    let r := { r with outer := r.indent :: r.outer, indent := column }
    match number with
    | some n => r.insertAt n kind mark
    | none => r.push kind mark

/-- Ends the blocks that are deeper than a column. -/
def goBack (r : Reader) (column : Int) : List Int → Reader
  | [] => r
  | i :: outer =>
    if r.indent ≤ column then r
    else goBack { (r.push .blockEnd r.cursor.mark) with indent := i, outer } column outer

/-- Ends the blocks that are deeper than a column, outside of flow collections. -/
def unroll (r : Reader) (column : Int) : Reader := if r.inFlow then r else r.goBack column r.outer

/-! ### Reading one token -/

/-- Goes to the next character that is neither blank nor in a comment, over at most `fuel` lines. -/
def toNextToken : (fuel : Nat) → Reader → Reader
  | 0, r => r
  | fuel + 1, r =>
    let c := r.cursor
    let c := if c.mark.column == 0 && c.next? == some '\uFEFF' then c.skip 1 else c
    let tabs := r.inFlow || !r.allowsKey
    let c := c.skipWhile fun x => x == ' ' || (tabs && x == '\t')
    let c := if c.next? == some '#' then c.skipWhile fun x => !isBreak x else c
    if (c.next?.map isBreak).getD false then
      toNextToken fuel { r with cursor := c.skipBreak.2, allowsKey := r.allowsKey || !r.inFlow }
    else { r with cursor := c }

/-- Ends everything at the end of the text. -/
def readStreamEnd (r : Reader) : Except Problem Reader := do
  let m := r.cursor.mark
  let m := if m.column = 0 then m else ⟨m.line + 1, 0, m.index⟩
  let r := { r with cursor := ⟨[], m⟩ }.unroll (-1)
  let r ← r.dropCandidate
  return { r with allowsKey := false }.push .streamEnd m

/-- Reads the start or the end of a document. -/
def readDocumentMark (r : Reader) : Except Problem Reader := do
  let r ← (r.unroll (-1)).dropCandidate
  let kind := if r.cursor.next? == some '-' then TokenKind.documentStart else .documentEnd
  return { r with allowsKey := false }.pushSkipping kind 3

/-- Reads a directive. -/
def readDirective (r : Reader) : Except Problem Reader := do
  let r ← (r.unroll (-1)).dropCandidate
  let since := r.cursor.mark
  let c := r.cursor.skip 1
  let name := c.rest.takeWhile fun x => isDigit x || isLetter x || x == '-' || x == '_'
  let c := c.skip name.length
  if name.isEmpty then
    c.fail "could not find expected directive name" "while scanning a directive" since
  else if !endsWord c.next? then
    c.fail "found unexpected non-alphabetical character" "while scanning a directive" since
  else if name != "YAML".toList && name != "TAG".toList then
    c.fail "found unknown directive name" "while scanning a directive" since
  else
    let c := c.skipWhile fun x => !isBreak x
    return { r with allowsKey := false, cursor := c }.push .directive since

/-- Starts a flow collection. -/
def openFlow (r : Reader) (kind : TokenKind) : Except Problem Reader := do
  let r ← r.addCandidate
  return { r with candidates := none :: r.candidates, allowsKey := true }.pushSkipping kind 1

/-- Ends a flow collection. -/
def closeFlow (r : Reader) (kind : TokenKind) : Except Problem Reader := do
  let r ← r.dropCandidate
  let candidates := if r.inFlow then r.candidates.drop 1 else r.candidates
  return { r with candidates, allowsKey := false }.pushSkipping kind 1

/-- Goes on in a flow collection. -/
def readFlowEntry (r : Reader) : Except Problem Reader := do
  let r ← r.dropCandidate
  return { r with allowsKey := true }.pushSkipping .flowEntry 1

/-- A problem at the cursor on its own. -/
def refuse {α : Type} (r : Reader) (what : String) : Except Problem α :=
  .error (.malformed what r.cursor.mark none)

/-- Reads an entry of a block sequence. -/
def readBlockEntry (r : Reader) : Except Problem Reader := do
  if !r.inFlow && !r.allowsKey then
    r.refuse "block sequence entries are not allowed in this context"
  else
    let m := r.cursor.mark
    let r ← (r.deepen m.column none .blockSequence m).dropCandidate
    return { r with allowsKey := true }.pushSkipping .blockEntry 1

/-- Reads the mark of a key that is no scalar of one line. -/
def readKey (r : Reader) : Except Problem Reader := do
  if !r.inFlow && !r.allowsKey then r.refuse "mapping keys are not allowed in this context"
  else
    let m := r.cursor.mark
    let r ← (r.deepen m.column none .blockMapping m).dropCandidate
    return { r with allowsKey := !r.inFlow }.pushSkipping .key 1

/-- Reads the colon between a key and its value. -/
def readValue (r : Reader) : Except Problem Reader :=
  match r.candidates with
  | some k :: rest =>
    let r := (r.insertAt k.number .key k.mark).deepen k.mark.column (some k.number) .blockMapping k.mark
    .ok ({ r with candidates := none :: rest, allowsKey := false }.pushSkipping .value 1)
  | _ =>
    if !r.inFlow && !r.allowsKey then r.refuse "mapping values are not allowed in this context"
    else
      let m := r.cursor.mark
      let r := r.deepen m.column none .blockMapping m
      .ok ({ r with allowsKey := !r.inFlow }.pushSkipping .value 1)

/-- Reads the name of a node, or a reference to one. -/
def readName (r : Reader) (isAnchor : Bool) : Except Problem Reader := do
  let r ← r.addCandidate
  let since := r.cursor.mark
  let c := r.cursor.skip 1
  let name := c.rest.takeWhile fun x => isDigit x || isLetter x || x == '-' || x == '_'
  let c := c.skip name.length
  let ends := endsWord c.next? ||
    (c.next?.map fun x => ['?', ':', ',', ']', '\x7d', '%', '@'].contains x || x.toNat == 96).getD false
  if name.isEmpty || !ends then
    c.fail "did not find expected alphabetic or numeric character"
      (if isAnchor then "while scanning an anchor" else "while scanning an alias") since
  else
    let kind := if isAnchor then TokenKind.anchor name else .alias name
    return { r with allowsKey := false, cursor := c }.push kind since

/-- Reads the tag of a node. -/
def readTag (r : Reader) : Except Problem Reader := do
  let r ← r.addCandidate
  let since := r.cursor.mark
  let text := r.cursor.rest.takeWhile fun x => !(isGap x || isBreak x || (r.inFlow && isFlowMark x))
  return { r with allowsKey := false, cursor := r.cursor.skip text.length }.push (.tag text) since

/-- Reads a scalar in quotes. -/
def readQuotedScalar (r : Reader) (double : Bool) : Except Problem Reader := do
  let r ← r.addCandidate
  let since := r.cursor.mark
  let (text, c) ← readQuoted double since (r.cursor.rest.length + 1) [] (r.cursor.skip 1)
  return { r with allowsKey := false, cursor := c }.push (.scalar text false) since

/-- Reads a block scalar. -/
def readBlockScalar (r : Reader) (isLiteral : Bool) : Except Problem Reader := do
  let r ← r.dropCandidate
  let since := r.cursor.mark
  let (text, c) ← readBlock isLiteral r.indent since (r.cursor.skip 1)
  return { r with allowsKey := true, cursor := c }.push (.scalar text false) since

/-- Reads a plain scalar. -/
def readPlainScalar (r : Reader) : Except Problem Reader := do
  let r ← r.addCandidate
  let since := r.cursor.mark
  let indent := (r.indent + 1).toNat
  let (text, gap, c) ← readPlain r.inFlow indent since (r.cursor.rest.length + 1) [] .none r.cursor
  return { r with allowsKey := gap.isBroken, cursor := c }.push (.scalar text true) since

/-- Whether a plain scalar may start with `x`, by what comes next. -/
def startsPlain (inFlow : Bool) (x : Char) (next : Option Char) : Bool :=
  if x == '-' then !(next.map isGap).getD false
  else if x == '?' || x == ':' then !inFlow && !endsWord next
  else
    !(isGap x || isBreak x || x.toNat == 96 ||
      [',', '[', ']', '\x7b', '\x7d', '#', '&', '*', '!', '|', '>', '\'', '"', '%', '@'].contains x)

/-- Reads the next token. -/
def readToken (r : Reader) : Except Problem Reader := do
  let r := toNextToken (r.cursor.rest.length + 1) r
  let candidates ← r.dropStale r.candidates
  let r := { r with candidates }.unroll r.cursor.mark.column
  match r.cursor.rest with
  | [] => r.readStreamEnd
  | x :: rest =>
    let next := rest.head?
    if r.cursor.mark.column == 0 && x == '%' then r.readDirective
    else if r.cursor.atDocumentMark then r.readDocumentMark
    else
      match x with
      | '[' => r.openFlow .flowSequence
      | '\x7b' => r.openFlow .flowMapping
      | ']' => r.closeFlow .flowSequenceEnd
      | '\x7d' => r.closeFlow .flowMappingEnd
      | ',' => r.readFlowEntry
      | '*' => r.readName false
      | '&' => r.readName true
      | '!' => r.readTag
      | '\'' => r.readQuotedScalar false
      | '"' => r.readQuotedScalar true
      | x =>
        if x == '-' && endsWord next then r.readBlockEntry
        else if x == '?' && (r.inFlow || endsWord next) then r.readKey
        else if x == ':' && (r.inFlow || endsWord next) then r.readValue
        else if x == '|' && !r.inFlow then r.readBlockScalar true
        else if x == '>' && !r.inFlow then r.readBlockScalar false
        else if startsPlain r.inFlow x next then r.readPlainScalar
        else
          r.cursor.fail "found character that cannot start any token"
            "while scanning for the next token" r.cursor.mark

/-! ### Giving tokens out -/

/-- Whether the first token of the queue may still turn out to be a key. -/
def isOpen (r : Reader) : Bool :=
  r.queue.isEmpty || r.candidates.any fun k => (k.map KeyCandidate.number) == some r.given

/-- Reads tokens until the next one is certain, at most `fuel` of them. -/
def settle : (fuel : Nat) → Reader → Except Problem Reader
  | 0, r => .ok r
  | fuel + 1, r => do
    let r ← if r.queue.isEmpty then pure r else do
      let candidates ← r.dropStale r.candidates
      pure { r with candidates }
    if r.isOpen then settle fuel (← r.readToken) else return r

/-- The next token. -/
def peek (r : Reader) : Except Problem (Token × Reader) := do
  let r ← r.settle (r.cursor.rest.length + r.queue.length + 2)
  return (r.queue.headD ⟨.streamEnd, r.cursor.mark⟩, r)

/-- The reader behind the next token. -/
def drop (r : Reader) : Reader := { r with queue := r.queue.drop 1, given := r.given + 1 }

end Reader

end StripeTransfer.Yaml
