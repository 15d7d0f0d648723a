/-
StripeTransfer/Yaml/Node.lean

The nodes of a YAML text: scalars, sequences and mappings.  A name that is given
to a node may stand for it further on.

`readMapping` reads a text that has to be one mapping.  It looks at the first
node only as far as is needed to tell that it is none, so a text that is of
another kind is refused as such even if it is malformed further on.
-/
import StripeTransfer.Yaml.Token

namespace StripeTransfer.Yaml

/-- A node; a scalar knows whether it is plain, and its tag. -/
inductive Node where
  | scalar (text : List Char) (isPlain : Bool) (tag : List Char)
  | sequence (items : List Node)
  | mapping (entries : List (Node × Node))
  deriving Repr

/-- The node of nothing. -/
def Node.empty : Node := .scalar [] true []

/-- How far nodes have been read, and the names given to nodes. -/
structure Progress where
  reader : Reader
  names : List (List Char × Node)

/-- Reading of nodes. -/
abbrev Read : Type → Type := StateT Progress (Except Problem)

namespace Read

/-- The next token. -/
def peek : Read Token := do
  let p ← get
  let (token, reader) ← p.reader.peek
  set { p with reader }
  return token

/-- Goes behind the next token. -/
def drop : Read Unit := modify fun p => { p with reader := p.reader.drop }

/-- Whether the next token is one of some kinds. -/
def isNext (kinds : List TokenKind) : Read Bool := return kinds.contains (← peek).kind

/-- Refuses the next token while something is being read. -/
def refuse {α : Type} (what reading : String) (since : Mark) : Read α := do
  throw (.malformed what (← peek).mark (some (reading, since)))

/-- What stands before a node: the name given to it, and its tag. -/
structure Properties where
  name : Option (List Char)
  tag : List Char
  /-- Whether there is a tag or a name. -/
  any : Bool
  /-- Where the node starts with them. -/
  mark : Mark

/-- Reads one name or tag. -/
def property (p : Properties) (token : Token) : Read Properties := do
  match token.kind with
  | .anchor name => do
    drop
    return { p with name := some name, any := true }
  | .tag text => do
    drop
    let handle := (text.drop 1).takeWhile (· != '!')
    if handle.length + 1 < text.length && !handle.isEmpty then
      throw (.malformed "found undefined tag handle" token.mark
        (some ("while parsing a node", p.mark)))
    return { p with tag := text, any := true }
  | _ => return p

/-- Reads what stands before a node: a name and a tag, in either order. -/
def properties : Read Properties := do
  let first ← peek
  let p ← property ⟨none, [], false, first.mark⟩ first
  if !p.any then return p
  let second ← peek
  match first.kind, second.kind with
  | .anchor _, .tag _ => property p second
  | .tag _, .anchor _ => property p second
  | _, _ => return p

/-- Gives a node its name. -/
def named (p : Properties) (node : Node) : Read Node := do
  if let some name := p.name then
    modify fun s => { s with names := (name, node) :: s.names }
  return node

mutual

/-- Reads a node, at most `fuel` nodes deep and wide.  Block collections are possible only if
`inBlock` is set; a sequence at the column of its key only if `atKey` is. -/
def node : (fuel : Nat) → (inBlock atKey : Bool) → Read Node
  | 0, _, _ => return .empty
  | fuel + 1, inBlock, atKey => do
    let p ← properties
    let token ← peek
    match token.kind with
    | .alias name =>
      if p.any then
        refuse "did not find expected node content"
          (if inBlock then "while parsing a block node" else "while parsing a flow node") p.mark
      else
        drop
        match (← get).names.lookup name with
        | some node => return node
        | none => throw (.unknownAnchor token.mark)
    | .scalar text isPlain =>
      drop
      named p (.scalar text (isPlain && p.tag.isEmpty) p.tag)
    | .flowSequence =>
      drop
      named p (.sequence (← flowItems fuel token.mark true))
    | .flowMapping =>
      drop
      named p (.mapping (← flowEntries fuel token.mark true))
    | kind =>
      if kind == .blockEntry && atKey then named p (.sequence (← keyItems fuel))
      else if kind == .blockSequence && inBlock then
        drop
        named p (.sequence (← blockItems fuel token.mark))
      else if kind == .blockMapping && inBlock then
        drop
        named p (.mapping (← blockEntries fuel token.mark))
      else if p.any then named p (.scalar [] p.tag.isEmpty p.tag)
      else
        refuse "did not find expected node content"
          (if inBlock then "while parsing a block node" else "while parsing a flow node") p.mark

/-- Reads a node unless one of some tokens comes next, which stands for the node of nothing. -/
def nodeUnless : (fuel : Nat) → (ends : List TokenKind) → (inBlock atKey : Bool) → Read Node
  | 0, _, _, _ => return .empty
  | fuel + 1, ends, inBlock, atKey => do
    if ← isNext ends then return .empty else node fuel inBlock atKey

/-- Reads the items of a block sequence. -/
def blockItems : (fuel : Nat) → (since : Mark) → Read (List Node)
  | 0, _ => return []
  | fuel + 1, since => do
    match (← peek).kind with
    | .blockEntry =>
      drop
      let item ← nodeUnless fuel [.blockEntry, .blockEnd] true false
      return item :: (← blockItems fuel since)
    | .blockEnd =>
      drop
      return []
    | _ => refuse "did not find expected '-' indicator" "while parsing a block collection" since

/-- Reads the items of a sequence at the column of its key. -/
def keyItems : (fuel : Nat) → Read (List Node)
  | 0 => return []
  | fuel + 1 => do
    if ← isNext [.blockEntry] then
      drop
      let item ← nodeUnless fuel [.blockEntry, .key, .value, .blockEnd] true false
      return item :: (← keyItems fuel)
    else return []

/-- Reads the entries of a block mapping. -/
def blockEntries : (fuel : Nat) → (since : Mark) → Read (List (Node × Node))
  | 0, _ => return []
  | fuel + 1, since => do
    let ends := [TokenKind.key, .value, .blockEnd]
    match (← peek).kind with
    | .key =>
      drop
      let key ← nodeUnless fuel ends true true
      let value ← blockValue fuel
      return (key, value) :: (← blockEntries fuel since)
    | .value =>
      let value ← blockValue fuel
      return (.empty, value) :: (← blockEntries fuel since)
    | .blockEnd =>
      drop
      return []
    | _ => refuse "did not find expected key" "while parsing a block mapping" since

/-- Reads the value of an entry of a block mapping. -/
def blockValue : (fuel : Nat) → Read Node
  | 0 => return .empty
  | fuel + 1 => do
    if ← isNext [.value] then
      drop
      nodeUnless fuel [.key, .value, .blockEnd] true true
    else return .empty

/-- Reads the items of a flow sequence; `isFirst` is set at its start. -/
def flowItems : (fuel : Nat) → (since : Mark) → (isFirst : Bool) → Read (List Node)
  | 0, _, _ => return []
  | fuel + 1, since, isFirst => do
    if ← isNext [.flowSequenceEnd] then
      drop
      return []
    if !isFirst then
      if ← isNext [.flowEntry] then drop
      else refuse "did not find expected ',' or ']'" "while parsing a flow sequence" since
    if ← isNext [.flowSequenceEnd] then
      drop
      return []
    let ends := [TokenKind.value, .flowEntry, .flowSequenceEnd]
    if ← isNext [.key] then
      drop
      let key ← if ← isNext ends then do drop; pure .empty else node fuel false false
      let value ← flowValue fuel ends.tail
      return .mapping [(key, value)] :: (← flowItems fuel since false)
    else
      let item ← node fuel false false
      return item :: (← flowItems fuel since false)

/-- Reads the value of an entry of a flow collection that goes on or ends with some tokens. -/
def flowValue : (fuel : Nat) → (ends : List TokenKind) → Read Node
  | 0, _ => return .empty
  | fuel + 1, ends => do
    if ← isNext [.value] then
      drop
      nodeUnless fuel ends false false
    else return .empty

/-- Reads the entries of a flow mapping; `isFirst` is set at its start. -/
def flowEntries : (fuel : Nat) → (since : Mark) → (isFirst : Bool) → Read (List (Node × Node))
  | 0, _, _ => return []
  | fuel + 1, since, isFirst => do
    if ← isNext [.flowMappingEnd] then
      drop
      return []
    if !isFirst then
      if ← isNext [.flowEntry] then drop
      else refuse "did not find expected ',' or '\x7d'" "while parsing a flow mapping" since
    if ← isNext [.flowMappingEnd] then
      drop
      return []
    let ends := [TokenKind.flowEntry, .flowMappingEnd]
    if ← isNext [.key] then
      drop
      let key ← nodeUnless fuel (.value :: ends) false false
      let value ← flowValue fuel ends
      return (key, value) :: (← flowEntries fuel since false)
    else
      let key ← node fuel false false
      return (key, .empty) :: (← flowEntries fuel since false)

end

/-! ### Documents -/

/-- Goes behind tokens of some kinds. -/
def dropAll (kinds : List TokenKind) : (fuel : Nat) → Read Bool
  | 0 => return false
  | fuel + 1 => do
    if ← isNext kinds then
      drop
      let _ ← dropAll kinds fuel
      return true
    else return false

/-- The start of the first document; `false` if there is none. -/
def documentStart (fuel : Nat) : Read Bool := do
  if ← isNext [.streamEnd] then return false
  let directives ← dropAll [.directive] fuel
  let token ← peek
  if token.kind == .documentStart then
    drop
    return true
  else if directives then
    throw (.malformed "did not find expected <document start>" token.mark none)
  else return true

/-- Whether anything follows the first document. -/
def isFollowed (fuel : Nat) (reader : Reader) : Bool :=
  let rest : Read Bool := do
    let _ ← dropAll [.documentEnd] fuel
    return !(← isNext [.streamEnd])
  match rest.run ⟨reader, []⟩ with
  | .ok (followed, _) => followed
  | .error _ => true

/-- The entries of the mapping that a text has to be; a text without any node has none.  `found`
describes a scalar that is in the place of the mapping. -/
def topEntries (found : Node → String) (fuel : Nat) : Read (List (Node × Node)) := do
  if !(← documentStart fuel) then return []
  if ← isNext [.directive, .documentStart, .documentEnd, .streamEnd] then return []
  let p ← properties
  let token ← peek
  match token.kind with
  | .blockMapping =>
    drop
    blockEntries fuel token.mark
  | .flowMapping =>
    drop
    flowEntries fuel token.mark true
  | .blockSequence => throw (.notMapping "sequence" p.mark)
  | .flowSequence => throw (.notMapping "sequence" p.mark)
  | .scalar text isPlain =>
    if text.isEmpty && isPlain then
      drop
      return []
    else throw (.notMapping (found (.scalar text (isPlain && p.tag.isEmpty) p.tag)) p.mark)
  | _ => do
    let _ ← node fuel true false
    return []

end Read

/-- The entries of the mapping that a text is. -/
def readMapping (found : Node → String) (text : List Char) : Except Problem (List (Node × Node)) :=
  match firstControl 0 text with
  | some offset => .error (.control offset)
  | none =>
    let fuel := 8 * text.length + 16
    let all : Read (List (Node × Node)) := do
      let entries ← Read.topEntries found fuel
      if ← Read.isNext [.documentEnd] then Read.drop
      return entries
    match all.run ⟨.start text, []⟩ with
    | .error e => .error e
    | .ok (entries, p) =>
      if Read.isFollowed fuel p.reader then .error .severalDocuments else .ok entries

end StripeTransfer.Yaml
