/-
StripeTransfer/Settings/Written.lean

Settings written in a YAML file.  Only plain scalars are given a meaning beyond
their text: as nothing, truth values, whole numbers in four bases, or decimals.
-/
import StripeTransfer.Settings.Value
import StripeTransfer.Yaml.Node

namespace StripeTransfer.Written

open Text Yaml

/-- The value of the digits of a base; there is at least one digit. -/
def digitsIn? (base : Nat) (s : List Char) : Option Nat :=
  if s.isEmpty then none
  else s.foldlM (fun n c => (hexDigit? c).bind fun d => if d < base then some (base * n + d) else none) 0

/-- Whether a scalar is a run of digits behind a zero, which is no number. -/
def isZeroLed (s : List Char) : Bool :=
  let s := match s with
    | '-' :: rest => rest
    | '+' :: rest => rest
    | s => s
  match s with
  | '0' :: c :: rest => (c :: rest).all isDigit
  | _ => false

/-- The magnitude of a whole number without a sign, in the base that its start tells. -/
def magnitude? (s : List Char) : Option Nat :=
  match s with
  | '0' :: 'x' :: rest => digitsIn? 16 rest
  | '0' :: 'o' :: rest => digitsIn? 8 rest
  | '0' :: 'b' :: rest => digitsIn? 2 rest
  | s => digitsIn? 10 s

/-- The value of a whole number. -/
def whole? (s : List Char) : Option Leaf :=
  if isZeroLed s then none
  else
    match s with
    | '-' :: rest => (magnitude? rest).bind fun n =>
        if n ≤ 0x8000000000000000 then some (.signed (-(n : Int)))
        else if n ≤ Nat.pow 2 127 then some (.wide s!"-{n}") else none
    | s => (magnitude? ((dropLead ['+'] s).getD s)).bind fun n =>
        if n ≤ max64 then some (.unsigned n)
        else if n < Nat.pow 2 128 then some (.wide (toString n)) else none

/-- The value of a decimal. -/
def decimal? (s : List Char) : Option Binary64 :=
  let positive := (dropLead ['+'] s).getD s
  let infinite (s : List Char) : Bool := [".inf", ".Inf", ".INF"].contains (String.ofList s)
  if infinite positive then some .infinity
  else if ((dropLead ['-'] s).map infinite).getD false then some (Binary64.infinity.withSign true)
  else if [".nan", ".NaN", ".NAN"].contains (String.ofList s) then some .nan
  else if isZeroLed s || (positive.head?.map fun c => c == '+').getD false then none
  else (Binary64.ofText? positive).filter fun x => !(x.isInfinite || x.isNaN)

/-- The truth value of a text. -/
def truth? (s : String) : Option Bool :=
  if ["true", "True", "TRUE"].contains s then some true
  else if ["false", "False", "FALSE"].contains s then some false
  else none

/-- Whether a text stands for nothing. -/
def isNothing (s : String) : Bool := ["null", "Null", "NULL", "~"].contains s

/-- The value of a plain scalar. -/
def plainLeaf (s : List Char) : Leaf :=
  let text := String.ofList s
  if s.isEmpty || isNothing text then .empty
  else
    match truth? text, whole? s, decimal? s with
    | some b, _, _ => .truth b
    | none, some n, _ => n
    | none, none, some x => .float x
    | none, none, none => .text text

/-- The value of a scalar with a tag. -/
def taggedLeaf (tag : String) (s : List Char) (isPlain : Bool) : Leaf :=
  if ["!!bool", "!!int", "!!float", "!!null"].contains tag then plainLeaf s
  else if isPlain && !tag.startsWith "!!" then plainLeaf s
  else .text (String.ofList s)

/-- The value of a scalar. -/
def leaf (s : List Char) (isPlain : Bool) (tag : List Char) : Leaf :=
  if tag.isEmpty then if isPlain then plainLeaf s else .text (String.ofList s)
  else taggedLeaf (String.ofList tag) s isPlain

/-- The description of a scalar that stands in the place of a mapping. -/
def shown : Node → String
  | .scalar s isPlain tag =>
    match leaf s isPlain tag with
    | .empty => "unit value"
    | .truth b => s!"boolean `{b}`"
    | .text t => s!"string {quoted t}"
    | .unsigned n => s!"integer `{n}`"
    | .signed n => s!"integer `{n}`"
    | .float x =>
      let t := x.text
      let t := if t.contains '.' || x.isInfinite || x.isNaN then t else t ++ ".0"
      s!"floating point `{t}`"
    | l => l.shown
  | .sequence _ => "sequence"
  | .mapping _ => "map"

mutual

/-- The setting that a node stands for. -/
def setting : Node → Setting
  | .scalar s isPlain tag => .leaf .file (leaf s isPlain tag)
  | .sequence items => .list .file (settings items)
  | .mapping es => .map .file (Setting.sorted (entries es))

/-- The settings that some nodes stand for. -/
def settings : List Node → List Setting
  | [] => []
  | n :: rest => setting n :: settings rest

/-- The entries of a mapping; those whose keys are no scalars are left out. -/
def entries : List (Node × Node) → List (String × Setting)
  | [] => []
  | (k, v) :: rest =>
    match k with
    | .scalar s _ _ => (String.ofList s, setting v) :: entries rest
    | _ => entries rest

end

/-- The settings in the text of a file. -/
def parse (text : String) : Except Problem Setting :=
  (readMapping shown text.toList).map fun es => .map .file (Setting.sorted (entries es))

end StripeTransfer.Written
