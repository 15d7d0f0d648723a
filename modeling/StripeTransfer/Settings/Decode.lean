/-
StripeTransfer/Settings/Decode.lean

Giving settings a meaning.  Numbers and texts are not converted into each other.
A record takes its fields from a map by key, or from a list by position; keys
that it does not know are passed over, and the first field in the order of the
map that has a fault is reported.
-/
import StripeTransfer.Number.ByteSize
import StripeTransfer.Settings.Value

namespace StripeTransfer

open Text

/-- The meaning of a setting, or its fault. -/
abbrev Decoded (α : Type) : Type := Except SettingError α

namespace Setting

/-- Fails with a fault. -/
def fail {α : Type} (fault : SettingFault) : Decoded α := .error (.of fault)

/-- Refuses a setting because of its kind. -/
def refuse {α : Type} (s : Setting) (expected : String) : Decoded α := fail (.type s.shown expected)

/-- A text; a single character is one too. -/
def toTextAs (expected : String) : Setting → Decoded String
  | .leaf _ (.text t) => .ok t
  | .leaf _ (.char c) => .ok c.toString
  | s => s.refuse expected

/-- A text. -/
def toText : Setting → Decoded String := toTextAs "a string"

/-- A path. -/
def toPath : Setting → Decoded String := toTextAs "path string"

/-- A truth value. -/
def toTruth : Setting → Decoded Bool
  | .leaf _ (.truth b) => .ok b
  | s => s.refuse "a boolean"

/-- A count up to a bound, by the name of its kind. -/
def toCount (bound : Nat) (kind : String) : Setting → Decoded Nat
  | .leaf _ (.unsigned n) => if n ≤ bound then .ok n else fail (.value (Leaf.unsigned n).shown kind)
  | .leaf _ (.signed n) =>
    if 0 ≤ n && n ≤ bound then .ok n.toNat else fail (.value (Leaf.signed n).shown kind)
  | s => s.refuse kind

/-- A count of 32 bits. -/
def toCount32 : Setting → Decoded Nat := toCount max32 "u32"

/-- A count of 64 bits. -/
def toCount64 : Setting → Decoded Nat := toCount max64 "u64"

/-- A size in bytes: a count, or a text with a unit. -/
def toSize : Setting → Decoded Nat
  | .leaf _ (.unsigned n) => .ok n
  | .leaf _ (.signed n) =>
    if 0 ≤ n then .ok n.toNat else fail (.value (Leaf.signed n).shown "integer overflow")
  | .leaf _ (.text t) =>
    match ByteSize.parse t with
    | .ok n => .ok n
    | .error _ => fail (.value (Leaf.text t).shown "parsable string")
  | s => s.refuse "an integer or string"

/-- A setting that may be absent. -/
def toOption {α : Type} (f : Setting → Decoded α) : Setting → Decoded (Option α)
  | .leaf _ .empty => .ok none
  | s => (f s).map some

/-- The items of a list. -/
def toList {α : Type} (f : Setting → Decoded α) : Setting → Decoded (List α)
  | .list _ items => items.mapM f
  | s => s.refuse "a sequence"

/-- One of some alternatives by name; a map with one name and nothing under it is a name too. -/
def toChoice {α : Type} (kind : String) (known : List (String × α)) (s : Setting) : Decoded α :=
  let named (name : String) : Decoded α :=
    match known.lookup name with
    | some a => .ok a
    | none => fail (.variant name (known.map Prod.fst))
  match s with
  | .leaf _ (.text t) => named t
  | .map _ [] => s.refuse "enum"
  | .map _ ((name, content) :: _) => do
    let a ← named name
    match content with
    | .leaf _ .empty => return a
    | c => .error ((SettingError.of (.type c.shown "unit")).below name c.origin)
  | s => s.refuse s!"enum {kind}"

/-- A record that starts out as `start`; `put` sets the field of a key, and `order` lists the keys. -/
def toRecord {α : Type} (kind : String) (order : List String)
    (put : α → String → Setting → Decoded α) (start : α) (s : Setting) : Decoded α :=
  let step (r : α) (shown key : String) (v : Setting) : Decoded α :=
    (put r key v).mapError (SettingError.below shown v.origin)
  match s with
  | .map _ entries => entries.foldlM (fun r (key, v) => step r key key v) start
  | .list _ items =>
    (items.zip order).zipIdx.foldlM (fun r ((v, key), i) => step r (toString i) key v) start
  | s => s.refuse s!"struct {kind}"

/-- Demands that a record has all its fields. -/
def demandAll (kind : String) (order : List String) : Setting → Decoded Unit
  | .map _ entries =>
    match order.find? fun key => (entries.lookup key).isNone with
    | some key => fail (.missing key)
    | none => .ok ()
  | .list _ items =>
    if items.length < order.length then
      fail (.length items.length s!"struct {kind} with {order.length} elements")
    else .ok ()
  | _ => .ok ()

end Setting

end StripeTransfer
