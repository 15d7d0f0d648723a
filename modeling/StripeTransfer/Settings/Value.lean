/-
StripeTransfer/Settings/Value.lean

Settings before they are given a meaning: values, lists, and maps by key.  Every
setting remembers where it comes from.  Settings from several sources are
merged: maps key by key, and anything else is replaced by what comes later
(`Setting.merge`).
-/
import StripeTransfer.Number.Decimal
import StripeTransfer.Number.Literal
import StripeTransfer.Text.Quoted

namespace StripeTransfer

open Text

/-- Where a setting comes from. -/
inductive Origin where
  | defaults
  | file
  | environment
  deriving Repr, DecidableEq, Inhabited

/-- A value that is neither list nor map. -/
inductive Leaf where
  | empty
  | truth (b : Bool)
  | char (c : Char)
  | text (s : String)
  | unsigned (n : Nat)
  | signed (n : Int)
  /-- A whole number beyond 64 bits. -/
  | wide (shown : String)
  | float (x : Binary64)
  deriving Repr, DecidableEq

/-- A setting. -/
inductive Setting where
  | leaf (origin : Origin) (value : Leaf)
  | list (origin : Origin) (items : List Setting)
  /-- The entries are in ascending order of their keys. -/
  | map (origin : Origin) (entries : List (String × Setting))
  deriving Repr, Inhabited

namespace Setting

/-- Where a setting comes from. -/
def origin : Setting → Origin
  | leaf o _ => o
  | list o _ => o
  | map o _ => o

/-- A map of entries in ascending order of keys, with one more; it takes the place of an earlier
one. -/
def put (key : String) (value : Setting) : List (String × Setting) → List (String × Setting)
  | [] => [(key, value)]
  | (k, v) :: rest =>
    if key < k then (key, value) :: (k, v) :: rest
    else if key = k then (key, value) :: rest
    else (k, v) :: put key value rest

/-- The entries with the last value of each key, in ascending order. -/
def sorted (entries : List (String × Setting)) : List (String × Setting) :=
  entries.foldl (fun acc e => put e.1 e.2 acc) []

mutual

/-- The settings `a` overlaid with the settings `b`. -/
def merge (a b : Setting) : Setting :=
  match b with
  | .map o bs =>
    match a with
    | .map _ as => .map o (mergeEntries as bs)
    | _ => .map o bs
  | b => b

/-- The entries `as` overlaid with others. -/
def mergeEntries (as : List (String × Setting)) : List (String × Setting) → List (String × Setting)
  | [] => as
  | (k, v) :: rest =>
    let merged := match as.lookup k with
      | some u => merge u v
      | none => v
    mergeEntries (put k merged as) rest

end

/-- A setting below a path of keys. -/
def under (origin : Origin) (path : List String) (s : Setting) : Setting :=
  path.foldr (fun key s => .map origin [(key, s)]) s

end Setting

/-! ### Settings that have no meaning -/

/-- What is wrong with a setting. -/
inductive SettingFault where
  | said (text : String)
  | type (found expected : String)
  | value (found expected : String)
  | length (found : Nat) (expected : String)
  | variant (found : String) (known : List String)
  | missing (key : String)
  deriving Repr, DecidableEq

/-- The names of alternatives in a sentence. -/
def alternatives (names : List String) : String :=
  match names.map fun n => s!"`{n}`" with
  | [] => ""
  | [a] => a
  | [a, b] => s!"{a} or {b}"
  | all => "one of " ++ String.intercalate ", " all

/-- The message of a fault. -/
def SettingFault.message : SettingFault → String
  | said text => text
  | type found expected => s!"invalid type: found {found}, expected {expected}"
  | value found expected => s!"invalid value {found}, expected {expected}"
  | length found expected => s!"invalid length {found}, expected {expected}"
  | variant found known => s!"unknown variant: found `{found}`, expected `{alternatives known}`"
  | missing key => s!"missing field `{key}`"

/-- A fault, and the setting that has it. -/
structure SettingError where
  fault : SettingFault
  /-- The keys that lead to the setting. -/
  path : List String
  /-- Where the setting comes from. -/
  origin : Option Origin
  deriving Repr, DecidableEq

namespace SettingError

/-- A fault at the place where it is found. -/
def of (fault : SettingFault) : SettingError := ⟨fault, [], none⟩

/-- The error below a key, whose setting has an origin. -/
def below (key : String) (origin : Origin) (e : SettingError) : SettingError :=
  ⟨e.fault, key :: e.path, e.origin.orElse fun _ => some origin⟩

/-- The error of a setting of an origin. -/
def from_ (origin : Origin) (e : SettingError) : SettingError :=
  { e with origin := e.origin.orElse fun _ => some origin }

end SettingError

/-! ### Descriptions -/

/-- The description of a value in a message. -/
def Leaf.shown : Leaf → String
  | empty => "unit"
  | truth b => s!"bool {b}"
  | char c => "char '" ++ charText c ++ "'"
  | text s => s!"string {quoted s}"
  | unsigned n => s!"unsigned int `{n}`"
  | signed n => s!"signed int `{n}`"
  | wide shown =>
    let kind := if shown.startsWith "-" then "i128" else "u128"
    s!"integer `{shown}` as {kind}"
  | float x => s!"float `{x.text}`"
where
  charText (c : Char) : String :=
    if c == '\'' then "\\'" else if c == '"' then "\"" else String.ofList (quotedChar c)

/-- The description of a setting in a message. -/
def Setting.shown : Setting → String
  | leaf _ value => value.shown
  | list .. => "sequence"
  | map .. => "map"

end StripeTransfer
