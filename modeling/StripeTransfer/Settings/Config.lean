/-
StripeTransfer/Settings/Config.lean

The configuration.  Settings come from the defaults, from a file, and from
variables of the environment, each overriding what comes before; what they mean
is decided once they are merged.
-/
import StripeTransfer.Layout.Basic
import StripeTransfer.Log.Level
import StripeTransfer.Settings.Decode
import StripeTransfer.Settings.Inline
import StripeTransfer.Settings.Written
import StripeTransfer.Transfer.Strategy
import StripeTransfer.Upload.Source

namespace StripeTransfer

open Text Setting

/-! ### The configuration -/

/-- How the program logs. -/
structure LogSettings where
  level : LogLevel := .warn
  format : LogFormat := .auto
  deriving Repr, DecidableEq

/-- How the program runs. -/
structure RuntimeSettings where
  /-- The number of threads; by default as many as there are processors. -/
  threads : Option Nat := none
  deriving Repr, DecidableEq

/-- What holds for reading and writing unless the command says otherwise. -/
structure BenchmarkSettings where
  sync : SyncPolicy := .atEnd
  blockSize : Option Nat := none
  reportUnits : Bool := false
  deriving Repr, DecidableEq

/-- Where the layouts of files come from. -/
inductive TopologySettings where
  /-- The layout tool is asked. -/
  | tool (command : String)
  /-- Every file has the same layout. -/
  | fixed (stripeSize : Nat) (units : List Nat)
  deriving Repr, DecidableEq

/-- What holds for uploads unless the command says otherwise. -/
structure UploadSettings where
  endpoint : Option String := none
  region : String := "us-east-1"
  accessKey : Option String := none
  secretKey : Option String := none
  credentialsFile : Option String := none
  profile : Option String := none
  maxRetries : Nat := 2
  jobs : Nat := 1
  source : SourceMode := .onDemand
  deriving Repr, DecidableEq

/-- The configuration of the program. -/
structure Config where
  logging : LogSettings := {}
  runtime : RuntimeSettings := {}
  benchmark : BenchmarkSettings := {}
  topology : TopologySettings := .tool "lfs"
  upload : UploadSettings := {}
  deriving Repr, DecidableEq

/-! ### Meanings -/

namespace LogSettings

/-- The fields in their order. -/
def order : List String := ["level", "format"]

/-- The level that a setting names. -/
def levelOf (s : Setting) : Decoded LogLevel := do
  match LogLevel.ofText? (← s.toText) with
  | some level => return level
  | none => fail (.said LogLevel.refusal)

/-- Sets one field. -/
def put (l : LogSettings) (key : String) (s : Setting) : Decoded LogSettings := do
  match key with
  | "level" => return { l with level := ← levelOf s }
  | "format" =>
    return { l with format := ← s.toChoice "LogFormat" (LogFormat.all.map fun f => (f.name, f)) }
  | _ => return l

/-- The meaning of a setting; both fields have to be set. -/
def ofSetting (s : Setting) : Decoded LogSettings := do
  let l ← s.toRecord "Logging" order put {}
  s.demandAll "Logging" order
  return l

end LogSettings

namespace RuntimeSettings

/-- Sets one field. -/
def put (r : RuntimeSettings) (key : String) (s : Setting) : Decoded RuntimeSettings := do
  match key with
  | "worker_threads" => return { r with threads := some (← s.toCount max64 "usize") }
  | _ => return r

/-- The meaning of a setting. -/
def ofSetting : Setting → Decoded RuntimeSettings := toRecord "Runtime" ["worker_threads"] put {}

end RuntimeSettings

namespace BenchmarkSettings

/-- Sets one field. -/
def put (b : BenchmarkSettings) (key : String) (s : Setting) : Decoded BenchmarkSettings := do
  match key with
  | "sync" =>
    return { b with sync := ← s.toChoice "SyncPolicy" (SyncPolicy.all.map fun p => (p.name, p)) }
  | "block_size" => return { b with blockSize := ← s.toOption toSize }
  | "report_units" => return { b with reportUnits := ← s.toTruth }
  | _ => return b

/-- The meaning of a setting. -/
def ofSetting : Setting → Decoded BenchmarkSettings :=
  toRecord "Benchmark" ["sync", "block_size", "report_units"] put {}

end BenchmarkSettings

namespace TopologySettings

/-- The kinds of topologies. -/
inductive Kind where
  | tool
  | fixed
  deriving Repr, DecidableEq

/-- The kinds by name. -/
def kinds : List (String × Kind) := [("lfs", .tool), ("static", .fixed)]

/-- The kind that a setting names, or counts from zero on. -/
def kindOf (s : Setting) : Decoded Kind := do
  match s with
  | .leaf _ (.unsigned n) =>
    match kinds[n]? with
    | some k => return k.2
    | none => fail (.value (Leaf.unsigned n).shown "variant index 0 <= i < 2")
  | s =>
    let name ← s.toTextAs "variant identifier"
    match kinds.lookup name with
    | some k => return k
    | none => fail (.variant name (kinds.map Prod.fst))

/-- Refuses whole numbers beyond 64 bits, which no field has. -/
def demandNarrow : Setting → Decoded Unit
  | .leaf _ (.wide shown) => fail (.type (Leaf.wide shown).shown "any value")
  | _ => .ok ()

/-- A field that has to be there. -/
def demand {α : Type} (key : String) : Option α → Decoded α
  | some a => .ok a
  | none => fail (.missing key)

/-- The topology of a kind, from its fields. -/
def ofFields (kind : Kind) (field? : String → Option Setting) : Decoded TopologySettings := do
  match kind with
  | .tool =>
    let command ← (field? "command").mapM toPath
    return .tool (← demand "command" command)
  | .fixed =>
    let stripeSize ← (field? "stripe_size").mapM toCount64
    let units ← (field? "unit_indices").mapM (toList toCount32)
    return .fixed (← demand "stripe_size" stripeSize) (← demand "unit_indices" units)

/-- The kind that the entries of a map name; faults are found in the order of the keys. -/
def kindAmong (found : Option Kind) : List (String × Setting) → Decoded (Option Kind)
  | [] => .ok found
  | (key, s) :: rest => do
    let located {α : Type} (r : Decoded α) : Decoded α := r.mapError (.below key s.origin)
    if key == "type" then kindAmong (some (← located (kindOf s))) rest
    else
      located (demandNarrow s)
      kindAmong found rest

/-- The topology of a kind, from its fields in their order. -/
def ofItems (kind : Kind) (items : List Setting) : Decoded TopologySettings :=
  let (names, expected) := match kind with
    | .tool => (["command"], "struct variant Topology::Lfs with 1 element")
    | .fixed => (["stripe_size", "unit_indices"], "struct variant Topology::Static with 2 elements")
  if items.length < names.length then fail (.length items.length expected)
  else ofFields kind fun name => (names.zip items).lookup name

/-- The meaning of a setting. -/
def ofSetting (s : Setting) : Decoded TopologySettings := do
  match s with
  | .map _ entries =>
    let kind ← kindAmong none entries
    ofFields (← demand "type" kind) fun key => entries.lookup key
  | .list _ [] => fail (.missing "type")
  | .list _ (first :: rest) =>
    let kind ← (kindOf first).mapError (.below "0" first.origin)
    ofItems kind rest
  | s => s.refuse "internally tagged enum Topology"

end TopologySettings

namespace UploadSettings

/-- The fields in their order. -/
def order : List String :=
  ["endpoint", "region", "access_key", "secret_key", "credentials_file", "profile", "max_retries",
    "jobs", "source"]

/-- Sets one field. -/
def put (u : UploadSettings) (key : String) (s : Setting) : Decoded UploadSettings := do
  match key with
  | "endpoint" => return { u with endpoint := ← s.toOption toText }
  | "region" => return { u with region := ← s.toText }
  | "access_key" => return { u with accessKey := ← s.toOption toText }
  | "secret_key" => return { u with secretKey := ← s.toOption toText }
  | "credentials_file" => return { u with credentialsFile := ← s.toOption toPath }
  | "profile" => return { u with profile := ← s.toOption toText }
  | "max_retries" => return { u with maxRetries := ← s.toCount32 }
  | "jobs" => return { u with jobs := ← s.toCount32 }
  | "source" =>
    return { u with source := ← s.toChoice "SourceMode" (SourceMode.all.map fun m => (m.name, m)) }
  | _ => return u

/-- The meaning of a setting. -/
def ofSetting : Setting → Decoded UploadSettings := toRecord "Upload" order put {}

end UploadSettings

namespace Config

/-- Sets one part. -/
def put (c : Config) (key : String) (s : Setting) : Decoded Config := do
  match key with
  | "logging" => return { c with logging := ← LogSettings.ofSetting s }
  | "runtime" => return { c with runtime := ← RuntimeSettings.ofSetting s }
  | "benchmark" => return { c with benchmark := ← BenchmarkSettings.ofSetting s }
  | "topology" => return { c with topology := ← TopologySettings.ofSetting s }
  | "upload" => return { c with upload := ← UploadSettings.ofSetting s }
  | _ => return c

/-- The meaning of all settings. -/
def ofSetting : Setting → Decoded Config :=
  toRecord "Config" ["logging", "runtime", "benchmark", "topology", "upload"] put {}

/-! ### Sources -/

/-- The defaults as settings. -/
def defaults : Setting :=
  let leaf (v : Leaf) : Setting := .leaf .defaults v
  let map (entries : List (String × Setting)) : Setting := .map .defaults (Setting.sorted entries)
  map
    [("benchmark", map
        [("sync", leaf (.text "end")), ("block_size", leaf .empty),
          ("report_units", leaf (.truth false))]),
      ("logging", map [("level", leaf (.text "warn")), ("format", leaf (.text "auto"))]),
      ("runtime", map []),
      ("topology", map [("type", leaf (.text "lfs")), ("command", leaf (.text "lfs"))]),
      ("upload", map
        [("endpoint", leaf .empty), ("region", leaf (.text "us-east-1")),
          ("access_key", leaf .empty), ("secret_key", leaf .empty),
          ("credentials_file", leaf .empty), ("profile", leaf .empty),
          ("max_retries", leaf (.unsigned 2)), ("jobs", leaf (.unsigned 1)),
          ("source", leaf (.text "none"))])]

/-- The start of the names of variables that are settings. -/
def variableStart : String := "SB__"

/-- The keys that two underscores separate. -/
def splitKeys : List Char → List (List Char)
  | '_' :: '_' :: rest => [] :: splitKeys rest
  | '.' :: rest => [] :: splitKeys rest
  | c :: rest =>
    match splitKeys rest with
    | [] => [[c]]
    | key :: keys => (c :: key) :: keys
  | [] => [[]]

/-- The keys that the name of a variable stands for. -/
def keysOf? (name : String) : Option (List String) :=
  let start := variableStart.length
  if !sameIgnoringCase (String.ofList (name.toList.take start)) variableStart then none
  else
    let keys := splitKeys (trim (name.toList.drop start))
    if keys.any List.isEmpty then none
    else some (keys.map fun key => String.ofList (key.map asciiLower))

/-- The settings in the variables of the environment. -/
def ofVariables (environment : List (String × String)) : Setting :=
  environment.foldl
    (fun acc (name, value) =>
      match keysOf? name with
      | some keys => acc.merge (Setting.under .environment keys (Inline.parse .environment value))
      | none => acc)
    (.map .environment [])

/-- Why there is no configuration. -/
inductive LoadError where
  | unreadable (reason : String)
  | malformed (p : Yaml.Problem)
  | setting (e : SettingError)
  deriving Repr, DecidableEq

/-- The message of a configuration that cannot be loaded. -/
def LoadError.message : LoadError → String
  | .unreadable reason => reason
  | .malformed p => p.message
  | .setting e => e.fault.message

/-- The keys that lead to the fault. -/
def LoadError.path : LoadError → List String
  | .setting e => e.path
  | _ => []

/-- The message with the place of the fault; `file` is the path of the file. -/
def LoadError.report (file : String) (e : LoadError) : String :=
  let inFile := s!" in {file} YAML file"
  match e with
  | .setting s =>
    let key (text : String) : String := if s.path.isEmpty then "" else s!" for key {quoted text}"
    match s.origin with
    | some .environment =>
      e.message ++ key (String.intercalate "." (s.path.map String.toUpper)) ++
        s!" in `{variableStart}` environment variable(s)"
    | some .file => e.message ++ key ("default." ++ String.intercalate "." s.path) ++ inFile
    | _ => e.message
  | _ => e.message ++ inFile

/-- The configuration from the text of a file, if there is one, and from variables. -/
def load (file : Option String) (environment : List (String × String)) : Except LoadError Config := do
  let base ← match file with
    | none => pure defaults
    | some text => (Written.parse text).mapError .malformed |>.map defaults.merge
  (ofSetting (base.merge (ofVariables environment))).mapError .setting

/-! ### Descriptions -/

/-- The description of something that may be absent. -/
def optional {α : Type} (f : α → String) : Option α → String
  | some a => s!"Some({f a})"
  | none => "None"

/-- A name that starts with a capital. -/
def capitalized (name : String) : String :=
  match name.toList with
  | c :: rest => String.ofList (c.toUpper :: rest)
  | [] => ""

/-- A record with named fields. -/
def recordText (name : String) (fields : List (String × String)) : String :=
  let field (key value : String) : String := s!"{key}: {value}"
  s!"{name} \x7b " ++ String.intercalate ", " (fields.map fun (k, v) => field k v) ++ " \x7d"

/-- The description of the logging. -/
def loggingText (l : LogSettings) : String :=
  recordText "Logging"
    [("level", s!"LevelFilter::{l.level.capitals}"), ("format", capitalized l.format.name)]

/-- The description of the defaults of reading and writing. -/
def benchmarkText (b : BenchmarkSettings) : String :=
  let size (n : Nat) : String := s!"{ByteSize.text n} ({n} bytes)"
  recordText "Benchmark"
    [("sync", capitalized b.sync.name), ("block_size", optional size b.blockSize),
      ("report_units", toString b.reportUnits)]

/-- The description of the source of layouts. -/
def topologyText : TopologySettings → String
  | .tool command => recordText "Lfs" [("command", quoted command)]
  | .fixed stripeSize units =>
    let list := String.intercalate ", " (units.map fun n => toString n)
    recordText "Static" [("stripe_size", toString stripeSize), ("unit_indices", s!"[{list}]")]

/-- The description of the defaults of uploads, which keeps the secret key to itself. -/
def uploadText (u : UploadSettings) : String :=
  recordText "Upload"
    [("endpoint", optional quoted u.endpoint), ("region", quoted u.region),
      ("access_key", optional quoted u.accessKey),
      ("secret_key", optional (fun _ => "[redacted]") u.secretKey),
      ("credentials_file", optional quoted u.credentialsFile),
      ("profile", optional quoted u.profile), ("max_retries", toString u.maxRetries),
      ("jobs", toString u.jobs), ("source", capitalized u.source.name)]

/-- The description of a configuration, without the number of threads. -/
def text (c : Config) : String :=
  String.intercalate " "
    [loggingText c.logging, benchmarkText c.benchmark, topologyText c.topology, uploadText c.upload]

end Config

/-! ### Layouts -/

/-- The layout that every file has. -/
def TopologySettings.fixedLayout (stripeSize : Nat) (units : List Nat) : Except LayoutError Layout :=
  Layout.of stripeSize units.length units

end StripeTransfer
