/-
StripeTransfer/Command/Perform.lean

Carrying out commands.  A command is a function of the configuration and of what
is around it: the files, the variables of the environment, the layout tool, the
network and the clock.  It leaves the files as they are afterwards and the calls
of the layout tool, and a text to print, or an error and nothing to print.

How long a run takes is known only once it is over, so the text is a function of
that time.  The workers of a run start together and are awaited together, so it
is the time of each of them, too.
-/
import StripeTransfer.Command.Basic
import StripeTransfer.Files.Disk
import StripeTransfer.Files.PatternFile
import StripeTransfer.Layout.Tool
import StripeTransfer.Measure.Header
import StripeTransfer.Measure.Report
import StripeTransfer.Settings.Config
import StripeTransfer.Store.Client
import StripeTransfer.Upload.Session

namespace StripeTransfer

/-! ### Errors -/

/-- Why a command failed. -/
inductive CommandError where
  /-- The configuration in a file cannot be loaded. -/
  | config (file : String) (e : Config.LoadError)
  | layout (path : String) (e : TransferError)
  | size (path : String) (cause : Cause)
  | read (path : String) (e : TransferError)
  | write (path : String) (e : TransferError)
  | transfer (e : TransferError)
  | upload (e : UploadError)
  | noEndpoint
  /-- Only one of stripe size and stripe count is given. -/
  | halfStriping
  /-- A striping is given, and there is no layout tool. -/
  | stripingUnsupported
  deriving Repr, DecidableEq

namespace CommandError

/-- The message of a failed command, without its causes. -/
def message : CommandError → String
  | config file e => e.report file
  | layout path _ => s!"cannot get the layout of {path}"
  | size path _ => s!"cannot open file {path}"
  | read path _ => s!"cannot read {path}"
  | write path _ => s!"cannot write {path}"
  | transfer e => e.message
  | upload e => e.message
  | noEndpoint => "no endpoint given, pass --endpoint or set upload.endpoint"
  | halfStriping => "--stripe-size and --stripe-count have to be given together"
  | stripingUnsupported => "striped files require the lfs topology"

/-- The causes of a failed command, from the outermost inwards. -/
def causes : CommandError → List String
  | layout _ e | read _ e | write _ e => e.message :: e.causes
  | size _ cause => [cause.message]
  | transfer e => e.causes
  | upload e => e.causes
  | _ => []

/-- A cause on lines of its own, behind its number, if it has one. -/
def causeText (number : Option Nat) (cause : String) : String :=
  let blanks (n : Nat) : String := String.ofList (List.replicate n ' ')
  match number with
  | some n =>
    let digits := toString n
    s!"\n{blanks (5 - digits.length)}{digits}: " ++ cause.replace "\n" ("\n" ++ blanks 7)
  | none => "\n    " ++ cause.replace "\n" ("\n" ++ blanks 4)

/-- The report on a failed command: the message, and the causes below it.  Several causes are
numbered. -/
def text (e : CommandError) : String :=
  let causes := match e.causes with
    | [] => ""
    | [cause] => "\n\nCaused by:" ++ causeText none cause
    | causes => "\n\nCaused by:" ++ String.join (causes.zipIdx.map fun (c, i) => causeText (some i) c)
  s!"Error: {e.message}{causes}\n"

end CommandError

/-! ### Surroundings -/

/-- What a command finds around it. -/
structure Surroundings where
  disk : Disk
  /-- The variables of the environment. -/
  environment : List (String × String)
  tool : ToolHost
  network : Network
  now : Instant

/-- The value of a variable of the environment. -/
def Surroundings.variable? (s : Surroundings) (name : String) : Option String :=
  s.environment.lookup name

/-- A call of the layout tool. -/
structure ToolCall where
  command : String
  arguments : List String
  deriving Repr, DecidableEq

/-- What a command leaves. -/
structure Outcome where
  /-- What is printed, by the time that the run took. -/
  result : Except CommandError (Duration → String)
  disk : Disk
  toolCalls : List ToolCall

/-- The place of the process within its job. -/
def Surroundings.shard (s : Surroundings) : Except CommandError Shard :=
  (Shard.ofLookup s.variable?).mapError fun e => .transfer (.refused (.shard e))

namespace TopologySettings

/-- The layout of a file. -/
def layout (t : TopologySettings) (host : ToolHost) (path : String) : Except TransferError Layout :=
  match t with
  | .tool command => LayoutTool.layout ⟨command⟩ host path
  | .fixed stripeSize units => (fixedLayout stripeSize units).mapError .layout

/-- The calls of the layout tool that find out the layout of a file. -/
def layoutCalls (t : TopologySettings) (path : String) : List ToolCall :=
  match t with
  | .tool command => [⟨command, LayoutTool.queryArguments path⟩]
  | .fixed _ _ => []

end TopologySettings

/-- The layout of a file by the configuration. -/
def Config.layout (c : Config) (s : Surroundings) (path : String) : Except CommandError Layout :=
  (c.topology.layout s.tool path).mapError (.layout path)

/-! ### Reading -/

namespace ReadCommand

/-- The run of a command on the shard of a process. -/
def spec (r : ReadCommand) (c : Config) (layout : Layout) (shard : Shard) (span : Span) : RunSpec :=
  let stripes :=
    if shard.isDistributed then Layout.stripesIn span.length layout.stripeSize % (Text.max32 + 1)
    else layout.stripeCount
  { path := r.file, extent := span.length, workers := max 1 (r.threads.getD stripes), mode := .read
    strategy := r.strategy, divisor := r.divisor, base := span.offset
    blockSize := r.blockSize.orElse fun _ => c.benchmark.blockSize }

/-- What is printed on a run. -/
def output (r : ReadCommand) (c : Config) (fileSize : Nat) (layout : Layout) (shard : Shard)
    (span : Span) (report : RunReport) (elapsed : Duration) : String :=
  let brief := r.brief || shard.isDistributed
  let header := if brief then "" else readHeader r.file fileSize layout report.plan r.strategy
  let units := if shard.isDistributed then layout.unitsFor span else layout.units
  let perUnit :=
    if r.perUnit || c.benchmark.reportUnits then
      (Report.of (report.moved.map fun bytes => Bandwidth.of bytes elapsed) (some units)).text
    else ""
  header ++ Bandwidth.text (report.bandwidth elapsed) elapsed brief false ++ perUnit

/-- Reads the file. -/
def run (r : ReadCommand) (c : Config) (s : Surroundings) : Except CommandError (Duration → String) := do
  let slot := s.disk.slot r.file
  let layout ← c.layout s r.file
  let fileSize ← slot.size.mapError (.size r.file)
  let shard ← s.shard
  let span := shard.span fileSize
  let run ← (r.spec c layout shard span).build.mapError .transfer
  let report ← (run.execute slot run.planOrder).1.mapError (.read r.file)
  return r.output c fileSize layout shard span report

/-- Carries out the command. -/
def perform (r : ReadCommand) (c : Config) (s : Surroundings) : Outcome :=
  ⟨r.run c s, s.disk, c.topology.layoutCalls r.file⟩

end ReadCommand

/-! ### Writing -/

namespace WriteCommand

/-- The run of a command on the shard of a process. -/
def spec (w : WriteCommand) (c : Config) (span : Span) : RunSpec :=
  { path := w.file, extent := span.length, workers := w.threads, mode := .write
    strategy := w.strategy, base := span.offset, sync := w.sync.getD c.benchmark.sync
    blockSize := w.blockSize.orElse fun _ => c.benchmark.blockSize }

/-- The run that a command stands for. -/
def prepare (w : WriteCommand) (c : Config) (s : Surroundings) : Except CommandError (Shard × Run) := do
  let shard ← s.shard
  let run ← (w.spec c (shard.span w.size)).build.mapError .transfer
  return (shard, run)

/-- What is printed on a run. -/
def output (w : WriteCommand) (shard : Shard) (report : RunReport) (elapsed : Duration) : String :=
  Bandwidth.text (report.bandwidth elapsed) elapsed (w.brief || shard.isDistributed) true

/-- Carries out the command; the file keeps what was written to it, also if the run fails. -/
def perform (w : WriteCommand) (c : Config) (s : Surroundings) : Outcome :=
  match w.prepare c s with
  | .error e => ⟨.error e, s.disk, []⟩
  | .ok (shard, run) =>
    let (result, slot) := run.execute (s.disk.slot w.file) run.planOrder
    ⟨(result.mapError (.write w.file)).map (w.output shard), s.disk.store w.file slot, []⟩

end WriteCommand

/-! ### Uploading -/

namespace UploadCommand

/-- The client of the store that a command addresses. -/
def client (u : UploadCommand) (c : Config) (s : Surroundings) : Except CommandError Client := do
  let settings := c.upload
  match u.endpoint.orElse fun _ => settings.endpoint with
  | none => throw .noEndpoint
  | some endpoint =>
    let credentials ← (Credentials.resolve s.disk s.variable?
        (u.accessKey.orElse fun _ => settings.accessKey)
        (u.secretKey.orElse fun _ => settings.secretKey)
        (u.credentials.orElse fun _ => settings.credentialsFile)
        (u.profile.orElse fun _ => settings.profile)).mapError .upload
    (Client.of endpoint (u.region.getD settings.region) credentials).mapError .upload

/-- The upload that a command stands for. -/
def upload (u : UploadCommand) (c : Config) : Upload where
  bucket := u.bucket
  key := u.key
  workers := u.jobs.getD c.upload.jobs
  maxRetries := u.retries.getD c.upload.maxRetries
  source := u.source.getD c.upload.source

/-- Uploads the file. -/
def run (u : UploadCommand) (c : Config) (s : Surroundings) : Except CommandError (Duration → String) := do
  let client ← u.client c s
  let (outcome, traffic) :=
    (u.upload c).run (client.store s.network s.now) u.file (s.disk.slot u.file) .inOrder
  let outcome ← outcome.mapError .upload
  return fun _ => uploadedText outcome.etag traffic.retries

/-- Carries out the command. -/
def perform (u : UploadCommand) (c : Config) (s : Surroundings) : Outcome := ⟨u.run c s, s.disk, []⟩

end UploadCommand

/-! ### Creating -/

namespace CreateCommand

/-- The striping of the new file, if it is to have one. -/
def striping (k : CreateCommand) : Except CommandError (Option (Nat × Nat)) :=
  match k.stripeSize, k.stripeCount with
  | some size, some count => .ok (some (size, count))
  | none, none => .ok none
  | _, _ => .error .halfStriping

/-- Fills the file with the pattern. -/
def fill (k : CreateCommand) (s : Surroundings) (calls : List ToolCall) : Outcome :=
  match PatternFile.create k.file k.size (s.disk.slot k.file) with
  | .error e => ⟨.error (.transfer (.io e)), s.disk, calls⟩
  | .ok slot => ⟨.ok fun _ => "", s.disk.store k.file slot, calls⟩

/-- Carries out the command. -/
def perform (k : CreateCommand) (c : Config) (s : Surroundings) : Outcome :=
  match k.striping, c.topology with
  | .error e, _ => ⟨.error e, s.disk, []⟩
  | .ok none, _ => k.fill s []
  | .ok (some _), .fixed _ _ => ⟨.error .stripingUnsupported, s.disk, []⟩
  | .ok (some (size, count)), .tool command =>
    let calls := [⟨command, LayoutTool.createArguments k.file size count⟩]
    match LayoutTool.create ⟨command⟩ s.tool k.file size count with
    | .error e => ⟨.error (.transfer e), s.disk, calls⟩
    | .ok () => k.fill s calls

end CreateCommand

/-! ### All commands -/

namespace Command

/-- The version of the program. -/
def versionText : String := "0.1.0\n"

/-- Prints the layout of a file. -/
def performLayout (file : String) (c : Config) (s : Surroundings) : Outcome :=
  ⟨(c.layout s file).map fun l _ => l.text, s.disk, c.topology.layoutCalls file⟩

/-- Checks whether a file system accepts writes that bypass its cache. -/
def performCheck (file : String) (s : Surroundings) : Outcome :=
  match PatternFile.writePage file (s.disk.slot file) with
  | .error e => ⟨.error (.transfer (.io e)), s.disk, []⟩
  | .ok slot => ⟨.ok fun _ => "O_DIRECT supported\n", s.disk.store file slot, []⟩

/-- Carries out a command. -/
def perform (command : Command) (c : Config) (s : Surroundings) : Outcome :=
  match command with
  | read r => r.perform c s
  | write w => w.perform c s
  | upload u => u.perform c s
  | layout file => performLayout file c s
  | create k => k.perform c s
  | checkDirect file => performCheck file s
  | version => ⟨.ok fun _ => versionText, s.disk, []⟩

/-- The files that a command looks at, by the configuration and the environment. -/
def files (command : Command) (c : Config) (lookup : String → Option String) : List String :=
  match command with
  | read r => [r.file]
  | write w => [w.file]
  | upload u =>
    u.file :: ((u.credentials.orElse fun _ => c.upload.credentialsFile).orElse fun _ =>
      Credentials.defaultFile lookup).toList
  | create k => [k.file]
  | checkDirect file => [file]
  | layout _ | version => []

end Command

end StripeTransfer
