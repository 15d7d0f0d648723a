/-
StripeTransfer/Command/Program.lean

The program: from the words of a command line to what is printed and the number
that the program exits with.  Nothing but the error is printed if a command
fails.
-/
import StripeTransfer.Command.Help
import StripeTransfer.Command.Perform
import StripeTransfer.Log.Filter

namespace StripeTransfer

/-- What a run of the program leaves. -/
structure ProgramEnd where
  /-- The number that the program exits with. -/
  exit : Nat
  /-- What is printed, by the time that the run took. -/
  output : Duration → String
  /-- What is said about errors. -/
  complaint : String
  disk : Disk
  toolCalls : List ToolCall

namespace Program

/-! ### Configuration -/

/-- The path of a file as messages show it, without parts that stand for the directory itself. -/
def shownPath (path : String) : String :=
  if path.startsWith "/" then path else String.intercalate "/" (Disk.names path)

/-- Loads the configuration; a file that is not there is as good as an empty one. -/
def loadConfig (file : Option String) (s : Surroundings) : Except CommandError Config :=
  match file.map fun path => (path, s.disk.slot path) with
  | some (path, .file content) =>
    let loaded := match String.fromUTF8? content with
      | some text => Config.load (some text) s.environment
      | none => .error (.unreadable Cause.notText.message)
    loaded.mapError (.config (shownPath path))
  | _ => (Config.load none s.environment).mapError (.config "")

/-- The variable that says what is logged. -/
def logVariable : String := "RUST_LOG"

/-- The directives on logging that cannot be read, one line each. -/
def logWarnings (s : Surroundings) : String :=
  match s.variable? logVariable with
  | none => ""
  | some text =>
    if (LogLevel.ofText? text).isSome then ""
    else
      String.join ((LogFilter.readings text).filterMap fun (directive, reading) =>
        match reading with
        | .error e => some s!"ignoring `{directive}`: {e.message}\n"
        | .ok _ => none)

/-! ### Runs -/

/-- A run that ends early, with something printed or with a complaint. -/
def early (s : Surroundings) (exit : Nat) (output complaint : String) : ProgramEnd :=
  ⟨exit, fun _ => output, complaint, s.disk, []⟩

/-- What is said of a command line that cannot be read. -/
def usageComplaint (e : UsageError) : String :=
  s!"{e.message}\nRun {Command.programForm.name} --help for more information.\n"

/-- Carries out a command with a configuration. -/
def carryOut (command : Command) (c : Config) (s : Surroundings) : ProgramEnd :=
  if c.runtime.threads = some 0 then early s 101 "" "Worker threads cannot be set to 0\n"
  else
    let o := command.perform c s
    match o.result with
    | .ok output => ⟨0, output, logWarnings s, o.disk, o.toolCalls⟩
    | .error e => ⟨1, fun _ => "", logWarnings s ++ e.text, o.disk, o.toolCalls⟩

/-- Runs the program on the words of a command line. -/
def run (words : List String) (s : Surroundings) : ProgramEnd :=
  let form := Command.programForm
  match form.read words with
  | .error e => early s 1 "" (usageComplaint e)
  | .ok .help => early s 0 (form.help ++ "\n") ""
  | .ok (.commandHelp command) => early s 0 (command.help form.name ++ "\n") ""
  | .ok (.command _ .version) => early s 0 Command.versionText ""
  | .ok (.command program command) =>
    match loadConfig (program.value? Command.configOption) s with
    | .error e => early s 1 "" e.text
    | .ok c => carryOut command c s

/-! ### Files -/

/-- The file with the configuration that a command line names. -/
def configFile? (words : List String) : Option String :=
  match Command.programForm.read words with
  | .ok (.command program _) => program.value? Command.configOption
  | _ => none

/-- The files that a command line is about, if the configuration can be loaded. -/
def files (words : List String) (s : Surroundings) : List String :=
  match Command.programForm.read words with
  | .ok (.command program command) =>
    match loadConfig (program.value? Command.configOption) s with
    | .ok c => command.files c s.variable?
    | .error _ => []
  | _ => []

end Program

end StripeTransfer
