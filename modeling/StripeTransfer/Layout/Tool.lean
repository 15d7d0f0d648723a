/-
StripeTransfer/Layout/Tool.lean

The layout tool of a parallel filesystem, which is run as a command: it prints
the listing of a file's layout, and it creates empty files with a layout.

A command is run by a function that the caller passes in, so what the tool does
is data here: how it ended and what it printed.
-/
import StripeTransfer.Layout.Listing
import StripeTransfer.Text.Utf8
import StripeTransfer.Transfer.Error

namespace StripeTransfer

open Text

/-- How a command came to its end. -/
inductive ToolEnding where
  | exited (code : Nat)
  | killed (signal : Nat)
  deriving Repr, DecidableEq

namespace ToolEnding

/-- The names of the signals, from the first one on. -/
def signalNames : List String :=
  ["SIGHUP", "SIGINT", "SIGQUIT", "SIGILL", "SIGTRAP", "SIGABRT", "SIGBUS", "SIGFPE", "SIGKILL",
    "SIGUSR1", "SIGSEGV", "SIGUSR2", "SIGPIPE", "SIGALRM", "SIGTERM", "SIGSTKFLT", "SIGCHLD",
    "SIGCONT", "SIGSTOP", "SIGTSTP", "SIGTTIN", "SIGTTOU", "SIGURG", "SIGXCPU", "SIGXFSZ",
    "SIGVTALRM", "SIGPROF", "SIGWINCH", "SIGIO", "SIGPWR", "SIGSYS"]

/-- The description of an ending. -/
def text : ToolEnding → String
  | exited code => s!"exit status: {code}"
  | killed signal =>
    match if signal = 0 then none else signalNames[signal - 1]? with
    | some name => s!"signal: {signal} ({name})"
    | none => s!"signal: {signal}"

end ToolEnding

/-- What a command that ran left behind. -/
structure ToolReply where
  ending : ToolEnding
  output : ByteArray
  complaint : ByteArray

/-- Runs a command with arguments. -/
abbrev ToolHost : Type := (command : String) → (arguments : List String) → Except Cause ToolReply

/-- The layout tool, by the name of its command. -/
structure LayoutTool where
  command : String
  deriving Repr, DecidableEq

namespace LayoutTool

/-- The tool as it is usually installed. -/
def usual : LayoutTool := ⟨"lfs"⟩

/-- The arguments that ask for the layout of a file. -/
def queryArguments (path : String) : List String := ["getstripe", path]

/-- The arguments that create an empty file with a layout. -/
def createArguments (path : String) (stripeSize stripeCount : Nat) : List String :=
  ["setstripe", "-S", toString stripeSize, "-c", toString stripeCount, path]

/-- Runs the tool for a request on a file; gives what it printed. -/
def call (t : LayoutTool) (host : ToolHost) (request path : String) (arguments : List String) :
    Except TransferError ByteArray :=
  match host t.command arguments with
  | .error cause => .error (.io ⟨.runTool t.command request, cause⟩)
  | .ok reply =>
    match reply.ending with
    | .exited 0 => .ok reply.output
    | ending =>
      let reason := trimmed (decodeLenient reply.complaint)
      .error (.layout (.toolFailed t.command request path ending.text reason))

/-- The layout of a file. -/
def layout (t : LayoutTool) (host : ToolHost) (path : String) : Except TransferError Layout := do
  let output ← t.call host "getstripe" path (queryArguments path)
  match Layout.ofListing (decodeLenient output) with
  | .error e => throw (.layout e)
  | .ok l => return l

/-- Creates an empty file with a layout. -/
def create (t : LayoutTool) (host : ToolHost) (path : String) (stripeSize stripeCount : Nat) :
    Except TransferError Unit := do
  let _ ← t.call host "setstripe" path (createArguments path stripeSize stripeCount)

end LayoutTool

end StripeTransfer
