/-
StripeTransfer/Main.lean

The program on a real system.  The files that a command line is about are loaded
before it runs, and what it changed is stored afterwards; everything in between
is `Program.run`.  No commands are run and no network is connected here.
-/
import Std.Time.DateTime.Timestamp
import StripeTransfer.Command.Program

namespace StripeTransfer.Console

/-- The variables of the environment. -/
def environment : IO (List (String × String)) := do
  match ← (IO.FS.readBinFile "/proc/self/environ").toBaseIO with
  | .error _ => return []
  | .ok octets =>
    let entries := Text.pieces '\x00' (Text.decodeLenient octets).toList
    return (entries.filterMap (Text.splitFirst '=')).map fun (name, value) =>
      (String.ofList name, String.ofList value)

/-- Whether there is a directory at a path. -/
def isDirectory (path : String) : IO Bool := do
  match ← (IO.FS.realPath path).toBaseIO with
  | .error _ => return false
  | .ok found => found.isDir

/-- The path of the directory that a path leads into. -/
def directoryOf (path : String) : String :=
  let names := String.intercalate "/" (path.splitOn "/").dropLast
  if path.startsWith "/" then names ++ "/" else if names.isEmpty then "." else names

/-- The disk with what is found at a path, or with the directory that it leads into. -/
def load (d : Disk) (path : String) : IO Disk := do
  if ← isDirectory path then return d.makeDirectory path
  match ← (IO.FS.readBinFile path).toBaseIO with
  | .ok content => return d.storeFile path content
  | .error _ =>
    let directory := directoryOf path
    if ← isDirectory directory then return d.makeDirectory directory
    return d

/-- Stores the content of a file that is not what it was before. -/
def store (before after : Disk) (path : String) : IO Unit := do
  match after.content? path with
  | none => return
  | some content =>
    if (before.content? path).map ByteArray.data != some content.data then
      IO.FS.writeBinFile path content

/-- The seconds since the start of 1970. -/
def now : IO Instant := do return (← Std.Time.Timestamp.now).toSecondsSinceUnixEpoch.val

/-- Runs a computation; also gives the time that it took. -/
def timed {α : Type} (f : Unit → α) : IO (α × Duration) := do
  let started ← IO.monoNanosNow
  let result ← IO.lazyPure f
  let took := (← IO.monoNanosNow) - started
  return (result, ⟨took / 1000000000, took % 1000000000⟩)

/-- Runs the program. -/
def run (words : List String) : IO UInt32 := do
  let start ← (Program.configFile? words).toList.foldlM load Disk.empty
  let bare : Surroundings := ⟨start, ← environment, fun _ _ => .error .notFound, Network.down false, ← now⟩
  let files := Program.files words bare
  let disk ← files.foldlM load start
  let (finish, elapsed) ← timed fun _ => Program.run words { bare with disk }
  for path in files do
    store disk finish.disk path
  IO.print (finish.output elapsed)
  IO.eprint finish.complaint
  return finish.exit.toUInt32

end StripeTransfer.Console

/-- Runs the program on the words of its command line. -/
def main (words : List String) : IO UInt32 := StripeTransfer.Console.run words
