/-
StripeTransfer/Files/Disk.lean

A tree of files and directories as a value.  A path is a list of names separated
by slashes; empty names and single dots stand for the directory they are in, and
a path that starts with a slash is looked up from a root of its own.
-/
import StripeTransfer.Files.Slot
import StripeTransfer.Text.Blank

namespace StripeTransfer

open Text

/-- A file or a directory. -/
inductive Entry where
  | file (content : ByteArray)
  | directory

/-- Files and directories by the names on their path, the last name first. -/
structure Disk where
  entries : List (List String × Entry)

namespace Disk

/-- A disk without files. -/
def empty : Disk := ⟨[]⟩

/-- What is stored under the names of a path, the last name first. -/
def entry? (d : Disk) : List String → Option Entry
  | [] => some .directory
  | ["/"] => some .directory
  | names => (d.entries.find? fun e => e.1 == names).map Prod.snd

/-- Stores an entry under the names of a path, in place of what was there. -/
def put (d : Disk) (names : List String) (entry : Entry) : Disk :=
  ⟨(names, entry) :: d.entries.filter fun e => e.1 != names⟩

/-! ### Paths -/

/-- The names of a path. -/
def names (path : String) : List String :=
  let parts := (pieces '/' path.toList).map String.ofList
  let below := parts.filter fun p => p != "" && p != "."
  if path.startsWith "/" then "/" :: below else below

/-- The names below a directory with the names `above`, the last name first; two dots go back. -/
def below (above : List String) (name : String) : List String :=
  if name == ".." then above.tail else name :: above

/-- Follows names below a directory whose own names are `above`, the last name first. -/
def follow (d : Disk) (above : List String) : List String → Except Cause (List String)
  | [] => .ok above
  | name :: rest =>
    let here := below above name
    match d.entry? here with
    | some .directory => follow d here rest
    | some (.file _) => if rest.isEmpty then .ok here else .error .notDirectory
    | none => if rest.isEmpty then .ok here else .error .notFound

/-- The names that a path leads to, the last name first. -/
def resolve (d : Disk) (path : String) : Except Cause (List String) :=
  if path.isEmpty then .error .notFound
  else if path.contains '\x00' then .error .zeroInPath
  else
    match follow d [] (names path) with
    | .error cause => .error cause
    | .ok found =>
      if path.endsWith "/" then
        match d.entry? found with
        | some .directory => .ok found
        | some (.file _) => .error .notDirectory
        | none => .error .notFound
      else .ok found

/-- What is found at a path. -/
def slot (d : Disk) (path : String) : Slot :=
  match d.resolve path with
  | .error cause => .blocked cause
  | .ok names =>
    match d.entry? names with
    | some (.file content) => .file content
    | some .directory => .directory
    | none => .vacant

/-- The disk with the content of a file slot stored at a path; other slots change nothing. -/
def store (d : Disk) (path : String) (s : Slot) : Disk :=
  match s, d.resolve path with
  | .file content, .ok names => d.put names (.file content)
  | _, _ => d

/-- Creates the directories on a path of names. -/
def makeDirectories (d : Disk) (above : List String) : List String → Disk
  | [] => d
  | name :: rest =>
    let here := below above name
    let d := if (d.entry? here).isNone then d.put here .directory else d
    makeDirectories d here rest

/-- Creates a directory and the ones above it. -/
def makeDirectory (d : Disk) (path : String) : Disk := d.makeDirectories [] (names path)

/-- Stores a file and the directories above it. -/
def storeFile (d : Disk) (path : String) (content : ByteArray) : Disk :=
  let all := names path
  (d.makeDirectories [] all.dropLast).put (all.foldl below []) (.file content)

/-- The content of the file at a path. -/
def content? (d : Disk) (path : String) : Option ByteArray := (d.slot path).content?

/-- The text of the file at a path. -/
def text (d : Disk) (path : String) : Except Cause String :=
  match (d.slot path).openRead with
  | .error cause => .error cause
  | .ok .directory => .error .isDirectory
  | .ok (.content bytes) =>
    match String.fromUTF8? bytes with
    | some s => .ok s
    | none => .error .notText

end Disk

end StripeTransfer
