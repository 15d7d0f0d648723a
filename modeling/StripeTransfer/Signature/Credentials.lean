/-
StripeTransfer/Signature/Credentials.lean

Key pairs, and the files they are kept in.  A credentials file has sections that
start with a name in brackets; lines before the first one belong to the default
profile.  A line with an equals sign assigns a value to a key of its section;
blank lines and lines that start with a number sign or a semicolon are comments.

A file is read as the list of its assignments; a profile is what is assigned
under its name, and the last assignment of a key counts.
-/
import StripeTransfer.Files.Disk
import StripeTransfer.Text.Ascii
import StripeTransfer.Text.Quoted
import StripeTransfer.Upload.Error

namespace StripeTransfer

open Text

/-- A key pair. -/
structure Credentials where
  accessKey : String
  secretKey : String
  deriving DecidableEq

namespace Credentials

/-- The description of a key pair, which keeps the secret key to itself. -/
def text (c : Credentials) : String :=
  s!"Credentials \x7b access_key: {quoted c.accessKey}, secret_key: \"[redacted]\" \x7d"

/-- The profile that is used when none is chosen. -/
def defaultProfile : String := "default"

/-- The key of the access key. -/
def accessName : String := "aws_access_key_id"

/-- The key of the secret key. -/
def secretName : String := "aws_secret_access_key"

/-! ### Assignments -/

/-- A value assigned to a key of a section. -/
structure Assigned where
  profile : List Char
  /-- The key in lower case. -/
  key : List Char
  value : List Char
  deriving Repr, DecidableEq

/-- A value without blanks and one pair of quotes of either kind around it. -/
def bare (s : List Char) : List Char :=
  let s := trim s
  let between (q : Char) : Option (List Char) := (dropLead [q] s).bind (dropTail [q])
  ((between '"').orElse fun _ => between '\'').getD s

/-- What a line without surrounding blanks says. -/
inductive Line where
  | comment
  | section_ (name : List Char)
  | assignment (key value : List Char)
  deriving Repr, DecidableEq

/-- Reads a line without surrounding blanks. -/
def readLine (line : List Char) : Line :=
  match line with
  | [] => .comment
  | '#' :: _ => .comment
  | ';' :: _ => .comment
  | _ =>
    match (dropLead ['['] line).bind (dropTail [']']) with
    | some name => .section_ (trim name)
    | none =>
      match splitFirst '=' line with
      | some (key, value) => .assignment ((trim key).map asciiLower) (bare value)
      | none => .comment

/-- The assignments of some lines that follow a section's start. -/
def assignments (profile : List Char) : List (List Char) → List Assigned
  | [] => []
  | line :: rest =>
    match readLine (trim line) with
    | .comment => assignments profile rest
    | .section_ name => assignments name rest
    | .assignment key value => ⟨profile, key, value⟩ :: assignments profile rest

/-- The last value assigned to a key. -/
def lastValue? (key : String) (assigned : List Assigned) : Option String :=
  ((assigned.filter fun a => a.key == key.toList).getLast?).map fun a => String.ofList a.value

/-- The value of a key of a profile. -/
def field (profile key : String) (assigned : List Assigned) : Except CredentialsError String :=
  match lastValue? key assigned with
  | some value => .ok value
  | none => .error (.keyMissing profile key)

/-- The key pair of a profile, from the text of a credentials file. -/
def ofText (text profile : String) : Except CredentialsError Credentials :=
  let all := assignments defaultProfile.toList (lines text.toList)
  match all.filter fun a => a.profile == profile.toList with
  | [] => .error (.profileNotFound profile)
  | own => do
    let accessKey ← field profile accessName own
    let secretKey ← field profile secretName own
    return ⟨accessKey, secretKey⟩

/-! ### Files -/

/-- The key pair of a profile, from the credentials file at a path. -/
def ofFile (disk : Disk) (path profile : String) : Except UploadError Credentials :=
  match disk.text path with
  | .error cause => .error (.io ⟨.readCredentials path, cause⟩)
  | .ok text =>
    match ofText text profile with
    | .error e => .error (.credentials e)
    | .ok c => .ok c

/-- A path below another one. -/
def below (base name : String) : String :=
  if base.isEmpty then name else if base.endsWith "/" then base ++ name else base ++ "/" ++ name

/-- The credentials file that the environment names, or the one in the home directory. -/
def defaultFile (lookup : String → Option String) : Option String :=
  let named := (lookup "AWS_SHARED_CREDENTIALS_FILE").filter fun p => !(trim p.toList).isEmpty
  named.orElse fun _ => (lookup "HOME").map fun home => below (below home ".aws") "credentials"

/-- The key pair that is given, or else the one of a profile in a credentials file. -/
def resolve (disk : Disk) (lookup : String → Option String)
    (accessKey secretKey path profile : Option String) : Except UploadError Credentials :=
  match accessKey, secretKey with
  | some accessKey, some secretKey => .ok ⟨accessKey, secretKey⟩
  | none, none =>
    match path.orElse fun _ => defaultFile lookup with
    | none => .error (.credentials .fileUnknown)
    | some path => ofFile disk path (profile.getD defaultProfile)
  | _, _ => .error (.refused .halfKeyPair)

end Credentials

end StripeTransfer
