/-
StripeTransfer/Web/Url.lean

Addresses of resources on the web.  An address is read leniently: blanks around
it, tabs and line ends inside it, and backslashes in place of slashes are put
right; characters that must not stand in it are percent-encoded; and the dot
segments of its path are resolved (`Path.resolve`).

Only the two schemes of web servers give an address here, but other schemes are
read far enough to tell a malformed address from one of another kind.
-/
import StripeTransfer.Web.Host

namespace StripeTransfer

open Text

/-! ### Characters that are encoded -/

/-- The characters that are encoded in every part of an address. -/
def isAlwaysEncoded (c : Char) : Bool :=
  c.toNat ≤ 32 || 127 ≤ c.toNat || c == '"' || c == '<' || c == '>'

/-- The text with the characters that satisfy `p` percent-encoded. -/
def encodedWhere (p : Char → Bool) (s : List Char) : List Char :=
  s.flatMap fun c => if p c then (octets (String.ofList [c])).flatMap encodeOctet else [c]
where
  encodeOctet (b : UInt8) : List Char :=
    ['%', hexDigitUpper (b.toNat / 16), hexDigitUpper (b.toNat % 16)]

/-- The characters that are encoded in fragments. -/
def encodedInFragment (c : Char) : Bool := isAlwaysEncoded c || c.toNat == 96

/-- The characters that are encoded in queries. -/
def encodedInQuery (c : Char) : Bool := isAlwaysEncoded c || c == '#' || c == '\''

/-- The characters that are encoded in paths. -/
def encodedInPath (c : Char) : Bool :=
  encodedInFragment c || ['#', '?', '\x7b', '\x7d'].contains c

/-- The characters that are encoded in the names and passwords of users. -/
def encodedInUser (c : Char) : Bool :=
  encodedInPath c || ['/', ':', ';', '=', '@', '[', '\\', ']', '^', '|'].contains c

/-! ### Paths -/

namespace Path

/-- The segments of a path, which lie between slashes of either kind. -/
def segments (s : List Char) : List (List Char) :=
  pieces '/' (s.map fun c => if c == '\\' then '/' else c)

/-- A segment with its encoded dots as dots. -/
def plainDots : List Char → List Char
  | '%' :: '2' :: 'e' :: rest => '.' :: plainDots rest
  | '%' :: '2' :: 'E' :: rest => '.' :: plainDots rest
  | c :: rest => c :: plainDots rest
  | [] => []

/-- Whether a segment stands for the directory that it is in. -/
def isHere (s : List Char) : Bool := plainDots s == ['.']

/-- Whether a segment stands for the directory above. -/
def isAbove (s : List Char) : Bool := plainDots s == ['.', '.']

/-- Resolves dot segments; `kept` holds what has been kept, the last segment first.  A dot segment
at the end leaves an empty segment. -/
def resolveOnto (kept : List (List Char)) : List (List Char) → List (List Char)
  | [] => kept.reverse
  | s :: rest =>
    let kept := if isAbove s then kept.tail else if isHere s then kept else s :: kept
    let closing := if rest.isEmpty && (isAbove s || isHere s) then [[]] else []
    resolveOnto (closing ++ kept) rest

/-- The segments of a path without dot segments. -/
def resolve (segments : List (List Char)) : List (List Char) := resolveOnto [] segments

/-- The path of some segments. -/
def ofSegments (segments : List (List Char)) : List Char := segments.flatMap fun s => '/' :: s

/-- The path that a text is read as, with its first slash taken away. -/
def ofChars (s : List Char) : List Char :=
  ofSegments (resolve ((segments s).map (encodedWhere encodedInPath)))

end Path

/-! ### Addresses -/

/-- The address of a resource on a web server. -/
structure Url where
  /-- Whether the connection is encrypted. -/
  secure : Bool
  user : List Char
  password : List Char
  host : Host
  /-- The port, unless it is the usual one of the scheme. -/
  port : Option Nat
  /-- The path, which starts with a slash. -/
  path : List Char
  query : Option (List Char)
  fragment : Option (List Char)
  deriving Repr, DecidableEq

namespace Url

/-- What follows the authority of an address. -/
structure Tail where
  path : List Char
  query : Option (List Char)
  fragment : Option (List Char)
  deriving Repr, DecidableEq

/-- The text up to the first `mark`, and the text behind it if there is one. -/
def cut (mark : Char) (s : List Char) : List Char × Option (List Char) :=
  match splitFirst mark s with
  | some (before, after) => (before, some after)
  | none => (s, none)

/-- The text without a slash of either kind at its start. -/
def withoutSlash : List Char → List Char
  | '/' :: rest => rest
  | '\\' :: rest => rest
  | s => s

/-- Reads what follows the authority. -/
def Tail.ofChars (s : List Char) : Tail :=
  let (front, fragment) := cut '#' s
  let (path, query) := cut '?' front
  ⟨Path.ofChars (withoutSlash path), query.map (encodedWhere encodedInQuery),
    fragment.map (encodedWhere encodedInFragment)⟩

/-! ### Authorities -/

/-- The user, the host and the port of an address. -/
structure Authority where
  user : List Char
  password : List Char
  host : Host
  port : Option Nat
  deriving Repr, DecidableEq

/-- Splits a text at the last occurrence of `mark`. -/
def cutLast (mark : Char) (s : List Char) : Option (List Char × List Char) :=
  (splitFirst mark s.reverse).map fun (after, before) => (before.reverse, after.reverse)

/-- The host and what follows it: a colon ends a host, unless it stands in brackets. -/
def spanHost (inBrackets : Bool) : List Char → List Char × List Char
  | [] => ([], [])
  | c :: rest =>
    if c == ':' && !inBrackets then ([], c :: rest)
    else
      let inBrackets := c == '[' || (inBrackets && c != ']')
      let (host, after) := spanHost inBrackets rest
      (c :: host, after)

/-- Reads the port behind a host; a port that is `usual`, or none, is left out. -/
def readPort (usual : Option Nat) : List Char → Except UrlError (Option Nat)
  | ':' :: [] => .ok none
  | ':' :: s =>
    match (digits? s).filter (· ≤ max16) with
    | some n => .ok (if some n = usual then none else some n)
    | none => .error .badPort
  | _ => .ok none

/-- Reads the name and the password of a user. -/
def readUser (s : List Char) : List Char × List Char :=
  let (user, password) := cut ':' s
  (encodedWhere encodedInUser user, encodedWhere encodedInUser (password.getD []))

/-- What kinds of addresses there are. -/
inductive Kind where
  /-- A web server's, and whether the connection is encrypted. -/
  | web (secure : Bool)
  /-- Of a known scheme with hosts, which has a usual port. -/
  | known (port : Nat)
  | file
  | other
  deriving Repr, DecidableEq

/-- The kind of a scheme in lower case. -/
def Kind.ofScheme (scheme : String) : Kind :=
  match scheme with
  | "http" => .web false
  | "https" => .web true
  | "ws" => .known 80
  | "wss" => .known 443
  | "ftp" => .known 21
  | "file" => .file
  | _ => .other

/-- The usual port of a kind of addresses. -/
def Kind.port : Kind → Option Nat
  | .web secure => some (if secure then 443 else 80)
  | .known port => some port
  | _ => none

/-- Whether a backslash is a slash in addresses of this kind. -/
def Kind.isKnown (k : Kind) : Bool := k != .other

/-- Reads an authority. -/
def readAuthority (kind : Kind) (s : List Char) : Except UrlError Authority := do
  let (userText, rest) := (cutLast '@' s).getD ([], s)
  let (user, password) := readUser userText
  let (hostText, after) := spanHost false rest
  let hasUser := !(user.isEmpty && password.isEmpty)
  if hostText.isEmpty && (kind.isKnown || !after.isEmpty || hasUser) then throw .emptyHost
  let host ← if kind.isKnown then Host.ofChars hostText else Host.ofRawChars hostText
  let port ← readPort kind.port after
  return ⟨user, password, host, port⟩

/-! ### Reading -/

/-- The text without controls and spaces around it, and without tabs and line ends in it. -/
def cleaned (s : List Char) : List Char :=
  let isOuter (c : Char) : Bool := c.toNat ≤ 32
  let s := s.dropWhile isOuter
  let s := (s.reverse.dropWhile isOuter).reverse
  s.filter fun c => !(c == '\t' || c == '\n' || c == '\r')

/-- The scheme of an address in lower case, and what follows its colon. -/
def scheme? (s : List Char) : Option (String × List Char) :=
  match splitFirst ':' s with
  | some (c :: rest, after) =>
    let isNext (c : Char) : Bool := isLetter c || isDigit c || ['+', '-', '.'].contains c
    if isLetter c && rest.all isNext then
      some (String.ofList ((c :: rest).map asciiLower), after)
    else none
  | _ => none

/-- What a text is read as: an address of a web server, or one of another kind. -/
inductive Reading where
  | web (url : Url)
  | other
  deriving Repr, DecidableEq

/-- Whether a character ends the authority. -/
def endsAuthority (kind : Kind) (c : Char) : Bool :=
  c == '/' || c == '?' || c == '#' || (kind.isKnown && c == '\\')

/-- Whether a character is a slash of either kind. -/
def isSlash (c : Char) : Bool := c == '/' || c == '\\'

/-- Whether a text is the letter of a drive. -/
def isDrive : List Char → Bool
  | [c, mark] => isLetter c && (mark == ':' || mark == '|')
  | _ => false

/-- Checks the host of a file's address. -/
def checkFile (s : List Char) : Except UrlError Unit :=
  match s with
  | a :: b :: rest =>
    if isSlash a && isSlash b then
      let host := rest.takeWhile fun c => !endsAuthority .file c
      if host.isEmpty || isDrive host then .ok () else (Host.ofChars host).map fun _ => ()
    else .ok ()
  | _ => .ok ()

/-- Reads an address. -/
def parse (text : String) : Except UrlError Reading :=
  match scheme? (cleaned text.toList) with
  | none => .error .relative
  | some (scheme, s) =>
    let kind := Kind.ofScheme scheme
    let split (s : List Char) : List Char × List Char :=
      (s.takeWhile fun c => !endsAuthority kind c, s.dropWhile fun c => !endsAuthority kind c)
    match kind with
    | .web secure => do
      let (front, rest) := split (s.dropWhile isSlash)
      let a ← readAuthority kind front
      let tail := Tail.ofChars rest
      return .web ⟨secure, a.user, a.password, a.host, a.port, tail.path, tail.query, tail.fragment⟩
    | .known _ => do
      let _ ← readAuthority kind (split (s.dropWhile isSlash)).1
      return .other
    | .file => do
      checkFile s
      return .other
    | .other => do
      match dropLead ['/', '/'] s with
      | some s =>
        let _ ← readAuthority kind (split s).1
        return .other
      | none => return .other

/-! ### Writing -/

/-- The name of the scheme. -/
def scheme (u : Url) : List Char := if u.secure then "https".toList else "http".toList

/-- The host and the port, as a request names them. -/
def authority (u : Url) : List Char :=
  u.host.text ++ (u.port.map fun p => ':' :: Nat.toDigits 10 p).getD []

/-- The user, as an address names it. -/
def userText (u : Url) : List Char :=
  let password := if u.password.isEmpty then [] else ':' :: u.password
  if u.user.isEmpty && u.password.isEmpty then [] else u.user ++ password ++ ['@']

/-- The text of an address. -/
def text (u : Url) : String :=
  let part (mark : Char) (p : Option (List Char)) : List Char := (p.map (mark :: ·)).getD []
  String.ofList
    (u.scheme ++ "://".toList ++ u.userText ++ u.authority ++ u.path ++ part '?' u.query ++
      part '#' u.fragment)

/-- The address of another resource on the same server, given as path and query. -/
def at_ (u : Url) (target : List Char) : Url :=
  let tail := Tail.ofChars target
  ⟨u.secure, [], [], u.host, u.port, tail.path, tail.query, tail.fragment⟩

end Url

end StripeTransfer
