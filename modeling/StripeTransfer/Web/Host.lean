/-
StripeTransfer/Web/Host.lean

The host in the address of a resource: a name, or a number of 32 or 128 bits.
A host whose last label is a number is a number of 32 bits, in one to four parts
that are decimal, octal or hexadecimal; a host in brackets is one of 128 bits.
-/
import StripeTransfer.Signature.Percent
import StripeTransfer.Web.Domain

namespace StripeTransfer

open Text

/-- Why a text is not the address of a resource. -/
inductive UrlError where
  | relative
  | emptyHost
  | badName
  | badCharacter
  | badPort
  | badIpv4
  | badIpv6
  deriving Repr, DecidableEq

/-- What is said of a text that is not an address. -/
def UrlError.message : UrlError → String
  | .relative => "relative URL without a base"
  | .emptyHost => "empty host"
  | .badName => "invalid international domain name"
  | .badCharacter => "invalid domain character"
  | .badPort => "invalid port number"
  | .badIpv4 => "invalid IPv4 address"
  | .badIpv6 => "invalid IPv6 address"

/-- A host. -/
inductive Host where
  | name (chars : List Char)
  | ipv4 (number : Nat)
  /-- Eight groups of 16 bits. -/
  | ipv6 (groups : List Nat)
  deriving Repr, DecidableEq

namespace Host

/-! ### Numbers of 32 bits -/

/-- The value of the digits of a base, which is at most 16. -/
def valueIn (base : Nat) (s : List Char) : Option Nat :=
  s.foldlM (fun n c => (hexDigit? c).bind fun d => if d < base then some (base * n + d) else none) 0

/-- The value of one part of a number: decimal, octal behind a zero, or hexadecimal behind `0x`. -/
def part? (s : List Char) : Option Nat :=
  match s with
  | [] => none
  | '0' :: 'x' :: rest => valueIn 16 rest
  | '0' :: 'X' :: rest => valueIn 16 rest
  | '0' :: c :: rest => valueIn 8 (c :: rest)
  | s => valueIn 10 s

/-- The parts of a name, without an empty one at the end. -/
def parts (name : List Char) : List (List Char) :=
  let ps := pieces '.' name
  if ps.length > 1 && ps.getLast? == some [] then ps.dropLast else ps

/-- Whether a name has to be read as a number. -/
def endsInNumber (name : List Char) : Bool :=
  match (parts name).getLast? with
  | none => false
  | some last => (!last.isEmpty && last.all isDigit) || (part? last).isSome

/-- The number of a name that ends in one: the last part fills the octets that the others leave. -/
def ipv4? (name : List Char) : Option Nat :=
  let ps := parts name
  if 4 < ps.length then none
  else
    match ps.mapM part? with
    | none => none
    | some values =>
      let leading := values.dropLast
      let last := values.getLastD 0
      if leading.all (· ≤ 255) && last < Nat.pow 256 (4 - leading.length) then
        some (leading.zipIdx.foldl (fun n (v, i) => n + v * Nat.pow 256 (3 - i)) last)
      else none

/-- The text of a number of 32 bits: its four octets in decimal digits. -/
def ipv4Text (n : Nat) : List Char :=
  let octet (i : Nat) : List Char := Nat.toDigits 10 (n / Nat.pow 256 i % 256)
  List.intercalate ['.'] [octet 3, octet 2, octet 1, octet 0]

/-! ### Numbers of 128 bits -/

/-- An octet in decimal digits without leading zeros. -/
def octet? (s : List Char) : Option Nat :=
  match s with
  | ['0'] => some 0
  | '0' :: _ => none
  | s => if s.length ≤ 3 then (digits? s).filter (· ≤ 255) else none

/-- The two groups of a number written as four octets. -/
def ipv4Groups? (s : List Char) : Option (List Nat) :=
  match (pieces '.' s).mapM octet? with
  | some [a, b, c, d] => some [256 * a + b, 256 * c + d]
  | _ => none

/-- A group of one to four hexadecimal digits. -/
def group? (s : List Char) : Option Nat :=
  if s.isEmpty || 4 < s.length then none else valueIn 16 s

/-- The groups between colons; the last one may be written as four octets if `tail` is set. -/
def groups? (tail : Bool) (s : List Char) : Option (List Nat) :=
  if s.isEmpty then some []
  else
    let ps := pieces ':' s
    let last := ps.getLastD []
    match ps.dropLast.mapM group? with
    | none => none
    | some gs =>
      match group? last with
      | some g => some (gs ++ [g])
      | none => if tail then (ipv4Groups? last).map (gs ++ ·) else none

/-- The text before and after the first two colons in a row. -/
def splitGap : List Char → Option (List Char × List Char)
  | ':' :: ':' :: rest => some ([], rest)
  | c :: rest => (splitGap rest).map fun p => (c :: p.1, p.2)
  | [] => none

/-- The groups of a number of 128 bits; two colons in a row stand for the zeros that are missing. -/
def ipv6? (s : List Char) : Option (List Nat) :=
  match splitGap s with
  | none => (groups? true s).filter fun gs => gs.length == 8
  | some (before, after) =>
    match groups? false before, groups? true after with
    | some gs, some hs =>
      if gs.length + hs.length ≤ 7 then
        some (gs ++ List.replicate (8 - gs.length - hs.length) 0 ++ hs)
      else none
    | _, _ => none

/-- The number of zeros at the start. -/
def zeroRun (gs : List Nat) : Nat := (gs.takeWhile (· == 0)).length

/-- The place and the length of the first of the longest runs of at least two zeros. -/
def longestGap (gs : List Nat) : Option (Nat × Nat) :=
  let runs := (List.range gs.length).map fun i => (i, zeroRun (gs.drop i))
  runs.foldl (fun best r =>
    if 2 ≤ r.2 && (best.map Prod.snd).getD 1 < r.2 then some r else best) none

/-- The text of a number of 128 bits, in brackets. -/
def ipv6Text (gs : List Nat) : List Char :=
  let joined (hs : List Nat) : List Char := List.intercalate [':'] (hs.map hexNumeral)
  let inner := match longestGap gs with
    | none => joined gs
    | some (i, n) => joined (gs.take i) ++ [':', ':'] ++ joined (gs.drop (i + n))
  '[' :: inner ++ [']']

/-! ### Hosts -/

/-- The text of a host. -/
def text : Host → List Char
  | name chars => chars
  | ipv4 n => ipv4Text n
  | ipv6 gs => ipv6Text gs

/-- The octets of a text, with what is percent-encoded in it decoded. -/
def decoded : List Char → List UInt8
  | [] => []
  | '%' :: hi :: lo :: rest =>
    match hexDigit? hi, hexDigit? lo with
    | some h, some l => (16 * h + l).toUInt8 :: decoded rest
    | _, _ => 37 :: decoded (hi :: lo :: rest)
  | c :: rest => octets (String.ofList [c]) ++ decoded rest
termination_by s => s.length

/-- The host in brackets, if the text starts with one. -/
def bracketed? (s : List Char) : Option (Except UrlError Host) :=
  match s with
  | '[' :: rest =>
    match (dropTail [']'] rest).bind ipv6? with
    | some gs => some (.ok (.ipv6 gs))
    | none => some (.error .badIpv6)
  | _ => none

/-- Reads a host that people know by its name. -/
def ofChars (s : List Char) : Except UrlError Host :=
  match bracketed? s with
  | some result => result
  | none =>
    match (decode? ⟨(decoded s).toArray⟩).bind fun t => Domain.toAscii? t.toList with
    | none => .error .badName
    | some [] => .error .emptyHost
    | some chars =>
      if endsInNumber chars then
        match ipv4? chars with
        | some n => .ok (.ipv4 n)
        | none => .error .badIpv4
      else .ok (.name chars)

/-- The characters that a host of an unknown kind must not have. -/
def isForbidden (c : Char) : Bool :=
  ['\x00', '\t', '\n', '\r', ' ', '#', '/', ':', '<', '>', '?', '@', '[', '\\', ']', '^', '|'].contains c

/-- Reads a host that only its own kind of address gives a meaning. -/
def ofRawChars (s : List Char) : Except UrlError Host :=
  match bracketed? s with
  | some result => result
  | none => if s.any isForbidden then .error .badCharacter else .ok (.name s)

end Host

end StripeTransfer
