/-
StripeTransfer/Store/Markup.lean

Finding one element in the markup of a reply.  Names are compared regardless of
case, and any prefix that ends in a colon is ignored.

The element starts at the leftmost opening tag that is followed by a closing
tag, and ends at the first closing tag behind it; tags in between are part of
its text.
-/
import StripeTransfer.Text.Blank
import StripeTransfer.Text.CaseFold
import StripeTransfer.Text.WordChar

namespace StripeTransfer.Markup

open Text

/-- The text after `name`, if it starts with it regardless of case. -/
def dropName : (name : List Char) → List Char → Option (List Char)
  | [], s => some s
  | _ :: _, [] => none
  | a :: name, c :: s => if sameFold a c then dropName name s else none

/-- The text after a run of word characters and a colon, if it starts with such a prefix. -/
def dropQualifier (s : List Char) : Option (List Char) :=
  match s.takeWhile isWordChar, s.dropWhile isWordChar with
  | _ :: _, ':' :: rest => some rest
  | _, _ => none

/-- The places where the local name of a tag can start: behind a prefix, or at once. -/
def nameStarts (s : List Char) : List (List Char) := (dropQualifier s).toList ++ [s]

/-- The text after the attributes of a tag and its closing bracket. -/
def dropAttributes : List Char → Option (List Char)
  | [] => none
  | '>' :: rest => some rest
  | c :: rest =>
    if isBlank c then
      match rest.dropWhile (· != '>') with
      | [] => none
      | _ :: rest => some rest
    else none

/-- The texts after an opening tag of `name`, for a text behind an opening bracket. -/
def afterOpening (name s : List Char) : List (List Char) :=
  (nameStarts s).filterMap fun s => (dropName name s).bind dropAttributes

/-- Whether a text starts with a closing tag of `name`. -/
def startsClosing (name : List Char) : List Char → Bool
  | '<' :: '/' :: s => (nameStarts s).any fun s => (dropName name s).bind List.head? == some '>'
  | _ => false

/-- The text before the first closing tag of `name`. -/
def untilClosing (name : List Char) : List Char → Option (List Char)
  | [] => if startsClosing name [] then some [] else none
  | c :: rest =>
    if startsClosing name (c :: rest) then some []
    else (untilClosing name rest).map (c :: ·)

/-- The text of the first element of `name`, as it stands. -/
def findElement (name : List Char) : List Char → Option (List Char)
  | [] => none
  | '<' :: rest =>
    match (afterOpening name rest).findSome? (untilClosing name) with
    | some text => some text
    | none => findElement name rest
  | _ :: rest => findElement name rest

/-- The text of the first element of `name` without the blanks around it, if any is left. -/
def element? (xml name : String) : Option String :=
  match (findElement name.toList xml.toList).map trim with
  | none => none
  | some [] => none
  | some text => some (String.ofList text)

end StripeTransfer.Markup
