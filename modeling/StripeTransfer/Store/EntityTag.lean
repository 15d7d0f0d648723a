/-
StripeTransfer/Store/EntityTag.lean

Entity tags.  A store names the version of an object in a reply header, or in an
element of the reply's markup; either way the tag stands in quotes, which may be
written as entities.
-/
import StripeTransfer.Store.Message
import StripeTransfer.Text.Blank

namespace StripeTransfer.EntityTag

open Text

/-- Whether an octet may stand in the text of a header. -/
def isHeaderText (b : UInt8) : Bool := b == 9 || (0x20 ≤ b && b ≤ 0x7E)

/-- The text of a header value, if it has one. -/
def headerText? (value : List UInt8) : Option (List Char) :=
  if value.all isHeaderText then some (value.map fun b => Char.ofNat b.toNat) else none

/-- The tag in the headers of a reply, as it stands but without blanks around it. -/
def ofReply? (reply : Reply) : Option String :=
  match ((reply.header? "etag").bind headerText?).map trim with
  | none => none
  | some [] => none
  | some tag => some (String.ofList tag)

/-- The ways to write a quote. -/
def quotes : List (List Char) := ["\"".toList, "&quot;".toList, "&#34;".toList]

/-- The text between two of the same quote. -/
def between? (quote s : List Char) : Option (List Char) :=
  (dropLead quote s).bind (dropTail quote)

/-- The tag without blanks and one pair of quotes around it. -/
def unquoteChars (tag : List Char) : List Char :=
  (quotes.findSome? fun q => between? q (trim tag)).getD (trim tag)

/-- The tag without blanks and one pair of quotes around it. -/
def unquote (tag : String) : String := String.ofList (unquoteChars tag.toList)

end StripeTransfer.EntityTag
