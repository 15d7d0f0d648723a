/-
StripeTransfer/Text/Quoted.lean

Texts between double quotes, as they appear in messages and summaries.  A quote
and a backslash are written with a backslash before them, the four common
controls by a letter or digit, and every other hidden character by its code
point between braces.
-/
import StripeTransfer.Text.Hidden
import StripeTransfer.Text.Numeral

namespace StripeTransfer.Text

/-- How one character is written between double quotes. -/
def quotedChar (c : Char) : List Char :=
  match c with
  | '"' => ['\\', '"']
  | '\\' => ['\\', '\\']
  | '\n' => ['\\', 'n']
  | '\r' => ['\\', 'r']
  | '\t' => ['\\', 't']
  | '\x00' => ['\\', '0']
  | c =>
    if isHidden c then ['\\', 'u', '\x7b'] ++ hexNumeral c.toNat ++ ['\x7d'] else [c]

/-- The text between double quotes. -/
def quoted (s : String) : String :=
  String.ofList ('"' :: (s.toList.flatMap quotedChar ++ ['"']))

end StripeTransfer.Text
