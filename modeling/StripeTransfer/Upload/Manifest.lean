/-
StripeTransfer/Upload/Manifest.lean

The manifest that completes an upload: the parts in ascending order of their
numbers, each with the entity tag that the store gave it, as markup.
-/

namespace StripeTransfer

/-- A part that the store has acknowledged. -/
structure CompletedPart where
  /-- The number of the part, from one on. -/
  number : Nat
  /-- The tag of the part, as the store gave it. -/
  etag : String
  deriving Repr, DecidableEq

namespace Manifest

/-- The parts in ascending order of number; parts of the same number stay in order. -/
def ordered (parts : List CompletedPart) : List CompletedPart :=
  parts.mergeSort fun a b => a.number ≤ b.number

/-- How a character is written in markup. -/
def escapeChar : Char → List Char
  | '&' => "&amp;".toList
  | '<' => "&lt;".toList
  | '>' => "&gt;".toList
  | '"' => "&quot;".toList
  | c => [c]

/-- A text as it is written in markup. -/
def escape (s : List Char) : List Char := s.flatMap escapeChar

/-- What stands before the parts. -/
def opening : List Char :=
  ("<?xml version=\"1.0\" encoding=\"UTF-8\"?>\n" ++
    "<CompleteMultipartUpload xmlns=\"http://s3.amazonaws.com/doc/2006-03-01/\">\n").toList

/-- What stands behind the parts. -/
def closing : List Char := "</CompleteMultipartUpload>".toList

/-- The element of one part. -/
def element (part : CompletedPart) : List Char :=
  "<Part><ETag>".toList ++ escape part.etag.toList ++ "</ETag><PartNumber>".toList ++
    Nat.toDigits 10 part.number ++ "</PartNumber></Part>".toList

/-- The markup of a manifest. -/
def render (parts : List CompletedPart) : List Char :=
  opening ++ (ordered parts).flatMap element ++ closing

/-- The markup of a manifest as text. -/
def text (parts : List CompletedPart) : String := String.ofList (render parts)

end Manifest

end StripeTransfer
