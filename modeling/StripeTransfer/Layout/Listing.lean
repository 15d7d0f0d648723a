/-
StripeTransfer/Layout/Listing.lean

Reading a layout from the listing that the layout tool prints for a file.  The
listing names the stripe count and the stripe size in any order among other
fields, then a header line, then one line per storage target that starts with
the index of the target.  Composite files list several components; a second
stripe count starts the second component, and only the first one is read.

The reader is a fold over the lines with a small state, `Listing`; a line either
extends the state, ends the reading, or is refused.
-/
import StripeTransfer.Layout.Basic
import StripeTransfer.Text.Blank
import StripeTransfer.Text.Numeral
import StripeTransfer.Text.Quoted

namespace StripeTransfer

open Text

/-- What has been read of a listing. -/
structure Listing where
  stripeCount : Option Nat
  stripeSize : Option Nat
  /-- The targets read so far, the last one first. -/
  targets : List Nat
  /-- Whether the header of the target lines has been seen. -/
  inTargets : Bool
  deriving Repr, DecidableEq

namespace Listing

/-- Nothing read yet. -/
def empty : Listing := ⟨none, none, [], false⟩

/-- The count in a field, blanks around it ignored. -/
def readField (name : String) (value : List Char) : Except LayoutError Nat :=
  let value := trim value
  match count? max64 value with
  | some n => .ok n
  | none => .error (.badField name (quoted (String.ofList value)))

/-- The effect of one line without surrounding blanks; `none` ends the reading. -/
def readLine (l : Listing) (line : List Char) : Except LayoutError (Option Listing) :=
  if l.inTargets then
    match (words line).head?.bind (count? max32) with
    | some target => .ok (some { l with targets := target :: l.targets })
    | none => .ok none
  else if let some value := dropLead "lmm_stripe_count:".toList line then
    if l.stripeCount.isSome then .ok none
    else do
      let count ← readField "lmm_stripe_count" value
      return some { l with stripeCount := some count }
  else if let some value := dropLead "lmm_stripe_size:".toList line then do
    let size ← readField "lmm_stripe_size" value
    return some { l with stripeSize := some size }
  else if (dropLead "obdidx".toList line).isSome then .ok (some { l with inTargets := true })
  else .ok (some l)

/-- Reads lines until one ends the reading. -/
def readLines (l : Listing) : List (List Char) → Except LayoutError Listing
  | [] => .ok l
  | line :: rest =>
    match l.readLine (trim line) with
    | .error e => .error e
    | .ok none => .ok l
    | .ok (some l) => readLines l rest

/-- The layout of a complete listing. -/
def toLayout (l : Listing) : Except LayoutError Layout :=
  match l.stripeCount, l.stripeSize with
  | none, _ => .error (.missingField "lmm_stripe_count")
  | some _, none => .error (.missingField "lmm_stripe_size")
  | some count, some size =>
    if max32 < count then .error (.countOutOfRange count)
    else Layout.of size count l.targets.reverse

end Listing

/-- Reads the layout of the first component of a listing. -/
def Layout.ofListing (text : String) : Except LayoutError Layout := do
  let listing ← Listing.empty.readLines (lines text.toList)
  listing.toLayout

end StripeTransfer
