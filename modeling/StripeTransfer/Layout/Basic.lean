/-
StripeTransfer/Layout/Basic.lean

How a file is striped across storage targets: stripes of one size go round robin
to a list of targets.  A layout has stripes of at least one byte and at least
one target, so every byte of the file has a target (`Layout.unitOf`).
-/
import StripeTransfer.Extent.Span

namespace StripeTransfer

/-! ### Layouts -/

/-- Why a layout is not known. -/
inductive LayoutError where
  | zeroStripeSize
  | zeroStripeCount
  /-- The number of targets differs from the announced stripe count. -/
  | targetCount (expected found : Nat)
  /-- A field is absent from a layout listing. -/
  | missingField (name : String)
  /-- A field of a layout listing is no count; the text is quoted. -/
  | badField (name shown : String)
  | countOutOfRange (count : Nat)
  /-- The layout tool refused the request; `reason` is its own message. -/
  | toolFailed (tool request path status reason : String)
  deriving Repr, DecidableEq

/-- The message of an unknown layout. -/
def LayoutError.message : LayoutError → String
  | .zeroStripeSize => "stripe size is zero"
  | .zeroStripeCount => "stripe count is zero"
  | .targetCount expected found => s!"expected {expected} storage targets, found {found}"
  | .missingField name => s!"no {name} in getstripe output"
  | .badField name shown => s!"invalid {name}: {shown}"
  | .countOutOfRange count => s!"lmm_stripe_count {count} is out of range"
  | .toolFailed tool request path status reason =>
    s!"{tool} {request} {path} failed ({status}): {reason}"

/-- A striping of a file: the size of a stripe, and the target of every stripe of a row. -/
structure Layout where
  stripeSize : Nat
  units : List Nat
  stripeSize_pos : 0 < stripeSize
  units_ne_nil : units ≠ []
  deriving Repr, DecidableEq

namespace Layout

/-- The number of stripes in a row. -/
def stripeCount (l : Layout) : Nat := l.units.length

/-- A layout of an announced number of stripes. -/
def of (stripeSize stripeCount : Nat) (units : List Nat) : Except LayoutError Layout :=
  if hs : stripeSize = 0 then .error .zeroStripeSize
  else if hc : stripeCount = 0 then .error .zeroStripeCount
  else if hu : units.length = stripeCount then
    .ok ⟨stripeSize, units, Nat.pos_of_ne_zero hs, by
      intro h
      simp [h] at hu
      exact hc hu.symm⟩
  else .error (.targetCount stripeCount units.length)

/-! ### Stripes and targets -/

/-- The target of a stripe. -/
def unitOf (l : Layout) (stripe : Nat) : Nat :=
  l.units.get ⟨stripe % l.units.length, Nat.mod_lt _ (List.length_pos_iff.2 l.units_ne_nil)⟩

/-- The number of stripes that hold `length` bytes, rounded up; none if stripes are empty. -/
def stripesIn (length stripeSize : Nat) : Nat :=
  if stripeSize = 0 then 0 else (length + stripeSize - 1) / stripeSize

/-- The targets of as many stripes as the length of the span fills, from its first stripe on.  The
numbers of the stripes are words of 64 bits if the span ends at one. -/
def unitsFor (l : Layout) (s : Span) : List Nat :=
  (List.range (stripesIn s.length l.stripeSize)).map fun k => l.unitOf (s.offset / l.stripeSize + k)

/-- One line for the stripe size, one for the count, and one for the target of each stripe. -/
def text (l : Layout) : String :=
  let stripeLine (unit index : Nat) : String := s!"Stripe {index}: OST {unit}\n"
  s!"Stripe size: {l.stripeSize}\nStripe count: {l.stripeCount}\n" ++
    String.join (l.units.zipIdx.map fun (unit, index) => stripeLine unit index)

end Layout

end StripeTransfer
