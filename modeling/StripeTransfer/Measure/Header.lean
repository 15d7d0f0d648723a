/-
StripeTransfer/Measure/Header.lean

The description of a reading run that is printed before its results.
-/
import StripeTransfer.Extent.Plan
import StripeTransfer.Layout.Basic
import StripeTransfer.Number.ByteSize
import StripeTransfer.Transfer.Strategy

namespace StripeTransfer

/-- The description of a reading run: the file, its layout and how it is read. -/
def readHeader (path : String) (fileSize : Nat) (layout : Layout) (plan : Plan)
    (strategy : Strategy) : String :=
  s!"File:         {path}\n" ++
  s!"File size:    {fileSize} bytes ({ByteSize.text fileSize})\n" ++
  s!"Stripe count: {layout.stripeCount}\n" ++
  s!"Stripe size:  {layout.stripeSize}\n" ++
  s!"# threads:    {plan.workerCount}\n" ++
  (if 1 < plan.divisor then
    s!"Read factor:  1/{plan.divisor} (~{plan.transferExtent} bytes, " ++
      s!"{plan.share / plan.divisor} bytes per thread)\n"
  else "") ++
  s!"Read mode:    {strategy.name}\n"

/-- The result of an upload: the tag of the object, and how many parts were sent again. -/
def uploadedText (etag : String) (retries : Nat) : String :=
  etag ++ "\n" ++ (if 0 < retries then s!"Num retries: {retries}\n" else "")

end StripeTransfer
