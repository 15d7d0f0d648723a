/-
StripeTransfer/Buffer.lean

The buffer that the workers of a run share.  A reading run splits it into one
region per span of the plan, hands the regions out and joins them again; a
writing run only looks at the slice of each span.  Splitting goes by the lengths
of the spans, slicing by their offsets; on the spans of a plan both give the
same pieces.

The system lays memory out in pages, and tells how large they are.
-/
import StripeTransfer.Extent.Plan

namespace StripeTransfer

/-- The page size of a system: at least a byte, and small beside a word. -/
structure PageSize where
  bytes : Nat
  pos : 0 < bytes
  le : bytes ≤ 0x80000000
  deriving Repr

/-- The page size of a system that does not tell its own. -/
def PageSize.standard : PageSize := ⟨4096, by decide, by decide⟩

namespace Buffer

/-- A buffer of zeros. -/
def zeros (size : Nat) : ByteArray := ⟨Array.replicate size 0⟩

/-- Cuts one region per span off the front of a buffer, if it is long enough for all of them. -/
def splitSpans (buffer : ByteArray) : List Span → Option (List ByteArray)
  | [] => some []
  | s :: rest =>
    if s.length ≤ buffer.size then
      (splitSpans (buffer.extract s.length buffer.size) rest).map
        (buffer.extract 0 s.length :: ·)
    else none

/-- One region per span of a plan. -/
def split (buffer : ByteArray) (plan : Plan) : Option (List ByteArray) :=
  splitSpans buffer plan.spans

/-- The regions put together in the order given. -/
def join (regions : List ByteArray) : ByteArray :=
  regions.foldl (· ++ ·) ByteArray.empty

/-- The part of a buffer under each span of a plan. -/
def slices (buffer : ByteArray) (plan : Plan) : Option (List ByteArray) :=
  plan.spans.mapM fun s => s.slice? buffer

end Buffer

end StripeTransfer
