/-
StripeTransfer/Measure/Summary.lean

Descriptive statistics over the bandwidths of the workers of a run.  All of them
are computed from the sorted list of samples, so they do not depend on the order
in which the workers are listed.
-/
import StripeTransfer.Number.Binary64

namespace StripeTransfer

/-- Statistics over at least two samples. -/
structure Summary where
  min : Binary64
  max : Binary64
  /-- The quotient of the largest and the smallest sample. -/
  imbalance : Binary64
  mean : Binary64
  /-- The sample in the middle of the sorted list, the upper one of two. -/
  median : Binary64
  /-- The standard deviation of the samples taken as a whole population. -/
  deviation : Binary64
  /-- The deviation relative to the mean, in percent. -/
  variation : Binary64
  deriving Repr, DecidableEq

/-- The statistics of a list in ascending order that is not empty. -/
def Summary.ofSorted (least : Binary64) (rest : List Binary64) : Summary :=
  let sorted := least :: rest
  let n := Binary64.ofNat sorted.length
  let max := sorted.getLastD least
  let mean := Binary64.sum sorted / n
  let variance := Binary64.sum (sorted.map fun x => (x - mean) * (x - mean)) / n
  let deviation := variance.sqrt
  { min := least
    max
    imbalance := max / least
    mean
    median := sorted.getD (sorted.length / 2) least
    deviation
    variation := Binary64.ofNat 100 * deviation / mean }

/-- The statistics of a list of samples, if there are at least two. -/
def Summary.of (samples : List Binary64) : Option Summary :=
  match Binary64.sorted samples with
  | [] => none
  | [_] => none
  | least :: rest => some (Summary.ofSorted least rest)

end StripeTransfer
