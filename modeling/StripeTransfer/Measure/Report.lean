/-
StripeTransfer/Measure/Report.lean

The report on the bandwidths of a run.  Storage targets are named only when
there is exactly one target per worker; then every target has a line, in order
of bandwidth, and the extremes and the median name the first worker's target
that reached them.
-/
import StripeTransfer.Measure.Bandwidth
import StripeTransfer.Measure.Summary

namespace StripeTransfer

/-- Bandwidths in plan order, with a target for each of them or none at all. -/
structure Report where
  bandwidths : List Binary64
  units : Option (List Nat)
  deriving Repr, DecidableEq

namespace Report

/-- A report that names targets only if there is one per bandwidth. -/
def of (bandwidths : List Binary64) (units : Option (List Nat)) : Report :=
  ⟨bandwidths, units.filter fun us => us.length == bandwidths.length⟩

/-- The statistics of a report on at least two bandwidths. -/
def summary (r : Report) : Option Summary := Summary.of r.bandwidths

/-- The pairs of targets and bandwidths in ascending order of bandwidth, ties in plan order. -/
def ranking (units : List Nat) (bandwidths : List Binary64) : List (Nat × Binary64) :=
  (units.zip bandwidths).mergeSort fun a b => a.2.le b.2

/-- The target of the first worker with a bandwidth. -/
def unitOf (r : Report) (bandwidth : Binary64) : Option Nat := do
  let units ← r.units
  let index ← r.bandwidths.findIdx? fun b => b.numEq bandwidth
  units[index]?

/-- The name of a target behind a bandwidth. -/
def label (r : Report) (bandwidth : Binary64) : String :=
  match r.unitOf bandwidth with
  | some unit => s!" - OST {unit}"
  | none => ""

/-- One line per target. -/
def unitLines (r : Report) : String :=
  let line (unit : Nat) (bandwidth : Binary64) : String := s!"OST {unit}: {bandwidth.text} GiB/s\n"
  match r.units with
  | none => ""
  | some units => String.join ((ranking units r.bandwidths).map fun (u, b) => line u b)

/-- The lines of the statistics. -/
def summaryLines (r : Report) : String :=
  match r.summary with
  | none => ""
  | some s =>
    s!"min:     {s.min.text} GiB/s{r.label s.min}\n" ++
    s!"Max:     {s.max.text} GiB/s{r.label s.max}\n" ++
    s!"Max/min: {s.imbalance.text}\n" ++
    s!"Average: {s.mean.text} GiB/s\n" ++
    s!"Median:  {s.median.text} GiB/s{r.label s.median}\n" ++
    s!"Standard deviation: {s.deviation.text} GiB/s\n" ++
    s!"Standard deviation / average: {s.variation.text} %\n"

/-- The text of a report. -/
def text (r : Report) : String := r.unitLines ++ r.summaryLines

end Report

end StripeTransfer
