/-
StripeTransfer/Extent/Plan.lean

A plan splits an extent of bytes into one span per worker.  All spans but the
last share one size; the last takes what remains, so no byte is dropped.

A plan may carry a divisor, which samples the leading part of every span: each
worker then moves one byte in `divisor` of its span and leaves the rest alone.

Two kinds of plan are built here.  `Plan.even` gives every worker the same
share.  `Plan.aligned` rounds the share up to whole pages, so that every span
starts on a page, and lowers the number of workers until all shares fit.

No number of an even plan is above its extent, so it is the same with words of a
machine.  Rounded shares may be larger than the extent, and so may their
multiples: an aligned plan is calculated with words, as it is, whether or not the
results fit.
-/
import StripeTransfer.Extent.Span
import StripeTransfer.Number.Word

namespace StripeTransfer

/-! ### Plans -/

/-- Why a plan cannot be made. -/
inductive PlanError where
  | noWorkers
  | zeroDivisor
  /-- The divisor is larger than the share of a worker. -/
  | divisorExceedsShare (divisor share : Nat)
  | zeroPage
  deriving Repr, DecidableEq

/-- The message of a refused plan. -/
def PlanError.message : PlanError → String
  | .noWorkers => "worker count must be at least 1"
  | .zeroDivisor => "divisor must be at least 1"
  | .divisorExceedsShare d share =>
    s!"divisor {d} exceeds the per-worker part size of {share} bytes"
  | .zeroPage => "page size must be at least 1"

/-- The work of one worker of a plan. -/
structure Assignment where
  /-- The place of the worker within the plan. -/
  index : Nat
  /-- The worker's part of the extent, and of the shared buffer. -/
  region : Span
  /-- The bytes the worker moves, as offsets in the file. -/
  target : Span
  deriving Repr, DecidableEq

/-- A split of an extent into spans, one per worker, in order. -/
structure Plan where
  /-- The number of bytes that the spans cover. -/
  extent : Nat
  /-- The sampling divisor; one moves everything. -/
  divisor : Nat
  /-- The spans, in order. -/
  spans : List Span
  deriving Repr, DecidableEq

namespace Plan

/-- The number of spans, and so of workers. -/
def workerCount (p : Plan) : Nat := p.spans.length

/-- The number of bytes moved in total, taking the divisor into account. -/
def transferExtent (p : Plan) : Nat := p.extent / p.divisor

/-- The size of the first span, which all but the last share. -/
def share (p : Plan) : Nat := (p.spans.head?.map Span.length).getD 0

/-- One assignment per span; `base` is where the extent starts in the file. -/
def assignments (p : Plan) (base : Nat) : List Assignment :=
  p.spans.zipIdx.map fun (region, index) =>
    { index, region, target := (region.sample p.divisor).shift base }

/-! ### Building plans -/

/-- The spans of `workers + 1` workers: `workers` spans of `share` bytes from `offset` on, and a
last one up to `extent`. -/
def spansFrom (extent share : Nat) : (workers offset : Nat) → List Span
  | 0, offset => [⟨offset, extent - offset⟩]
  | workers + 1, offset => ⟨offset, share⟩ :: spansFrom extent share workers (offset + share)

/-- The plan that gives `share` bytes to each of `workers` workers but the last. -/
def ofShare (extent workers share divisor : Nat) : Plan :=
  { extent, divisor, spans := spansFrom extent share (workers - 1) 0 }

/-- The even share of a worker, if the numbers admit a plan. -/
def evenShare (extent workers divisor : Nat) : Except PlanError Nat :=
  if workers = 0 then .error .noWorkers
  else if divisor = 0 then .error .zeroDivisor
  else if 1 < divisor ∧ extent / workers < divisor then
    .error (.divisorExceedsShare divisor (extent / workers))
  else .ok (extent / workers)

/-- Splits an extent evenly, sampling one byte in `divisor` of every share. -/
def even (extent workers divisor : Nat) : Except PlanError Plan := do
  let share ← evenShare extent workers divisor
  return ofShare extent workers share divisor

/-- The share with its last page made whole. -/
def rounded (share page : Nat) : Nat :=
  if share % page = 0 then share else Word.wrap ((share / page + 1) * page)

/-- Lowers the number of workers one by one, until the shares of all fit into the extent or only one
worker is left. -/
def lowered (extent share : Nat) : (workers : Nat) → Nat
  | 0 => 0
  | workers + 1 =>
    if 0 < workers ∧ extent < Word.wrap (share * (workers + 1)) then lowered extent share workers
    else workers + 1

/-- The plan that gives `share` bytes to each of `workers` workers but the last, in words. -/
def ofWords (extent workers share divisor : Nat) : Plan :=
  { extent, divisor, spans := (List.range workers).map fun i =>
      let offset := Word.wrap (share * i)
      ⟨offset, if i + 1 = workers then Word.sub extent offset else share⟩ }

/-- Splits an extent into spans that start on multiples of `page`, with at most `workers` of
them. -/
def aligned (extent workers divisor page : Nat) : Except PlanError Plan := do
  let share ← evenShare extent workers divisor
  if page = 0 then throw .zeroPage
  let share := rounded share page
  let workers := lowered extent share workers
  if 1 < divisor ∧ 1 < workers ∧ share < divisor then
    throw (.divisorExceedsShare divisor share)
  return ofWords extent workers share divisor

end Plan

end StripeTransfer
