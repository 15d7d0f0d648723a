/-
StripeTransfer/Transfer/Run.lean

A run moves one extent of a file with one worker per span of a plan.  The
workers may be executed in any order; `order` lists their numbers in the order
in which they are executed and complete.  A reading run gives back the shared
buffer, with every region in its place.

A writing run through mappings first extends the file, since a mapping cannot.
It looks at the size of the file and then sets it, which are two steps: what the
second one does depends on the size seen by the first.
-/
import StripeTransfer.Measure.Bandwidth
import StripeTransfer.Pattern
import StripeTransfer.Tasks
import StripeTransfer.Transfer.Worker

namespace StripeTransfer

/-! ### Parameters -/

/-- The parameters of a run. -/
structure RunSpec where
  path : String
  /-- The number of bytes to cover. -/
  extent : Nat
  workers : Nat := 1
  mode : Mode := .read
  strategy : Strategy := .unbuffered
  /-- Each worker moves one byte in this many of its span. -/
  divisor : Nat := 1
  /-- Where the extent starts in the file. -/
  base : Nat := 0
  sync : SyncPolicy := .atEnd
  /-- The cap on a single call. -/
  blockSize : Option Nat := none
  /-- The data to write; by default the test pattern at the extent's place in the file. -/
  source : Option ByteArray := none
  /-- The page size of the system. -/
  pageSize : PageSize := .standard

/-- A run that can be started: its parameters and its plan. -/
structure Run where
  spec : RunSpec
  plan : Plan

namespace RunSpec

/-- The plan for the strategy of a run.  Workers on pages are counted in a word of 32 bits. -/
def planOf (s : RunSpec) : Except PlanError Plan :=
  if s.strategy.needsPages then
    Plan.aligned s.extent (min s.workers Text.max32) s.divisor s.pageSize.bytes
  else Plan.even s.extent s.workers s.divisor

/-- Checks the parameters and makes the plan. -/
def build (s : RunSpec) : Except TransferError Run :=
  let sourceSize := (s.source.map ByteArray.size).getD s.extent
  if s.blockSize = some 0 then .error (.refused .zeroBlock)
  else if sourceSize ≠ s.extent then .error (.refused (.sourceLength sourceSize s.extent))
  else
    match s.planOf with
    | .error e => .error (.refused (.plan e))
    | .ok plan => .ok ⟨s, plan⟩

end RunSpec

/-- The outcome of a run. -/
structure RunReport where
  plan : Plan
  /-- The bytes moved by each worker, in plan order. -/
  moved : List Nat
  /-- The shared buffer of a reading run. -/
  buffer : Option ByteArray

/-- The bytes moved by all workers. -/
def RunReport.total (r : RunReport) : Nat := r.moved.foldr (· + ·) 0

/-- The bandwidth of the run as a whole, which is taken to have moved one byte in `divisor` of its
extent. -/
def RunReport.bandwidth (r : RunReport) (elapsed : Duration) : Binary64 :=
  Bandwidth.of r.plan.transferExtent elapsed

namespace Run

/-- The worker that a run starts for each span. -/
def worker (r : Run) : Worker := ⟨r.spec.strategy, r.spec.blockSize, r.spec.path⟩

/-- A result, with the loss of a worker as a failed transfer. -/
def joined {α : Type} (result : Except (TaskFailure TransferError) α) : Except TransferError α :=
  match result with
  | .ok a => .ok a
  | .error (.error e) => .error e
  | .error .lost => .error .lost

/-! ### Reading -/

/-- What one worker of a reading run does: fill the leading part of its region. -/
def readRegion (r : Run) (slot : Slot) (a : Assignment) (region : ByteArray) :
    Except TransferError (Nat × ByteArray) :=
  let lead := region.extract 0 a.target.length
  (r.worker.read slot a.target lead r.spec.pageSize).map fun (moved, lead) =>
    (moved, lead ++ region.extract a.target.length region.size)

/-- The completions of a reading run. -/
def readCompletions (r : Run) (slot : Slot) (order : List Nat) (regions : List ByteArray) :
    List (Completion TransferError (Nat × ByteArray)) :=
  let jobs := (r.plan.assignments r.spec.base).zip regions
  order.filterMap fun i =>
    jobs[i]?.map fun (a, region) => .returned a.index (r.readRegion slot a region)

/-- Reads the extent. -/
def read (r : Run) (slot : Slot) (order : List Nat) : Except TransferError RunReport :=
  match Buffer.split (Buffer.zeros r.plan.extent) r.plan with
  | none => .error .lost
  | some regions => do
    let results ← joined (Tasks.joinAll r.plan.workerCount (r.readCompletions slot order regions))
    return ⟨r.plan, results.map Prod.fst, some (Buffer.join (results.map Prod.snd))⟩

/-! ### Writing -/

/-- The first step of extending a file: open it, creating it if it is missing, and look at its
size. -/
def observeLength (r : Run) (slot : Slot) : Except TransferError (Nat × Slot) :=
  match slot.openCreate with
  | .error cause => .error (.io ⟨.openFile r.spec.path, cause⟩)
  | .ok content => .ok (content.size, .file content)

/-- The size that the file has to have before mappings are written. -/
def requiredLength (r : Run) : Nat := r.spec.base + r.plan.extent

/-- The second step: set the size to what is required, if the size seen was below it. -/
def settleLength (required observed : Nat) : Slot → Slot
  | .file content => .file (if observed < required then Content.resize content required else content)
  | slot => slot

/-- Extends the file so that every mapping lies within it. -/
def ensureLength (r : Run) (slot : Slot) : Except TransferError Unit × Slot :=
  match r.observeLength slot with
  | .error e => (.error e, slot)
  | .ok (observed, slot) =>
    if maxOffset < r.requiredLength then (.error (.io ⟨.extend r.spec.path, .badOffset⟩), slot)
    else (.ok (), settleLength r.requiredLength observed slot)

/-- Executes writing workers one after the other. -/
def writeJobs (r : Run) (slot : Slot) :
    List (Assignment × ByteArray) → List (Completion TransferError Nat) × Slot
  | [] => ([], slot)
  | (a, view) :: rest =>
    let (result, slot) := r.worker.write slot a.target (view.extract 0 a.target.length)
    let (completions, slot) := writeJobs r slot rest
    (.returned a.index result :: completions, slot)

/-- The data that a run writes. -/
def data (r : Run) : ByteArray := r.spec.source.getD (Pattern.window r.spec.base r.plan.extent)

/-- Writes the extent; gives the slot after, also if a worker failed. -/
def write (r : Run) (slot : Slot) (order : List Nat) : Except TransferError RunReport × Slot :=
  let (prepared, slot) := if r.spec.strategy.needsPages then r.ensureLength slot else (.ok (), slot)
  match prepared, Buffer.slices r.data r.plan with
  | .error e, _ => (.error e, slot)
  | .ok (), none => (.error .lost, slot)
  | .ok (), some views =>
    let jobs := (r.plan.assignments r.spec.base).zip views
    let (completions, slot) := r.writeJobs slot (order.filterMap fun i => jobs[i]?)
    ((joined (Tasks.joinAll r.plan.workerCount completions)).map fun moved =>
      ⟨r.plan, moved, none⟩, slot)

/-- Carries out a run with its workers in the given order. -/
def execute (r : Run) (slot : Slot) (order : List Nat) : Except TransferError RunReport × Slot :=
  match r.spec.mode with
  | .read => (r.read slot order, slot)
  | .write => r.write slot order

/-- The workers in plan order. -/
def planOrder (r : Run) : List Nat := List.range r.plan.workerCount

end Run

end StripeTransfer
