/-
StripeTransfer/Extent/Shard.lean

The part of a file that one process of a job works on.  A job launcher starts
several processes and tells each its rank and how many there are, through a pair
of variables; the first pair whose rank is set decides.  Without any, the
process is alone.

Every rank owns an equal share of the file, and the last one the remainder too.
-/
import StripeTransfer.Extent.Span
import StripeTransfer.Text.Blank
import StripeTransfer.Text.Numeral
import StripeTransfer.Text.Quoted

namespace StripeTransfer

open Text

/-! ### Shards -/

/-- Why a process does not know its place in the job. -/
inductive ShardError where
  | emptyWorld
  | rankOutOfRange (rank world : Nat)
  /-- The variable of the rank is set and that of the world size is not. -/
  | sizeMissing (rankName sizeName : String)
  | badVariable (name value : String)
  deriving Repr, DecidableEq

/-- The message of an unknown place. -/
def ShardError.message : ShardError → String
  | .emptyWorld => "world size must be at least 1"
  | .rankOutOfRange rank world => s!"rank {rank} is out of range for a world of size {world}"
  | .sizeMissing rankName sizeName => s!"{rankName} is set but {sizeName} is not"
  | .badVariable name value => s!"invalid value for {name}: {quoted value}"

/-- The place of a process among all processes of a job. -/
structure Shard where
  rank : Nat
  world : Nat
  rank_lt : rank < world
  deriving Repr, DecidableEq

namespace Shard

/-- The only process of a job. -/
def single : Shard := ⟨0, 1, by decide⟩

instance : Inhabited Shard := ⟨single⟩

/-- The shard of a rank, if the rank lies within the world. -/
def of (rank world : Nat) : Except ShardError Shard :=
  if world = 0 then .error .emptyWorld
  else if h : rank < world then .ok ⟨rank, world, h⟩
  else .error (.rankOutOfRange rank world)

/-- Whether several processes share the file. -/
def isDistributed (s : Shard) : Bool := 1 < s.world

/-- The part of a file of `total` bytes that the process owns. -/
def span (s : Shard) (total : Nat) : Span :=
  let share := total / s.world
  let offset := s.rank * share
  if s.rank + 1 = s.world then ⟨offset, total - offset⟩ else ⟨offset, share⟩

/-! ### Job launchers -/

/-- The variables of rank and world size, in order of preference. -/
def launcherVariables : List (String × String) :=
  [("SLURM_PROCID", "SLURM_NTASKS"),
   ("OMPI_COMM_WORLD_RANK", "OMPI_COMM_WORLD_SIZE"),
   ("PMI_RANK", "PMI_SIZE")]

/-- The number in a launcher's variable, blanks around it ignored. -/
def readVariable (name value : String) : Except ShardError Nat :=
  match count? max32 (trim value.toList) with
  | some n => .ok n
  | none => .error (.badVariable name value)

/-- Finds the shard in the first pair of `pairs` whose rank is set. -/
def ofPairs (lookup : String → Option String) : List (String × String) → Except ShardError Shard
  | [] => .ok single
  | (rankName, sizeName) :: rest =>
    match lookup rankName with
    | none => ofPairs lookup rest
    | some rankText =>
      match lookup sizeName with
      | none => .error (.sizeMissing rankName sizeName)
      | some sizeText => do
        let rank ← readVariable rankName rankText
        let world ← readVariable sizeName sizeText
        of rank world

/-- Finds the shard in the variables of the known job launchers. -/
def ofLookup (lookup : String → Option String) : Except ShardError Shard :=
  ofPairs lookup launcherVariables

end Shard

end StripeTransfer
