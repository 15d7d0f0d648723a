/-
StripeTransfer/Tasks.lean

Collecting the results of a group of tasks.  Tasks are numbered in the order in
which they were started and complete in any order; a task that panics or is
cancelled is lost, and does not say which one it was.

`joinAll` wants every value: it stops at the first failure in order of
completion.  `joinSettled` wants every result, and puts one loss into each place
that no task reported to.
-/

namespace StripeTransfer

variable {ε α : Type}

/-- The end of a task. -/
inductive Completion (ε α : Type) where
  /-- The task of this number returned. -/
  | returned (index : Nat) (result : Except ε α)
  /-- Some task panicked or was cancelled. -/
  | lost

/-- Why a group has no complete list of values. -/
inductive TaskFailure (ε : Type) where
  | error (e : ε)
  | lost
  deriving Repr, DecidableEq

/-- The failure that a completion reports. -/
def Completion.failure? : Completion ε α → Option (TaskFailure ε)
  | .returned _ (.ok _) => none
  | .returned _ (.error e) => some (.error e)
  | .lost => some .lost

namespace Tasks

/-- The values by task number after some completions, or the first failure among them. -/
def collect (slots : List (Option α)) : List (Completion ε α) → Except (TaskFailure ε) (List (Option α))
  | [] => .ok slots
  | .returned index (.ok value) :: rest => collect (slots.set index (some value)) rest
  | .returned _ (.error e) :: _ => .error (.error e)
  | .lost :: _ => .error .lost

/-- The values of `count` tasks in the order they were started, or the first failure in order of
completion. -/
def joinAll (count : Nat) (completions : List (Completion ε α)) :
    Except (TaskFailure ε) (List α) :=
  (collect (List.replicate count none) completions).map fun slots => slots.filterMap id

/-- The results by task number after some completions, and how many tasks were lost. -/
def settle (slots : List (Option (Except ε α))) (losses : Nat) :
    List (Completion ε α) → List (Option (Except ε α)) × Nat
  | [] => (slots, losses)
  | .returned index result :: rest => settle (slots.set index (some result)) losses rest
  | .lost :: rest => settle slots (losses + 1) rest

/-- Puts a loss into each empty place, as long as there are any. -/
def fillGaps : List (Option (Except ε α)) → (losses : Nat) → List (Except (TaskFailure ε) α)
  | [], _ => []
  | some (.ok value) :: rest, losses => .ok value :: fillGaps rest losses
  | some (.error e) :: rest, losses => .error (.error e) :: fillGaps rest losses
  | none :: rest, losses + 1 => .error .lost :: fillGaps rest losses
  | none :: rest, 0 => fillGaps rest 0

/-- The results of `count` tasks in the order they were started, losses included. -/
def joinSettled (count : Nat) (completions : List (Completion ε α)) :
    List (Except (TaskFailure ε) α) :=
  let (slots, losses) := settle (List.replicate count none) 0 completions
  fillGaps slots losses

/-- The description of a group that has not been joined. -/
def text (started running : Nat) : String :=
  s!"TaskGroup \x7b spawned: {started}, running: {running} \x7d"

end Tasks

end StripeTransfer
