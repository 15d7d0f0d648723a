/-
StripeTransfer/Proofs/Tasks.lean

Joining a group of tasks.  While completions come in, the slots show the values
of those tasks that have reported (`Tasks.reported`); each completion fills the
slot of its task and leaves the others.  So if every task returns its value, the
values are joined in the order in which the tasks were started, whatever the
order of completion (`Tasks.joinAll_of_complete`).  The group fails just if some
task does, and with the failure that came first (`Tasks.joinAll_eq_error_iff`).

A run of a group is given by how each of its tasks ends (`TaskEnd`) and in which
order they do.  Joining depends on the order only in which failure is reported, if
there are several (`Tasks.joinAll_completions`).  Settling does not depend on it at
all (`Tasks.joinSettled_completions`): the slots that stay empty are as many as the
losses that are counted (`Tasks.settle_completions`), so every one of them gets its
loss and no other result moves.
-/
import StripeTransfer.Tasks
import Mathlib

namespace StripeTransfer

variable {ε α : Type}

namespace Tasks

/-! ### Slots -/

/-- The slots of a group after the tasks in `done` have returned their values. -/
def reported (values : List α) (done : List Nat) : List (Option α) :=
  values.mapIdx fun i value => if i ∈ done then some value else none

theorem reported_nil (values : List α) :
    reported values [] = List.replicate values.length none := by
  refine List.ext_getElem? fun i => ?_
  by_cases hi : i < values.length <;> simp [reported, hi]

theorem set_reported {values : List α} {i : Nat} {value : α} (h : values[i]? = some value)
    (done : List Nat) :
    (reported values done).set i (some value) = reported values (i :: done) := by
  refine List.ext_getElem? fun j => ?_
  by_cases hj : i = j
  · subst hj
    obtain ⟨hi, rfl⟩ := List.getElem?_eq_some_iff.mp h
    simp [reported, hi]
  · have hj' : j ≠ i := fun heq => hj heq.symm
    simp [reported, List.getElem?_set_ne hj, hj']

/-- Once all tasks have reported, the slots hold all values. -/
theorem filterMap_reported {values : List α} {done : List Nat}
    (h : ∀ i < values.length, i ∈ done) : (reported values done).filterMap id = values := by
  have hall : reported values done = values.map some := by
    refine List.ext_getElem? fun i => ?_
    by_cases hi : i < values.length <;> simp [reported, hi, h i]
  rw [hall, List.filterMap_map]
  exact List.filterMap_some

/-! ### Values -/

/-- A completion that gives the value of its task. -/
def Gives (values : List α) (c : Completion ε α) : Prop :=
  ∃ i value, c = .returned i (.ok value) ∧ values[i]? = some value

theorem collect_reported {values : List α} {completions : List (Completion ε α)}
    (h : ∀ c ∈ completions, Gives values c) (done : List Nat) :
    ∃ done', collect (reported values done) completions = .ok (reported values done') ∧
      ∀ i, (i ∈ done ∨ ∃ result, .returned i result ∈ completions) → i ∈ done' := by
  -- between any two completions the slots are those of the tasks that have reported so far
  induction completions generalizing done with
  | nil => exact ⟨done, rfl, by simp⟩
  | cons c rest ih =>
    obtain ⟨i, value, rfl, hvalue⟩ := h c List.mem_cons_self
    obtain ⟨done', hcollect, hdone⟩ := ih (fun c hc => h c (List.mem_cons_of_mem _ hc)) (i :: done)
    refine ⟨done', ?_, ?_⟩
    · rw [collect, set_reported hvalue, hcollect]
    · rintro j (hj | ⟨result, hj⟩)
      · exact hdone j (Or.inl (List.mem_cons_of_mem i hj))
      · rcases List.mem_cons.mp hj with heq | hj
        · obtain ⟨rfl, -⟩ := Completion.returned.inj heq
          exact hdone j (Or.inl List.mem_cons_self)
        · exact hdone j (Or.inr ⟨result, hj⟩)

/-- **If every task returns its value, all values are joined in the order of the tasks**, whatever
the order in which the tasks complete. -/
theorem joinAll_of_complete {values : List α} {completions : List (Completion ε α)}
    (h : ∀ c ∈ completions, Gives values c)
    (hall : ∀ i < values.length, ∃ result, .returned i result ∈ completions) :
    joinAll values.length completions = .ok values := by
  obtain ⟨done, hcollect, hdone⟩ := collect_reported h []
  rw [joinAll, ← reported_nil, hcollect, Except.map]
  exact congrArg _ (filterMap_reported fun i hi => hdone i (Or.inr (hall i hi)))

/-! ### Failures -/

theorem collect_eq_error_iff (slots : List (Option α)) {completions : List (Completion ε α)}
    {failure : TaskFailure ε} : collect slots completions = .error failure ↔
      completions.findSome? Completion.failure? = some failure := by
  induction completions generalizing slots with
  | nil => simp [collect]
  | cons c rest ih =>
    rcases c with ⟨j, e | value⟩ | -
    · simp [collect, List.findSome?_cons, Completion.failure?]
    · simpa [collect, List.findSome?_cons, Completion.failure?] using ih _
    · simp [collect, List.findSome?_cons, Completion.failure?]

/-- **A group fails just with the first failure in order of completion.** -/
theorem joinAll_eq_error_iff {count : Nat} {completions : List (Completion ε α)}
    {failure : TaskFailure ε} : joinAll count completions = .error failure ↔
      completions.findSome? Completion.failure? = some failure := by
  rw [← collect_eq_error_iff (List.replicate count none), joinAll]
  cases collect (List.replicate count none) completions <;> simp [Except.map]

/-- A group whose values are joined has no failure in it. -/
theorem failure?_eq_none {count : Nat} {completions : List (Completion ε α)} {values : List α}
    (h : joinAll count completions = .ok values) {c : Completion ε α} (hc : c ∈ completions) :
    c.failure? = none := by
  cases hfailure : completions.findSome? Completion.failure? with
  | none => exact List.findSome?_eq_none_iff.mp hfailure c hc
  | some failure =>
    rw [joinAll_eq_error_iff.mpr hfailure] at h
    cases h

/-- **If no task is lost and one returns an error, the group fails** with an error that some task
returned. -/
theorem joinAll_of_error {completions : List (Completion ε α)} (hlost : .lost ∉ completions)
    {i : Nat} {e : ε} (h : .returned i (.error e) ∈ completions) (count : Nat) :
    ∃ j e', .returned j (.error e') ∈ completions ∧
      joinAll count completions = .error (.error e') := by
  obtain ⟨failure, hfailure⟩ : ∃ failure, completions.findSome? Completion.failure? = some failure := by
    rw [← Option.isSome_iff_exists, List.findSome?_isSome_iff]
    exact ⟨_, h, rfl⟩
  obtain ⟨c, hc, hcause⟩ := List.exists_of_findSome?_eq_some hfailure
  rcases c with ⟨j, e' | value⟩ | -
  · obtain rfl := Option.some.inj hcause
    exact ⟨j, e', hc, joinAll_eq_error_iff.mpr hfailure⟩
  · cases hcause
  · exact absurd hc hlost

end Tasks

/-! ### Ends of tasks -/

/-- How a task ends. -/
inductive TaskEnd (ε α : Type) where
  | returned (result : Except ε α)
  | panicked
  | cancelled

namespace TaskEnd

/-- The completion of the task of a number, as the group sees it. -/
def completion (index : Nat) : TaskEnd ε α → Completion ε α
  | .returned result => .returned index result
  | .panicked => .lost
  | .cancelled => .lost

/-- What a group has to report for a task. -/
def outcome : TaskEnd ε α → Except (TaskFailure ε) α
  | .returned (.ok value) => .ok value
  | .returned (.error e) => .error (.error e)
  | .panicked => .error .lost
  | .cancelled => .error .lost

/-- The result that a task returns. -/
def result? : TaskEnd ε α → Option (Except ε α)
  | .returned result => some result
  | .panicked => none
  | .cancelled => none

theorem completion_of_result? {e : TaskEnd ε α} {result : Except ε α} (h : e.result? = some result)
    (index : Nat) : e.completion index = .returned index result := by
  cases e with
  | returned result' =>
    obtain rfl := Option.some.inj h
    rfl
  | panicked => cases h
  | cancelled => cases h

theorem completion_of_lost {e : TaskEnd ε α} (h : e.result? = none) (index : Nat) :
    e.completion index = .lost := by
  cases e with
  | returned => cases h
  | panicked => rfl
  | cancelled => rfl

theorem failure?_completion_eq_some_iff {index : Nat} {e : TaskEnd ε α} {failure : TaskFailure ε} :
    (e.completion index).failure? = some failure ↔ e.outcome = .error failure := by
  rcases e with (e | value) | - | - <;> simp [completion, outcome, Completion.failure?]

theorem failure?_completion_eq_none_iff {index : Nat} {e : TaskEnd ε α} :
    (e.completion index).failure? = none ↔ ∃ value, e = .returned (.ok value) := by
  rcases e with (e | value) | - | - <;> simp [completion, Completion.failure?]

theorem outcome_eq_lost_iff {e : TaskEnd ε α} :
    e.outcome = .error .lost ↔ e = .panicked ∨ e = .cancelled := by
  rcases e with (e | value) | - | - <;> simp [outcome]

end TaskEnd

namespace Tasks

variable {n : Nat} {ends : Fin n → TaskEnd ε α} {order : Equiv.Perm (Fin n)}

/-- The completions of a group, one after the other: the task that ends as the `k`-th is the one of
the number `order k`. -/
def completions (ends : Fin n → TaskEnd ε α) (order : Equiv.Perm (Fin n)) :
    List (Completion ε α) :=
  (List.ofFn order).map fun i => (ends i).completion i

/-- Every task comes to its end. -/
theorem mem_ofFn_order (order : Equiv.Perm (Fin n)) (i : Fin n) : i ∈ List.ofFn order :=
  List.mem_ofFn.mpr (order.surjective i)

theorem mem_completions {c : Completion ε α} :
    c ∈ completions ends order ↔ ∃ i, (ends i).completion i = c := by
  simp only [completions, List.mem_map, mem_ofFn_order, true_and]

/-! ### Joining in any order -/

/-- What is found first is what the first place has where anything is found. -/
theorem findSome?_ofFn_eq_some_iff {β γ : Type} {f : Fin n → β} {g : β → Option γ} {b : γ} :
    (List.ofFn f).findSome? g = some b ↔ ∃ k, g (f k) = some b ∧ ∀ j < k, g (f j) = none := by
  induction n with
  | zero => simp
  | succ n ih =>
    rw [List.ofFn_succ]
    cases hfirst : g (f 0) with
    | none =>
      rw [List.findSome?_cons_of_isNone (Option.isNone_iff_eq_none.mpr hfirst)]
      simp [ih, Fin.exists_fin_succ, Fin.forall_fin_succ, hfirst]
    | some b' =>
      rw [List.findSome?_cons_of_isSome (Option.isSome_of_eq_some hfirst), hfirst]
      constructor
      · rintro ⟨⟩
        exact ⟨0, hfirst, fun j hj => absurd hj (Fin.not_lt_zero j)⟩
      · rintro ⟨k, hk, hbefore⟩
        have hzero : k = 0 := by
          by_contra hne
          have hnone := hbefore 0 (Fin.pos_of_ne_zero hne)
          rw [hfirst] at hnone
          cases hnone
        rw [← hfirst, ← hk, hzero]

/-- If all tasks return values, these are joined in the order of the tasks. -/
theorem joinAll_of_values {value : Fin n → α} (h : ∀ i, ends i = .returned (.ok (value i)))
    (order : Equiv.Perm (Fin n)) : joinAll n (completions ends order) = .ok (List.ofFn value) := by
  have hcompletion (i : Fin n) : (ends i).completion i = .returned i (.ok (value i)) := by
    rw [h, TaskEnd.completion]
  have hgives : ∀ c ∈ completions ends order, Gives (List.ofFn value) c := by
    intro c hc
    obtain ⟨i, rfl⟩ := mem_completions.mp hc
    exact ⟨i, value i, hcompletion i, by simp⟩
  have hall : ∀ i < (List.ofFn value).length, ∃ result, .returned i result ∈
      completions ends order := by
    intro i hi
    rw [List.length_ofFn] at hi
    exact ⟨_, mem_completions.mpr ⟨⟨i, hi⟩, hcompletion _⟩⟩
  have hjoin := joinAll_of_complete hgives hall
  rwa [List.length_ofFn] at hjoin

/-- **Joining in any order of completion.**  The group has a list of values just if every task returns
a value, and then it has the value of each task at the place of the task.  It has a failure just if
some task does not return a value, and then it is that of the first task that fails; all that
ended before it had returned values. -/
theorem joinAll_completions (ends : Fin n → TaskEnd ε α) (order : Equiv.Perm (Fin n)) :
    (∀ values, joinAll n (completions ends order) = .ok values ↔
      ∃ value : Fin n → α, (∀ i, ends i = .returned (.ok (value i))) ∧ values = List.ofFn value) ∧
    ∀ failure, joinAll n (completions ends order) = .error failure ↔
      ∃ k, (ends (order k)).outcome = .error failure ∧
        ∀ j < k, ∃ value, ends (order j) = .returned (.ok value) := by
  constructor
  · intro values
    constructor
    · intro hjoin
      have hvalue (i : Fin n) : ∃ value, ends i = .returned (.ok value) :=
        TaskEnd.failure?_completion_eq_none_iff.mp
          (failure?_eq_none hjoin (mem_completions.mpr ⟨i, rfl⟩))
      choose value hvalue using hvalue
      rw [joinAll_of_values hvalue] at hjoin
      exact ⟨value, hvalue, (Except.ok.inj hjoin).symm⟩
    · rintro ⟨value, hvalue, rfl⟩
      exact joinAll_of_values hvalue order
  · intro failure
    rw [joinAll_eq_error_iff, completions, List.findSome?_map, findSome?_ofFn_eq_some_iff]
    simp only [Function.comp_apply, TaskEnd.failure?_completion_eq_some_iff,
      TaskEnd.failure?_completion_eq_none_iff]

/-! ### Settling in any order -/

/-- The slots of a group after the tasks in `done` have ended. -/
def shown (ends : Fin n → TaskEnd ε α) (done : List (Fin n)) : List (Option (Except ε α)) :=
  List.ofFn fun i => if i ∈ done then (ends i).result? else none

theorem shown_nil (ends : Fin n → TaskEnd ε α) : shown ends [] = List.replicate n none := by
  simp [shown]

/-- Once all tasks have ended, the slots hold all results. -/
theorem shown_of_forall_mem {done : List (Fin n)} (h : ∀ i, i ∈ done) :
    shown ends done = List.ofFn fun i => (ends i).result? :=
  congrArg List.ofFn (funext fun i => if_pos (h i))

/-- A task that returns fills its slot. -/
theorem shown_of_result? {i : Fin n} {result : Except ε α} (h : (ends i).result? = some result)
    (done : List (Fin n)) : shown ends (i :: done) = (shown ends done).set i (some result) := by
  refine List.ext_getElem (by simp [shown]) fun j hj hj' => ?_
  by_cases hij : j = i
  · subst hij
    simp [shown, h]
  · have hne : (⟨j, by simpa [shown] using hj⟩ : Fin n) ≠ i := fun heq => hij (congrArg Fin.val heq)
    simp [shown, List.getElem_set_ne (Ne.symm hij), hne]

/-- A task that is lost leaves all slots as they are. -/
theorem shown_of_lost {i : Fin n} (h : (ends i).result? = none) (done : List (Fin n)) :
    shown ends (i :: done) = shown ends done := by
  refine congrArg List.ofFn (funext fun j => ?_)
  by_cases hij : j = i
  · subst hij
    simp [h]
  · simp [hij]

theorem settle_shown (ends : Fin n → TaskEnd ε α) (rest done : List (Fin n)) (losses : Nat) :
    settle (shown ends done) losses (rest.map fun i => (ends i).completion i) =
      (shown ends (rest.reverse ++ done),
        losses + rest.countP fun i => (ends i).result?.isNone) := by
  -- the slots show the tasks that have returned so far; the others are only counted
  induction rest generalizing done losses with
  | nil => rfl
  | cons i rest ih =>
    rw [List.map_cons, List.countP_cons, List.reverse_cons, List.append_assoc, List.singleton_append]
    cases hresult : (ends i).result? with
    | some result =>
      rw [TaskEnd.completion_of_result? hresult, settle, ← shown_of_result? hresult, ih]
      rfl
    | none =>
      rw [TaskEnd.completion_of_lost hresult, settle, ← shown_of_lost hresult, ih,
        Option.isNone_none, if_pos rfl, Nat.add_right_comm, Nat.add_assoc]

/-- **Once all tasks have ended, there are as many losses as empty slots.** -/
theorem settle_completions (ends : Fin n → TaskEnd ε α) (order : Equiv.Perm (Fin n)) :
    let results := List.ofFn fun i => (ends i).result?
    settle (List.replicate n none) 0 (completions ends order) =
      (results, results.countP Option.isNone) := by
  intro results
  have hmem (i : Fin n) : i ∈ (List.ofFn order).reverse ++ [] := by
    rw [List.append_nil, List.mem_reverse]
    exact mem_ofFn_order order i
  have hcount : ((List.ofFn order).countP fun i => (ends i).result?.isNone) =
      results.countP Option.isNone := by
    have hperm := Equiv.Perm.ofFn_comp_perm order fun i => (ends i).result?
    rw [← hperm.countP_eq, ← List.map_ofFn, List.countP_map]
    rfl
  rw [← shown_nil ends, completions, settle_shown, shown_of_forall_mem hmem, Nat.zero_add, hcount]

/-- If there are enough losses, every empty slot gets one. -/
theorem fillGaps_eq_map {slots : List (Option (Except ε α))} {losses : Nat}
    (h : slots.countP Option.isNone ≤ losses) : fillGaps slots losses =
      slots.map fun slot => slot.elim (.error .lost) fun result => result.mapError .error := by
  fun_induction fillGaps slots losses with
  | case1 => rfl
  | case2 losses value rest ih => simpa [Except.mapError] using ih (by simpa using h)
  | case3 losses e rest ih => simpa [Except.mapError] using ih (by simpa using h)
  | case4 losses rest ih => simpa using ih (by simpa using h)
  | case5 rest ih => simp at h

/-- **Settling in any order of completion.**  There is one entry for each task, at the place of the
task: the result that it returned, or a loss just if it panicked or was cancelled. -/
theorem joinSettled_completions (ends : Fin n → TaskEnd ε α) (order : Equiv.Perm (Fin n)) :
    (joinSettled n (completions ends order) = List.ofFn fun i => (ends i).outcome) ∧
    ∀ i : Fin n, (joinSettled n (completions ends order))[i.val]? = some (.error .lost) ↔
      ends i = .panicked ∨ ends i = .cancelled := by
  have hsettled : joinSettled n (completions ends order) = List.ofFn fun i => (ends i).outcome := by
    simp only [joinSettled, settle_completions]
    rw [fillGaps_eq_map le_rfl, List.map_ofFn]
    refine congrArg List.ofFn (funext fun i => ?_)
    rw [Function.comp_apply]
    rcases ends i with (e | value) | - | - <;> rfl
  refine ⟨hsettled, fun i => ?_⟩
  rw [hsettled, List.getElem?_ofFn, dif_pos i.isLt, Option.some.injEq]
  exact TaskEnd.outcome_eq_lost_iff

end Tasks

end StripeTransfer
