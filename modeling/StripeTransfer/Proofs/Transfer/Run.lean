/-
StripeTransfer/Proofs/Transfer/Run.lean

What a run that can be started is like: its plan belongs to its extent and its
divisor, whichever strategy made it, and its data are as long as the extent.  Over
an extent that calls can address, the words of the machine hold all numbers of the
plan (`RunSpec.fitsWords_of_reach`), so the plan is complete (`Run.Ready`).  Then no
slice that a worker takes, of the data, of the shared buffer or of its own region,
is cut short (`Run.Ready.inBounds`).

An order of execution is a permutation of the workers; whatever the workers are
paired with, each pair is executed in every order.  If all of them succeed, the
run has their values in the order of the plan (`Run.joined_of_returned`).
-/
import StripeTransfer.Proofs.Extent.Pages
import StripeTransfer.Proofs.Pattern
import StripeTransfer.Proofs.Tasks
import StripeTransfer.Proofs.Transfer.Worker
import StripeTransfer.Transfer.Run
import Mathlib

namespace StripeTransfer

/-! ### Runs that can be started -/

namespace RunSpec

variable {s : RunSpec} {r : Run}

theorem build_eq_ok (h : s.build = .ok r) :
    s.blockSize ≠ some 0 ∧ (s.source.map ByteArray.size).getD s.extent = s.extent ∧
      ∃ plan, s.planOf = .ok plan ∧ r = ⟨s, plan⟩ := by
  unfold build at h
  rcases hplan : s.planOf with e | plan
  · simp only [hplan] at h
    split_ifs at h
  · simp only [hplan] at h
    split_ifs at h with hblock hsource
    exact ⟨hblock, not_not.mp hsource, plan, rfl, (Except.ok.inj h).symm⟩

theorem spec_of_build (h : s.build = .ok r) : r.spec = s := by
  obtain ⟨-, -, _, -, rfl⟩ := build_eq_ok h
  rfl

/-- The plan of a run belongs to its extent and its divisor. -/
theorem parameters_of_build (h : s.build = .ok r) :
    r.plan.extent = s.extent ∧ r.plan.divisor = s.divisor := by
  obtain ⟨-, -, p, hplan, rfl⟩ := build_eq_ok h
  unfold planOf at hplan
  split_ifs at hplan
  · exact Plan.parameters_of_aligned hplan
  · obtain ⟨hextent, hdivisor, -⟩ := Plan.complete_of_even hplan
    exact ⟨hextent, hdivisor⟩

/-- The words hold all numbers of the plan of a run. -/
def FitsWords (s : RunSpec) : Prop :=
  s.strategy.needsPages → Plan.FitsWords s.extent (min s.workers Text.max32) s.pageSize.bytes

/-- **No number of a plan leaves the words of the machine**: over any extent that calls can address,
not even the rounded shares of all workers together do. -/
theorem fitsWords_of_reach (hextent : s.extent ≤ maxOffset) : s.FitsWords := by
  intro _
  have hpages : min s.workers Text.max32 * s.pageSize.bytes ≤ Text.max32 * 2 ^ 31 :=
    Nat.mul_le_mul (Nat.min_le_right _ _) s.pageSize.le
  have hroom : maxOffset + Text.max32 * 2 ^ 31 < 2 ^ 64 := by decide
  exact Plan.fitsWords_of_sum ((Nat.add_le_add hextent hpages).trans_lt hroom)

/-- Even shares need no more words than the extent. -/
theorem fitsWords_of_even (h : s.strategy.needsPages = false) : s.FitsWords := by
  intro hpages
  rw [h] at hpages
  cases hpages

/-- The plan of every strategy is complete, if the words hold its numbers. -/
theorem complete_of_build (h : s.build = .ok r) (hfits : s.FitsWords) : r.plan.Complete := by
  obtain ⟨-, -, p, hplan, rfl⟩ := build_eq_ok h
  unfold planOf at hplan
  split_ifs at hplan with hpages
  · exact (Plan.complete_of_aligned (hfits hpages) hplan).2.2
  · exact (Plan.complete_of_even hplan).2.2

theorem data_of_build (h : s.build = .ok r) :
    r.data = s.source.getD (Pattern.window s.base s.extent) := by
  rw [Run.data, spec_of_build h, (parameters_of_build h).1]

/-- The data of a run are as long as its extent. -/
theorem size_data (h : s.build = .ok r) : r.data.size = s.extent := by
  obtain ⟨-, hsource, -⟩ := build_eq_ok h
  rw [data_of_build h]
  rcases hs : s.source with - | source
  · exact Pattern.size_window s.base s.extent
  · simpa [hs] using hsource

/-- Without sampling, every run with workers and without empty blocks can be started. -/
theorem build_ok_of_pos (hblock : s.blockSize ≠ some 0) (hsource : s.source = none)
    (hworkers : 0 < s.workers) (hdivisor : s.divisor = 1) : ∃ r, s.build = .ok r := by
  have hplan : ∃ p, s.planOf = .ok p := by
    unfold planOf
    rw [hdivisor]
    split_ifs
    · exact Plan.aligned_ok_of_pos s.extent (lt_min hworkers (by decide)) s.pageSize.pos
    · exact Plan.even_ok_of_pos s.extent hworkers
  obtain ⟨p, hp⟩ := hplan
  exact ⟨⟨s, p⟩, by simp [build, hblock, hsource, hp]⟩

end RunSpec

namespace Run

/-- A run that can be started, over an extent that every call can address. -/
structure Ready (r : Run) : Prop where
  complete : r.plan.Complete
  size_data : r.data.size = r.plan.extent
  reach : r.requiredLength ≤ maxOffset

end Run

theorem RunSpec.ready_of_build {s : RunSpec} {r : Run} (h : s.build = .ok r)
    (hreach : s.base + s.extent ≤ maxOffset) : r.Ready := by
  have hextent := (parameters_of_build h).1
  have hfits : s.FitsWords := fitsWords_of_reach ((Nat.le_add_left _ _).trans hreach)
  refine ⟨complete_of_build h hfits, ?_, ?_⟩
  · rw [size_data h, hextent]
  · rw [Run.requiredLength, spec_of_build h, hextent]
    exact hreach

namespace Run

variable {r : Run} {order : List Nat}

/-! ### Slices -/

/-- No worker takes a slice that leaves what it is taken from: its region lies in the extent, its
target fills a leading part of its region, and each of its calls stays within the target. -/
structure InBounds (r : Run) : Prop where
  region : ∀ a ∈ r.plan.assignments r.spec.base, a.region.stop ≤ r.plan.extent
  target : ∀ a ∈ r.plan.assignments r.spec.base, a.target.length ≤ a.region.length
  call : ∀ a ∈ r.plan.assignments r.spec.base, ∀ ceiling,
    ∀ b ∈ blocks a.target.length (callSize r.spec.blockSize ceiling a.target.length),
      b.stop ≤ a.target.length

theorem Ready.inBounds (h : r.Ready) : r.InBounds where
  region _ ha := (h.complete.target_le ha).2.1
  target _ ha := (h.complete.target_le ha).1
  call _ _ _ _ hb := ((blocks_contiguous _ (callSize_pos _ _ _)).bounds hb).2

/-- No target reaches beyond the place of the extent in the file. -/
theorem Ready.target_stop_le (h : r.Ready) {a : Assignment}
    (ha : a ∈ r.plan.assignments r.spec.base) : a.target.stop ≤ r.requiredLength := by
  obtain ⟨hle, hstop, hoffset⟩ := h.complete.target_le ha
  simp only [Span.stop, requiredLength] at hstop ⊢
  omega

/-! ### Orders of execution -/

theorem mem_order (h : order.Perm r.planOrder) {i : Nat} :
    i ∈ order ↔ i < r.plan.spans.length := by
  rw [h.mem_iff, planOrder, List.mem_range, Plan.workerCount]

/-- What is executed: every worker with what it gets, and nothing else. -/
theorem mem_jobs {β : Type} (h : order.Perm r.planOrder) {base : Nat} {f : Span → β}
    {j : Assignment × β} :
    (j ∈ order.filterMap fun i => ((r.plan.assignments base).zip (r.plan.spans.map f))[i]?) ↔
      ∃ i s, r.plan.spans[i]? = some s ∧ j = (r.plan.assigned base i s, f s) := by
  simp only [List.mem_filterMap, Plan.getElem?_zip_assignments, Option.map_eq_some_iff]
  constructor
  · rintro ⟨i, -, s, hs, rfl⟩
    exact ⟨i, s, hs, rfl⟩
  · rintro ⟨i, s, hs, rfl⟩
    exact ⟨i, (mem_order h).mpr (List.getElem?_eq_some_iff.mp hs).1, s, hs, rfl⟩

theorem joined_eq_ok {α : Type} {result : Except (TaskFailure TransferError) α} {value : α}
    (h : joined result = .ok value) : result = .ok value := by
  rcases result with (e | -) | value'
  · cases h
  · cases h
  · exact congrArg Except.ok (Except.ok.inj h)

/-- **If every worker returns a value, the run has all values in plan order**, whatever the order in
which the workers complete. -/
theorem joined_of_returned {α : Type} {value : Assignment → α}
    {completions : List (Completion TransferError α)}
    (h : ∀ c, c ∈ completions ↔ ∃ i s, r.plan.spans[i]? = some s ∧
      c = .returned i (.ok (value (r.plan.assigned r.spec.base i s)))) :
    joined (Tasks.joinAll r.plan.workerCount completions) =
      .ok ((r.plan.assignments r.spec.base).map value) := by
  have hcount : ((r.plan.assignments r.spec.base).map value).length = r.plan.workerCount := by
    rw [List.length_map, Plan.length_assignments]
  have hgives : ∀ c ∈ completions,
      Tasks.Gives ((r.plan.assignments r.spec.base).map value) c := by
    intro c hc
    obtain ⟨i, s, hs, rfl⟩ := (h c).mp hc
    refine ⟨i, _, rfl, ?_⟩
    rw [List.getElem?_map, Plan.getElem?_assignments, hs]
    rfl
  have hall : ∀ i < ((r.plan.assignments r.spec.base).map value).length,
      ∃ result, .returned i result ∈ completions := by
    intro i hi
    rw [hcount, Plan.workerCount] at hi
    exact ⟨_, (h _).mpr ⟨i, _, List.getElem?_eq_getElem hi, rfl⟩⟩
  rw [← hcount, Tasks.joinAll_of_complete hgives hall]
  rfl

end Run

end StripeTransfer
