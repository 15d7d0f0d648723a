/-
StripeTransfer/Proofs/Transfer/Aggregate.lean

The bandwidth of a run as a whole.  A worker that samples moves the whole part of
a quotient, one for each span, whereas the run is taken to have moved the whole
part of one quotient, that of its extent.  The two differ by the remainders of
the spans, counted in divisors (`Span.sum_length_div`).  Every remainder is
smaller than the divisor, so the remainders of all spans together make up fewer
divisors than there are spans.

The run is thus never credited with less than it moved, and with fewer bytes more
than it has workers (`Plan.transferExtent_near`).  For this its spans have to cover
the extent, which they do in words that hold the numbers of the plan; in others the
workers may be told to move more than there is (`Plan.transferExtent_beyond`).
-/
import StripeTransfer.Proofs.Extent.Pages
import StripeTransfer.Transfer.Run
import Mathlib

namespace StripeTransfer

/-! ### One quotient and many -/

/-- The lengths of adjacent spans add up to the distance between their ends. -/
theorem Contiguous.sum_length {start stop : Nat} {spans : List Span}
    (h : Contiguous start spans stop) : start + (spans.map Span.length).sum = stop := by
  induction h with
  | nil start => rfl
  | @cons s rest stop _ ih => rw [List.map_cons, List.sum_cons, ← ih, Span.stop, Nat.add_assoc]

namespace Span

variable {divisor : Nat}

/-- What the quotient of the whole has above those of the spans comes from their remainders. -/
theorem sum_length_div (spans : List Span) (hd : 0 < divisor) :
    (spans.map Span.length).sum / divisor =
      (spans.map fun s => (s.sample divisor).length).sum +
        (spans.map fun s => s.length % divisor).sum / divisor := by
  have hsplit : (spans.map Span.length).sum =
      divisor * (spans.map fun s => (s.sample divisor).length).sum +
        (spans.map fun s => s.length % divisor).sum := by
    rw [← List.sum_map_mul_left, ← List.sum_map_add]
    apply congrArg List.sum
    apply List.map_congr_left
    intro s _
    exact (Nat.div_add_mod s.length divisor).symm
  rw [hsplit, Nat.mul_add_div hd]

/-- The remainders of some spans make up fewer divisors than there are spans. -/
theorem sum_length_mod_div_lt {spans : List Span} (hspans : spans ≠ []) (hd : 0 < divisor) :
    (spans.map fun s => s.length % divisor).sum / divisor < spans.length := by
  have hcount : 0 < spans.length := List.length_pos_iff.mpr hspans
  have hle : ∀ remainder ∈ spans.map fun s => s.length % divisor, remainder ≤ divisor - 1 := by
    intro remainder hmem
    obtain ⟨s, -, rfl⟩ := List.mem_map.mp hmem
    exact Nat.le_pred_of_lt (Nat.mod_lt _ hd)
  have hsum := List.sum_le_card_nsmul _ _ hle
  rw [List.length_map, smul_eq_mul] at hsum
  rw [Nat.div_lt_iff_lt_mul hd]
  calc (spans.map fun s => s.length % divisor).sum
      ≤ spans.length * (divisor - 1) := hsum
    _ < spans.length * divisor := Nat.mul_lt_mul_of_pos_left (Nat.pred_lt hd.ne') hcount

/-- Spans that the divisor divides leave no remainders. -/
theorem sum_length_mod_eq_zero {spans : List Span} (h : ∀ s ∈ spans, divisor ∣ s.length) :
    (spans.map fun s => s.length % divisor).sum = 0 := by
  rw [List.sum_eq_zero_iff]
  intro remainder hmem
  obtain ⟨s, hs, rfl⟩ := List.mem_map.mp hmem
  exact Nat.mod_eq_zero_of_dvd (h s hs)

end Span

/-! ### The extent that is taken to be moved -/

namespace Plan

variable {p : Plan}

/-- The number of bytes that all workers of a plan are to move. -/
def assignedTotal (p : Plan) (base : Nat) : Nat :=
  ((p.assignments base).map fun a => a.target.length).sum

theorem assignedTotal_eq (p : Plan) (base : Nat) :
    p.assignedTotal base = (p.spans.map fun s => (s.sample p.divisor).length).sum := by
  have htargets := congrArg (List.map Span.length) (map_target_assignments p base)
  rw [List.map_map, List.map_map] at htargets
  exact congrArg List.sum htargets

/-- The divisors that the remainders of all spans make up. -/
def excess (p : Plan) : Nat := (p.spans.map fun s => s.length % p.divisor).sum / p.divisor

theorem Complete.transferExtent_eq (h : p.Complete) (base : Nat) :
    p.transferExtent = p.assignedTotal base + p.excess := by
  have hsum := h.contiguous.sum_length
  rw [Nat.zero_add] at hsum
  rw [transferExtent, ← hsum, Span.sum_length_div p.spans h.divisor_pos, assignedTotal_eq, excess]

theorem Complete.excess_lt (h : p.Complete) : p.excess < p.workerCount :=
  Span.sum_length_mod_div_lt h.spans_ne_nil h.divisor_pos

theorem excess_eq_zero (h : p.divisor = 1 ∨ ∀ s ∈ p.spans, p.divisor ∣ s.length) :
    p.excess = 0 := by
  have hdvd : ∀ s ∈ p.spans, p.divisor ∣ s.length := by
    rcases h with hone | hdvd
    · intro s _
      rw [hone]
      exact Nat.one_dvd _
    · exact hdvd
  rw [excess, Span.sum_length_mod_eq_zero hdvd, Nat.zero_div]

end Plan

/-! ### The bandwidth of a run -/

namespace Run

variable {r : Run} {slot after : Slot} {order : List Nat} {report : RunReport}

theorem plan_of_read (h : r.read slot order = .ok report) : report.plan = r.plan := by
  unfold read at h
  split at h
  · cases h
  · next regions _ =>
    cases hjoined : joined (Tasks.joinAll r.plan.workerCount
        (r.readCompletions slot order regions)) with
    | error e =>
      rw [hjoined] at h
      cases h
    | ok results =>
      rw [hjoined] at h
      rw [← Except.ok.inj h]

theorem plan_of_write (h : (r.write slot order).1 = .ok report) : report.plan = r.plan := by
  unfold write at h
  dsimp only at h
  split at h
  · cases h
  · cases h
  · next views _ _ =>
    generalize joined (Tasks.joinAll r.plan.workerCount _) = moved at h
    cases moved with
    | error e => cases h
    | ok moved => rw [← Except.ok.inj h]

/-- A run reports on its own plan. -/
theorem plan_of_execute (h : r.execute slot order = (.ok report, after)) :
    report.plan = r.plan := by
  unfold execute at h
  cases hmode : r.spec.mode with
  | read =>
    rw [hmode] at h
    exact plan_of_read (congrArg Prod.fst h)
  | write =>
    rw [hmode] at h
    exact plan_of_write (congrArg Prod.fst h)

end Run

/-- **The bytes that a run is taken to have moved are almost those that it moves**, by a plan that was
made in words that hold its numbers.  They are not less than what the workers of the plan are to
move, and fewer bytes more than there are workers; there is no difference if nothing is sampled, or
if the divisor divides every span.  So a run that moved all that it was to move is reported with the
bandwidth of what it moved, and of fewer bytes more than it has workers. -/
theorem Plan.transferExtent_near {p : Plan} (hmade : p.Made) (base : Nat) :
    p.assignedTotal base ≤ p.transferExtent ∧
    p.transferExtent ≤ p.assignedTotal base + (p.workerCount - 1) ∧
    ((p.divisor = 1 ∨ ∀ s ∈ p.spans, p.divisor ∣ s.length) →
      p.assignedTotal base = p.transferExtent) ∧
    ∀ (r : Run) (slot after : Slot) (order : List Nat) (report : RunReport), r.plan = p →
      r.execute slot order = (.ok report, after) →
      report.moved = (p.assignments r.spec.base).map (fun a => a.target.length) →
      ∃ excess < p.workerCount,
        ((p.divisor = 1 ∨ ∀ s ∈ p.spans, p.divisor ∣ s.length) → excess = 0) ∧
        ∀ elapsed, report.bandwidth elapsed = Bandwidth.of (report.total + excess) elapsed := by
  have hcomplete := hmade.complete
  have heq := hcomplete.transferExtent_eq base
  have hlt := hcomplete.excess_lt
  refine ⟨by omega, by omega, ?_, ?_⟩
  · intro hexact
    rw [heq, excess_eq_zero hexact, Nat.add_zero]
  · rintro r slot after order report rfl hrun hmoved
    refine ⟨r.plan.excess, hlt, excess_eq_zero, ?_⟩
    intro elapsed
    have htotal : report.total = r.plan.assignedTotal r.spec.base := by
      rw [RunReport.total, hmoved]
      rfl
    rw [RunReport.bandwidth, Run.plan_of_execute hrun, htotal,
      hcomplete.transferExtent_eq r.spec.base]

/-- Two workers that each have one byte less than two divisors: the run is credited with one byte
that neither moves. -/
theorem Plan.transferExtent_near_two :
    let p : Plan := ⟨14, 4, [⟨0, 7⟩, ⟨7, 7⟩]⟩
    even 14 2 4 = .ok p ∧ p.assignedTotal 100 = 2 ∧ p.transferExtent = 3 ∧
      p.transferExtent ≤ p.assignedTotal 100 + (p.workerCount - 1) := by
  have h : even 14 2 4 = .ok ⟨14, 4, [⟨0, 7⟩, ⟨7, 7⟩]⟩ := by rfl
  exact ⟨h, rfl, rfl, (transferExtent_near (.even h) 100).2.1⟩

/-- Two workers with pages of half a word are to move more than a word holds; the run is credited with
its ten bytes. -/
theorem Plan.transferExtent_beyond : ∃ p, aligned 10 2 1 (2 ^ 63) = .ok p ∧
    p.transferExtent = 10 ∧ p.assignedTotal 0 = 2 ^ 64 + 10 ∧
    ¬ p.assignedTotal 0 ≤ p.transferExtent := by
  exact ⟨⟨10, 1, [⟨0, 2 ^ 63⟩, ⟨2 ^ 63, 2 ^ 63 + 10⟩]⟩, rfl, rfl, rfl, by decide⟩

end StripeTransfer
