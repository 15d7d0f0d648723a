/-
StripeTransfer/Proofs/Measure/Summary.lean

Statistics do not depend on the order of the workers.  Sums of machine numbers
do, so the statistics are computed from the ascending arrangement of the samples,
and this arrangement is one and the same list for every order in which the
samples come: the total order tells any two patterns apart, also NaNs of
different payloads and the two zeros (`Binary64.eq_sorted_iff`).

Main result: `Summary.of_perm`.  The smallest, the middle and the largest sample
are read off the same arrangement, so at most half of the samples lie below the
middle one (`Binary64.countP_below`, `Binary64.countP_above`).
-/
import StripeTransfer.Measure.Summary
import StripeTransfer.Proofs.Number.Order
import Mathlib

namespace StripeTransfer

/-! ### Counting in an ascending list -/

namespace Binary64

variable {x y : Binary64} {xs : List Binary64} {k l : Nat}

theorem precedes_of_pairwise (h : xs.Pairwise Precedes) (hx : xs[k]? = some x)
    (hy : xs[l]? = some y) (hkl : k ≤ l) : x.Precedes y := by
  obtain ⟨hk, rfl⟩ := List.getElem?_eq_some_iff.mp hx
  obtain ⟨hl, rfl⟩ := List.getElem?_eq_some_iff.mp hy
  rcases Nat.lt_or_eq_of_le hkl with hlt | rfl
  · exact List.pairwise_iff_getElem.mp h k l hk hl hlt
  · exact Precedes.refl _

/-- What is strictly below a sample stands in front of it. -/
theorem countP_below (h : xs.Pairwise Precedes) (hx : xs[k]? = some x) :
    xs.countP (fun y => y ≠ x ∧ y.Precedes x) ≤ k := by
  have hbehind : (xs.drop k).countP (fun y => y ≠ x ∧ y.Precedes x) = 0 := by
    apply List.countP_eq_zero.mpr
    intro y hy hbelow
    obtain ⟨i, hi⟩ := List.mem_iff_getElem?.mp hy
    rw [List.getElem?_drop] at hi
    obtain ⟨hne, hyx⟩ := of_decide_eq_true hbelow
    exact hne (hyx.antisymm (precedes_of_pairwise h hx hi (Nat.le_add_right k i)))
  have hfront : (xs.take k).countP (fun y => y ≠ x ∧ y.Precedes x) ≤ k :=
    List.countP_le_length.trans (List.length_take_le k xs)
  rw [← List.take_append_drop k xs, List.countP_append, hbehind]
  exact hfront

/-- What is strictly above a sample stands behind it. -/
theorem countP_above (h : xs.Pairwise Precedes) (hx : xs[k]? = some x) :
    xs.countP (fun y => y ≠ x ∧ x.Precedes y) ≤ xs.length - 1 - k := by
  have hfront : (xs.take (k + 1)).countP (fun y => y ≠ x ∧ x.Precedes y) = 0 := by
    apply List.countP_eq_zero.mpr
    intro y hy habove
    obtain ⟨i, hi⟩ := List.mem_iff_getElem?.mp hy
    obtain ⟨hik, hi⟩ := Option.ite_none_right_eq_some.mp (List.getElem?_take.symm.trans hi)
    obtain ⟨hne, hxy⟩ := of_decide_eq_true habove
    exact hne ((precedes_of_pairwise h hi hx (Nat.le_of_lt_succ hik)).antisymm hxy)
  have hbehind : (xs.drop (k + 1)).countP (fun y => y ≠ x ∧ x.Precedes y) ≤
      xs.length - (k + 1) := by
    rw [← List.length_drop]
    exact List.countP_le_length
  rw [Nat.sub_sub, Nat.add_comm 1 k, ← List.take_append_drop (k + 1) xs, List.countP_append,
    hfront, Nat.zero_add, List.take_append_drop]
  exact hbehind

end Binary64

/-! ### Statistics of a list of samples -/

namespace Summary

open Binary64 (sorted Precedes)

variable {samples : List Binary64}

theorem of_eq_none (h : samples.length < 2) : of samples = none := by
  have hlength := (Binary64.sorted_perm samples).length_eq
  unfold of
  split
  · rfl
  · rfl
  · rename_i least rest hne heq
    rw [heq, List.length_cons] at hlength
    have := List.length_pos_iff.mpr hne
    omega

theorem of_eq_some (h : 2 ≤ samples.length) : ∃ least rest,
    sorted samples = least :: rest ∧ of samples = some (ofSorted least rest) := by
  have hlength := (Binary64.sorted_perm samples).length_eq
  unfold of
  split
  · rename_i heq
    rw [heq, List.length_nil] at hlength
    omega
  · rename_i heq
    rw [heq, List.length_singleton] at hlength
    omega
  · rename_i least rest _ heq
    exact ⟨least, rest, heq, rfl⟩

theorem getElem?_median (least : Binary64) (rest : List Binary64) :
    (least :: rest)[(least :: rest).length / 2]? = some (ofSorted least rest).median := by
  have hmiddle : (least :: rest).length / 2 < (least :: rest).length :=
    Nat.div_lt_self (Nat.succ_pos _) (by decide)
  show _ = some ((least :: rest).getD ((least :: rest).length / 2) least)
  rw [List.getElem?_eq_getElem hmiddle, List.getD_eq_getElem _ _ hmiddle]

theorem getElem?_max (least : Binary64) (rest : List Binary64) :
    (least :: rest)[(least :: rest).length - 1]? = some (ofSorted least rest).max := by
  show _ = some ((least :: rest).getLastD least)
  rw [← List.getLast?_eq_getElem?, List.getLastD_eq_getLast?, List.getLast?_cons,
    Option.getD_some]

/-- The samples that statistics are made of stand in the ascending arrangement of all samples. -/
structure Places (samples : List Binary64) (s : Summary) : Prop where
  min : (sorted samples)[0]? = some s.min
  median : (sorted samples)[samples.length / 2]? = some s.median
  max : (sorted samples)[samples.length - 1]? = some s.max

theorem places_of {s : Summary} (h : of samples = some s) : Places samples s := by
  have hlength : 2 ≤ samples.length := by
    by_contra hlt
    rw [of_eq_none (Nat.not_le.mp hlt)] at h
    cases h
  obtain ⟨least, rest, heq, hof⟩ := of_eq_some hlength
  rw [hof, Option.some.injEq] at h
  subst h
  have hsamples : samples.length = (least :: rest).length := by
    rw [← heq, (Binary64.sorted_perm samples).length_eq]
  constructor
  · rw [heq]
    rfl
  · rw [hsamples, heq, getElem?_median]
  · rw [hsamples, heq, getElem?_max]

theorem mem_of_getElem?_sorted {x : Binary64} {k : Nat} (h : (sorted samples)[k]? = some x) :
    x ∈ samples := (Binary64.sorted_perm samples).mem_iff.mp (List.mem_of_getElem? h)

/-- No sample comes before the least one. -/
theorem Places.min_precedes {s : Summary} (h : Places samples s) {x : Binary64}
    (hx : x ∈ samples) : s.min.Precedes x := by
  obtain ⟨k, hk⟩ := List.mem_iff_getElem?.mp ((Binary64.sorted_perm samples).mem_iff.mpr hx)
  exact Binary64.precedes_of_pairwise (Binary64.pairwise_sorted samples) h.min hk (Nat.zero_le k)

/-- **Statistics do not depend on the order of the workers.**  Whatever order at least two samples
come in, the statistics are the same patterns.  The samples have exactly one ascending arrangement
in the total order, and the least, the median and the greatest sample stand in it at the start, at
half its length and at the end; so at most that many samples are below and above the median. -/
theorem of_perm (h : 2 ≤ samples.length) : ∃ (s : Summary) (arrangement : List Binary64),
    (∀ others : List Binary64, others.Perm samples → of others = some s) ∧
    (∀ others : List Binary64,
      others.Perm samples ∧ others.Pairwise Precedes ↔ others = arrangement) ∧
    arrangement[0]? = some s.min ∧
    arrangement[samples.length / 2]? = some s.median ∧
    arrangement[samples.length - 1]? = some s.max ∧
    samples.countP (fun x => x ≠ s.median ∧ x.Precedes s.median) ≤ samples.length / 2 ∧
    samples.countP (fun x => x ≠ s.median ∧ s.median.Precedes x) ≤
      samples.length - 1 - samples.length / 2 := by
  obtain ⟨least, rest, -, hof⟩ := of_eq_some h
  have hplaces := places_of hof
  have hpairwise := Binary64.pairwise_sorted samples
  have hperm := Binary64.sorted_perm samples
  refine ⟨ofSorted least rest, sorted samples, ?_, fun others => Binary64.eq_sorted_iff,
    hplaces.min, hplaces.median, hplaces.max, ?_, ?_⟩
  · intro others hothers
    rw [← hof, of, of, Binary64.sorted_eq_of_perm hothers]
  · rw [← hperm.countP_eq]
    exact Binary64.countP_below hpairwise hplaces.median
  · rw [← hperm.countP_eq, ← hperm.length_eq]
    apply Binary64.countP_above hpairwise
    rw [hperm.length_eq]
    exact hplaces.median

/-- The two zeros and a NaN, in an order that is not ascending. -/
theorem of_perm_zeros : ∃ s : Summary,
    of [Binary64.nan, .zero, .negZero] = some s ∧ of [.zero, Binary64.nan, .negZero] = some s ∧
    s.min = .negZero ∧ s.median = .zero ∧ s.max = .nan := by
  have hlength : 2 ≤ [Binary64.nan, .zero, .negZero].length := Nat.le_succ 2
  obtain ⟨s, arrangement, hsame, hunique, hmin, hmedian, hmax, -, -⟩ := of_perm hlength
  obtain rfl : [.negZero, .zero, Binary64.nan] = arrangement :=
    (hunique [.negZero, .zero, .nan]).mp ⟨by decide, by decide⟩
  exact ⟨s, hsame _ (.refl _), hsame _ (.swap _ _ _), (Option.some.inj hmin).symm,
    (Option.some.inj hmedian).symm, (Option.some.inj hmax).symm⟩

end Summary

end StripeTransfer
