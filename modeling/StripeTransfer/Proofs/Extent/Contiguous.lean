/-
StripeTransfer/Proofs/Extent/Contiguous.lean

Adjacent spans.  A list of spans that follow one another from `start` to `stop`
holds every byte between the two exactly once, however many of the spans are
empty (`Contiguous.existsUnique`), and no other byte (`Contiguous.bounds`).

Adjacent spans come from three places: a range of numbers
(`Contiguous.map_range`), other adjacent spans moved as a whole
(`Contiguous.shift`), and adjacent spans that are each cut up further
(`Contiguous.refine`).  The blocks of a transfer, the shards of a job and the
targets of all its workers are made in these ways.
-/
import StripeTransfer.Extent.Span
import Mathlib

namespace StripeTransfer

/-! ### Bytes of a span -/

/-- The bytes of a span, by their offsets. -/
instance : Membership Nat Span := ⟨fun s p => s.offset ≤ p ∧ p < s.stop⟩

namespace Span

theorem mem_iff {s : Span} {p : Nat} : p ∈ s ↔ s.offset ≤ p ∧ p < s.stop := Iff.rfl

instance (s : Span) (p : Nat) : Decidable (p ∈ s) := inferInstanceAs (Decidable (_ ∧ _))

theorem mem_shift {s : Span} {base p : Nat} : p ∈ s.shift base ↔ base ≤ p ∧ p - base ∈ s := by
  simp only [mem_iff, shift, stop]
  omega

theorem mem_of_mem_sample {s : Span} {divisor p : Nat} (h : p ∈ s.sample divisor) : p ∈ s := by
  have hle : s.length / divisor ≤ s.length := Nat.div_le_self _ _
  simp only [mem_iff, sample, stop] at h ⊢
  omega

@[simp] theorem sample_one (s : Span) : s.sample 1 = s := by
  simp [sample]

end Span

namespace Contiguous

variable {start mid stop : Nat} {spans : List Span}

/-! ### Making adjacent spans -/

theorem single (s : Span) : Contiguous s.offset [s] s.stop := cons (nil _)

theorem append {xs ys : List Span} (hx : Contiguous start xs mid) (hy : Contiguous mid ys stop) :
    Contiguous start (xs ++ ys) stop := by
  induction hx with
  | nil => exact hy
  | cons _ ih => exact cons (ih hy)

/-- One span for each number below `n`, each from its own start to that of the next. -/
theorem map_range {bound : Nat → Nat} {f : Nat → Span} {n : Nat}
    (h : ∀ i < n, (f i).offset = bound i ∧ (f i).stop = bound (i + 1)) :
    Contiguous (bound 0) ((List.range n).map f) (bound n) := by
  induction n with
  | zero => exact nil _
  | succ n ih =>
    have hinit := ih fun i hi => h i (Nat.lt_succ_of_lt hi)
    have hlast : Contiguous (bound n) [f n] (bound (n + 1)) := by
      rw [← (h n n.lt_succ_self).1, ← (h n n.lt_succ_self).2]
      exact single (f n)
    rw [List.range_succ, List.map_append]
    exact hinit.append hlast

theorem shift (h : Contiguous start spans stop) (base : Nat) :
    Contiguous (start + base) (spans.map fun s => s.shift base) (stop + base) := by
  induction h with
  | nil start => exact nil _
  | @cons s rest stop _ ih =>
    have hstop : (s.shift base).stop = s.stop + base := by
      simp only [Span.stop, Span.shift]
      omega
    refine cons (s := s.shift base) ?_
    rw [hstop]
    exact ih

/-- Cutting each of several adjacent spans into adjacent spans. -/
theorem refine {α : Type} {whole : α → Span} {parts : α → List Span} {xs : List α}
    (h : Contiguous start (xs.map whole) stop)
    (hp : ∀ x ∈ xs, Contiguous (whole x).offset (parts x) (whole x).stop) :
    Contiguous start (xs.flatMap parts) stop := by
  induction xs generalizing start with
  | nil => exact h
  | cons x xs ih =>
    cases h with
    | cons hrest =>
      -- the parts of the first span end where the second span starts
      rw [List.flatMap_cons]
      exact (hp x List.mem_cons_self).append
        (ih hrest fun y hy => hp y (List.mem_cons_of_mem x hy))

/-! ### Where the bytes are -/

theorem le (h : Contiguous start spans stop) : start ≤ stop := by
  induction h with
  | nil => exact le_rfl
  | @cons s _ _ _ ih => exact (Nat.le_add_right s.offset s.length).trans ih

theorem bounds (h : Contiguous start spans stop) {s : Span} (hs : s ∈ spans) :
    start ≤ s.offset ∧ s.stop ≤ stop := by
  induction h with
  | nil => cases hs
  | @cons t rest stop hrest ih =>
    rcases List.mem_cons.mp hs with rfl | hs
    · exact ⟨le_rfl, hrest.le⟩
    · have hle : t.offset ≤ t.stop := Nat.le_add_right _ _
      exact ⟨hle.trans (ih hs).1, (ih hs).2⟩

/-- **Every byte between the ends lies in exactly one of several adjacent spans.** -/
theorem existsUnique (h : Contiguous start spans stop) {p : Nat} (hstart : start ≤ p)
    (hstop : p < stop) : ∃! i : Nat, ∃ s : Span, spans[i]? = some s ∧ p ∈ s := by
  induction h with
  | nil => omega
  | @cons t rest stop hrest ih =>
    by_cases hp : p < t.stop
    · refine ⟨0, ⟨t, rfl, hstart, hp⟩, ?_⟩
      rintro (- | i) ⟨s, hs, hmem⟩
      · rfl
      · -- all later spans start behind the first one
        have hs' : s ∈ rest := List.mem_of_getElem? (by simpa using hs)
        have := (hrest.bounds hs').1
        have := hmem.1
        omega
    · obtain ⟨i, ⟨s, hs, hmem⟩, huniq⟩ := ih (by omega) hstop
      refine ⟨i + 1, ⟨s, by simpa using hs, hmem⟩, ?_⟩
      rintro (- | j) ⟨s', hs', hmem'⟩
      · have heq : t = s' := by simpa using hs'
        exact absurd hmem'.2 (heq ▸ hp)
      · exact congrArg (· + 1) (huniq j ⟨s', by simpa using hs', hmem'⟩)

theorem exists_mem (h : Contiguous start spans stop) {p : Nat} (hstart : start ≤ p)
    (hstop : p < stop) : ∃ s ∈ spans, p ∈ s := by
  obtain ⟨i, ⟨s, hs, hmem⟩, -⟩ := h.existsUnique hstart hstop
  exact ⟨s, List.mem_of_getElem? hs, hmem⟩

/-- Adjacent spans with a byte in common are one span. -/
theorem eq_of_mem (h : Contiguous start spans stop) {s t : Span} (hs : s ∈ spans) (ht : t ∈ spans)
    {p : Nat} (hps : p ∈ s) (hpt : p ∈ t) : s = t := by
  obtain ⟨i, hi⟩ := List.getElem?_of_mem hs
  obtain ⟨j, hj⟩ := List.getElem?_of_mem ht
  have hstart : start ≤ p := (h.bounds hs).1.trans hps.1
  have hstop : p < stop := hps.2.trans_le (h.bounds hs).2
  obtain rfl := (h.existsUnique hstart hstop).unique ⟨s, hi, hps⟩ ⟨t, hj, hpt⟩
  exact Option.some.inj (hi.symm.trans hj)

/-- Below any place, adjacent spans have together as many bytes as there are from their start on. -/
theorem sum_below (h : Contiguous start spans stop) (place : Nat) :
    (spans.map fun s => min s.length (place - s.offset)).sum =
      min (stop - start) (place - start) := by
  induction h with
  | nil start => simp
  | @cons s rest stop hrest ih =>
    have hle := hrest.le
    have hstop : s.stop = s.offset + s.length := rfl
    rw [List.map_cons, List.sum_cons, ih]
    omega

end Contiguous

end StripeTransfer
