/-
StripeTransfer/Proofs/Extent/Plan.lean

What every plan is like.  A plan is complete if adjacent spans cover its extent
(`Plan.Complete`); the number of workers and their share only say where the spans
are cut.  All that `Plan.ofShare` needs of a share is that all spans but the last
fit (`Plan.ofShare_complete`), and even shares do.

The targets of the workers are the sampled spans, moved to the place of the
extent in the file; without sampling they are adjacent, too
(`Plan.Complete.targets_contiguous`).
-/
import StripeTransfer.Extent.Plan
import StripeTransfer.Proofs.Extent.Contiguous
import Mathlib

namespace StripeTransfer

namespace Plan

/-! ### Complete plans -/

/-- A plan of at least one span, whose spans follow one another from the start of the extent to
its end. -/
structure Complete (p : Plan) : Prop where
  contiguous : Contiguous 0 p.spans p.extent
  spans_ne_nil : p.spans ≠ []
  divisor_pos : 0 < p.divisor

theorem spansFrom_contiguous {extent share workers offset : Nat}
    (h : offset + workers * share ≤ extent) :
    Contiguous offset (spansFrom extent share workers offset) extent := by
  induction workers generalizing offset with
  | zero =>
    have hstop : (⟨offset, extent - offset⟩ : Span).stop = extent := by
      simp only [Span.stop]
      omega
    have hlast := Contiguous.single ⟨offset, extent - offset⟩
    rw [hstop] at hlast
    exact hlast
  | succ workers ih =>
    have hfit : offset + share + workers * share ≤ extent := by
      rw [Nat.succ_mul] at h
      omega
    exact Contiguous.cons (s := ⟨offset, share⟩) (ih hfit)

theorem spansFrom_ne_nil (extent share workers offset : Nat) :
    spansFrom extent share workers offset ≠ [] := by
  cases workers <;> simp [spansFrom]

theorem ofShare_complete {extent workers share divisor : Nat}
    (h : (workers - 1) * share ≤ extent) (hd : 0 < divisor) :
    (ofShare extent workers share divisor).Complete where
  contiguous := spansFrom_contiguous (by simpa using h)
  spans_ne_nil := spansFrom_ne_nil _ _ _ _
  divisor_pos := hd

/-! ### Spans of one share -/

theorem length_spansFrom (extent share workers offset : Nat) :
    (spansFrom extent share workers offset).length = workers + 1 := by
  induction workers generalizing offset with
  | zero => rfl
  | succ workers ih => rw [spansFrom, List.length_cons, ih]

/-- The spans that all have the same share follow at multiples of it, and the last span has the
rest. -/
theorem spansFrom_eq (extent share workers offset : Nat) : spansFrom extent share workers offset =
    (List.range workers).map (fun i => ⟨offset + i * share, share⟩) ++
      [⟨offset + workers * share, extent - (offset + workers * share)⟩] := by
  induction workers generalizing offset with
  | zero => simp [spansFrom]
  | succ workers ih =>
    have hnext (i : Nat) : offset + share + i * share = offset + (i + 1) * share := by
      rw [Nat.succ_mul]
      omega
    rw [spansFrom, ih, List.range_succ_eq_map, List.map_cons, List.map_map, hnext]
    simp only [hnext, Nat.zero_mul, Nat.add_zero, List.cons_append]
    rfl

section

variable {extent workers share divisor : Nat} {s : Span}

theorem spans_ofShare (extent workers share divisor : Nat) :
    (ofShare extent workers share divisor).spans =
      (List.range (workers - 1)).map (fun i => ⟨i * share, share⟩) ++
        [⟨(workers - 1) * share, extent - (workers - 1) * share⟩] := by
  show spansFrom extent share (workers - 1) 0 = _
  simp only [spansFrom_eq, Nat.zero_add]

theorem workerCount_ofShare (h : 0 < workers) :
    (ofShare extent workers share divisor).workerCount = workers := by
  show (spansFrom extent share (workers - 1) 0).length = workers
  rw [length_spansFrom, Nat.sub_add_cancel h]

/-- Every span starts at a multiple of the share. -/
theorem dvd_offset_of_mem (h : s ∈ (ofShare extent workers share divisor).spans) :
    share ∣ s.offset := by
  rw [spans_ofShare, List.mem_append, List.mem_map, List.mem_singleton] at h
  rcases h with ⟨i, -, rfl⟩ | rfl
  · exact Nat.dvd_mul_left share i
  · exact Nat.dvd_mul_left share (workers - 1)

/-- The last of several workers with a share each has a share, too. -/
theorem pred_mul_add_le (hw : 0 < workers) (h : workers * share ≤ extent) :
    (workers - 1) * share + share ≤ extent := by
  rwa [← Nat.succ_mul, Nat.succ_eq_add_one, Nat.sub_add_cancel hw]

end

/-! ### Even plans -/

/-- An even share is the whole part of the quotient, for numbers that admit a plan. -/
theorem evenShare_eq_ok {extent workers divisor share : Nat} :
    evenShare extent workers divisor = .ok share ↔
      share = extent / workers ∧ 0 < workers ∧ 0 < divisor ∧
        (1 < divisor → divisor ≤ extent / workers) := by
  unfold evenShare
  split_ifs with hw hd hs
  · simp [hw]
  · simp [hd]
  · simp only [false_iff]
    omega
  · simp only [Except.ok.injEq]
    omega

/-- Without sampling, any number of workers has an even share. -/
theorem evenShare_of_pos (extent : Nat) {workers : Nat} (hw : 0 < workers) :
    evenShare extent workers 1 = .ok (extent / workers) :=
  evenShare_eq_ok.mpr ⟨rfl, hw, one_pos, fun h => absurd h (lt_irrefl 1)⟩

/-- An even plan is made of the even share. -/
theorem even_eq (extent workers divisor : Nat) : even extent workers divisor =
    (evenShare extent workers divisor).map fun share => ofShare extent workers share divisor := by
  unfold even
  cases evenShare extent workers divisor <;> rfl

section

variable {extent workers divisor : Nat} {p : Plan}

theorem even_eq_ok (h : even extent workers divisor = .ok p) :
    evenShare extent workers divisor = .ok (extent / workers) ∧
      p = ofShare extent workers (extent / workers) divisor := by
  rw [even_eq] at h
  cases hshare : evenShare extent workers divisor with
  | error e =>
    rw [hshare] at h
    cases h
  | ok share =>
    obtain ⟨rfl, -⟩ := evenShare_eq_ok.mp hshare
    rw [hshare] at h
    exact ⟨rfl, (Except.ok.inj h).symm⟩

theorem complete_of_even (h : even extent workers divisor = .ok p) :
    p.extent = extent ∧ p.divisor = divisor ∧ p.Complete := by
  obtain ⟨hshare, rfl⟩ := even_eq_ok h
  obtain ⟨-, -, hd, -⟩ := evenShare_eq_ok.mp hshare
  refine ⟨rfl, rfl, ofShare_complete ?_ hd⟩
  calc (workers - 1) * (extent / workers)
      ≤ workers * (extent / workers) := Nat.mul_le_mul_right _ (Nat.sub_le _ _)
    _ ≤ extent := Nat.mul_div_le extent workers

/-- An even plan has a span for every worker, also for those that get nothing. -/
theorem workerCount_of_even (h : even extent workers divisor = .ok p) :
    p.workerCount = workers := by
  obtain ⟨hshare, rfl⟩ := even_eq_ok h
  exact workerCount_ofShare (evenShare_eq_ok.mp hshare).2.1

/-- Without sampling, any number of workers has an even plan. -/
theorem even_ok_of_pos (extent : Nat) (hw : 0 < workers) :
    ∃ p, even extent workers 1 = .ok p :=
  ⟨_, by rw [even_eq, evenShare_of_pos extent hw]; rfl⟩

end

/-! ### Assignments -/

/-- The work of the worker number `i`, whose span is `s`. -/
def assigned (p : Plan) (base i : Nat) (s : Span) : Assignment :=
  { index := i, region := s, target := (s.sample p.divisor).shift base }

/-- Every worker works on the span in its place. -/
theorem getElem?_assignments (p : Plan) (base i : Nat) :
    (p.assignments base)[i]? = p.spans[i]?.map (p.assigned base i) := by
  rw [assignments, List.getElem?_map, List.getElem?_zipIdx, Option.map_map, Nat.zero_add]
  rfl

/-- The workers beside what each of them gets for its span. -/
theorem getElem?_zip_assignments {β : Type} (p : Plan) (base : Nat) (f : Span → β) (i : Nat) :
    ((p.assignments base).zip (p.spans.map f))[i]? =
      p.spans[i]?.map fun s => (p.assigned base i s, f s) := by
  rw [List.zip, List.getElem?_zipWith, getElem?_assignments, List.getElem?_map]
  cases p.spans[i]? <;> rfl

@[simp] theorem length_assignments (p : Plan) (base : Nat) :
    (p.assignments base).length = p.workerCount := by
  simp [assignments, workerCount]

theorem mem_assignments {p : Plan} {base : Nat} {a : Assignment} (h : a ∈ p.assignments base) :
    a.region ∈ p.spans ∧ a.target = (a.region.sample p.divisor).shift base := by
  obtain ⟨i, hi⟩ := List.getElem?_of_mem h
  rw [getElem?_assignments] at hi
  obtain ⟨s, hs, rfl⟩ := Option.map_eq_some_iff.mp hi
  exact ⟨List.mem_of_getElem? hs, rfl⟩

theorem assigned_mem {p : Plan} {i : Nat} {s : Span} (h : p.spans[i]? = some s) (base : Nat) :
    p.assigned base i s ∈ p.assignments base := by
  refine List.mem_of_getElem? (i := i) ?_
  rw [getElem?_assignments, h]
  rfl

theorem map_target_assignments (p : Plan) (base : Nat) :
    (p.assignments base).map Assignment.target =
      p.spans.map fun s => (s.sample p.divisor).shift base := by
  refine List.ext_getElem? fun i => ?_
  rw [List.getElem?_map, getElem?_assignments, Option.map_map, List.getElem?_map]
  rfl

theorem map_region_assignments (p : Plan) (base : Nat) :
    (p.assignments base).map Assignment.region = p.spans := by
  refine List.ext_getElem? fun i => ?_
  rw [List.getElem?_map, getElem?_assignments, Option.map_map]
  exact Option.map_id_apply

/-- Every target that holds any byte ends within a file of `size` bytes. -/
def TargetsWithin (p : Plan) (base size : Nat) : Prop :=
  ∀ a ∈ p.assignments base, 0 < a.target.length → a.target.stop ≤ size

/-! ### Bytes that are moved -/

/-- The bytes of the extent that some worker moves. -/
def Sampled (p : Plan) (i : Nat) : Prop := ∃ s ∈ p.spans, i ∈ s.sample p.divisor

instance (p : Plan) (i : Nat) : Decidable (p.Sampled i) :=
  inferInstanceAs (Decidable (∃ s ∈ p.spans, i ∈ s.sample p.divisor))

/-- The bytes in the targets of the workers are those of the extent that some worker moves. -/
theorem exists_mem_target_iff {p : Plan} {base q : Nat} :
    (∃ a ∈ p.assignments base, q ∈ a.target) ↔ base ≤ q ∧ p.Sampled (q - base) := by
  have htargets : (∃ a ∈ p.assignments base, q ∈ a.target) ↔
      ∃ t ∈ (p.assignments base).map Assignment.target, q ∈ t := by simp
  rw [htargets, map_target_assignments]
  simp only [List.mem_map, exists_exists_and_eq_and, Span.mem_shift, Sampled]
  tauto

namespace Complete

variable {p : Plan}

/-- A worker moves at most what it owns, and all of it lies within the extent. -/
theorem target_le (h : p.Complete) {base : Nat} {a : Assignment} (ha : a ∈ p.assignments base) :
    a.target.length ≤ a.region.length ∧ a.region.stop ≤ p.extent ∧
      a.target.offset = base + a.region.offset := by
  obtain ⟨hs, ht⟩ := mem_assignments ha
  refine ⟨?_, (h.contiguous.bounds hs).2, ?_⟩
  · rw [ht]
    exact Nat.div_le_self _ _
  · rw [ht]
    exact Nat.add_comm _ _

/-- Without sampling, the targets follow one another over the place of the extent in the file. -/
theorem targets_contiguous (h : p.Complete) (hd : p.divisor = 1) (base : Nat) :
    Contiguous base ((p.assignments base).map Assignment.target) (base + p.extent) := by
  have hshift := h.contiguous.shift base
  rw [Nat.zero_add, Nat.add_comm] at hshift
  rw [map_target_assignments, hd]
  simpa only [Span.sample_one] using hshift

/-- Of every span, the leading bytes are sampled, and no byte of one span is sampled by another. -/
theorem sampled_add_iff (h : p.Complete) {s : Span} (hs : s ∈ p.spans) {i : Nat}
    (hi : i < s.length) : p.Sampled (s.offset + i) ↔ i < s.length / p.divisor := by
  have hmem : s.offset + i ∈ s := ⟨Nat.le_add_right _ _, Nat.add_lt_add_left hi _⟩
  constructor
  · rintro ⟨t, ht, hsample⟩
    obtain rfl := h.contiguous.eq_of_mem hs ht hmem (Span.mem_of_mem_sample hsample)
    exact Nat.lt_of_add_lt_add_left hsample.2
  · intro hlt
    exact ⟨s, hs, Nat.le_add_right _ _, Nat.add_lt_add_left hlt _⟩

/-- A sampled byte belongs to the extent. -/
theorem lt_of_sampled (h : p.Complete) {i : Nat} (hi : p.Sampled i) : i < p.extent := by
  obtain ⟨s, hs, hmem⟩ := hi
  exact (Span.mem_of_mem_sample hmem).2.trans_le (h.contiguous.bounds hs).2

/-- Without sampling, every byte of the extent is moved. -/
theorem sampled_iff (h : p.Complete) (hd : p.divisor = 1) {i : Nat} :
    p.Sampled i ↔ i < p.extent := by
  refine ⟨h.lt_of_sampled, fun hi => ?_⟩
  obtain ⟨s, hs, hmem⟩ := h.contiguous.exists_mem (Nat.zero_le i) hi
  exact ⟨s, hs, by rwa [hd, Span.sample_one]⟩

end Complete

end Plan

end StripeTransfer
