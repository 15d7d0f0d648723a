/-
StripeTransfer/Proofs/Transfer/WriteRun.lean

What a writing run does to a file.  Every worker writes its slice of the data, so
the run as a whole is a sequence of patches that are cut from one source
(`Run.writeJobs_eq`); by `Content.octet_patch` neither the order of the workers
nor the number of calls can be seen afterwards.

A run through mappings extends the file to the end of its extent before the first
worker starts; all others extend it as they write, and only as far as they write.
That is the one difference between the strategies (`Run.execute_write`).
-/
import StripeTransfer.Proofs.Buffer
import StripeTransfer.Proofs.Tasks
import StripeTransfer.Proofs.Transfer.Run
import StripeTransfer.Proofs.Transfer.Worker
import Mathlib

namespace StripeTransfer

/-! ### How far a run writes -/

/-- The largest end of the targets that hold any byte; zero if there is none. -/
def Plan.writtenStop (p : Plan) (base : Nat) : Nat :=
  ((p.assignments base).filter fun a => 0 < a.target.length).foldr
    (fun a stop => max a.target.stop stop) 0

theorem Plan.writtenStop_le_iff {p : Plan} {base size : Nat} :
    p.writtenStop base ≤ size ↔ p.TargetsWithin base size := by
  unfold writtenStop TargetsWithin
  induction p.assignments base with
  | nil => simp
  | cons a rest ih =>
    rw [List.forall_mem_cons, ← ih, List.filter_cons]
    split_ifs with ha
    · simp only [decide_eq_true_eq] at ha
      simp [ha]
    · simp only [decide_eq_true_eq] at ha
      simp [ha]

@[simp] theorem Strategy.needsPages_iff {s : Strategy} : s.needsPages = true ↔ s = .mapped := by
  simp [needsPages]

namespace Run

variable {r : Run} {slot : Slot} {old : ByteArray}

/-! ### Extending the file -/

/-- Before mappings are written, the file is grown to what they need. -/
theorem ensureLength_eq (hslot : slot.Holds old) (hrange : r.requiredLength ≤ maxOffset) :
    r.ensureLength slot = (.ok (), .file (Content.growTo old r.requiredLength)) := by
  have hin : ¬ maxOffset < r.requiredLength := not_lt.mpr hrange
  have hgrow : (if old.size < r.requiredLength then Content.resize old r.requiredLength else old) =
      Content.growTo old r.requiredLength := by
    split_ifs with hlt
    · exact Content.resize_eq_growTo hlt.le
    · exact (if_pos (not_lt.mp hlt)).symm
  simp only [ensureLength, observeLength, hslot.openCreate, if_neg hin, settleLength, hgrow]

/-- A file cannot be grown beyond what the system can address. -/
theorem ensureLength_beyond (hslot : slot.Holds old) (hrange : maxOffset < r.requiredLength) :
    r.ensureLength slot = (.error (.io ⟨.extend r.spec.path, .badOffset⟩), .file old) := by
  simp only [ensureLength, observeLength, hslot.openCreate, if_pos hrange]

/-! ### The workers -/

/-- What a worker writes, and where. -/
def patchOf (j : Assignment × ByteArray) : Patch :=
  ⟨j.1.target.offset, j.2.extract 0 j.1.target.length⟩

/-- What a worker reports when it has written all of its target. -/
def written (j : Assignment × ByteArray) : Completion TransferError Nat :=
  .returned j.1.index (.ok j.1.target.length)

/-- A worker whose view is long enough, and whose target is within reach. -/
def CanWrite (j : Assignment × ByteArray) : Prop :=
  j.1.target.length ≤ j.2.size ∧ j.1.target.stop ≤ maxOffset

theorem write_job {j : Assignment × ByteArray} (hj : CanWrite j) (hslot : slot.Holds old)
    (hmapped : r.spec.strategy = .mapped → slot = .file old ∧ j.1.target.stop ≤ old.size) :
    r.worker.write slot j.1.target (j.2.extract 0 j.1.target.length) =
      (.ok j.1.target.length, .file (Content.patch old [patchOf j])) := by
  exact Worker.write_eq hslot (size_lead hj.1) hj.2 hmapped

/-- **Executing workers one after the other is writing one patch after the other**, and each
worker reports all of its target. -/
theorem writeJobs_eq {jobs : List (Assignment × ByteArray)} (hjobs : jobs ≠ [])
    (hcan : ∀ j ∈ jobs, CanWrite j) (hslot : slot.Holds old)
    (hmapped : r.spec.strategy = .mapped →
      slot = .file old ∧ ∀ j ∈ jobs, j.1.target.stop ≤ old.size) :
    r.writeJobs slot jobs =
      (jobs.map written, .file (Content.patch old (jobs.map patchOf))) := by
  induction jobs generalizing slot old with
  | nil => exact absurd rfl hjobs
  | cons j rest ih =>
    have hfirst := write_job (hcan j List.mem_cons_self) hslot fun h =>
      ⟨(hmapped h).1, (hmapped h).2 j List.mem_cons_self⟩
    -- from here on there is a file, however the slot was before
    rcases List.eq_nil_or_concat rest with rfl | ⟨_, _, hne⟩
    · simp only [writeJobs, hfirst, List.map_cons, List.map_nil, written]
    · have hrest := ih (by simp [hne]) (fun k hk => hcan k (List.mem_cons_of_mem j hk))
        (.file (Content.patch old [patchOf j])) fun h => ⟨rfl, fun k hk =>
          ((hmapped h).2 k (List.mem_cons_of_mem j hk)).trans (Content.size_le_writeAt _ _ _)⟩
      simp only [writeJobs, hfirst, hrest, List.map_cons, written]
      rfl

/-! ### The whole run -/

variable {order : List Nat}

/-- The workers in the order of their execution, each with its slice of the data. -/
def jobs (r : Run) (order : List Nat) : List (Assignment × ByteArray) :=
  order.filterMap fun i =>
    ((r.plan.assignments r.spec.base).zip (r.plan.spans.map fun s => s.slice r.data))[i]?

/-- The file that the workers start from. -/
def prepared (r : Run) (old : ByteArray) : ByteArray :=
  if r.spec.strategy.needsPages then Content.growTo old r.requiredLength else old

/-- The file that the workers leave. -/
def result (r : Run) (old : ByteArray) (order : List Nat) : ByteArray :=
  Content.patch (r.prepared old) ((r.jobs order).map patchOf)

theorem exists_job (horder : order.Perm r.planOrder) {a : Assignment} :
    (∃ view, (a, view) ∈ r.jobs order) ↔ a ∈ r.plan.assignments r.spec.base := by
  simp only [jobs, mem_jobs horder, List.mem_iff_getElem?, Plan.getElem?_assignments,
    Option.map_eq_some_iff, Prod.mk.injEq]
  constructor
  · rintro ⟨_, i, s, hs, rfl, -⟩
    exact ⟨i, s, hs, rfl⟩
  · rintro ⟨i, s, hs, rfl⟩
    exact ⟨_, i, s, hs, rfl, rfl⟩

theorem view_of_job (horder : order.Perm r.planOrder) {j : Assignment × ByteArray}
    (hj : j ∈ r.jobs order) : j.2 = j.1.region.slice r.data := by
  obtain ⟨i, s, -, rfl⟩ := (mem_jobs horder).mp hj
  rfl

/-- All workers report what they were to write. -/
theorem joined_written (horder : order.Perm r.planOrder) :
    joined (Tasks.joinAll r.plan.workerCount ((r.jobs order).map written)) =
      .ok ((r.plan.assignments r.spec.base).map fun a => a.target.length) := by
  refine joined_of_returned fun c => ?_
  rw [List.mem_map]
  constructor
  · rintro ⟨j, hj, rfl⟩
    obtain ⟨i, s, hs, rfl⟩ := (mem_jobs horder).mp hj
    exact ⟨i, s, hs, rfl⟩
  · rintro ⟨i, s, hs, rfl⟩
    exact ⟨_, (mem_jobs horder).mpr ⟨i, s, hs, rfl⟩, rfl⟩

namespace Ready

theorem size_view (h : r.Ready) (horder : order.Perm r.planOrder) {j : Assignment × ByteArray}
    (hj : j ∈ r.jobs order) : j.1.target.length ≤ j.2.size := by
  have ha := (exists_job horder).mp ⟨j.2, hj⟩
  have hregion : j.1.region.stop ≤ r.data.size := by
    rw [h.size_data]
    exact h.inBounds.region _ ha
  rw [view_of_job horder hj, Buffer.size_slice hregion]
  exact h.inBounds.target _ ha

/-- Every patch writes exactly the target of its worker. -/
theorem span_patchOf (h : r.Ready) (horder : order.Perm r.planOrder) {j : Assignment × ByteArray}
    (hj : j ∈ r.jobs order) : (patchOf j).span = j.1.target := by
  have hsize : (patchOf j).data.size = j.1.target.length := size_lead (h.size_view horder hj)
  rw [Patch.span, hsize]
  rfl

/-- Every patch is cut from the data, which are laid over the file at the place of the extent. -/
theorem from_patchOf (h : r.Ready) (horder : order.Perm r.planOrder) {j : Assignment × ByteArray}
    (hj : j ∈ r.jobs order) :
    (patchOf j).From fun q => octet r.data (q - r.spec.base) := by
  intro i hi
  have hspan := congrArg Span.length (h.span_patchOf horder hj)
  have hlen : i < j.1.target.length := hspan ▸ hi
  have hle := h.size_view horder hj
  have ha := (exists_job horder).mp ⟨j.2, hj⟩
  obtain ⟨hfit, -, hoffset⟩ := h.complete.target_le ha
  have hplace : (patchOf j).offset + i - r.spec.base = j.1.region.offset + i := by
    show j.1.target.offset + i - r.spec.base = _
    omega
  show octet (j.2.extract 0 j.1.target.length) i =
    octet r.data ((patchOf j).offset + i - r.spec.base)
  rw [hplace, octet_extract, Nat.zero_add, if_pos hlen, view_of_job horder hj, Buffer.octet_slice,
    if_pos (by omega)]

/-- **The bytes after a writing run**: the targets hold the data, and all else is as it was. -/
theorem octet_result (h : r.Ready) (horder : order.Perm r.planOrder) (old : ByteArray) (p : Nat) :
    octet (r.result old order) p =
      if r.spec.base ≤ p ∧ r.plan.Sampled (p - r.spec.base) then octet r.data (p - r.spec.base)
      else octet old p := by
  have hfrom : ∀ patch ∈ (r.jobs order).map patchOf,
      patch.From fun q => octet r.data (q - r.spec.base) := by
    intro patch hpatch
    obtain ⟨j, hj, rfl⟩ := List.mem_map.mp hpatch
    exact h.from_patchOf horder hj
  have hcovered : (∃ patch ∈ (r.jobs order).map patchOf, p ∈ patch.span) ↔
      r.spec.base ≤ p ∧ r.plan.Sampled (p - r.spec.base) := by
    rw [← Plan.exists_mem_target_iff]
    constructor
    · rintro ⟨patch, hpatch, hp⟩
      obtain ⟨j, hj, rfl⟩ := List.mem_map.mp hpatch
      rw [h.span_patchOf horder hj] at hp
      exact ⟨j.1, (exists_job horder).mp ⟨j.2, hj⟩, hp⟩
    · rintro ⟨a, ha, hp⟩
      obtain ⟨view, hj⟩ := (exists_job horder).mpr ha
      refine ⟨_, List.mem_map_of_mem hj, ?_⟩
      rw [h.span_patchOf horder hj]
      exact hp
  have hprepared : octet (r.prepared old) p = octet old p := by
    unfold prepared
    split_ifs
    · exact Content.octet_growTo _ _ _
    · rfl
  rw [result, Content.octet_patch hfrom, hprepared]
  simp only [hcovered]

theorem writtenStop_le (h : r.Ready) : r.plan.writtenStop r.spec.base ≤ r.requiredLength :=
  Plan.writtenStop_le_iff.mpr fun _ ha _ => h.target_stop_le ha

/-- Without sampling, the last target that holds any byte ends with the extent. -/
theorem writtenStop_eq (h : r.Ready) (hdivisor : r.plan.divisor = 1) (hpos : 0 < r.plan.extent) :
    r.plan.writtenStop r.spec.base = r.requiredLength := by
  refine le_antisymm h.writtenStop_le ?_
  have hlast : r.plan.Sampled (r.requiredLength - 1 - r.spec.base) :=
    (h.complete.sampled_iff hdivisor).mpr (by rw [requiredLength]; omega)
  obtain ⟨a, ha, hmem⟩ := Plan.exists_mem_target_iff.mpr
    ⟨by rw [requiredLength]; omega, hlast⟩
  have hlength : 0 < a.target.length := by
    have := hmem.1.trans_lt hmem.2
    simp only [Span.stop] at this
    omega
  have hreach := Plan.writtenStop_le_iff.mp le_rfl a ha hlength
  have hmem := hmem.2
  omega

/-- **The size after a writing run**: mappings reach to the end of the extent, calls to the end of
the last target that is not empty. -/
theorem size_result (h : r.Ready) (horder : order.Perm r.planOrder) (old : ByteArray) :
    (r.result old order).size = max old.size
      (if r.spec.strategy = .mapped then r.requiredLength else r.plan.writtenStop r.spec.base) := by
  have hpatches (size : Nat) : (∀ patch ∈ (r.jobs order).map patchOf, 0 < patch.data.size →
      patch.span.stop ≤ size) ↔ r.plan.writtenStop r.spec.base ≤ size := by
    rw [Plan.writtenStop_le_iff]
    constructor
    · intro hall a ha hpos
      obtain ⟨view, hj⟩ := (exists_job horder).mpr ha
      have hspan := h.span_patchOf horder hj
      have hstop := hall _ (List.mem_map_of_mem hj)
      rw [hspan] at hstop
      exact hstop (by rwa [← hspan] at hpos)
    · intro hall patch hpatch hpos
      obtain ⟨j, hj, rfl⟩ := List.mem_map.mp hpatch
      have hspan := h.span_patchOf horder hj
      rw [hspan]
      exact hall _ ((exists_job horder).mp ⟨j.2, hj⟩) (by rwa [← hspan])
  refine eq_of_forall_ge_iff fun size => ?_
  rw [result, Content.size_patch_le_iff, hpatches, prepared, Nat.max_le]
  simp only [Strategy.needsPages_iff]
  split_ifs
  · rw [Content.size_growTo, Nat.max_le, and_assoc, and_congr_right_iff]
    exact fun _ => ⟨fun hfits => hfits.1, fun hfits => ⟨hfits, h.writtenStop_le.trans hfits⟩⟩
  · rfl

/-- **A writing run succeeds** on every file and in every order of its workers, each of which
reports all of its target. -/
theorem write_eq (h : r.Ready) (hslot : slot.Holds old) (horder : order.Perm r.planOrder) :
    r.write slot order =
      (.ok ⟨r.plan, (r.plan.assignments r.spec.base).map fun a => a.target.length, none⟩,
        .file (r.result old order)) := by
  have hviews : Buffer.slices r.data r.plan = some (r.plan.spans.map fun s => s.slice r.data) :=
    Buffer.slices_eq h.complete h.size_data
  have hjobs : r.jobs order ≠ [] := by
    obtain ⟨s, hs⟩ := List.exists_mem_of_ne_nil _ h.complete.spans_ne_nil
    obtain ⟨i, hi⟩ := List.getElem?_of_mem hs
    exact List.ne_nil_of_mem ((mem_jobs horder).mpr ⟨i, s, hi, rfl⟩)
  have hstop : ∀ j ∈ r.jobs order, j.1.target.stop ≤ r.requiredLength := fun j hj =>
    h.target_stop_le ((exists_job horder).mp ⟨j.2, hj⟩)
  have hcan : ∀ j ∈ r.jobs order, CanWrite j := fun j hj =>
    ⟨h.size_view horder hj, (hstop j hj).trans h.reach⟩
  by_cases hs : r.spec.strategy = .mapped
  · -- the file is extended before the first worker starts, so that every mapping lies within it
    have hprepared : r.prepared old = Content.growTo old r.requiredLength :=
      if_pos (Strategy.needsPages_iff.mpr hs)
    have hreach : r.requiredLength ≤ (r.prepared old).size := by
      rw [hprepared, Content.size_growTo]
      exact le_max_right _ _
    have hrun := writeJobs_eq (r := r) hjobs hcan (.file (r.prepared old)) fun _ =>
      ⟨rfl, fun j hj => (hstop j hj).trans hreach⟩
    rw [write, if_pos (Strategy.needsPages_iff.mpr hs), ensureLength_eq hslot h.reach, ← hprepared]
    simp only [hviews]
    rw [← jobs, hrun]
    simp only [joined_written horder]
    rfl
  · have hpages : ¬ r.spec.strategy.needsPages = true := Strategy.needsPages_iff.not.mpr hs
    have hprepared : r.prepared old = old := if_neg hpages
    have hrun := writeJobs_eq (r := r) hjobs hcan hslot fun hm => absurd hm hs
    rw [write, if_neg hpages]
    simp only [hviews]
    rw [← jobs, hrun]
    simp only [joined_written horder, result, hprepared]
    rfl

end Ready

/-- **What a writing run does to a file.**  It succeeds on every path that holds a file or can hold
one, and in every order of its workers; no slice leaves what it is taken from, and every worker
reports all of its target.  Afterwards the sampled bytes of the extent hold the data, all others
are as they were, and a gap before them holds zeros.  Mappings extend the file to the end of the
extent, all else only to the end of the last target that holds any byte. -/
theorem execute_write {s : RunSpec} {r : Run} {slot : Slot} {old : ByteArray} {order : List Nat}
    (hbuild : s.build = .ok r) (hmode : s.mode = .write) (hreach : s.base + s.extent ≤ maxOffset)
    (hslot : slot.Holds old) (horder : order.Perm r.planOrder) :
    r.InBounds ∧ r.plan.divisor = s.divisor ∧ ∃ new : ByteArray,
      r.execute slot order =
        (.ok ⟨r.plan, (r.plan.assignments s.base).map fun a => a.target.length, none⟩,
          .file new) ∧
      new.size = max old.size
        (if s.strategy = .mapped then s.base + s.extent else r.plan.writtenStop s.base) ∧
      ∀ p < new.size, new[p]? =
        if s.base ≤ p ∧ r.plan.Sampled (p - s.base) then
          (s.source.getD (Pattern.window s.base s.extent))[p - s.base]?
        else if p < old.size then old[p]?
        else some 0 := by
  have hready := RunSpec.ready_of_build hbuild hreach
  obtain ⟨hextent, hdivisor⟩ := RunSpec.parameters_of_build hbuild
  have hdata := RunSpec.data_of_build hbuild
  obtain rfl := RunSpec.spec_of_build hbuild
  refine ⟨hready.inBounds, hdivisor, r.result old order, ?_, ?_, fun p hp => ?_⟩
  · rw [execute, hmode]
    exact hready.write_eq hslot horder
  · rw [hready.size_result horder, requiredLength, hextent]
  · rw [getElem?_eq_octet hp, hready.octet_result horder, ← hdata]
    split_ifs with hsampled hold
    · have hlt := hready.complete.lt_of_sampled hsampled.2
      rw [← hready.size_data] at hlt
      exact (getElem?_eq_octet hlt).symm
    · exact (getElem?_eq_octet hold).symm
    · rw [octet_of_le (not_lt.mp hold)]

/-- Two workers that each write the first half of a share of five bytes. -/
def sparseWrite : RunSpec :=
  { path := "f.bin", extent := 5, workers := 2, mode := .write, strategy := .buffered,
    divisor := 2, base := 3, blockSize := some 1, source := some ⟨#[1, 2, 3, 4, 5]⟩ }

/-- The last worker goes first; the byte between the targets stays zero. -/
theorem execute_write_sparse :
    let r : Run := ⟨sparseWrite, ⟨5, 2, [⟨0, 2⟩, ⟨2, 3⟩]⟩⟩
    sparseWrite.build = .ok r ∧ [1, 0].Perm r.planOrder ∧ ∃ new : ByteArray,
      r.execute (.file ⟨#[9, 9, 9, 9]⟩) [1, 0] = (.ok ⟨r.plan, [1, 1], none⟩, .file new) ∧
      new.size = 6 ∧ ∀ p < 6, new[p]? = (⟨#[9, 9, 9, 1, 0, 3]⟩ : ByteArray)[p]? := by
  have hbuild : sparseWrite.build = .ok ⟨sparseWrite, ⟨5, 2, [⟨0, 2⟩, ⟨2, 3⟩]⟩⟩ := by rfl
  obtain ⟨-, -, new, hrun, hsize, hbytes⟩ :=
    execute_write hbuild rfl (by decide) (.file ⟨#[9, 9, 9, 9]⟩)
      (show [1, 0].Perm _ by decide)
  have hsize : new.size = 6 := hsize.trans (by decide)
  refine ⟨hbuild, by decide, new, hrun, hsize, fun p hp => ?_⟩
  rw [hbytes p (hsize ▸ hp)]
  interval_cases p <;> rfl

end Run

end StripeTransfer
