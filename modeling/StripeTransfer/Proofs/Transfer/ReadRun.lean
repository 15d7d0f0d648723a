/-
StripeTransfer/Proofs/Transfer/ReadRun.lean

What a reading run gives back.  The buffer that it should give is known in
advance (`Run.image`): the sampled bytes of the extent come from the file, and
all else is zero, also what lies behind the end of the file.  A worker that has
read its target leaves in its region just the slice of this image
(`Run.Ready.readRegion_eq`); the regions put together are the image, in whatever
order the workers were executed.

Buffered workers want every byte of their targets, so a run of them fails if one
target is not within the file (`Run.Ready.readRegion_short`).
-/
import StripeTransfer.Proofs.Buffer
import StripeTransfer.Proofs.Tasks
import StripeTransfer.Proofs.Transfer.Run
import Mathlib

namespace StripeTransfer

namespace Run

variable {r : Run} {file : ByteArray} {order : List Nat} {i : Nat} {s : Span}

/-! ### The image -/

/-- The buffer that the run is to give back. -/
def image (r : Run) (file : ByteArray) : ByteArray :=
  ByteArray.ofFn fun i : Fin r.plan.extent =>
    if r.plan.Sampled i then octet file (r.spec.base + i) else 0

@[simp] theorem size_image (r : Run) (file : ByteArray) :
    (r.image file).size = r.plan.extent := by
  simp [image]

theorem octet_image (file : ByteArray) (h : i < r.plan.extent) :
    octet (r.image file) i = if r.plan.Sampled i then octet file (r.spec.base + i) else 0 :=
  octet_ofFn _ h

/-- The bytes that a worker finds in the file. -/
def available (file : ByteArray) (a : Assignment) : Nat :=
  min a.target.length (file.size - a.target.offset)

/-- Without sampling, the workers find together what the file holds of the extent. -/
theorem total_available (hcomplete : r.plan.Complete) (hdivisor : r.plan.divisor = 1)
    (file : ByteArray) : ((r.plan.assignments r.spec.base).map (available file)).sum =
      min r.plan.extent (file.size - r.spec.base) := by
  have hsum := (hcomplete.targets_contiguous hdivisor r.spec.base).sum_below file.size
  rwa [List.map_map, Nat.add_sub_cancel_left] at hsum

/-! ### One region -/

namespace Ready

/-- Reading into a region of zeros makes it the slice of the image. -/
theorem writeAt_readAt_slice (h : r.Ready) (file : ByteArray) (hs : s ∈ r.plan.spans) :
    Content.writeAt (s.slice (Buffer.zeros r.plan.extent)) 0
        (Content.readAt file (s.offset + r.spec.base) (s.length / r.plan.divisor)) =
      s.slice (r.image file) := by
  have hstop := (h.complete.contiguous.bounds hs).2
  have hzeros : (s.slice (Buffer.zeros r.plan.extent)).size = s.length :=
    Buffer.size_slice (by rwa [size_zeros])
  have himage : (s.slice (r.image file)).size = s.length :=
    Buffer.size_slice (by rwa [size_image])
  have hread := Content.size_readAt file (s.offset + r.spec.base) (s.length / r.plan.divisor)
  have hle : s.length / r.plan.divisor ≤ s.length := Nat.div_le_self _ _
  have hsize : (Content.writeAt (s.slice (Buffer.zeros r.plan.extent)) 0
      (Content.readAt file (s.offset + r.spec.base) (s.length / r.plan.divisor))).size =
        s.length := by
    rw [Content.size_writeAt, hzeros]
    split_ifs <;> omega
  refine ext_octet (hsize.trans himage.symm) fun i hi => ?_
  rw [hsize] at hi
  have hplace : s.offset + r.spec.base + i = r.spec.base + (s.offset + i) := by omega
  have hextent : s.offset + i < r.plan.extent := by
    simp only [Span.stop] at hstop
    omega
  rw [Content.octet_writeAt, Buffer.octet_slice, octet_zeros, ite_self, Buffer.octet_slice,
    if_pos hi, octet_image file hextent, Nat.sub_zero, Content.octet_readAt, hplace]
  simp only [h.complete.sampled_add_iff hs hi, hread]
  split_ifs with hmoved hlead hlead
  · rfl
  · rfl
  · -- the file ends before this byte
    exact (octet_of_le (by omega)).symm
  · rfl

/-- The region of a worker is long enough for its target. -/
theorem target_le_region (h : r.Ready) (hs : r.plan.spans[i]? = some s) :
    (r.plan.assigned r.spec.base i s).target.length ≤
      (s.slice (Buffer.zeros r.plan.extent)).size := by
  have hstop := (h.complete.contiguous.bounds (List.mem_of_getElem? hs)).2
  rw [Buffer.size_slice (by rwa [size_zeros])]
  exact h.inBounds.target _ (Plan.assigned_mem hs _)

/-- **A worker that finds what it needs leaves its slice of the image in its region.** -/
theorem readRegion_eq (h : r.Ready) (hs : r.plan.spans[i]? = some s)
    (hfile : r.spec.strategy = .buffered →
      (r.plan.assigned r.spec.base i s).target.length = 0 ∨
        (r.plan.assigned r.spec.base i s).target.stop ≤ file.size) :
    r.readRegion (.file file) (r.plan.assigned r.spec.base i s)
        (s.slice (Buffer.zeros r.plan.extent)) =
      .ok (available file (r.plan.assigned r.spec.base i s), s.slice (r.image file)) := by
  obtain ⟨a, ha⟩ : ∃ a, a = r.plan.assigned r.spec.base i s := ⟨_, rfl⟩
  have hstop : a.target.stop ≤ maxOffset :=
    (h.target_stop_le (ha ▸ Plan.assigned_mem hs _)).trans h.reach
  have hle := h.target_le_region hs
  have himage := h.writeAt_readAt_slice file (List.mem_of_getElem? hs)
  rw [← ha] at hfile hle ⊢
  -- what matters of the region is that the image can be read into it
  generalize s.slice (Buffer.zeros r.plan.extent) = region at hle himage ⊢
  have hcount : (Content.readAt file a.target.offset a.target.length).size ≤ a.target.length := by
    rw [Content.size_readAt]
    exact Nat.min_le_left _ _
  have hread := Worker.read_eq (w := r.worker) r.spec.pageSize (size_lead hle) hstop hfile
  simp only [readRegion, hread, Except.map]
  rw [Content.writeAt_lead hle hcount, ← himage, ha]
  rfl

/-- A buffered worker whose target is not within the file fails. -/
theorem readRegion_short (h : r.Ready) (hs : r.plan.spans[i]? = some s)
    (hbuffered : r.spec.strategy = .buffered)
    (hpos : 0 < (r.plan.assigned r.spec.base i s).target.length)
    (hfile : file.size < (r.plan.assigned r.spec.base i s).target.stop) :
    ∃ length offset, r.readRegion (.file file) (r.plan.assigned r.spec.base i s)
        (s.slice (Buffer.zeros r.plan.extent)) =
      .error (.io ⟨.readBlock length offset r.spec.path, .shortFile⟩) := by
  have hstop := (h.target_stop_le (Plan.assigned_mem hs _)).trans h.reach
  have hlead := size_lead (h.target_le_region hs)
  obtain ⟨b, -, hread⟩ :=
    Worker.read_buffered_short (w := r.worker) r.spec.pageSize hbuffered hlead hstop hpos hfile
  refine ⟨b.length, (r.plan.assigned r.spec.base i s).target.offset + b.offset, ?_⟩
  simp only [readRegion, hread, Except.map]
  rfl

end Ready

/-! ### The whole run -/

/-- What the workers report: each what it did with its own region. -/
theorem mem_readCompletions (horder : order.Perm r.planOrder) (slot : Slot) (buffer : ByteArray)
    {c : Completion TransferError (Nat × ByteArray)} :
    c ∈ r.readCompletions slot order (r.plan.spans.map fun s => s.slice buffer) ↔
      ∃ i s, r.plan.spans[i]? = some s ∧
        c = .returned i (r.readRegion slot (r.plan.assigned r.spec.base i s) (s.slice buffer)) := by
  have hjobs : r.readCompletions slot order (r.plan.spans.map fun s => s.slice buffer) =
      (order.filterMap fun i => ((r.plan.assignments r.spec.base).zip
        (r.plan.spans.map fun s => s.slice buffer))[i]?).map fun j =>
          .returned j.1.index (r.readRegion slot j.1 j.2) := by
    rw [List.map_filterMap]
    rfl
  rw [hjobs, List.mem_map]
  constructor
  · rintro ⟨j, hj, rfl⟩
    obtain ⟨i, s, hs, rfl⟩ := (mem_jobs horder).mp hj
    exact ⟨i, s, hs, rfl⟩
  · rintro ⟨i, s, hs, rfl⟩
    exact ⟨_, (mem_jobs horder).mpr ⟨i, s, hs, rfl⟩, rfl⟩

namespace Ready

/-- The shared buffer is cut into the regions of the workers. -/
theorem split_zeros (h : r.Ready) : Buffer.split (Buffer.zeros r.plan.extent) r.plan =
    some (r.plan.spans.map fun s => s.slice (Buffer.zeros r.plan.extent)) :=
  Buffer.split_eq h.complete (size_zeros _)

/-- **A reading run gives back the image**, if the file holds what buffered workers want. -/
theorem read_eq (h : r.Ready) (horder : order.Perm r.planOrder)
    (hfile : r.spec.strategy = .buffered → r.plan.TargetsWithin r.spec.base file.size) :
    r.read (.file file) order =
      .ok ⟨r.plan, (r.plan.assignments r.spec.base).map (available file),
        some (r.image file)⟩ := by
  let value (a : Assignment) : Nat × ByteArray := (available file a, a.region.slice (r.image file))
  have hregion {i : Nat} {s : Span} (hs : r.plan.spans[i]? = some s) :
      r.readRegion (.file file) (r.plan.assigned r.spec.base i s)
        (s.slice (Buffer.zeros r.plan.extent)) = .ok (value (r.plan.assigned r.spec.base i s)) :=
    h.readRegion_eq hs fun hbuffered =>
      (Nat.eq_zero_or_pos _).imp_right (hfile hbuffered _ (Plan.assigned_mem hs _))
  have hjoin : joined (Tasks.joinAll r.plan.workerCount (r.readCompletions (.file file) order
      (r.plan.spans.map fun s => s.slice (Buffer.zeros r.plan.extent)))) =
        .ok ((r.plan.assignments r.spec.base).map value) := by
    refine joined_of_returned fun c => ?_
    rw [mem_readCompletions horder]
    constructor
    · rintro ⟨i, s, hs, rfl⟩
      exact ⟨i, s, hs, by rw [hregion hs]⟩
    · rintro ⟨i, s, hs, rfl⟩
      exact ⟨i, s, hs, by rw [hregion hs]⟩
  have hbuffers : ((r.plan.assignments r.spec.base).map value).map Prod.snd =
      r.plan.spans.map fun s => s.slice (r.image file) := by
    rw [← Plan.map_region_assignments r.plan r.spec.base, List.map_map, List.map_map]
    rfl
  have hmoved : ((r.plan.assignments r.spec.base).map value).map Prod.fst =
      (r.plan.assignments r.spec.base).map (available file) := by
    rw [List.map_map]
    rfl
  simp only [read, h.split_zeros, hjoin, bind, Except.bind, pure, Except.pure, hbuffers,
    hmoved, Buffer.join_eq h.complete (size_image r file)]

/-- **A buffered run fails if some target is not within the file.** -/
theorem read_short (h : r.Ready) (horder : order.Perm r.planOrder)
    (hbuffered : r.spec.strategy = .buffered)
    (hfile : ¬ r.plan.TargetsWithin r.spec.base file.size) :
    ∃ length offset, r.read (.file file) order =
      .error (.io ⟨.readBlock length offset r.spec.path, .shortFile⟩) := by
  simp only [Plan.TargetsWithin, not_forall, not_le] at hfile
  obtain ⟨a, ha, hpos, hshort⟩ := hfile
  obtain ⟨i, hi⟩ := List.getElem?_of_mem ha
  rw [Plan.getElem?_assignments] at hi
  obtain ⟨s, hs, rfl⟩ := Option.map_eq_some_iff.mp hi
  obtain ⟨_, _, hfailed⟩ := h.readRegion_short hs hbuffered hpos hshort
  have hreported := (mem_readCompletions horder (.file file)
    (Buffer.zeros r.plan.extent)).mpr ⟨i, s, hs, rfl⟩
  rw [hfailed] at hreported
  have hlost : Completion.lost ∉ r.readCompletions (.file file) order
      (r.plan.spans.map fun s => s.slice (Buffer.zeros r.plan.extent)) := by
    intro hmem
    obtain ⟨_, _, -, heq⟩ := (mem_readCompletions horder _ _).mp hmem
    cases heq
  obtain ⟨j, e, hmem, hjoin⟩ := Tasks.joinAll_of_error hlost hreported r.plan.workerCount
  -- whichever failure comes first, it is that of a worker whose target is not within the file
  obtain ⟨k, t, ht, heq⟩ := (mem_readCompletions horder _ _).mp hmem
  obtain ⟨-, herror⟩ := Completion.returned.inj heq
  have hread : r.read (.file file) order = .error e := by
    simp only [read, h.split_zeros, hjoin, joined, bind, Except.bind]
  by_cases hfits : (r.plan.assigned r.spec.base k t).target.length = 0 ∨
      (r.plan.assigned r.spec.base k t).target.stop ≤ file.size
  · rw [h.readRegion_eq ht fun _ => hfits] at herror
    cases herror
  · rw [not_or, not_le] at hfits
    obtain ⟨length, offset, hfailed⟩ :=
      h.readRegion_short ht hbuffered (Nat.pos_of_ne_zero hfits.1) hfits.2
    rw [hfailed] at herror
    exact ⟨length, offset, hread.trans (by rw [Except.error.inj herror])⟩

/-- Without sampling, and if the file is long enough, the image is the extent of the file, and every
worker finds all of its target. -/
theorem image_full (h : r.Ready) (hdivisor : r.plan.divisor = 1)
    (hfile : r.requiredLength ≤ file.size) :
    r.image file = file.extract r.spec.base r.requiredLength ∧
      ∀ a ∈ r.plan.assignments r.spec.base, available file a = a.target.length := by
  rw [requiredLength] at hfile ⊢
  refine ⟨ext_octet ?_ fun i hi => ?_, fun a ha => ?_⟩
  · rw [size_image, ByteArray.size_extract]
    omega
  · rw [size_image] at hi
    rw [octet_image file hi, if_pos ((h.complete.sampled_iff hdivisor).mpr hi), octet_extract,
      if_pos (Nat.add_lt_add_left hi _)]
  · have hstop := h.target_stop_le ha
    simp only [Span.stop, requiredLength] at hstop
    exact Nat.min_eq_left (by omega)

end Ready

/-- **What a reading run gives back.**  No region of the shared buffer and no slice of a region
leaves what it is taken from.  The buffer holds the sampled bytes as far as the file reaches, and zeros
elsewhere; every worker reports what it found.  Only a buffered run can fail, and it fails just if
some target that holds any byte is not within the file.  So without sampling, any run over a part of
the file gives back this part. -/
theorem execute_read {s : RunSpec} {r : Run} {file : ByteArray} {order : List Nat}
    (hbuild : s.build = .ok r) (hmode : s.mode = .read) (hreach : s.base + s.extent ≤ maxOffset)
    (horder : order.Perm r.planOrder) :
    (r.InBounds ∧ r.plan.divisor = s.divisor ∧
      ∃ regions, Buffer.split (Buffer.zeros s.extent) r.plan = some regions) ∧
    (s.strategy ≠ .buffered ∨ r.plan.TargetsWithin s.base file.size → ∃ buffer : ByteArray,
      r.execute (.file file) order =
        (.ok ⟨r.plan, (r.plan.assignments s.base).map fun a =>
          min a.target.length (file.size - a.target.offset), some buffer⟩, .file file) ∧
      buffer.size = s.extent ∧ ∀ i < s.extent, buffer[i]? =
        if r.plan.Sampled i ∧ s.base + i < file.size then file[s.base + i]? else some 0) ∧
    (s.strategy = .buffered → ¬ r.plan.TargetsWithin s.base file.size → ∃ length offset,
      r.execute (.file file) order =
        (.error (.io ⟨.readBlock length offset s.path, .shortFile⟩), .file file)) ∧
    (s.divisor = 1 → s.base + s.extent ≤ file.size →
      r.execute (.file file) order =
        (.ok ⟨r.plan, (r.plan.assignments s.base).map fun a => a.target.length,
          some (file.extract s.base (s.base + s.extent))⟩, .file file)) := by
  have hready := RunSpec.ready_of_build hbuild hreach
  obtain ⟨hextent, hdivisor⟩ := RunSpec.parameters_of_build hbuild
  obtain rfl := RunSpec.spec_of_build hbuild
  have hexecute (slot : Slot) : r.execute slot order = (r.read slot order, slot) := by
    rw [execute, hmode]
  refine ⟨⟨hready.inBounds, hdivisor, _, hextent ▸ hready.split_zeros⟩, ?_, ?_, ?_⟩
  · intro hfile
    refine ⟨r.image file, ?_, (size_image r file).trans hextent, fun i hi => ?_⟩
    · rw [hexecute, hready.read_eq horder fun hs => hfile.resolve_left (not_not.mpr hs)]
      rfl
    · rw [← hextent] at hi
      rw [getElem?_eq_octet (by rwa [size_image]), octet_image file hi]
      split_ifs with hsampled hfound hfound
      · exact (getElem?_eq_octet hfound.2).symm
      · rw [octet_of_le (not_lt.mp fun hlt => hfound ⟨hsampled, hlt⟩)]
      · exact absurd hfound.1 hsampled
      · rfl
  · intro hbuffered hfile
    obtain ⟨length, offset, hread⟩ := hready.read_short horder hbuffered hfile
    exact ⟨length, offset, by rw [hexecute, hread]⟩
  · intro hfull hfile
    rw [← hextent] at hfile
    obtain ⟨himage, hfound⟩ := hready.image_full (hdivisor.trans hfull) hfile
    have hwithin : r.plan.TargetsWithin r.spec.base file.size := fun a ha _ =>
      (hready.target_stop_le ha).trans hfile
    rw [hexecute, hready.read_eq horder fun _ => hwithin, himage, List.map_congr_left hfound,
      requiredLength, hextent]

/-- Two workers that read one byte at a time over the end of a file. -/
def shortRead : RunSpec :=
  { path := "f.bin", extent := 5, workers := 2, strategy := .unbuffered, base := 2,
    blockSize := some 1 }

/-- The last worker goes first, and the end of the buffer stays zero. -/
theorem execute_read_short_file :
    let r : Run := ⟨shortRead, ⟨5, 1, [⟨0, 2⟩, ⟨2, 3⟩]⟩⟩
    shortRead.build = .ok r ∧ [1, 0].Perm r.planOrder ∧ ∃ buffer : ByteArray,
      r.execute (.file ⟨#[1, 2, 3, 4, 5]⟩) [1, 0] =
        (.ok ⟨r.plan, [2, 1], some buffer⟩, .file ⟨#[1, 2, 3, 4, 5]⟩) ∧
      buffer.size = 5 ∧ ∀ i < 5, buffer[i]? = (⟨#[3, 4, 5, 0, 0]⟩ : ByteArray)[i]? := by
  have hbuild : shortRead.build = .ok ⟨shortRead, ⟨5, 1, [⟨0, 2⟩, ⟨2, 3⟩]⟩⟩ := by rfl
  obtain ⟨buffer, hrun, hsize, hbytes⟩ :=
    (execute_read hbuild rfl (by decide) (show [1, 0].Perm _ by decide)).2.1 (.inl (by decide))
  refine ⟨hbuild, by decide, buffer, hrun, hsize, fun i hi => ?_⟩
  rw [hbytes i hi]
  interval_cases i <;> rfl

end Run

end StripeTransfer
