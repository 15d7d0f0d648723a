/-
StripeTransfer/Proofs/Upload/Source.lean

What the bodies of parts are made of.  A source is prepared for a file of an
announced size, but the file may have become shorter since, or longer.  In
whatever way it is brought into memory, what a source hands out are the bytes of
the file, as many as were asked for (`PartSource.read_eq_slice`): a source that
reads on demand wants every byte of a range, and the copies that are made
beforehand are copies of the front of the file.

The preloaded copy comes from a run that reads in parallel, and that counts no
more bytes than the file has (`Run.total_le`).  So if it counts as many as were
announced, the file is not shorter; over a file so long that no call can address
its end, the run fails (`Run.read_beyond`).

A mapping has the length of the file, which is not compared with the announced
size.  This is the one case in which a range cannot be had and no error says so
(`PartSource.read_announced`).
-/
import StripeTransfer.Proofs.Transfer.ReadRun
import StripeTransfer.Upload.Source
import Mathlib

namespace StripeTransfer

/-! ### Runs over files that are too short or too long -/

namespace Run

variable {r : Run} {file : ByteArray} {order : List Nat}

/-- An unbuffered run without sampling fails, if the file holds the extent but no call can address
its end. -/
theorem read_beyond (hcomplete : r.plan.Complete) (hdivisor : r.plan.divisor = 1)
    (hunbuffered : r.spec.strategy = .unbuffered) (horder : order.Perm r.planOrder)
    (hfile : r.requiredLength ≤ file.size) (hbeyond : maxOffset < r.requiredLength)
    (hpos : 0 < r.plan.extent) : ∃ e, r.read (.file file) order = .error e := by
  -- some worker has the last byte of the extent
  obtain ⟨s, hs, hmem⟩ := hcomplete.contiguous.exists_mem (Nat.zero_le (r.plan.extent - 1))
    (Nat.sub_one_lt hpos.ne')
  have hstop := (hcomplete.contiguous.bounds hs).2
  obtain ⟨i, hi⟩ := List.getElem?_of_mem hs
  have htarget : (r.plan.assigned r.spec.base i s).target = s.shift r.spec.base := by
    rw [Plan.assigned, hdivisor, Span.sample_one]
  have hend : (s.shift r.spec.base).stop = r.requiredLength := by
    have hlast := hmem.2
    simp only [Span.stop, Span.shift, requiredLength] at hlast hstop ⊢
    omega
  have hlength : 0 < s.length := by
    have hlast := hmem.1.trans_lt hmem.2
    simp only [Span.stop] at hlast
    omega
  have hregion : (s.slice (Buffer.zeros r.plan.extent)).size = s.length :=
    Buffer.size_slice (by rwa [size_zeros])
  have hlead : ((s.slice (Buffer.zeros r.plan.extent)).extract 0 s.length).size =
      (s.shift r.spec.base).length := size_lead hregion.ge
  obtain ⟨b, hread⟩ := Worker.read_unbuffered_beyond (w := r.worker) r.spec.pageSize hunbuffered
    hlead hlength (hend.trans_le hfile) (hbeyond.trans_eq hend.symm)
  obtain ⟨e, hfailed⟩ : ∃ e, r.readRegion (.file file) (r.plan.assigned r.spec.base i s)
      (s.slice (Buffer.zeros r.plan.extent)) = .error e := by
    unfold readRegion
    rw [htarget]
    show ∃ e, Except.map _ (r.worker.read (.file file) (s.shift r.spec.base)
      ((s.slice (Buffer.zeros r.plan.extent)).extract 0 s.length) r.spec.pageSize) = _
    rw [hread]
    exact ⟨_, rfl⟩
  have hreported := (mem_readCompletions horder (.file file)
    (Buffer.zeros r.plan.extent)).mpr ⟨i, s, hi, rfl⟩
  rw [hfailed] at hreported
  have hsplit := Buffer.split_eq hcomplete (size_zeros r.plan.extent)
  cases hjoin : Tasks.joinAll r.plan.workerCount (r.readCompletions (.file file) order
      (r.plan.spans.map fun s => s.slice (Buffer.zeros r.plan.extent))) with
  | ok values => cases Tasks.failure?_eq_none hjoin hreported
  | error failure =>
    cases failure with
    | error e => exact ⟨e, by simp only [read, hsplit, hjoin, joined, bind, Except.bind]⟩
    | lost => exact ⟨.lost, by simp only [read, hsplit, hjoin, joined, bind, Except.bind]⟩

/-- If a reading run succeeds, every worker has a value, and the run counts what the workers count. -/
theorem exists_values (hcomplete : r.plan.Complete) (horder : order.Perm r.planOrder)
    {report : RunReport} (hread : r.read (.file file) order = .ok report) :
    ∃ value : Assignment → Nat × ByteArray,
      (∀ i s, r.plan.spans[i]? = some s → r.readRegion (.file file) (r.plan.assigned r.spec.base i s)
        (s.slice (Buffer.zeros r.plan.extent)) = .ok (value (r.plan.assigned r.spec.base i s))) ∧
      report.moved = (r.plan.assignments r.spec.base).map fun a => (value a).1 := by
  let zeros := Buffer.zeros r.plan.extent
  let value (a : Assignment) : Nat × ByteArray :=
    (r.readRegion (.file file) a (a.region.slice zeros)).toOption.getD (0, zeros)
  have hsplit : Buffer.split zeros r.plan = some (r.plan.spans.map fun s => s.slice zeros) :=
    Buffer.split_eq hcomplete (size_zeros _)
  simp only [read, ← show zeros = Buffer.zeros r.plan.extent from rfl, hsplit, bind,
    Except.bind] at hread
  split at hread
  next => cases hread
  next results hjoined =>
    obtain rfl := Except.ok.inj hread
    have hvalue (i : Nat) (s : Span) (hs : r.plan.spans[i]? = some s) :
        r.readRegion (.file file) (r.plan.assigned r.spec.base i s) (s.slice zeros) =
          .ok (value (r.plan.assigned r.spec.base i s)) := by
      have hnone := Tasks.failure?_eq_none (joined_eq_ok hjoined)
        ((mem_readCompletions horder (.file file) zeros).mpr ⟨i, s, hs, rfl⟩)
      show _ = Except.ok ((r.readRegion (.file file) (r.plan.assigned r.spec.base i s)
        (s.slice zeros)).toOption.getD (0, zeros))
      cases hresult : r.readRegion (.file file) (r.plan.assigned r.spec.base i s)
          (s.slice zeros) with
      | ok result => rfl
      | error e =>
        rw [hresult] at hnone
        cases hnone
    refine ⟨value, hvalue, ?_⟩
    have hvalues : joined (Tasks.joinAll r.plan.workerCount (r.readCompletions (.file file) order
        (r.plan.spans.map fun s => s.slice zeros))) =
          .ok ((r.plan.assignments r.spec.base).map value) := by
      refine joined_of_returned fun c => ?_
      rw [mem_readCompletions horder (.file file) zeros]
      constructor
      · rintro ⟨i, s, hs, rfl⟩
        exact ⟨i, s, hs, by rw [hvalue i s hs]⟩
      · rintro ⟨i, s, hs, rfl⟩
        exact ⟨i, s, hs, by rw [hvalue i s hs]⟩
    obtain rfl := Except.ok.inj (hjoined.symm.trans hvalues)
    exact List.map_map

/-- **An unbuffered run without sampling counts no more bytes than the file has** in the place of the
extent, also if no call can address all of it. -/
theorem total_le (hcomplete : r.plan.Complete) (hdivisor : r.plan.divisor = 1)
    (hunbuffered : r.spec.strategy = .unbuffered) (horder : order.Perm r.planOrder)
    {report : RunReport} (hread : r.read (.file file) order = .ok report) :
    report.total ≤ min r.plan.extent (file.size - r.spec.base) := by
  obtain ⟨value, hvalue, hmoved⟩ := exists_values hcomplete horder hread
  have hworker : ∀ a ∈ r.plan.assignments r.spec.base, (value a).1 ≤ available file a := by
    intro a ha
    obtain ⟨i, hi⟩ := List.getElem?_of_mem ha
    rw [Plan.getElem?_assignments] at hi
    obtain ⟨s, hs, rfl⟩ := Option.map_eq_some_iff.mp hi
    have hregion := hvalue i s hs
    unfold readRegion at hregion
    cases hspan : r.worker.read (.file file) (r.plan.assigned r.spec.base i s).target
        ((s.slice (Buffer.zeros r.plan.extent)).extract 0
          (r.plan.assigned r.spec.base i s).target.length) r.spec.pageSize with
    | error e =>
      simp only [hspan] at hregion
      cases hregion
    | ok result =>
      simp only [hspan] at hregion
      rw [← Except.ok.inj hregion]
      exact Worker.moved_read_unbuffered_le hunbuffered hspan
  calc report.total
      = ((r.plan.assignments r.spec.base).map fun a => (value a).1).sum := by rw [← hmoved]; rfl
    _ ≤ ((r.plan.assignments r.spec.base).map (available file)).sum := List.sum_le_sum hworker
    _ = min r.plan.extent (file.size - r.spec.base) := total_available hcomplete hdivisor file

end Run

/-! ### Sources of a file -/

namespace PartSource

variable {path : String} {content : ByteArray} {size parts : Nat} {mode : SourceMode}
  {source : PartSource} {range : Span} {data : ByteArray}

/-- What is preloaded is as much of the file as was announced, and the file has as much. -/
theorem preload_eq_ok (h : preload path size parts (.file content) = .ok source) :
    size ≤ content.size ∧ source = .memory (content.extract 0 size) := by
  simp only [preload] at h
  split at h
  next => cases h
  next r hbuild =>
    obtain ⟨hextent, hdivisor⟩ := RunSpec.parameters_of_build hbuild
    have hcomplete := RunSpec.complete_of_build hbuild (RunSpec.fitsWords_of_even rfl)
    have hspec := RunSpec.spec_of_build hbuild
    have hrequired : r.requiredLength = size := by
      rw [Run.requiredLength, hextent, hspec]
      exact Nat.zero_add _
    have hunbuffered : r.spec.strategy = .unbuffered := by rw [hspec]
    split at h
    next => cases h
    next report hreport =>
      split_ifs at h with htotal
      have hfile : size ≤ content.size := by
        have hle := Run.total_le hcomplete hdivisor hunbuffered (List.Perm.refl _) hreport
        rw [not_not.mp htotal, hspec] at hle
        exact hle.trans (Nat.min_le_right _ _)
      have hreach : size ≤ maxOffset := by
        -- otherwise no call could address the end of the file, and the run had failed
        by_contra hbeyond
        rw [not_le, ← hrequired] at hbeyond
        obtain ⟨e, herror⟩ := Run.read_beyond hcomplete hdivisor hunbuffered (List.Perm.refl _)
          (hrequired.trans_le hfile) hbeyond
          (by rw [hextent]; exact Nat.zero_lt_of_lt (hbeyond.trans_eq hrequired))
        rw [herror] at hreport
        cases hreport
      have hready : r.Ready := RunSpec.ready_of_build hbuild ((Nat.zero_add _).trans_le hreach)
      have hplain : r.spec.strategy ≠ .buffered := by rw [hunbuffered]; decide
      have himage := (hready.image_full hdivisor (hrequired.trans_le hfile)).1
      rw [hrequired, hspec] at himage
      rw [hready.read_eq (List.Perm.refl _) fun hbuffered => absurd hbuffered hplain] at hreport
      obtain rfl := Except.ok.inj hreport
      refine ⟨hfile, (Except.ok.inj h).symm.trans ?_⟩
      exact congrArg memory himage

/-- A source of a file is the file itself, or a copy of its front.  The copy is as long as was
announced, but a mapping is as long as the file. -/
theorem prepare_eq_ok (h : prepare path size parts mode (.file content) = .ok source) :
    mode = .onDemand ∧ source = .file path (.file content) ∨
    ∃ n ≤ content.size, source = .memory (content.extract 0 n) ∧
      (n = size ∨ mode = .map ∧ n = content.size) := by
  cases mode with
  | onDemand => exact Or.inl ⟨rfl, (Except.ok.inj h).symm⟩
  | preload =>
    obtain ⟨hfile, rfl⟩ := preload_eq_ok h
    exact Or.inr ⟨size, hfile, rfl, Or.inl rfl⟩
  | map =>
    unfold prepare mapFile at h
    split_ifs at h with hsize
    · refine Or.inr ⟨0, Nat.zero_le _, ?_, Or.inl hsize.symm⟩
      rw [ByteArray.extract_same]
      exact (Except.ok.inj h).symm
    · refine Or.inr ⟨content.size, le_rfl, ?_, Or.inr ⟨rfl, rfl⟩⟩
      rw [extract_of_size_le le_rfl]
      exact (Except.ok.inj h).symm

/-- A range that is read on demand has all its bytes. -/
theorem readRange_eq_ok (h : readRange path (.file content) range = .ok data) :
    data = range.slice content ∧ data.size = range.length := by
  unfold readRange at h
  by_cases hempty : range.length = 0
  · simp only [Slot.openRead, if_pos hempty] at h
    obtain rfl := Except.ok.inj h
    rw [Span.slice, Span.stop, hempty, Nat.add_zero, ByteArray.extract_same]
    exact ⟨rfl, rfl⟩
  · -- a range that is not filled is refused
    simp only [Slot.openRead, if_neg hempty] at h
    cases hread : Slot.Readable.readAt (.content content) range.offset range.length with
    | error cause =>
      rw [hread] at h
      cases h
    | ok found =>
      simp only [hread] at h
      split_ifs at h with hshort
      obtain rfl := Except.ok.inj h
      unfold Slot.Readable.readAt at hread
      split_ifs at hread
      obtain rfl := Except.ok.inj hread
      refine ⟨rfl, le_antisymm ?_ (not_lt.mp hshort)⟩
      rw [Content.size_readAt]
      exact Nat.min_le_left _ _

/-- A copy of the front of a file hands out the ranges of the file that lie in it, and no others. -/
theorem read_front {n : Nat} (hn : n ≤ content.size) : read (.memory (content.extract 0 n)) range =
    if range.stop ≤ n then .ok (range.slice content) else .error .outOfBounds := by
  have hsize : (content.extract 0 n).size = n := by
    rw [ByteArray.size_extract]
    omega
  simp only [read, Span.slice?, hsize]
  split_ifs with hrange
  · rw [Span.slice, Span.slice, ByteArray.extract_extract, Nat.zero_add, Nat.zero_add,
      Nat.min_eq_left hrange]
  · rfl

/-- **Every source of a file hands out the bytes of the file**, as many as are asked for. -/
theorem read_eq_slice (h : prepare path size parts mode (.file content) = .ok source)
    (hread : source.read range = .ok data) :
    data = range.slice content ∧ data.size = range.length := by
  rcases prepare_eq_ok h with ⟨-, rfl⟩ | ⟨n, hn, rfl, -⟩
  · cases hdata : readRange path (.file content) range with
    | error e =>
      simp only [read, hdata] at hread
      cases hread
    | ok found =>
      simp only [read, hdata] at hread
      obtain rfl := Except.ok.inj hread
      exact readRange_eq_ok hdata
  · rw [read_front hn] at hread
    split_ifs at hread with hrange
    obtain rfl := Except.ok.inj hread
    exact ⟨rfl, Buffer.size_slice (hrange.trans hn)⟩

/-! ### Files of another size than announced -/

/-- **What a source hands out, whatever size was announced for the file.**  Any range of the announced
size is handed out with the bytes of the file, as many as were asked for, or is refused; only one
that leaves a mapping is neither. -/
theorem read_announced (h : prepare path size parts mode (.file content) = .ok source)
    (hrange : range.stop ≤ size) :
    (∀ data, source.read range = .ok data →
      data = range.slice content ∧ data.size = range.length) ∧
    (source.read range = .error .outOfBounds ↔ mode = .map ∧ content.size < range.stop) := by
  refine ⟨fun data => read_eq_slice h, ?_⟩
  rcases prepare_eq_ok h with ⟨rfl, rfl⟩ | ⟨n, hn, rfl, hlength⟩
  · refine iff_of_false ?_ fun hmap => absurd hmap.1 (by decide)
    simp only [read]
    cases readRange path (.file content) range <;> nofun
  · rw [read_front hn]
    split_ifs with hwithin
    · refine iff_of_false nofun ?_
      rintro ⟨-, hshort⟩
      exact absurd (hwithin.trans hn) (not_le.mpr hshort)
    · -- a copy of the announced length has the whole range
      rcases hlength with rfl | ⟨rfl, rfl⟩
      · exact absurd hrange hwithin
      · exact iff_of_true rfl ⟨rfl, not_le.mp hwithin⟩

/-- Five bytes that were announced as eight, in two parts: the second part is lost. -/
theorem read_announced_mapped :
    let content : ByteArray := ⟨#[1, 2, 3, 4, 5]⟩
    prepare "f" 8 2 .map (.file content) = .ok (.memory content) ∧ (⟨4, 4⟩ : Span).stop ≤ 8 ∧
    read (.memory content) ⟨4, 4⟩ = .error .outOfBounds := by
  intro content
  have hprepared : prepare "f" 8 2 .map (.file content) = .ok (.memory content) := rfl
  exact ⟨hprepared, by decide, (read_announced hprepared (by decide)).2.mpr ⟨rfl, by decide⟩⟩

/-- Five bytes that were announced as eight: on demand the second part is refused, a preloaded copy
cannot be prepared, but a mapping is prepared and the second part is lost. -/
theorem prepare_shorter_than_announced :
    let slot := Slot.file "hello".toUTF8
    (∃ source, prepare "f.bin" 8 2 .onDemand slot = .ok source ∧
      source.read ⟨4, 4⟩ = .error (.error (.io ⟨.readSpan ⟨4, 4⟩ "f.bin", .shortFile⟩))) ∧
    prepare "f.bin" 8 2 .preload slot = .error (.io ⟨.preload "f.bin", .endOfFile⟩) ∧
    ∃ source, prepare "f.bin" 8 2 .map slot = .ok source ∧
      source.read ⟨4, 4⟩ = .error .outOfBounds := by
  exact ⟨⟨_, rfl, rfl⟩, rfl, _, rfl, rfl⟩

end PartSource

end StripeTransfer
