/-
StripeTransfer/Proofs/Upload/Copies.lean

Every way to bring a file into memory works, and all of them give the same parts.
A run that reads in parallel finds every byte of the file, whatever the number of
its workers and the order in which they are executed, so a preloaded copy is the
file (`PartSource.preload_ok`).  With that, a source of any mode can be prepared,
and hands out every range of the file (`PartSource.prepare_ok`).
-/
import StripeTransfer.Proofs.Upload.Source
import Mathlib

namespace StripeTransfer

namespace Run

variable {r : Run} {file : ByteArray} {order : List Nat}

/-- An unbuffered run without sampling over the whole of a file gives back the file, and counts its
bytes. -/
theorem Ready.read_whole (h : r.Ready) (hdivisor : r.plan.divisor = 1) (hbase : r.spec.base = 0)
    (hextent : r.plan.extent = file.size) (hunbuffered : r.spec.strategy = .unbuffered)
    (horder : order.Perm r.planOrder) : ∃ report, r.read (.file file) order = .ok report ∧
      report.total = file.size ∧ report.buffer = some file := by
  have hplain : r.spec.strategy ≠ .buffered := by rw [hunbuffered]; decide
  have hrequired : r.requiredLength = file.size := by
    rw [requiredLength, hbase, hextent, Nat.zero_add]
  have himage := (h.image_full hdivisor hrequired.le).1
  refine ⟨_, h.read_eq horder fun hbuffered => absurd hbuffered hplain, ?_, ?_⟩
  · -- the targets of the workers fill the file
    show ((r.plan.assignments r.spec.base).map (available file)).sum = file.size
    rw [total_available h.complete hdivisor, hextent, hbase, Nat.sub_zero, Nat.min_self]
  · show some (r.image file) = some file
    rw [himage, hrequired, hbase]
    exact congrArg some (extract_of_size_le le_rfl)

end Run

namespace PartSource

variable {path : String} {content : ByteArray} {parts : Nat} {mode : SourceMode}
  {source : PartSource} {range : Span}

/-! ### Preloaded copies -/

/-- The run that preloads a file: one worker for each part. -/
def preloadSpec (path : String) (size parts : Nat) : RunSpec :=
  { path, extent := size, workers := parts, sync := .never }

/-- **The run that preloads a file gives back the file**, for any number of workers that are executed
in any order. -/
theorem preload_run_ok (path : String) (hreach : content.size ≤ maxOffset) (hparts : 0 < parts) :
    ∃ run, (preloadSpec path content.size parts).build = .ok run ∧
      ∀ order, order.Perm run.planOrder → ∃ report, run.read (.file content) order = .ok report ∧
        report.total = content.size ∧ report.buffer = some content := by
  obtain ⟨run, hbuild⟩ := RunSpec.build_ok_of_pos (s := preloadSpec path content.size parts)
    nofun rfl hparts rfl
  refine ⟨run, hbuild, fun order horder => ?_⟩
  obtain ⟨hextent, hdivisor⟩ := RunSpec.parameters_of_build hbuild
  have hspec := RunSpec.spec_of_build hbuild
  have hready := RunSpec.ready_of_build hbuild ((Nat.zero_add _).trans_le hreach)
  exact hready.read_whole hdivisor (by rw [hspec]; rfl) hextent (by rw [hspec]; rfl) horder

/-- **A preloaded copy is the file.** -/
theorem preload_ok (path : String) (hreach : content.size ≤ maxOffset) (hparts : 0 < parts) :
    preload path content.size parts (.file content) = .ok (.memory content) := by
  obtain ⟨run, hbuild, hread⟩ := preload_run_ok path hreach hparts
  obtain ⟨report, hreport, htotal, hbuffer⟩ := hread run.planOrder (List.Perm.refl _)
  rw [preloadSpec] at hbuild
  simp [preload, hbuild, hreport, htotal, hbuffer]

/-! ### Sources of any mode -/

/-- A range of a file that calls can address is read on demand. -/
theorem readRange_ok (hreach : content.size ≤ maxOffset) (hrange : range.stop ≤ content.size) :
    readRange path (.file content) range = .ok (range.slice content) := by
  unfold readRange
  by_cases hempty : range.length = 0
  · simp only [Slot.openRead, if_pos hempty]
    rw [Span.slice, Span.stop, hempty, Nat.add_zero, ByteArray.extract_same]
  · have haddress : range.offset + range.length ≤ maxOffset := hrange.trans hreach
    have hread : Slot.Readable.readAt (.content content) range.offset range.length =
        .ok (range.slice content) := if_neg (not_lt.mpr haddress)
    have hfull : ¬ (range.slice content).size < range.length := by
      rw [Buffer.size_slice hrange]
      exact lt_irrefl _
    simp only [Slot.openRead, if_neg hempty, hread, if_neg hfull]

/-- **A source of any mode can be prepared, and hands out every range of the file.** -/
theorem prepare_ok (path : String) (mode : SourceMode) (hreach : content.size ≤ maxOffset)
    (hparts : 0 < parts) : ∃ source, prepare path content.size parts mode (.file content) = .ok source ∧
      ∀ range : Span, range.stop ≤ content.size → source.read range = .ok (range.slice content) := by
  have hmemory (range : Span) (hrange : range.stop ≤ content.size) :
      read (.memory content) range = .ok (range.slice content) := by
    simp only [read, Span.slice?, if_pos hrange]
  cases mode with
  | onDemand =>
    refine ⟨_, rfl, fun range hrange => ?_⟩
    simp only [read, readRange_ok hreach hrange]
  | preload => exact ⟨_, preload_ok path hreach hparts, hmemory⟩
  | map =>
    by_cases hempty : content.size = 0
    · obtain rfl := ByteArray.size_eq_zero_iff.mp hempty
      exact ⟨_, rfl, hmemory⟩
    · exact ⟨_, if_neg hempty, hmemory⟩

end PartSource

end StripeTransfer
