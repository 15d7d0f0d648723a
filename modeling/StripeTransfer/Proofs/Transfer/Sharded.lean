/-
StripeTransfer/Proofs/Transfer/Sharded.lean

Several processes write one file.  Each process writes its shard by one run, with
a strategy, a number of workers and a block size of its own; all of them take
their bytes from one pattern, at the place of the shard.  After any number of
processes the file holds the pattern on their shards, reaches to the end of each
of them, and holds zeros elsewhere (`Shard.Written`).  Every process preserves
this whatever it chooses (`Shard.write_ok`), so the order in which the processes
take their turns does not matter: once all have written, the file is the pattern
file (`Shard.writeInTurn_eq_content`).

No call can address more than `maxOffset` bytes, so the files are no longer than
this; over a longer one not even a mapping can be made
(`Shard.writeInTurn_beyond`).
-/
import StripeTransfer.Proofs.Extent.Owners
import StripeTransfer.Proofs.Pattern
import StripeTransfer.Proofs.Transfer.WriteRun
import Mathlib

namespace StripeTransfer

/-! ### Processes -/

/-- What a process chooses for its run. -/
structure Choice where
  strategy : Strategy
  workers : Nat
  blockSize : Option Nat
  sync : SyncPolicy
  /-- The page size of the system of the process. -/
  pageSize : PageSize := .standard
  /-- The order in which the workers of a run are executed. -/
  order : Run → List Nat
  workers_pos : 0 < workers
  blockSize_ne : blockSize ≠ some 0
  order_perm : ∀ r, (order r).Perm r.planOrder

namespace Shard

variable {path : String} {total world : Nat} {c : Choice} {s : Shard} {slot : Slot}
  {old : ByteArray}

/-- The run by which a process writes its shard of the pattern. -/
def writer (s : Shard) (path : String) (total : Nat) (c : Choice) : RunSpec :=
  { path, extent := (s.span total).length, workers := c.workers, mode := .write,
    strategy := c.strategy, base := (s.span total).offset, sync := c.sync,
    blockSize := c.blockSize, pageSize := c.pageSize }

/-- Builds and carries out the run of one process. -/
def write (s : Shard) (path : String) (total : Nat) (c : Choice) (slot : Slot) :
    Except TransferError Slot :=
  match (s.writer path total c).build with
  | .error e => .error e
  | .ok r =>
    match r.execute slot (c.order r) with
    | (.error e, _) => .error e
    | (.ok _, slot) => .ok slot

/-- Carries out the runs of several processes, one after the other. -/
def writeInTurn (path : String) (total : Nat) (choice : Shard → Choice) (turns : List Shard)
    (slot : Slot) : Except TransferError Slot :=
  turns.foldlM (fun slot s => s.write path total (choice s) slot) slot

/-! ### The invariant -/

/-- The file after some processes have written their shards. -/
structure Written (total : Nat) (done : List Shard) (content : ByteArray) : Prop where
  size_le : content.size ≤ total
  reach : ∀ s ∈ done, 0 < (s.span total).length → (s.span total).stop ≤ content.size
  octet_eq : ∀ p, octet content p =
    if ∃ s ∈ done, p ∈ s.span total then Pattern.byteAt p else 0

theorem written_nil (total : Nat) : Written total [] ByteArray.empty where
  size_le := Nat.zero_le total
  reach s hs := absurd hs List.not_mem_nil
  octet_eq p := by simp

/-- What was reached before is reached after, and the shard written last is reached as well. -/
theorem Written.write {r : Run} {order : List Nat} {done : List Shard}
    (hinv : Written total done old) (hready : r.Ready) (horder : order.Perm r.planOrder)
    (hdivisor : r.plan.divisor = 1) (hextent : r.plan.extent = (s.span total).length)
    (hbase : r.spec.base = (s.span total).offset) (hstop : (s.span total).stop ≤ total)
    (hdata : ∀ i < r.plan.extent, octet r.data i = Pattern.byteAt (r.spec.base + i)) :
    Written total (done ++ [s]) (r.result old order) := by
  have hrequired : r.requiredLength = (s.span total).stop := by
    rw [Run.requiredLength, hbase, hextent, Span.stop]
  have hsize := hready.size_result horder old
  have hsampled (p : Nat) : (r.spec.base ≤ p ∧ r.plan.Sampled (p - r.spec.base)) ↔
      p ∈ s.span total := by
    rw [hready.complete.sampled_iff hdivisor, hextent, hbase, Span.mem_iff, Span.stop]
    omega
  refine ⟨?_, ?_, fun p => ?_⟩
  · have hle := hready.writtenStop_le
    have hold := hinv.size_le
    rw [hsize]
    split_ifs <;> omega
  · intro t ht hpos
    rcases List.mem_append.mp ht with ht | ht
    · have hreach := hinv.reach t ht hpos
      rw [hsize]
      exact hreach.trans (le_max_left _ _)
    · obtain rfl := List.mem_singleton.mp ht
      rw [hsize, hready.writtenStop_eq hdivisor (hextent ▸ hpos), ite_self, hrequired]
      exact le_max_right _ _
  · have hdone : (∃ t ∈ done ++ [s], p ∈ t.span total) ↔
        (∃ t ∈ done, p ∈ t.span total) ∨ p ∈ s.span total := by
      simp [or_and_right, exists_or]
    rw [hready.octet_result horder, hinv.octet_eq, if_congr (hsampled p) rfl rfl]
    by_cases hp : p ∈ s.span total
    · have hplace : r.spec.base + (p - r.spec.base) = p := by
        rw [hbase]
        exact Nat.add_sub_cancel' hp.1
      have hlt : p - r.spec.base < r.plan.extent :=
        hready.complete.lt_of_sampled ((hsampled p).mpr hp).2
      rw [if_pos hp, if_pos (hdone.mpr (Or.inr hp)), hdata _ hlt, hplace]
    · have hbefore : (∃ t ∈ done, p ∈ t.span total) ↔ ∃ t ∈ done ++ [s], p ∈ t.span total := by
        rw [hdone, or_iff_left hp]
      rw [if_neg hp, if_congr hbefore rfl rfl]

/-! ### Turns -/

/-- The run of a process can be started, whatever it chooses. -/
theorem writer_build (s : Shard) (path : String) (total : Nat) (c : Choice) :
    ∃ r, (s.writer path total c).build = .ok r :=
  RunSpec.build_ok_of_pos c.blockSize_ne rfl c.workers_pos rfl

/-- **Every process succeeds and preserves the invariant**, whatever it chooses. -/
theorem write_ok {done : List Shard} (hinv : Written total done old) (hslot : slot.Holds old)
    (htotal : total ≤ maxOffset) (s : Shard) (path : String) (c : Choice) :
    ∃ new, s.write path total c slot = .ok (.file new) ∧ Written total (done ++ [s]) new := by
  obtain ⟨r, hbuild⟩ := s.writer_build path total c
  have hspan : (s.span total).stop ≤ total := by
    have hpos : 0 < s.world := (Nat.zero_le _).trans_lt s.rank_lt
    exact ((spans_contiguous total hpos).bounds (List.mem_map_of_mem (mem_all.mpr rfl))).2
  have hready : r.Ready := RunSpec.ready_of_build hbuild (hspan.trans htotal)
  obtain ⟨hextent, hdivisor⟩ := RunSpec.parameters_of_build hbuild
  have hspec := RunSpec.spec_of_build hbuild
  have hdata (i : Nat) (hi : i < r.plan.extent) :
      octet r.data i = Pattern.byteAt (r.spec.base + i) := by
    rw [hextent] at hi
    have hword : (s.span total).offset + (s.span total).length ≤ 2 ^ 64 :=
      (hspan.trans htotal).trans (by decide)
    rw [RunSpec.data_of_build hbuild, hspec]
    exact Pattern.octet_window hword hi
  have hrun := hready.write_eq hslot (c.order_perm r)
  refine ⟨r.result old (c.order r), ?_, ?_⟩
  · have hmode : r.spec.mode = .write := by rw [hspec]; rfl
    simp only [write, hbuild, Run.execute, hmode, hrun]
  · exact hinv.write hready (c.order_perm r) hdivisor hextent (by rw [hspec]; rfl) hspan hdata

/-- Several processes in turn, when the file is there. -/
theorem writeInTurn_ok {done : List Shard} (hinv : Written total done old)
    (htotal : total ≤ maxOffset) (path : String) (choice : Shard → Choice) (turns : List Shard) :
    ∃ new, writeInTurn path total choice turns (.file old) = .ok (.file new) ∧
      Written total (done ++ turns) new := by
  induction turns generalizing done old with
  | nil => exact ⟨old, rfl, by rwa [List.append_nil]⟩
  | cons s rest ih =>
    obtain ⟨mid, hmid, hinv⟩ := write_ok hinv (.file old) htotal s path (choice s)
    obtain ⟨new, hnew, hinv⟩ := ih hinv
    refine ⟨new, ?_, by simpa using hinv⟩
    rw [writeInTurn, List.foldlM_cons, hmid]
    exact hnew

/-- Once all processes have written, nothing but the pattern is left. -/
theorem Written.eq_content {content : ByteArray} {done : List Shard}
    (hinv : Written total done content) (htotal : total ≤ maxOffset) (hw : 0 < world)
    (hdone : ∀ s ∈ all world, s ∈ done) : content = PatternFile.content total := by
  have hsize : content.size = total := by
    refine le_antisymm hinv.size_le ?_
    by_cases hpos : total = 0
    · omega
    · obtain ⟨s, hs, hmem⟩ := exists_mem_span hw (Nat.sub_one_lt hpos)
      have hlength : 0 < (s.span total).length := by
        have := hmem.1.trans_lt hmem.2
        simp only [Span.stop] at this
        omega
      have hreach := hinv.reach s (hdone s hs) hlength
      have hlast := hmem.2
      omega
  have hword : total ≤ 2 ^ 64 := htotal.trans (by decide)
  rw [PatternFile.content_eq_window hword]
  refine ext_octet (by rw [hsize, Pattern.size_window]) fun p hp => ?_
  rw [hsize] at hp
  obtain ⟨s, hs, hmem⟩ := exists_mem_span hw hp
  rw [hinv.octet_eq, if_pos ⟨s, hdone s hs, hmem⟩,
    Pattern.octet_window ((Nat.zero_add total).trans_le hword) hp, Nat.zero_add]

/-- **Processes that share a file agree on it.**  If every rank of a job writes its shard once, in
any order of the ranks, each with any strategy, any workers and any block size, then all of them
succeed, and the file is the one that the pattern is written to by a single process: all its bytes
are those of the pattern. -/
theorem writeInTurn_eq_content (path : String) {total world : Nat} (hw : 0 < world)
    (htotal : total ≤ maxOffset) (choice : Shard → Choice) {turns : List Shard}
    (hturns : turns.Perm (all world)) :
    writeInTurn path total choice turns .vacant = .ok (.file (PatternFile.content total)) ∧
      (PatternFile.content total).size = total ∧
      ∀ o < total, (PatternFile.content total)[o]? = some (Pattern.byteAt o) := by
  have hmem {s : Shard} (hs : s ∈ all world) : s ∈ turns := hturns.mem_iff.mpr hs
  have hword : total ≤ 2 ^ 64 := htotal.trans (by decide)
  refine ⟨?_, ?_, fun o ho => ?_⟩
  · cases turns with
    | nil => exact absurd (hmem (s := ⟨0, world, hw⟩) (mem_all.mpr rfl)) List.not_mem_nil
    | cons s rest =>
      -- the first process creates the file, and all others find it
      obtain ⟨mid, hmid, hinv⟩ :=
        write_ok (written_nil total) .vacant htotal s path (choice s)
      obtain ⟨new, hnew, hinv⟩ := writeInTurn_ok hinv htotal path choice rest
      rw [writeInTurn, List.foldlM_cons, hmid, ← hinv.eq_content htotal hw fun t ht => hmem ht]
      exact hnew
  · rw [PatternFile.content_eq_window hword, Pattern.size_window]
  · rw [PatternFile.content_eq_window hword, getElem?_eq_octet (by rwa [Pattern.size_window]),
      Pattern.octet_window ((Nat.zero_add total).trans_le hword) ho, Nat.zero_add]

/-- Every rank has a strategy and a number of workers of its own, and executes its workers from the
last one to the first. -/
def mixed (s : Shard) : Choice where
  strategy := if s.rank = 0 then .mapped else if s.rank = 1 then .buffered else .unbuffered
  workers := s.rank + 1
  blockSize := some 3
  sync := .never
  order r := r.planOrder.reverse
  workers_pos := Nat.succ_pos s.rank
  blockSize_ne := by decide
  order_perm r := List.reverse_perm r.planOrder

/-- Ten bytes among three ranks, of which the last one writes first. -/
theorem writeInTurn_eq_content_three :
    let turns : List Shard := [⟨2, 3, by decide⟩, ⟨0, 3, by decide⟩, ⟨1, 3, by decide⟩]
    (0 < 3 ∧ 10 ≤ maxOffset ∧ turns.Perm (all 3)) ∧
      writeInTurn "f.bin" 10 mixed turns .vacant = .ok (.file (PatternFile.content 10)) ∧
      (PatternFile.content 10).size = 10 ∧
      ∀ o < 10, (PatternFile.content 10)[o]? = some (Pattern.byteAt o) := by
  intro turns
  have hturns : turns.Perm (all 3) := by decide
  exact ⟨⟨by decide, by decide, hturns⟩,
    writeInTurn_eq_content "f.bin" (by decide) (by decide) mixed hturns⟩

/-! ### Files that are too long -/

/-- A mapping cannot be made over a shard that ends beyond what the system can address. -/
theorem write_beyond (hslot : slot.Holds old) (hmapped : c.strategy = .mapped)
    (hbeyond : maxOffset < (s.span total).stop) (path : String) :
    s.write path total c slot = .error (.io ⟨.extend path, .badOffset⟩) := by
  obtain ⟨r, hbuild⟩ := s.writer_build path total c
  obtain ⟨hextent, -⟩ := RunSpec.parameters_of_build hbuild
  have hspec := RunSpec.spec_of_build hbuild
  have hrequired : r.requiredLength = (s.span total).stop := by
    rw [Run.requiredLength, hextent, hspec]
    rfl
  have hpages : r.spec.strategy.needsPages = true := by
    rw [hspec, Strategy.needsPages_iff]
    exact hmapped
  have hmode : r.spec.mode = .write := by rw [hspec]; rfl
  have hextend := Run.ensureLength_beyond hslot (hrequired ▸ hbeyond)
  have hpath : r.spec.path = path := by rw [hspec]; rfl
  simp only [write, hbuild, Run.execute, hmode, Run.write, if_pos hpages, hextend, hpath]

/-- A single process that writes one byte more than the system can address, through a mapping,
leaves no pattern file behind. -/
theorem writeInTurn_beyond :
    [single].Perm (all 1) ∧
      writeInTurn "f.bin" (maxOffset + 1) mixed [single] .vacant =
        .error (.io ⟨.extend "f.bin", .badOffset⟩) ∧
      ¬ ∀ total world : Nat, 0 < world → ∀ choice turns, turns.Perm (all world) →
        writeInTurn "f.bin" total choice turns .vacant =
          .ok (.file (PatternFile.content total)) := by
  have hturns : [single].Perm (all 1) := by decide
  have hfails : writeInTurn "f.bin" (maxOffset + 1) mixed [single] .vacant =
      .error (.io ⟨.extend "f.bin", .badOffset⟩) := by
    rw [writeInTurn, List.foldlM_cons, write_beyond .vacant rfl (by decide)]
    rfl
  refine ⟨hturns, hfails, fun hclaim => ?_⟩
  have hok := hclaim (maxOffset + 1) 1 one_pos mixed [single] hturns
  rw [hfails] at hok
  cases hok

end Shard

end StripeTransfer
