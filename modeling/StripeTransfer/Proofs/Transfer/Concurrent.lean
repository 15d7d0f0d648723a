/-
StripeTransfer/Proofs/Transfer/Concurrent.lean

Several processes write one file through mappings at the same time, and their
steps interleave.  The file gets shorter only when a process acts on a stale view
of its size (`SharedFile.length_step_lt_iff`).  Where this never happens the file
only grows, and every process that has set the size keeps all it needs
(`Shard.length_concurrent`).  It does happen as soon as there are two ranks
(`Shard.length_concurrent_stale`).

A process that is alone does in its steps what its run does
(`Run.execute_eq_after`).
-/
import StripeTransfer.Proofs.Transfer.Process
import StripeTransfer.Proofs.Transfer.Sharded
import Mathlib

namespace StripeTransfer

/-! ### Files with several processes -/

/-- A file, and the processes that write it. -/
structure SharedFile where
  slot : Slot
  processes : List Process

/-- A step of one of the processes. -/
structure Move where
  rank : Nat
  action : Action

namespace SharedFile

/-- A file at which no process has looked yet. -/
def untouched (slot : Slot) (runs : List Run) : SharedFile :=
  ⟨slot, runs.map fun r => ⟨r, .start⟩⟩

/-- The file after a step of one process. -/
def step (f : SharedFile) (m : Move) : SharedFile :=
  match f.processes[m.rank]? with
  | none => f
  | some p =>
    let (p, slot) := p.act f.slot m.action
    ⟨slot, f.processes.set m.rank p⟩

/-- The file after several steps. -/
def after (f : SharedFile) (moves : List Move) : SharedFile := moves.foldl step f

/-- The size of the file. -/
def length (f : SharedFile) : Nat := f.slot.length

/-- The process of a rank is about to cut the file. -/
def Stale (f : SharedFile) (rank : Nat) : Prop :=
  ∃ p, f.processes[rank]? = some p ∧ p.Stale f.slot

/-- The process of a rank has set the size of the file. -/
def Extended (f : SharedFile) (rank : Nat) : Prop :=
  ∃ p, f.processes[rank]? = some p ∧ p.phase = .extended

/-- All processes write through mappings. -/
def Mapped (f : SharedFile) : Prop := ∀ p ∈ f.processes, p.run.spec.strategy = .mapped

variable {f : SharedFile} {m : Move} {moves : List Move}

/-- A step changes nothing, or it is the step of a process that is there. -/
theorem step_cases (hmapped : f.Mapped) (m : Move) :
    (f.processes[m.rank]? = none ∧ f.step m = f) ∨
      ∃ p q slot, f.processes[m.rank]? = some p ∧ p.Does f.slot m.action q slot ∧
        f.step m = ⟨slot, f.processes.set m.rank q⟩ := by
  rcases hp : f.processes[m.rank]? with - | p
  · refine .inl ⟨rfl, ?_⟩
    simp only [step, hp]
  · have hdoes := Process.does_act (hmapped p (List.mem_of_getElem? hp)) f.slot m.action
    refine .inr ⟨p, _, _, rfl, hdoes, ?_⟩
    simp only [step, hp]

/-- Processes keep their runs. -/
theorem runs_step (hmapped : f.Mapped) (m : Move) :
    (f.step m).processes.map Process.run = f.processes.map Process.run := by
  rcases step_cases hmapped m with ⟨-, hstep⟩ | ⟨p, q, slot, hp, hdoes, hstep⟩
  · rw [hstep]
  · -- the process that made the step has the run that it had before
    rw [hstep, List.map_set, hdoes.run_eq]
    refine List.ext_getElem? fun i => ?_
    rw [List.getElem?_set]
    split_ifs with hi hlt
    · rw [← hi, List.getElem?_map, hp, Option.map_some]
    · rw [← hi]
      exact (List.getElem?_eq_none (not_lt.mp hlt)).symm
    · rfl

theorem Mapped.step (hmapped : f.Mapped) (m : Move) : (f.step m).Mapped := by
  intro p hp
  have hmem : p.run ∈ (f.step m).processes.map Process.run := List.mem_map_of_mem hp
  rw [runs_step hmapped, List.mem_map] at hmem
  obtain ⟨q, hq, hrun⟩ := hmem
  rw [← hrun]
  exact hmapped q hq

/-- **The file gets shorter in one way only**: a process sets the size after another one has made
the file longer than it has to be. -/
theorem length_step_lt_iff (hmapped : f.Mapped) :
    (f.step m).length < f.length ↔ m.action = .extend ∧ f.Stale m.rank := by
  constructor
  · intro hlt
    rcases step_cases hmapped m with ⟨-, hstep⟩ | ⟨p, q, slot, hp, hdoes, hstep⟩
    · rw [hstep] at hlt
      exact absurd hlt (lt_irrefl _)
    · rw [hstep] at hlt
      -- a step that is not taken on a stale view would have made the file no shorter
      by_contra hnot
      exact absurd (hdoes.grows fun ha hstale => hnot ⟨ha, p, hp, hstale⟩).length_le (not_le.mpr hlt)
  · rintro ⟨ha, p, hp, hstale⟩
    have hlength : (f.step m).length = p.run.requiredLength := by
      rw [← hstale.length_act]
      simp only [SharedFile.step, hp, ha]
      rfl
    obtain ⟨size, -, -, -, hcut⟩ := hstale
    rw [hlength]
    exact hcut

/-! ### What every interleaving keeps -/

/-- Every process that is there after a step was there before, or is the one that made the step. -/
theorem forall_mem_set {C : Process → Prop} {q : Process} {rank : Nat}
    (hothers : ∀ p ∈ f.processes, C p) (hq : C q) : ∀ p ∈ f.processes.set rank q, C p := by
  intro p hp
  rcases List.mem_or_eq_of_mem_set hp with hp | rfl
  · exact hothers p hp
  · exact hq

/-- Nothing falls below a size: neither the file nor what a process remembers of it. -/
structure AtLeast (least : Nat) (f : SharedFile) : Prop where
  length_ge : least ≤ f.length
  seen_ge : ∀ p ∈ f.processes, p.SeenAtLeast least

theorem atLeast_untouched (slot : Slot) (runs : List Run) :
    AtLeast slot.length (untouched slot runs) where
  length_ge := le_rfl
  seen_ge p hp size hphase := by
    obtain ⟨r, -, rfl⟩ := List.mem_map.mp hp
    cases hphase

theorem AtLeast.step {least : Nat} (h : AtLeast least f) (hmapped : f.Mapped) (m : Move) :
    AtLeast least (f.step m) := by
  rcases step_cases hmapped m with ⟨-, hstep⟩ | ⟨p, q, slot, hp, hdoes, hstep⟩
  · rwa [hstep]
  · obtain ⟨hlength, hseen⟩ :=
      hdoes.atLeast h.length_ge (h.seen_ge p (List.mem_of_getElem? hp))
    rw [hstep]
    exact ⟨hlength, forall_mem_set h.seen_ge hseen⟩

/-- The file is as long as every process believes. -/
def Kept (f : SharedFile) : Prop := ∀ p ∈ f.processes, p.Kept f.slot

theorem kept_untouched (slot : Slot) (runs : List Run) : (untouched slot runs).Kept := by
  intro p hp
  obtain ⟨r, -, rfl⟩ := List.mem_map.mp hp
  exact trivial

/-- **As long as no process acts on a stale view, the file only grows and every process keeps what
it believes of it.** -/
theorem Kept.step (h : f.Kept) (hmapped : f.Mapped)
    (hfresh : m.action = .extend → ¬ f.Stale m.rank) :
    f.length ≤ (f.step m).length ∧ (f.step m).Kept := by
  rcases step_cases hmapped m with ⟨-, hstep⟩ | ⟨p, q, slot, hp, hdoes, hstep⟩
  · rw [hstep]
    exact ⟨le_rfl, h⟩
  · have hgrows := hdoes.grows fun ha hstale => hfresh ha ⟨p, hp, hstale⟩
    have hkept := hdoes.kept (h p (List.mem_of_getElem? hp))
    rw [hstep]
    -- the others keep what they believe because the file has grown
    exact ⟨hgrows.length_le, forall_mem_set (fun t ht => (h t ht).mono hgrows) hkept⟩

/-! ### Whole interleavings -/

/-- What every step preserves holds after all of them. -/
theorem after_induction {C : SharedFile → Prop} (hstep : ∀ g m, C g → C (g.step m)) (h : C f)
    (moves : List Move) : C (f.after moves) := by
  induction moves generalizing f with
  | nil => exact h
  | cons m rest ih => exact ih (hstep f m h)

theorem Mapped.after (hmapped : f.Mapped) (moves : List Move) : (f.after moves).Mapped :=
  after_induction (fun _ m hg => hg.step m) hmapped moves

theorem runs_after (hmapped : f.Mapped) (moves : List Move) :
    (f.after moves).processes.map Process.run = f.processes.map Process.run := by
  have hall := after_induction (C := fun g => g.Mapped ∧
    g.processes.map Process.run = f.processes.map Process.run)
    (fun g m hg => ⟨hg.1.step m, (runs_step hg.1 m).trans hg.2⟩) ⟨hmapped, rfl⟩ moves
  exact hall.2

/-- Nothing ever falls below the size that there was at the start. -/
theorem AtLeast.after {least : Nat} (h : AtLeast least f) (hmapped : f.Mapped)
    (moves : List Move) : AtLeast least (f.after moves) := by
  have hall := after_induction (C := fun g => g.Mapped ∧ AtLeast least g)
    (fun g m hg => ⟨hg.1.step m, hg.2.step hg.1 m⟩) ⟨hmapped, h⟩ moves
  exact hall.2

theorem after_take_succ {k : Nat} (hm : moves[k]? = some m) :
    f.after (moves.take (k + 1)) = (f.after (moves.take k)).step m := by
  rw [List.take_add_one, hm]
  exact List.foldl_append

theorem after_take_succ_of_none {k : Nat} (hm : moves[k]? = none) :
    f.after (moves.take (k + 1)) = f.after (moves.take k) := by
  rw [List.take_add_one, hm, Option.toList_none, List.append_nil]

/-- **If no process ever acts on a stale view**, the file only grows and is always as long as every
process believes. -/
theorem Kept.after_take (h : f.Kept) (hmapped : f.Mapped)
    (hfresh : ∀ k rank, moves[k]? = some ⟨rank, .extend⟩ →
      ¬ (f.after (moves.take k)).Stale rank) :
    (Monotone fun k => (f.after (moves.take k)).length) ∧
      ∀ k, (f.after (moves.take k)).Kept := by
  have hstep (k : Nat) (hkept : (f.after (moves.take k)).Kept) :
      (f.after (moves.take k)).length ≤ (f.after (moves.take (k + 1))).length ∧
        (f.after (moves.take (k + 1))).Kept := by
    rcases hm : moves[k]? with - | ⟨rank, action⟩
    · -- there are no more moves
      rw [after_take_succ_of_none hm]
      exact ⟨le_rfl, hkept⟩
    · rw [after_take_succ hm]
      refine hkept.step (hmapped.after _) ?_
      rintro rfl
      exact hfresh k rank hm
  have hkept (k : Nat) : (f.after (moves.take k)).Kept := by
    induction k with
    | zero => exact h
    | succ k ih => exact (hstep k ih).2
  exact ⟨monotone_nat_of_le_succ fun k => (hstep k (hkept k)).1, hkept⟩

end SharedFile

/-! ### A process that is alone -/

namespace Run

variable {r : Run} {order : List Nat} {slot : Slot}

theorem writeJobs_append (slot : Slot) (js ks : List (Assignment × ByteArray)) :
    (r.writeJobs slot (js ++ ks)).2 = (r.writeJobs (r.writeJobs slot js).2 ks).2 := by
  induction js generalizing slot with
  | nil => rfl
  | cons j rest ih => exact ih _

theorem jobs_cons (i : Nat) (order : List Nat) : r.jobs (i :: order) = r.jobs [i] ++ r.jobs order :=
  List.filterMap_append (l := [i])

/-- The moves of a process that is not disturbed. -/
def alone (order : List Nat) : List Move :=
  ⟨0, .extend⟩ :: ⟨0, .extend⟩ :: order.map fun worker => ⟨0, .write worker⟩

theorem after_writes (slot : Slot) (order : List Nat) :
    ((⟨slot, [⟨r, .extended⟩]⟩ : SharedFile).after
      (order.map fun worker => ⟨0, .write worker⟩)).slot = (r.writeJobs slot (r.jobs order)).2 := by
  induction order generalizing slot with
  | nil => rfl
  | cons i rest ih =>
    rw [jobs_cons, writeJobs_append, ← ih]
    rfl

/-- A process that could not extend the file does nothing any more. -/
theorem after_failed (slot : Slot) (e : TransferError) (moves : List Move)
    (hmoves : ∀ m ∈ moves, m.rank = 0) :
    (⟨slot, [⟨r, .failed e⟩]⟩ : SharedFile).after moves = ⟨slot, [⟨r, .failed e⟩]⟩ := by
  induction moves with
  | nil => rfl
  | cons m rest ih =>
    obtain ⟨rank, action⟩ := m
    obtain rfl : rank = 0 := hmoves _ List.mem_cons_self
    have hrest := ih fun m hm => hmoves m (List.mem_cons_of_mem _ hm)
    cases action <;> exact hrest

/-- **A run is what its process does when it is alone.** -/
theorem execute_eq_after (h : r.Ready) (hmode : r.spec.mode = .write)
    (hmapped : r.spec.strategy = .mapped) (slot : Slot) (order : List Nat) :
    (r.execute slot order).2 = ((SharedFile.untouched slot [r]).after (alone order)).slot := by
  have hpages : r.spec.strategy.needsPages = true := Strategy.needsPages_iff.mpr hmapped
  have hviews : Buffer.slices r.data r.plan = some (r.plan.spans.map fun s => s.slice r.data) :=
    Buffer.slices_eq h.complete h.size_data
  have hin : ¬ maxOffset < r.requiredLength := not_lt.mpr h.reach
  rw [execute, hmode]
  simp only [write, if_pos hpages, ensureLength, hviews]
  rcases hlook : r.observeLength slot with e | ⟨seen, found⟩
  · -- the path cannot be opened, and all further moves are idle
    have hfirst : (SharedFile.untouched slot [r]).step ⟨0, .extend⟩ =
        ⟨slot, [⟨r, .failed e⟩]⟩ := by
      simp [SharedFile.step, SharedFile.untouched, Process.act, hlook]
    have hrest := after_failed (r := r) slot e
      (⟨0, .extend⟩ :: order.map fun worker => ⟨0, .write worker⟩) (by simp)
    rw [alone, SharedFile.after, List.foldl_cons, hfirst]
    exact (congrArg SharedFile.slot hrest).symm
  · -- nobody acts between the two steps, so the view is not stale
    have hfirst : (SharedFile.untouched slot [r]).step ⟨0, .extend⟩ =
        ⟨found, [⟨r, .seen seen⟩]⟩ := by
      simp [SharedFile.step, SharedFile.untouched, Process.act, hlook]
    have hsecond : (⟨found, [⟨r, .seen seen⟩]⟩ : SharedFile).step ⟨0, .extend⟩ =
        ⟨settleLength r.requiredLength seen found, [⟨r, .extended⟩]⟩ := by
      simp [SharedFile.step, Process.act, if_neg hin]
    rw [alone, SharedFile.after, List.foldl_cons, hfirst, List.foldl_cons, hsecond,
      ← SharedFile.after, after_writes]
    simp only [if_neg hin, jobs]

end Run

/-! ### The ranks of a job -/

namespace Shard

variable {path : String} {total world : Nat} {choice : Shard → Choice} {runs : List Run}
  {slot : Slot} {moves : List Move}

/-- The runs that the processes of a job build for their shards, in order of rank. -/
def Started (path : String) (total world : Nat) (choice : Shard → Choice) (runs : List Run) : Prop :=
  List.Forall₂ (fun s r => (s.writer path total (choice s)).build = .ok r) (all world) runs

theorem Started.getElem? (h : Started path total world choice runs) {s : Shard}
    (hs : s ∈ all world) {r : Run} (hr : runs[s.rank]? = some r) :
    (s.writer path total (choice s)).build = .ok r := by
  obtain ⟨hlt, rfl⟩ := List.getElem?_eq_some_iff.mp hr
  have hrank := getElem?_all hs
  obtain ⟨hlt', hget⟩ := List.getElem?_eq_some_iff.mp hrank
  have hbuild := List.Forall₂.get h hlt' hlt
  simpa only [List.get_eq_getElem, hget] using hbuild

theorem requiredLength_of_build {s : Shard} {c : Choice} {r : Run}
    (h : (s.writer path total c).build = .ok r) : r.requiredLength = (s.span total).stop := by
  obtain ⟨hextent, -⟩ := RunSpec.parameters_of_build h
  rw [Run.requiredLength, hextent, RunSpec.spec_of_build h]
  rfl

theorem Started.exists_shard (h : Started path total world choice runs) {r : Run} (hr : r ∈ runs) :
    ∃ s ∈ all world, (s.writer path total (choice s)).build = .ok r := by
  obtain ⟨i, hi, rfl⟩ := List.mem_iff_getElem.mp hr
  have hi' : i < (all world).length := h.length_eq ▸ hi
  exact ⟨_, List.getElem_mem hi', List.Forall₂.get h hi' hi⟩

theorem Started.mapped (h : Started path total world choice runs)
    (hmapped : ∀ s ∈ all world, (choice s).strategy = .mapped) (slot : Slot) :
    (SharedFile.untouched slot runs).Mapped := by
  intro p hp
  obtain ⟨r, hr, rfl⟩ := List.mem_map.mp hp
  obtain ⟨s, hs, hbuild⟩ := h.exists_shard hr
  show r.spec.strategy = .mapped
  rw [RunSpec.spec_of_build hbuild]
  exact hmapped s hs

/-- A rank that has set the size and kept what it needs has its whole shard within the file. -/
theorem Started.stop_le (h : Started path total world choice runs)
    (hmapped : ∀ s ∈ all world, (choice s).strategy = .mapped) {s : Shard} (hs : s ∈ all world)
    (hkept : ((SharedFile.untouched slot runs).after moves).Kept)
    (hextended : ((SharedFile.untouched slot runs).after moves).Extended s.rank) :
    (s.span total).stop ≤ ((SharedFile.untouched slot runs).after moves).length := by
  obtain ⟨p, hp, hphase⟩ := hextended
  have hruns : ((SharedFile.untouched slot runs).after moves).processes.map Process.run = runs := by
    rw [SharedFile.runs_after (h.mapped hmapped slot), SharedFile.untouched, List.map_map]
    exact List.map_id runs
  have hrun : runs[s.rank]? = some p.run := by
    rw [← hruns, List.getElem?_map, hp, Option.map_some]
  have hreach := hkept p (List.mem_of_getElem? hp)
  rw [Process.Kept, hphase] at hreach
  rw [← requiredLength_of_build (h.getElem? hs hrun)]
  exact hreach

/-- **What ranks that extend one file at the same time do to its size.**  In every interleaving of
their steps the file stays at least as long as it was before the job, and a step makes it shorter
just if a rank sets the size that has seen too little, after others have made the file longer than
this rank needs.  If that never happens, the size never decreases, and the shard of every rank that
has set the size lies within the file from then on. -/
theorem length_concurrent (hstarted : Started path total world choice runs)
    (hmapped : ∀ s ∈ all world, (choice s).strategy = .mapped) (slot : Slot) (moves : List Move) :
    let file (k : Nat) := (SharedFile.untouched slot runs).after (moves.take k)
    (∀ k, slot.length ≤ (file k).length) ∧
      (∀ k, (file (k + 1)).length < (file k).length ↔
        ∃ rank, moves[k]? = some ⟨rank, .extend⟩ ∧ (file k).Stale rank) ∧
      ((∀ k rank, moves[k]? = some ⟨rank, .extend⟩ → ¬ (file k).Stale rank) →
        ∀ j k, j ≤ k → (file j).length ≤ (file k).length ∧
          ∀ s ∈ all world, (file j).Extended s.rank → (s.span total).stop ≤ (file k).length) := by
  intro file
  have hall := hstarted.mapped hmapped slot
  refine ⟨fun k => ?_, fun k => ?_, fun hfresh j k hjk => ?_⟩
  · exact ((SharedFile.atLeast_untouched slot runs).after hall (moves.take k)).length_ge
  · rcases hm : moves[k]? with - | ⟨rank, action⟩
    · have hsame : file (k + 1) = file k := SharedFile.after_take_succ_of_none hm
      simp [hsame]
    · have hnext : file (k + 1) = (file k).step ⟨rank, action⟩ := SharedFile.after_take_succ hm
      rw [hnext, SharedFile.length_step_lt_iff (hall.after _)]
      constructor
      · rintro ⟨rfl, hstale⟩
        exact ⟨rank, rfl, hstale⟩
      · rintro ⟨rank', hmove, hstale⟩
        cases hmove
        exact ⟨rfl, hstale⟩
  · obtain ⟨hmono, hkept⟩ :=
      (SharedFile.kept_untouched slot runs).after_take hall hfresh
    refine ⟨hmono hjk, fun s hs hextended => ?_⟩
    -- long enough for the rank at `j`, and no shorter since
    exact (hstarted.stop_le hmapped hs (hkept j) hextended).trans (hmono hjk)

/-! ### Two ranks -/

/-- A single worker that writes through a mapping. -/
def mapping : Choice where
  strategy := .mapped
  workers := 1
  blockSize := none
  sync := .never
  order r := r.planOrder
  workers_pos := one_pos
  blockSize_ne := by decide
  order_perm _ := .refl _

/-- Two ranks that write ten bytes each. -/
def pair : List Run :=
  [⟨writer ⟨0, 2, by decide⟩ "f.bin" 20 mapping, ⟨10, 1, [⟨0, 10⟩]⟩⟩,
    ⟨writer ⟨1, 2, by decide⟩ "f.bin" 20 mapping, ⟨10, 1, [⟨0, 10⟩]⟩⟩]

/-- The first rank looks at the size, then the second one extends the file, then the first one does
so, and then both write. -/
def race : List Move :=
  [⟨0, .extend⟩, ⟨1, .extend⟩, ⟨1, .extend⟩, ⟨0, .extend⟩, ⟨1, .write 0⟩, ⟨0, .write 0⟩]

theorem started_pair : Started "f.bin" 20 2 (fun _ => mapping) pair :=
  .cons rfl (.cons rfl .nil)

/-- When the first rank sets the size, its view is stale. -/
theorem length_concurrent_pair :
    Started "f.bin" 20 2 (fun _ => mapping) pair ∧ (∀ s ∈ all 2, mapping.strategy = .mapped) ∧
      ((SharedFile.untouched .vacant pair).after (race.take 4)).length <
        ((SharedFile.untouched .vacant pair).after (race.take 3)).length := by
  have hmapped : ∀ s ∈ all 2, mapping.strategy = .mapped := fun _ _ => rfl
  obtain ⟨-, hshorter, -⟩ := length_concurrent started_pair hmapped .vacant race
  refine ⟨started_pair, hmapped, (hshorter 3).mpr ⟨0, rfl, ?_⟩⟩
  -- it saw an empty file and needs ten bytes, and there are twenty
  exact ⟨_, rfl, 0, rfl, by decide, by decide, by decide⟩

/-- Two ranks whose steps interleave: when the second one has extended the file to the end of its
shard, the first one cuts it to the half. -/
theorem length_concurrent_stale :
    let file (k : Nat) := (SharedFile.untouched .vacant pair).after (race.take k)
    (Started "f.bin" 20 2 (fun _ => mapping) pair ∧ (file 3).Extended 1 ∧ (file 3).length = 20 ∧
      (file 4).Extended 1 ∧ (file 4).length = 10 ∧ (file 6).length = 10) ∧
      ¬ ∀ (path : String) (total world : Nat) (choice : Shard → Choice) (runs : List Run)
          (slot : Slot) (moves : List Move), Started path total world choice runs →
        (∀ s ∈ all world, (choice s).strategy = .mapped) →
        Monotone fun k => ((SharedFile.untouched slot runs).after (moves.take k)).length := by
  intro file
  have hbefore : (file 3).length = 20 := by decide
  have hcut : (file 4).length = 10 := by decide
  refine ⟨⟨started_pair, ⟨_, rfl, rfl⟩, hbefore, ⟨_, rfl, rfl⟩, hcut, by decide⟩, fun hclaim => ?_⟩
  have hle : (file 3).length ≤ (file 4).length :=
    hclaim "f.bin" 20 2 (fun _ => mapping) pair .vacant race started_pair (fun _ _ => rfl)
      (show 3 ≤ 4 by decide)
  rw [hbefore, hcut] at hle
  exact absurd hle (by decide)

end Shard

end StripeTransfer
