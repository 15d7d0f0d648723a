/-
StripeTransfer/Proofs/Transfer/Process.lean

A process that writes a file through mappings, step by step.  Before it maps
anything, it looks at the size of the file and then sets it; between these two
steps other processes may act, and what the second step does depends on the size
seen in the first.

All that a step can do to the process and to the size of the file is in
`Process.Does`.  The second step does harm in one way only: if the file was too
short when the process looked, and is longer than the process needs by now, the
process cuts it (`Process.Stale`).  Without that a step only makes the file
longer (`Process.Does.grows`), and what a process believes of the file stays true
(`Process.Kept`).
-/
import StripeTransfer.Proofs.Files.Content
import StripeTransfer.Proofs.Transfer.WriteRun
import Mathlib

namespace StripeTransfer

/-! ### Sizes -/

namespace Slot

variable {slot slot' : Slot} {content : ByteArray}

/-- The size of a file, if there is one. -/
def size? (slot : Slot) : Option Nat := slot.content?.map ByteArray.size

/-- The size of a file; zero if there is none. -/
def length (slot : Slot) : Nat := slot.size?.getD 0

/-- A file that is there stays there, and gets no shorter. -/
def Grows (slot slot' : Slot) : Prop :=
  ∀ now, slot.size? = some now → ∃ later, slot'.size? = some later ∧ now ≤ later

theorem Grows.length_le (h : slot.Grows slot') : slot.length ≤ slot'.length := by
  rcases hnow : slot.size? with - | now
  · rw [length, hnow]
    exact Nat.zero_le _
  · obtain ⟨later, hlater, hle⟩ := h now hnow
    rw [length, length, hnow, hlater]
    exact hle

theorem grows_of_size?_eq (h : slot'.size? = slot.size?) : slot.Grows slot' :=
  fun now hnow => ⟨now, h.trans hnow, le_rfl⟩

theorem Holds.length (h : slot.Holds content) : slot.length = content.size := by
  cases h <;> rfl

theorem holds_of_openCreate (h : slot.openCreate = .ok content) : slot.Holds content := by
  cases slot with
  | vacant =>
    cases h
    exact .vacant
  | file content =>
    cases h
    exact .file content
  | directory => cases h
  | blocked cause => cases h

end Slot

theorem Worker.size?_write {w : Worker} (hmapped : w.strategy = .mapped) (slot : Slot) (span : Span)
    (data : ByteArray) : (w.write slot span data).2.size? = slot.size? := by
  simp only [Worker.write, hmapped, Worker.writeMapped]
  split_ifs
  · rfl
  · rfl
  · cases slot with
    | file content =>
      simp only [Slot.openUpdate, Slot.size?, Slot.content?, Option.map_some,
        Content.size_overwrite]
    | vacant => rfl
    | directory => rfl
    | blocked cause => rfl

namespace Run

variable {r : Run} {slot : Slot}

theorem size?_settleLength (required seen : Nat) (slot : Slot) :
    (settleLength required seen slot).size? =
      slot.size?.map fun size => if seen < required then required else size := by
  cases slot with
  | file content =>
    simp only [settleLength, Slot.size?, Slot.content?, Option.map_some]
    split_ifs
    · rw [Content.size_resize]
    · rfl
  | vacant => rfl
  | directory => rfl
  | blocked cause => rfl

/-- **Workers that write through mappings leave the size as it is**, also on a file that is too
short for them. -/
theorem size?_writeJobs (hmapped : r.spec.strategy = .mapped) (slot : Slot)
    (jobs : List (Assignment × ByteArray)) : (r.writeJobs slot jobs).2.size? = slot.size? := by
  induction jobs generalizing slot with
  | nil => rfl
  | cons j rest ih =>
    simp only [writeJobs]
    rw [ih, Worker.size?_write hmapped]

end Run

/-! ### Processes -/

/-- How far a process is with its file. -/
inductive Phase where
  | start
  /-- It has looked at the size. -/
  | seen (size : Nat)
  /-- It has set the size, where that was needed; now its workers write. -/
  | extended
  | failed (e : TransferError)

/-- A process that carries out a run. -/
structure Process where
  run : Run
  phase : Phase

/-- What a process does when it is its turn. -/
inductive Action where
  /-- The next step of extending the file. -/
  | extend
  /-- All that a worker does. -/
  | write (worker : Nat)

namespace Process

/-- One step of a process. -/
def act (p : Process) (slot : Slot) : Action → Process × Slot
  | .extend =>
    match p.phase with
    | .start =>
      match p.run.observeLength slot with
      | .error e => (⟨p.run, .failed e⟩, slot)
      | .ok (size, slot) => (⟨p.run, .seen size⟩, slot)
    | .seen size =>
      if maxOffset < p.run.requiredLength then
        (⟨p.run, .failed (.io ⟨.extend p.run.spec.path, .badOffset⟩)⟩, slot)
      else (⟨p.run, .extended⟩, Run.settleLength p.run.requiredLength size slot)
    | .extended | .failed _ => (p, slot)
  | .write worker =>
    match p.phase with
    | .extended => (p, (p.run.writeJobs slot (p.run.jobs [worker])).2)
    | .start | .seen _ | .failed _ => (p, slot)

/-- A process that will cut the file when it sets the size: the file was too short when it looked,
and is longer than it has to be by now. -/
def Stale (p : Process) (slot : Slot) : Prop :=
  ∃ size, p.phase = .seen size ∧ size < p.run.requiredLength ∧
    p.run.requiredLength ≤ maxOffset ∧ p.run.requiredLength < slot.length

/-- All that one step of a process can do to the process and to the size of the file. -/
inductive Does (p : Process) (slot : Slot) : Action → Process → Slot → Prop
  | rest (a : Action) : Does p slot a p slot
  | fail (e : TransferError) : Does p slot .extend ⟨p.run, .failed e⟩ slot
  | look {content : ByteArray} :
      p.phase = .start → slot.Holds content →
        Does p slot .extend ⟨p.run, .seen content.size⟩ (.file content)
  | settle {size : Nat} :
      p.phase = .seen size → p.run.requiredLength ≤ maxOffset →
        Does p slot .extend ⟨p.run, .extended⟩ (Run.settleLength p.run.requiredLength size slot)
  | write {worker : Nat} {slot' : Slot} :
      p.phase = .extended → slot'.size? = slot.size? → Does p slot (.write worker) p slot'

variable {p q : Process} {slot slot' : Slot} {a : Action}

/-- **What a process can do in a step.** -/
theorem does_act (hmapped : p.run.spec.strategy = .mapped) (slot : Slot) (a : Action) :
    p.Does slot a (p.act slot a).1 (p.act slot a).2 := by
  cases a with
  | extend =>
    simp only [act]
    rcases hphase : p.phase with - | size | - | e
    · simp only [Run.observeLength]
      -- opening leaves an empty file where there was none, so that there is one from now on
      rcases hopen : slot.openCreate with cause | content
      · exact .fail _
      · exact .look hphase (Slot.holds_of_openCreate hopen)
    · by_cases hin : maxOffset < p.run.requiredLength
      · simp only [if_pos hin]
        exact .fail _
      · simp only [if_neg hin]
        exact .settle hphase (not_lt.mp hin)
    · exact .rest _
    · exact .rest _
  | write worker =>
    simp only [act]
    rcases hphase : p.phase with - | size | - | e
    · exact .rest _
    · exact .rest _
    · exact .write hphase (Run.size?_writeJobs hmapped _ _)
    · exact .rest _

theorem Does.run_eq (h : p.Does slot a q slot') : q.run = p.run := by
  cases h <;> rfl

/-- **Only a process whose view is stale makes the file shorter.** -/
theorem Does.grows (h : p.Does slot a q slot') (hfresh : a = .extend → ¬ p.Stale slot) :
    slot.Grows slot' := by
  cases h with
  | rest => exact Slot.grows_of_size?_eq rfl
  | fail e => exact Slot.grows_of_size?_eq rfl
  | look _ hslot =>
    intro now hnow
    refine ⟨_, rfl, ?_⟩
    rw [← hslot.length, Slot.length, hnow]
    exact le_rfl
  | @settle size hphase hrange =>
    intro now hnow
    rw [Run.size?_settleLength, hnow, Option.map_some]
    refine ⟨_, rfl, ?_⟩
    split_ifs with hlt
    · -- the size seen was too little, so the size by now is not too much
      by_contra hcut
      refine hfresh rfl ⟨size, hphase, hlt, hrange, ?_⟩
      rw [Slot.length, hnow]
      exact not_le.mp hcut
    · exact le_rfl
  | write _ hsize => exact Slot.grows_of_size?_eq hsize

/-- A process whose view is stale cuts the file to what it needs. -/
theorem Stale.length_act (h : p.Stale slot) :
    (p.act slot .extend).2.length = p.run.requiredLength := by
  obtain ⟨size, hphase, hlt, hrange, hcut⟩ := h
  simp only [act, hphase, if_neg (not_lt.mpr hrange), Slot.length, Run.size?_settleLength]
  rcases hsize : slot.size? with - | now
  · -- where there is no file, there is nothing to cut
    rw [Slot.length, hsize] at hcut
    exact absurd hcut (Nat.not_lt_zero _)
  · simp only [Option.map_some, Option.getD_some, if_pos hlt]

/-! ### What a process believes of the file -/

/-- What a process remembers of the size is no less than `least`. -/
def SeenAtLeast (least : Nat) (p : Process) : Prop := ∀ size, p.phase = .seen size → least ≤ size

/-- A step that does not see less than `least` does not set less either: a size that is set is more
than the one that was seen. -/
theorem Does.atLeast {least : Nat} (h : p.Does slot a q slot') (hslot : least ≤ slot.length)
    (hp : p.SeenAtLeast least) : least ≤ slot'.length ∧ q.SeenAtLeast least := by
  cases h with
  | rest => exact ⟨hslot, hp⟩
  | fail e => exact ⟨hslot, fun _ hphase => by cases hphase⟩
  | look _ hholds =>
    have hsize := hslot.trans hholds.length.le
    refine ⟨hsize, fun size hphase => ?_⟩
    cases hphase
    exact hsize
  | @settle size hphase hrange =>
    refine ⟨?_, fun _ hphase => by cases hphase⟩
    have hseen := hp size hphase
    rw [Slot.length] at hslot ⊢
    rw [Run.size?_settleLength]
    rcases hnow : slot.size? with - | now
    · rwa [hnow] at hslot
    · rw [hnow] at hslot
      simp only [Option.map_some, Option.getD_some] at hslot ⊢
      split_ifs with hlt
      · exact hseen.trans hlt.le
      · exact hslot
  | write _ hsize =>
    refine ⟨?_, hp⟩
    rwa [Slot.length, hsize]

/-- The file is as long as a process believes: no shorter than when the process looked, and long
enough for it once it has set the size. -/
def Kept (p : Process) (slot : Slot) : Prop :=
  match p.phase with
  | .seen size => ∃ now, slot.size? = some now ∧ size ≤ now
  | .extended => p.run.requiredLength ≤ slot.length
  | .start | .failed _ => True

/-- What the other processes do is harmless as long as the file grows. -/
theorem Kept.mono (h : p.Kept slot) (hgrows : slot.Grows slot') : p.Kept slot' := by
  unfold Kept at h ⊢
  rcases hphase : p.phase with - | size | - | e
  · exact trivial
  · rw [hphase] at h
    obtain ⟨now, hnow, hle⟩ := h
    obtain ⟨later, hlater, hgrown⟩ := hgrows now hnow
    exact ⟨later, hlater, hle.trans hgrown⟩
  · rw [hphase] at h
    exact h.trans hgrows.length_le
  · exact trivial

/-- A process keeps what it believes by what it does itself. -/
theorem Does.kept (h : p.Does slot a q slot') (hp : p.Kept slot) : q.Kept slot' := by
  cases h with
  | rest => exact hp
  | fail e => exact trivial
  | look => exact ⟨_, rfl, le_rfl⟩
  | @settle size hphase hrange =>
    simp only [Kept, hphase] at hp
    obtain ⟨now, hnow, hle⟩ := hp
    -- either the size is set to what is needed, or what the process saw was enough
    show p.run.requiredLength ≤ _
    rw [Slot.length, Run.size?_settleLength, hnow, Option.map_some, Option.getD_some]
    split_ifs with hlt
    · exact le_rfl
    · exact (not_lt.mp hlt).trans hle
  | write _ hsize => exact hp.mono (Slot.grows_of_size?_eq hsize)

end Process

end StripeTransfer
