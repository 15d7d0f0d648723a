/-
StripeTransfer/Proofs/Extent/Owners.lean

Who moves which byte of a file.  The shards of a job are adjacent and cover the
file; the plan of a shard cuts it into adjacent targets.  Whatever number of
workers and whatever page each process chooses, as long as the words hold what
comes of it, the targets of all workers of all processes are then adjacent and
cover the file, so that every byte has one owner (`Shard.existsUnique_owner`).
Without enough words a worker may own bytes far behind the end of the file
(`Shard.owner_beyond`).

The two divisions, of the file among ranks and of a shard among workers, meet in
`Contiguous.refine`, which needs to know nothing about how either is rounded.
-/
import StripeTransfer.Extent.Shard
import StripeTransfer.Proofs.Extent.Pages
import Mathlib

namespace StripeTransfer

/-! ### The shards of a job -/

namespace Shard

/-- The shards of a job, in order of rank. -/
def all (world : Nat) : List Shard := List.ofFn fun r : Fin world => ⟨r, world, r.isLt⟩

theorem mem_all {world : Nat} {s : Shard} : s ∈ all world ↔ s.world = world := by
  obtain ⟨rank, world', hlt⟩ := s
  simp only [all, List.mem_ofFn, mk.injEq]
  constructor
  · rintro ⟨r, -, rfl⟩
    rfl
  · rintro rfl
    exact ⟨⟨rank, hlt⟩, rfl, rfl⟩

theorem getElem?_all {world : Nat} {s : Shard} (h : s ∈ all world) :
    (all world)[s.rank]? = some s := by
  obtain rfl := mem_all.mp h
  simp [all, s.rank_lt]

/-- Each rank starts where the one before stopped. -/
theorem spans_contiguous (total : Nat) {world : Nat} (hw : 0 < world) :
    Contiguous 0 ((all world).map fun s => s.span total) total := by
  obtain ⟨share, hshare⟩ : ∃ share, share = total / world := ⟨_, rfl⟩
  -- all ranks start at a multiple of the share, and the last one stops at the end
  let bound (r : Nat) : Nat := if r = world then total else r * share
  let spanOf (r : Nat) : Span :=
    if r + 1 = world then ⟨r * share, total - r * share⟩ else ⟨r * share, share⟩
  have hspans : (all world).map (fun s => s.span total) = (List.range world).map spanOf := by
    refine List.ext_getElem? fun i => ?_
    by_cases hi : i < world
    · simp [all, hi, span, spanOf, hshare]
    · simp [all, hi]
  have hfit : world * share ≤ total := hshare ▸ Nat.mul_div_le total world
  have hbound : ∀ r < world, (spanOf r).offset = bound r ∧ (spanOf r).stop = bound (r + 1) := by
    intro r hr
    have hle : (r + 1) * share ≤ world * share := Nat.mul_le_mul_right _ hr
    rw [Nat.succ_mul] at hle
    simp only [spanOf, bound, hr.ne, if_false]
    split_ifs with hlast
    · exact ⟨rfl, by simp only [Span.stop]; omega⟩
    · exact ⟨rfl, by simp only [Span.stop, Nat.succ_mul]⟩
  have hstart : bound 0 = 0 := by simp [bound, hw.ne]
  have hstop : bound world = total := if_pos rfl
  have h := Contiguous.map_range hbound
  rw [hstart, hstop] at h
  rw [hspans]
  exact h

/-- A byte lies in the shard of one rank only. -/
theorem eq_of_mem_span {total world : Nat} (hw : 0 < world) {s t : Shard} (hs : s ∈ all world)
    (ht : t ∈ all world) {p : Nat} (hps : p ∈ s.span total) (hpt : p ∈ t.span total) : s = t := by
  have hcont := spans_contiguous total hw
  have hspan {u : Shard} (hu : u ∈ all world) :
      ((all world).map fun s => s.span total)[u.rank]? = some (u.span total) := by
    rw [List.getElem?_map, getElem?_all hu, Option.map_some]
  have hbounds := hcont.bounds (List.mem_map_of_mem hs)
  have hrank : s.rank = t.rank :=
    (hcont.existsUnique (hbounds.1.trans hps.1) (hps.2.trans_le hbounds.2)).unique
      ⟨_, hspan hs, hps⟩ ⟨_, hspan ht, hpt⟩
  have hsame := getElem?_all hs
  rw [hrank, getElem?_all ht] at hsame
  exact (Option.some.inj hsame).symm

/-- Every byte of the file lies in some shard. -/
theorem exists_mem_span {total world : Nat} (hw : 0 < world) {p : Nat} (hp : p < total) :
    ∃ s ∈ all world, p ∈ s.span total := by
  obtain ⟨t, ht, hmem⟩ := (spans_contiguous total hw).exists_mem (Nat.zero_le p) hp
  obtain ⟨s, hs, rfl⟩ := List.mem_map.mp ht
  exact ⟨s, hs, hmem⟩

end Shard

/-! ### Dividing shards among workers -/

/-- How a process divides its shard: among how many workers, and on which pages they start. -/
structure Division where
  workers : Nat
  /-- The page on whose multiples all workers start; without one, all shares are equal. -/
  page : Option Nat
  workers_pos : 0 < workers
  page_pos : ∀ size ∈ page, 0 < size

/-- The plan of a division, which moves every byte of the extent. -/
def Division.plan (d : Division) (extent : Nat) : Except PlanError Plan :=
  match d.page with
  | none => Plan.even extent d.workers 1
  | some page => Plan.aligned extent d.workers 1 page

/-- The words hold all numbers of a division; those of even shares are never above the extent. -/
def Division.Fits (d : Division) (extent : Nat) : Prop :=
  ∀ page ∈ d.page, Plan.FitsWords extent d.workers page

/-- Every division of an extent in words that hold its numbers has a plan, and a complete one. -/
theorem Division.plan_ok {d : Division} {extent : Nat} (hfits : d.Fits extent) :
    ∃ p, d.plan extent = .ok p ∧ p.extent = extent ∧ p.divisor = 1 ∧ p.Complete := by
  obtain ⟨workers, - | page, hw, hp⟩ := d
  · obtain ⟨p, h⟩ := Plan.even_ok_of_pos extent hw
    exact ⟨p, h, Plan.complete_of_even h⟩
  · obtain ⟨p, h⟩ := Plan.aligned_ok_of_pos extent hw (hp page rfl)
    exact ⟨p, h, Plan.complete_of_aligned (hfits page rfl) h⟩

namespace Shard

/-- The work of all workers of a process, by the plan of its shard. -/
def work (s : Shard) (total : Nat) (p : Plan) : List Assignment :=
  p.assignments (s.span total).offset

/-- The targets of all workers of a job, by rank and within a rank in plan order. -/
def targets (plan : Shard → Plan) (total world : Nat) : List Span :=
  (all world).flatMap fun s => (s.work total (plan s)).map Assignment.target

/-- **Every byte of a file has exactly one owner.**  However each rank divides its shard, as long as
the words hold the numbers of its plan, the plan can be made; the targets of all workers follow one
another from the start of the file to its end, no target reaches beyond the file, and every byte of
it lies in the target of one worker of one rank. -/
theorem existsUnique_owner (total : Nat) {world : Nat} (hw : 0 < world)
    (division : Shard → Division)
    (hfits : ∀ s ∈ all world, (division s).Fits (s.span total).length) :
    ∃ plan : Shard → Plan,
      (∀ s ∈ all world, (division s).plan (s.span total).length = .ok (plan s)) ∧
      Contiguous 0 (targets plan total world) total ∧
      (∀ t ∈ targets plan total world, t.stop ≤ total) ∧
      ∀ p < total, ∃! owner : Shard × Nat, owner.1 ∈ all world ∧
        ∃ a, (owner.1.work total (plan owner.1))[owner.2]? = some a ∧ p ∈ a.target := by
  have hmade (s : Shard) : ∃ p, s ∈ all world →
      (division s).plan (s.span total).length = .ok p ∧
        p.extent = (s.span total).length ∧ p.divisor = 1 ∧ p.Complete := by
    by_cases hs : s ∈ all world
    · obtain ⟨p, hp⟩ := Division.plan_ok (hfits s hs)
      exact ⟨p, fun _ => hp⟩
    · exact ⟨⟨0, 0, []⟩, fun h => absurd h hs⟩
  choose plan hplan using hmade
  have hwork (s : Shard) (hs : s ∈ all world) : Contiguous (s.span total).offset
      ((s.work total (plan s)).map Assignment.target) (s.span total).stop := by
    obtain ⟨-, hextent, hdivisor, hcomplete⟩ := hplan s hs
    have h := hcomplete.targets_contiguous hdivisor (s.span total).offset
    rwa [hextent] at h
  have hall : Contiguous 0 (targets plan total world) total :=
    (spans_contiguous total hw).refine hwork
  refine ⟨plan, fun s hs => (hplan s hs).1, hall, fun t ht => (hall.bounds ht).2, fun p hp => ?_⟩
  obtain ⟨s, hs, hps⟩ := exists_mem_span hw hp
  obtain ⟨i, ⟨t, ht, hpt⟩, huniq⟩ := (hwork s hs).existsUnique hps.1 hps.2
  rw [List.getElem?_map] at ht
  obtain ⟨a, ha, rfl⟩ := Option.map_eq_some_iff.mp ht
  refine ⟨(s, i), ⟨hs, a, ha, hpt⟩, ?_⟩
  rintro ⟨s', i'⟩ ⟨hs', a', ha', hpt'⟩
  -- the byte lies in the shard of the other owner, too, so the ranks agree
  have hmem : a'.target ∈ (s'.work total (plan s')).map Assignment.target :=
    List.mem_map_of_mem (List.mem_of_getElem? ha')
  have hbounds := (hwork s' hs').bounds hmem
  have hps' : p ∈ s'.span total := ⟨hbounds.1.trans hpt'.1, hpt'.2.trans_le hbounds.2⟩
  obtain rfl := eq_of_mem_span hw hs hs' hps hps'
  have hi : i' = i := huniq i' ⟨a'.target, by rw [List.getElem?_map, ha']; rfl, hpt'⟩
  rw [hi]

/-- Ten bytes among three ranks; the second one has four workers that start on pages of two
bytes. -/
theorem existsUnique_owner_three : 0 < 3 ∧
    (∀ s ∈ all 3, Division.Fits ⟨4, if s.rank = 1 then some 2 else none, by decide, by grind⟩
      (s.span 10).length) ∧
    ∃ plan : Shard → Plan,
      (∀ s ∈ all 3, Division.plan ⟨4, if s.rank = 1 then some 2 else none, by decide, by grind⟩
        (s.span 10).length = .ok (plan s)) ∧
      Contiguous 0 (targets plan 10 3) 10 ∧ (∀ t ∈ targets plan 10 3, t.stop ≤ 10) ∧
      ∀ p < 10, ∃! owner : Shard × Nat, owner.1 ∈ all 3 ∧
        ∃ a, (owner.1.work 10 (plan owner.1))[owner.2]? = some a ∧ p ∈ a.target := by
  have hfits : ∀ s ∈ all 3, Division.Fits
      ⟨4, if s.rank = 1 then some 2 else none, by decide, by grind⟩ (s.span 10).length := by
    unfold Division.Fits
    decide
  exact ⟨by decide, hfits, existsUnique_owner 10 (by decide) (fun s =>
    ⟨4, if s.rank = 1 then some 2 else none, by decide, by grind⟩) hfits⟩

/-- One rank divides ten bytes among two workers that start on pages of half a word: the second one
owns bytes behind the end of the file, and the targets do not end there. -/
theorem owner_beyond : ∃ plan : Shard → Plan,
    (∀ s ∈ all 1, Division.plan ⟨2, some (2 ^ 63), by decide, by grind⟩ (s.span 10).length =
      .ok (plan s)) ∧
    targets plan 10 1 = [⟨0, 2 ^ 63⟩, ⟨2 ^ 63, 2 ^ 63 + 10⟩] ∧
    ¬ Contiguous 0 (targets plan 10 1) 10 ∧ ¬ ∀ t ∈ targets plan 10 1, t.stop ≤ 10 := by
  have htargets : targets (fun _ => ⟨10, 1, [⟨0, 2 ^ 63⟩, ⟨2 ^ 63, 2 ^ 63 + 10⟩]⟩) 10 1 =
      [⟨0, 2 ^ 63⟩, ⟨2 ^ 63, 2 ^ 63 + 10⟩] := by rfl
  have hbeyond : ¬ ∀ t ∈ [(⟨0, 2 ^ 63⟩ : Span), ⟨2 ^ 63, 2 ^ 63 + 10⟩], t.stop ≤ 10 := by decide
  refine ⟨fun _ => ⟨10, 1, [⟨0, 2 ^ 63⟩, ⟨2 ^ 63, 2 ^ 63 + 10⟩]⟩, ?_, htargets, ?_, ?_⟩
  · decide
  · rw [htargets]
    exact fun h => hbeyond fun t ht => (h.bounds ht).2
  · rw [htargets]
    exact hbeyond

end Shard

end StripeTransfer
