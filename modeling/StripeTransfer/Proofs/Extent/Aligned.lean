/-
StripeTransfer/Proofs/Extent/Aligned.lean

What a plan on pages looks like.  All of it is gathered in `Plan.OnPages`, and holds
in words that hold all numbers of the plan (`Plan.aligned_onPages`).  The last
worker has room for a share because all of them have; and if there was no room for
one worker more, it has less than two.

Without enough words none of it need be true.  Two workers with pages of half a
word each seem to need no room at all, and get regions that reach far beyond the
extent (`Plan.aligned_beyond`).
-/
import StripeTransfer.Proofs.Extent.Pages
import Mathlib

namespace StripeTransfer

namespace Plan

variable {extent workers divisor page : Nat} {p : Plan}

/-- What is known of a plan on pages, for at most so many workers. -/
structure OnPages (p : Plan) (extent workers page share : Nat) : Prop where
  /-- The share is the even one, rounded up to whole pages. -/
  share_least : IsLeast {m | page ∣ m ∧ extent / workers ≤ m} share
  count_pos : 1 ≤ p.workerCount
  count_le : p.workerCount ≤ workers
  /-- There are as many workers as have room for a share each, or one if none has. -/
  count_greatest : IsGreatest {n | 1 ≤ n ∧ n ≤ workers ∧ n * share ≤ extent} p.workerCount ∨
    p.workerCount = 1 ∧ ∀ n, 1 ≤ n → n ≤ workers → extent < n * share
  page_dvd : ∀ s ∈ p.spans, page ∣ s.offset
  contiguous : Contiguous 0 p.spans extent
  /-- Of several workers, all but the last have one share. -/
  leading : 1 < p.workerCount → ∀ s ∈ p.spans.dropLast, s.length = share
  /-- The last one of several has a share at least, and less than two if some were left out. -/
  last : 1 < p.workerCount → ∃ s, p.spans.getLast? = some s ∧ share ≤ s.length ∧
    (p.workerCount < workers → s.length < 2 * share)

/-- **What a plan on pages looks like**, if the rounded share of all workers together is a word. -/
theorem aligned_onPages (hfits : FitsWords extent workers page)
    (h : aligned extent workers divisor page = .ok p) :
    ∃ share, p.OnPages extent workers page share := by
  obtain ⟨hextent, -, hcomplete⟩ := complete_of_aligned hfits h
  obtain ⟨hp, hw, -, heq⟩ := aligned_eq_ofShare hfits h
  have hcontiguous := hcomplete.contiguous
  rw [hextent] at hcontiguous
  have hleast := isLeast_roundUp (extent / workers) hp
  have hword := hfits.2
  generalize roundUp (extent / workers) page = share at heq hleast hword
  have hpos := lowered_pos extent share hw
  have hcount : p.workerCount = lowered extent share workers := by
    rw [heq, workerCount_ofShare hpos]
  have hspans := spans_ofShare extent (lowered extent share workers) share divisor
  rw [← heq] at hspans
  refine ⟨share, hleast, ?_, ?_, ?_, ?_, hcontiguous, ?_, ?_⟩
  · exact hcount ▸ hpos
  · exact hcount ▸ lowered_le extent share workers
  · exact hcount ▸ lowered_greatest _ hw hword
  · intro s hs
    rw [heq] at hs
    exact hleast.1.1.trans (dvd_offset_of_mem hs)
  · intro _ s hs
    rw [hspans, List.dropLast_concat, List.mem_map] at hs
    obtain ⟨i, -, rfl⟩ := hs
    rfl
  · intro hseveral
    rw [hcount] at hseveral
    have hroom := pred_mul_add_le hpos (lowered_mul_le hw hword hseveral)
    refine ⟨_, by rw [hspans, List.getLast?_concat], ?_, ?_⟩
    · show share ≤ extent - (lowered extent share workers - 1) * share
      omega
    · intro hfewer
      rw [hcount] at hfewer
      have hfull := lt_succ_lowered_mul hw hword hfewer
      -- the last worker begins where the shares of the others end
      have hlast : lowered extent share workers * share =
          (lowered extent share workers - 1) * share + share := by
        rw [← Nat.succ_mul, Nat.succ_eq_add_one, Nat.sub_add_cancel hpos]
      rw [Nat.succ_mul] at hfull
      show extent - (lowered extent share workers - 1) * share < 2 * share
      omega

/-- Four workers with pages of four kibibytes: there is room for two, the last one of which has more
than a page. -/
theorem aligned_onPages_two : FitsWords 10000 4 4096 ∧
    aligned 10000 4 1 4096 = .ok ⟨10000, 1, [⟨0, 4096⟩, ⟨4096, 5904⟩]⟩ ∧
    ∃ share, OnPages ⟨10000, 1, [⟨0, 4096⟩, ⟨4096, 5904⟩]⟩ 10000 4 4096 share := by
  have hfits : FitsWords 10000 4 4096 := by decide
  have h : aligned 10000 4 1 4096 = .ok ⟨10000, 1, [⟨0, 4096⟩, ⟨4096, 5904⟩]⟩ := by rfl
  exact ⟨hfits, h, aligned_onPages hfits h⟩

/-- Two workers and ten bytes, with pages of half a word.  The share of both is a whole word, of which
nothing is kept, so that both seem to have room; neither the extent nor the number of workers is what
a plan on such pages should have. -/
theorem aligned_beyond :
    aligned 10 2 1 (2 ^ 63) = .ok ⟨10, 1, [⟨0, 2 ^ 63⟩, ⟨2 ^ 63, 2 ^ 63 + 10⟩]⟩ ∧
    ¬ ∃ share, OnPages ⟨10, 1, [⟨0, 2 ^ 63⟩, ⟨2 ^ 63, 2 ^ 63 + 10⟩]⟩ 10 2 (2 ^ 63) share := by
  refine ⟨by rfl, ?_⟩
  rintro ⟨share, h⟩
  have hstop := (h.contiguous.bounds (s := ⟨0, 2 ^ 63⟩) List.mem_cons_self).2
  exact absurd hstop (by decide)

end Plan

end StripeTransfer
