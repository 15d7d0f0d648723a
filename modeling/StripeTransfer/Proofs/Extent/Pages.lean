/-
StripeTransfer/Proofs/Extent/Pages.lean

Plans on pages, and the words that they are calculated with.  Rounding the share
of a worker up to whole pages gives the least share that will do
(`Plan.isLeast_roundUp`).  The rounded shares may exceed the extent together, so
the workers are lowered until there are as many as have room for a whole share,
or one if not even one has (`Plan.lowered_greatest`).

The largest number of the calculation is the rounded share times the workers that
are asked for.  If it is a word (`Plan.FitsWords`), nothing is cut off anywhere,
and the plan is `Plan.ofShare` of the rounded share (`Plan.aligned_eq_ofShare`); so
it is complete (`Plan.complete_of_aligned`).  If not, the product that is compared
with the extent may seem small, and the plan reaches far beyond its extent.

Which numbers are refused does not depend on any of this (`Plan.aligned_eq`): the
even share of several workers is at most half of what a word holds, so it can still
be rounded up (`Plan.roundUp_lt_words`).
-/
import StripeTransfer.Proofs.Extent.Plan
import StripeTransfer.Proofs.Number.Word
import Mathlib

namespace StripeTransfer

namespace Plan

variable {extent workers share divisor page : Nat} {p : Plan}

/-! ### Rounding to pages -/

/-- The least multiple of a page that is not below a number. -/
def roundUp (n page : Nat) : Nat := if n % page = 0 then n else (n / page + 1) * page

/-- **The rounded share is the least one of whole pages that is not below the even share.** -/
theorem isLeast_roundUp (n : Nat) (hp : 0 < page) :
    IsLeast {m | page ∣ m ∧ n ≤ m} (roundUp n page) := by
  unfold roundUp
  split_ifs with hn
  · exact ⟨⟨Nat.dvd_of_mod_eq_zero hn, le_rfl⟩, fun m hm => hm.2⟩
  · refine ⟨⟨Nat.dvd_mul_left page _, ?_⟩, ?_⟩
    · have hlt : n < page * (n / page + 1) := Nat.lt_mul_div_succ n hp
      rw [Nat.mul_comm] at hlt
      exact hlt.le
    · -- a multiple of the page that is not below `n` is not `n` itself, so it is further up
      rintro _ ⟨⟨k, rfl⟩, hk⟩
      have hne : n ≠ page * k := by
        rintro rfl
        exact hn (Nat.mul_mod_right page k)
      have hlt : n / page < k := Nat.div_lt_of_lt_mul (lt_of_le_of_ne hk hne)
      rw [Nat.mul_comm page k]
      exact Nat.mul_le_mul_right page hlt

/-- Rounding up goes to the end of a page at most. -/
theorem roundUp_le (n page : Nat) : roundUp n page ≤ n / page * page + page := by
  have hdiv : n / page * page + n % page = n := Nat.div_add_mod' n page
  unfold roundUp
  split_ifs with hn
  · omega
  · rw [Nat.succ_mul]

/-! ### Words that hold all numbers -/

/-- The numbers that a plan on pages is calculated from are words: the extent, and the rounded share
of all workers that are asked for. -/
def FitsWords (extent workers page : Nat) : Prop :=
  extent < 2 ^ 64 ∧ workers * roundUp (extent / workers) page < 2 ^ 64

instance (extent workers page : Nat) : Decidable (FitsWords extent workers page) :=
  inferInstanceAs (Decidable (_ ∧ _))

theorem FitsWords.roundUp_lt (h : FitsWords extent workers page) (hw : 0 < workers) :
    roundUp (extent / workers) page < 2 ^ 64 :=
  (Nat.le_mul_of_pos_left _ hw).trans_lt h.2

/-- All numbers are words if an extent with a page more for each worker is one. -/
theorem fitsWords_of_sum (h : extent + workers * page < 2 ^ 64) : FitsWords extent workers page := by
  refine ⟨(Nat.le_add_right _ _).trans_lt h, ?_⟩
  calc workers * roundUp (extent / workers) page
      ≤ workers * (extent / workers + page) := Nat.mul_le_mul_left _ ((roundUp_le _ page).trans
        (Nat.add_le_add_right (Nat.div_mul_le_self _ page) page))
    _ = workers * (extent / workers) + workers * page := Nat.mul_add _ _ _
    _ ≤ extent + workers * page := Nat.add_le_add_right (Nat.mul_div_le _ _) _
    _ < 2 ^ 64 := h

/-- Rounding is exact if its result is a word. -/
theorem rounded_eq (h : roundUp share page < 2 ^ 64) : rounded share page = roundUp share page := by
  unfold rounded roundUp at *
  split_ifs at h ⊢
  · rfl
  · exact Word.wrap_of_lt h

theorem lowered_pos (extent share : Nat) (hw : 0 < workers) : 0 < lowered extent share workers := by
  induction workers with
  | zero => cases hw
  | succ workers ih =>
    unfold lowered
    split_ifs with hmore
    · exact ih hmore.1
    · exact Nat.succ_pos workers

theorem lowered_le (extent share workers : Nat) : lowered extent share workers ≤ workers := by
  induction workers with
  | zero => exact le_rfl
  | succ workers ih =>
    unfold lowered
    split_ifs
    · exact ih.trans (Nat.le_succ workers)
    · exact le_rfl

/-- **The workers that are left are the most that have room for a whole share each**, or one if there
is no room for a share, as long as the products that are compared are words. -/
theorem lowered_greatest (extent : Nat) (hw : 0 < workers) (hword : workers * share < 2 ^ 64) :
    IsGreatest {n | 1 ≤ n ∧ n ≤ workers ∧ n * share ≤ extent} (lowered extent share workers) ∨
      lowered extent share workers = 1 ∧
        ∀ n, 1 ≤ n → n ≤ workers → extent < n * share := by
  induction workers with
  | zero => cases hw
  | succ workers ih =>
    have hproduct : Word.wrap (share * (workers + 1)) = (workers + 1) * share := by
      rw [Nat.mul_comm] at hword
      rw [Word.wrap_of_lt hword, Nat.mul_comm]
    unfold lowered
    rw [hproduct]
    split_ifs with hmore
    · obtain ⟨hsome, hroom⟩ := hmore
      have hbelow : workers * share ≤ (workers + 1) * share :=
        Nat.mul_le_mul_right share (Nat.le_succ workers)
      -- what has room with one worker less has room, and the one that is dropped has none
      rcases ih hsome (hbelow.trans_lt hword) with ⟨⟨hone, hle, hfits⟩, hgreatest⟩ | ⟨hone, hnone⟩
      · refine Or.inl ⟨⟨hone, hle.trans (Nat.le_succ workers), hfits⟩, ?_⟩
        rintro n ⟨hn, hlen, hfitsn⟩
        have hne : n ≠ workers + 1 := by
          rintro rfl
          exact absurd hfitsn (not_le.mpr hroom)
        exact hgreatest ⟨hn, by omega, hfitsn⟩
      · refine Or.inr ⟨hone, fun n hn hlen => ?_⟩
        rcases Nat.eq_or_lt_of_le hlen with rfl | hlt
        · exact hroom
        · exact hnone n hn (Nat.le_of_lt_succ hlt)
    · rcases Nat.lt_or_ge extent ((workers + 1) * share) with hnone | hfits
      · -- the only worker stays, whether or not it has room
        obtain rfl : workers = 0 := by
          by_contra hsome
          exact hmore ⟨Nat.pos_of_ne_zero hsome, hnone⟩
        refine Or.inr ⟨rfl, fun n hn hlen => ?_⟩
        obtain rfl : n = 1 := le_antisymm hlen hn
        exact hnone
      · exact Or.inl ⟨⟨Nat.succ_pos workers, le_rfl, hfits⟩, fun n hn => hn.2.1⟩

/-- Several workers that are left have room for a share each, the last one included. -/
theorem lowered_mul_le (hw : 0 < workers) (hword : workers * share < 2 ^ 64)
    (h : 1 < lowered extent share workers) : lowered extent share workers * share ≤ extent := by
  rcases lowered_greatest extent hw hword with hgreatest | ⟨hone, -⟩
  · exact hgreatest.1.2.2
  · omega

/-- All but the last of the workers that are left have room. -/
theorem pred_lowered_mul_le (hw : 0 < workers) (hword : workers * share < 2 ^ 64) :
    (lowered extent share workers - 1) * share ≤ extent := by
  have hpos := lowered_pos extent share hw
  rcases Nat.eq_or_lt_of_le hpos with hone | hseveral
  · simp [← hone]
  · exact (Nat.mul_le_mul_right share (Nat.pred_le _)).trans (lowered_mul_le hw hword hseveral)

/-- If there are fewer workers than asked for, one more would not have room. -/
theorem lt_succ_lowered_mul (hw : 0 < workers) (hword : workers * share < 2 ^ 64)
    (h : lowered extent share workers < workers) :
    extent < (lowered extent share workers + 1) * share := by
  rcases lowered_greatest extent hw hword with hgreatest | ⟨hone, hnone⟩
  · by_contra hle
    have hmem := hgreatest.2 ⟨Nat.le_add_left 1 _, h, not_lt.mp hle⟩
    exact absurd hmem (Nat.not_succ_le_self _)
  · exact hnone _ (Nat.le_add_left 1 _) h

/-! ### Plans on pages -/

theorem spans_ofWords (extent workers share divisor : Nat) :
    (ofWords extent workers share divisor).spans = (List.range workers).map fun i =>
      ⟨Word.wrap (share * i),
        if i + 1 = workers then Word.sub extent (Word.wrap (share * i)) else share⟩ := rfl

/-- A plan is the same in words if all workers but the last have room. -/
theorem ofWords_eq (hw : 0 < workers) (hextent : extent < 2 ^ 64)
    (hroom : (workers - 1) * share ≤ extent) :
    ofWords extent workers share divisor = ofShare extent workers share divisor := by
  cases workers with
  | zero => cases hw
  | succ n =>
    rw [Nat.add_sub_cancel] at hroom
    have hoffset : ∀ i ≤ n, Word.wrap (share * i) = i * share := by
      intro i hi
      have hle : i * share ≤ extent := (Nat.mul_le_mul_right share hi).trans hroom
      rw [Nat.mul_comm, Word.wrap_of_lt (hle.trans_lt hextent)]
    have hspans : (ofWords extent (n + 1) share divisor).spans =
        (ofShare extent (n + 1) share divisor).spans := by
      rw [spans_ofWords, spans_ofShare, Nat.add_sub_cancel, List.range_succ, List.map_append,
        List.map_singleton, if_pos rfl, hoffset n le_rfl, Word.sub_of_le hroom hextent]
      congr 1
      refine List.map_congr_left fun i hi => ?_
      have hlt : i < n := List.mem_range.mp hi
      rw [hoffset i hlt.le, if_neg (by omega)]
    exact congrArg (Plan.mk extent divisor) hspans

theorem aligned_eq_ok (h : aligned extent workers divisor page = .ok p) : 0 < page ∧
    evenShare extent workers divisor = .ok (extent / workers) ∧
    p = ofWords extent (lowered extent (rounded (extent / workers) page) workers)
      (rounded (extent / workers) page) divisor := by
  cases hshare : evenShare extent workers divisor with
  | error e => simp [aligned, hshare, bind, Except.bind] at h
  | ok share =>
    obtain ⟨rfl, -⟩ := evenShare_eq_ok.mp hshare
    simp only [aligned, hshare, bind, Except.bind, pure, Except.pure, throw, throwThe,
      MonadExceptOf.throw] at h
    split_ifs at h with hp
    -- only the branch without an error is left
    exact ⟨Nat.pos_of_ne_zero hp, rfl, (Except.ok.inj h).symm⟩

/-- A plan on pages belongs to its extent and its divisor, whatever the words hold. -/
theorem parameters_of_aligned (h : aligned extent workers divisor page = .ok p) :
    p.extent = extent ∧ p.divisor = divisor := by
  obtain ⟨-, -, rfl⟩ := aligned_eq_ok h
  exact ⟨rfl, rfl⟩

/-- **In words that hold all numbers, a plan on pages is made of the exact numbers.** -/
theorem aligned_eq_ofShare (hfits : FitsWords extent workers page)
    (h : aligned extent workers divisor page = .ok p) : 0 < page ∧ 0 < workers ∧ 0 < divisor ∧
    p = ofShare extent (lowered extent (roundUp (extent / workers) page) workers)
      (roundUp (extent / workers) page) divisor := by
  obtain ⟨hp, hshare, rfl⟩ := aligned_eq_ok h
  obtain ⟨-, hw, hd, -⟩ := evenShare_eq_ok.mp hshare
  rw [rounded_eq (hfits.roundUp_lt hw)]
  exact ⟨hp, hw, hd, ofWords_eq (lowered_pos _ _ hw) hfits.1 (pred_lowered_mul_le hw hfits.2)⟩

theorem complete_of_aligned (hfits : FitsWords extent workers page)
    (h : aligned extent workers divisor page = .ok p) :
    p.extent = extent ∧ p.divisor = divisor ∧ p.Complete := by
  obtain ⟨-, hw, hd, rfl⟩ := aligned_eq_ofShare hfits h
  exact ⟨rfl, rfl, ofShare_complete (pred_lowered_mul_le hw hfits.2) hd⟩

/-- Without sampling, any number of workers has a plan on any pages. -/
theorem aligned_ok_of_pos (extent : Nat) (hw : 0 < workers) (hp : 0 < page) :
    ∃ p, aligned extent workers 1 page = .ok p := by
  have hs := evenShare_of_pos extent hw
  exact ⟨_, by simp [aligned, hs, bind, Except.bind, pure, Except.pure, hp.ne']; rfl⟩

/-- The plans that one of the two makers makes, in words that hold all of its numbers. -/
inductive Made : Plan → Prop
  | even {extent workers divisor : Nat} {p : Plan} :
      even extent workers divisor = .ok p → Made p
  | aligned {extent workers divisor page : Nat} {p : Plan} :
      FitsWords extent workers page → aligned extent workers divisor page = .ok p → Made p

theorem Made.complete (h : p.Made) : p.Complete := by
  cases h with
  | even h => exact (complete_of_even h).2.2
  | aligned hfits h => exact (complete_of_aligned hfits h).2.2

end Plan

end StripeTransfer
