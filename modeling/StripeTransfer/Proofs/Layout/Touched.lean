/-
StripeTransfer/Proofs/Layout/Touched.lean

Which stripes a span touches, and whose targets `Layout.unitsFor` lists for it.
A span touches the stripes from that of its first byte to that of its last
(`Layout.mem_touched_iff`).  How many these are depends on where in a stripe the
span starts: it may touch one stripe more than its bytes would fill
(`Layout.length_touched`).

`Layout.unitsFor` counts by the length alone.  So it starts with the right
stripe and lists no stripe that is not touched, but it leaves out the last one
whenever the two remainders, of the offset and of the length less one, add up to
a stripe or more (`Layout.unitsFor_eq_touched_iff`).  The numbers of the stripes
are words of 64 bits as long as the span ends at one (`Layout.stripes_lt`).
-/
import StripeTransfer.Extent.Shard
import StripeTransfer.Layout.Basic
import StripeTransfer.Proofs.Extent.Contiguous
import Mathlib

namespace StripeTransfer

namespace Layout

variable {l : Layout} {s : Span}

/-! ### Stripes under a span -/

/-- The stripe that holds a byte. -/
def stripeOf (l : Layout) (p : Nat) : Nat := p / l.stripeSize

/-- The stripe that holds the last byte of a span. -/
def lastStripe (l : Layout) (s : Span) : Nat := l.stripeOf (s.offset + s.length - 1)

/-- The stripes from that of the first byte of a span to that of its last one, in file order. -/
def touched (l : Layout) (s : Span) : List Nat :=
  List.range' (l.stripeOf s.offset) (l.lastStripe s + 1 - l.stripeOf s.offset)

/-- **The stripes that are touched are those that hold a byte of the span.** -/
theorem mem_touched_iff (h : 0 < s.length) {k : Nat} :
    k ∈ l.touched s ↔ ∃ p ∈ s, l.stripeOf p = k := by
  have hle : l.stripeOf s.offset ≤ l.lastStripe s := Nat.div_le_div_right (by omega)
  have hmem : k ∈ l.touched s ↔ l.stripeOf s.offset ≤ k ∧ k ≤ l.lastStripe s := by
    rw [touched, List.mem_range'_1]
    omega
  rw [hmem]
  constructor
  · rintro ⟨hfirst, hlast⟩
    -- the first byte of the stripe, unless the span starts behind it
    refine ⟨max s.offset (k * l.stripeSize), ?_, ?_⟩
    · have hstart : k * l.stripeSize ≤ s.offset + s.length - 1 :=
        (Nat.le_div_iff_mul_le l.stripeSize_pos).mp hlast
      simp only [Span.mem_iff, Span.stop]
      omega
    · refine le_antisymm ?_ ((Nat.le_div_iff_mul_le l.stripeSize_pos).mpr (Nat.le_max_right _ _))
      rcases Nat.le_total s.offset (k * l.stripeSize) with hle | hle
      · rw [Nat.max_eq_right hle, stripeOf, Nat.mul_div_cancel _ l.stripeSize_pos]
      · rw [Nat.max_eq_left hle]
        exact hfirst
  · rintro ⟨p, hp, rfl⟩
    simp only [Span.mem_iff, Span.stop] at hp
    exact ⟨Nat.div_le_div_right hp.1, Nat.div_le_div_right (by omega)⟩

/-! ### Counting stripes -/

/-- The span starts so late in its first stripe that it reaches into one stripe more than its bytes
would fill. -/
def Overlaps (l : Layout) (s : Span) : Prop :=
  l.stripeSize ≤ s.offset % l.stripeSize + (s.length - 1) % l.stripeSize

instance (l : Layout) (s : Span) : Decidable (l.Overlaps s) := inferInstanceAs (Decidable (_ ≤ _))

theorem stripesIn_of_pos {length stripeSize : Nat} (hlength : 0 < length) (hsize : 0 < stripeSize) :
    stripesIn length stripeSize = (length - 1) / stripeSize + 1 := by
  have hsum : length + stripeSize - 1 = length - 1 + stripeSize := by omega
  rw [stripesIn, if_neg hsize.ne', hsum, Nat.add_div_right _ hsize]

/-- **The stripes of a span that ends at a word have words for numbers.** -/
theorem stripes_lt (h : 0 < s.length) (hstop : s.stop < 2 ^ 64) :
    l.stripeOf s.offset + stripesIn s.length l.stripeSize < 2 ^ 64 := by
  have hfirst : l.stripeOf s.offset ≤ s.offset := Nat.div_le_self _ _
  have hcount : stripesIn s.length l.stripeSize ≤ s.length := by
    rw [stripesIn_of_pos h l.stripeSize_pos]
    have hfull : (s.length - 1) / l.stripeSize ≤ s.length - 1 := Nat.div_le_self _ _
    omega
  exact (Nat.add_le_add hfirst hcount).trans_lt hstop

/-- The last stripe comes as far behind the first one as the length tells, or one further. -/
theorem lastStripe_eq (h : 0 < s.length) : l.lastStripe s =
    l.stripeOf s.offset + (s.length - 1) / l.stripeSize + if l.Overlaps s then 1 else 0 := by
  have hsum : s.offset + s.length - 1 = s.offset + (s.length - 1) := by omega
  rw [lastStripe, stripeOf, hsum, Nat.add_div l.stripeSize_pos]
  rfl

/-- The stripes that are touched are as many as the bytes fill, or one more. -/
theorem length_touched (h : 0 < s.length) : (l.touched s).length =
    stripesIn s.length l.stripeSize + if l.Overlaps s then 1 else 0 := by
  rw [touched, List.length_range', lastStripe_eq h, stripesIn_of_pos h l.stripeSize_pos]
  generalize (s.length - 1) / l.stripeSize = full
  split_ifs <;> omega

/-! ### Targets -/

theorem unitsFor_eq (l : Layout) (s : Span) : l.unitsFor s =
    (List.range' (l.stripeOf s.offset) (stripesIn s.length l.stripeSize)).map l.unitOf := by
  rw [unitsFor, List.range'_eq_map_range, List.map_map]
  rfl

/-- The targets of the stripes that are touched are those that are listed, and at most one more. -/
theorem map_unitOf_touched (h : 0 < s.length) : (l.touched s).map l.unitOf =
    l.unitsFor s ++ if l.Overlaps s then [l.unitOf (l.lastStripe s)] else [] := by
  have hlength := length_touched (l := l) h
  rw [touched, List.length_range'] at hlength
  rw [touched, hlength, unitsFor_eq]
  split_ifs with hover
  · have hlast : l.lastStripe s = l.stripeOf s.offset + stripesIn s.length l.stripeSize := by
      rw [lastStripe_eq h, if_pos hover, stripesIn_of_pos h l.stripeSize_pos, Nat.add_assoc]
    rw [List.range'_concat, List.map_append, hlast, Nat.one_mul]
    rfl
  · rw [List.append_nil]
    rfl

/-- **Which targets are listed for a span.**  These are the targets of the stripes that hold a byte of
the span, in file order, just if the span does not overlap into one stripe more than its bytes would
fill; if it does, the target of the last stripe is missing, and no other.  No number of a stripe goes
beyond a word of 64 bits, unless the span does. -/
theorem unitsFor_eq_touched_iff (l : Layout) {s : Span} (h : 0 < s.length) :
    (∀ k, k ∈ l.touched s ↔ ∃ p ∈ s, l.stripeOf p = k) ∧
    (l.unitsFor s = (l.touched s).map l.unitOf ↔
      s.offset % l.stripeSize + (s.length - 1) % l.stripeSize < l.stripeSize) ∧
    (l.stripeSize ≤ s.offset % l.stripeSize + (s.length - 1) % l.stripeSize →
      (l.touched s).map l.unitOf = l.unitsFor s ++ [l.unitOf (l.lastStripe s)]) ∧
    (s.stop < 2 ^ 64 → l.stripeOf s.offset + stripesIn s.length l.stripeSize < 2 ^ 64) := by
  have hunits := map_unitOf_touched (l := l) h
  refine ⟨fun k => mem_touched_iff h, ?_⟩
  rw [← and_assoc]
  refine ⟨?_, stripes_lt h⟩
  by_cases hover : l.Overlaps s
  · rw [if_pos hover] at hunits
    refine ⟨?_, fun _ => hunits⟩
    constructor
    · intro heq
      rw [hunits] at heq
      simp at heq
    · intro hlt
      exact absurd hover (not_le.mpr hlt)
  · rw [if_neg hover, List.append_nil] at hunits
    refine ⟨?_, fun hle => absurd hle hover⟩
    exact iff_of_true hunits.symm (not_le.mp hover)

/-- Stripes of one mebibyte that go round three targets. -/
def mebibytes : Layout := ⟨1048576, [0, 1, 2], by decide, by decide⟩

/-- Two bytes on both sides of the end of a stripe, and of a row: the second target is missing. -/
theorem unitsFor_eq_touched_border : 0 < 2 ∧ mebibytes.touched ⟨3145727, 2⟩ = [2, 3] ∧
    ¬ mebibytes.unitsFor ⟨3145727, 2⟩ = (mebibytes.touched ⟨3145727, 2⟩).map mebibytes.unitOf ∧
    (mebibytes.touched ⟨3145727, 2⟩).map mebibytes.unitOf =
      mebibytes.unitsFor ⟨3145727, 2⟩ ++ [0] := by
  obtain ⟨-, hiff, hmissing, -⟩ := unitsFor_eq_touched_iff mebibytes (s := ⟨3145727, 2⟩) (by decide)
  exact ⟨by decide, by decide, fun heq => absurd (hiff.mp heq) (by decide), hmissing (by decide)⟩

/-- The middle one of three processes that share a file of five stripes touches three stripes, but
only two targets are listed for it. -/
theorem unitsFor_ne_touched :
    let middle : Span := Shard.span ⟨1, 3, by decide⟩ 5242880
    middle = ⟨1747626, 1747626⟩ ∧ mebibytes.unitsFor middle = [1, 2] ∧
    (mebibytes.touched middle).map mebibytes.unitOf = [1, 2, 0] ∧
    mebibytes.unitsFor middle ≠ (mebibytes.touched middle).map mebibytes.unitOf := by
  decide

end Layout

end StripeTransfer
