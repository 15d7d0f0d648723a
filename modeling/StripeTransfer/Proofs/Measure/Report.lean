/-
StripeTransfer/Proofs/Measure/Report.lean

Bandwidths are attributed to the right storage targets.  Three orders meet in a
report: the lines of the targets come from a stable sort by the total order, the
statistics from the ascending arrangement of the bandwidths, and their labels
from a search by equality of numbers in plan order.  On plain bandwidths all
three are one (`Binary64.numEq_iff_of_plain`, `Binary64.lt_iff_of_plain`), also
when bandwidths or targets repeat.

A row (`Report.Row`) is a target with its bandwidth and with the position of its
worker; the position is what a stable sort goes by among equal bandwidths.

Main result: `Report.of_attributes`.
-/
import StripeTransfer.Measure.Report
import StripeTransfer.Proofs.Measure.Summary
import StripeTransfer.Proofs.Number.Result
import StripeTransfer.Proofs.Text.Numeral
import Mathlib

namespace StripeTransfer

/-! ### Bandwidths of transfers -/

/-- **Bandwidths are plain numbers**, whatever time a transfer of bytes that fit a word took. -/
theorem Bandwidth.plain_of {bytes : Nat} (h : bytes < 2 ^ 64) (elapsed : Duration) :
    (Bandwidth.of bytes elapsed).Plain := by
  obtain ⟨u, hbytes, hmoderate⟩ := Binary64.exists_moderate_ofNat h
  unfold Bandwidth.of
  dsimp only
  split_ifs with hseconds
  · exact ⟨rfl, rfl⟩
  · simp only [Bool.or_eq_true, decide_eq_true_eq, not_or, Bool.not_eq_true] at hseconds
    obtain ⟨⟨hnumber, hsign⟩, hpositive⟩ := hseconds
    have hunit : Binary64.ofNat 0x40000000 = ⟨0x41D0000000000000⟩ := by decide +kernel
    rw [hbytes, hunit]
    apply Binary64.plain_div _ ⟨rfl, rfl⟩ (.inr (by decide)) (by decide)
    apply Binary64.plain_div hmoderate.clear.plain ⟨hsign, hnumber⟩ _ hpositive
    exact .inl hmoderate.exponentField_lt.ne

/-! ### Texts without a target

The name of a target starts with an `O`; no number and no other part of a report has one. -/

theorem upperO_not_mem_toDigits (n : Nat) : 'O' ∉ Nat.toDigits 10 n := by
  intro h
  exact absurd ((Text.isNumeral_toDigits n).isDigit 'O' h) (by decide)

theorem upperO_not_mem_pointed (n places : Nat) : 'O' ∉ pointed n places := by
  unfold pointed padded
  split_ifs
  · exact upperO_not_mem_toDigits n
  · simp [upperO_not_mem_toDigits]

theorem Decimal.upperO_not_mem_text (d : Decimal) : 'O' ∉ d.text := by
  unfold Decimal.text
  split
  · exact upperO_not_mem_toDigits _
  · exact upperO_not_mem_pointed _ _

theorem Binary64.upperO_not_mem_text (x : Binary64) : 'O' ∉ x.text.toList := by
  unfold text
  split_ifs <;> simp [Decimal.upperO_not_mem_text]

/-! ### Rows -/

namespace Report

variable {units : List Nat} {bandwidths : List Binary64} {u v : Nat} {b : Binary64}

/-- A target and its bandwidth, with the position of their worker. -/
abbrev Row := (Nat × Binary64) × Nat

/-- The order of rows: by bandwidth, and in plan order among equal bandwidths. -/
def Before (p q : Row) : Prop :=
  p.1.2.toFloat < q.1.2.toFloat ∨ p.1.2 = q.1.2 ∧ p.2 < q.2

instance : DecidableRel Before := fun _ _ => inferInstanceAs (Decidable (_ ∨ _))

/-- The line of a target. -/
def line (p : Row) : String := s!"OST {p.1.1}: {p.1.2.text} GiB/s\n"

/-- The rows behind the lines of the targets. -/
def rows (units : List Nat) (bandwidths : List Binary64) : List Row :=
  (units.zip bandwidths).zipIdx.mergeSort (List.zipIdxLE fun a b => a.2.le b.2)

theorem rows_perm (units : List Nat) (bandwidths : List Binary64) :
    (rows units bandwidths).Perm (units.zip bandwidths).zipIdx := List.mergeSort_perm _ _

/-- The sort is stable. -/
theorem map_rows (units : List Nat) (bandwidths : List Binary64) :
    (rows units bandwidths).map (·.1) = ranking units bandwidths := List.mergeSort_zipIdx

theorem mem_rows {p : Row} : p ∈ rows units bandwidths ↔
    units[p.2]? = some p.1.1 ∧ bandwidths[p.2]? = some p.1.2 := by
  rw [(rows_perm units bandwidths).mem_iff, List.mem_zipIdx_iff_getElem?,
    List.getElem?_zip_eq_some]

theorem nodup_positions (units : List Nat) (bandwidths : List Binary64) :
    (rows units bandwidths).Pairwise fun p q => p.2 ≠ q.2 := by
  apply List.pairwise_map.mp
  apply ((rows_perm units bandwidths).map (·.2)).nodup_iff.mpr
  rw [List.zipIdx_map_snd]
  exact List.nodup_range'

/-- What the sort goes by is the order of rows. -/
theorem before_of_zipIdxLE {p q : Row} (hp : p.1.2.Plain) (hq : q.1.2.Plain) (hne : p.2 ≠ q.2)
    (h : List.zipIdxLE (fun a b : Nat × Binary64 => a.2.le b.2) p q) : Before p q := by
  unfold List.zipIdxLE at h
  split_ifs at h with hpq hqp
  · right
    have heq : p.1.2.rank = q.1.2.rank :=
      Nat.le_antisymm (of_decide_eq_true hpq) (of_decide_eq_true hqp)
    exact ⟨Binary64.rank_injective heq, lt_of_le_of_ne (of_decide_eq_true h) hne⟩
  · left
    rw [Binary64.lt_iff_of_plain hp hq]
    exact Nat.not_le.mp fun hle => hqp (decide_eq_true hle)

theorem pairwise_rows (hplain : ∀ b ∈ bandwidths, b.Plain) :
    (rows units bandwidths).Pairwise Before := by
  have hsorted := List.pairwise_mergeSort
    (List.zipIdxLE_trans fun a b c => Binary64.le_trans a.2 b.2 c.2)
    (List.zipIdxLE_total fun a b => Binary64.le_total a.2 b.2) (units.zip bandwidths).zipIdx
  apply (hsorted.and (nodup_positions units bandwidths)).imp_of_mem
  rintro p q hp hq ⟨hle, hne⟩
  apply before_of_zipIdxLE _ _ hne hle
  · exact hplain _ (List.mem_of_getElem? (mem_rows.mp hp).2)
  · exact hplain _ (List.mem_of_getElem? (mem_rows.mp hq).2)

/-! ### Labels -/

/-- Being the target of the first worker with a bandwidth. -/
def IsFirst (units : List Nat) (bandwidths : List Binary64) (b : Binary64) (u : Nat) : Prop :=
  ∃ i : Nat, units[i]? = some u ∧ bandwidths[i]? = some b ∧ ∀ j < i, bandwidths[j]? ≠ some b

theorem IsFirst.unique (hu : IsFirst units bandwidths b u) (hv : IsFirst units bandwidths b v) :
    u = v := by
  obtain ⟨i, hui, hbi, hi⟩ := hu
  obtain ⟨j, hvj, hbj, hj⟩ := hv
  obtain rfl : i = j := by
    rcases lt_trichotomy i j with hlt | heq | hgt
    · exact absurd hbi (hj i hlt)
    · exact heq
    · exact absurd hbj (hi j hgt)
  exact Option.some.inj (hui.symm.trans hvj)

/-- A plain bandwidth of the list is found at the first worker that has it. -/
theorem unitOf_isFirst (hplain : ∀ b ∈ bandwidths, b.Plain)
    (hlength : units.length = bandwidths.length) (hb : b ∈ bandwidths) :
    ∃ u, unitOf ⟨bandwidths, some units⟩ b = some u ∧ IsFirst units bandwidths b u := by
  have heq : ∀ c ∈ bandwidths, c.numEq b ↔ c = b := by
    intro c hc
    exact Binary64.numEq_iff_of_plain (hplain c hc) (hplain b hb)
  obtain ⟨i, hfind⟩ : ∃ i, bandwidths.findIdx? (fun c => c.numEq b) = some i := by
    apply Option.isSome_iff_exists.mp
    rw [List.findIdx?_isSome, List.any_eq_true]
    exact ⟨b, hb, (heq b hb).mpr rfl⟩
  obtain ⟨hi, hnum, hnone⟩ := List.findIdx?_eq_some_iff_getElem.mp hfind
  have hiu : i < units.length := hlength ▸ hi
  refine ⟨units[i], ?_, i, List.getElem?_eq_getElem hiu, ?_, ?_⟩
  · show (bandwidths.findIdx? (fun c => c.numEq b)).bind (units[·]?) = _
    rw [hfind, Option.bind_some, List.getElem?_eq_getElem hiu]
  · rw [List.getElem?_eq_getElem hi, (heq _ (List.getElem_mem hi)).mp hnum]
  · intro j hj hbj
    obtain ⟨hlt, hget⟩ := List.getElem?_eq_some_iff.mp hbj
    exact hnone j hj ((heq _ (List.getElem_mem hlt)).mpr hget)

theorem exists_row (hlength : units.length = bandwidths.length) {i : Nat}
    (hb : bandwidths[i]? = some b) : ∃ u, ((u, b), i) ∈ rows units bandwidths := by
  obtain ⟨hi, -⟩ := List.getElem?_eq_some_iff.mp hb
  have hiu : i < units.length := hlength ▸ hi
  exact ⟨units[i], mem_rows.mpr ⟨List.getElem?_eq_getElem hiu, hb⟩⟩

theorem eq_or_before_of_head (hplain : ∀ b ∈ bandwidths, b.Plain) {p : Row} {rest : List Row}
    (heq : rows units bandwidths = p :: rest) :
    ∀ q ∈ rows units bandwidths, q = p ∨ Before p q := by
  have hpairwise : (rows units bandwidths).Pairwise Before := pairwise_rows hplain
  rw [heq] at hpairwise ⊢
  intro q hq
  exact (List.mem_cons.mp hq).imp_right (List.rel_of_pairwise_cons hpairwise)

theorem not_lt_min (hplain : ∀ b ∈ bandwidths, b.Plain) {s : Summary}
    (hplaces : Summary.Places bandwidths s) (hb : b ∈ bandwidths) :
    ¬ b.toFloat < s.min.toFloat := by
  have hmin := hplain _ (Summary.mem_of_getElem?_sorted hplaces.min)
  rw [Binary64.lt_iff_of_plain (hplain b hb) hmin, Nat.not_lt]
  exact of_decide_eq_true (Binary64.le_iff_precedes.mpr (hplaces.min_precedes hb))

/-- The first row is the one of the first worker with the smallest bandwidth. -/
theorem head_rows (hplain : ∀ b ∈ bandwidths, b.Plain)
    (hlength : units.length = bandwidths.length) {s : Summary}
    (hplaces : Summary.Places bandwidths s) : ∃ p rest,
      rows units bandwidths = p :: rest ∧ IsFirst units bandwidths s.min p.1.1 := by
  obtain ⟨i, hi⟩ := List.mem_iff_getElem?.mp (Summary.mem_of_getElem?_sorted hplaces.min)
  obtain ⟨u, hrow⟩ := exists_row hlength hi
  obtain ⟨p, rest, heq⟩ := List.exists_cons_of_ne_nil (List.ne_nil_of_mem hrow)
  have hhead := eq_or_before_of_head hplain heq
  have hp := mem_rows.mp (heq ▸ List.mem_cons_self : p ∈ rows units bandwidths)
  have hnot := not_lt_min hplain hplaces (List.mem_of_getElem? hp.2)
  -- the row of the smallest bandwidth is behind the first one, which so has no greater bandwidth
  have hmin : p.1.2 = s.min := by
    rcases hhead _ hrow with hpq | hlt | ⟨hpq, -⟩
    · rw [← hpq]
    · exact absurd hlt hnot
    · exact hpq
  refine ⟨p, rest, heq, p.2, hp.1, hmin ▸ hp.2, ?_⟩
  -- and so is the row of an earlier worker with that bandwidth
  intro j hj hbj
  obtain ⟨w, hearlier⟩ := exists_row hlength hbj
  rcases hhead _ hearlier with hpq | hlt | ⟨-, hlt⟩
  · rw [← hpq] at hj
    exact absurd hj (Nat.lt_irrefl j)
  · exact hnot hlt
  · exact absurd hlt (Nat.not_lt.mpr (Nat.le_of_lt hj))

/-! ### The text of a report -/

/-- The lines of statistics, with what is written behind the three samples. -/
def statistics (s : Summary) (least most middle : String) : String :=
  s!"min:     {s.min.text} GiB/s{least}\n" ++
  s!"Max:     {s.max.text} GiB/s{most}\n" ++
  s!"Max/min: {s.imbalance.text}\n" ++
  s!"Average: {s.mean.text} GiB/s\n" ++
  s!"Median:  {s.median.text} GiB/s{middle}\n" ++
  s!"Standard deviation: {s.deviation.text} GiB/s\n" ++
  s!"Standard deviation / average: {s.variation.text} %\n"

theorem summaryLines_eq_statistics {r : Report} {s : Summary} (h : r.summary = some s) :
    r.summaryLines = statistics s (r.label s.min) (r.label s.max) (r.label s.median) := by
  unfold summaryLines
  rw [h]
  rfl

theorem summaryLines_eq_empty {r : Report} (h : r.summary = none) : r.summaryLines = "" := by
  unfold summaryLines
  rw [h]

theorem upperO_not_mem_statistics (s : Summary) : 'O' ∉ (statistics s "" "" "").toList := by
  unfold statistics
  simp only [toString, String.toList_append, List.mem_append, not_or, Binary64.upperO_not_mem_text,
    not_false_iff, and_true]
  -- the literal parts are left
  decide +kernel

/-- A report without targets names none. -/
theorem upperO_not_mem_text_of_none : 'O' ∉ (text ⟨bandwidths, none⟩).toList := by
  show 'O' ∉ ("" ++ summaryLines ⟨bandwidths, none⟩).toList
  rw [String.empty_append]
  cases h : summary ⟨bandwidths, none⟩ with
  | none =>
    rw [summaryLines_eq_empty h]
    exact List.not_mem_nil
  | some s =>
    rw [summaryLines_eq_statistics h]
    exact upperO_not_mem_statistics s

/-- The label of a bandwidth of the list. -/
theorem label_eq (hu : unitOf ⟨bandwidths, some units⟩ b = some u) :
    label ⟨bandwidths, some units⟩ b = s!" - OST {u}" := by
  unfold label
  rw [hu]

theorem text_of_some (units : List Nat) (bandwidths : List Binary64) :
    text ⟨bandwidths, some units⟩ = String.join ((rows units bandwidths).map line) ++
      summaryLines ⟨bandwidths, some units⟩ := by
  show String.join ((ranking units bandwidths).map _) ++ _ = _
  rw [← map_rows, List.map_map]
  rfl

theorem of_mismatched {given : Option (List Nat)}
    (h : ∀ units ∈ given, units.length ≠ bandwidths.length) :
    of bandwidths given = ⟨bandwidths, none⟩ := by
  unfold of
  congr 1
  apply Option.filter_eq_none_iff.mpr
  intro units hunits heq
  exact h units hunits (beq_iff_eq.mp heq)

theorem of_matched (h : units.length = bandwidths.length) :
    of bandwidths (some units) = ⟨bandwidths, some units⟩ := by
  unfold of
  rw [Option.filter_some, if_pos (beq_iff_eq.mpr h)]

/-- The lines of the statistics carry the targets of the first workers, and the smallest bandwidth
has the target of the first row. -/
theorem summaryLines_attributes (hplain : ∀ b ∈ bandwidths, b.Plain)
    (hlength : units.length = bandwidths.length) {s : Summary}
    (hs : summary ⟨bandwidths, some units⟩ = some s) : ∃ least most middle : Nat,
      IsFirst units bandwidths s.min least ∧ IsFirst units bandwidths s.max most ∧
      IsFirst units bandwidths s.median middle ∧
      (rows units bandwidths).head?.map (fun row => row.1.1) = some least ∧
      summaryLines ⟨bandwidths, some units⟩ =
        statistics s s!" - OST {least}" s!" - OST {most}" s!" - OST {middle}" := by
  have hplaces := Summary.places_of hs
  have hfound : ∀ {b : Binary64} {k : Nat}, (Binary64.sorted bandwidths)[k]? = some b →
      ∃ u, unitOf ⟨bandwidths, some units⟩ b = some u ∧ IsFirst units bandwidths b u := by
    intro b k hb
    exact unitOf_isFirst hplain hlength (Summary.mem_of_getElem?_sorted hb)
  obtain ⟨least, hleast, hleastFirst⟩ := hfound hplaces.min
  obtain ⟨most, hmost, hmostFirst⟩ := hfound hplaces.max
  obtain ⟨middle, hmiddle, hmiddleFirst⟩ := hfound hplaces.median
  obtain ⟨p, rest, hrows, hfirst⟩ := head_rows hplain hlength hplaces
  refine ⟨least, most, middle, hleastFirst, hmostFirst, hmiddleFirst, ?_, ?_⟩
  · rw [hrows]
    exact congrArg some (hfirst.unique hleastFirst)
  · rw [summaryLines_eq_statistics hs, label_eq hleast, label_eq hmost, label_eq hmiddle]

/-- **Bandwidths are attributed to the right targets.**  Transfers have plain bandwidths.  A report
on plain bandwidths names targets only if it was given one per bandwidth.  Then its lines are those
of all pairs of a target and a bandwidth at one position, each pair once, by ascending bandwidth and
in plan order among equal ones; and from two results on, the least, the greatest and the middle
bandwidth of the statistics carry the target of the first worker with exactly that bandwidth, which
for the least one is the target of the first line. -/
theorem of_attributes (hplain : ∀ b ∈ bandwidths, b.Plain) (given : Option (List Nat)) :
    (∀ bytes < 2 ^ 64, ∀ elapsed, (Bandwidth.of bytes elapsed).Plain) ∧
    ((∀ units ∈ given, units.length ≠ bandwidths.length) →
      ¬ "OST".toList <:+: (of bandwidths given).text.toList) ∧
    ∀ units ∈ given, units.length = bandwidths.length → ∃ listed : List Row,
      listed.Perm (units.zip bandwidths).zipIdx ∧ listed.Pairwise Before ∧
      (bandwidths.length < 2 →
        (of bandwidths given).text = String.join (listed.map line)) ∧
      (2 ≤ bandwidths.length → ∃ (s : Summary) (least most middle : Nat),
        Summary.of bandwidths = some s ∧
        IsFirst units bandwidths s.min least ∧ IsFirst units bandwidths s.max most ∧
        IsFirst units bandwidths s.median middle ∧
        listed.head?.map (fun row => row.1.1) = some least ∧
        (of bandwidths given).text = String.join (listed.map line) ++
          statistics s s!" - OST {least}" s!" - OST {most}" s!" - OST {middle}") := by
  refine ⟨fun bytes hbytes => Bandwidth.plain_of hbytes, ?_, ?_⟩
  · intro hnone hmention
    rw [of_mismatched hnone] at hmention
    exact upperO_not_mem_text_of_none (hmention.subset List.mem_cons_self)
  · rintro units hunits hlength
    obtain rfl : given = some units := hunits
    rw [of_matched hlength]
    refine ⟨rows units bandwidths, rows_perm units bandwidths, pairwise_rows hplain, ?_, ?_⟩
    · intro hfew
      rw [text_of_some, summaryLines_eq_empty (Summary.of_eq_none hfew), String.append_empty]
    · intro hmany
      obtain ⟨_, _, -, hs⟩ := Summary.of_eq_some hmany
      obtain ⟨least, most, middle, hleast, hmost, hmiddle, hhead, hlines⟩ :=
        summaryLines_attributes hplain hlength hs
      refine ⟨_, least, most, middle, hs, hleast, hmost, hmiddle, hhead, ?_⟩
      rw [text_of_some, hlines]

/-- Two targets of one bandwidth, and one target that is listed twice. -/
theorem of_attributes_ties : ∃ (s : Summary) (most middle : Nat),
    Summary.of [.one, .zero, .one, .zero] = some s ∧
    IsFirst [7, 9, 7, 5] [.one, .zero, .one, .zero] s.max most ∧
    IsFirst [7, 9, 7, 5] [.one, .zero, .one, .zero] s.median middle ∧
    (of [.one, .zero, .one, .zero] (some [7, 9, 7, 5])).text =
      String.join ([((9, .zero), 1), ((5, .zero), 3), ((7, .one), 0), ((7, .one), 2)].map line) ++
        statistics s " - OST 9" s!" - OST {most}" s!" - OST {middle}" := by
  have hplain : ∀ b ∈ [Binary64.one, .zero, .one, .zero], b.Plain := by
    simp only [List.forall_mem_cons]
    exact ⟨⟨rfl, rfl⟩, ⟨rfl, rfl⟩, ⟨rfl, rfl⟩, ⟨rfl, rfl⟩, nofun⟩
  obtain ⟨-, -, hrows⟩ := of_attributes hplain (some [7, 9, 7, 5])
  obtain ⟨listed, hperm, hpairwise, -, hmany⟩ := hrows [7, 9, 7, 5] rfl rfl
  obtain ⟨s, least, most, middle, hs, -, hmost, hmiddle, hhead, htext⟩ := hmany (by decide)
  have hexpected : [((9, .zero), 1), ((5, .zero), 3), ((7, .one), 0), ((7, .one), 2)].Perm
      ([7, 9, 7, 5].zip [Binary64.one, .zero, .one, .zero]).zipIdx := by decide
  have hantisymm : ∀ p ∈ [((9, .zero), 1), ((5, .zero), 3), ((7, .one), 0), ((7, .one), 2)],
      ∀ q ∈ [((9, .zero), 1), ((5, .zero), 3), ((7, .one), 0), ((7, .one), 2)],
        Before p q → Before q p → p = q := by decide +kernel
  obtain rfl : [((9, .zero), 1), ((5, .zero), 3), ((7, .one), 0), ((7, .one), 2)] = listed := by
    apply (hexpected.trans hperm.symm).eq_of_pairwise _ (by decide +kernel) hpairwise
    intro p q hp hq
    exact hantisymm p hp q (hexpected.mem_iff.mpr (hperm.mem_iff.mp hq))
  obtain rfl : 9 = least := Option.some.inj hhead
  exact ⟨s, most, middle, hs, hmost, hmiddle, htext⟩

end Report

end StripeTransfer
