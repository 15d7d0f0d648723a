/-
StripeTransfer/Proofs/Layout/Listing.lean

What is read from a listing.  The lines of a listing are described by what they
consist of: fields, the header of the targets, targets, lines that say nothing, and
lines that end the reading.  In a listing of a layout they come in one order
(`Listing.Written`), and the layout is read back from it, however its lines are
indented and ended, and whatever comes behind the targets.

For the other direction, a line that does not end the reading changes the state in
one of four ways (`Listing.Extends`).  So the stripe count of a layout that is read
is the one that the listing announces first, and no field is out of its bounds
(`Layout.ofListing_reads`).
-/
import StripeTransfer.Layout.Listing
import StripeTransfer.Proofs.Text.Blank
import StripeTransfer.Proofs.Text.Lead
import StripeTransfer.Proofs.Text.Numeral
import Mathlib

namespace StripeTransfer

open Text

namespace Layout

variable {l : Layout} {size count : Nat} {units : List Nat}

/-- The fields of a layout fit their widths: 64 bits for the size of a stripe, 32 bits for the number
of stripes and for every target. -/
structure Fits (l : Layout) : Prop where
  stripeSize_le : l.stripeSize ≤ max64
  stripeCount_le : l.stripeCount ≤ max32
  unit_le : ∀ unit ∈ l.units, unit ≤ max32

/-- A layout is known just if it has the announced number of targets. -/
theorem of_eq_ok_iff : Layout.of size count units = .ok l ↔
    l.stripeSize = size ∧ l.stripeCount = count ∧ l.units = units := by
  have hsize := l.stripeSize_pos
  have hcount := List.length_pos_iff.mpr l.units_ne_nil
  rw [Layout.of]
  split_ifs with hzero hnone hlength
  · simp only [false_iff]
    rintro ⟨rfl, -⟩
    omega
  · simp only [false_iff]
    rintro ⟨-, rfl, -⟩
    exact absurd hnone hcount.ne'
  · rw [Except.ok.injEq]
    constructor
    · rintro rfl
      exact ⟨rfl, hlength, rfl⟩
    · rintro ⟨rfl, -, rfl⟩
      rfl
  · simp only [false_iff]
    rintro ⟨-, hlength', rfl⟩
    exact hlength hlength'

end Layout

namespace Listing

variable {l l' : Listing} {layout : Layout} {line lead : List Char} {ls back : List (List Char)}
  {n : Nat}

/-! ### Lines -/

/-- What the field of the stripe count starts with. -/
def countLead : List Char := "lmm_stripe_count:".toList

/-- What the field of the stripe size starts with. -/
def sizeLead : List Char := "lmm_stripe_size:".toList

/-- What the header of the targets starts with. -/
def headerLead : List Char := "obdidx".toList

/-- What the lines that matter start with. -/
def leads : List (List Char) := [countLead, sizeLead, headerLead]

/-- A line that says nothing about the layout. -/
def IsIdle (line : List Char) : Prop := ∀ lead ∈ leads, ¬ lead <+: trim line

/-- A field with a number. -/
inductive IsField (lead : List Char) (n : Nat) : List Char → Prop
  | intro {indent gap numeral tail : List Char} :
      AllBlank indent → AllBlank gap → IsNumeral n numeral → AllBlank tail →
      IsField lead n (indent ++ (lead ++ (gap ++ numeral)) ++ tail)

/-- The header of the targets. -/
inductive IsHeader : List Char → Prop
  | intro {indent rest : List Char} :
      AllBlank indent → IsHeader (indent ++ (headerLead ++ rest))

/-- The line of a target: its first word is the index. -/
inductive IsTarget (n : Nat) : List Char → Prop
  | intro {indent numeral rest : List Char} :
      AllBlank indent → IsNumeral n numeral → EndsWord rest →
      IsTarget n (indent ++ numeral ++ rest)

/-- A line that ends the targets: nothing is in it, or its first word is no index. -/
inductive IsStop : List Char → Prop
  | blank {line : List Char} : AllBlank line → IsStop line
  | other {indent word rest : List Char} :
      AllBlank indent → word ≠ [] → (∀ c ∈ word, isBlank c = false) → EndsWord rest →
      count? max32 word = none → IsStop (indent ++ word ++ rest)

theorem lead_ne_nil : ∀ lead ∈ leads, lead ≠ [] := by decide

theorem isBlank_of_mem_lead (hlead : lead ∈ leads) : ∀ c ∈ lead, isBlank c = false := by
  have hall : leads.all (fun lead => lead.all (!isBlank ·)) = true := by decide
  simp only [List.all_eq_true, Bool.not_eq_true'] at hall
  exact hall lead hlead

/-- A line starts with one of these at most. -/
theorem lead_unique {other : List Char} (hlead : lead ∈ leads) (hother : other ∈ leads)
    (h : lead <+: line) (h' : other <+: line) : lead = other := by
  have hfree : ∀ a ∈ leads, ∀ b ∈ leads, a <+: b → a = b := by decide
  rcases List.prefix_or_prefix_of_prefix h h' with hstart | hstart
  · exact hfree lead hlead other hother hstart
  · exact (hfree other hother lead hlead hstart).symm

/-- What is read in a field, blanks aside, is its number. -/
theorem IsField.exists_value (h : IsField lead n line) (hlead : lead ∈ leads) :
    ∃ value, trim line = lead ++ value ∧ IsNumeral n (trim value) := by
  obtain @⟨indent, gap, numeral, tail, hindent, hgap, hnumeral, htail⟩ := h
  refine ⟨gap ++ numeral, ?_, ?_⟩
  · rw [trim_append hindent htail]
    apply trim_eq_self
    · rw [List.head?_append_of_ne_nil lead (lead_ne_nil lead hlead)]
      exact fun c hc => isBlank_of_mem_lead hlead c (List.mem_of_mem_head? hc)
    · rw [← List.append_assoc, List.getLast?_append_of_ne_nil _ hnumeral.ne_nil]
      exact fun c hc => hnumeral.isBlank_eq_false c (List.mem_of_getLast? hc)
  · have htrim : trim (gap ++ (numeral ++ [])) = numeral ++ [] :=
      trim_append_word hgap hnumeral.ne_nil hnumeral.isBlank_eq_false []
    rw [List.append_nil] at htrim
    rwa [htrim]

theorem IsHeader.starts (h : IsHeader line) : headerLead <+: trim line := by
  obtain @⟨indent, rest, hindent⟩ := h
  have hlead : headerLead ∈ leads := by decide
  rw [trim_append_word hindent (lead_ne_nil _ hlead) (isBlank_of_mem_lead hlead)]
  exact List.prefix_append ..

theorem IsTarget.head?_words (h : IsTarget n line) :
    ∃ word, (words (trim line)).head? = some word ∧ IsNumeral n word := by
  obtain @⟨indent, numeral, rest, hindent, hnumeral, hrest⟩ := h
  refine ⟨numeral, ?_, hnumeral⟩
  rw [words_trim]
  exact Text.head?_words hindent hnumeral.ne_nil hnumeral.isBlank_eq_false hrest

theorem IsStop.head?_words (h : IsStop line) :
    (words (trim line)).head?.bind (count? max32) = none := by
  rw [words_trim]
  cases h with
  | blank hline =>
    have hwords := words_append_of_allBlank hline []
    rw [List.append_nil] at hwords
    rw [hwords]
    rfl
  | other hindent hne hword hrest hnone =>
    rw [Text.head?_words hindent hne hword hrest]
    exact hnone

/-! ### One line -/

/-- Before the header of the targets, a line that starts like the field of the stripe count. -/
theorem readLine_count (hl : l.inTargets = false) (value : List Char) :
    l.readLine (countLead ++ value) =
      if l.stripeCount.isSome then .ok none
      else (readField "lmm_stripe_count" value).map fun n =>
        some { l with stripeCount := some n } := by
  have hno : ¬ l.inTargets = true := Bool.eq_false_iff.mp hl
  have hdrop : dropLead "lmm_stripe_count:".toList (countLead ++ value) = some value :=
    dropLead_append countLead value
  rw [readLine, if_neg hno, hdrop]
  rfl

/-- Before the header of the targets, a line that starts like the field of the stripe size. -/
theorem readLine_size (hl : l.inTargets = false) (value : List Char) :
    l.readLine (sizeLead ++ value) =
      (readField "lmm_stripe_size" value).map fun n => some { l with stripeSize := some n } := by
  have hno : ¬ l.inTargets = true := Bool.eq_false_iff.mp hl
  have hcount : dropLead "lmm_stripe_count:".toList (sizeLead ++ value) = none := by
    refine dropLead_eq_none_iff.mpr fun hstart => ?_
    have heq := lead_unique (by decide) (by decide) hstart (List.prefix_append sizeLead value)
    exact absurd heq (by decide)
  have hdrop : dropLead "lmm_stripe_size:".toList (sizeLead ++ value) = some value :=
    dropLead_append sizeLead value
  rw [readLine, if_neg hno, hcount, hdrop]
  rfl

/-- Before the header of the targets, any other line: it may be the header. -/
theorem readLine_other (hl : l.inTargets = false) (hcount : ¬ countLead <+: line)
    (hsize : ¬ sizeLead <+: line) :
    l.readLine line = .ok (some { l with inTargets := (dropLead headerLead line).isSome }) := by
  have hno : ¬ l.inTargets = true := Bool.eq_false_iff.mp hl
  have hcount' : dropLead "lmm_stripe_count:".toList line = none := dropLead_eq_none_iff.mpr hcount
  have hsize' : dropLead "lmm_stripe_size:".toList line = none := dropLead_eq_none_iff.mpr hsize
  rw [readLine, if_neg hno, hcount', hsize']
  show (if (dropLead headerLead line).isSome = true then _ else _) = _
  split_ifs with hheader
  · rw [hheader]
  · rw [Bool.eq_false_iff.mpr hheader, ← hl]

theorem readField_eq_ok_iff {name : String} {value : List Char} :
    readField name value = .ok n ↔ count? max64 (trim value) = some n := by
  simp only [readField]
  cases count? max64 (trim value) with
  | none => simp
  | some m => simp

/-- A field that takes effect has a number. -/
theorem count?_of_map_readField {name : String} {value : List Char} {f : Nat → Listing}
    (h : (readField name value).map (fun n => some (f n)) = .ok (some l')) :
    ∃ n, count? max64 (trim value) = some n ∧ f n = l' := by
  cases hread : readField name value with
  | error e =>
    rw [hread] at h
    cases h
  | ok n =>
    rw [hread] at h
    exact ⟨n, readField_eq_ok_iff.mp hread, Option.some.inj (Except.ok.inj h)⟩

theorem readLine_of_isIdle (h : IsIdle line) (hl : l.inTargets = false) :
    l.readLine (trim line) = .ok (some l) := by
  have hheader : dropLead headerLead (trim line) = none :=
    dropLead_eq_none_iff.mpr (h headerLead (by decide))
  rw [readLine_other hl (h countLead (by decide)) (h sizeLead (by decide)), hheader,
    Option.isSome_none, ← hl]

theorem readLine_of_count (h : IsField countLead n line) (hn : n ≤ max64)
    (hl : l.inTargets = false) (hcount : l.stripeCount = none) :
    l.readLine (trim line) = .ok (some { l with stripeCount := some n }) := by
  obtain ⟨value, hline, hnumeral⟩ := h.exists_value (by decide)
  have hread : readField "lmm_stripe_count" value = .ok n :=
    readField_eq_ok_iff.mpr (count?_of_isNumeral hnumeral hn)
  have hunset : ¬ l.stripeCount.isSome = true := by simp [hcount]
  rw [hline, readLine_count hl, if_neg hunset, hread]
  rfl

theorem readLine_of_size (h : IsField sizeLead n line) (hn : n ≤ max64)
    (hl : l.inTargets = false) :
    l.readLine (trim line) = .ok (some { l with stripeSize := some n }) := by
  obtain ⟨value, hline, hnumeral⟩ := h.exists_value (by decide)
  have hread : readField "lmm_stripe_size" value = .ok n :=
    readField_eq_ok_iff.mpr (count?_of_isNumeral hnumeral hn)
  rw [hline, readLine_size hl, hread]
  rfl

theorem readLine_of_isHeader (h : IsHeader line) (hl : l.inTargets = false) :
    l.readLine (trim line) = .ok (some { l with inTargets := true }) := by
  have hheader := h.starts
  have hother {lead : List Char} (hlead : lead ∈ leads) (hne : headerLead ≠ lead) :
      ¬ lead <+: trim line := fun hstart =>
    hne (lead_unique (by decide) hlead hheader hstart)
  obtain ⟨rest, hrest⟩ := hheader
  have hdrop : dropLead headerLead (trim line) = some rest := dropLead_eq_some_iff.mpr hrest.symm
  rw [readLine_other hl (hother (by decide) (by decide)) (hother (by decide) (by decide)), hdrop]
  rfl

theorem readLine_of_isTarget (h : IsTarget n line) (hn : n ≤ max32) (hl : l.inTargets = true) :
    l.readLine (trim line) = .ok (some { l with targets := n :: l.targets }) := by
  obtain ⟨word, hword, hnumeral⟩ := h.head?_words
  rw [readLine, if_pos hl, hword, Option.bind_some, count?_of_isNumeral hnumeral hn]

theorem readLine_of_isStop (h : IsStop line) (hl : l.inTargets = true) :
    l.readLine (trim line) = .ok none := by
  rw [readLine, if_pos hl, h.head?_words]

/-! ### Listings of a layout -/

/-- What may come behind the targets: nothing, or a line that ends them and any lines behind it. -/
def IsBack (ls : List (List Char)) : Prop := ∀ line ∈ ls.head?, IsStop line

/-- The lines of a listing of a layout: the two fields in either order, the header, and one line for
each target, with lines that say nothing before the header and any lines behind the targets. -/
inductive Written (layout : Layout) : List (List Char) → Prop
  | intro {first second header : List Char} {a b c targets back : List (List Char)} :
      (∀ line ∈ a ++ (b ++ c), IsIdle line) →
      (IsField countLead layout.stripeCount first ∧ IsField sizeLead layout.stripeSize second ∨
        IsField sizeLead layout.stripeSize first ∧ IsField countLead layout.stripeCount second) →
      IsHeader header → List.Forall₂ IsTarget layout.units targets → IsBack back →
      Written layout (a ++ first :: (b ++ second :: (c ++ header :: (targets ++ back))))

theorem readLines_cons (h : l.readLine (trim line) = .ok (some l')) :
    l.readLines (line :: ls) = l'.readLines ls := by
  rw [readLines, h]

theorem readLines_idle {idle : List (List Char)} (h : ∀ line ∈ idle, IsIdle line)
    (hl : l.inTargets = false) (ls : List (List Char)) :
    l.readLines (idle ++ ls) = l.readLines ls := by
  induction idle with
  | nil => rfl
  | cons line idle ih =>
    obtain ⟨hline, hidle⟩ := List.forall_mem_cons.mp h
    rw [List.cons_append, readLines_cons (readLine_of_isIdle hline hl), ih hidle]

theorem readLines_targets {units : List Nat} {targets : List (List Char)}
    (h : List.Forall₂ IsTarget units targets) (hunits : ∀ unit ∈ units, unit ≤ max32)
    (hl : l.inTargets = true) (ls : List (List Char)) :
    l.readLines (targets ++ ls) =
      readLines { l with targets := units.reverse ++ l.targets } ls := by
  induction h generalizing l with
  | nil => rfl
  | cons htarget _ ih =>
    obtain ⟨hunit, hunits⟩ := List.forall_mem_cons.mp hunits
    rw [List.cons_append, readLines_cons (readLine_of_isTarget htarget hunit hl),
      ih hunits (by exact hl), List.reverse_cons, List.append_assoc]
    rfl

/-- What comes behind the targets is not read. -/
theorem readLines_back (h : IsBack back) (hl : l.inTargets = true) : l.readLines back = .ok l := by
  cases back with
  | nil => rfl
  | cons line rest => rw [readLines, readLine_of_isStop (h line rfl) hl]

/-- **A listing of a layout is read as its fields and targets.** -/
theorem readLines_of_written (h : Written layout ls) (hfits : layout.Fits) :
    empty.readLines ls =
      .ok ⟨some layout.stripeCount, some layout.stripeSize, layout.units.reverse, true⟩ := by
  have hcount : layout.stripeCount ≤ max64 := hfits.stripeCount_le.trans (by decide)
  obtain @⟨first, second, header, a, b, c, targets, back, hidle, hfields, hheader, htargets,
    hback⟩ := h
  obtain ⟨ha, hbc⟩ := List.forall_mem_append.mp hidle
  obtain ⟨hb, hc⟩ := List.forall_mem_append.mp hbc
  -- once both fields are read, it does not matter which one came first
  have hrest (n m : Nat) : readLines ⟨some n, some m, [], false⟩
      (c ++ header :: (targets ++ back)) =
        .ok ⟨some n, some m, layout.units.reverse, true⟩ := by
    rw [readLines_idle hc rfl, readLines_cons (readLine_of_isHeader hheader rfl),
      readLines_targets htargets hfits.unit_le rfl, readLines_back hback rfl, List.append_nil]
  rw [readLines_idle ha rfl]
  rcases hfields with ⟨hfirst, hsecond⟩ | ⟨hfirst, hsecond⟩
  · rw [readLines_cons (readLine_of_count hfirst hcount rfl rfl), readLines_idle hb rfl,
      readLines_cons (readLine_of_size hsecond hfits.stripeSize_le rfl)]
    exact hrest _ _
  · rw [readLines_cons (readLine_of_size hfirst hfits.stripeSize_le rfl), readLines_idle hb rfl,
      readLines_cons (readLine_of_count hsecond hcount rfl rfl)]
    exact hrest _ _

/-- Blanks at the ends of lines do not matter. -/
theorem readLines_congr {ls' : List (List Char)} (h : ls.map trim = ls'.map trim) :
    l.readLines ls = l.readLines ls' := by
  induction ls generalizing l ls' with
  | nil =>
    obtain rfl := List.map_eq_nil_iff.mp h.symm
    rfl
  | cons line ls ih =>
    obtain ⟨line', rest, rfl, hline, hrest⟩ := List.map_eq_cons_iff.mp h.symm
    rw [readLines, readLines, hline]
    cases l.readLine (trim line) with
    | error e => rfl
    | ok next =>
      cases next with
      | none => rfl
      | some next => exact ih hrest.symm

/-- A listing has a layout just if its fields and targets make it up, and the count fits. -/
theorem toLayout_eq_ok_iff : l.toLayout = .ok layout ↔
    l.stripeCount = some layout.stripeCount ∧ l.stripeSize = some layout.stripeSize ∧
      l.targets.reverse = layout.units ∧ layout.stripeCount ≤ max32 := by
  cases hcount : l.stripeCount with
  | none => simp [toLayout, hcount]
  | some count =>
    cases hsize : l.stripeSize with
    | none => simp [toLayout, hcount, hsize]
    | some size =>
      simp only [toLayout, hcount, hsize, Option.some.injEq]
      split_ifs with hmax
      · simp only [false_iff]
        rintro ⟨rfl, -, -, hle⟩
        exact absurd hle hmax.not_ge
      · rw [Layout.of_eq_ok_iff]
        constructor
        · rintro ⟨rfl, rfl, hunits⟩
          exact ⟨rfl, rfl, hunits.symm, not_lt.mp hmax⟩
        · rintro ⟨rfl, rfl, hunits, -⟩
          exact ⟨rfl, rfl, hunits.symm⟩

/-! ### Any listing -/

/-- What a line that is read makes of the state. -/
inductive Extends (l : Listing) (line : List Char) : Listing → Prop
  /-- The line of a target. -/
  | target {n : Nat} :
      l.inTargets = true → n ≤ max32 → Extends l line { l with targets := n :: l.targets }
  /-- The first field of the stripe count. -/
  | count {value : List Char} {n : Nat} :
      l.inTargets = false → l.stripeCount = none → line = countLead ++ value →
      count? max64 (trim value) = some n → Extends l line { l with stripeCount := some n }
  /-- A field of the stripe size. -/
  | size {n : Nat} :
      l.inTargets = false → ¬ countLead <+: line → n ≤ max64 →
      Extends l line { l with stripeSize := some n }
  /-- Any other line; it may be the header of the targets. -/
  | other {header : Bool} :
      l.inTargets = false → ¬ countLead <+: line → Extends l line { l with inTargets := header }

/-- **A line that does not end the reading changes the state in one of these ways.** -/
theorem extends_of_readLine (h : l.readLine line = .ok (some l')) : Extends l line l' := by
  by_cases hl : l.inTargets = true
  · rw [readLine, if_pos hl] at h
    split at h
    next n hn =>
      obtain rfl := Option.some.inj (Except.ok.inj h)
      obtain ⟨word, -, hword⟩ := Option.bind_eq_some_iff.mp hn
      exact .target hl (le_of_count? hword)
    next => cases h
  · rw [Bool.not_eq_true] at hl
    by_cases hcount : countLead <+: line
    · obtain ⟨value, rfl⟩ := hcount
      rw [readLine_count hl] at h
      split_ifs at h with hset
      · cases h
      · obtain ⟨n, hn, rfl⟩ := count?_of_map_readField h
        exact .count hl (Option.not_isSome_iff_eq_none.mp hset) rfl hn
    · by_cases hsize : sizeLead <+: line
      · obtain ⟨value, rfl⟩ := hsize
        rw [readLine_size hl] at h
        obtain ⟨n, hn, rfl⟩ := count?_of_map_readField h
        exact .size hl hcount (le_of_count? hn)
      · rw [readLine_other hl hcount hsize] at h
        obtain rfl := Option.some.inj (Except.ok.inj h)
        exact .other hl hcount

/-- What every line keeps holds of what is read in the end. -/
theorem readLines_invariant {P : Listing → Prop}
    (hstep : ∀ l line l', Extends l line l' → P l → P l') (h : l.readLines ls = .ok l')
    (hl : P l) : P l' := by
  induction ls generalizing l with
  | nil =>
    obtain rfl := Except.ok.inj h
    exact hl
  | cons line ls ih =>
    rw [readLines] at h
    split at h
    next => cases h
    next =>
      obtain rfl := Except.ok.inj h
      exact hl
    next next hline => exact ih h (hstep l _ next (extends_of_readLine hline) hl)

/-- What is read fits the widths of a layout. -/
theorem le_of_readLines (h : empty.readLines ls = .ok l') :
    (∀ size, l'.stripeSize = some size → size ≤ max64) ∧ ∀ unit ∈ l'.targets, unit ≤ max32 := by
  refine readLines_invariant (P := fun l => (∀ size, l.stripeSize = some size → size ≤ max64) ∧
    ∀ unit ∈ l.targets, unit ≤ max32) ?_ h ⟨nofun, nofun⟩
  rintro l line l' hextends ⟨hsize, htargets⟩
  cases hextends with
  | target _ hn => exact ⟨hsize, List.forall_mem_cons.mpr ⟨hn, htargets⟩⟩
  | count => exact ⟨hsize, htargets⟩
  | size _ _ hn =>
    refine ⟨?_, htargets⟩
    rintro size ⟨⟩
    exact hn
  | other => exact ⟨hsize, htargets⟩

/-- The stripe count that the first field of it announces. -/
def announced? (ls : List (List Char)) : Option Nat :=
  (ls.findSome? fun line => dropLead countLead (trim line)).bind fun value =>
    count? max64 (trim value)

/-- Once the stripe count is known, or the targets have begun, it stays. -/
theorem stripeCount_of_settled (h : l.readLines ls = .ok l')
    (hl : l.inTargets = true ∨ l.stripeCount.isSome = true) : l'.stripeCount = l.stripeCount := by
  refine (readLines_invariant (P := fun next => (next.inTargets = true ∨
    l.stripeCount.isSome = true) ∧ next.stripeCount = l.stripeCount) ?_ h ⟨hl, rfl⟩).2
  rintro next line next' hextends ⟨hsettled, hcount⟩
  cases hextends with
  | target => exact ⟨hsettled, hcount⟩
  | count hno hnone =>
    -- a settled state has no place for a first field
    rw [← hcount, hno, hnone] at hsettled
    simp at hsettled
  | size => exact ⟨hsettled, hcount⟩
  | other hno => exact ⟨.inr (by simpa [hno] using hsettled), hcount⟩

/-- **The stripe count is the one that is announced first.** -/
theorem announced_of_readLines (h : l.readLines ls = .ok l') (hl : l.inTargets = false)
    (hcount : l.stripeCount = none) (hl' : l'.stripeCount = some n) : announced? ls = some n := by
  induction ls generalizing l with
  | nil =>
    obtain rfl := Except.ok.inj h
    rw [hcount] at hl'
    cases hl'
  | cons line ls ih =>
    rw [readLines] at h
    split at h
    next => cases h
    next =>
      obtain rfl := Except.ok.inj h
      rw [hcount] at hl'
      cases hl'
    next next hline =>
      -- the first field of the count has not been read, so the other lines do not announce anything
      have hskip (hstart : ¬ countLead <+: trim line) :
          announced? (line :: ls) = announced? ls := by
        rw [announced?, List.findSome?_cons, dropLead_eq_none_iff.mpr hstart]
        rfl
      cases extends_of_readLine hline with
      | target htargets =>
        rw [hl] at htargets
        cases htargets
      | @count value m _ _ hvalue hm =>
        have hstay := stripeCount_of_settled h (.inr rfl)
        rw [hl'] at hstay
        rw [announced?, List.findSome?_cons, hvalue, dropLead_append]
        exact hm.trans hstay.symm
      | size _ hstart => exact (hskip hstart).trans (ih h hl hcount)
      | @other header _ hstart =>
        cases header with
        | false => exact (hskip hstart).trans (ih h rfl hcount)
        | true =>
          -- behind the header no count is read any more, but there is one in the end
          have hstay := stripeCount_of_settled h (.inl rfl)
          rw [hl', hcount] at hstay
          cases hstay

end Listing

/-- **What is read from a listing.**  A layout is read back from every listing of it, in whatever way
its lines are taken from the text.  Any layout that is read has stripes of at least one byte, as many
targets as the first field announces and at least one, and fields within their widths. -/
theorem Layout.ofListing_reads (l : Layout) (text : String) :
    (l.Fits → (∃ ls, Lined ls text.toList ∧ Listing.Written l ls) →
      Layout.ofListing text = .ok l) ∧
    (Layout.ofListing text = .ok l →
      1 ≤ l.stripeSize ∧ 1 ≤ l.units.length ∧
        Listing.announced? (lines text.toList) = some l.units.length ∧ l.Fits) := by
  constructor
  · rintro hfits ⟨ls, hlined, hwritten⟩
    have hread := Listing.readLines_of_written hwritten hfits
    rw [← Listing.readLines_congr hlined.map_trim_lines] at hread
    have hlayout : Listing.toLayout ⟨some l.stripeCount, some l.stripeSize, l.units.reverse, true⟩ =
        .ok l :=
      Listing.toLayout_eq_ok_iff.mpr
        ⟨rfl, rfl, List.reverse_reverse l.units, hfits.stripeCount_le⟩
    rw [Layout.ofListing, hread]
    exact hlayout
  · intro hread
    rw [Layout.ofListing] at hread
    cases hlisting : Listing.empty.readLines (lines text.toList) with
    | error e =>
      rw [hlisting] at hread
      cases hread
    | ok listing =>
      rw [hlisting] at hread
      obtain ⟨hcount, hsize, hunits, hle⟩ := Listing.toLayout_eq_ok_iff.mp hread
      obtain ⟨hsizeLe, hunitLe⟩ := Listing.le_of_readLines hlisting
      refine ⟨l.stripeSize_pos, List.length_pos_iff.mpr l.units_ne_nil,
        Listing.announced_of_readLines hlisting rfl rfl hcount, hsizeLe _ hsize, hle, ?_⟩
      intro unit hunit
      rw [← hunits, List.mem_reverse] at hunit
      exact hunitLe unit hunit

/-- The listing of a file with two components. -/
def composite : String :=
  "f\n lmm_stripe_size: 64\r\n\tlmm_stripe_count:  2 \n" ++
    "obdidx\tobjid\n\t5\t0x2\n\t6\n\nlmm_stripe_count: 8"

/-- The layout of the first component is read, with its fields in the other order. -/
theorem Layout.ofListing_reads_composite :
    let l : Layout := ⟨64, [5, 6], by decide, by decide⟩
    (l.Fits ∧ ∃ ls, Lined ls composite.toList ∧ Listing.Written l ls) ∧
      Layout.ofListing composite = .ok l ∧
      Listing.announced? (lines composite.toList) = some 2 := by
  intro l
  have hfits : l.Fits := ⟨by decide, by decide, by decide⟩
  have hnothing : AllBlank [] ∧ AllBlank [' '] ∧ AllBlank [' ', ' '] ∧ AllBlank ['\t'] := by decide
  obtain ⟨hempty, hspace, hspaces, htab⟩ := hnothing
  have hlines : lines composite.toList =
      ["f".toList] ++ ([' '] ++ (Listing.sizeLead ++ ([' '] ++ Nat.toDigits 10 64)) ++ []) ::
        ([] ++ (['\t'] ++ (Listing.countLead ++ ([' ', ' '] ++ Nat.toDigits 10 2)) ++ [' ']) ::
          ([] ++ ([] ++ (Listing.headerLead ++ "\tobjid".toList)) ::
            ([['\t'] ++ Nat.toDigits 10 5 ++ "\t0x2".toList, ['\t'] ++ Nat.toDigits 10 6 ++ []] ++
              [[], "lmm_stripe_count: 8".toList]))) := by decide +kernel
  have hidle : ∀ line ∈ ["f".toList] ++ ([] ++ []), Listing.IsIdle line := by
    intro line hline
    obtain rfl := List.mem_singleton.mp hline
    unfold Listing.IsIdle
    decide
  have hwritten : Listing.Written l (lines composite.toList) := by
    rw [hlines]
    refine .intro hidle (.inr ⟨.intro hspace hspace (isNumeral_toDigits 64) hempty,
      .intro htab hspaces (isNumeral_toDigits 2) hspace⟩) (.intro hempty) ?_ ?_
    · have hend : EndsWord "\t0x2".toList := by rintro c ⟨⟩; rfl
      exact .cons (.intro htab (isNumeral_toDigits 5) hend)
        (.cons (.intro htab (isNumeral_toDigits 6) nofun) .nil)
    · rintro _ ⟨⟩
      exact .blank hempty
  have hlisted : ∃ ls, Lined ls composite.toList ∧ Listing.Written l ls :=
    ⟨_, lined_lines composite.toList, hwritten⟩
  have hread := (Layout.ofListing_reads l composite).1 hfits hlisted
  exact ⟨⟨hfits, hlisted⟩, hread, ((Layout.ofListing_reads l composite).2 hread).2.2.1⟩

end StripeTransfer
