/-
StripeTransfer/Proofs/Store/Markup.lean

Which element is found in a markup.  Tags are described by what they consist of
(`Markup.Opening`, `Markup.Closing`), and a search by where its tag stands: no tag
of the kind starts earlier (`Leftmost`).

The reader tries every place where an opening tag starts, until there is one with a
closing tag behind it.  The first place decides all the same
(`Markup.findElement_eq_some_iff`): an opening tag ends at the first closing bracket
behind it, so one that starts later does not end earlier, and has no closing tag
behind it that the first one does not have.
-/
import StripeTransfer.Proofs.Text.CaseFold
import StripeTransfer.Store.Markup
import Mathlib

namespace StripeTransfer

open Text

/-! ### Leftmost tags -/

section Leftmost

variable {Tag : List Char → Prop} {s front tag back : List Char} {c : Char}

/-- Whether a text starts with a tag of a kind. -/
def StartsWith (Tag : List Char → Prop) (s : List Char) : Prop :=
  ∃ tag back, Tag tag ∧ s = tag ++ back

/-- The leftmost tag of a kind in a text, with what stands before and behind it. -/
structure Leftmost (Tag : List Char → Prop) (s front tag back : List Char) : Prop where
  eq : s = front ++ (tag ++ back)
  tag : Tag tag
  /-- No tag of the kind starts earlier. -/
  least : ∀ before after, s = before ++ after → StartsWith Tag after → front.length ≤ before.length

theorem Leftmost.here (h : Tag tag) : Leftmost Tag (tag ++ back) [] tag back :=
  ⟨rfl, h, fun _ _ _ _ => Nat.zero_le _⟩

/-- What is at the start of a text is leftmost. -/
theorem Leftmost.front_eq_nil (h : Leftmost Tag s front tag back) (hs : StartsWith Tag s) :
    front = [] :=
  List.eq_nil_of_length_eq_zero (Nat.le_zero.mp (h.least [] s rfl hs))

theorem not_leftmost_nil (h : ¬ Tag []) : ¬ Leftmost Tag [] front tag back := by
  intro hleft
  obtain ⟨-, hrest⟩ := List.append_eq_nil_iff.mp hleft.eq.symm
  obtain ⟨rfl, -⟩ := List.append_eq_nil_iff.mp hrest
  exact h hleft.tag

/-- Where no tag starts, the leftmost one is further behind. -/
theorem leftmost_cons (h : ¬ StartsWith Tag (c :: s)) : Leftmost Tag (c :: s) front tag back ↔
    ∃ front', front = c :: front' ∧ Leftmost Tag s front' tag back := by
  constructor
  · intro hleft
    rcases front with - | ⟨d, front⟩
    · exact absurd ⟨tag, back, hleft.tag, hleft.eq⟩ h
    · obtain ⟨rfl, hs⟩ := List.cons.inj hleft.eq
      refine ⟨front, rfl, hs, hleft.tag, fun before after heq hafter => ?_⟩
      have hle := hleft.least (c :: before) after (congrArg (c :: ·) heq) hafter
      exact Nat.le_of_succ_le_succ hle
  · rintro ⟨front', rfl, hleft⟩
    refine ⟨congrArg (c :: ·) hleft.eq, hleft.tag, ?_⟩
    rintro (- | ⟨d, before⟩) after heq hafter
    · exact absurd (heq ▸ hafter) h
    · obtain ⟨-, hs⟩ := List.cons.inj heq
      exact Nat.succ_le_succ (hleft.least before after hs hafter)

/-- If there is a tag of the kind, one of them is leftmost. -/
theorem exists_leftmost (h : ¬ Tag [])
    (hs : ∃ before after, s = before ++ after ∧ StartsWith Tag after) :
    ∃ front tag back, Leftmost Tag s front tag back := by
  induction s with
  | nil =>
    obtain ⟨before, after, heq, tag, back, htag, rfl⟩ := hs
    obtain ⟨-, hrest⟩ := List.append_eq_nil_iff.mp heq.symm
    obtain ⟨rfl, -⟩ := List.append_eq_nil_iff.mp hrest
    exact absurd htag h
  | cons c s ih =>
    by_cases hstart : StartsWith Tag (c :: s)
    · obtain ⟨tag, back, htag, heq⟩ := hstart
      exact ⟨[], tag, back, heq ▸ Leftmost.here htag⟩
    · obtain ⟨before, after, heq, hafter⟩ := hs
      rcases before with - | ⟨d, before⟩
      · exact absurd (heq ▸ hafter) hstart
      · obtain ⟨front, tag, back, hleft⟩ := ih ⟨before, after, (List.cons.inj heq).2, hafter⟩
        exact ⟨c :: front, tag, back, (leftmost_cons hstart).mpr ⟨front, rfl, hleft⟩⟩

end Leftmost

namespace Markup

variable {name s q n a tag after text : List Char} {c : Char}

/-! ### Tags -/

/-- What may stand before the name in a tag: nothing, or a run of word characters and a colon. -/
def IsQualifier (q : List Char) : Prop :=
  q = [] ∨ ∃ w, w ≠ [] ∧ (∀ c ∈ w, isWordChar c = true) ∧ q = w ++ [':']

/-- A name, regardless of case. -/
def IsName (name n : List Char) : Prop := List.Forall₂ IsCaseOf name n

/-- What may stand behind the name in an opening tag: nothing, or a blank and anything but a
closing bracket. -/
def IsAttributes (a : List Char) : Prop :=
  a = [] ∨ ∃ c rest, isBlank c = true ∧ '>' ∉ rest ∧ a = c :: rest

/-- The tags that open an element of a name. -/
inductive Opening (name : List Char) : List Char → Prop
  | intro {q n a : List Char} : IsQualifier q → IsName name n → IsAttributes a →
      Opening name ('<' :: (q ++ (n ++ (a ++ ['>']))))

/-- The tags that close an element of a name. -/
inductive Closing (name : List Char) : List Char → Prop
  | intro {q n : List Char} : IsQualifier q → IsName name n →
      Closing name ('<' :: '/' :: (q ++ (n ++ ['>'])))

/-! ### Reading tags -/

theorem dropName_eq_some_iff (hname : ∀ c ∈ name, isLetter c = true) :
    dropName name s = some after ↔ ∃ n, IsName name n ∧ s = n ++ after := by
  induction name generalizing s with
  | nil =>
    simp only [dropName, IsName, List.forall₂_nil_left_iff, exists_eq_left, List.nil_append,
      Option.some.injEq]
  | cons a name ih =>
    obtain ⟨ha, hname⟩ := List.forall_mem_cons.mp hname
    constructor
    · intro h
      cases s with
      | nil => cases h
      | cons c s =>
        rw [dropName] at h
        split_ifs at h with hc
        obtain ⟨n, hn, rfl⟩ := (ih hname).mp h
        exact ⟨c :: n, .cons ((sameFold_iff ha).mp hc) hn, rfl⟩
    · rintro ⟨n, hn, rfl⟩
      cases hn with
      | cons hc hn =>
        rw [List.cons_append, dropName, if_pos ((sameFold_iff ha).mpr hc)]
        exact (ih hname).mpr ⟨_, hn, rfl⟩

theorem dropQualifier_eq_some_iff : dropQualifier s = some after ↔
    ∃ w, w ≠ [] ∧ (∀ c ∈ w, isWordChar c = true) ∧ s = w ++ [':'] ++ after := by
  constructor
  · intro h
    unfold dropQualifier at h
    split at h
    next c w after' hw hrest =>
      obtain rfl := Option.some.inj h
      refine ⟨c :: w, List.cons_ne_nil c w, ?_, ?_⟩
      · intro d hd
        rw [← hw] at hd
        exact List.mem_takeWhile_imp hd
      · rw [← hw, List.append_assoc, List.singleton_append, ← hrest,
          List.takeWhile_append_dropWhile]
    next => cases h
  · rintro ⟨w, hne, hw, rfl⟩
    obtain ⟨c, w, rfl⟩ := List.exists_cons_of_ne_nil hne
    have hcolon : isWordChar ':' = false := by decide +kernel
    rw [dropQualifier, List.append_assoc, List.singleton_append,
      List.takeWhile_append_of_pos hw, List.dropWhile_append_of_pos hw,
      List.takeWhile_cons_of_neg (by simp [hcolon]), List.dropWhile_cons_of_neg (by simp [hcolon])]
    rfl

theorem mem_nameStarts : after ∈ nameStarts s ↔ ∃ q, IsQualifier q ∧ s = q ++ after := by
  rw [nameStarts, List.mem_append, Option.mem_toList, dropQualifier_eq_some_iff,
    List.mem_singleton]
  constructor
  · rintro (⟨w, hne, hw, rfl⟩ | rfl)
    · exact ⟨w ++ [':'], .inr ⟨w, hne, hw, rfl⟩, rfl⟩
    · exact ⟨[], .inl rfl, rfl⟩
  · rintro ⟨q, rfl | ⟨w, hne, hw, rfl⟩, rfl⟩
    · exact .inr rfl
    · exact .inl ⟨w, hne, hw, rfl⟩

/-- Behind a blank, the attributes reach up to the next closing bracket. -/
theorem dropAttributes_blank (hblank : isBlank c = true) (s : List Char) :
    dropAttributes (c :: s) =
      match s.dropWhile (· != '>') with
      | [] => none
      | _ :: rest => some rest := by
  have hc : c ≠ '>' := by
    rintro rfl
    exact absurd hblank (by decide)
  unfold dropAttributes
  split
  next heq => cases heq
  next heq => exact absurd (List.cons.inj heq).1 hc
  next heq =>
    obtain ⟨rfl, rfl⟩ := List.cons.inj heq
    exact if_pos hblank

theorem dropAttributes_eq_some_iff : dropAttributes s = some after ↔
    ∃ a, IsAttributes a ∧ s = a ++ (['>'] ++ after) := by
  constructor
  · intro h
    unfold dropAttributes at h
    split at h
    next => cases h
    next rest =>
      obtain rfl := Option.some.inj h
      exact ⟨[], .inl rfl, rfl⟩
    next c rest _ =>
      split_ifs at h with hblank
      split at h
      next => cases h
      next d after' hrest =>
        obtain rfl := Option.some.inj h
        -- what stops the search is the first closing bracket
        obtain rfl : d = '>' := by
          have hstop := List.head?_dropWhile_not (· != '>') rest
          simpa [hrest] using hstop
        have hfree : '>' ∉ rest.takeWhile (· != '>') := fun hmem => by
          simpa using List.mem_takeWhile_imp hmem
        refine ⟨c :: rest.takeWhile (· != '>'), .inr ⟨c, _, hblank, hfree, rfl⟩, ?_⟩
        rw [List.cons_append, List.singleton_append, ← hrest, List.takeWhile_append_dropWhile]
  · rintro ⟨a, rfl | ⟨c, rest, hblank, hfree, rfl⟩, rfl⟩
    · rfl
    · have hrest : ∀ d ∈ rest, (d != '>') = true := fun d hd =>
        bne_iff_ne.mpr fun heq => hfree (heq ▸ hd)
      rw [List.cons_append, dropAttributes_blank hblank, List.dropWhile_append_of_pos hrest]
      rfl

theorem mem_afterOpening (hname : ∀ c ∈ name, isLetter c = true) :
    after ∈ afterOpening name s ↔ ∃ tag, Opening name tag ∧ '<' :: s = tag ++ after := by
  rw [afterOpening, List.mem_filterMap]
  constructor
  · rintro ⟨rest, hrest, h⟩
    obtain ⟨q, hq, rfl⟩ := mem_nameStarts.mp hrest
    obtain ⟨rest', hname', hattributes⟩ := Option.bind_eq_some_iff.mp h
    obtain ⟨n, hn, rfl⟩ := (dropName_eq_some_iff hname).mp hname'
    obtain ⟨a, ha, rfl⟩ := dropAttributes_eq_some_iff.mp hattributes
    exact ⟨_, .intro hq hn ha, by simp⟩
  · rintro ⟨tag, ⟨hq, hn, ha⟩, heq⟩
    obtain ⟨-, rfl⟩ := List.cons.inj heq
    refine ⟨_, mem_nameStarts.mpr ⟨_, hq, List.append_assoc ..⟩, Option.bind_eq_some_iff.mpr
      ⟨_, (dropName_eq_some_iff hname).mpr ⟨_, hn, List.append_assoc ..⟩, ?_⟩⟩
    exact dropAttributes_eq_some_iff.mpr ⟨_, ha, List.append_assoc ..⟩

theorem startsClosing_iff (hname : ∀ c ∈ name, isLetter c = true) :
    startsClosing name s = true ↔ StartsWith (Closing name) s := by
  constructor
  · intro h
    unfold startsClosing at h
    split at h
    next s =>
      obtain ⟨rest, hrest, hfound⟩ := List.any_eq_true.mp h
      obtain ⟨q, hq, rfl⟩ := mem_nameStarts.mp hrest
      obtain ⟨rest', hname', hbracket⟩ := Option.bind_eq_some_iff.mp (beq_iff_eq.mp hfound)
      obtain ⟨n, hn, rfl⟩ := (dropName_eq_some_iff hname).mp hname'
      obtain ⟨back, rfl⟩ := List.head?_eq_some_iff.mp hbracket
      exact ⟨_, back, .intro hq hn, by simp⟩
    next => cases h
  · rintro ⟨tag, back, ⟨hq, hn⟩, rfl⟩
    have hbracket := (dropName_eq_some_iff hname).mpr ⟨_, hn, List.append_assoc _ ['>'] back⟩
    exact List.any_eq_true.mpr ⟨_, mem_nameStarts.mpr ⟨_, hq, List.append_assoc ..⟩, by
      rw [hbracket]
      rfl⟩

theorem not_closing_nil : ¬ Closing name [] := nofun

theorem not_opening_nil : ¬ Opening name [] := nofun

/-- The text up to the leftmost closing tag. -/
theorem untilClosing_eq_some_iff (hname : ∀ c ∈ name, isLetter c = true) :
    untilClosing name s = some text ↔ ∃ tag back, Leftmost (Closing name) s text tag back := by
  induction s generalizing text with
  | nil =>
    have hnone : untilClosing name [] = none := rfl
    rw [hnone]
    refine ⟨nofun, ?_⟩
    rintro ⟨tag, back, h⟩
    exact absurd h (not_leftmost_nil not_closing_nil)
  | cons c s ih =>
    rw [untilClosing]
    split_ifs with hstart
    · rw [startsClosing_iff hname] at hstart
      constructor
      · intro h
        obtain rfl := Option.some.inj h
        obtain ⟨tag, back, htag, heq⟩ := hstart
        exact ⟨tag, back, heq ▸ Leftmost.here htag⟩
      · rintro ⟨tag, back, h⟩
        rw [h.front_eq_nil hstart]
    · rw [startsClosing_iff hname] at hstart
      simp only [Option.map_eq_some_iff, ih, leftmost_cons hstart]
      constructor
      · rintro ⟨front, ⟨tag, back, h⟩, rfl⟩
        exact ⟨tag, back, front, rfl, h⟩
      · rintro ⟨tag, back, front, rfl, h⟩
        exact ⟨front, ⟨tag, back, h⟩, rfl⟩

/-- Where a closing tag is anywhere, one is found. -/
theorem exists_untilClosing (hname : ∀ c ∈ name, isLetter c = true) {front : List Char}
    (h : Closing name tag) (hs : s = front ++ (tag ++ after)) :
    ∃ text, untilClosing name s = some text := by
  obtain ⟨text, tag', back, hleft⟩ :=
    exists_leftmost not_closing_nil ⟨front, _, hs, tag, after, h, rfl⟩
  exact ⟨text, (untilClosing_eq_some_iff hname).mpr ⟨tag', back, hleft⟩⟩

/-- A text without an opening bracket reaches up to the closing tag behind it. -/
theorem leftmost_closing (hfree : '<' ∉ text) (h : Closing name tag) (back : List Char) :
    Leftmost (Closing name) (text ++ (tag ++ back)) text tag back := by
  refine ⟨rfl, h, ?_⟩
  rintro before after heq ⟨tag', back', ⟨-, -⟩, rfl⟩
  rcases List.append_eq_append_iff.mp heq with ⟨gap, rfl, -⟩ | ⟨gap, rfl, hgap⟩
  · exact List.length_append ▸ Nat.le_add_right ..
  · -- a tag within the text would bring its bracket with it
    rcases gap with - | ⟨c, gap⟩
    · rw [List.append_nil]
    · obtain ⟨rfl, -⟩ := List.cons.inj hgap
      exact absurd (List.mem_append_right before List.mem_cons_self) hfree

/-! ### Where opening tags end -/

/-- Behind a character that is new in a text, no less stands than behind any other of its
occurrences. -/
theorem suffix_of_not_mem {front before rest : List Char} (h : c ∉ front)
    (heq : front ++ c :: after = before ++ c :: rest) : rest <:+ after := by
  rcases List.append_eq_append_iff.mp heq with ⟨gap, rfl, hafter⟩ | ⟨gap, rfl, hrest⟩
  · cases gap with
    | nil => exact (List.cons.inj hafter).2 ▸ List.suffix_rfl
    | cons d gap => exact ⟨gap ++ [c], by rw [(List.cons.inj hafter).2]; simp⟩
  · cases gap with
    | nil => exact (List.cons.inj hrest).2 ▸ List.suffix_rfl
    | cons d gap =>
      obtain ⟨rfl, -⟩ := List.cons.inj hrest
      exact absurd (by simp) h

theorem IsQualifier.bracket_not_mem (h : IsQualifier q) : '>' ∉ q := by
  obtain rfl | ⟨w, -, hw, rfl⟩ := h
  · exact List.not_mem_nil
  · intro hmem
    rcases List.mem_append.mp hmem with hmem | hmem
    · exact absurd (hw '>' hmem) (by decide +kernel)
    · exact absurd hmem (by decide)

theorem IsName.bracket_not_mem (hname : ∀ c ∈ name, isLetter c = true) (h : IsName name n) :
    '>' ∉ n := by
  induction h with
  | nil => exact List.not_mem_nil
  | @cons a c name n hc _ ih =>
    obtain ⟨ha, hname⟩ := List.forall_mem_cons.mp hname
    rw [List.mem_cons, not_or]
    refine ⟨?_, ih hname⟩
    rintro rfl
    rcases hc with hc | ⟨-, hc⟩ | ⟨-, hc⟩
    · have hlo := (toNat_asciiLower ha).1
      rw [← hc] at hlo
      exact absurd hlo (by decide)
    · exact absurd hc (by decide)
    · exact absurd hc (by decide)

theorem IsAttributes.bracket_not_mem (h : IsAttributes a) : '>' ∉ a := by
  obtain rfl | ⟨c, rest, hblank, hrest, rfl⟩ := h
  · exact List.not_mem_nil
  · rw [List.mem_cons, not_or]
    refine ⟨?_, hrest⟩
    rintro rfl
    exact absurd hblank (by decide)

/-- An opening tag ends with the first closing bracket in it. -/
theorem Opening.exists_eq (hname : ∀ c ∈ name, isLetter c = true) (h : Opening name tag) :
    ∃ inner, '>' ∉ inner ∧ tag = inner ++ ['>'] := by
  obtain @⟨q, n, a, hq, hn, ha⟩ := h
  refine ⟨'<' :: (q ++ (n ++ a)), ?_, by simp⟩
  simp [hq.bracket_not_mem, hn.bracket_not_mem hname, ha.bracket_not_mem]

/-- **An opening tag that starts later does not end earlier.** -/
theorem Opening.suffix (hname : ∀ c ∈ name, isLetter c = true) {tag' after' : List Char}
    (h : Opening name tag) (h' : Opening name tag') (before : List Char)
    (heq : tag ++ after = before ++ (tag' ++ after')) : after' <:+ after := by
  obtain ⟨inner, hfree, rfl⟩ := h.exists_eq hname
  obtain ⟨inner', -, rfl⟩ := h'.exists_eq hname
  have heq' : inner ++ '>' :: after = (before ++ inner') ++ '>' :: after' := by simpa using heq
  exact suffix_of_not_mem hfree heq'

/-- A text does not start with two different opening tags. -/
theorem Opening.after_eq (hname : ∀ c ∈ name, isLetter c = true) {tag' after' : List Char}
    (h : Opening name tag) (h' : Opening name tag') (heq : tag ++ after = tag' ++ after') :
    after = after' :=
  (h'.suffix hname h [] heq.symm).eq_of_length_le (h.suffix hname h' [] heq).length_le

/-- Behind a text that holds no opening tag, the leftmost one ends where the next one does, even if
it starts earlier. -/
theorem exists_leftmost_opening (hname : ∀ c ∈ name, isLetter c = true) {before : List Char}
    (hbefore : ∀ tag', Opening name tag' → ¬ tag' <:+: before) (h : Opening name tag)
    (after : List Char) :
    ∃ front tag', Leftmost (Opening name) (before ++ (tag ++ after)) front tag' after := by
  obtain ⟨front, tag', back, hleft⟩ :=
    exists_leftmost not_opening_nil ⟨before, tag ++ after, rfl, tag, after, h, rfl⟩
  refine ⟨front, tag', ?_⟩
  have hle := hleft.least before (tag ++ after) rfl ⟨tag, after, h, rfl⟩
  obtain ⟨gap, rfl⟩ : front <+: before :=
    List.prefix_of_prefix_length_le ⟨tag' ++ back, hleft.eq.symm⟩ ⟨tag ++ after, rfl⟩ hle
  have heq : tag' ++ back = gap ++ (tag ++ after) := by simpa using hleft.eq.symm
  obtain ⟨extra, rfl⟩ := hleft.tag.suffix hname h gap heq
  rw [← List.append_assoc, ← List.append_assoc] at heq
  have hcut := List.append_cancel_right heq
  obtain ⟨inner, hfree, rfl⟩ := h.exists_eq hname
  obtain ⟨inner', -, htag'⟩ := hleft.tag.exists_eq hname
  rcases List.eq_nil_or_concat' extra with rfl | ⟨extra, d, rfl⟩
  · exact hleft
  · -- the leftmost tag would end before the next one does, in the text that holds none
    exfalso
    have hlast : (inner' ++ '>' :: extra) ++ [d] = (gap ++ inner) ++ ['>'] := by
      rw [htag'] at hcut
      simpa using hcut
    have hcut := (List.append_inj' hlast rfl).1
    rcases List.append_eq_append_iff.mp hcut with ⟨more, rfl, hmore⟩ | ⟨more, -, hmore⟩
    · rcases more with - | ⟨e, more⟩
      · exact hfree (by simp [← hmore.trans (List.nil_append inner)])
      · obtain ⟨rfl, -⟩ := List.cons.inj hmore
        exact hbefore tag' hleft.tag ⟨front, more, by rw [htag']; simp⟩
    · exact hfree (by simp [hmore])

/-! ### The first element -/

/-- A text stands between the leftmost opening tag and the leftmost closing tag behind it. -/
def IsFirst (name s text : List Char) : Prop :=
  ∃ front opening rest closing back, Leftmost (Opening name) s front opening rest ∧
    Leftmost (Closing name) rest text closing back

theorem findElement_of_not_startsWith (hname : ∀ c ∈ name, isLetter c = true)
    (h : ¬ StartsWith (Opening name) (c :: s)) :
    findElement name (c :: s) = findElement name s := by
  by_cases hc : c = '<'
  · subst hc
    have hnone : afterOpening name s = [] := by
      rw [List.eq_nil_iff_forall_not_mem]
      intro after hmem
      obtain ⟨tag, htag, heq⟩ := (mem_afterOpening hname).mp hmem
      exact h ⟨tag, after, htag, heq⟩
    rw [findElement, hnone]
    rfl
  · rw [findElement]
    exact hc

/-- What is found stands behind an opening tag. -/
theorem exists_opening_of_findElement (hname : ∀ c ∈ name, isLetter c = true)
    (h : findElement name s = some text) : ∃ before tag after, s = before ++ (tag ++ after) ∧
      Opening name tag ∧ untilClosing name after = some text := by
  induction s with
  | nil => cases h
  | cons c s ih =>
    by_cases hc : c = '<'
    · subst hc
      rw [findElement] at h
      split at h
      next text' hfind =>
        obtain rfl := Option.some.inj h
        obtain ⟨after, hmem, htext⟩ := List.exists_of_findSome?_eq_some hfind
        obtain ⟨tag, htag, heq⟩ := (mem_afterOpening hname).mp hmem
        exact ⟨[], tag, after, heq, htag, htext⟩
      next =>
        obtain ⟨before, tag, after, rfl, htag, htext⟩ := ih h
        exact ⟨'<' :: before, tag, after, rfl, htag, htext⟩
    · rw [findElement] at h
      · obtain ⟨before, tag, after, rfl, htag, htext⟩ := ih h
        exact ⟨c :: before, tag, after, rfl, htag, htext⟩
      · exact hc

/-- **The first opening tag decides**: if no closing tag is behind it, there is none behind a later
one. -/
theorem findElement_append (hname : ∀ c ∈ name, isLetter c = true) (h : Opening name tag)
    (after : List Char) : findElement name (tag ++ after) = untilClosing name after := by
  obtain ⟨s, hs⟩ : ∃ s, tag ++ after = '<' :: s := by
    cases h
    exact ⟨_, rfl⟩
  have hmem : after ∈ afterOpening name s := (mem_afterOpening hname).mpr ⟨tag, h, hs.symm⟩
  rw [hs, findElement]
  split
  next text hfind =>
    obtain ⟨after', hmem', htext⟩ := List.exists_of_findSome?_eq_some hfind
    obtain ⟨tag', htag', heq⟩ := (mem_afterOpening hname).mp hmem'
    rw [h.after_eq hname htag' (hs.trans heq), htext]
  next hfind =>
    have hnone : untilClosing name after = none := List.findSome?_eq_none_iff.mp hfind after hmem
    rw [hnone, Option.eq_none_iff_forall_ne_some]
    intro text hlater
    obtain ⟨before, tag', after', rfl, htag', htext⟩ := exists_opening_of_findElement hname hlater
    -- the closing tag behind the later tag is behind the first one, too
    obtain ⟨gap, rfl⟩ := h.suffix hname htag' ('<' :: before) hs
    obtain ⟨closing, back, hclosing⟩ := (untilClosing_eq_some_iff hname).mp htext
    have hplace : gap ++ after' = (gap ++ text) ++ (closing ++ back) := by
      rw [hclosing.eq, List.append_assoc]
    obtain ⟨text', htext'⟩ := exists_untilClosing hname hclosing.tag hplace
    rw [hnone] at htext'
    cases htext'

/-- **What is found is the first element**: the text between the leftmost opening tag and the
leftmost closing tag behind it. -/
theorem findElement_eq_some_iff (hname : ∀ c ∈ name, isLetter c = true) :
    findElement name s = some text ↔ IsFirst name s text := by
  induction s with
  | nil =>
    refine ⟨nofun, ?_⟩
    rintro ⟨front, opening, rest, closing, back, h, -⟩
    exact absurd h (not_leftmost_nil not_opening_nil)
  | cons c s ih =>
    by_cases hstart : StartsWith (Opening name) (c :: s)
    · obtain ⟨tag, after, htag, heq⟩ := id hstart
      rw [heq, findElement_append hname htag, untilClosing_eq_some_iff hname, ← heq]
      constructor
      · rintro ⟨closing, back, h⟩
        exact ⟨[], tag, after, closing, back, heq ▸ Leftmost.here htag, h⟩
      · rintro ⟨front, opening, rest, closing, back, hopening, h⟩
        obtain rfl := hopening.front_eq_nil hstart
        have hrest := hopening.tag.after_eq hname htag (hopening.eq.symm.trans heq)
        exact ⟨closing, back, hrest ▸ h⟩
    · rw [findElement_of_not_startsWith hname hstart, ih]
      simp only [IsFirst, leftmost_cons hstart]
      constructor
      · rintro ⟨front, opening, rest, closing, back, hopening, h⟩
        exact ⟨c :: front, opening, rest, closing, back, ⟨front, rfl, hopening⟩, h⟩
      · rintro ⟨-, opening, rest, closing, back, ⟨front, -, hopening⟩, h⟩
        exact ⟨front, opening, rest, closing, back, hopening, h⟩

/-- What is read is what was found, without blanks around it, if any is left. -/
theorem element?_eq_some {xml name t : String} : element? xml name = some t ↔
    ∃ text, findElement name.toList xml.toList = some text ∧ t.toList = trim text ∧ t ≠ "" := by
  rw [element?]
  cases findElement name.toList xml.toList with
  | none => simp
  | some text =>
    simp only [Option.map_some, Option.some.injEq, exists_eq_left']
    cases htrim : trim text with
    | nil =>
      refine ⟨nofun, ?_⟩
      rintro ⟨hempty, hne⟩
      exact absurd (String.toList_eq_nil_iff.mp hempty) hne
    | cons c rest =>
      constructor
      · intro h
        obtain rfl := Option.some.inj h
        refine ⟨String.toList_ofList, fun hempty => ?_⟩
        exact List.cons_ne_nil c rest (String.ofList_eq_empty_iff.mp hempty)
      · rintro ⟨htext, -⟩
        show some (String.ofList (c :: rest)) = some t
        rw [← htext, String.ofList_toList]

/-- **Which text is read.**  It is what stands between the leftmost opening tag and the leftmost
closing tag behind it, without blanks around it; if there is no such text, or nothing but blanks in
it, nothing is read, whatever comes later. -/
theorem element?_eq_some_iff {name : String} (hname : ∀ c ∈ name.toList, isLetter c = true)
    (xml : String) :
    (∀ t, element? xml name = some t ↔
      ∃ text, IsFirst name.toList xml.toList text ∧ t.toList = trim text ∧ t ≠ "") ∧
    (element? xml name = none ↔
      ∀ text, IsFirst name.toList xml.toList text → trim text = []) := by
  have hsome (t : String) : element? xml name = some t ↔
      ∃ text, IsFirst name.toList xml.toList text ∧ t.toList = trim text ∧ t ≠ "" := by
    rw [element?_eq_some]
    simp only [findElement_eq_some_iff hname]
  refine ⟨hsome, ?_⟩
  rw [Option.eq_none_iff_forall_ne_some]
  constructor
  · intro hnone text hfirst
    by_contra hne
    have hread : String.ofList (trim text) ≠ "" := fun h => hne (String.ofList_eq_empty_iff.mp h)
    exact hnone _ ((hsome _).mpr ⟨text, hfirst, String.toList_ofList, hread⟩)
  · rintro hblank t ht
    obtain ⟨text, hfirst, htext, hne⟩ := (hsome t).mp ht
    rw [hblank text hfirst] at htext
    exact hne (String.toList_eq_nil_iff.mp htext)

/-- A markup with a longer name, a prefix, attributes and an element within an element. -/
def nested : String := "<Codec/><e:code a='/'> <Code>Busy </CODE></e:code>"

/-- The longer name does not open the element, and the inner closing tag closes it. -/
theorem element?_eq_some_iff_nested :
    (∀ c ∈ "Code".toList, isLetter c = true) ∧ element? nested "Code" = some "<Code>Busy" ∧
      ∃ text, IsFirst "Code".toList nested.toList text ∧ "<Code>Busy".toList = trim text ∧
        "<Code>Busy" ≠ "" := by
  have hname : ∀ c ∈ "Code".toList, isLetter c = true := List.all_eq_true.mp (by decide)
  have hread : element? nested "Code" = some "<Code>Busy" := by decide +kernel
  exact ⟨hname, hread, ((element?_eq_some_iff hname nested).1 _).mp hread⟩

/-- A later element does not make up for a first one without text. -/
example : element? "<ETag> </ETag><ETag>x</ETag>" "ETag" = none := by decide +kernel

end Markup

end StripeTransfer
