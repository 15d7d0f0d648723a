/-
StripeTransfer/Proofs/Upload/Manifest.lean

What a store reads in a manifest.  The reader knows nothing of the writer: it takes
the elements of a name as they come, each from its opening tag up to the next
closing tag, and undoes the entities in their text (`Manifest.read?`).

A tag of a part may hold anything, even markup.  Escaping leaves no bracket in it,
so it can neither open nor close an element, and each ampersand that is left starts
an entity, so escaping is undone exactly (`Manifest.unescape_escape`).  Therefore
the parts that are read are those that were listed, in ascending order of their
numbers; parts of one number stay in their order (`Manifest.read?_text_stable`).
-/
import StripeTransfer.Proofs.Text.Lead
import StripeTransfer.Proofs.Text.Numeral
import StripeTransfer.Upload.Manifest
import Mathlib

namespace StripeTransfer

open Text

/-! ### The first occurrence of a mark -/

namespace Text

variable {mark s before after : List Char} {c : Char}

/-- The text before and after the first occurrence of a mark. -/
def splitMark (mark : List Char) : List Char → Option (List Char × List Char)
  | [] => none
  | c :: s =>
    match dropLead mark (c :: s) with
    | some after => some ([], after)
    | none => (splitMark mark s).map fun p => (c :: p.1, p.2)

theorem eq_append_of_splitMark (h : splitMark mark s = some (before, after)) :
    s = before ++ (mark ++ after) := by
  induction s generalizing before with
  | nil => cases h
  | cons c s ih =>
    rw [splitMark] at h
    split at h
    next rest hrest =>
      obtain ⟨hbefore, hafter⟩ := Prod.mk.inj (Option.some.inj h)
      rw [← hbefore, ← hafter, List.nil_append]
      exact eq_append_of_dropLead hrest
    next =>
      obtain ⟨⟨first, rest⟩, hrest, heq⟩ := Option.map_eq_some_iff.mp h
      obtain ⟨rfl, rfl⟩ := Prod.mk.inj heq
      rw [ih hrest, List.cons_append]

/-- Whether two texts differ in a place that both of them have. -/
def differs : List Char → List Char → Bool
  | a :: s, b :: t => a != b || differs s t
  | _, _ => false

/-- Whether a mark starts nowhere in a text, whatever stands behind the text. -/
def avoids (mark : List Char) : List Char → Bool
  | [] => true
  | c :: s => differs mark (c :: s) && avoids mark s

theorem differs_append (h : differs mark s = true) (after : List Char) :
    differs mark (s ++ after) = true := by
  fun_induction differs mark s with
  | case1 a mark b s ih =>
    rw [Bool.or_eq_true] at h
    rw [List.cons_append, differs, Bool.or_eq_true]
    exact h.imp_right ih
  | case2 => cases h

theorem dropLead_of_differs (h : differs mark s = true) : dropLead mark s = none := by
  fun_induction differs mark s with
  | case1 a mark b s ih =>
    rw [dropLead]
    split_ifs with hab
    · subst hab
      exact ih (by simpa using h)
    · rfl
  | case2 => cases h

theorem avoids_append (hs : avoids mark s = true) (ht : avoids mark after = true) :
    avoids mark (s ++ after) = true := by
  induction s with
  | nil => exact ht
  | cons c s ih =>
    rw [avoids, Bool.and_eq_true] at hs
    rw [List.cons_append, avoids, Bool.and_eq_true]
    exact ⟨differs_append hs.1 after, ih hs.2⟩

/-- A mark does not start where its first character is not. -/
theorem avoids_of_not_mem (h : c ∉ s) (mark : List Char) : avoids (c :: mark) s = true := by
  induction s with
  | nil => rfl
  | cons d s ih =>
    obtain ⟨hd, hs⟩ := not_or.mp (List.mem_cons.not.mp h)
    rw [avoids, ih hs, differs, bne_iff_ne.mpr hd]
    rfl

/-- What a mark avoids is passed over. -/
theorem splitMark_append_of_avoids (h : avoids mark before = true) (s : List Char) :
    splitMark mark (before ++ s) = (splitMark mark s).map fun p => (before ++ p.1, p.2) := by
  induction before with
  | nil => simp
  | cons c before ih =>
    rw [avoids, Bool.and_eq_true] at h
    have hhere : dropLead mark (c :: (before ++ s)) = none :=
      dropLead_of_differs (differs_append h.1 s)
    rw [List.cons_append, splitMark, hhere, ih h.2, Option.map_map]
    rfl

theorem splitMark_append (h : avoids (c :: mark) before = true) (after : List Char) :
    splitMark (c :: mark) (before ++ (c :: mark ++ after)) = some (before, after) := by
  rw [splitMark_append_of_avoids h, List.cons_append, splitMark, ← List.cons_append,
    dropLead_append, Option.map_some, List.append_nil]

end Text

namespace Manifest

variable {name before content after s : List Char}

/-! ### Elements -/

/-- The tag that opens an element. -/
def openTag (name : List Char) : List Char := '<' :: (name ++ ['>'])

/-- The tag that closes an element. -/
def closeTag (name : List Char) : List Char := '<' :: '/' :: (name ++ ['>'])

/-- What the first element of a name holds, and what stands behind it. -/
def firstElement (name s : List Char) : Option (List Char × List Char) :=
  (splitMark (openTag name) s).bind fun p => splitMark (closeTag name) p.2

theorem length_of_firstElement (h : firstElement name s = some (content, after)) :
    after.length < s.length := by
  obtain ⟨⟨front, rest⟩, hopen, hclose⟩ := Option.bind_eq_some_iff.mp h
  have hrest : rest = content ++ (closeTag name ++ after) := eq_append_of_splitMark hclose
  rw [eq_append_of_splitMark hopen, hrest]
  simp only [closeTag, List.length_append, List.length_cons]
  omega

/-- What the elements of a name hold, one after the other. -/
def elements (name s : List Char) : List (List Char) :=
  match _h : firstElement name s with
  | none => []
  | some (content, after) => content :: elements name after
termination_by s.length
decreasing_by exact length_of_firstElement _h

theorem elements_of_none (h : firstElement name s = none) : elements name s = [] := by
  rw [elements]
  split
  next => rfl
  next heq => rw [h] at heq; cases heq

theorem elements_of_some (h : firstElement name s = some (content, after)) :
    elements name s = content :: elements name after := by
  rw [elements]
  split
  next heq => rw [h] at heq; cases heq
  next heq =>
    rw [h] at heq
    obtain ⟨rfl, rfl⟩ := Prod.mk.inj (Option.some.inj heq)
    rfl

/-- What holds no opening tag does not matter in front of an element. -/
theorem firstElement_append (h : avoids (openTag name) before = true) (s : List Char) :
    firstElement name (before ++ s) = firstElement name s := by
  rw [firstElement, firstElement, splitMark_append_of_avoids h, Option.bind_map]
  rfl

theorem elements_append (h : avoids (openTag name) before = true) (s : List Char) :
    elements name (before ++ s) = elements name s := by
  cases hs : firstElement name s with
  | none => rw [elements_of_none hs, elements_of_none ((firstElement_append h s).trans hs)]
  | some p => rw [elements_of_some hs, elements_of_some ((firstElement_append h s).trans hs)]

/-- An element reaches up to the first closing tag. -/
theorem firstElement_element (h : avoids (closeTag name) content = true) (after : List Char) :
    firstElement name (openTag name ++ (content ++ (closeTag name ++ after))) =
      some (content, after) := by
  have hnothing : avoids (openTag name) [] = true := rfl
  have hopen : splitMark (openTag name) (openTag name ++ (content ++ (closeTag name ++ after))) =
      some ([], content ++ (closeTag name ++ after)) := splitMark_append hnothing _
  rw [firstElement, hopen]
  exact splitMark_append h after

/-! ### Entities -/

/-- A text with the four entities undone. -/
def unescape : List Char → List Char
  | '&' :: 'a' :: 'm' :: 'p' :: ';' :: rest => '&' :: unescape rest
  | '&' :: 'l' :: 't' :: ';' :: rest => '<' :: unescape rest
  | '&' :: 'g' :: 't' :: ';' :: rest => '>' :: unescape rest
  | '&' :: 'q' :: 'u' :: 'o' :: 't' :: ';' :: rest => '"' :: unescape rest
  | c :: rest => c :: unescape rest
  | [] => []

theorem unescape_cons_of_ne {c : Char} (h : c ≠ '&') (rest : List Char) :
    unescape (c :: rest) = c :: unescape rest := by
  rw [unescape]
  all_goals
    intros
    contradiction

theorem unescape_escapeChar_append (c : Char) (rest : List Char) :
    unescape (escapeChar c ++ rest) = c :: unescape rest := by
  unfold escapeChar
  split
  next => rfl
  next => rfl
  next => rfl
  next => rfl
  next hamp _ _ _ => exact unescape_cons_of_ne hamp rest

/-- **Escaping is undone exactly**, also where a text has entities in it already. -/
theorem unescape_escape (s : List Char) : unescape (escape s) = s := by
  induction s with
  | nil => rfl
  | cons c s ih =>
    have hescape : escape (c :: s) = escapeChar c ++ escape s := rfl
    rw [hescape, unescape_escapeChar_append, ih]

/-- No bracket is left, so no tag starts in an escaped text. -/
theorem not_mem_escape (s : List Char) : '<' ∉ escape s := by
  intro hmem
  obtain ⟨c, -, hc⟩ := List.mem_flatMap.mp hmem
  unfold escapeChar at hc
  split at hc
  next => exact absurd hc (by decide)
  next => exact absurd hc (by decide)
  next => exact absurd hc (by decide)
  next => exact absurd hc (by decide)
  next _ hlt _ _ => exact hlt (List.mem_singleton.mp hc).symm

/-! ### Parts -/

/-- The part that an element holds. -/
def readPart (content : List Char) : Option CompletedPart := do
  let (etag, rest) ← firstElement "ETag".toList content
  let (number, _) ← firstElement "PartNumber".toList rest
  return ⟨← digits? number, String.ofList (unescape etag)⟩

/-- The parts of a manifest, as a store reads them. -/
def read? (text : String) : Option (List CompletedPart) :=
  (elements "Part".toList text.toList).mapM readPart

/-- What the element of a part holds. -/
def partText (p : CompletedPart) : List Char :=
  openTag "ETag".toList ++ (escape p.etag.toList ++ (closeTag "ETag".toList ++
    (openTag "PartNumber".toList ++ (Nat.toDigits 10 p.number ++
      (closeTag "PartNumber".toList ++ [])))))

theorem element_append (p : CompletedPart) (after : List Char) : element p ++ after =
    openTag "Part".toList ++ (partText p ++ (closeTag "Part".toList ++ after)) := by
  unfold element partText
  simp [openTag, closeTag]

/-- Digits are no markup. -/
theorem not_mem_toDigits (n : Nat) : '<' ∉ Nat.toDigits 10 n := fun h =>
  absurd ((isNumeral_toDigits n).isDigit '<' h) (by decide)

theorem avoids_closeTag_of_not_mem (h : '<' ∉ s) (name : List Char) :
    avoids (closeTag name) s = true :=
  avoids_of_not_mem h _

theorem readPart_partText (p : CompletedPart) : readPart (partText p) = some p := by
  have hetag : firstElement "ETag".toList (partText p) = some (escape p.etag.toList, _) :=
    firstElement_element (avoids_closeTag_of_not_mem (not_mem_escape p.etag.toList) _) _
  have hnumber : firstElement "PartNumber".toList (openTag "PartNumber".toList ++
      (Nat.toDigits 10 p.number ++ (closeTag "PartNumber".toList ++ []))) =
        some (Nat.toDigits 10 p.number, []) :=
    firstElement_element (avoids_closeTag_of_not_mem (not_mem_toDigits p.number) _) []
  have hdigits := digits?_eq_some_iff.mpr (isNumeral_toDigits p.number)
  simp only [readPart, hetag, Option.bind_eq_bind, Option.bind_some, hnumber, hdigits,
    unescape_escape, String.ofList_toList, Option.pure_def]

/-- Up to its end, the element of a part holds no closing tag of another part. -/
theorem avoids_partText (p : CompletedPart) :
    avoids (closeTag "Part".toList) (partText p) = true := by
  have hescape := avoids_closeTag_of_not_mem (not_mem_escape p.etag.toList) "Part".toList
  have hdigits := avoids_closeTag_of_not_mem (not_mem_toDigits p.number) "Part".toList
  apply avoids_append (by decide)
  apply avoids_append hescape
  apply avoids_append (by decide)
  apply avoids_append (by decide)
  apply avoids_append hdigits
  decide

theorem elements_flatMap (parts : List CompletedPart) :
    elements "Part".toList (parts.flatMap element ++ closing) = parts.map partText := by
  induction parts with
  | nil => exact elements_of_none (by decide +kernel)
  | cons p parts ih =>
    rw [List.flatMap_cons, List.append_assoc, element_append,
      elements_of_some (firstElement_element (avoids_partText p) _), ih, List.map_cons]

/-- What is read in a manifest are the parts in the order in which it lists them. -/
theorem read?_text_eq (parts : List CompletedPart) : read? (text parts) = some (ordered parts) := by
  have hopening : avoids (openTag "Part".toList) opening = true := by decide +kernel
  have htext : (text parts).toList = render parts := String.toList_ofList
  have hpart : readPart ∘ partText = fun p => pure p := funext readPart_partText
  rw [read?, htext, render, List.append_assoc, elements_append hopening, elements_flatMap,
    List.mapM_map, hpart, List.mapM_pure, List.map_id']
  rfl

/-! ### The order of the parts -/

theorem numberLe_trans (p q r : CompletedPart) (hpq : decide (p.number ≤ q.number) = true)
    (hqr : decide (q.number ≤ r.number) = true) : decide (p.number ≤ r.number) = true := by
  rw [decide_eq_true_eq] at *
  exact hpq.trans hqr

theorem numberLe_total (p q : CompletedPart) :
    (decide (p.number ≤ q.number) || decide (q.number ≤ p.number)) = true := by
  rw [Bool.or_eq_true, decide_eq_true_eq, decide_eq_true_eq]
  exact Nat.le_total _ _

theorem perm_ordered (parts : List CompletedPart) : (ordered parts).Perm parts :=
  List.mergeSort_perm parts _

theorem pairwise_ordered (parts : List CompletedPart) :
    (ordered parts).Pairwise fun p q => p.number ≤ q.number := by
  have h := List.pairwise_mergeSort numberLe_trans numberLe_total parts
  exact h.imp of_decide_eq_true

/-- Parts of one number stay in the order in which they were given. -/
theorem filter_ordered (parts : List CompletedPart) (n : Nat) :
    ((ordered parts).filter fun p => p.number = n) = parts.filter fun p => p.number = n := by
  have hequal : (parts.filter fun p => p.number = n).Pairwise
      fun p q => decide (p.number ≤ q.number) = true := by
    refine List.pairwise_of_forall_mem_list fun p hp q hq => ?_
    have hnumber (r : CompletedPart) (hr : r ∈ parts.filter fun p => p.number = n) : r.number = n :=
      of_decide_eq_true (List.mem_filter.mp hr).2
    rw [hnumber p hp, hnumber q hq, decide_eq_true_eq]
  have hsub : (parts.filter fun p => p.number = n).Sublist (ordered parts) :=
    List.sublist_mergeSort numberLe_trans numberLe_total hequal List.filter_sublist
  have hfilter := hsub.filter fun p => p.number = n
  simp only [List.filter_filter, Bool.and_self] at hfilter
  exact (hfilter.eq_of_length ((perm_ordered parts).filter _).length_eq.symm).symm

/-- **A manifest can be read back.**  Whatever the tags of the parts are, a reader of elements that
undoes the entities finds all parts in ascending order of their numbers, parts of one number in the
order in which they were given, and nothing else.  So lists of parts in ascending order are told apart
by their manifests. -/
theorem read?_text_stable (parts : List CompletedPart) :
    ∃ listed, read? (text parts) = some listed ∧ listed.Perm parts ∧
      listed.Pairwise (fun p q => p.number ≤ q.number) ∧
      (∀ n, (listed.filter fun p => p.number = n) = parts.filter fun p => p.number = n) ∧
      Set.InjOn text {ps | ps.Pairwise fun p q => p.number ≤ q.number} := by
  refine ⟨ordered parts, read?_text_eq parts, perm_ordered parts, pairwise_ordered parts,
    filter_ordered parts, ?_⟩
  intro ps hps qs hqs htext
  -- parts in ascending order are listed as they are
  have hread (rs : List CompletedPart) (hrs : rs.Pairwise fun p q => p.number ≤ q.number) :
      read? (text rs) = some rs := by
    rw [read?_text_eq, ordered, List.mergeSort_of_pairwise (hrs.imp decide_eq_true)]
  exact Option.some.inj ((hread ps hps).symm.trans ((congrArg read? htext).trans (hread qs hqs)))

end Manifest

end StripeTransfer
