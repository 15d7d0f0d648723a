/-
StripeTransfer/Proofs/Text/Blank.lean

Blanks around a text, its words and its lines.  Blanks at either end change
neither what is left of a text when it is trimmed (`Text.trim_append`) nor its
words (`Text.words_trim`).

The lines of a text are also described without a reader: each line but the last one
has a line end behind it, a line feed with or without a carriage return before it
(`Text.Lined`).  Every way to take a text as lines gives the lines that are read
from it, but for blanks at their ends (`Text.Lined.map_trim_lines`).
-/
import StripeTransfer.Proofs.Text.Lead
import StripeTransfer.Text.Blank
import Mathlib

namespace StripeTransfer.Text

variable {s before after word line rest : List Char} {ls : List (List Char)} {c : Char}

/-! ### Blanks at the ends -/

/-- A text of blanks only. -/
def AllBlank (s : List Char) : Prop := ∀ c ∈ s, isBlank c = true

instance : Decidable (AllBlank s) := decidable_of_iff (s.all isBlank = true) List.all_eq_true

theorem mem_of_mem_trim (h : c ∈ trim s) : c ∈ s := by
  have hright : c ∈ trimLeft s := by
    rw [trim, trimRight, List.mem_reverse] at h
    exact List.mem_reverse.mp ((List.dropWhile_suffix _).subset h)
  exact (List.dropWhile_suffix _).subset hright

theorem trimLeft_append (h : AllBlank before) (s : List Char) :
    trimLeft (before ++ s) = trimLeft s :=
  List.dropWhile_append_of_pos h

theorem trimRight_append (h : AllBlank after) (s : List Char) :
    trimRight (s ++ after) = trimRight s := by
  have hreverse : AllBlank after.reverse := fun c hc => h c (List.mem_reverse.mp hc)
  rw [trimRight, List.reverse_append, ← trimLeft, trimLeft_append hreverse]
  rfl

theorem trimLeft_of_allBlank (h : AllBlank s) : trimLeft s = [] := by
  have happend := trimLeft_append h []
  rwa [List.append_nil] at happend

/-- **Blanks around a text do not matter to what is left of it.** -/
theorem trim_append (hbefore : AllBlank before) (hafter : AllBlank after) (s : List Char) :
    trim (before ++ s ++ after) = trim s := by
  rw [trim, List.append_assoc, trimLeft_append hbefore]
  induction s with
  | nil => rw [List.nil_append, trimLeft_of_allBlank hafter]; rfl
  | cons c rest ih =>
    by_cases hc : isBlank c = true
    · have hdrop (t : List Char) : trimLeft (c :: t) = trimLeft t := List.dropWhile_cons_of_pos hc
      rw [trim, List.cons_append, hdrop, hdrop, ih, trim]
    · have hkeep (t : List Char) : trimLeft (c :: t) = c :: t := List.dropWhile_cons_of_neg hc
      rw [trim, List.cons_append, hkeep, hkeep, ← List.cons_append, trimRight_append hafter]

/-- A text with no blank at either end is left as it is. -/
theorem trim_eq_self (hfirst : ∀ c ∈ s.head?, isBlank c = false)
    (hlast : ∀ c ∈ s.getLast?, isBlank c = false) : trim s = s := by
  have hkeep (t : List Char) (h : ∀ c ∈ t.head?, isBlank c = false) : t.dropWhile isBlank = t := by
    cases t with
    | nil => rfl
    | cons c rest => exact List.dropWhile_cons_of_neg (Bool.eq_false_iff.mp (h c rfl))
  have hreverse : ∀ c ∈ s.reverse.head?, isBlank c = false := by
    rwa [List.head?_reverse]
  rw [trim, trimLeft, hkeep s hfirst, trimRight, hkeep s.reverse hreverse, List.reverse_reverse]

/-- A text between two characters that are not blank is left as it is, whatever is in it. -/
theorem trim_between {a b : Char} (ha : isBlank a = false) (hb : isBlank b = false)
    (s : List Char) : trim (a :: (s ++ [b])) = a :: (s ++ [b]) := by
  apply trim_eq_self
  · rintro c ⟨⟩
    exact ha
  · rw [getLast?_between]
    rintro c ⟨⟩
    exact hb

/-- What is no blank is not taken off at the start. -/
theorem dropWhile_isBlank_word (hne : word ≠ []) (hword : ∀ c ∈ word, isBlank c = false)
    (after : List Char) : (word ++ after).dropWhile isBlank = word ++ after := by
  obtain ⟨c, word, rfl⟩ := List.exists_cons_of_ne_nil hne
  exact List.dropWhile_cons_of_neg (by simp [hword c List.mem_cons_self])

/-- A word stays when blanks before it and behind the text are taken off. -/
theorem trim_append_word (hbefore : AllBlank before) (hne : word ≠ [])
    (hword : ∀ c ∈ word, isBlank c = false) (after : List Char) :
    trim (before ++ (word ++ after)) = word ++ trimRight after := by
  have hreverse : ∀ c ∈ word.reverse, isBlank c = false := fun c hc =>
    hword c (List.mem_reverse.mp hc)
  have hkeep := dropWhile_isBlank_word (by simpa using hne) hreverse []
  rw [List.append_nil] at hkeep
  rw [trim, trimLeft_append hbefore, trimLeft, dropWhile_isBlank_word hne hword, trimRight,
    List.reverse_append, List.dropWhile_append, hkeep, trimRight]
  split_ifs with hempty
  · rw [List.isEmpty_iff.mp hempty, List.reverse_reverse, List.reverse_nil, List.append_nil]
  · rw [List.reverse_append, List.reverse_reverse]

/-- A text is what is left of it with blanks around it. -/
theorem exists_eq_append_trim (s : List Char) :
    ∃ before after, AllBlank before ∧ AllBlank after ∧ s = before ++ trim s ++ after := by
  refine ⟨s.takeWhile isBlank, ((trimLeft s).reverse.takeWhile isBlank).reverse, ?_, ?_, ?_⟩
  · exact fun c hc => List.mem_takeWhile_imp hc
  · exact fun c hc => List.mem_takeWhile_imp (List.mem_reverse.mp hc)
  · rw [List.append_assoc, trim, trimRight, ← List.reverse_append, List.takeWhile_append_dropWhile,
      List.reverse_reverse, trimLeft, List.takeWhile_append_dropWhile]

/-! ### Words -/

theorem words_append_of_allBlank (h : AllBlank before) (s : List Char) :
    words (before ++ s) = words s := by
  induction before with
  | nil => rfl
  | cons c rest ih =>
    obtain ⟨hc, hrest⟩ := List.forall_mem_cons.mp h
    rw [← ih hrest]
    simp [words, wordsAux, hc]

theorem wordsAux_append_of_allBlank (h : AllBlank after) (s : List Char) :
    wordsAux (s ++ after) = wordsAux s := by
  induction s with
  | cons c rest ih => rw [List.cons_append, wordsAux, wordsAux, ih]
  | nil =>
    induction after with
    | nil => rfl
    | cons c rest ih =>
      obtain ⟨hc, hrest⟩ := List.forall_mem_cons.mp h
      have hnone : wordsAux rest = ([], []) := ih hrest
      simp [wordsAux, hnone, hc]

/-- **A text that is trimmed has the same words.** -/
theorem words_trim (s : List Char) : words (trim s) = words s := by
  obtain ⟨before, after, hbefore, hafter, hs⟩ := exists_eq_append_trim s
  conv_rhs => rw [hs, List.append_assoc, words_append_of_allBlank hbefore, words,
    wordsAux_append_of_allBlank hafter]
  rfl

/-- Where a word ends: at the end of the text, or at a blank. -/
def EndsWord (s : List Char) : Prop := ∀ c ∈ s.head?, isBlank c = true

/-- The first word of a text is what stands before the first blank behind it. -/
theorem head?_words (hbefore : AllBlank before) (hne : word ≠ [])
    (hword : ∀ c ∈ word, isBlank c = false) (hafter : EndsWord after) :
    (words (before ++ word ++ after)).head? = some word := by
  have hopen : (wordsAux after).1 = [] := by
    cases after with
    | nil => rfl
    | cons c rest => simp [wordsAux, hafter c rfl]
  have hfirst : (wordsAux (word ++ after)).1 = word := by
    clear hne
    induction word with
    | nil => exact hopen
    | cons c rest ih =>
      obtain ⟨hc, hrest⟩ := List.forall_mem_cons.mp hword
      simp [wordsAux, hc, ih hrest]
  rw [List.append_assoc, words_append_of_allBlank hbefore, words]
  simp [hfirst, hne]

/-! ### Lines -/

/-- The ways for a line to end. -/
def lineEnds : List (List Char) := [['\n'], ['\r', '\n']]

/-- A text consists of some lines: each has a line end behind it, but the last one may go without. -/
inductive Lined : List (List Char) → List Char → Prop
  | nil : Lined [] []
  | last {line : List Char} : '\n' ∉ line → line ≠ [] → Lined [line] line
  | cons {line ending rest : List Char} {ls : List (List Char)} :
      '\n' ∉ line → ending ∈ lineEnds → Lined ls rest → Lined (line :: ls) (line ++ ending ++ rest)

/-- A character that is in no line end belongs to the first line. -/
theorem lines_cons_of_ne (hfeed : c ≠ '\n') (hreturn : ∀ after, c = '\r' → rest ≠ '\n' :: after)
    (h : lines rest = line :: ls) : lines (c :: rest) = (c :: line) :: ls := by
  rw [lines, h]
  · exact hfeed
  · exact fun after hc => hreturn after hc

theorem lines_of_not_mem (h : '\n' ∉ line) (hne : line ≠ []) : lines line = [line] := by
  induction line with
  | nil => exact absurd rfl hne
  | cons c rest ih =>
    obtain ⟨hc, hrest⟩ := not_or.mp (List.mem_cons.not.mp h)
    rcases rest with - | ⟨d, rest⟩
    · rw [lines]
      · rfl
      · exact Ne.symm hc
      · exact fun after _ hafter => by cases hafter
    · apply lines_cons_of_ne (Ne.symm hc)
      · rintro after - heq
        obtain ⟨rfl, -⟩ := List.cons.inj heq
        exact hrest List.mem_cons_self
      · exact ih hrest (List.cons_ne_nil d rest)

/-- What stands before a line feed is a line, but for a carriage return at its end. -/
theorem lines_append_feed (h : '\n' ∉ line) (rest : List Char) :
    ∃ l, lines (line ++ '\n' :: rest) = l :: lines rest ∧ (line = l ∨ line = l ++ ['\r']) := by
  induction line with
  | nil => exact ⟨[], rfl, .inl rfl⟩
  | cons c line ih =>
    obtain ⟨hc, hline⟩ := not_or.mp (List.mem_cons.not.mp h)
    by_cases hreturn : c = '\r' ∧ line = []
    · obtain ⟨rfl, rfl⟩ := hreturn
      exact ⟨[], rfl, .inr rfl⟩
    · obtain ⟨l, hl, hcut⟩ := ih hline
      refine ⟨c :: l, lines_cons_of_ne (Ne.symm hc) ?_ hl, ?_⟩
      · rintro after rfl heq
        rcases line with - | ⟨d, line⟩
        · exact hreturn ⟨rfl, rfl⟩
        · obtain ⟨rfl, -⟩ := List.cons.inj heq
          exact hline List.mem_cons_self
      · exact hcut.imp (congrArg (c :: ·)) (congrArg (c :: ·))

/-- **Every text consists of the lines that are read from it.** -/
theorem lined_lines (s : List Char) : Lined (lines s) s := by
  fun_induction lines s with
  | case1 => exact .nil
  | case2 rest ih => exact Lined.cons List.not_mem_nil List.mem_cons_self ih
  | case3 rest ih => exact Lined.cons List.not_mem_nil (List.mem_cons_of_mem _ List.mem_cons_self) ih
  | case4 c rest hfeed hreturn hnone ih =>
    rw [hnone] at ih
    cases ih
    exact .last (by simpa using Ne.symm hfeed) (List.cons_ne_nil c [])
  | case5 c rest hfeed hreturn line ls hrest ih =>
    have hmem {l : List Char} (hl : '\n' ∉ l) : '\n' ∉ c :: l := by
      simpa using ⟨Ne.symm hfeed, hl⟩
    rw [hrest] at ih
    cases ih with
    | last hline hne => exact .last (hmem hline) (List.cons_ne_nil c rest)
    | cons hline hending h => exact .cons (hmem hline) hending h

theorem trim_append_return (s : List Char) : trim (s ++ ['\r']) = trim s := by
  have hnothing : AllBlank [] := nofun
  exact trim_append hnothing (List.forall_mem_singleton.mpr rfl) s

/-- **However a text is taken as lines, they are the lines that are read from it**, but for blanks
at their ends. -/
theorem Lined.map_trim_lines (h : Lined ls s) : (lines s).map trim = ls.map trim := by
  induction h with
  | nil => rfl
  | last hline hne => rw [lines_of_not_mem hline hne]
  | @cons line ending rest ls hline hending h ih =>
    have hfeed (l : List Char) (hl : '\n' ∉ l) :
        (lines (l ++ '\n' :: rest)).map trim = trim l :: ls.map trim := by
      obtain ⟨first, hfirst, rfl | rfl⟩ := lines_append_feed hl rest
      · rw [hfirst, List.map_cons, ih]
      · rw [hfirst, List.map_cons, ih, trim_append_return]
    simp only [lineEnds, List.mem_cons, List.not_mem_nil, or_false] at hending
    rcases hending with rfl | rfl
    · rw [List.append_assoc, List.singleton_append, hfeed line hline, List.map_cons]
    · have hreturn : '\n' ∉ line ++ ['\r'] := by simpa using hline
      have happend : line ++ ['\r', '\n'] ++ rest = line ++ ['\r'] ++ '\n' :: rest := by simp
      rw [happend, hfeed _ hreturn, trim_append_return, List.map_cons]

end StripeTransfer.Text
