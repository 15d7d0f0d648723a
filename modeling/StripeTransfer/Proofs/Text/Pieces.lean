/-
StripeTransfer/Proofs/Text/Pieces.lean

Separators in a text.  The pieces between them are those of the library's
`List.splitOn` (`Text.pieces_eq_splitOn`), and the text before the first of them is
what stands there without one (`Text.splitFirst_append`, `Text.splitFirst_eq`).
-/
import StripeTransfer.Text.Blank
import Mathlib

namespace StripeTransfer.Text

variable {sep : Char} {s p : List Char}

/-! ### Between separators -/

theorem pieces_eq_splitOn (sep : Char) (s : List Char) : pieces sep s = s.splitOn sep := by
  induction s with
  | nil => rfl
  | cons c rest ih =>
    rw [List.splitOn_cons_eq_if_modifyHead, pieces, ih]
    obtain ⟨first, others, hrest⟩ := List.exists_cons_of_ne_nil (List.splitOn_ne_nil sep rest)
    simp only [hrest, beq_iff_eq, List.modifyHead_cons]

/-- The characters of a piece are those of the text, other than the separator. -/
theorem mem_of_mem_pieces {c : Char} (hp : p ∈ pieces sep s) (hc : c ∈ p) : c ∈ s ∧ c ≠ sep := by
  induction s generalizing p with
  | nil =>
    obtain rfl := List.mem_singleton.mp hp
    exact absurd hc List.not_mem_nil
  | cons d rest ih =>
    have hlater (q : List Char) (hq : q ∈ pieces sep rest) (hc : c ∈ q) : c ∈ d :: rest ∧ c ≠ sep :=
      ⟨List.mem_cons_of_mem d (ih hq hc).1, (ih hq hc).2⟩
    unfold pieces at hp
    split_ifs at hp with hd
    · rcases List.mem_cons.mp hp with rfl | hp
      · exact absurd hc List.not_mem_nil
      · exact hlater p hp hc
    · obtain ⟨first, others, hrest⟩ :=
        List.exists_cons_of_ne_nil (pieces_eq_splitOn sep rest ▸ List.splitOn_ne_nil sep rest)
      rw [hrest] at hlater hp
      rcases List.mem_cons.mp hp with rfl | hp
      · rcases List.mem_cons.mp hc with rfl | hc
        · exact ⟨List.mem_cons_self, hd⟩
        · exact hlater first List.mem_cons_self hc
      · exact hlater p (List.mem_cons_of_mem first hp) hc

/-- Separators at the start of a text only make empty pieces. -/
theorem mem_pieces_dropWhile (hp : p ≠ []) :
    p ∈ pieces sep (s.dropWhile (· == sep)) ↔ p ∈ pieces sep s := by
  induction s with
  | nil => rfl
  | cons c rest ih =>
    by_cases hc : c = sep
    · have hdrop : (c :: rest).dropWhile (· == sep) = rest.dropWhile (· == sep) :=
        List.dropWhile_cons_of_pos (beq_iff_eq.mpr hc)
      rw [hdrop, ih, pieces, if_pos hc, List.mem_cons, or_iff_right hp]
    · have hkeep : (c :: rest).dropWhile (· == sep) = c :: rest :=
        List.dropWhile_cons_of_neg (by simpa using hc)
      rw [hkeep]

/-- A character of a text that is put together is the separator or a character of some part. -/
theorem mem_of_mem_intercalate {c : Char} {parts : List (List Char)}
    (h : c ∈ [sep].intercalate parts) : c = sep ∨ ∃ part ∈ parts, c ∈ part := by
  induction parts with
  | nil => exact absurd h List.not_mem_nil
  | cons first rest ih =>
    rcases rest with - | ⟨second, rest⟩
    · rw [List.intercalate_singleton] at h
      exact .inr ⟨first, List.mem_cons_self, h⟩
    · rw [List.intercalate_cons_cons, List.append_assoc, List.mem_append, List.mem_append,
        List.mem_singleton] at h
      rcases h with h | h | h
      · exact .inr ⟨first, List.mem_cons_self, h⟩
      · exact .inl h
      · rcases ih h with h | ⟨part, hpart, hc⟩
        · exact .inl h
        · exact .inr ⟨part, List.mem_cons_of_mem _ hpart, hc⟩

/-! ### Before and after the first separator -/

theorem splitFirst_of_not_mem (h : sep ∉ s) : splitFirst sep s = none := by
  induction s with
  | nil => rfl
  | cons c rest ih =>
    obtain ⟨hc, hrest⟩ := not_or.mp (List.mem_cons.not.mp h)
    rw [splitFirst, if_neg (Ne.symm hc), ih hrest, Option.map_none]

/-- What stands before the first separator is read up to it. -/
theorem splitFirst_append (h : sep ∉ s) (after : List Char) :
    splitFirst sep (s ++ sep :: after) = some (s, after) := by
  induction s with
  | nil => rw [List.nil_append, splitFirst, if_pos rfl]
  | cons c rest ih =>
    obtain ⟨hc, hrest⟩ := not_or.mp (List.mem_cons.not.mp h)
    rw [List.cons_append, splitFirst, if_neg (Ne.symm hc), ih hrest, Option.map_some]

/-- A text with a separator is split where it has the first one. -/
theorem splitFirst_eq (h : sep ∈ s) : splitFirst sep s =
    some (s.takeWhile (· != sep), (s.dropWhile (· != sep)).tail) := by
  induction s with
  | nil => cases h
  | cons c rest ih =>
    by_cases hc : c = sep
    · simp [splitFirst, hc]
    · have hrest : sep ∈ rest := (List.mem_cons.mp h).resolve_left (Ne.symm hc)
      simp [splitFirst, hc, ih hrest]

end StripeTransfer.Text
