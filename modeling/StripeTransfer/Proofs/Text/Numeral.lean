/-
StripeTransfer/Proofs/Text/Numeral.lean

Numerals and their values.  A numeral is a run of digits, with or without zeros at
its start; it is read as its value (`Text.digits?_eq_some_iff`).  The numeral that
a number is written with has that number for its value.
-/
import StripeTransfer.Text.Blank
import StripeTransfer.Text.Numeral
import Mathlib

namespace StripeTransfer.Text

variable {s : List Char} {n bound : Nat}

theorem isDigit_eq (c : Char) : isDigit c = c.isDigit := rfl

/-- A run of digits of a value, zeros at its start included. -/
structure IsNumeral (n : Nat) (s : List Char) : Prop where
  ne_nil : s ≠ []
  isDigit : ∀ c ∈ s, isDigit c = true
  value_eq : Nat.ofDigitChars 10 s 0 = n

/-- No digit is blank. -/
theorem isBlank_of_isDigit {c : Char} (h : isDigit c = true) : isBlank c = false := by
  simp only [isDigit, Bool.and_eq_true, decide_eq_true_eq] at h
  have hlo : 48 ≤ c.toNat := h.1
  have hhi : c.toNat ≤ 57 := h.2
  simp only [isBlank, Bool.or_eq_false_iff, Bool.and_eq_false_iff, beq_eq_false_iff_ne,
    decide_eq_false_iff_not]
  omega

theorem IsNumeral.isBlank_eq_false (h : IsNumeral n s) : ∀ c ∈ s, isBlank c = false :=
  fun c hc => isBlank_of_isDigit (h.isDigit c hc)

/-- The numeral that a number is written with. -/
theorem isNumeral_toDigits (n : Nat) : IsNumeral n (Nat.toDigits 10 n) where
  ne_nil := Nat.toDigits_ne_nil
  isDigit c hc := (isDigit_eq c).trans (Nat.isDigit_of_mem_toDigits (by decide) (by decide) hc)
  value_eq := Nat.ofDigitChars_toDigits (by decide) (by decide)

theorem digitsFrom_eq_some_iff {acc : Nat} : digitsFrom acc s = some n ↔
    (∀ c ∈ s, isDigit c = true) ∧ Nat.ofDigitChars 10 s acc = n := by
  induction s generalizing acc with
  | nil => simp [digitsFrom, Nat.ofDigitChars]
  | cons c rest ih =>
    rw [digitsFrom, List.forall_mem_cons]
    by_cases hc : isDigit c = true
    · rw [if_pos hc, ih, and_iff_right hc, Nat.ofDigitChars_cons]
      rfl
    · rw [if_neg hc]
      simp [hc]

/-- **A text is read as a number just if it is a numeral of it.** -/
theorem digits?_eq_some_iff : digits? s = some n ↔ IsNumeral n s := by
  cases s with
  | nil => exact ⟨nofun, fun h => absurd rfl h.ne_nil⟩
  | cons c rest =>
    rw [digits?, digitsFrom_eq_some_iff]
    exact ⟨fun h => ⟨List.cons_ne_nil c rest, h.1, h.2⟩, fun h => ⟨h.isDigit, h.value_eq⟩⟩

/-- A numeral is read as a count, unless its value is past the bound. -/
theorem count?_of_isNumeral (h : IsNumeral n s) (hn : n ≤ bound) : count? bound s = some n := by
  have hplus : ∀ rest, s ≠ '+' :: rest := by
    rintro rest rfl
    exact absurd (h.isDigit '+' List.mem_cons_self) (by decide)
  rw [count?, digits?_eq_some_iff.mpr h, Option.filter_some, if_pos (decide_eq_true hn)]
  exact hplus

/-- What is read as a count is within the bound. -/
theorem le_of_count? (h : count? bound s = some n) : n ≤ bound := by
  unfold count? at h
  exact of_decide_eq_true (Option.filter_eq_some_iff.mp h).2

end StripeTransfer.Text
