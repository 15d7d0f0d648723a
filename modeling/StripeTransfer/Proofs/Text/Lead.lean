/-
StripeTransfer/Proofs/Text/Lead.lean

Texts that start or end with a given one.  Taking a lead off is the reverse of
putting it in front (`Text.dropLead_eq_some_iff`), and so is taking a tail off.
-/
import StripeTransfer.Text.Blank
import Mathlib

namespace StripeTransfer.Text

variable {lead s after : List Char}

theorem dropLead_append (lead s : List Char) : dropLead lead (lead ++ s) = some s := by
  induction lead with
  | nil => rfl
  | cons c rest ih => rw [List.cons_append, dropLead, if_pos rfl, ih]

theorem eq_append_of_dropLead (h : dropLead lead s = some after) : s = lead ++ after := by
  induction lead generalizing s with
  | nil => exact Option.some.inj h
  | cons c rest ih =>
    cases s with
    | nil => cases h
    | cons d s =>
      rw [dropLead] at h
      split_ifs at h with heq
      rw [heq, ih h, List.cons_append]

/-- What is left after a lead was taken off stood behind it. -/
theorem dropLead_eq_some_iff : dropLead lead s = some after ↔ s = lead ++ after := by
  constructor
  · exact eq_append_of_dropLead
  · rintro rfl
    exact dropLead_append lead after

/-- There is nothing to take off just if the text does not start with the lead. -/
theorem dropLead_eq_none_iff : dropLead lead s = none ↔ ¬ lead <+: s := by
  rw [Option.eq_none_iff_forall_ne_some]
  constructor
  · rintro h ⟨after, rfl⟩
    exact h after (dropLead_append lead after)
  · intro h after hafter
    exact h ⟨after, (eq_append_of_dropLead hafter).symm⟩

theorem dropTail_append (s tail : List Char) : dropTail tail (s ++ tail) = some s := by
  rw [dropTail, List.reverse_append, dropLead_append, Option.map_some, List.reverse_reverse]

theorem getLast?_between (a b : Char) (s : List Char) : (a :: (s ++ [b])).getLast? = some b := by
  rw [← List.cons_append, List.getLast?_concat]

/-- Taking one character off at either end. -/
theorem dropLead_bind_dropTail (a b : Char) (s : List Char) :
    (dropLead [a] s).bind (dropTail [b]) =
      if s.head? = some a ∧ s.getLast? = some b ∧ 2 ≤ s.length then some s.tail.dropLast
      else none := by
  rcases s with - | ⟨c, rest⟩
  · rfl
  · rcases rest.eq_nil_or_concat' with rfl | ⟨inner, d, rfl⟩
    · -- one character cannot be taken off twice
      by_cases hc : a = c <;> simp [dropLead, dropTail, hc]
    · rw [getLast?_between]
      by_cases hc : a = c
      · by_cases hd : b = d
        · simp [dropLead, dropTail, hc, hd]
        · simp [dropLead, dropTail, hc, hd, Ne.symm hd]
      · simp [dropLead, hc, Ne.symm hc]

end StripeTransfer.Text
