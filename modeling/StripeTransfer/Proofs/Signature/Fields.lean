/-
StripeTransfer/Proofs/Signature/Fields.lean

Named texts as maps.  A text that is set is found by its own name, and nothing
changes by any other name (`Fields.lookup_set`).  Fields are kept in ascending
order of their names, each name once (`Fields.Ascending.set`), so they are given
by what is found by each name.
-/
import StripeTransfer.Signature.Fields
import Mathlib

namespace StripeTransfer

namespace Fields

variable {name value : String} {fs : Fields}

theorem mem_set {h : String × String} (hmem : h ∈ fs.set name value) :
    h = (name, value) ∨ h ∈ fs := by
  induction fs with
  | nil => exact .inl (List.mem_singleton.mp hmem)
  | cons field rest ih =>
    obtain ⟨n, v⟩ := field
    unfold set at hmem
    split_ifs at hmem
    · exact List.mem_cons.mp hmem
    · exact (List.mem_cons.mp hmem).imp_right (List.mem_cons_of_mem _)
    · rcases List.mem_cons.mp hmem with rfl | hmem
      · exact .inr List.mem_cons_self
      · exact (ih hmem).imp_right (List.mem_cons_of_mem _)

theorem lookup_cons (n v : String) (rest : Fields) (key : String) :
    ((n, v) :: rest).lookup key = if key = n then some v else rest.lookup key := by
  rw [List.lookup_cons]
  by_cases heq : key = n
  · rw [if_pos heq, beq_iff_eq.mpr heq]
  · rw [if_neg heq, beq_eq_false_iff_ne.mpr heq]

/-- A text that is set is found by its own name, and changes nothing by any other name. -/
theorem lookup_set (name value : String) (fs : Fields) (key : String) :
    (fs.set name value).lookup key = if key = name then some value else fs.lookup key := by
  induction fs with
  | nil => exact lookup_cons name value [] key
  | cons field rest ih =>
    obtain ⟨n, v⟩ := field
    by_cases hlt : name < n
    · rw [set, if_pos hlt, lookup_cons]
    by_cases heq : name = n
    · rw [set, if_neg hlt, if_pos heq, lookup_cons, lookup_cons, heq]
      split_ifs <;> rfl
    · rw [set, if_neg hlt, if_neg heq, lookup_cons, lookup_cons, ih]
      by_cases hkey : key = n
      · rw [if_pos hkey, if_pos hkey, if_neg fun h => heq (h.symm.trans hkey)]
      · rw [if_neg hkey, if_neg hkey]

theorem lookup_map (f : String → String) (fs : Fields) (key : String) :
    (fs.map fun h => (h.1, f h.2)).lookup key = (fs.lookup key).map f := by
  induction fs with
  | nil => rfl
  | cons field rest ih =>
    obtain ⟨n, v⟩ := field
    rw [List.map_cons, lookup_cons, lookup_cons, ih]
    split_ifs <;> rfl

/-! ### Order -/

/-- Whether the names ascend; then each of them occurs once. -/
def Ascending (fs : Fields) : Prop := fs.names.Pairwise (· < ·)

instance (fs : Fields) : Decidable fs.Ascending :=
  inferInstanceAs (Decidable (fs.names.Pairwise (· < ·)))

/-- **Setting a text keeps the order.** -/
theorem Ascending.set (h : fs.Ascending) (name value : String) : (fs.set name value).Ascending := by
  induction fs with
  | nil => exact List.pairwise_singleton _ _
  | cons field rest ih =>
    obtain ⟨n, v⟩ := field
    obtain ⟨hfirst, hrest⟩ := List.pairwise_cons.mp h
    by_cases hlt : name < n
    · rw [Fields.set, if_pos hlt]
      refine List.pairwise_cons.mpr ⟨fun other hother => ?_, h⟩
      rcases List.mem_cons.mp hother with rfl | hother
      · exact hlt
      · exact hlt.trans (hfirst other hother)
    by_cases heq : name = n
    · rw [Fields.set, if_neg hlt, if_pos heq, heq]
      exact h
    · -- the text is set behind the first name, which stays below all the others
      rw [Fields.set, if_neg hlt, if_neg heq]
      refine List.pairwise_cons.mpr ⟨fun other hother => ?_, ih hrest⟩
      obtain ⟨field, hfield, rfl⟩ := List.mem_map.mp hother
      rcases mem_set hfield with rfl | hfield
      · exact lt_of_le_of_ne (not_lt.mp hlt) (Ne.symm heq)
      · exact hfirst field.1 (List.mem_map_of_mem hfield)

/-- Without the one that was set, the fields are as before. -/
theorem filter_set (h : name ∉ fs.names) (value : String) :
    (fs.set name value).filter (fun field => field.1 != name) = fs := by
  have hkept (fs : Fields) (h : name ∉ fs.names) : fs.filter (fun field => field.1 != name) = fs := by
    refine List.filter_eq_self.mpr fun field hfield => bne_iff_ne.mpr ?_
    rintro rfl
    exact h (List.mem_map_of_mem hfield)
  induction fs with
  | nil => simp [set]
  | cons field rest ih =>
    obtain ⟨n, v⟩ := field
    obtain ⟨hne, hrest⟩ := not_or.mp (List.mem_cons.not.mp h)
    by_cases hlt : name < n
    · rw [set, if_pos hlt, List.filter_cons_of_neg (by simp), hkept _ h]
    · rw [set, if_neg hlt, if_neg hne, List.filter_cons_of_pos (by simpa using Ne.symm hne), ih hrest]

end Fields

end StripeTransfer
