/-
StripeTransfer/Proofs/Signature/Query.lean

The canonical form of a query.  It consists of the parameters between ampersands,
each as its encoded name, an equals sign and its encoded value.  Encoding leaves
neither mark in a name or a value, so the pieces are found again
(`Percent.queryPieces_encodeQueryChars`) and each is read back as its parameter
(`Percent.readQuery_encodeQueryChars`).

The parameters stand in the order of their encoded names, which is not that of the
names themselves: a percent sign comes before all letters and digits.  If no name
occurs twice, the encoded names ascend octet by octet, and no value is ever
compared (`Percent.encodeQuery_canonical`).
-/
import StripeTransfer.Proofs.Signature.Percent
import StripeTransfer.Proofs.Text.Ascii
import Mathlib

namespace StripeTransfer.Percent

open Text

variable {query : List (String × String)}

/-! ### Parameters in order -/

/-- A parameter with its name and its value encoded. -/
def encodedPair (p : String × String) : List Char × List Char := (encodeChars p.1, encodeChars p.2)

/-- A parameter as it is written. -/
def parameter (p : String × String) : List Char := joinPair (encodedPair p)

/-- The parameters of a query in the order of what is written. -/
def inOrder (query : List (String × String)) : List (String × String) :=
  query.mergeSort fun p q => pairLe (encodedPair p) (encodedPair q)

theorem perm_inOrder (query : List (String × String)) : (inOrder query).Perm query :=
  List.mergeSort_perm _ _

@[simp] theorem inOrder_nil : inOrder [] = [] := List.mergeSort_nil

theorem encodedPairs_eq (query : List (String × String)) :
    encodedPairs query = (inOrder query).map encodedPair :=
  (List.map_mergeSort (f := encodedPair) fun _ _ _ _ => rfl).symm

theorem encodeQueryChars_eq (query : List (String × String)) :
    encodeQueryChars query = ['&'].intercalate ((inOrder query).map parameter) := by
  rw [encodeQueryChars, encodedPairs_eq, List.map_map]
  rfl

/-! ### Characters -/

/-- A parameter is written with the characters of encoded texts and one more mark. -/
theorem written_of_mem_parameter {p : String × String} {c : Char} (h : c ∈ parameter p) :
    isWritten c = true ∨ c = '=' := by
  rcases List.mem_append.mp h with hname | hvalue
  · exact .inl (isWritten_of_mem_encodeChars hname)
  · rcases List.mem_cons.mp hvalue with rfl | hvalue
    · exact .inr rfl
    · exact .inl (isWritten_of_mem_encodeChars hvalue)

theorem written_of_mem_encodeQueryChars {c : Char} (h : c ∈ encodeQueryChars query) :
    isWritten c = true ∨ c = '=' ∨ c = '&' := by
  rw [encodeQueryChars_eq] at h
  rcases mem_of_mem_intercalate h with rfl | ⟨part, hpart, hc⟩
  · exact .inr (.inr rfl)
  · obtain ⟨p, -, rfl⟩ := List.mem_map.mp hpart
    exact (written_of_mem_parameter hc).imp_right .inl

/-- The canonical form of a query is left alone when an address is read, and no fragment begins in
it. -/
theorem kept_encodeQueryChars {c : Char} (h : c ∈ encodeQueryChars query) :
    encodedInQuery c = false ∧ c ≠ '#' := by
  have hquery : encodedInQuery c = false := by
    rcases written_of_mem_encodeQueryChars h with hc | rfl | rfl
    · exact (kept_of_isWritten hc).2
    · rfl
    · rfl
  refine ⟨hquery, ?_⟩
  rintro rfl
  exact absurd hquery (by decide)

/-- What can stand in an encoded text: letters, digits and five marks. -/
theorem mem_of_isWritten {c : Char} (h : isWritten c = true) :
    c.isAlphanum = true ∨ c ∈ ['-', '_', '.', '~', '%'] := by
  have hall : ∀ n < 128, isWritten (Char.ofNat n) = true →
      (Char.ofNat n).isAlphanum = true ∨ Char.ofNat n ∈ ['-', '_', '.', '~', '%'] := by
    decide +kernel
  have hmem := hall c.toNat (toNat_lt_of_isWritten h)
  rw [Char.ofNat_toNat] at hmem
  exact hmem h

/-! ### Reading -/

/-- The pieces of a query between its ampersands; an empty one has none. -/
def queryPieces (s : List Char) : List (List Char) := if s.isEmpty then [] else pieces '&' s

/-- The parameter that a piece of a query stands for: its name ends at the first equals sign. -/
def readPair (piece : List Char) : Option (String × String) := do
  let (name, value) ← splitFirst '=' piece
  return (← text? name, ← text? value)

/-- The parameters of a query. -/
def readQuery (s : List Char) : Option (List (String × String)) := (queryPieces s).mapM readPair

theorem parameter_ne_nil (p : String × String) : parameter p ≠ [] := by
  simp [parameter, joinPair]

/-- Only a query without parameters is written as the empty text. -/
theorem encodeQueryChars_eq_nil_iff : encodeQueryChars query = [] ↔ query = [] := by
  constructor
  · intro h
    cases horder : inOrder query with
    | nil => exact (horder ▸ perm_inOrder query).symm.eq_nil
    | cons p rest =>
      -- the first parameter is written, if not more
      rw [encodeQueryChars_eq, horder] at h
      cases rest with
      | nil => exact absurd h (by simp [parameter_ne_nil])
      | cons q rest => exact absurd h (by simp [List.intercalate_cons_cons])
  · rintro rfl
    rw [encodeQueryChars_eq, inOrder_nil]
    rfl

theorem ampersand_not_mem_parameter (p : String × String) : '&' ∉ parameter p := by
  intro h
  rcases written_of_mem_parameter h with hc | hc
  · exact absurd hc (by decide)
  · exact absurd hc (by decide)

/-- **The pieces of a query are its parameters**, in the order of what is written. -/
theorem queryPieces_encodeQueryChars (query : List (String × String)) :
    queryPieces (encodeQueryChars query) = (inOrder query).map parameter := by
  rw [queryPieces]
  split_ifs with hempty
  · rw [List.isEmpty_iff, encodeQueryChars_eq_nil_iff] at hempty
    rw [hempty, inOrder_nil, List.map_nil]
  · have hsome : (inOrder query).map parameter ≠ [] := by
      intro hnil
      rw [encodeQueryChars_eq, hnil] at hempty
      exact hempty rfl
    rw [pieces_eq_splitOn, encodeQueryChars_eq]
    refine List.splitOn_intercalate '&' (fun piece hpiece => ?_) hsome
    obtain ⟨p, -, rfl⟩ := List.mem_map.mp hpiece
    exact ampersand_not_mem_parameter p

/-- What stands before the first equals sign of a parameter is its name. -/
theorem splitFirst_parameter (p : String × String) :
    splitFirst '=' (parameter p) = some (encodeChars p.1, encodeChars p.2) :=
  splitFirst_append (not_mem_encodeChars rfl p.1) _

theorem readPair_parameter (p : String × String) : readPair (parameter p) = some p := by
  simp only [readPair, splitFirst_parameter, Option.bind_eq_bind, Option.bind_some,
    text?_encodeChars, Option.pure_def]

/-- **The parameters of a query are read back.** -/
theorem readQuery_encodeQueryChars (query : List (String × String)) :
    readQuery (encodeQueryChars query) = some (inOrder query) := by
  have hread : readPair ∘ parameter = (fun p => some p) ∘ id := funext readPair_parameter
  rw [readQuery, queryPieces_encodeQueryChars, List.mapM_map, hread]
  exact List.mapM_pure.trans (congrArg some (List.map_id _))

/-- **Queries with the same canonical form have the same parameters**, in whatever order. -/
theorem perm_of_encodeQuery_eq {query query' : List (String × String)}
    (h : encodeQuery query = encodeQuery query') : query.Perm query' := by
  have hread := congrArg readQuery (String.ofList_inj.mp h)
  rw [readQuery_encodeQueryChars, readQuery_encodeQueryChars, Option.some.injEq] at hread
  exact (perm_inOrder query).symm.trans (hread ▸ perm_inOrder query')

/-! ### The order -/

theorem pairLe_iff {p q : List Char × List Char} :
    pairLe p q = true ↔ p.1 < q.1 ∨ p.1 = q.1 ∧ ¬ q.2 < p.2 := by
  simp [pairLe]

theorem pairLe_trans {p q r : List Char × List Char} (h : pairLe p q = true)
    (h' : pairLe q r = true) : pairLe p r = true := by
  rw [pairLe_iff] at h h' ⊢
  rcases h with hlt | ⟨heq, hle⟩
  · rcases h' with hlt' | ⟨heq', -⟩
    · exact .inl (lt_trans hlt hlt')
    · exact .inl (heq' ▸ hlt)
  · rcases h' with hlt' | ⟨heq', hle'⟩
    · exact .inl (heq ▸ hlt')
    · exact .inr ⟨heq.trans heq', not_lt.mpr ((not_lt.mp hle).trans (not_lt.mp hle'))⟩

theorem pairLe_total (p q : List Char × List Char) : (pairLe p q || pairLe q p) = true := by
  rw [Bool.or_eq_true, pairLe_iff, pairLe_iff]
  rcases lt_trichotomy p.1 q.1 with hlt | heq | hlt
  · exact .inl (.inl hlt)
  · rcases le_total p.2 q.2 with hle | hle
    · exact .inl (.inr ⟨heq, not_lt.mpr hle⟩)
    · exact .inr (.inr ⟨heq.symm, not_lt.mpr hle⟩)
  · exact .inr (.inl hlt)

/-- The names ascend as they are written, if none of them occurs twice. -/
theorem pairwise_inOrder (h : (query.map Prod.fst).Nodup) :
    (inOrder query).Pairwise fun p q => encodeChars p.1 < encodeChars q.1 := by
  have htrans (p q r : String × String) (hpq : pairLe (encodedPair p) (encodedPair q) = true)
      (hqr : pairLe (encodedPair q) (encodedPair r) = true) :
      pairLe (encodedPair p) (encodedPair r) = true := pairLe_trans hpq hqr
  have htotal (p q : String × String) :
      (pairLe (encodedPair p) (encodedPair q) || pairLe (encodedPair q) (encodedPair p)) = true :=
    pairLe_total _ _
  have hsorted : (inOrder query).Pairwise fun p q => pairLe (encodedPair p) (encodedPair q) = true :=
    List.pairwise_mergeSort htrans htotal query
  have hnames : (inOrder query).Pairwise fun p q => p.1 ≠ q.1 :=
    List.pairwise_map.mp (((perm_inOrder query).map Prod.fst).nodup_iff.mpr h)
  refine (hsorted.and hnames).imp ?_
  rintro p q ⟨hle, hne⟩
  rcases pairLe_iff.mp hle with hlt | ⟨heq, -⟩
  · exact hlt
  · exact absurd (encodeChars_injective heq) hne

/-- The encoded name of the parameter that a piece of a query stands for. -/
def nameOf (piece : List Char) : List Char := piece.takeWhile (· ≠ '=')

theorem nameOf_parameter (p : String × String) : nameOf (parameter p) = encodeChars p.1 := by
  have hname : ∀ c ∈ encodeChars p.1, decide (c ≠ '=') = true := by
    intro c hc
    refine decide_eq_true fun heq => ?_
    exact not_mem_encodeChars rfl p.1 (heq ▸ hc)
  rw [nameOf, parameter, joinPair, encodedPair, List.takeWhile_append_of_pos hname,
    List.takeWhile_cons_of_neg (by simp), List.append_nil]

/-- **The canonical form of a query.**  It is written with letters, digits and seven marks.  Split at
the ampersands, each piece at its first equals sign, and both halves decoded, it gives the parameters
of the query, each once; it is empty only if there are none.  If no name occurs twice, the encoded
names ascend strictly by their octets, in whatever order the names themselves are. -/
theorem encodeQuery_canonical (h : (query.map Prod.fst).Nodup) :
    (∀ c ∈ (encodeQuery query).toList,
      c.isAlphanum = true ∨ c ∈ ['-', '_', '.', '~', '%', '=', '&']) ∧
    (∃ read, readQuery (encodeQuery query).toList = some read ∧ read.Perm query) ∧
    (encodeQuery query = "" ↔ query = []) ∧
    ((queryPieces (encodeQuery query).toList).map fun piece =>
      octets (String.ofList (nameOf piece))).Pairwise (· < ·) := by
  rw [encodeQuery, String.toList_ofList]
  refine ⟨fun c hc => ?_, ⟨inOrder query, readQuery_encodeQueryChars query, perm_inOrder query⟩, ?_, ?_⟩
  · rcases written_of_mem_encodeQueryChars hc with hwritten | rfl | rfl
    · refine (mem_of_isWritten hwritten).imp_right fun hmem => ?_
      exact List.mem_append_left ['=', '&'] hmem
    · exact .inr (by decide)
    · exact .inr (by decide)
  · rw [← encodeQueryChars_eq_nil_iff]
    exact String.ofList_eq_empty_iff
  · have hascii (p : String × String) : ∀ c ∈ encodeChars p.1, c.toNat < 128 := fun c hc =>
      toNat_lt_of_isWritten (isWritten_of_mem_encodeChars hc)
    rw [queryPieces_encodeQueryChars, List.map_map, List.pairwise_map]
    refine (pairwise_inOrder h).imp ?_
    intro p q hlt
    simp only [Function.comp_apply, nameOf_parameter, octets_ofList (hascii p),
      octets_ofList (hascii q)]
    exact map_toUInt8_lt (hascii p) (hascii q) hlt

/-- Three names of which the last is written first, since it begins with a percent sign then. -/
theorem encodeQuery_canonical_accent :
    let query := [("a b", "1/2"), ("z", "%"), ("é", "")]
    (query.map Prod.fst).Nodup ∧ (query.map Prod.fst).Pairwise (· < ·) ∧
      encodeQuery query = "%C3%A9=&a%20b=1%2F2&z=%25" ∧
      ∃ read, readQuery "%C3%A9=&a%20b=1%2F2&z=%25".toList = some read ∧ read.Perm query := by
  intro query
  have hnames : (query.map Prod.fst).Nodup := by decide
  have hwritten : encodeQuery query = "%C3%A9=&a%20b=1%2F2&z=%25" := by cbv
  obtain ⟨-, hread, -, -⟩ := encodeQuery_canonical hnames
  rw [hwritten] at hread
  exact ⟨hnames, by decide, hwritten, hread⟩

end StripeTransfer.Percent
