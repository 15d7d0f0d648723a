/-
StripeTransfer/Proofs/Signature/Profiles.lean

What a credentials file says about a profile.  A line falls under the name of the
last section line before it, or under the default profile before there is one
(`Credentials.sectionAfter`).  The entries of a profile are the keys and values of
the lines that fall under its name, in the order of the file
(`Credentials.entries`): sections of one name are merged, and nothing else in the
file is among them.

One line adds at most one assignment and may begin a section
(`Credentials.assignments_cons`), so what is read for a profile is what its entries
say, and the last one counts for each key (`Credentials.ofText_eq_ok_iff`).  Hence
no change of the lines of other profiles is seen
(`Credentials.entriesFrom_of_other`).
-/
import StripeTransfer.Proofs.Text.Blank
import StripeTransfer.Proofs.Text.Lead
import StripeTransfer.Proofs.Text.Pieces
import StripeTransfer.Signature.Credentials
import Mathlib

namespace StripeTransfer

open Text

namespace Credentials

variable {line current p : List Char} {ls ls' : List (List Char)} {own : List (String × String)}
  {text profile key value written : String}

/-! ### Lines -/

/-- Whether a line says nothing: there is nothing in it, or a mark of comments comes first. -/
def isComment (line : List Char) : Bool := (trim line).head?.all fun c => c == '#' || c == ';'

/-- The name that a section line has between its brackets. -/
def sectionName? (line : List Char) : Option (List Char) :=
  let text := trim line
  if text.head? = some '[' ∧ text.getLast? = some ']' ∧ 2 ≤ text.length then
    some (trim text.tail.dropLast)
  else none

/-- The key and the value of any other line that has an equals sign and is no comment: what stands
before the first equals sign, and what stands behind it. -/
def assignment? (line : List Char) : Option (String × String) :=
  let text := trim line
  if isComment line = true ∨ (sectionName? line).isSome = true ∨ '=' ∉ text then none
  else
    some (String.ofList (trim (text.takeWhile (· != '='))),
      String.ofList (bare (text.dropWhile (· != '=')).tail))

/-- **What a line says.**  A section line comes before an assignment, so an equals sign in a name does
not matter. -/
theorem readLine_trim (line : List Char) : readLine (trim line) =
    match sectionName? line with
    | some name => .section_ name
    | none => (assignment? line).elim .comment fun e =>
      .assignment (e.1.toList.map asciiLower) e.2.toList := by
  unfold assignment? isComment sectionName?
  -- nothing but the trimmed line is looked at
  generalize trim line = text
  rcases text with - | ⟨c, rest⟩
  · rfl
  · by_cases hmark : c = '#' ∨ c = ';'
    · rcases hmark with rfl | rfl <;> simp [readLine]
    · obtain ⟨hnumber, hsemi⟩ := not_or.mp hmark
      have hcomment : ¬ (c :: rest).head?.all (fun c => c == '#' || c == ';') = true := by
        simpa using hmark
      rw [readLine, dropLead_bind_dropTail]
      · by_cases hsection : (c :: rest).head? = some '[' ∧ (c :: rest).getLast? = some ']' ∧
            2 ≤ (c :: rest).length
        · simp only [if_pos hsection]
        · by_cases hequals : '=' ∈ c :: rest
          · simp only [if_neg hsection, splitFirst_eq hequals, hcomment, hequals]
            simp
          · simp only [if_neg hsection, splitFirst_of_not_mem hequals, hequals]
            simp
      · exact List.cons_ne_nil c rest
      · rintro tail ⟨⟩
        exact hnumber rfl
      · rintro tail ⟨⟩
        exact hsemi rfl

/-- What a line assigns under a name. -/
def assigned (profile : List Char) (e : String × String) : Assigned :=
  ⟨profile, e.1.toList.map asciiLower, e.2.toList⟩

/-- A section line assigns nothing. -/
theorem assignment?_of_section {name : List Char} (h : sectionName? line = some name) :
    assignment? line = none := by
  simp [assignment?, h]

/-- **One line** assigns at most one value, and may begin a section. -/
theorem assignments_cons (current line : List Char) (ls : List (List Char)) :
    assignments current (line :: ls) = (assignment? line).toList.map (assigned current) ++
      assignments ((sectionName? line).getD current) ls := by
  rw [assignments, readLine_trim]
  cases hsection : sectionName? line with
  | some name =>
    rw [assignment?_of_section hsection]
    rfl
  | none => cases assignment? line <;> rfl

/-! ### Entries -/

/-- The name that a line falls under, from the lines before it: that of the last section line among
them, or else the one that holds before them. -/
def sectionAfter (current : List Char) (before : List (List Char)) : List Char :=
  (before.reverse.findSome? sectionName?).getD current

/-- The keys and values of the lines that fall under a name. -/
def entriesFrom (current profile : List Char) (ls : List (List Char)) : List (String × String) :=
  (ls.mapIdx fun i line =>
    if sectionAfter current (ls.take i) = profile then assignment? line else none).reduceOption

/-- The keys and values of a profile in a file: those of the lines that fall under its name. -/
def entries (profile : String) (ls : List (List Char)) : List (String × String) :=
  entriesFrom defaultProfile.toList profile.toList ls

theorem sectionAfter_cons (current line : List Char) (before : List (List Char)) :
    sectionAfter current (line :: before) =
      sectionAfter ((sectionName? line).getD current) before := by
  rw [sectionAfter, List.reverse_cons, List.findSome?_append, List.findSome?_singleton, sectionAfter]
  cases before.reverse.findSome? sectionName? <;> rfl

/-- Without a section line, the name stays. -/
theorem sectionAfter_of_forall (h : ∀ line ∈ ls, sectionName? line = none) :
    sectionAfter current ls = current := by
  have hnone : ls.reverse.findSome? sectionName? = none :=
    List.findSome?_eq_none_iff.mpr fun line hline => h line (List.mem_reverse.mp hline)
  rw [sectionAfter, hnone, Option.getD_none]

/-- **One line** is an entry if it falls under the name and assigns a value. -/
theorem entriesFrom_cons (current profile line : List Char) (ls : List (List Char)) :
    entriesFrom current profile (line :: ls) =
      (if current = profile then (assignment? line).toList else []) ++
        entriesFrom ((sectionName? line).getD current) profile ls := by
  simp only [entriesFrom, List.mapIdx_cons, List.take_succ_cons, sectionAfter_cons]
  have hfirst : sectionAfter current (List.take 0 (line :: ls)) = current := rfl
  rw [hfirst]
  split_ifs
  · cases assignment? line <;> rfl
  · rfl

theorem entriesFrom_append (current profile : List Char) (ls ls' : List (List Char)) :
    entriesFrom current profile (ls ++ ls') =
      entriesFrom current profile ls ++ entriesFrom (sectionAfter current ls) profile ls' := by
  induction ls generalizing current with
  | nil => rfl
  | cons line ls ih =>
    rw [List.cons_append, entriesFrom_cons, ih, entriesFrom_cons, sectionAfter_cons,
      List.append_assoc]

/-- **Lines that fall under another name are no entries.** -/
theorem entriesFrom_of_other (h : ∀ line ∈ ls, sectionName? line = none) (hne : current ≠ p) :
    entriesFrom current p ls = [] := by
  induction ls with
  | nil => rfl
  | cons line ls ih =>
    obtain ⟨hline, hls⟩ := List.forall_mem_cons.mp h
    rw [entriesFrom_cons, if_neg hne, hline, Option.getD_none, ih hls, List.nil_append]

/-- **The assignments under a name are the entries of it.** -/
theorem filter_assignments (current p : List Char) (ls : List (List Char)) :
    (assignments current ls).filter (fun a => a.profile == p) =
      (entriesFrom current p ls).map (assigned p) := by
  -- line by line: behind each one, both sides go on with the same name
  induction ls generalizing current with
  | nil => rfl
  | cons line ls ih =>
    rw [assignments_cons, List.filter_append, ih, entriesFrom_cons, List.map_append]
    congr 1
    by_cases hcurrent : current = p
    · subst hcurrent
      rw [if_pos rfl]
      cases assignment? line <;> simp [assigned]
    · rw [if_neg hcurrent]
      cases assignment? line <;> simp [assigned, hcurrent]

/-- Blanks at the ends of lines do not matter. -/
theorem assignments_congr (h : ls.map trim = ls'.map trim) :
    assignments current ls = assignments current ls' := by
  induction ls generalizing current ls' with
  | nil =>
    obtain rfl := List.map_eq_nil_iff.mp h.symm
    rfl
  | cons line ls ih =>
    obtain ⟨line', rest, rfl, hline, hrest⟩ := List.map_eq_cons_iff.mp h.symm
    rw [assignments, assignments, hline]
    split
    · exact ih hrest.symm
    · exact ih hrest.symm
    · rw [ih hrest.symm]

/-! ### The pair of a profile -/

/-- The key pair that some assignments make up for a profile. -/
def pairOf (profile : String) (own : List Assigned) : Except CredentialsError Credentials :=
  match own with
  | [] => .error (.profileNotFound profile)
  | own => do
    let accessKey ← field profile accessName own
    let secretKey ← field profile secretName own
    return ⟨accessKey, secretKey⟩

/-- **What is read for a profile is what its entries make up**, however the text is taken as lines. -/
theorem ofText_eq_pairOf (h : Lined ls text.toList) (profile : String) :
    ofText text profile =
      pairOf profile ((entries profile ls).map (assigned profile.toList)) := by
  rw [entries, ← filter_assignments, ← assignments_congr h.map_trim_lines]
  rfl

/-- A value is the one that is assigned to a key last. -/
def IsLast (own : List (String × String)) (key value : String) : Prop :=
  ∃ before written after, own = before ++ (written, value) :: after ∧
    sameIgnoringCase written key = true ∧ ∀ e ∈ after, sameIgnoringCase e.1 key = false

/-- Nothing is assigned to a key. -/
def IsUnset (own : List (String × String)) (key : String) : Prop :=
  ∀ e ∈ own, sameIgnoringCase e.1 key = false

/-- The names of the two keys. -/
def keyNames : List String := [accessName, secretName]

theorem accessName_mem : accessName ∈ keyNames := List.mem_cons_self

theorem secretName_mem : secretName ∈ keyNames := List.mem_cons_of_mem _ List.mem_cons_self

/-- A key is written in any case if it is in lower case as the name is. -/
theorem same_iff (hkey : key ∈ keyNames) : sameIgnoringCase written key = true ↔
    written.toList.map asciiLower = key.toList := by
  have hlower : ∀ key ∈ keyNames, key.toList.map asciiLower = key.toList := by decide
  rw [sameIgnoringCase, hlower key hkey, beq_iff_eq]

theorem lastValue?_assigned (hkey : key ∈ keyNames) (p : List Char)
    (own : List (String × String)) : lastValue? key (own.map (assigned p)) =
      (own.reverse.find? fun e => sameIgnoringCase e.1 key).map Prod.snd := by
  have hsame : ((fun a : Assigned => a.key == key.toList) ∘ assigned p) =
      fun e => sameIgnoringCase e.1 key := by
    funext e
    rw [Bool.eq_iff_iff, same_iff hkey]
    exact beq_iff_eq
  rw [lastValue?, List.filter_map, hsame, List.getLast?_map, List.getLast?_filter, Option.map_map]
  refine congrArg (Option.map · _) (funext fun e => ?_)
  exact String.ofList_toList

/-- **The last value of a key counts.** -/
theorem lastValue?_eq_some_iff (hkey : key ∈ keyNames) :
    lastValue? key (own.map (assigned p)) = some value ↔ IsLast own key value := by
  simp only [lastValue?_assigned hkey, Option.map_eq_some_iff, List.find?_eq_some_iff_append,
    IsLast, Bool.not_eq_true']
  constructor
  · rintro ⟨⟨written, _⟩, ⟨hsame, after, before, hown, hafter⟩, rfl⟩
    refine ⟨before.reverse, written, after.reverse, ?_, hsame, ?_⟩
    · simpa using congrArg List.reverse hown
    · exact fun e he => hafter e (List.mem_reverse.mp he)
  · rintro ⟨before, written, after, rfl, hsame, hafter⟩
    refine ⟨(written, value), ⟨hsame, after.reverse, before.reverse, by simp, ?_⟩, rfl⟩
    exact fun e he => hafter e (List.mem_reverse.mp he)

theorem lastValue?_eq_none_iff (hkey : key ∈ keyNames) :
    lastValue? key (own.map (assigned p)) = none ↔ IsUnset own key := by
  rw [lastValue?_assigned hkey, Option.map_eq_none_iff, List.find?_eq_none]
  simp only [List.mem_reverse, Bool.not_eq_true, IsUnset]

/-- If there are assignments at all, the pair is that of the last values. -/
theorem pairOf_of_ne_nil {own : List Assigned} (hne : own ≠ []) (profile : String) :
    pairOf profile own =
      match lastValue? accessName own, lastValue? secretName own with
      | some accessKey, some secretKey => .ok ⟨accessKey, secretKey⟩
      | some _, none => .error (.keyMissing profile secretName)
      | none, _ => .error (.keyMissing profile accessName) := by
  obtain ⟨a, own, rfl⟩ := List.exists_cons_of_ne_nil hne
  simp only [pairOf, field]
  cases lastValue? accessName (a :: own) with
  | none => rfl
  | some accessKey => cases lastValue? secretName (a :: own) <;> rfl

/-- A profile is not found just if no line falls under its name. -/
theorem ofText_eq_notFound_iff (h : Lined ls text.toList) :
    ofText text profile = .error (.profileNotFound profile) ↔ entries profile ls = [] := by
  rw [ofText_eq_pairOf h]
  by_cases hown : entries profile ls = []
  · rw [hown]
    exact iff_of_true rfl rfl
  · rw [pairOf_of_ne_nil (List.map_eq_nil_iff.not.mpr hown), iff_false_right hown]
    split <;> simp

/-- **A pair is read just if its two keys are the last values in the entries of the profile.** -/
theorem ofText_eq_ok_iff (h : Lined ls text.toList) {c : Credentials} : ofText text profile = .ok c ↔
    IsLast (entries profile ls) accessName c.accessKey ∧
      IsLast (entries profile ls) secretName c.secretKey := by
  rw [ofText_eq_pairOf h, ← lastValue?_eq_some_iff accessName_mem (p := profile.toList),
    ← lastValue?_eq_some_iff secretName_mem (p := profile.toList)]
  by_cases hown : entries profile ls = []
  · rw [hown]
    exact iff_of_false nofun fun hlast => absurd hlast.1 nofun
  · rw [pairOf_of_ne_nil (List.map_eq_nil_iff.not.mpr hown)]
    split
    next accessKey secretKey ha hs =>
      obtain ⟨accessKey', secretKey'⟩ := c
      simp [ha, hs]
    next ha hs => simp [hs]
    next ha => simp [ha]

/-- A key is missing just if the profile is there, and this is the first key that is not set. -/
theorem ofText_eq_missing_iff (h : Lined ls text.toList) :
    ofText text profile = .error (.keyMissing profile key) ↔ entries profile ls ≠ [] ∧
      (key = accessName ∧ IsUnset (entries profile ls) accessName ∨
        key = secretName ∧ IsUnset (entries profile ls) secretName ∧
          ¬ IsUnset (entries profile ls) accessName) := by
  rw [ofText_eq_pairOf h, ← lastValue?_eq_none_iff accessName_mem (p := profile.toList),
    ← lastValue?_eq_none_iff secretName_mem (p := profile.toList)]
  by_cases hown : entries profile ls = []
  · rw [hown]
    exact iff_of_false nofun fun hmissing => hmissing.1 rfl
  · rw [pairOf_of_ne_nil (List.map_eq_nil_iff.not.mpr hown), and_iff_right hown]
    split
    next ha hs => simp [ha, hs]
    next ha hs => simp [ha, hs, eq_comm]
    next ha => simp [ha, eq_comm]

/-- **A profile is read on its own.**  It is not found just if no line falls under its name.  It has a
pair just if both keys are set, and then the last value of each; otherwise the first key that is not
set is missing.  A file with the same entries of the profile has the same outcome for it, whatever
else is in it.  So has a file in which lines that fall under another name are replaced by any lines
that begin no section. -/
theorem ofText_isolated (h : Lined ls text.toList) (profile : String) :
    let own := entries profile ls
    (ofText text profile = .error (.profileNotFound profile) ↔ own = []) ∧
    (∀ c, ofText text profile = .ok c ↔
      IsLast own accessName c.accessKey ∧ IsLast own secretName c.secretKey) ∧
    (∀ key, ofText text profile = .error (.keyMissing profile key) ↔ own ≠ [] ∧
      (key = accessName ∧ IsUnset own accessName ∨
        key = secretName ∧ IsUnset own secretName ∧ ¬ IsUnset own accessName)) ∧
    (∀ ls' text', Lined ls' text'.toList → entries profile ls' = own →
      ofText text' profile = ofText text profile) ∧
    ∀ before others others' after text', ls = before ++ (others ++ after) →
      sectionAfter defaultProfile.toList before ≠ profile.toList →
      (∀ line ∈ others ++ others', sectionName? line = none) →
      Lined (before ++ (others' ++ after)) text'.toList →
      ofText text' profile = ofText text profile := by
  intro own
  have hsame (ls' text') (h' : Lined ls' text'.toList) (hown : entries profile ls' = own) :
      ofText text' profile = ofText text profile := by
    rw [ofText_eq_pairOf h, ofText_eq_pairOf h', hown]
  refine ⟨ofText_eq_notFound_iff h, fun c => ofText_eq_ok_iff h, fun key => ofText_eq_missing_iff h,
    hsame, ?_⟩
  rintro before others others' after text' rfl hother hsection h'
  obtain ⟨hothers, hothers'⟩ := List.forall_mem_append.mp hsection
  -- such lines are no entries, and behind them the name is the one before them
  have hskip {mid : List (List Char)} (hmid : ∀ line ∈ mid, sectionName? line = none) :
      entries profile (before ++ (mid ++ after)) = entries profile (before ++ after) := by
    simp only [entries, entriesFrom_append]
    rw [entriesFrom_of_other hmid hother, sectionAfter_of_forall hmid, List.nil_append]
  exact hsame _ text' h' ((hskip hothers').trans (hskip hothers).symm)

/-- A file with two sections of one profile around another profile. -/
def divided : String :=
  "aws_access_key_id = 'A'\r\n[other]\naws_access_key_id=B\n[ default ]\nAWS_secret_access_KEY=S"

/-- The same file with other lines in the other profile. -/
def divided' : String :=
  "aws_access_key_id = 'A'\r\n[other]\n; \n\naws_secret_access_key=C\n[ default ]\n" ++
    "AWS_secret_access_KEY=S"

/-- Both sections are read, and the other profile has no part in it. -/
theorem ofText_isolated_divided :
    Lined (lines divided.toList) divided.toList ∧ ofText divided "default" = .ok ⟨"A", "S"⟩ ∧
      ofText divided' "default" = ofText divided "default" := by
  have hlined := lined_lines divided.toList
  have hlines : lines divided.toList = ["aws_access_key_id = 'A'".toList, "[other]".toList] ++
      (["aws_access_key_id=B".toList] ++
        ["[ default ]".toList, "AWS_secret_access_KEY=S".toList]) := by decide +kernel
  have hlines' : lines divided'.toList = ["aws_access_key_id = 'A'".toList, "[other]".toList] ++
      (["; ".toList, [], "aws_secret_access_key=C".toList] ++
        ["[ default ]".toList, "AWS_secret_access_KEY=S".toList]) := by decide +kernel
  have hlined' := lined_lines divided'.toList
  rw [hlines'] at hlined'
  have hown : entries "default" (lines divided.toList) =
      [("aws_access_key_id", "A"), ("AWS_secret_access_KEY", "S")] := by decide +kernel
  obtain ⟨-, hok, -, -, hchange⟩ := ofText_isolated hlined "default"
  refine ⟨hlined, (hok ⟨"A", "S"⟩).mpr ?_,
    hchange _ _ _ _ divided' hlines (by decide) (by decide) hlined'⟩
  rw [hown]
  exact ⟨⟨[], _, _, rfl, by decide, by decide⟩, ⟨[_], _, _, rfl, by decide, by decide⟩⟩

end Credentials

end StripeTransfer
