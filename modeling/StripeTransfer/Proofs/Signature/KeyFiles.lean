/-
StripeTransfer/Proofs/Signature/KeyFiles.lean

Files of key pairs.  A file stores some pairs if it has a block of lines for each of
them: the section line of its name, and two lines that set the keys, each to its
value in quotes, with comments anywhere (`Credentials.Stores`).

A line that sets a key is read as its value, whatever the value looks like: the key
ends at the first equals sign, and the quotes keep blanks, brackets and marks of
comments away from the ends (`Credentials.IsSetting.exists_assignment?`).  A block
has its pair under its own name (`Credentials.IsBlock.isPair`) and nothing under any
other, so if no two pairs have one name, every pair is read back
(`Credentials.isPair_of_blocks`).
-/
import StripeTransfer.Proofs.Signature.Profiles
import StripeTransfer.Proofs.Text.CaseFold
import Mathlib

namespace StripeTransfer

open Text

namespace Credentials

variable {line current p name : List Char} {ls rest : List (List Char)} {key value written : String}
  {profile : String × Credentials} {profiles : List (String × Credentials)}
  {blocks : List (List (List Char))} {c : Char}

/-! ### Lines of a file -/

/-- The marks that a value may stand between. -/
def quoteMarks : List Char := ['"', '\'']

/-- The section line of a name. -/
def sectionLine (name : List Char) : List Char := '[' :: (name ++ [']'])

/-- A line that sets a key to a value: the key in any case, and the value in quotes of either kind. -/
inductive IsSetting (key value : String) : List Char → Prop
  | intro {written : String} {quote : Char} :
      sameIgnoringCase written key = true → quote ∈ quoteMarks →
      IsSetting key value (written.toList ++ '=' :: quote :: (value.toList ++ [quote]))

theorem sectionName?_sectionLine (h : trim name = name) :
    sectionName? (sectionLine name) = some name := by
  have hlast : (sectionLine name).getLast? = some ']' := getLast?_between '[' ']' name
  have htrim : trim (sectionLine name) = sectionLine name := trim_between rfl rfl name
  rw [sectionName?, htrim, if_pos ⟨rfl, hlast, by simp [sectionLine]⟩, sectionLine, List.tail_cons,
    List.dropLast_concat, h]

theorem isBlank_of_mem_quoteMarks {quote : Char} (hquote : quote ∈ quoteMarks) :
    isBlank quote = false := by
  have hblank : quoteMarks.all (!isBlank ·) = true := by decide
  simp only [List.all_eq_true, Bool.not_eq_true'] at hblank
  exact hblank quote hquote

/-- **A value between quotes is read as it is.** -/
theorem bare_quoted {quote : Char} (hquote : quote ∈ quoteMarks) (s : List Char) :
    bare (quote :: (s ++ [quote])) = s := by
  have hblank := isBlank_of_mem_quoteMarks hquote
  rw [bare, trim_between hblank hblank]
  simp only [dropLead_bind_dropTail, getLast?_between]
  -- a value in single quotes does not start with a double one
  simp only [quoteMarks, List.mem_cons, List.not_mem_nil, or_false] at hquote
  rcases hquote with rfl | rfl <;> simp

/-! ### Names of keys -/

/-- The marks that have a meaning at the start of a line, or behind a key. -/
def lineMarks : List Char := ['#', ';', '[', '=']

/-- Whether a character may be in the name of a key. -/
def inName (c : Char) : Bool := !isBlank c && !lineMarks.contains c

theorem inName_of_asciiLower (h : inName (asciiLower c) = true) : inName c = true := by
  by_cases hc : c.toNat < 128
  · exact of_forall_ascii (P := fun c => inName (asciiLower c) = true → inName c = true)
      (by decide +kernel) hc h
  · rwa [asciiLower_of_le (not_lt.mp hc)] at h

/-- In whatever case the name of a key is written, there are only such characters in it. -/
theorem not_mark_of_same (hkey : key ∈ keyNames)
    (h : sameIgnoringCase written key = true) :
    ∀ c ∈ written.toList, isBlank c = false ∧ c ∉ lineMarks := by
  have hnames : ∀ key ∈ keyNames, key.toList.all inName = true := by decide
  rw [same_iff hkey] at h
  intro c hc
  have hin := inName_of_asciiLower
    (List.all_eq_true.mp (hnames key hkey) _ (h ▸ List.mem_map_of_mem hc))
  simpa [inName] using hin

/-- The name of one key is not that of the other. -/
theorem not_same_of_same {key' : String} (hkey : key ∈ keyNames)
    (hkey' : key' ∈ keyNames) (hne : key ≠ key')
    (h : sameIgnoringCase written key = true) : sameIgnoringCase written key' = false := by
  rw [same_iff hkey] at h
  rw [Bool.eq_false_iff, Ne, same_iff hkey', h]
  exact fun heq => hne (String.toList_injective heq)

/-- A name of a key is not empty. -/
theorem ne_nil_of_same (hkey : key ∈ keyNames)
    (h : sameIgnoringCase written key = true) : written.toList ≠ [] := by
  have hnames : ∀ key ∈ keyNames, key.toList ≠ [] := by decide
  rw [same_iff hkey] at h
  intro hnil
  rw [hnil, List.map_nil] at h
  exact hnames key hkey h.symm

/-- **A line that sets a key assigns it the value**, and begins no section. -/
theorem IsSetting.exists_assignment? (h : IsSetting key value line)
    (hkey : key ∈ keyNames) : sectionName? line = none ∧
      ∃ written, assignment? line = some (written, value) ∧ sameIgnoringCase written key = true := by
  obtain @⟨written, quote, hsame, hquote⟩ := h
  have hplain := not_mark_of_same hkey hsame
  have hequals : '=' ∉ written.toList := fun hmem => (hplain '=' hmem).2 (by decide)
  have hkept : trim written.toList = written.toList :=
    trim_eq_self (fun c hc => (hplain c (List.mem_of_mem_head? hc)).1)
      fun c hc => (hplain c (List.mem_of_getLast? hc)).1
  have hsplit := splitFirst_append hequals (quote :: (value.toList ++ [quote]))
  have hmem : '=' ∈ written.toList ++ '=' :: quote :: (value.toList ++ [quote]) := by simp
  -- the key has no equals sign, so the first one is where the key ends
  rw [splitFirst_eq hmem, Option.some.injEq, Prod.mk.injEq] at hsplit
  -- the line starts with a letter of the key and ends with a quote
  obtain ⟨c, name, hname⟩ := List.exists_cons_of_ne_nil (ne_nil_of_same hkey hsame)
  obtain ⟨hblank, hmark⟩ := hplain c (hname ▸ List.mem_cons_self)
  have hends : written.toList ++ '=' :: quote :: (value.toList ++ [quote]) =
      c :: (name ++ '=' :: quote :: value.toList ++ [quote]) := by simp [hname]
  generalize written.toList ++ '=' :: quote :: (value.toList ++ [quote]) = line at *
  have htrim : trim line = line := by
    rw [hends]
    exact trim_between hblank (isBlank_of_mem_quoteMarks hquote) _
  have hhead : line.head? = some c := by rw [hends, List.head?_cons]
  simp only [lineMarks, List.mem_cons, List.not_mem_nil, or_false, not_or] at hmark
  have hsection : sectionName? line = none := by simp [sectionName?, htrim, hhead, hmark]
  have hcomment : isComment line = false := by simp [isComment, htrim, hhead, hmark]
  refine ⟨hsection, written, ?_, hsame⟩
  simp only [assignment?, hcomment, hsection, htrim, hmem, hsplit, hkept, bare_quoted hquote]
  simp

/-- A comment begins no section and assigns nothing. -/
theorem of_isComment (h : isComment line = true) :
    sectionName? line = none ∧ assignment? line = none := by
  refine ⟨?_, by simp [assignment?, h]⟩
  rw [sectionName?, if_neg]
  rintro ⟨hhead, -⟩
  rw [isComment, hhead] at h
  exact absurd h (by decide)

theorem sectionName?_of_comments (h : ∀ line ∈ ls, isComment line = true) :
    ∀ line ∈ ls, sectionName? line = none :=
  fun line hline => (of_isComment (h line hline)).1

theorem filterMap_of_comments (h : ∀ line ∈ ls, isComment line = true) :
    ls.filterMap assignment? = [] :=
  List.filterMap_eq_nil_iff.mpr fun line hline => (of_isComment (h line hline)).2

/-! ### Blocks of lines -/

/-- The lines of a key pair: the section line of its name, and a line for each of the two keys, in
either order, with comments between and behind them. -/
inductive IsBlock (profile : String × Credentials) : List (List Char) → Prop
  | intro {first second : List Char} {a b c : List (List Char)} :
      (∀ line ∈ a ++ (b ++ c), isComment line = true) →
      (IsSetting accessName profile.2.accessKey first ∧
          IsSetting secretName profile.2.secretKey second ∨
        IsSetting secretName profile.2.secretKey first ∧
          IsSetting accessName profile.2.accessKey second) →
      IsBlock profile (sectionLine profile.1.toList :: (a ++ first :: (b ++ second :: c)))

/-- The lines of a file that stores some key pairs: a block for each of them, with comments before
the first one. -/
inductive Stores (profiles : List (String × Credentials)) : List (List Char) → Prop
  | intro {front : List (List Char)} {blocks : List (List (List Char))} :
      (∀ line ∈ front, isComment line = true) → List.Forall₂ IsBlock profiles blocks →
      Stores profiles (front ++ blocks.flatten)

/-- Under the name itself, every line without a section is read. -/
theorem entriesFrom_self (h : ∀ line ∈ ls, sectionName? line = none) :
    entriesFrom p p ls = ls.filterMap assignment? := by
  induction ls with
  | nil => rfl
  | cons line ls ih =>
    obtain ⟨hline, hls⟩ := List.forall_mem_cons.mp h
    rw [entriesFrom_cons, if_pos rfl, hline, Option.getD_none, ih hls, List.filterMap_cons]
    cases assignment? line <;> rfl

/-- Comments are no entries, whatever name they fall under. -/
theorem entriesFrom_of_comments (h : ∀ line ∈ ls, isComment line = true) (current p : List Char) :
    entriesFrom current p ls = [] := by
  by_cases hcurrent : current = p
  · rw [hcurrent, entriesFrom_self (sectionName?_of_comments h), filterMap_of_comments h]
  · exact entriesFrom_of_other (sectionName?_of_comments h) hcurrent

/-- The two keys of a pair are the last values that are set. -/
def IsPair (c : Credentials) (own : List (String × String)) : Prop :=
  IsLast own accessName c.accessKey ∧ IsLast own secretName c.secretKey

/-- Two keys that are set one after the other keep their values. -/
theorem isLast_pair {key' value' written' : String} (hkey : key ∈ keyNames)
    (hkey' : key' ∈ keyNames) (hne : key ≠ key')
    (h : sameIgnoringCase written key = true) (h' : sameIgnoringCase written' key' = true) :
    IsLast [(written, value), (written', value')] key value ∧
      IsLast [(written, value), (written', value')] key' value' := by
  refine ⟨⟨[], written, _, rfl, h, ?_⟩, ⟨[_], written', [], rfl, h', nofun⟩⟩
  exact List.forall_mem_singleton.mpr (not_same_of_same hkey' hkey hne.symm h')

/-- **A block sets the two keys** and begins one section. -/
theorem IsBlock.exists_rest (h : IsBlock profile ls) : ∃ rest,
    ls = sectionLine profile.1.toList :: rest ∧ (∀ line ∈ rest, sectionName? line = none) ∧
      IsPair profile.2 (rest.filterMap assignment?) := by
  obtain @⟨first, second, a, b, c, hcomments, hsettings⟩ := h
  have hne : accessName ≠ secretName := by decide
  obtain ⟨ha, hbc⟩ := List.forall_mem_append.mp hcomments
  obtain ⟨hb, hc⟩ := List.forall_mem_append.mp hbc
  have hsection (hfirst : sectionName? first = none) (hsecond : sectionName? second = none) :
      ∀ line ∈ a ++ first :: (b ++ second :: c), sectionName? line = none := by
    simp only [List.forall_mem_append, List.forall_mem_cons]
    exact ⟨sectionName?_of_comments ha, hfirst, sectionName?_of_comments hb, hsecond,
      sectionName?_of_comments hc⟩
  -- comments say nothing, so what is left are the two lines that set the keys
  have hassigned {e e' : String × String} (hfirst : assignment? first = some e)
      (hsecond : assignment? second = some e') :
      (a ++ first :: (b ++ second :: c)).filterMap assignment? = [e, e'] := by
    simp [List.filterMap_append, filterMap_of_comments ha, filterMap_of_comments hb,
      filterMap_of_comments hc, hfirst, hsecond]
  refine ⟨_, rfl, ?_⟩
  rcases hsettings with ⟨hfirst, hsecond⟩ | ⟨hfirst, hsecond⟩
  · obtain ⟨hfirst, written, he, hsame⟩ := hfirst.exists_assignment? accessName_mem
    obtain ⟨hsecond, written', he', hsame'⟩ := hsecond.exists_assignment? secretName_mem
    rw [hassigned he he']
    exact ⟨hsection hfirst hsecond, isLast_pair accessName_mem secretName_mem hne hsame hsame'⟩
  · obtain ⟨hfirst, written, he, hsame⟩ := hfirst.exists_assignment? secretName_mem
    obtain ⟨hsecond, written', he', hsame'⟩ := hsecond.exists_assignment? accessName_mem
    rw [hassigned he he']
    exact ⟨hsection hfirst hsecond,
      (isLast_pair secretName_mem accessName_mem hne.symm hsame hsame').symm⟩

/-- Behind a section line, the lines fall under its name. -/
theorem entriesFrom_sectionLine (hname : trim name = name) (current p : List Char)
    (rest : List (List Char)) :
    entriesFrom current p (sectionLine name :: rest) = entriesFrom name p rest := by
  have hsection := sectionName?_sectionLine hname
  rw [entriesFrom_cons, hsection, assignment?_of_section hsection, Option.toList_none, ite_self,
    List.nil_append, Option.getD_some]

/-- A block has no entries of another name. -/
theorem IsBlock.entriesFrom_of_ne (h : IsBlock profile ls)
    (hname : trim profile.1.toList = profile.1.toList) {other : String} (hne : profile.1 ≠ other)
    (current : List Char) : entriesFrom current other.toList ls = [] := by
  obtain ⟨rest, rfl, hrest, -⟩ := h.exists_rest
  rw [entriesFrom_sectionLine hname]
  exact entriesFrom_of_other hrest fun heq => hne (String.toList_injective heq)

/-- **A block has the pair of its name**, whatever comes before it. -/
theorem IsBlock.isPair (h : IsBlock profile ls)
    (hname : trim profile.1.toList = profile.1.toList) (current : List Char) :
    IsPair profile.2 (entriesFrom current profile.1.toList ls) := by
  obtain ⟨rest, rfl, hrest, hpair⟩ := h.exists_rest
  rwa [entriesFrom_sectionLine hname, entriesFrom_self hrest]

/-! ### Files of key pairs -/

/-- A key pair that can be stored under a name. -/
structure Storable (profile : String × Credentials) : Prop where
  trim_name : trim profile.1.toList = profile.1.toList
  feed_not_mem_name : '\n' ∉ profile.1.toList
  feed_not_mem_accessKey : '\n' ∉ profile.2.accessKey.toList
  feed_not_mem_secretKey : '\n' ∉ profile.2.secretKey.toList

/-- Blocks of other names have no entries of a name. -/
theorem entriesFrom_blocks_of_not_mem (h : List.Forall₂ IsBlock profiles blocks)
    (hstorable : ∀ profile ∈ profiles, Storable profile) {other : String}
    (hother : other ∉ profiles.map Prod.fst) (current : List Char) :
    entriesFrom current other.toList blocks.flatten = [] := by
  induction h generalizing current with
  | nil => rfl
  | cons hblock _ ih =>
    obtain ⟨hfirst, hstorable⟩ := List.forall_mem_cons.mp hstorable
    obtain ⟨hne, hother⟩ := not_or.mp (List.mem_cons.not.mp hother)
    rw [List.flatten_cons, entriesFrom_append,
      hblock.entriesFrom_of_ne hfirst.trim_name (Ne.symm hne), ih hstorable hother, List.nil_append]

/-- **If no two blocks have one name, every pair is what its name has entries of.** -/
theorem isPair_of_blocks (h : List.Forall₂ IsBlock profiles blocks)
    (hstorable : ∀ profile ∈ profiles, Storable profile)
    (hdistinct : (profiles.map Prod.fst).Nodup) (hprofile : profile ∈ profiles)
    (current : List Char) :
    IsPair profile.2 (entriesFrom current profile.1.toList blocks.flatten) := by
  induction h generalizing current with
  | nil => cases hprofile
  | @cons first _ rest _ hblock hblocks ih =>
    obtain ⟨hfirst, hrest⟩ := List.forall_mem_cons.mp hstorable
    obtain ⟨hnew, hdistinct⟩ := List.nodup_cons.mp hdistinct
    rw [List.flatten_cons, entriesFrom_append]
    -- the pair is in the first block or behind it; the name of the other part is never the same
    rcases List.mem_cons.mp hprofile with rfl | hprofile
    · rw [entriesFrom_blocks_of_not_mem hblocks hrest hnew, List.append_nil]
      exact hblock.isPair hfirst.trim_name current
    · have hne : first.1 ≠ profile.1 := fun heq => by
        rw [heq] at hnew
        exact hnew (List.mem_map_of_mem hprofile)
      rw [hblock.entriesFrom_of_ne hfirst.trim_name hne, List.nil_append]
      exact ih hrest hdistinct hprofile _

/-- A line that sets a key, written as it is and in double quotes. -/
def plainSetting (key value : String) : List Char :=
  key.toList ++ '=' :: '"' :: (value.toList ++ ['"'])

/-- A block of such lines without comments. -/
def plainBlock (profile : String × Credentials) : List (List Char) :=
  [sectionLine profile.1.toList, plainSetting accessName profile.2.accessKey,
    plainSetting secretName profile.2.secretKey]

theorem isSetting_plainSetting (key value : String) : IsSetting key value (plainSetting key value) :=
  .intro (beq_self_eq_true (key.toList.map asciiLower)) List.mem_cons_self

theorem isBlock_plainBlock (profile : String × Credentials) :
    IsBlock profile (plainBlock profile) := by
  have haccess := isSetting_plainSetting accessName profile.2.accessKey
  have hsecret := isSetting_plainSetting secretName profile.2.secretKey
  exact IsBlock.intro (a := []) (b := []) (c := []) nofun (.inl ⟨haccess, hsecret⟩)

/-- Lines without line feeds make up a text. -/
theorem exists_lined (h : ∀ line ∈ ls, '\n' ∉ line) : ∃ text : String, Lined ls text.toList := by
  suffices ∃ s, Lined ls s by
    obtain ⟨s, hs⟩ := this
    exact ⟨String.ofList s, by rwa [String.toList_ofList]⟩
  induction ls with
  | nil => exact ⟨[], .nil⟩
  | cons line ls ih =>
    obtain ⟨hline, hls⟩ := List.forall_mem_cons.mp h
    obtain ⟨s, hs⟩ := ih hls
    exact ⟨_, .cons hline (List.mem_cons_self : ['\n'] ∈ lineEnds) hs⟩

/-- There is a file for all pairs that can be stored. -/
theorem exists_stores (hstorable : ∀ profile ∈ profiles, Storable profile) :
    ∃ ls text, Stores profiles ls ∧ Lined ls (String.toList text) := by
  have hblocks : List.Forall₂ IsBlock profiles (profiles.map plainBlock) := by
    rw [List.forall₂_map_right_iff, List.forall₂_same]
    exact fun profile _ => isBlock_plainBlock profile
  have hfeed : ∀ line ∈ (profiles.map plainBlock).flatten, '\n' ∉ line := by
    intro line hline
    rw [← List.flatMap_def, List.mem_flatMap] at hline
    obtain ⟨profile, hprofile, hline⟩ := hline
    obtain ⟨-, hname, haccess, hsecret⟩ := hstorable profile hprofile
    have hnames : '\n' ∉ accessName.toList ∧ '\n' ∉ secretName.toList := by decide
    simp only [plainBlock, List.mem_cons, List.not_mem_nil, or_false] at hline
    rcases hline with rfl | rfl | rfl <;>
      simp [sectionLine, plainSetting, hname, haccess, hsecret, hnames]
  obtain ⟨text, htext⟩ := exists_lined hfeed
  have hnothing : ∀ line ∈ ([] : List (List Char)), isComment line = true := nofun
  exact ⟨_, text, .intro hnothing hblocks, htext⟩

/-- **Every list of key pairs under different names can be stored, and every pair is read back** from
each file that stores them, however its lines are taken from the text. -/
theorem ofText_of_stores (hstorable : ∀ profile ∈ profiles, Storable profile)
    (hdistinct : (profiles.map Prod.fst).Nodup) :
    (∃ ls text, Stores profiles ls ∧ Lined ls (String.toList text)) ∧
    ∀ ls text, Stores profiles ls → Lined ls (String.toList text) →
      ∀ profile ∈ profiles, ofText text profile.1 = .ok profile.2 := by
  refine ⟨exists_stores hstorable, ?_⟩
  intro ls text hstores hlined profile hprofile
  obtain @⟨front, blocks, hfront, hblocks⟩ := hstores
  rw [ofText_eq_ok_iff hlined, entries, entriesFrom_append, entriesFrom_of_comments hfront,
    List.nil_append]
  exact isPair_of_blocks hblocks hstorable hdistinct hprofile _

/-- Two key pairs with marks of all kinds in them. -/
def marked : List (String × Credentials) :=
  [("default", ⟨"#a = [b]", " \"x\" "⟩), ("x]", ⟨"'", ";="⟩)]

/-- A file that stores them. -/
def markedText : String :=
  "\n[default]\r\nAWS_ACCESS_KEY_ID='#a = [b]'\r\n; ]\naws_secret_access_key=\" \"x\" \"\n" ++
    "[x]]\naws_secret_access_key=';='\r\n\t\nAws_Access_Key_Id='''"

/-- Both pairs are read back. -/
theorem ofText_of_stores_marked :
    (∀ profile ∈ marked, Storable profile) ∧ (marked.map Prod.fst).Nodup ∧
      Stores marked (lines markedText.toList) ∧
      ofText markedText "default" = .ok ⟨"#a = [b]", " \"x\" "⟩ ∧
      ofText markedText "x]" = .ok ⟨"'", ";="⟩ := by
  have hstorable : ∀ profile ∈ marked, Storable profile := by
    simp only [marked, List.forall_mem_cons]
    exact ⟨⟨by decide, by decide, by decide, by decide⟩,
      ⟨by decide, by decide, by decide, by decide⟩, nofun⟩
  have hdistinct : (marked.map Prod.fst).Nodup := by decide
  have hlines : lines markedText.toList = [[]] ++ [
      sectionLine "default".toList ::
        ([] ++ ("AWS_ACCESS_KEY_ID".toList ++ '=' :: '\'' :: ("#a = [b]".toList ++ ['\''])) ::
          (["; ]".toList] ++ plainSetting secretName " \"x\" " :: [])),
      sectionLine "x]".toList ::
        ([] ++ (secretName.toList ++ '=' :: '\'' :: (";=".toList ++ ['\''])) ::
          (["\t".toList] ++
            ("Aws_Access_Key_Id".toList ++ '=' :: '\'' :: ("'".toList ++ ['\''])) :: []))].flatten := by
    decide +kernel
  have hmark : '\'' ∈ quoteMarks := by decide
  have hcomments {ls : List (List Char)} (h : ls.all isComment = true) :
      ∀ line ∈ ls, isComment line = true := List.all_eq_true.mp h
  have hstores : Stores marked (lines markedText.toList) := by
    rw [hlines]
    refine .intro (hcomments (by decide)) (.cons ?_ (.cons ?_ .nil))
    · exact .intro (hcomments (by decide))
        (.inl ⟨.intro (by decide) hmark, isSetting_plainSetting secretName _⟩)
    · exact .intro (hcomments (by decide))
        (.inr ⟨.intro (by decide) hmark, .intro (by decide) hmark⟩)
  obtain ⟨-, hread⟩ := ofText_of_stores hstorable hdistinct
  have hpairs := hread _ markedText hstores (lined_lines markedText.toList)
  simp only [marked, List.forall_mem_cons] at hpairs
  exact ⟨hstorable, hdistinct, hstores, hpairs.1, hpairs.2.1⟩

end Credentials

end StripeTransfer
