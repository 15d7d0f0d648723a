/-
StripeTransfer/Proofs/Web/Path.lean

Which paths are read as they are.  A path is a list of segments, each with a slash
before it, and reading a path encodes some of its characters and resolves its dot
segments.  A path whose segments hold no such characters is read as it is just if
no segment is a dot segment (`Path.ofChars_eq_self_iff`): resolving changes no
other list of segments, and never leaves a dot segment behind
(`Path.resolve_eq_self_iff`).

What has been read once is of this form (`Path.exists_of_ofChars`).
-/
import StripeTransfer.Proofs.Text.Pieces
import StripeTransfer.Web.Url
import Mathlib

namespace StripeTransfer

open Text

namespace Path

/-- A character that is left alone in a segment. -/
structure IsKept (c : Char) : Prop where
  not_encoded : encodedInPath c = false
  ne_slash : c ≠ '/'
  ne_backslash : c ≠ '\\'

/-- A segment whose characters are all left alone. -/
def Kept (s : List Char) : Prop := ∀ c ∈ s, IsKept c

/-- Whether a segment is a dot segment. -/
def isDots (s : List Char) : Bool := isHere s || isAbove s

theorem plainDots_cons_of_ne {c : Char} (h : c ≠ '%') (rest : List Char) :
    plainDots (c :: rest) = c :: plainDots rest := by
  rw [plainDots.eq_3]
  · exact fun _ hc => absurd hc h
  · exact fun _ hc => absurd hc h

theorem plainDots_percent {hi lo : Char} (h : ¬(hi = '2' ∧ (lo = 'e' ∨ lo = 'E')))
    (rest : List Char) : plainDots ('%' :: hi :: lo :: rest) = '%' :: plainDots (hi :: lo :: rest) := by
  rw [plainDots.eq_3]
  · rintro _ - hdot
    cases hdot
    exact h ⟨rfl, .inl rfl⟩
  · rintro _ - hdot
    cases hdot
    exact h ⟨rfl, .inr rfl⟩

/-! ### Segments -/

variable {segments kept : List (List Char)} {s p : List Char}

@[simp] theorem ofSegments_nil : ofSegments [] = [] := rfl

@[simp] theorem ofSegments_cons (s : List Char) (segments : List (List Char)) :
    ofSegments (s :: segments) = '/' :: s ++ ofSegments segments := rfl

@[simp] theorem ofSegments_append (segments more : List (List Char)) :
    ofSegments (segments ++ more) = ofSegments segments ++ ofSegments more :=
  List.flatMap_append

theorem ofSegments_eq_intercalate (h : segments ≠ []) :
    ofSegments segments = '/' :: ['/'].intercalate segments := by
  induction segments with
  | nil => exact absurd rfl h
  | cons first rest ih =>
    rcases rest with - | ⟨second, rest⟩
    · rw [ofSegments_cons, ofSegments_nil, List.append_nil, List.intercalate_singleton]
    · rw [ofSegments_cons, ih (List.cons_ne_nil _ _), List.intercalate_cons_cons, List.append_assoc]
      rfl

/-- **The segments of a path can be read off it.** -/
theorem pieces_of_ofSegments (hslash : ∀ s ∈ segments, '/' ∉ s) (hp : ofSegments segments = '/' :: p) :
    pieces '/' p = segments := by
  have hne : segments ≠ [] := by
    rintro rfl
    cases hp
  rw [ofSegments_eq_intercalate hne, List.cons.injEq] at hp
  rw [← hp.2, pieces_eq_splitOn]
  exact List.splitOn_intercalate '/' hslash hne

theorem Kept.slash_not_mem (h : Kept s) : '/' ∉ s := fun hmem => (h _ hmem).ne_slash rfl

theorem kept_nil : Kept [] := fun _ hc => absurd hc List.not_mem_nil

/-! ### Resolving -/

theorem resolveOnto_of_not_isDots (kept : List (List Char))
    (h : ∀ s ∈ segments, isDots s = false) :
    resolveOnto kept segments = kept.reverse ++ segments := by
  induction segments generalizing kept with
  | nil => rw [resolveOnto, List.append_nil]
  | cons s rest ih =>
    obtain ⟨hhere, habove⟩ := Bool.or_eq_false_iff.mp (h s List.mem_cons_self)
    have hrest := ih (s :: kept) fun t ht => h t (List.mem_cons_of_mem s ht)
    simp only [resolveOnto, hhere, habove, Bool.or_self, Bool.and_false, Bool.false_eq_true,
      if_false, List.nil_append]
    rw [hrest, List.reverse_cons, List.append_assoc, List.singleton_append]

/-- What is left was there before, is a segment that is no dot segment, or is the empty segment that
a dot segment leaves at the end. -/
theorem mem_resolveOnto (h : s ∈ resolveOnto kept segments) :
    s ∈ kept ∨ s = [] ∨ s ∈ segments ∧ isDots s = false := by
  induction segments generalizing kept with
  | nil => exact .inl (List.mem_reverse.mp h)
  | cons t rest ih =>
    rw [resolveOnto] at h
    rcases ih h with hmem | hempty | ⟨hmem, hdots⟩
    · -- it was kept when `t` was read: it closes the path, or was there before, or is `t` itself
      rcases List.mem_append.mp hmem with hclosing | hkept
      · split_ifs at hclosing
        · exact .inr (.inl (List.mem_singleton.mp hclosing))
        · exact absurd hclosing List.not_mem_nil
      · split_ifs at hkept with habove hhere
        · exact .inl (List.mem_of_mem_tail hkept)
        · exact .inl hkept
        · rcases List.mem_cons.mp hkept with rfl | hkept
          · exact .inr (.inr ⟨List.mem_cons_self, by simp [isDots, habove, hhere]⟩)
          · exact .inl hkept
    · exact .inr (.inl hempty)
    · exact .inr (.inr ⟨List.mem_cons_of_mem t hmem, hdots⟩)

theorem mem_resolve (h : s ∈ resolve segments) : s = [] ∨ s ∈ segments ∧ isDots s = false :=
  (mem_resolveOnto h).resolve_left List.not_mem_nil

theorem isDots_of_mem_resolve (h : s ∈ resolve segments) : isDots s = false := by
  rcases mem_resolve h with rfl | ⟨-, hdots⟩
  · rfl
  · exact hdots

/-- **Resolving leaves a list of segments as it is just if there is no dot segment in it.** -/
theorem resolve_eq_self_iff : resolve segments = segments ↔ ∀ s ∈ segments, isDots s = false := by
  constructor
  · intro h s hs
    exact isDots_of_mem_resolve (h ▸ hs)
  · intro h
    exact resolveOnto_of_not_isDots [] h

/-! ### Reading -/

/-- The segments of a path that has been read: their characters are left alone when they are read
once more, and there is no dot segment among them. -/
structure Read (segments : List (List Char)) : Prop where
  kept : ∀ s ∈ segments, Kept s
  not_isDots : ∀ s ∈ segments, isDots s = false

theorem encodedWhere_of_forall {e : Char → Bool} (h : ∀ c ∈ s, e c = false) :
    encodedWhere e s = s := by
  induction s with
  | nil => rfl
  | cons c rest ih =>
    have hc : e c = false := h c List.mem_cons_self
    have hrest := ih fun d hd => h d (List.mem_cons_of_mem c hd)
    rw [encodedWhere] at hrest ⊢
    rw [List.flatMap_cons, hrest, hc]
    rfl

/-- What is encoded is written with percent signs and digits. -/
theorem mem_encodedWhere {e : Char → Bool} {c : Char} (h : c ∈ encodedWhere e s) :
    (c ∈ s ∧ e c = false) ∨ c = '%' ∨ ∃ n < 16, c = hexDigitUpper n := by
  obtain ⟨d, hd, hc⟩ := List.mem_flatMap.mp h
  split_ifs at hc with he
  · obtain ⟨b, -, hc⟩ := List.mem_flatMap.mp hc
    have hlt := b.toNat_lt
    simp only [encodedWhere.encodeOctet, List.mem_cons, List.not_mem_nil, or_false] at hc
    rcases hc with rfl | rfl | rfl
    · exact .inr (.inl rfl)
    · exact .inr (.inr ⟨_, by omega, rfl⟩)
    · exact .inr (.inr ⟨_, by omega, rfl⟩)
  · obtain rfl := List.mem_singleton.mp hc
    exact .inl ⟨hd, Bool.eq_false_of_not_eq_true he⟩

theorem kept_encodedWhere (hslash : ∀ c ∈ s, c ≠ '/' ∧ c ≠ '\\') :
    Kept (encodedWhere encodedInPath s) := by
  have hdigit : ∀ n < 16, encodedInPath (hexDigitUpper n) = false ∧ hexDigitUpper n ≠ '/' ∧
      hexDigitUpper n ≠ '\\' := by
    decide +kernel
  intro c hc
  rcases mem_encodedWhere hc with ⟨hmem, hkept⟩ | rfl | ⟨n, hn, rfl⟩
  · exact ⟨hkept, (hslash c hmem).1, (hslash c hmem).2⟩
  · exact ⟨by decide, by decide, by decide⟩
  · obtain ⟨hpath, hne, hback⟩ := hdigit n hn
    exact ⟨hpath, hne, hback⟩

/-- A path of kept segments is read by resolving its dot segments only. -/
theorem ofChars_eq (hkept : ∀ s ∈ segments, Kept s) (hp : ofSegments segments = '/' :: p) :
    ofChars p = ofSegments (resolve segments) := by
  have hne : segments ≠ [] := by
    rintro rfl
    cases hp
  -- no backslash is there to become a slash, and no character to be encoded
  have hback : ∀ c ∈ p, c ≠ '\\' := by
    rw [ofSegments_eq_intercalate hne, List.cons.injEq] at hp
    intro c hc
    rw [← hp.2] at hc
    rcases mem_of_mem_intercalate hc with rfl | ⟨s, hs, hc⟩
    · decide
    · exact (hkept s hs c hc).ne_backslash
  have hslashes : (p.map fun c => if c == '\\' then '/' else c) = p := by
    refine (List.map_congr_left fun c hc => ?_).trans (List.map_id p)
    rw [if_neg (by simpa using hback c hc), id_eq]
  have hencoded : segments.map (encodedWhere encodedInPath) = segments :=
    (List.map_congr_left fun s hs => encodedWhere_of_forall fun c hc =>
      (hkept s hs c hc).not_encoded).trans (List.map_id segments)
  rw [ofChars, Path.segments, hslashes,
    pieces_of_ofSegments (fun s hs => (hkept s hs).slash_not_mem) hp, hencoded]

/-- **A path of kept segments is read as it is just if there is no dot segment in it.** -/
theorem ofChars_eq_self_iff (hkept : ∀ s ∈ segments, Kept s) (hp : ofSegments segments = '/' :: p) :
    ofChars p = '/' :: p ↔ ∀ s ∈ segments, isDots s = false := by
  rw [ofChars_eq hkept hp, ← resolve_eq_self_iff]
  constructor
  · -- the segments can be read off either side
    intro h
    have hslash : ∀ s ∈ resolve segments, '/' ∉ s := by
      intro s hs
      rcases mem_resolve hs with rfl | ⟨hmem, -⟩
      · exact List.not_mem_nil
      · exact (hkept s hmem).slash_not_mem
    rw [← pieces_of_ofSegments hslash h,
      pieces_of_ofSegments (fun s hs => (hkept s hs).slash_not_mem) hp]
  · intro h
    rw [h, hp]

/-- What a text is read as is the path of segments that have been read. -/
theorem exists_of_ofChars (s : List Char) :
    ∃ segments, Path.ofChars s = ofSegments segments ∧ Read segments := by
  refine ⟨_, rfl, fun t ht => ?_, fun t ht => isDots_of_mem_resolve ht⟩
  rcases mem_resolve ht with rfl | ⟨ht, -⟩
  · exact kept_nil
  · obtain ⟨piece, hpiece, rfl⟩ := List.mem_map.mp ht
    refine kept_encodedWhere fun c hc => ?_
    obtain ⟨hmem, hne⟩ := mem_of_mem_pieces hpiece hc
    obtain ⟨d, -, hd⟩ := List.mem_map.mp hmem
    refine ⟨hne, ?_⟩
    -- a backslash has become a slash
    rintro rfl
    split_ifs at hd with hback
    · exact absurd hd (by decide)
    · exact hback (beq_iff_eq.mpr hd)

theorem Kept.mark_not_mem (h : Kept s) : '#' ∉ s ∧ '?' ∉ s := by
  refine ⟨fun hmem => ?_, fun hmem => ?_⟩
  · exact absurd (h _ hmem).not_encoded (by decide)
  · exact absurd (h _ hmem).not_encoded (by decide)

/-- Neither a query nor a fragment begins within a path of kept segments. -/
theorem mark_not_mem_ofSegments (h : ∀ s ∈ segments, Kept s) :
    '#' ∉ ofSegments segments ∧ '?' ∉ ofSegments segments := by
  induction segments with
  | nil => exact ⟨List.not_mem_nil, List.not_mem_nil⟩
  | cons s rest ih =>
    obtain ⟨hhash, hmark⟩ := (h s List.mem_cons_self).mark_not_mem
    obtain ⟨ihhash, ihmark⟩ := ih fun t ht => h t (List.mem_cons_of_mem s ht)
    simp [hhash, hmark, ihhash, ihmark]

end Path

/-! ### What follows the authority -/

namespace Url

variable {mark : Char} {s : List Char}

theorem cut_of_not_mem (h : mark ∉ s) : cut mark s = (s, none) := by
  rw [cut, splitFirst_of_not_mem h]

theorem cut_append (h : mark ∉ s) (after : List Char) :
    cut mark (s ++ mark :: after) = (s, some after) := by
  rw [cut, splitFirst_append h]

/-- **A path of kept segments and a query are read as they are**, the dot segments apart. -/
theorem Tail.ofChars_eq {segments : List (List Char)} {query : List Char}
    (hne : segments ≠ []) (hkept : ∀ s ∈ segments, Path.Kept s)
    (hquery : ∀ c ∈ query, encodedInQuery c = false ∧ c ≠ '#') :
    Tail.ofChars (Path.ofSegments segments ++ if query.isEmpty then [] else '?' :: query) =
      ⟨Path.ofSegments (Path.resolve segments), if query.isEmpty then none else some query, none⟩ := by
  obtain ⟨hhash, hmark⟩ := Path.mark_not_mem_ofSegments hkept
  obtain ⟨p, hp⟩ : ∃ p, Path.ofSegments segments = '/' :: p :=
    ⟨_, Path.ofSegments_eq_intercalate hne⟩
  -- the mark of the query is the first one, since there is none in the path
  have hpath : Path.ofChars (withoutSlash (Path.ofSegments segments)) =
      Path.ofSegments (Path.resolve segments) := by
    rw [hp]
    exact Path.ofChars_eq hkept hp
  rcases hempty : query.isEmpty with - | -
  · have hencoded : encodedWhere encodedInQuery query = query :=
      Path.encodedWhere_of_forall fun c hc => (hquery c hc).1
    have hfront : '#' ∉ Path.ofSegments segments ++ '?' :: query := by
      simp only [List.mem_append, List.mem_cons, not_or]
      exact ⟨hhash, by decide, fun hmem => (hquery _ hmem).2 rfl⟩
    simp only [Bool.false_eq_true, if_false]
    simp only [Tail.ofChars, cut_of_not_mem hfront, cut_append hmark, hpath, Option.map_some,
      Option.map_none, hencoded]
  · simp only [if_true, List.append_nil]
    simp only [Tail.ofChars, cut_of_not_mem hhash, cut_of_not_mem hmark, hpath, Option.map_none]

/-- What is checked only does not become an address of a web server. -/
theorem bind_other_ne {α : Type} (check : Except UrlError α) (u : Url) :
    (check >>= fun _ => pure Reading.other) ≠ .ok (.web u) := by
  intro h
  cases check with
  | error e => cases h
  | ok a => cases h

/-- The path of every address of a web server has been read. -/
theorem exists_of_parse {text : String} {u : Url} (h : parse text = .ok (.web u)) :
    ∃ s, u.path = Path.ofChars s := by
  rcases hscheme : scheme? (cleaned text.toList) with - | ⟨scheme, s⟩
  · simp only [parse, hscheme] at h
    cases h
  · simp only [parse, hscheme] at h
    rcases hkind : Kind.ofScheme scheme with secure | port | - | -
    · simp only [hkind] at h
      rcases hauthority : readAuthority (.web secure)
          ((s.dropWhile isSlash).takeWhile fun c => !endsAuthority (.web secure) c) with e | a
      · rw [hauthority] at h
        cases h
      · rw [hauthority] at h
        cases h
        exact ⟨_, rfl⟩
    · simp only [hkind] at h
      exact absurd h (bind_other_ne _ u)
    · simp only [hkind] at h
      exact absurd h (bind_other_ne _ u)
    · simp only [hkind] at h
      split at h
      · exact absurd h (bind_other_ne _ u)
      · cases h

end Url

end StripeTransfer
