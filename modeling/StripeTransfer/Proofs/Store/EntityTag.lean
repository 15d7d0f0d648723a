/-
StripeTransfer/Proofs/Store/EntityTag.lean

How the tag of an object is read.  A store gives it in quotes: in a header, or in an
element of the markup of its reply, where the quotes may be written as entities and
blanks may stand around them.

One pair of quotes is taken off, whatever stands between them
(`EntityTag.unquoteChars_quoted`).  So a tag of visible characters comes out of both
as it is (`EntityTag.InHeader.exists_ofReply?`, `EntityTag.InElement.exists_element?`),
also if it has quotes of its own at its ends.
-/
import StripeTransfer.Proofs.Store.Markup
import StripeTransfer.Proofs.Text.Ascii
import StripeTransfer.Proofs.Text.Blank
import StripeTransfer.Proofs.Text.Lead
import StripeTransfer.Store.EntityTag
import Mathlib

namespace StripeTransfer

open Text

namespace EntityTag

variable {x xml : String} {reply : Reply} {quote s : List Char}

/-! ### Quotes -/

/-- A text in quotes has no blanks at its ends. -/
theorem trim_quoted (hquote : quote ∈ quotes) (s : List Char) :
    trim (quote ++ s ++ quote) = quote ++ s ++ quote := by
  have hends : ∀ q ∈ quotes, q ≠ [] ∧ q.head?.all (!isBlank ·) = true ∧
      q.getLast?.all (!isBlank ·) = true := by decide
  simp only [Option.all_eq_true, Bool.not_eq_true'] at hends
  obtain ⟨hne, hfirst, hlast⟩ := hends quote hquote
  apply trim_eq_self
  · rwa [List.append_assoc, List.head?_append_of_ne_nil quote hne]
  · rwa [List.getLast?_append_of_ne_nil (quote ++ s) hne]

theorem between?_quoted (quote s : List Char) : between? quote (quote ++ s ++ quote) = some s := by
  rw [between?, List.append_assoc, dropLead_append]
  exact dropTail_append s quote

/-- **One pair of quotes is taken off**, whatever stands between them. -/
theorem unquoteChars_quoted (hquote : quote ∈ quotes) (s : List Char) :
    unquoteChars (quote ++ s ++ quote) = s := by
  have hfind : quotes.findSome? (fun q => between? q (quote ++ s ++ quote)) = some s := by
    have hbetween := between?_quoted quote s
    simp only [quotes, List.mem_cons, List.not_mem_nil, or_false] at hquote
    -- no quote starts with another one, so only the one that is there is found
    rcases hquote with rfl | rfl | rfl
    · rw [quotes, List.findSome?_cons, hbetween]
    · rw [quotes, List.findSome?_cons_of_isNone, List.findSome?_cons, hbetween]
      rfl
    · rw [quotes, List.findSome?_cons_of_isNone, List.findSome?_cons_of_isNone,
        List.findSome?_cons, hbetween]
      · rfl
      · rfl
  rw [unquoteChars, trim_quoted hquote, hfind, Option.getD_some]

theorem unquote_quoted (hquote : quote ∈ quotes) (x : String) :
    unquote (String.ofList (quote ++ x.toList ++ quote)) = x := by
  have htext : (String.ofList (quote ++ x.toList ++ quote)).toList = quote ++ x.toList ++ quote :=
    String.toList_ofList
  rw [unquote, htext, unquoteChars_quoted hquote, String.ofList_toList]

/-! ### Tags in headers -/

/-- A tag of visible ASCII characters without an opening bracket. -/
def IsPlain (x : String) : Prop := ∀ c ∈ x.toList, '!' ≤ c ∧ c ≤ '~' ∧ c ≠ '<'

instance : Decidable (IsPlain x) := List.decidableBAll _ _

/-- A reply carries a tag in its header, in quotes. -/
def InHeader (x : String) (reply : Reply) : Prop :=
  reply.header? "etag" = some (octets ("\"" ++ x ++ "\""))

instance : Decidable (InHeader x reply) := inferInstanceAs (Decidable (_ = _))

/-- Visible characters and spaces are read from a header as they are. -/
theorem headerText?_octets (h : ∀ c ∈ s, ' ' ≤ c ∧ c ≤ '~') :
    headerText? (octets (String.ofList s)) = some s := by
  have hrange (c : Char) (hc : c ∈ s) : 0x20 ≤ c.toNat ∧ c.toNat ≤ 0x7E := h c hc
  have hascii (c : Char) (hc : c ∈ s) : c.toNat < 128 := (hrange c hc).2.trans_lt (by decide)
  have hall : (s.map Char.toUInt8).all isHeaderText = true := by
    simp only [List.all_eq_true, List.mem_map]
    rintro _ ⟨c, hc, rfl⟩
    simp only [isHeaderText, Bool.or_eq_true, Bool.and_eq_true, decide_eq_true_eq,
      UInt8.le_iff_toNat_le, toNat_toUInt8 (hascii c hc)]
    exact .inr (hrange c hc)
  have hback : (s.map Char.toUInt8).map (fun b => Char.ofNat b.toNat) = s := by
    rw [List.map_map]
    refine (List.map_congr_left fun c hc => ?_).trans s.map_id
    rw [Function.comp_apply, toNat_toUInt8 (hascii c hc), Char.ofNat_toNat, id]
  rw [headerText?, octets_ofList hascii, if_pos hall, hback]

/-- **A tag in a header is read with its quotes**, and has them taken off. -/
theorem InHeader.exists_ofReply? (h : InHeader x reply) (hx : IsPlain x) :
    ∃ quoted, ofReply? reply = some quoted ∧ unquote quoted = x := by
  have hquote : ['"'] ∈ quotes := by decide
  have hvisible : ∀ c ∈ ['"'] ++ x.toList ++ ['"'], ' ' ≤ c ∧ c ≤ '~' := by
    have hmark : ' ' ≤ '"' ∧ '"' ≤ '~' := by decide
    simp only [List.mem_append, List.mem_singleton]
    rintro c ((rfl | hc) | rfl)
    · exact hmark
    · obtain ⟨hlo, hhi, -⟩ := hx c hc
      exact ⟨(by decide : ' ' ≤ '!').trans hlo, hhi⟩
    · exact hmark
  have htext : "\"" ++ x ++ "\"" = String.ofList (['"'] ++ x.toList ++ ['"']) :=
    String.toList_injective (by simp)
  refine ⟨_, ?_, unquote_quoted hquote x⟩
  rw [ofReply?, h, Option.bind_some, htext, headerText?_octets hvisible, Option.map_some,
    trim_quoted hquote]
  rfl

/-! ### Tags in markup -/

/-- A markup has a tag in an element, in quotes and with blanks around it.  The element may be written
in any case, with any prefix and any attributes (`Markup.Opening`, `Markup.Closing`); what opens such
an element does not stand before it, and anything may stand behind it. -/
inductive InElement (x : String) : List Char → Prop
  | intro {before opening gap quote gap' closing after : List Char} :
      (∀ tag, Markup.Opening "ETag".toList tag → ¬ tag <:+: before) →
      Markup.Opening "ETag".toList opening → AllBlank gap → quote ∈ quotes → AllBlank gap' →
      Markup.Closing "ETag".toList closing →
      InElement x (before ++ (opening ++
        (gap ++ (quote ++ x.toList ++ quote) ++ gap' ++ (closing ++ after))))

/-- **The first element is that of the tag**; it is read without the blanks, and has the quotes
taken off. -/
theorem InElement.exists_element? (h : InElement x xml.toList) (hx : IsPlain x) :
    ∃ quoted, Markup.element? xml "ETag" = some quoted ∧ unquote quoted = x := by
  have hname : ∀ c ∈ "ETag".toList, isLetter c = true := List.all_eq_true.mp (by decide)
  generalize hxml : xml.toList = text at h
  obtain @⟨before, opening, gap, quote, gap', closing, after, hbefore, hopening, hgap, hquote,
    hgap', hclosing⟩ := h
  have hfree : '<' ∉ gap ++ (quote ++ x.toList ++ quote) ++ gap' := by
    have hblank {s : List Char} (hs : AllBlank s) : '<' ∉ s := fun hmem => by
      cases hs '<' hmem
    have hmark : ∀ q ∈ quotes, '<' ∉ q := by decide
    have htag : '<' ∉ x.toList := fun hmem => (hx '<' hmem).2.2 rfl
    simp [hblank hgap, hblank hgap', hmark quote hquote, htag]
  obtain ⟨front, tag, hfirst⟩ := Markup.exists_leftmost_opening hname hbefore hopening
    (gap ++ (quote ++ x.toList ++ quote) ++ gap' ++ (closing ++ after))
  have hfind := (Markup.findElement_eq_some_iff hname).mpr
    ⟨front, tag, _, closing, after, hfirst, Markup.leftmost_closing hfree hclosing after⟩
  refine ⟨_, Markup.element?_eq_some.mpr ⟨_, hxml ▸ hfind, ?_, ?_⟩, unquote_quoted hquote x⟩
  · rw [trim_append hgap hgap', trim_quoted hquote]
    exact String.toList_ofList
  · intro hempty
    have hnil := String.ofList_eq_empty_iff.mp hempty
    obtain ⟨-, rfl⟩ := List.append_eq_nil_iff.mp hnil
    exact absurd hquote (by decide)

end EntityTag

end StripeTransfer
