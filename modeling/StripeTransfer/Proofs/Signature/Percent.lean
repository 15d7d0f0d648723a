/-
StripeTransfer/Proofs/Signature/Percent.lean

What percent-encoded text looks like.  It is made of unreserved characters and
percent signs only (`Percent.isWritten_of_mem_encodeChars`), and none of these is
encoded once more where the text stands in an address
(`Percent.kept_of_isWritten`).  Decoding gives the octets back, so different texts
are written differently (`Percent.encodeChars_injective`).

Dots are unreserved.  Hence a text is read as a dot segment just if it is one
before it is encoded (`Percent.isDots_encodeChars`).
-/
import StripeTransfer.Proofs.Bytes
import StripeTransfer.Proofs.Web.Path
import StripeTransfer.Signature.Percent
import Mathlib

namespace StripeTransfer

open Text

/-- Texts with the same octets are equal. -/
theorem Text.octets_injective : Function.Injective octets := by
  intro s t h
  exact String.toByteArray_inj.mp (eq_of_toList_eq h)

namespace Percent

/-! ### Characters -/

/-- Whether a character can stand in an encoded text. -/
def isWritten (c : Char) : Bool := c == '%' || (c.toNat < 128 && isUnreserved c.toNat.toUInt8)

theorem toNat_lt_of_isUnreserved {b : UInt8} (h : isUnreserved b = true) : b.toNat < 128 := by
  simp only [isUnreserved, Bool.or_eq_true, Bool.and_eq_true, decide_eq_true_eq, beq_iff_eq,
    UInt8.le_iff_toNat_le, ← UInt8.toNat_inj, UInt8.reduceToNat] at h
  omega

theorem toNat_lt_of_isWritten {c : Char} (h : isWritten c = true) : c.toNat < 128 := by
  simp only [isWritten, Bool.or_eq_true, Bool.and_eq_true, decide_eq_true_eq, beq_iff_eq] at h
  rcases h with rfl | ⟨hlt, -⟩
  · decide
  · exact hlt

theorem isWritten_of_isUnreserved {b : UInt8} (h : isUnreserved b = true) :
    isWritten (Char.ofNat b.toNat) = true := by
  have hall : ∀ n < 128, isUnreserved n.toUInt8 = true → isWritten (Char.ofNat n) = true := by
    decide +kernel
  refine hall _ (toNat_lt_of_isUnreserved h) ?_
  have hb : b.toNat.toUInt8 = b := UInt8.ofNat_toNat
  rwa [hb]

theorem isWritten_hexDigitUpper {n : Nat} (h : n < 16) : isWritten (hexDigitUpper n) = true := by
  revert n
  decide +kernel

theorem hexDigit?_hexDigitUpper {n : Nat} (h : n < 16) : hexDigit? (hexDigitUpper n) = some n := by
  revert n
  decide +kernel

/-- The digits of an octet have values below 16. -/
theorem digits_lt (b : UInt8) : b.toNat / 16 < 16 ∧ b.toNat % 16 < 16 := by
  have hlt := b.toNat_lt
  omega

/-- An octet is written as itself, or as a percent sign and its two digits. -/
theorem encodeOctet_cases (b : UInt8) :
    (isUnreserved b = true ∧ encodeOctet b = [Char.ofNat b.toNat]) ∨
      (isUnreserved b = false ∧
        encodeOctet b = ['%', hexDigitUpper (b.toNat / 16), hexDigitUpper (b.toNat % 16)]) := by
  unfold encodeOctet
  split_ifs with h
  · exact .inl ⟨h, rfl⟩
  · exact .inr ⟨Bool.eq_false_of_not_eq_true h, rfl⟩

theorem isWritten_of_mem_encodeChars {s : String} {c : Char} (h : c ∈ encodeChars s) :
    isWritten c = true := by
  obtain ⟨b, -, hc⟩ := List.mem_flatMap.mp h
  obtain ⟨hhi, hlo⟩ := digits_lt b
  rcases encodeOctet_cases b with ⟨hb, hwritten⟩ | ⟨-, hwritten⟩
  · rw [hwritten, List.mem_singleton] at hc
    rw [hc]
    exact isWritten_of_isUnreserved hb
  · rw [hwritten] at hc
    simp only [List.mem_cons, List.not_mem_nil, or_false] at hc
    rcases hc with rfl | rfl | rfl
    · rfl
    · exact isWritten_hexDigitUpper hhi
    · exact isWritten_hexDigitUpper hlo

/-- Marks are not written. -/
theorem not_mem_encodeChars {c : Char} (h : isWritten c = false) (s : String) :
    c ∉ encodeChars s := by
  intro hc
  rw [isWritten_of_mem_encodeChars hc] at h
  cases h

/-- **No character of an encoded text is touched when an address is read**, neither in its path nor
in its query. -/
theorem kept_of_isWritten {c : Char} (h : isWritten c = true) :
    Path.IsKept c ∧ encodedInQuery c = false := by
  have hall : ∀ n < 128, isWritten (Char.ofNat n) = true →
      (encodedInPath (Char.ofNat n) = false ∧ Char.ofNat n ≠ '/' ∧ Char.ofNat n ≠ '\\') ∧
        encodedInQuery (Char.ofNat n) = false := by
    decide +kernel
  have hkept := hall c.toNat (toNat_lt_of_isWritten h)
  rw [Char.ofNat_toNat] at hkept
  obtain ⟨⟨hpath, hslash, hback⟩, hquery⟩ := hkept h
  exact ⟨⟨hpath, hslash, hback⟩, hquery⟩

theorem kept_encodeChars (s : String) : Path.Kept (encodeChars s) := fun _ hc =>
  (kept_of_isWritten (isWritten_of_mem_encodeChars hc)).1

/-! ### Decoding -/

/-- An unreserved octet is written as a character with its own number. -/
theorem toNat_ofNat_of_isUnreserved {b : UInt8} (h : isUnreserved b = true) :
    (Char.ofNat b.toNat).toNat = b.toNat := by
  have hlt := toNat_lt_of_isUnreserved h
  rw [Char.toNat_ofNat, if_pos (Or.inl (by omega))]

/-- Percent signs are not unreserved. -/
theorem ne_percent_of_isUnreserved {b : UInt8} (h : isUnreserved b = true) :
    Char.ofNat b.toNat ≠ '%' := by
  intro hc
  have hcode := toNat_ofNat_of_isUnreserved h
  rw [hc] at hcode
  have hb : b = 37 := UInt8.toNat_inj.mp hcode.symm
  rw [hb] at h
  exact absurd h (by decide)

/-- A character that is no percent sign is decoded to its own octet. -/
theorem decode_cons_of_ne {c : Char} (h : c ≠ '%') (rest : List Char) :
    decode (c :: rest) = (decode rest).map (c.toNat.toUInt8 :: ·) := by
  rw [decode.eq_3 _ _ fun _ _ _ hc => absurd hc h, if_neg h]

theorem decode_encodeOctet_append (b : UInt8) (rest : List Char) :
    decode (encodeOctet b ++ rest) = (decode rest).map (b :: ·) := by
  obtain ⟨hhi, hlo⟩ := digits_lt b
  rcases encodeOctet_cases b with ⟨hb, hwritten⟩ | ⟨-, hwritten⟩
  · have hvalue : (Char.ofNat b.toNat).toNat.toUInt8 = b := by
      rw [toNat_ofNat_of_isUnreserved hb]
      exact UInt8.ofNat_toNat
    rw [hwritten, List.singleton_append, decode_cons_of_ne (ne_percent_of_isUnreserved hb), hvalue]
  · have hvalue : (16 * (b.toNat / 16) + b.toNat % 16).toUInt8 = b := by
      rw [Nat.div_add_mod]
      exact UInt8.ofNat_toNat
    rw [hwritten]
    simp only [List.cons_append, List.nil_append, decode, hexDigit?_hexDigitUpper hhi,
      hexDigit?_hexDigitUpper hlo]
    cases decode rest with
    | none => rfl
    | some bs => simp only [hvalue, Option.map_some]

/-- **Decoding an encoded text gives its octets back.** -/
theorem decode_encodeChars (s : String) : decode (encodeChars s) = some (octets s) := by
  have hall : ∀ bs : List UInt8, decode (bs.flatMap encodeOctet) = some bs := by
    intro bs
    induction bs with
    | nil => rfl
    | cons b rest ih => rw [List.flatMap_cons, decode_encodeOctet_append, ih, Option.map_some]
  exact hall (octets s)

/-- Different texts are encoded differently. -/
theorem encodeChars_injective : Function.Injective encodeChars := by
  intro s t h
  have hoctets := congrArg decode h
  rw [decode_encodeChars, decode_encodeChars] at hoctets
  exact octets_injective (Option.some.inj hoctets)

/-- The text that an encoded text stands for. -/
def text? (s : List Char) : Option String := (decode s).bind fun bs => decode? ⟨bs.toArray⟩

/-- **An encoded text is read back.** -/
theorem text?_encodeChars (s : String) : text? (encodeChars s) = some s := by
  have hbytes : (⟨(octets s).toArray⟩ : ByteArray) = s.toUTF8 := by
    rw [octets, toList_eq_data]
  rw [text?, decode_encodeChars, Option.bind_some, hbytes, decode?, String.fromUTF8?]
  exact dif_pos s.isValidUTF8

/-! ### Dots -/

/-- The two digits that an encoded dot has in an address are not written: dots are unreserved. -/
theorem not_dot_of_not_isUnreserved {b : UInt8} (h : isUnreserved b = false) :
    ¬(hexDigitUpper (b.toNat / 16) = '2' ∧
      (hexDigitUpper (b.toNat % 16) = 'e' ∨ hexDigitUpper (b.toNat % 16) = 'E')) := by
  rintro ⟨htwo, hfourteen⟩
  obtain ⟨hhi, hlo⟩ := digits_lt b
  have hfirst : some (b.toNat / 16) = some 2 := by
    rw [← hexDigit?_hexDigitUpper hhi, htwo]
    rfl
  have hsecond : some (b.toNat % 16) = some 14 := by
    rw [← hexDigit?_hexDigitUpper hlo]
    rcases hfourteen with he | he <;> rw [he] <;> rfl
  simp only [Option.some.injEq] at hfirst hsecond
  -- these are the digits of the octet of a dot
  have hb : b = 46 := UInt8.toNat_inj.mp (show b.toNat = 46 by omega)
  rw [hb] at h
  exact absurd h (by decide)

theorem plainDots_encodeOctet_append (b : UInt8) (rest : List Char) :
    Path.plainDots (encodeOctet b ++ rest) = encodeOctet b ++ Path.plainDots rest := by
  obtain ⟨hhi, hlo⟩ := digits_lt b
  rcases encodeOctet_cases b with ⟨hb, hwritten⟩ | ⟨hb, hwritten⟩
  · -- an unreserved octet is one character and no percent sign
    rw [hwritten, List.singleton_append, List.singleton_append,
      Path.plainDots_cons_of_ne (ne_percent_of_isUnreserved hb)]
  · have hdigit {n : Nat} (hn : n < 16) : hexDigitUpper n ≠ '%' := by
      intro hc
      have hvalue := hexDigit?_hexDigitUpper hn
      rw [hc] at hvalue
      cases hvalue
    rw [hwritten, List.cons_append, List.cons_append, List.cons_append, List.nil_append,
      Path.plainDots_percent (not_dot_of_not_isUnreserved hb),
      Path.plainDots_cons_of_ne (hdigit hhi), Path.plainDots_cons_of_ne (hdigit hlo)]
    rfl

/-- No dot of an encoded text is encoded. -/
theorem plainDots_encodeChars (s : String) : Path.plainDots (encodeChars s) = encodeChars s := by
  have hall : ∀ bs : List UInt8,
      Path.plainDots (bs.flatMap encodeOctet) = bs.flatMap encodeOctet := by
    intro bs
    induction bs with
    | nil => rfl
    | cons b rest ih => rw [List.flatMap_cons, plainDots_encodeOctet_append, ih]
  exact hall (octets s)

/-- **An encoded text is a dot segment just if the text is one.** -/
theorem isDots_encodeChars {s : String} :
    Path.isDots (encodeChars s) = true ↔ s = "." ∨ s = ".." := by
  have hone : ['.'] = encodeChars "." := by decide +kernel
  have htwo : ['.', '.'] = encodeChars ".." := by decide +kernel
  have hhere : encodeChars s = ['.'] ↔ s = "." := by rw [hone, encodeChars_injective.eq_iff]
  have habove : encodeChars s = ['.', '.'] ↔ s = ".." := by
    rw [htwo, encodeChars_injective.eq_iff]
  rw [Path.isDots, Path.isHere, Path.isAbove, plainDots_encodeChars, Bool.or_eq_true, beq_iff_eq,
    beq_iff_eq, hhere, habove]

end Percent

end StripeTransfer
