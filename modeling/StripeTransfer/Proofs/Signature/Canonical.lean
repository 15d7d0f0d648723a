/-
StripeTransfer/Proofs/Signature/Canonical.lean

What a signature covers.  The canonical form of a request is a text of lines:
method, path and query, one line for each signed header, an empty line, the names
of the headers and the digest of the body (`Signature.canonicalLines`).  If no
part of a request has a line feed in it, the lines are read back from the text,
and the number of headers from the number of lines.  So two such requests with
the same canonical form agree in everything that is signed
(`Signature.sameSigned_of_canonicalForm_eq`).

What is signed has only a digest of the canonical form in it, in its last line.
Two requests that differ and have one string to sign are therefore a collision
of the digest.
-/
import StripeTransfer.Proofs.Signature.Fields
import StripeTransfer.Proofs.Signature.Query
import StripeTransfer.Proofs.Text.Blank
import StripeTransfer.Signature.Sign
import Mathlib

namespace StripeTransfer

open Text

/-! ### Texts without line feeds -/

namespace Text

/-- A character that is no digit is not among the digits of octets. -/
theorem not_mem_hexOctets {c : Char} (h : ∀ n < 16, c ≠ hexDigit n) (bs : List UInt8) :
    c ∉ hexOctets bs := by
  intro hmem
  obtain ⟨b, -, hc⟩ := List.mem_flatMap.mp hmem
  obtain ⟨hhi, hlo⟩ := Percent.digits_lt b
  simp only [List.mem_cons, List.not_mem_nil, or_false] at hc
  exact hc.elim (h _ hhi) (h _ hlo)

theorem hexDigit?_hexDigit {n : Nat} (h : n < 16) : hexDigit? (hexDigit n) = some n := by
  revert n
  decide +kernel

/-- Octets are read back from their digits. -/
theorem hexOctets_injective : Function.Injective hexOctets := by
  intro bs
  induction bs with
  | nil =>
    rintro (- | ⟨c, cs⟩) h
    · rfl
    · cases h
  | cons b bs ih =>
    rintro (- | ⟨c, cs⟩) h
    · cases h
    · have hdigit {m n : Nat} (hm : m < 16) (hn : n < 16) (heq : hexDigit m = hexDigit n) : m = n := by
        have hvalue := congrArg hexDigit? heq
        rw [hexDigit?_hexDigit hm, hexDigit?_hexDigit hn] at hvalue
        exact Option.some.inj hvalue
      obtain ⟨hhi, hrest⟩ := List.cons.inj h
      obtain ⟨hlo, hrest⟩ := List.cons.inj hrest
      obtain ⟨hb, hb'⟩ := Percent.digits_lt b
      obtain ⟨hc, hc'⟩ := Percent.digits_lt c
      have hdiv := hdigit hb hc hhi
      have hmod := hdigit hb' hc' hlo
      have hbc : b = c := UInt8.toNat_inj.mp (by omega)
      rw [hbc, ih hrest]

end Text

namespace Instant

theorem isDigit_of_mem_zeroFilled {c : Char} {width n : Nat} (h : c ∈ (zeroFilled width n).toList) :
    c.isDigit = true := by
  rw [zeroFilled, String.toList_ofList, List.mem_append] at h
  rcases h with h | h
  · rw [List.eq_of_mem_replicate h]
    rfl
  · exact Nat.isDigit_of_mem_toDigits (by decide) (by decide) h

/-- A date is written in digits, with a sign before a year that needs one. -/
theorem isDigit_or_sign_of_mem_dateText {c : Char} {t : Instant} (h : c ∈ t.dateText.toList) :
    c.isDigit = true ∨ c = '-' ∨ c = '+' := by
  simp only [dateText, yearText, String.toList_append, List.mem_append] at h
  rcases h with ((hsign | hyear) | hmonth) | hday
  · split_ifs at hsign
    · exact .inr (.inl (List.mem_singleton.mp hsign))
    · exact .inr (.inr (List.mem_singleton.mp hsign))
    · exact absurd hsign List.not_mem_nil
  · exact .inl (isDigit_of_mem_zeroFilled hyear)
  · exact .inl (isDigit_of_mem_zeroFilled hmonth)
  · exact .inl (isDigit_of_mem_zeroFilled hday)

/-- An instant is written without a line feed. -/
theorem newline_not_mem_text (t : Instant) : '\n' ∉ t.text.toList := by
  have hfilled (width n : Nat) : '\n' ∉ (zeroFilled width n).toList := fun h =>
    absurd (isDigit_of_mem_zeroFilled h) (by decide)
  have hdate : '\n' ∉ t.dateText.toList := fun h =>
    absurd (isDigit_or_sign_of_mem_dateText h) (by decide)
  simp only [text, String.toList_append, List.mem_append, not_or]
  exact ⟨⟨⟨⟨⟨hdate, by decide⟩, hfilled _ _⟩, hfilled _ _⟩, hfilled _ _⟩, by decide⟩

end Instant

/-- Two messages with one digest. -/
def Sha256.Collision (m m' : ByteArray) : Prop := m ≠ m' ∧ digest m = digest m'

/-! ### The lines of the canonical form -/

/-- No part of a request has a line feed in it, and no name of a header a colon. -/
structure SigningRequest.Plain (r : SigningRequest) : Prop where
  method : '\n' ∉ r.method.toList
  host : '\n' ∉ r.host.toList
  path : '\n' ∉ r.path.toList
  payloadHash : '\n' ∉ r.payloadHash.toList
  name : ∀ h ∈ r.headers, '\n' ∉ h.1.toList ∧ ':' ∉ h.1.toList
  value : ∀ h ∈ r.headers, '\n' ∉ h.2.toList

namespace Signature

variable {r r' : SigningRequest} {now : Instant}

/-- The canonical form of a request that is signed at an instant. -/
def canonicalForm (r : SigningRequest) (now : Instant) : String :=
  canonical r.method r.path r.query (signedFields r now) r.payloadHash

/-- The headers that are signed, each with its value as it is covered: without blanks around it. -/
def signedHeaders (r : SigningRequest) (now : Instant) : List (String × String) :=
  (signedFields r now).map fun h => (h.1, trimmed h.2)

/-- The names of the headers that every signed request has. -/
def ownNames : List String := ["host", "x-amz-date", "x-amz-content-sha256"]

/-- The line of a header, without its end. -/
def headerChars (h : String × String) : List Char := h.1.toList ++ ':' :: h.2.toList

/-- The lines of the canonical form. -/
def canonicalLines (r : SigningRequest) (now : Instant) : List (List Char) :=
  ([r.method.toList, r.path.toList, Percent.encodeQueryChars r.query] ++
    (signedHeaders r now).map headerChars) ++
    [[], (nameList (signedFields r now)).toList, r.payloadHash.toList]

/-- Lines that each have an end, put before others. -/
theorem intercalate_append_cons {sep : Char} (lines : List (List Char)) (line : List Char)
    (rest : List (List Char)) : [sep].intercalate (lines ++ line :: rest) =
      lines.flatMap (fun l => l ++ [sep]) ++ [sep].intercalate (line :: rest) := by
  induction lines with
  | nil => rfl
  | cons first others ih =>
    obtain ⟨second, tail, heq⟩ : ∃ second tail, others ++ line :: rest = second :: tail :=
      List.exists_cons_of_ne_nil (by simp)
    rw [List.cons_append, heq, List.intercalate_cons_cons, ← heq, ih, List.flatMap_cons]
    simp only [List.append_assoc]

/-- **The canonical form is the text of its lines.** -/
theorem toList_canonicalForm (r : SigningRequest) (now : Instant) :
    (canonicalForm r now).toList = ['\n'].intercalate (canonicalLines r now) := by
  have hheaders : (headerLines (signedFields r now)).toList =
      ((signedHeaders r now).map headerChars).flatMap (fun l => l ++ ['\n']) := by
    rw [headerLines, String.toList_join, List.flatMap_map, List.flatMap_map, signedHeaders,
      List.flatMap_map]
    refine List.flatMap_congr fun h _ => ?_
    simp [headerLine, headerChars]
  have hend : "\n".toList = ['\n'] := rfl
  rw [canonicalForm, canonical, String.toList_intercalate, canonicalLines, intercalate_append_cons]
  simp only [List.map_cons, List.map_nil, List.intercalate_cons_cons, hheaders, hend,
    Percent.encodeQuery, String.toList_ofList, List.flatMap_append, List.flatMap_cons,
    List.flatMap_nil, List.append_assoc, List.nil_append]

/-! ### Reading the lines -/

/-- A header that is signed is one of the three of every request or one of the caller's. -/
theorem mem_signedFields {field : String × String} (hmem : field ∈ signedFields r now) :
    field = ("x-amz-content-sha256", r.payloadHash) ∨ field = ("x-amz-date", now.text) ∨
      field = ("host", r.host) ∨ field ∈ r.headers :=
  (Fields.mem_set hmem).imp_right fun hmem => (Fields.mem_set hmem).imp_right Fields.mem_set

/-- The headers that are added to a plain request are plain as well. -/
theorem plain_of_mem_signedFields (h : r.Plain) {field : String × String}
    (hmem : field ∈ signedFields r now) :
    ('\n' ∉ field.1.toList ∧ ':' ∉ field.1.toList) ∧ '\n' ∉ field.2.toList := by
  have hown : ∀ name ∈ ownNames, '\n' ∉ name.toList ∧ ':' ∉ name.toList := by decide
  rcases mem_signedFields hmem with rfl | rfl | rfl | hmem
  · exact ⟨hown _ (by simp [ownNames]), h.payloadHash⟩
  · exact ⟨hown _ (by simp [ownNames]), now.newline_not_mem_text⟩
  · exact ⟨hown _ (by simp [ownNames]), h.host⟩
  · exact ⟨h.name field hmem, h.value field hmem⟩

/-- What stands in a list of names is a semicolon or stands in one of the names. -/
theorem mem_nameList {fs : Fields} {c : Char} (hmem : c ∈ (nameList fs).toList) :
    c = ';' ∨ ∃ name ∈ fs.names, c ∈ name.toList := by
  rw [nameList, String.toList_intercalate] at hmem
  refine (mem_of_mem_intercalate hmem).imp_right fun hname => ?_
  obtain ⟨part, hpart, hc⟩ := hname
  obtain ⟨name, hname, rfl⟩ := List.mem_map.mp hpart
  exact ⟨name, hname, hc⟩

/-- The parts of a header of a plain request, as it is covered. -/
theorem plain_of_mem_signedHeaders (h : r.Plain) {header : String × String}
    (hmem : header ∈ signedHeaders r now) :
    ('\n' ∉ header.1.toList ∧ ':' ∉ header.1.toList) ∧ '\n' ∉ header.2.toList := by
  obtain ⟨field, hfield, rfl⟩ := List.mem_map.mp hmem
  obtain ⟨hname, hvalue⟩ := plain_of_mem_signedFields h hfield
  refine ⟨hname, fun htrimmed => hvalue (mem_of_mem_trim ?_)⟩
  rwa [trimmed, String.toList_ofList] at htrimmed

theorem newline_not_mem_line (h : r.Plain) {line : List Char} (hline : line ∈ canonicalLines r now) :
    '\n' ∉ line := by
  have hquery : '\n' ∉ Percent.encodeQueryChars r.query := fun hmem =>
    absurd (Percent.kept_encodeQueryChars hmem).1 (by decide)
  have hheader : ∀ header ∈ signedHeaders r now, '\n' ∉ headerChars header := by
    intro header hmem
    obtain ⟨⟨hname, -⟩, hvalue⟩ := plain_of_mem_signedHeaders h hmem
    simp [headerChars, hname, hvalue]
  have hnames : '\n' ∉ (nameList (signedFields r now)).toList := by
    intro hmem
    rcases mem_nameList hmem with heq | ⟨name, hname, hc⟩
    · exact absurd heq (by decide)
    · obtain ⟨field, hfield, rfl⟩ := List.mem_map.mp hname
      exact (plain_of_mem_signedFields h hfield).1.1 hc
  simp only [canonicalLines, List.mem_append, List.mem_cons, List.not_mem_nil, or_false] at hline
  rcases hline with ((rfl | rfl | rfl) | hline) | rfl | rfl | rfl
  · exact h.method
  · exact h.path
  · exact hquery
  · obtain ⟨header, hmem, rfl⟩ := List.mem_map.mp hline
    exact hheader header hmem
  · exact List.not_mem_nil
  · exact hnames
  · exact h.payloadHash

/-- **The lines of a plain request are read back from its canonical form.** -/
theorem splitOn_canonicalForm (h : r.Plain) :
    (canonicalForm r now).toList.splitOn '\n' = canonicalLines r now := by
  rw [toList_canonicalForm]
  exact List.splitOn_intercalate '\n' (fun _ => newline_not_mem_line h) (by simp [canonicalLines])

/-- The name and the value of a header are read back from its line. -/
theorem splitFirst_headerChars (h : r.Plain) :
    ((signedHeaders r now).map headerChars).map (splitFirst ':') =
      (signedHeaders r now).map fun header => some (header.1.toList, header.2.toList) := by
  rw [List.map_map]
  refine List.map_congr_left fun header hmem => ?_
  exact splitFirst_append (plain_of_mem_signedHeaders h hmem).1.2 _

/-! ### Requests with the same lines -/

/-- Two requests that agree in all that is signed at an instant: the values of headers up to the
blanks around them, and the parameters of the query in any order. -/
structure SameSigned (now : Instant) (r r' : SigningRequest) : Prop where
  method : r.method = r'.method
  path : r.path = r'.path
  query : r.query.Perm r'.query
  payloadHash : r.payloadHash = r'.payloadHash
  host : trimmed r.host = trimmed r'.host
  header : ∀ name ∉ ownNames,
    (r.headers.lookup name).map trimmed = (r'.headers.lookup name).map trimmed
  signedHeaders : signedHeaders r now = signedHeaders r' now

theorem sameSigned_of_signedHeaders_eq (hmethod : r.method = r'.method) (hpath : r.path = r'.path)
    (hquery : r.query.Perm r'.query) (hpayload : r.payloadHash = r'.payloadHash)
    (hheaders : signedHeaders r now = signedHeaders r' now) : SameSigned now r r' := by
  have hlookup (key : String) : ((signedFields r now).lookup key).map trimmed =
      ((signedFields r' now).lookup key).map trimmed := by
    rw [← Fields.lookup_map, ← Fields.lookup_map]
    exact congrArg (List.lookup key) hheaders
  refine ⟨hmethod, hpath, hquery, hpayload, ?_, fun name hname => ?_, hheaders⟩
  · have hhost := hlookup "host"
    simpa [signedFields, Fields.lookup_set] using hhost
  · have hother := hlookup name
    simp only [ownNames, List.mem_cons, List.not_mem_nil, or_false, not_or] at hname
    obtain ⟨hhost, hdate, hpayload⟩ := hname
    simpa only [signedFields, Fields.lookup_set, if_neg hhost, if_neg hdate, if_neg hpayload]
      using hother

/-- Plain requests with the same lines agree in all that is signed. -/
theorem sameSigned_of_canonicalLines_eq (h : r.Plain) (h' : r'.Plain)
    (hlines : canonicalLines r now = canonicalLines r' now) : SameSigned now r r' := by
  -- three lines before the headers and three behind them: both requests have as many headers
  obtain ⟨hfront, hback⟩ := List.append_inj' hlines rfl
  obtain ⟨hfirst, hheaders⟩ := List.append_inj hfront rfl
  simp only [List.cons.injEq, String.toList_inj, and_true, true_and] at hfirst hback
  obtain ⟨hmethod, hpath, hquery⟩ := hfirst
  have hread := congrArg (List.map (splitFirst ':')) hheaders
  rw [splitFirst_headerChars h, splitFirst_headerChars h'] at hread
  refine sameSigned_of_signedHeaders_eq hmethod hpath ?_ hback.2 ?_
  · exact Percent.perm_of_encodeQuery_eq (String.ofList_inj.mpr hquery)
  · refine (List.map_injective_iff.mpr ?_) hread
    rintro ⟨name, value⟩ ⟨name', value'⟩ heq
    simpa only [Option.some.injEq, Prod.mk.injEq, String.toList_inj] using heq

/-! ### What is signed -/

/-- The text that is signed for a request. -/
def signedText (r : SigningRequest) (region : String) (now : Instant) : String :=
  stringToSign now.text (scope now.dateText region) (canonicalForm r now)

/-- A request is signed by a keyed digest of its text. -/
theorem sign_eq (r : SigningRequest) (credentials : Credentials) (region : String) (now : Instant) :
    sign r credentials region now = (signedFields r now).set "authorization"
      (algorithm ++ " Credential=" ++ credentials.accessKey ++ "/" ++ scope now.dateText region ++
        ", SignedHeaders=" ++ nameList (signedFields r now) ++ ", Signature=" ++
        signatureOf (signingKey credentials.secretKey now.dateText region)
          (signedText r region now)) := rfl

/-- The last line of what is signed is a digest. -/
theorem digest_eq_of_stringToSign_eq {instant instant' scope scope' text text' : String}
    (h : stringToSign instant scope text = stringToSign instant' scope' text') :
    Sha256.digest text.toUTF8 = Sha256.digest text'.toUTF8 := by
  -- read from its end, the text begins with the digits of the digest
  have hlast (instant scope text : String) :
      splitFirst '\n' (stringToSign instant scope text).toList.reverse =
        some ((hexOctets (Sha256.digest text.toUTF8).toList).reverse,
          (algorithm.toList ++ '\n' :: (instant.toList ++ '\n' :: scope.toList)).reverse) := by
    have hend : "\n".toList = ['\n'] := rfl
    have hdigits : '\n' ∉ hexOctets (Sha256.digest text.toUTF8).toList :=
      not_mem_hexOctets (by decide +kernel) _
    rw [← splitFirst_append (List.mem_reverse.not.mpr hdigits)]
    simp only [stringToSign, Sha256.hexDigest, String.toList_intercalate, List.map_cons, List.map_nil,
      List.intercalate_cons_cons, List.intercalate_singleton, hend, String.toList_ofList,
      List.reverse_append, List.reverse_cons, List.append_assoc, List.nil_append, List.cons_append]
  have hsplit := congrArg (fun s => splitFirst '\n' s.toList.reverse) h
  simp only [hlast, Option.some.injEq, Prod.mk.injEq, List.reverse_inj] at hsplit
  exact eq_of_toList_eq (hexOctets_injective hsplit.1)

/-- **A signature covers the whole request.**  Two plain requests that have the same canonical form at
an instant agree in method, path, query, digest of the body and all signed headers.  If they have one
text that is signed, for whichever regions, they agree as well, or their canonical forms are two
messages with one digest. -/
theorem sameSigned_of_canonicalForm_eq (h : r.Plain) (h' : r'.Plain) (now : Instant) :
    (canonicalForm r now = canonicalForm r' now → SameSigned now r r') ∧
    ∀ region region', signedText r region now = signedText r' region' now →
      SameSigned now r r' ∨
        Sha256.Collision (canonicalForm r now).toUTF8 (canonicalForm r' now).toUTF8 := by
  have hsame : canonicalForm r now = canonicalForm r' now → SameSigned now r r' := by
    intro heq
    have hlines := congrArg (fun s => s.toList.splitOn '\n') heq
    rw [splitOn_canonicalForm h, splitOn_canonicalForm h'] at hlines
    exact sameSigned_of_canonicalLines_eq h h' hlines
  refine ⟨hsame, fun region region' htext => ?_⟩
  by_cases heq : canonicalForm r now = canonicalForm r' now
  · exact .inl (hsame heq)
  · exact .inr ⟨fun hbytes => heq (String.toByteArray_inj.mp hbytes),
      digest_eq_of_stringToSign_eq htext⟩

/-- A part that is sent, and another one with blanks around the value of a header. -/
theorem sameSigned_of_canonicalForm_eq_blanks :
    let r : SigningRequest := ⟨"PUT", "s3.example.org", "/bench/data.bin",
      [("partNumber", "1"), ("uploadId", "up&1")], unsignedPayload, [("x-note", "one")]⟩
    let r' : SigningRequest := { r with headers := [("x-note", " one\t")] }
    (r.Plain ∧ r'.Plain) ∧ canonicalForm r 0 = canonicalForm r' 0 ∧ SameSigned 0 r r' := by
  intro r r'
  have hplain : r.Plain := ⟨by decide, by decide, by decide, by decide, by decide, by decide⟩
  have hplain' : r'.Plain := ⟨by decide, by decide, by decide, by decide, by decide, by decide⟩
  have hform : canonicalForm r 0 = canonicalForm r' 0 := by
    have hlines : headerLines (signedFields r 0) = headerLines (signedFields r' 0) := by
      decide +kernel
    have hnames : nameList (signedFields r 0) = nameList (signedFields r' 0) := by decide +kernel
    rw [canonicalForm, canonicalForm, canonical, hlines, hnames]
    rfl
  exact ⟨⟨hplain, hplain'⟩, hform, (sameSigned_of_canonicalForm_eq hplain hplain' 0).1 hform⟩

end Signature

end StripeTransfer
