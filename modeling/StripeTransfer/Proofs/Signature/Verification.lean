/-
StripeTransfer/Proofs/Signature/Verification.lean

What a reader of a signed request can recompute.  The text of an authorization
says the credential, the names of the signed headers and the signature; it is read
from its end, since a key may hold any text, while the names are in lower case and
the signature is in digits (`Authorization.read?_text`).

The reader takes the named headers out of those that came with the request, builds
the canonical form line by line and derives the key in four steps
(`Signature.recomputed`).  All that was signed is still there after the
authorization has been added, so the signature is the one that the reader computes
(`Signature.sign_verifies`).
-/
import StripeTransfer.Proofs.Signature.Canonical
import StripeTransfer.Proofs.Text.Lead
import Mathlib

namespace StripeTransfer

open Text

/-! ### Marks in a text -/

namespace Text

variable {s : List Char}

/-- The text before and after the last occurrence of a mark. -/
def splitLast (mark : List Char) : List Char → Option (List Char × List Char)
  | [] => none
  | c :: s =>
    match splitLast mark s with
    | some (before, after) => some (c :: before, after)
    | none => (dropLead mark (c :: s)).map fun after => ([], after)

theorem splitLast_eq_none {mark : List Char} (h : ∀ t, t <:+ s → ∀ after, t ≠ mark ++ after) :
    splitLast mark s = none := by
  induction s with
  | nil => rfl
  | cons c s ih =>
    have hrest : splitLast mark s = none := ih fun t ht => h t (ht.trans (List.suffix_cons c s))
    have hhere : dropLead mark (c :: s) = none := by
      rw [Option.eq_none_iff_forall_ne_some]
      exact fun after hafter => h _ List.suffix_rfl after (eq_append_of_dropLead hafter)
    rw [splitLast, hrest, hhere]
    rfl

/-- A mark is found if it has a character that is nowhere else in it and nowhere behind it. -/
theorem splitLast_append {front back after : List Char} {c : Char} (hfront : c ∉ front)
    (hback : c ∉ back ++ after) (before : List Char) :
    splitLast (front ++ c :: back) (before ++ (front ++ c :: back ++ after)) =
      some (before, after) := by
  induction before with
  | nil =>
    obtain ⟨first, rest, hrest⟩ : ∃ first rest, front ++ c :: back ++ after = first :: rest :=
      List.exists_cons_of_ne_nil (by simp)
    have hnone : splitLast (front ++ c :: back) rest = none := by
      refine splitLast_eq_none fun t ht r heq => ?_
      obtain ⟨gap, rfl⟩ := ht
      -- a mark further behind would have the character at a second place
      have hplaces : front ++ c :: (back ++ after) = first :: gap ++ front ++ c :: (back ++ r) := by
        simpa [heq] using hrest
      have hsame := ((List.append_cons_inj_of_notMem hfront hback).mp hplaces).1
      have hlength := congrArg List.length hsame
      simp only [List.length_append, List.length_cons] at hlength
      omega
    rw [List.nil_append, hrest, splitLast, hnone, ← hrest, dropLead_append]
    rfl
  | cons d before ih => rw [List.cons_append, splitLast, ih]

end Text

/-! ### Authorizations -/

/-- What the text of an authorization says. -/
structure Authorization where
  /-- The access key and the scope. -/
  credential : String
  /-- The names of the signed headers, between semicolons. -/
  names : String
  signature : String

namespace Authorization

/-- Reads the text of an authorization. -/
def read? (text : String) : Option Authorization := do
  let said ← dropLead "AWS4-HMAC-SHA256 Credential=".toList text.toList
  let (front, signature) ← splitLast ", Signature=".toList said
  let (credential, names) ← splitLast ", SignedHeaders=".toList front
  return ⟨String.ofList credential, String.ofList names, String.ofList signature⟩

/-- The text of an authorization. -/
def text (a : Authorization) : String :=
  Signature.algorithm ++ " Credential=" ++ a.credential ++ ", SignedHeaders=" ++ a.names ++
    ", Signature=" ++ a.signature

/-- **An authorization is read back from its text**, whatever its credential is, if there is no
capital `S` in the names and in the signature. -/
theorem read?_text {a : Authorization} (hnames : 'S' ∉ a.names.toList)
    (hsignature : 'S' ∉ a.signature.toList) : read? a.text = some a := by
  have hcomma : 'S' ∉ [',', ' '] := by decide
  have hbehindNames : 'S' ∉ "ignedHeaders=".toList ++ a.names.toList := by simp [hnames]
  have hbehindSignature : 'S' ∉ "ignature=".toList ++ a.signature.toList := by simp [hsignature]
  have hnamesMark : ", SignedHeaders=".toList = [',', ' '] ++ 'S' :: "ignedHeaders=".toList := rfl
  have hsignatureMark : ", Signature=".toList = [',', ' '] ++ 'S' :: "ignature=".toList := rfl
  have htext : a.text.toList = "AWS4-HMAC-SHA256 Credential=".toList ++
      (a.credential.toList ++ (", SignedHeaders=".toList ++ a.names.toList) ++
        (", Signature=".toList ++ a.signature.toList)) := by
    simp [text, Signature.algorithm]
  rw [read?, htext, dropLead_append]
  simp only [hnamesMark, hsignatureMark, Option.bind_eq_bind, Option.bind_some,
    splitLast_append hcomma hbehindSignature, splitLast_append hcomma hbehindNames,
    String.ofList_toList, Option.pure_def]

end Authorization

/-! ### The reader -/

namespace Signature

/-- The headers that a list of names between semicolons names, out of headers in the order of their
names; none if it names one that is not there. -/
def named? : List Char → Fields → Option Fields
  | _, [] => none
  | list, (name, value) :: rest =>
    match dropLead name.toList list with
    | some [] => some [(name, value)]
    | some (';' :: list) => (named? list rest).map ((name, value) :: ·)
    | _ => named? list rest

/-- The canonical form, built line by line from the headers that are named. -/
def rebuilt (method path : String) (query : List (String × String)) (signed : Fields)
    (names payloadHash : String) : String :=
  String.intercalate "\n" ([method, path, Percent.encodeQuery query] ++
    signed.map (fun h => h.1 ++ ":" ++ trimmed h.2) ++ ["", names, payloadHash])

/-- The key that is derived in four steps: from the date, the region, the service and an end mark. -/
def derivedKey (secretKey date region : String) : ByteArray :=
  let dayKey := Sha256.hmac ("AWS4" ++ secretKey).toUTF8 date.toUTF8
  let regionKey := Sha256.hmac dayKey region.toUTF8
  let serviceKey := Sha256.hmac regionKey "s3".toUTF8
  Sha256.hmac serviceKey "aws4_request".toUTF8

/-- The signature as it is computed by a reader of a request, who knows the secret key and the region,
from the method, the path, the query and the headers that came with it. -/
def recomputed (secretKey region method path : String) (query : List (String × String))
    (headers : Fields) : Option String := do
  let said ← (headers.lookup "authorization").bind Authorization.read?
  let signed ← named? said.names.toList (headers.filter fun h => h.1 != "authorization")
  let instant ← headers.lookup "x-amz-date"
  let payloadHash ← headers.lookup "x-amz-content-sha256"
  let (day, _) ← splitFirst 'T' instant.toList
  let date := String.ofList day
  let form := rebuilt method path query signed said.names payloadHash
  let text := String.intercalate "\n" ["AWS4-HMAC-SHA256", instant,
    String.intercalate "/" [date, region, "s3", "aws4_request"], Sha256.hexDigest form.toUTF8]
  let tag := Sha256.hmac (derivedKey secretKey date region) text.toUTF8
  return String.ofList (hexOctets tag.toList)

variable {r : SigningRequest} {now : Instant}

theorem toList_nameList_cons_cons (n v : String) (field : String × String) (rest : Fields) :
    (nameList ((n, v) :: field :: rest)).toList =
      n.toList ++ ';' :: (nameList (field :: rest)).toList := by
  have hsep : ";".toList = [';'] := rfl
  simp [nameList, Fields.names, String.toList_intercalate, hsep]

/-- All headers are found by the list of their names. -/
theorem named?_nameList {fs : Fields} (h : fs ≠ []) : named? (nameList fs).toList fs = some fs := by
  induction fs with
  | nil => exact absurd rfl h
  | cons field rest ih =>
    obtain ⟨n, v⟩ := field
    rcases rest with - | ⟨second, rest⟩
    · have hname : (nameList [(n, v)]).toList = n.toList ++ [] := by
        simp [nameList, Fields.names]
      rw [hname, named?, dropLead_append]
    · rw [toList_nameList_cons_cons, named?, dropLead_append]
      simp only [ih (List.cons_ne_nil _ _), Option.map_some]

/-- **The reader builds the canonical form that was signed.** -/
theorem rebuilt_eq (r : SigningRequest) (now : Instant) :
    rebuilt r.method r.path r.query (signedFields r now) (nameList (signedFields r now))
      r.payloadHash = canonicalForm r now := by
  have hend : "\n".toList = ['\n'] := rfl
  rw [← String.toList_inj, toList_canonicalForm, rebuilt, String.toList_intercalate, hend]
  simp [canonicalLines, signedHeaders, headerChars, Percent.encodeQuery, Function.comp_def]

/-! ### What is returned -/

end Signature

/-- The headers of a request are a map of names in lower case, and none is for the authorization
itself. -/
structure SigningRequest.Lower (r : SigningRequest) : Prop where
  ascending : r.headers.Ascending
  lower : ∀ name ∈ r.headers.names, lowered name = name
  free : "authorization" ∉ r.headers.names

namespace Signature

variable {r : SigningRequest} {now : Instant}

/-- The authorization of a signed request. -/
def authorization (r : SigningRequest) (credentials : Credentials) (region : String) (now : Instant) :
    Authorization :=
  { credential := credentials.accessKey ++ "/" ++ scope now.dateText region
    names := nameList (signedFields r now)
    signature := signatureOf (signingKey credentials.secretKey now.dateText region)
      (signedText r region now) }

theorem sign_eq_set (r : SigningRequest) (credentials : Credentials) (region : String)
    (now : Instant) : sign r credentials region now =
      (signedFields r now).set "authorization" (authorization r credentials region now).text := by
  rw [sign_eq]
  simp only [Authorization.text, authorization, String.append_assoc]

/-- A header that is signed has a name of its own or comes from the caller. -/
theorem mem_names_signedFields {name : String} (h : name ∈ (signedFields r now).names) :
    name ∈ ownNames ∨ name ∈ r.headers.names := by
  obtain ⟨field, hfield, rfl⟩ := List.mem_map.mp h
  rcases mem_signedFields hfield with rfl | rfl | rfl | hfield
  · exact .inl (by simp [ownNames])
  · exact .inl (by simp [ownNames])
  · exact .inl (by simp [ownNames])
  · exact .inr (List.mem_map_of_mem hfield)

theorem signedFields_ne_nil (r : SigningRequest) (now : Instant) : signedFields r now ≠ [] := by
  intro h
  have hhash := Fields.lookup_set "x-amz-content-sha256" r.payloadHash
    ((r.headers.set "host" r.host).set "x-amz-date" now.text) "x-amz-content-sha256"
  rw [← signedFields, h, if_pos rfl] at hhash
  cases hhash

theorem lookup_signedFields (r : SigningRequest) (now : Instant) (name : String) :
    (signedFields r now).lookup name =
      if name = "x-amz-content-sha256" then some r.payloadHash
      else if name = "x-amz-date" then some now.text
      else if name = "host" then some r.host
      else r.headers.lookup name := by
  simp only [signedFields, Fields.lookup_set]

theorem authorization_not_mem (h : r.Lower) : "authorization" ∉ (signedFields r now).names := by
  intro hmem
  rcases mem_names_signedFields hmem with hown | hcaller
  · exact absurd hown (by decide)
  · exact h.free hcaller

/-- There is no capital in a list of names in lower case. -/
theorem capital_not_mem_nameList (h : r.Lower) : 'S' ∉ (nameList (signedFields r now)).toList := by
  have hlower {name : String} (hname : lowered name = name) : 'S' ∉ name.toList := by
    intro hmem
    have hchars : name.toList.map asciiLower = name.toList.map id := by
      rw [List.map_id, ← String.toList_ofList (l := name.toList.map asciiLower)]
      exact congrArg String.toList hname
    exact absurd (List.map_inj_left.mp hchars 'S' hmem) (by decide)
  intro hmem
  rcases mem_nameList hmem with heq | ⟨name, hname, hc⟩
  · exact absurd heq (by decide)
  · rcases mem_names_signedFields hname with hown | hcaller
    · exact (by decide : ∀ name ∈ ownNames, 'S' ∉ name.toList) name hown hc
    · exact hlower (h.lower name hcaller) hc

/-- The authorization is read back from the returned headers. -/
theorem read?_sign (h : r.Lower) (credentials : Credentials) (region : String) (now : Instant) :
    ((sign r credentials region now).lookup "authorization").bind Authorization.read? =
      some (authorization r credentials region now) := by
  rw [sign_eq_set, Fields.lookup_set, if_pos rfl, Option.bind_some]
  refine Authorization.read?_text (capital_not_mem_nameList h) ?_
  rw [authorization, signatureOf, String.toList_ofList]
  exact not_mem_hexOctets (by decide +kernel) _

/-- Without the authorization, the returned headers are those that were signed. -/
theorem filter_sign (h : r.Lower) (credentials : Credentials) (region : String) (now : Instant) :
    (sign r credentials region now).filter (fun field => field.1 != "authorization") =
      signedFields r now := by
  rw [sign_eq_set, Fields.filter_set (authorization_not_mem h)]

/-- The day of an instant is what stands before its first `T`. -/
theorem splitFirst_instant (t : Instant) :
    ∃ time, splitFirst 'T' t.text.toList = some (t.dateText.toList, time) := by
  have hdate : 'T' ∉ t.dateText.toList := fun hmem =>
    absurd (t.isDigit_or_sign_of_mem_dateText hmem) (by decide)
  have hmark : "T".toList = ['T'] := rfl
  simp only [Instant.text, String.toList_append, hmark, List.append_assoc, List.singleton_append]
  exact ⟨_, splitFirst_append hdate _⟩

/-- **The reader computes the signature.** -/
theorem recomputed_sign (h : r.Lower) (credentials : Credentials) (region : String) (now : Instant) :
    recomputed credentials.secretKey region r.method r.path r.query
      (sign r credentials region now) = some (authorization r credentials region now).signature := by
  have hdate : (sign r credentials region now).lookup "x-amz-date" = some now.text := by
    rw [sign_eq_set, Fields.lookup_set, lookup_signedFields]
    rfl
  have hhash : (sign r credentials region now).lookup "x-amz-content-sha256" =
      some r.payloadHash := by
    rw [sign_eq_set, Fields.lookup_set, lookup_signedFields]
    rfl
  have hnamed : named? (authorization r credentials region now).names.toList (signedFields r now) =
      some (signedFields r now) := named?_nameList (signedFields_ne_nil r now)
  have hform : rebuilt r.method r.path r.query (signedFields r now)
      (authorization r credentials region now).names r.payloadHash = canonicalForm r now :=
    rebuilt_eq r now
  obtain ⟨time, htime⟩ := splitFirst_instant now
  simp only [recomputed, read?_sign h, filter_sign h, hdate, hhash, hnamed, htime, hform,
    Option.bind_eq_bind, Option.bind_some, String.ofList_toList, Option.pure_def]
  rfl

/-- The names are the pieces of their list, if none of them has a semicolon in it. -/
theorem pieces_nameList {fs : Fields} (hne : fs ≠ []) (h : ∀ name ∈ fs.names, ';' ∉ name.toList) :
    pieces ';' (nameList fs).toList = fs.names.map String.toList := by
  have hsep : ";".toList = [';'] := rfl
  rw [nameList, String.toList_intercalate, hsep, pieces_eq_splitOn]
  exact List.splitOn_intercalate ';' (List.forall_mem_map.mpr h) (by simpa [Fields.names] using hne)

/-- **The returned headers verify.**  Apart from the authorization they are those of the caller, with
the host, the instant and the digest of the body set over them, in ascending order.  The authorization
is read back: its list has exactly the names of the other headers, and its signature is the one that a
reader computes who knows the secret key and the region and sees nothing but the method, the path, the
query and the returned headers. -/
theorem sign_verifies (h : r.Lower) (credentials : Credentials) (region : String) (now : Instant) :
    let headers := sign r credentials region now
    let others : Fields := headers.filter fun field => field.1 != "authorization"
    (others.Ascending ∧ ∀ name, others.lookup name =
      if name = "x-amz-content-sha256" then some r.payloadHash
      else if name = "x-amz-date" then some now.text
      else if name = "host" then some r.host
      else r.headers.lookup name) ∧
    ∃ said, (headers.lookup "authorization").bind Authorization.read? = some said ∧
      said.credential = credentials.accessKey ++ "/" ++ scope now.dateText region ∧
      said.names = String.intercalate ";" others.names ∧
      ((∀ name ∈ r.headers.names, ';' ∉ name.toList) →
        pieces ';' said.names.toList = others.names.map String.toList) ∧
      recomputed credentials.secretKey region r.method r.path r.query headers =
        some said.signature := by
  intro headers others
  have hothers : others = signedFields r now := filter_sign h credentials region now
  rw [hothers]
  have hascending : (signedFields r now).Ascending := ((h.ascending.set _ _).set _ _).set _ _
  refine ⟨⟨hascending, lookup_signedFields r now⟩, authorization r credentials region now,
    read?_sign h credentials region now, rfl, rfl, fun hplain => ?_,
    recomputed_sign h credentials region now⟩
  refine pieces_nameList (signedFields_ne_nil r now) fun name hname => ?_
  rcases mem_names_signedFields hname with hown | hcaller
  · exact (by decide : ∀ name ∈ ownNames, ';' ∉ name.toList) name hown
  · exact hplain name hcaller

/-- A key that looks like the end of an authorization, and a value with blanks around it. -/
theorem sign_verifies_note :
    let r : SigningRequest := ⟨"GET", "examplebucket.s3.amazonaws.com", "/test.txt", [("part", "1")],
      unsignedPayload, [("range", "bytes=0-9"), ("x-note", " one\t")]⟩
    let headers := sign r ⟨"access, Signature=0", "secret"⟩ "us-east-1" 1369353600
    r.Lower ∧ ∃ said, (headers.lookup "authorization").bind Authorization.read? = some said ∧
      said.credential = "access, Signature=0/20130524/us-east-1/s3/aws4_request" ∧
      said.names = "host;range;x-amz-content-sha256;x-amz-date;x-note" ∧
      pieces ';' said.names.toList =
        ["host", "range", "x-amz-content-sha256", "x-amz-date", "x-note"].map String.toList ∧
      recomputed "secret" "us-east-1" "GET" "/test.txt" [("part", "1")] headers =
        some said.signature := by
  intro r headers
  have hlower : r.Lower := ⟨by decide, by decide, by decide⟩
  obtain ⟨-, said, hread, hcredential, hnames, hpieces, hsignature⟩ :=
    sign_verifies hlower ⟨"access, Signature=0", "secret"⟩ "us-east-1" 1369353600
  exact ⟨hlower, said, hread, hcredential.trans (by decide +kernel),
    hnames.trans (by decide +kernel), (hpieces (by decide)).trans (by decide +kernel), hsignature⟩

end Signature

end StripeTransfer
