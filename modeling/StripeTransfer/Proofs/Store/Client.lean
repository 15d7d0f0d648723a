/-
StripeTransfer/Proofs/Store/Client.lean

What is signed and what is sent.  The signature of a request covers a path and a
query, and the address that the request goes to is read from these two once more.
The query is read as it is.  The path is resolved, so it is the signed one just if
no dot segment is in it: the endpoint has none left, and encoding makes none, so
they can only come from the bucket or from the key
(`Client.wire_eq_signing_iff`).

A key with dot segments therefore leads to another object than the one that was
signed for (`Client.wire_ne_signing`).
-/
import StripeTransfer.Proofs.Signature.Query
import StripeTransfer.Proofs.Web.Path
import StripeTransfer.Store.Client
import Mathlib

namespace StripeTransfer

open Text

namespace Client

variable {endpoint region : String} {credentials : Credentials} {c : Client} {bucket key : String}

/-! ### The path of an object -/

/-- The path of the endpoint of a client has been read. -/
theorem exists_of_of (h : of endpoint region credentials = .ok c) :
    ∃ s, c.endpoint.path = Path.ofChars s := by
  rcases hparse : Url.parse endpoint with e | url | -
  · simp only [of, hparse] at h
    cases h
  · simp only [of, hparse] at h
    cases h
    exact Url.exists_of_parse hparse
  · simp only [of, hparse] at h
    cases h

/-- Without the slashes at its end a path has fewer segments. -/
theorem withoutEndSlashes_ofSegments {segments : List (List Char)}
    (h : ∀ s ∈ segments, '/' ∉ s) :
    ∃ front, front <+: segments ∧
      withoutEndSlashes (Path.ofSegments segments) = Path.ofSegments front := by
  induction segments using List.reverseRecOn with
  | nil => exact ⟨[], List.prefix_rfl, rfl⟩
  | append_singleton rest s ih =>
    rcases List.eq_nil_or_concat s with rfl | ⟨initial, last, rfl⟩
    · -- an empty segment at the end is one slash more
      obtain ⟨front, hinitial, hfront⟩ := ih fun t ht => h t (List.mem_append_left _ ht)
      refine ⟨front, hinitial.trans (List.prefix_append _ _), ?_⟩
      rw [← hfront]
      simp [withoutEndSlashes]
    · -- the last character is no slash
      refine ⟨_, List.prefix_rfl, ?_⟩
      have hlast : last ≠ '/' := by
        rintro rfl
        exact h _ (List.mem_append_right _ List.mem_cons_self) (by simp)
      simp [withoutEndSlashes, hlast]

/-- The segments of a key: the pieces behind the slashes at its start, encoded. -/
def keySegments (key : String) : List (List Char) :=
  (pieces '/' (key.toList.dropWhile (· == '/'))).map fun p => Percent.encodeChars (String.ofList p)

theorem keySegments_ne_nil (key : String) : keySegments key ≠ [] := by
  rw [keySegments, ne_eq, List.map_eq_nil_iff, pieces_eq_splitOn]
  exact List.splitOn_ne_nil _ _

/-- **The segments of the path of an object**: those of the endpoint, the bucket, and those of the
key. -/
theorem exists_segments (h : of endpoint region credentials = .ok c) (bucket key : String) :
    ∃ front, Path.Read front ∧
      c.path bucket key =
        Path.ofSegments (front ++ Percent.encodeChars bucket :: keySegments key) := by
  obtain ⟨s, hs⟩ := exists_of_of h
  obtain ⟨segments, hsegments, hread⟩ := Path.exists_of_ofChars s
  obtain ⟨front, hinitial, hfront⟩ :=
    withoutEndSlashes_ofSegments fun t ht => (hread.kept t ht).slash_not_mem
  have hkey : '/' :: Percent.encodePathChars (String.ofList (key.toList.dropWhile (· == '/'))) =
      Path.ofSegments (keySegments key) := by
    rw [Path.ofSegments_eq_intercalate (keySegments_ne_nil key), Percent.encodePathChars,
      String.toList_ofList]
    rfl
  refine ⟨front, ⟨fun t ht => hread.kept t (hinitial.subset ht),
    fun t ht => hread.not_isDots t (hinitial.subset ht)⟩, ?_⟩
  rw [path, hs, hsegments, hfront, hkey, Path.ofSegments_append, Path.ofSegments_cons,
    List.append_assoc]

/-- All segments of the path of an object are kept when it is read once more. -/
theorem kept_segments {front : List (List Char)} (hread : Path.Read front) (bucket key : String) :
    ∀ s ∈ front ++ Percent.encodeChars bucket :: keySegments key, Path.Kept s := by
  intro s hs
  rcases List.mem_append.mp hs with hs | hs
  · exact hread.kept s hs
  · rcases List.mem_cons.mp hs with rfl | hs
    · exact Percent.kept_encodeChars bucket
    · obtain ⟨p, -, rfl⟩ := List.mem_map.mp hs
      exact Percent.kept_encodeChars _

/-! ### Dot segments -/

/-- Whether a name stands for a directory relative to where it is. -/
def IsDotName (name : String) : Prop := name = "." ∨ name = ".."

instance (name : String) : Decidable (IsDotName name) :=
  inferInstanceAs (Decidable (name = "." ∨ name = ".."))

theorem not_isDotName_nil : ¬ IsDotName (String.ofList []) := by decide

/-- Whether an object cannot be addressed by its bucket and key: one of the names between slashes is
a dot name. -/
def HasDotName (bucket key : String) : Prop :=
  IsDotName bucket ∨ ∃ p ∈ pieces '/' key.toList, IsDotName (String.ofList p)

instance (bucket key : String) : Decidable (HasDotName bucket key) :=
  inferInstanceAs (Decidable (IsDotName bucket ∨ ∃ p ∈ pieces '/' key.toList, _))

/-- Among the segments of the path of an object, only names of the object can be dot segments. -/
theorem isDots_segments_iff {front : List (List Char)} (hread : Path.Read front)
    (bucket key : String) :
    (∀ s ∈ front ++ Percent.encodeChars bucket :: keySegments key, Path.isDots s = false) ↔
      ¬ HasDotName bucket key := by
  have hname (name : String) :
      Path.isDots (Percent.encodeChars name) = false ↔ ¬ IsDotName name := by
    rw [← Bool.not_eq_true, Percent.isDots_encodeChars, IsDotName]
  have hkey : (∀ s ∈ keySegments key, Path.isDots s = false) ↔
      ∀ p ∈ pieces '/' key.toList, ¬ IsDotName (String.ofList p) := by
    simp only [keySegments, List.forall_mem_map, hname]
    constructor
    · intro h p hp hdots
      -- the slashes at the start of a key only take empty names away
      have hne : p ≠ [] := by
        rintro rfl
        exact not_isDotName_nil hdots
      exact h p ((mem_pieces_dropWhile hne).mpr hp) hdots
    · intro h p hp hdots
      have hne : p ≠ [] := by
        rintro rfl
        exact not_isDotName_nil hdots
      exact h p ((mem_pieces_dropWhile hne).mp hp) hdots
  rw [List.forall_mem_append, List.forall_mem_cons, hname, hkey,
    and_iff_right (fun s hs => hread.not_isDots s hs), HasDotName, not_or, not_exists]
  simp only [not_and]

/-! ### What is sent -/

/-- **What the signature of a request covers, and what is sent.**  The query that is sent is the
canonical form of the signed one, and nothing follows it.  The path that is sent is the signed one
just if neither the bucket nor any name of the key is a dot name. -/
theorem wire_eq_signing_iff (h : of endpoint region credentials = .ok c) (now : Instant)
    (r : Request) :
    (String.ofList (c.wire now r).url.path = (c.signing r).path ↔ ¬ HasDotName r.bucket r.key) ∧
      ((c.wire now r).url.query.map String.ofList).getD "" =
        Percent.encodeQuery (c.signing r).query ∧
      (c.wire now r).url.fragment = none := by
  obtain ⟨front, hread, hpath⟩ := exists_segments h r.bucket r.key
  have hkept := kept_segments hread r.bucket r.key
  have hne : front ++ Percent.encodeChars r.bucket :: keySegments r.key ≠ [] := by simp
  obtain ⟨p, hp⟩ : ∃ p, Path.ofSegments (front ++ Percent.encodeChars r.bucket :: keySegments r.key) =
      '/' :: p := ⟨_, Path.ofSegments_eq_intercalate hne⟩
  have htail : Url.Tail.ofChars (c.target r) =
      ⟨Path.ofSegments
          (Path.resolve (front ++ Percent.encodeChars r.bucket :: keySegments r.key)),
        if (Percent.encodeQueryChars r.query).isEmpty then none
          else some (Percent.encodeQueryChars r.query), none⟩ := by
    rw [target, hpath]
    exact Url.Tail.ofChars_eq hne hkept fun _ hc => Percent.kept_encodeQueryChars hc
  refine ⟨?_, ?_, ?_⟩
  · simp only [wire, Url.at_, htail, signing]
    rw [String.ofList_inj, hpath, ← Path.ofChars_eq hkept hp, hp, Path.ofChars_eq_self_iff hkept hp,
      isDots_segments_iff hread]
  · simp only [wire, Url.at_, htail, signing, Percent.encodeQuery]
    rcases hempty : (Percent.encodeQueryChars r.query).isEmpty with - | -
    · simp
    · rw [List.isEmpty_iff.mp hempty]
      rfl
  · simp only [wire, Url.at_, htail]

/-- A store whose endpoint has a path. -/
def shelf : Client :=
  ⟨⟨false, [], [], .name "store.test".toList, some 9000, "/shelf/".toList, none, none⟩, "us-east-1",
    ⟨"access", "secret"⟩⟩

theorem of_shelf : of "http://store.test:9000/shelf/" "us-east-1" ⟨"access", "secret"⟩ = .ok shelf := by
  have hparse : Url.parse "http://store.test:9000/shelf/" = .ok (.web shelf.endpoint) := by
    decide +kernel
  simp only [of, hparse]
  rfl

/-- A key with blanks and dots, none of which is a dot name. -/
theorem wire_eq_signing_shelf :
    let r : Request := ⟨"GET", "bench", "/a b/...", [("part", "1")], ByteArray.empty⟩
    of "http://store.test:9000/shelf/" "us-east-1" ⟨"access", "secret"⟩ = .ok shelf ∧
      String.ofList (shelf.wire 0 r).url.path = (shelf.signing r).path ∧
      (shelf.signing r).path = "/shelf/bench/a%20b/..." ∧
      ((shelf.wire 0 r).url.query.map String.ofList).getD "" = "part=1" := by
  intro r
  obtain ⟨hpath, hquery, -⟩ := wire_eq_signing_iff of_shelf 0 r
  have hquery' : Percent.encodeQuery r.query = "part=1" := by decide +kernel
  exact ⟨of_shelf, hpath.mpr (by decide +kernel), by decide +kernel, hquery.trans hquery'⟩

/-- **Two dots in a key lead out of the object's directory**: the request is signed for one path and
sent to another one, which is that of another object. -/
theorem wire_ne_signing :
    let r : Request := .of "GET" "bench" "a/../b"
    (of "http://store.test:9000/shelf/" "us-east-1" ⟨"access", "secret"⟩ = .ok shelf ∧
      (shelf.signing r).path = "/shelf/bench/a/../b" ∧
      String.ofList (shelf.wire 0 r).url.path = "/shelf/bench/b" ∧
      (shelf.wire 0 r).url.path = shelf.path "bench" "b") ∧
      ¬ ∀ endpoint region credentials c now (r : Request),
        of endpoint region credentials = .ok c →
        String.ofList (c.wire now r).url.path = (c.signing r).path := by
  intro r
  have hsigned : (shelf.signing r).path = "/shelf/bench/a/../b" := by decide +kernel
  have hsent : String.ofList (shelf.wire 0 r).url.path = "/shelf/bench/b" := by decide +kernel
  refine ⟨⟨of_shelf, hsigned, hsent, by decide +kernel⟩, fun hclaim => ?_⟩
  have hsame := hclaim _ _ _ shelf 0 r of_shelf
  rw [hsigned, hsent] at hsame
  exact absurd hsame (by decide)

end Client

end StripeTransfer
