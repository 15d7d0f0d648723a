/-
StripeTransfer/Proofs/Store/Address.lean

Which object a path addresses.  Behind the path of the endpoint stand the bucket
and the key, each after a slash.  Encoding leaves no slash in the bucket, so it
ends at the second slash; in the key the slashes are kept and what is between
them is encoded piece by piece, so that its names are read back one by one
(`Client.object?_objectPath`).

Only the slashes at the start of a key are lost.  Apart from these, no two objects
have one path (`Client.path_addresses`).
-/
import StripeTransfer.Proofs.Store.Client
import Mathlib

namespace StripeTransfer

open Text

namespace Client

variable {c : Client} {key : String}

/-- The path of an object behind that of the endpoint. -/
def objectPath (bucket key : String) : List Char :=
  '/' :: Percent.encodeChars bucket ++ '/' :: ['/'].intercalate (keySegments key)

/-- The object that a path behind that of an endpoint addresses: the bucket is what is encoded
between its first two slashes, and the names of the key are encoded between the slashes behind. -/
def object? : List Char → Option (String × String)
  | '/' :: s => do
    let (segment, rest) ← splitFirst '/' s
    let bucket ← Percent.text? segment
    let names ← (pieces '/' rest).mapM Percent.text?
    return (bucket, String.intercalate "/" names)
  | _ => none

theorem path_eq_append (c : Client) (bucket key : String) :
    c.path bucket key = withoutEndSlashes c.endpoint.path ++ objectPath bucket key := by
  rw [path, objectPath, Percent.encodePathChars, keySegments, String.toList_ofList, List.append_assoc]

/-- The segments of a key are read off the path. -/
theorem pieces_keySegments (key : String) :
    pieces '/' (['/'].intercalate (keySegments key)) = keySegments key := by
  rw [pieces_eq_splitOn]
  refine List.splitOn_intercalate '/' (fun s hs => ?_) (keySegments_ne_nil key)
  obtain ⟨p, -, rfl⟩ := List.mem_map.mp hs
  exact (Percent.kept_encodeChars _).slash_not_mem

/-- The names of a key are read back from its segments. -/
theorem mapM_keySegments (key : String) :
    (keySegments key).mapM Percent.text? =
      some ((pieces '/' (key.toList.dropWhile (· == '/'))).map String.ofList) := by
  have hread : (Percent.text? ∘ fun p => Percent.encodeChars (String.ofList p)) =
      (fun name => some name) ∘ String.ofList := funext fun p => Percent.text?_encodeChars _
  rw [keySegments, List.mapM_map, hread]
  exact List.mapM_pure

/-- The names between the slashes of a text make up the text. -/
theorem intercalate_pieces (s : List Char) :
    String.intercalate "/" ((pieces '/' s).map String.ofList) = String.ofList s := by
  have hnames : ((pieces '/' s).map String.ofList).map String.toList = pieces '/' s := by
    simp [Function.comp_def]
  have hslash : "/".toList = ['/'] := rfl
  rw [← String.toList_inj, String.toList_intercalate, hnames, hslash, String.toList_ofList,
    pieces_eq_splitOn, List.intercalate_splitOn]

/-- **Bucket and key are read back from the path of an object**, the slashes at the start of the key
apart. -/
theorem object?_objectPath (bucket key : String) :
    object? (objectPath bucket key) =
      some (bucket, String.ofList (key.toList.dropWhile (· == '/'))) := by
  have hbucket : '/' ∉ Percent.encodeChars bucket := (Percent.kept_encodeChars bucket).slash_not_mem
  simp only [object?, objectPath, List.cons_append, splitFirst_append hbucket,
    Percent.text?_encodeChars, pieces_keySegments, mapM_keySegments, intercalate_pieces,
    Option.bind_eq_bind, Option.bind_some, Option.pure_def]

/-- Slashes at the start of a key do not change the path. -/
theorem path_slashes (c : Client) (bucket key : String) (n : Nat) :
    c.path bucket (String.ofList (List.replicate n '/' ++ key.toList)) = c.path bucket key := by
  have hslash : ∀ a ∈ List.replicate n '/', (a == '/') = true := fun a ha =>
    beq_iff_eq.mpr (List.eq_of_mem_replicate ha)
  rw [path, path, String.toList_ofList, List.dropWhile_append_of_pos hslash]

/-- A key that does not start with a slash has none to lose. -/
theorem dropWhile_key (h : key.toList.head? ≠ some '/') :
    String.ofList (key.toList.dropWhile (· == '/')) = key := by
  rw [List.dropWhile_beq_eq_self_of_head?_ne h, String.ofList_toList]

/-- **No two objects share a path.**  Behind the path of the endpoint, that of an object is read as its
bucket and its key, if the key does not start with a slash; so objects with such keys and one path
agree in bucket and key.  Slashes put before the key change nothing. -/
theorem path_addresses (c : Client) (bucket : String) (h : key.toList.head? ≠ some '/') :
    (∃ rest, c.path bucket key = withoutEndSlashes c.endpoint.path ++ rest ∧
      object? rest = some (bucket, key)) ∧
    (∀ bucket' key' : String, key'.toList.head? ≠ some '/' →
      c.path bucket key = c.path bucket' key' → bucket = bucket' ∧ key = key') ∧
    ∀ n, c.path bucket (String.ofList (List.replicate n '/' ++ key.toList)) = c.path bucket key := by
  have hread {bucket key : String} (h : key.toList.head? ≠ some '/') :
      object? (objectPath bucket key) = some (bucket, key) := by
    rw [object?_objectPath, dropWhile_key h]
  refine ⟨⟨objectPath bucket key, path_eq_append c bucket key, hread h⟩, ?_, path_slashes c bucket key⟩
  intro bucket' key' h' hpath
  rw [path_eq_append, path_eq_append] at hpath
  have hobject := congrArg object? (List.append_cancel_left hpath)
  rw [hread h, hread h'] at hobject
  exact Prod.mk.inj (Option.some.inj hobject)

/-- Two objects with the same names between slashes, and a key with slashes before it. -/
theorem path_addresses_shelf :
    "dir/a b".toList.head? ≠ some '/' ∧ "b/dir/a b".toList.head? ≠ some '/' ∧
      shelf.path "a/b" "dir/a b" ≠ shelf.path "a" "b/dir/a b" ∧
      shelf.path "a/b" "//dir/a b" = "/shelf/a%2Fb/dir/a%20b".toList := by
  have hkey : "dir/a b".toList.head? ≠ some '/' := by decide
  have hkey' : "b/dir/a b".toList.head? ≠ some '/' := by decide
  obtain ⟨-, hunique, hslashes⟩ := path_addresses shelf "a/b" hkey
  refine ⟨hkey, hkey', fun hpath => ?_, (hslashes 2).trans (by decide +kernel)⟩
  exact absurd (hunique "a" "b/dir/a b" hkey' hpath).1 (by decide)

end Client

end StripeTransfer
