/-
StripeTransfer/Proofs/Upload/Script.lean

Stores that follow a script.  Such a store answers a request by what it asks for
and by how often it was asked for that before, and by nothing else
(`Store.Follows`).  So the parts cannot notice each other: the replies to a part
are the first lines of its own script, however many requests for other parts come
in between (`Store.Follows.answer_eq`).

A part of a script that has a reply with a tag stops there (`FirstTag`): if it
was acknowledged, then by this reply (`PartTask.Sound.firstTag`), and it cannot
come to its end in another way (`PartEnd.ne_error`).
-/
import StripeTransfer.Proofs.Upload.Parts
import Mathlib

namespace StripeTransfer

/-- What a store replies to the requests for an operation, the first one first. -/
abbrev Script : Type := Operation → Nat → Except UploadError Reply

namespace Store

/-- The store replies to a request by its operation and by the number of earlier requests for that. -/
def Follows (store : Store) (script : Script) : Prop :=
  ∀ log r, store log r = script r.operation (log.countP fun q => q.operation = r.operation)

/-- The store of a script. -/
def ofScript (script : Script) : Store := fun log r =>
  script r.operation (log.countP fun q => q.operation = r.operation)

theorem follows_ofScript (script : Script) : (ofScript script).Follows script := fun _ _ => rfl

variable {store : Store} {script : Script} {log : List Request} {number : Nat}

/-- The requests in the history of a part are those for it in the log. -/
theorem map_request_history (store : Store) (log : List Request) (number : Nat) :
    (store.history log number).map Exchange.request =
      log.filter fun r => r.operation = .part (toString number) := by
  conv_rhs => rw [← map_request_exchanges store log, List.filter_map]
  rfl

/-- **The replies to a part are the first lines of its script**, the latest one first. -/
theorem Follows.answer_eq (h : store.Follows script) {y : Exchange} {ys : List Exchange}
    (hhistory : y :: ys <:+ store.history log number) :
    y.answer = script (.part (toString number)) ys.length := by
  induction log with
  | nil => simp [history] at hhistory
  | cons r log ih =>
    by_cases hr : r.operation = .part (toString number)
    · have hcons : store.history (r :: log) number = ⟨r, store log r⟩ :: store.history log number := by
        rw [history, exchanges_cons, List.filter_cons_of_pos]
        · rfl
        · simpa using hr
      rw [hcons] at hhistory
      rcases List.suffix_cons_iff.mp hhistory with heq | hsuffix
      · -- the latest reply: there were as many requests for the part as replies before it
        obtain ⟨rfl, rfl⟩ := List.cons.inj heq
        show store log r = _
        rw [h log r, hr, length_history, List.countP_eq_length_filter]
      · exact ih hsuffix
    · rw [history_cons_of_ne hr] at hhistory
      exact ih hhistory

/-- What has come back for the part of a number so far are the first of some replies, in their
order. -/
def Replied (store : Store) (log : List Request) (number : Nat)
    (replies : Nat → Except UploadError Reply) : Prop :=
  ∀ y ys, y :: ys <:+ store.history log number → y.answer = replies ys.length

/-- A part gets the lines of its script. -/
theorem Follows.replied (h : store.Follows script) :
    store.Replied log number (script (.part (toString number))) := fun _ _ => h.answer_eq

/-- The latest reply to a part is the one after all earlier ones. -/
theorem Replied.latest_eq {replies : Nat → Except UploadError Reply}
    (h : store.Replied log number replies) {y : Exchange} {ys : List Exchange}
    (hhistory : store.history log number = y :: ys) : y.answer = replies ys.length := by
  have hsuffix : y :: ys <:+ store.history log number := by rw [hhistory]
  exact h y ys hsuffix

/-- The replies before any exchange of a part have come back to exchanges before it. -/
theorem Replied.exists_answer {replies : Nat → Except UploadError Reply}
    (h : store.Replied log number replies) {xs : List Exchange}
    (hxs : xs <:+ store.history log number) {i : Nat} (hi : i < xs.length) :
    ∃ y ∈ xs, y.answer = replies i := by
  -- the exchange that has `i` others before it
  have hlt : xs.length - 1 - i < xs.length := by omega
  have hdrop := List.drop_eq_getElem_cons hlt
  have hlength : (xs.drop (xs.length - 1 - i + 1)).length = i := by
    rw [List.length_drop]
    omega
  have hanswer := h _ _ (hdrop ▸ (List.drop_suffix (xs.length - 1 - i) xs).trans hxs)
  rw [hlength] at hanswer
  exact ⟨_, List.getElem_mem hlt, hanswer⟩

end Store

/-! ### The first reply with a tag -/

/-- The first of some replies that has a tag comes after `k` replies without one. -/
structure FirstTag (replies : Nat → Except UploadError Reply) (k : Nat) (tag : String) : Prop where
  tagged : partTag? (replies k) = .ok (some tag)
  untagged : ∀ i < k, partTag? (replies i) = .ok none

theorem FirstTag.unique {replies : Nat → Except UploadError Reply} {k k' : Nat} {tag tag' : String}
    (h : FirstTag replies k tag) (h' : FirstTag replies k' tag') : k = k' ∧ tag = tag' := by
  have hk : k = k' := by
    rcases Nat.lt_trichotomy k k' with hlt | heq | hlt
    · have hnone := h'.untagged k hlt
      rw [h.tagged] at hnone
      cases hnone
    · exact heq
    · have hnone := h.untagged k' hlt
      rw [h'.tagged] at hnone
      cases hnone
  subst hk
  have htag := h.tagged
  rw [h'.tagged] at htag
  exact ⟨rfl, (Option.some.inj (Except.ok.inj htag)).symm⟩

section

variable {u : Upload} {store : Store} {script : Script} {uploadId : String} {log : List Request}
  {number k : Nat} {p : PartTask} {y : Exchange} {ys : List Exchange} {tag : String}

/-- All replies to a part but the last are without a tag. -/
theorem PartTask.Sound.untagged_replies {replies : Nat → Except UploadError Reply}
    (h : p.Sound u uploadId (store.history log number)) (hreplied : store.Replied log number replies)
    (hhistory : store.history log number = y :: ys) :
    ∀ i < ys.length, partTag? (replies i) = .ok none := by
  intro i hi
  have hearlier : ys <:+ store.history log number := hhistory ▸ List.suffix_cons y ys
  obtain ⟨x, hx, hanswer⟩ := hreplied.exists_answer hearlier hi
  rw [← hanswer]
  apply h.untagged
  rw [hhistory]
  exact hx

/-- **A part that was acknowledged has come to the first reply with a tag**, and within its
attempts. -/
theorem PartTask.Sound.firstTag (h : p.Sound u uploadId (store.history log number))
    (hstore : store.Follows script) (hhistory : store.history log number = y :: ys)
    (htag : partTag? y.answer = .ok (some tag)) :
    FirstTag (script (.part (toString number))) ys.length tag ∧ ys.length < u.attemptLimit := by
  refine ⟨⟨?_, h.untagged_replies hstore.replied hhistory⟩, ?_⟩
  · rw [← hstore.replied.latest_eq hhistory]
    exact htag
  · have hattempts := h.attempts_eq
    have hle := h.attempts_le
    rw [hhistory, List.length_cons] at hattempts
    omega

/-- **A part with a body that gets a tag within its attempts does not fail.** -/
theorem PartEnd.ne_error {body : ByteArray} {e : UploadError}
    (hend : PartEnd u.attemptLimit number (.ok body) (store.history log number) (.error e))
    (h : p.Sound u uploadId (store.history log number)) (hstore : store.Follows script)
    (hfirst : FirstTag (script (.part (toString number))) k tag) (hk : k < u.attemptLimit) :
    False := by
  generalize hhistory : store.history log number = history at hend
  cases hend with
  | unread hbody => cases hbody
  | @rejected y ys e htag =>
    -- the reply with an error would come before the one with the tag, or be that reply
    have huntagged := h.untagged_replies hstore.replied hhistory
    rw [hstore.replied.latest_eq hhistory] at htag
    rcases Nat.lt_trichotomy k ys.length with hlt | rfl | hlt
    · have hnone := huntagged k hlt
      rw [hfirst.tagged] at hnone
      cases hnone
    · rw [hfirst.tagged] at htag
      cases htag
    · rw [hfirst.untagged _ hlt] at htag
      cases htag
  | exhausted hbody huntagged hlength =>
    -- all replies up to the limit would be without a tag
    obtain ⟨y, hy, hanswer⟩ := hstore.replied.exists_answer (List.suffix_refl _)
      (show k < (store.history log number).length by rwa [hhistory, hlength])
    have hnone := huntagged y (hhistory ▸ hy)
    rw [hanswer, hfirst.tagged] at hnone
    cases hnone

/-- **The requests for a part are all the same**: its number and its body. -/
theorem Transmission.Sound.requests_eq {x : Transmission} (h : x.Sound u store uploadId) {i : Nat}
    (hp : x.parts[i]? = some p) {body : ByteArray} (hbody : p.body = .ok body) :
    (x.traffic.log.filter fun r => r.operation = .part (toString (i + 1))) =
      List.replicate (store.history x.traffic.log (i + 1)).length
        (u.partRequest uploadId (i + 1) body) := by
  rw [← Store.map_request_history store, List.eq_replicate_iff, List.length_map]
  refine ⟨rfl, fun r hr => ?_⟩
  obtain ⟨y, hy, rfl⟩ := List.mem_map.mp hr
  obtain ⟨body', hbody', hrequest⟩ := (h.part i p hp).request_eq y hy
  obtain rfl := Except.ok.inj (hbody.symm.trans hbody')
  rw [hrequest, h.number_eq i p hp]

end

end StripeTransfer
