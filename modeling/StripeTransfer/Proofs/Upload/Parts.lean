/-
StripeTransfer/Proofs/Upload/Parts.lean

The parts of an upload, step by step.  The parts share a store and take turns in
any order, yet each of them goes its own way: what a part knows is the history of
the exchanges about it, and a step of one part leaves the histories of the others
as they were.

`Transmission.Sound` says what holds between any two turns.  A part was sent as
often as its history is long, always with the same body, and again only after a
reply without a tag; a part that has come to its end has reported how, and what
it has reported is borne out by its last reply (`PartEnd`).  One turn preserves
this, since there are only so many things that a part can do in a turn
(`PartTask.Does`, `Transmission.Sound.step`), and so do all turns of a schedule.
-/
import StripeTransfer.Proofs.Tasks
import StripeTransfer.Proofs.Upload.Exchange
import StripeTransfer.Upload.Session
import Mathlib

namespace StripeTransfer

/-! ### One part -/

/-- The ways in which a part comes to its end: `history` are the exchanges about it, the latest one
first, and at the end stands what the part returns. -/
inductive PartEnd (limit number : Nat) (body : Except RangeFailure ByteArray) :
    (history : List Exchange) → Except UploadError CompletedPart → Prop
  /-- The body cannot be read, and nothing was sent. -/
  | unread {e : UploadError} : body = .error (.error e) → PartEnd limit number body [] (.error e)
  /-- The last request brought an error. -/
  | rejected {x : Exchange} {xs : List Exchange} {e : UploadError} :
      partTag? x.answer = .error e → PartEnd limit number body (x :: xs) (.error e)
  /-- The last reply has a tag. -/
  | acknowledged {x : Exchange} {xs : List Exchange} {tag : String} :
      partTag? x.answer = .ok (some tag) → PartEnd limit number body (x :: xs) (.ok ⟨number, tag⟩)
  /-- No reply has a tag, and there is no further attempt. -/
  | exhausted {data : ByteArray} {history : List Exchange} : body = .ok data →
      (∀ x ∈ history, partTag? x.answer = .ok none) → history.length = limit →
      PartEnd limit number body history (.error (.partUntagged number limit))

namespace PartTask

variable {limit : Nat} {u : Upload} {uploadId : String} {history : List Exchange} {p : PartTask}

/-- What is known of a part between two turns, given the exchanges about it. -/
structure Sound (u : Upload) (uploadId : String) (history : List Exchange) (p : PartTask) : Prop where
  attempts_eq : p.attempts = history.length
  attempts_le : p.attempts ≤ u.attemptLimit
  request_eq : ∀ x ∈ history, ∃ body, p.body = .ok body ∧
    x.request = u.partRequest uploadId p.number body
  /-- A part was sent again only after a reply without a tag. -/
  untagged : ∀ x ∈ history.tail, partTag? x.answer = .ok none
  /-- After its first attempt, a part gets ready only for one that it has left. -/
  ready : p.stage = .ready → (p.attempts = 0 ∨ p.attempts < u.attemptLimit) ∧
    ∀ x ∈ history, partTag? x.answer = .ok none
  sent : ∀ answer, p.stage = .sent answer → ∃ x xs, history = x :: xs ∧ x.answer = answer

/-- A part that was not sent yet. -/
theorem Sound.initial (u : Upload) (uploadId : String) (number : Nat)
    (body : Except RangeFailure ByteArray) :
    Sound u uploadId [] ⟨number, body, 0, .ready⟩ where
  attempts_eq := rfl
  attempts_le := Nat.zero_le _
  request_eq _ hx := absurd hx List.not_mem_nil
  untagged _ hx := absurd hx List.not_mem_nil
  ready _ := ⟨Or.inl rfl, fun _ hx => absurd hx List.not_mem_nil⟩
  sent _ h := by cases h

/-- The things that a part can do in a turn, and when. -/
inductive Does (limit : Nat) (history : List Exchange) (p : PartTask) : PartStep → Prop
  | send {body : ByteArray} : p.stage = .ready → p.body = .ok body → p.attempts < limit →
      Does limit history p (.send body)
  | retry {answer : Except UploadError Reply} : p.stage = .sent answer → p.attempts < limit →
      (∀ x ∈ history, partTag? x.answer = .ok none) → Does limit history p .retry
  | lose : p.stage ≠ .ended → Does limit history p (.stop .lost)
  | stop {result : Except UploadError CompletedPart} : p.stage ≠ .ended →
      PartEnd limit p.number p.body history result → Does limit history p (.stop (p.returned result))
  | rest : p.stage = .ended → Does limit history p .rest

/-- A part that has no attempt left was sent as often as it may be. -/
theorem Sound.length_eq (h : p.Sound u uploadId history) (hlimit : ¬ p.attempts < u.attemptLimit) :
    history.length = u.attemptLimit := by
  rw [← h.attempts_eq]
  exact le_antisymm h.attempts_le (not_lt.mp hlimit)

/-- A part that is not lost does what its last reply, or its body, makes it do. -/
theorem Sound.does_next (h : p.Sound u uploadId history) :
    Does u.attemptLimit history p (p.next u.attemptLimit) := by
  unfold next
  split
  next hstage =>
    have hlive : p.stage ≠ .ended := by rw [hstage]; exact nofun
    split
    next body hbody =>
      split_ifs with hroom
      · exact .send hstage hbody hroom
      · exact .stop hlive (.exhausted hbody (h.ready hstage).2 (h.length_eq hroom))
    next e hbody =>
      -- a part that cannot be read was never sent
      refine .stop hlive ?_
      cases history with
      | nil => exact .unread hbody
      | cons x xs =>
        obtain ⟨body, hbody', -⟩ := h.request_eq x List.mem_cons_self
        rw [hbody] at hbody'
        cases hbody'
    next => exact .lose hlive
  next answer hstage =>
    have hlive : p.stage ≠ .ended := by rw [hstage]; exact nofun
    obtain ⟨x, xs, rfl, rfl⟩ := h.sent _ hstage
    split
    next e htag => exact .stop hlive (.rejected htag)
    next tag htag => exact .stop hlive (.acknowledged htag)
    next htag =>
      have huntagged : ∀ y ∈ x :: xs, partTag? y.answer = .ok none := by
        intro y hy
        rcases List.mem_cons.mp hy with rfl | hy
        · exact htag
        · exact h.untagged y hy
      split_ifs with hroom
      · exact .retry hstage hroom huntagged
      · obtain ⟨data, hbody, -⟩ := h.request_eq x List.mem_cons_self
        exact .stop hlive (.exhausted hbody huntagged (h.length_eq hroom))
  next hstage => exact .rest hstage

/-- **What a part can do in a turn.** -/
theorem Sound.does (h : p.Sound u uploadId history) (turn : Turn) :
    Does u.attemptLimit history p (turn.stepOf u.attemptLimit p) := by
  unfold Turn.stepOf
  split_ifs
  · unfold abandon
    split
    next hstage => exact .rest hstage
    next hstage => exact .lose hstage
  · exact h.does_next

end PartTask

/-! ### All parts -/

/-- What a part has reported, if it has come to its end. -/
structure PartTask.Reported (limit : Nat) (completions : List (Completion UploadError CompletedPart))
    (history : List Exchange) (place : Nat) (p : PartTask) : Prop where
  /-- What it has returned is borne out by the exchanges about it. -/
  returned : ∀ result, .returned place result ∈ completions →
    p.stage = .ended ∧ PartEnd limit p.number p.body history result
  /-- No part ends silently. -/
  ended : p.stage = .ended →
    .lost ∈ completions ∨ ∃ result, .returned place result ∈ completions

namespace Transmission

variable {u : Upload} {store : Store} {uploadId : String} {x : Transmission} {place : Nat}
  {p : PartTask}

/-- What holds between any two turns. -/
structure Sound (u : Upload) (store : Store) (uploadId : String) (x : Transmission) : Prop where
  number_eq : ∀ (i : Nat) (p : PartTask), x.parts[i]? = some p → p.number = i + 1
  part : ∀ (i : Nat) (p : PartTask), x.parts[i]? = some p →
    p.Sound u uploadId (store.history x.traffic.log (i + 1))
  reported : ∀ (i : Nat) (p : PartTask), x.parts[i]? = some p →
    p.Reported u.attemptLimit x.completions (store.history x.traffic.log (i + 1)) i
  returned_lt : ∀ (i : Nat) (result : Except UploadError CompletedPart),
    .returned i result ∈ x.completions → i < x.parts.length

/-- A change at one place is sound, if the part there is, and the other parts do not notice. -/
theorem Sound.update (h : x.Sound u store uploadId) (hp : x.parts[place]? = some p) {q : PartTask}
    {completions : List (Completion UploadError CompletedPart)} {traffic : Traffic}
    (hnumber : q.number = p.number)
    (hpart : q.Sound u uploadId (store.history traffic.log (place + 1)))
    (hreported : q.Reported u.attemptLimit completions
      (store.history traffic.log (place + 1)) place)
    (hhistory : ∀ i ≠ place,
      store.history traffic.log (i + 1) = store.history x.traffic.log (i + 1))
    (hcompletions : ∀ c ∈ x.completions, c ∈ completions)
    (hreturned : ∀ i ≠ place, ∀ result, .returned i result ∈ completions →
      .returned i result ∈ x.completions) :
    Sound u store uploadId ⟨x.parts.set place q, completions, traffic⟩ := by
  obtain ⟨hlt, -⟩ := List.getElem?_eq_some_iff.mp hp
  -- what is at a place afterwards is the new part, or what was there before
  have hset : ∀ (i : Nat) (r : PartTask), (x.parts.set place q)[i]? = some r →
      (i = place ∧ r = q) ∨ (i ≠ place ∧ x.parts[i]? = some r) := by
    intro i r hr
    by_cases hi : i = place
    · subst hi
      rw [List.getElem?_set_self hlt] at hr
      exact Or.inl ⟨rfl, (Option.some.inj hr).symm⟩
    · rw [List.getElem?_set_ne (Ne.symm hi)] at hr
      exact Or.inr ⟨hi, hr⟩
  refine ⟨?_, ?_, ?_, ?_⟩
  · intro i r hr
    rcases hset i r hr with ⟨rfl, rfl⟩ | ⟨-, hr⟩
    · rw [hnumber]
      exact h.number_eq i p hp
    · exact h.number_eq i r hr
  · intro i r hr
    rcases hset i r hr with ⟨rfl, rfl⟩ | ⟨hi, hr⟩
    · exact hpart
    · show r.Sound u uploadId (store.history traffic.log (i + 1))
      rw [hhistory i hi]
      exact h.part i r hr
  · intro i r hr
    rcases hset i r hr with ⟨rfl, rfl⟩ | ⟨hi, hr⟩
    · exact hreported
    · show r.Reported u.attemptLimit completions (store.history traffic.log (i + 1)) i
      rw [hhistory i hi]
      obtain ⟨hold, hended⟩ := h.reported i r hr
      refine ⟨fun result hresult => hold result (hreturned i hi result hresult), fun hstage => ?_⟩
      rcases hended hstage with hlost | ⟨result, hresult⟩
      · exact Or.inl (hcompletions _ hlost)
      · exact Or.inr ⟨result, hcompletions _ hresult⟩
  · intro i result hresult
    show i < (x.parts.set place q).length
    rw [List.length_set]
    by_cases hi : i = place
    · exact hi ▸ hlt
    · exact h.returned_lt i result (hreturned i hi result hresult)

/-- A part that is under way has returned nothing. -/
theorem Sound.not_returned (h : x.Sound u store uploadId) (hp : x.parts[place]? = some p)
    (hlive : p.stage ≠ .ended) (result : Except UploadError CompletedPart) :
    .returned place result ∉ x.completions := by
  intro hresult
  exact hlive ((h.reported place p hp).returned result hresult).1

/-- A part sends its body: its history grows by one exchange, and no other history changes. -/
theorem Sound.send (h : x.Sound u store uploadId) (hp : x.parts[place]? = some p)
    {body : ByteArray} (hstage : p.stage = .ready) (hbody : p.body = .ok body)
    (hroom : p.attempts < u.attemptLimit) :
    (u.perform store uploadId x place p (.send body)).Sound u store uploadId := by
  have hnumber := h.number_eq place p hp
  have hpart := h.part place p hp
  have hlive : p.stage ≠ .ended := by rw [hstage]; exact nofun
  have hself : store.history (u.partRequest uploadId p.number body :: x.traffic.log) (place + 1) =
      ⟨u.partRequest uploadId p.number body,
        store x.traffic.log (u.partRequest uploadId p.number body)⟩ ::
        store.history x.traffic.log (place + 1) := by
    rw [← hnumber]
    exact Store.history_part
  refine h.update hp ?_ ?_ ?_ ?_ ?_ ?_
  · rfl
  · -- the attempts and the history grow together, and all replies before were without a tag
    show PartTask.Sound u uploadId (store.history (_ :: x.traffic.log) (place + 1)) _
    rw [hself]
    refine ⟨?_, hroom, ?_, (hpart.ready hstage).2, nofun, ?_⟩
    · rw [List.length_cons, ← hpart.attempts_eq]
    · intro y hy
      rcases List.mem_cons.mp hy with rfl | hy
      · exact ⟨body, hbody, rfl⟩
      · exact hpart.request_eq y hy
    · rintro answer ⟨⟩
      exact ⟨_, _, rfl, rfl⟩
  · exact ⟨fun result hresult => absurd hresult (h.not_returned hp hlive result), nofun⟩
  · intro i hi
    apply Store.history_part_of_ne
    omega
  · exact fun c hc => hc
  · exact fun i _ result hresult => hresult

/-- A part gives up a reply without a tag, to send its body once more. -/
theorem Sound.retry (h : x.Sound u store uploadId) (hp : x.parts[place]? = some p)
    {answer : Except UploadError Reply} (hstage : p.stage = .sent answer)
    (hroom : p.attempts < u.attemptLimit)
    (huntagged : ∀ y ∈ store.history x.traffic.log (place + 1), partTag? y.answer = .ok none) :
    (u.perform store uploadId x place p .retry).Sound u store uploadId := by
  have hpart := h.part place p hp
  have hlive : p.stage ≠ .ended := by rw [hstage]; exact nofun
  refine h.update hp ?_ ?_ ?_ ?_ ?_ ?_
  · rfl
  · exact ⟨hpart.attempts_eq, hpart.attempts_le, hpart.request_eq, hpart.untagged,
      fun _ => ⟨Or.inr hroom, huntagged⟩, nofun⟩
  · exact ⟨fun result hresult => absurd hresult (h.not_returned hp hlive result), nofun⟩
  · exact fun i _ => rfl
  · exact fun c hc => hc
  · exact fun i _ result hresult => hresult

/-- A part comes to its end and says how. -/
theorem Sound.stop (h : x.Sound u store uploadId) (hp : x.parts[place]? = some p)
    (hlive : p.stage ≠ .ended) {c : Completion UploadError CompletedPart}
    (hc : c = .lost ∨ ∃ result, c = .returned place result ∧
      PartEnd u.attemptLimit p.number p.body (store.history x.traffic.log (place + 1)) result) :
    (u.perform store uploadId x place p (.stop c)).Sound u store uploadId := by
  have hpart := h.part place p hp
  refine h.update hp ?_ ?_ ?_ ?_ ?_ ?_
  · rfl
  · exact ⟨hpart.attempts_eq, hpart.attempts_le, hpart.request_eq, hpart.untagged, nofun, nofun⟩
  · constructor
    · intro result hresult
      refine ⟨rfl, ?_⟩
      rcases List.mem_cons.mp hresult with hnew | hold
      · rcases hc with rfl | ⟨result', rfl, hend⟩
        · cases hnew
        · obtain ⟨-, rfl⟩ := Completion.returned.inj hnew
          exact hend
      · -- a part that was under way had returned nothing before
        exact absurd hold (h.not_returned hp hlive result)
    · intro _
      rcases hc with rfl | ⟨result, rfl, -⟩
      · exact Or.inl List.mem_cons_self
      · exact Or.inr ⟨result, List.mem_cons_self⟩
  · exact fun i _ => rfl
  · exact fun d hd => List.mem_cons_of_mem c hd
  · intro i hi result hresult
    rcases List.mem_cons.mp hresult with hnew | hold
    · rcases hc with rfl | ⟨result', rfl, -⟩
      · cases hnew
      · exact absurd (Completion.returned.inj hnew).1 hi
    · exact hold

/-- **One turn preserves the invariant.** -/
theorem Sound.step (h : x.Sound u store uploadId) (turn : Turn) :
    (u.step store uploadId x turn).Sound u store uploadId := by
  unfold Upload.step
  split
  next => exact h
  next p hp =>
    have hdoes := (h.part turn.place p hp).does turn
    generalize turn.stepOf u.attemptLimit p = s at hdoes ⊢
    cases hdoes with
    | send hstage hbody hroom => exact h.send hp hstage hbody hroom
    | retry hstage hroom huntagged => exact h.retry hp hstage hroom huntagged
    -- a part that is lost ends without a result of its own
    | lose hlive => exact h.stop hp hlive (Or.inl rfl)
    | stop hlive hend =>
      refine h.stop hp hlive (Or.inr ⟨_, ?_, hend⟩)
      rw [PartTask.returned, h.number_eq turn.place p hp, Nat.add_sub_cancel]
    | rest => exact h

/-- **Any turns preserve the invariant.** -/
theorem Sound.after (h : x.Sound u store uploadId) (turns : List Turn) :
    (u.after store uploadId x turns).Sound u store uploadId := by
  induction turns generalizing x with
  | nil => exact h
  | cons turn rest ih => exact ih (h.step turn)

end Transmission

end StripeTransfer
