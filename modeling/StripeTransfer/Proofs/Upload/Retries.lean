/-
StripeTransfer/Proofs/Upload/Retries.lean

How often parts are sent again.  All parts share one counter, which a part
increases when it gives up a reply to send its body once more.  So the counter is
ahead by what each part has given up so far (`PartTask.resent`), whatever the
order of the turns (`Transmission.Sound.exists_resent`); only what a lost part has
given up can no longer be told from its attempts (`Transmission.Counted`).  The
counter is a word of 32 bits, and all of this is said of what such a word keeps.

When all parts have come to their end and none was lost, the counter has grown by
the requests for each part but one (`Upload.Transmitted.retries_eq`).  No part is
lost whose body can be read, unless a turn of the schedule loses it
(`Upload.lost_not_mem_transmission`).
-/
import StripeTransfer.Proofs.Number.Word
import StripeTransfer.Proofs.Upload.Course
import Mathlib

namespace StripeTransfer

variable {u : Upload} {store : Store} {uploadId : String} {x : Transmission} {place : Nat}
  {p : PartTask}

/-! ### What holds after any turns -/

namespace Upload

variable {P : Transmission → Prop}

theorem toEnd_induction (hstep : ∀ x, P x → P (u.step store uploadId x ⟨place, false⟩)) (fuel : Nat)
    (h : P x) : P (u.toEnd store uploadId place fuel x) := by
  induction fuel generalizing x with
  | zero => exact h
  | succ fuel ih =>
    unfold toEnd
    split_ifs
    · exact h
    · exact ih (hstep x h)

theorem finish_induction
    (hstep : ∀ place x, P x → P (u.step store uploadId x ⟨place, false⟩)) (drain : Bool)
    (places : List Nat) (h : P x) : P (u.finish store uploadId drain places x) := by
  induction places generalizing x with
  | nil => exact h
  | cons place rest ih =>
    unfold finish
    split_ifs
    · exact h
    · exact ih (toEnd_induction (hstep place) _ h)

/-- **What the turns of a schedule and all further turns preserve holds when the parts were sent.**
No further turn loses a part. -/
theorem transmit_induction {schedule : Schedule} {parts : List PartTask} {t : Traffic}
    (hstep : ∀ turn x, (turn ∈ schedule.turns ∨ turn.lost = false) → P x →
      P (u.step store uploadId x turn))
    (h : P ⟨parts, [], t⟩) : P (u.transmit store uploadId schedule parts t) := by
  refine finish_induction (fun place x => hstep ⟨place, false⟩ x (Or.inr rfl)) _ _ ?_
  have hturns : ∀ turns : List Turn, (∀ turn ∈ turns, turn ∈ schedule.turns) → ∀ x, P x →
      P (u.after store uploadId x turns) := by
    intro turns
    induction turns with
    | nil => exact fun _ x hx => hx
    | cons turn rest ih =>
      intro hmem x hx
      exact ih (fun turn hturn => hmem turn (List.mem_cons_of_mem _ hturn)) _
        (hstep turn x (Or.inl (hmem turn List.mem_cons_self)) hx)
  exact hturns schedule.turns (fun _ hturn => hturn) _ h

end Upload

/-- A part is lost on its own only before it was sent, when its range cannot be had. -/
theorem PartTask.next_eq_lost {limit : Nat} (h : p.next limit = .stop .lost) :
    p.stage = .ready ∧ p.body = .error .outOfBounds := by
  unfold next at h
  split at h
  next hstage =>
    split at h
    next => split_ifs at h; simp [returned] at h
    next => simp [returned] at h
    next hbody => exact ⟨hstage, hbody⟩
  next =>
    split at h
    next => simp [returned] at h
    next => simp [returned] at h
    next =>
      split_ifs at h
      simp [returned] at h
  next => cases h

/-! ### Counting -/

/-- How often a part has given up a reply, as far as its attempts tell. -/
def PartTask.resent (p : PartTask) : Nat :=
  match p.stage with
  | .ready => p.attempts
  | _ => p.attempts - 1

theorem PartTask.resent_of_ended (h : p.stage = .ended) : p.resent = p.attempts - 1 := by
  rw [resent, h]

/-- A part that is not lost comes to its end from a reply, or before it was sent at all. -/
theorem PartTask.Sound.resent_of_end {history : List Exchange}
    {result : Except UploadError CompletedPart} (h : p.Sound u uploadId history)
    (hend : PartEnd u.attemptLimit p.number p.body history result) :
    p.resent = p.attempts - 1 := by
  unfold resent
  split
  next hstage =>
    -- while a part is ready, all of its replies are without a tag
    obtain ⟨hroom, huntagged⟩ := h.ready hstage
    have hattempts := h.attempts_eq
    cases hend with
    | unread => rw [hattempts]; rfl
    | rejected htag =>
      rw [huntagged _ List.mem_cons_self] at htag
      cases htag
    | acknowledged htag =>
      rw [huntagged _ List.mem_cons_self] at htag
      cases htag
    -- it has attempts left, unless there are none at all
    | exhausted hbody huntagged hlength => omega
  next => rfl

/-- A part that gives up some replies adds to the sum what it gives up. -/
theorem sum_resent_set {parts : List PartTask} (hp : parts[place]? = some p) {q : PartTask} {n : Nat}
    (hq : q.resent = p.resent + n) : ((parts.set place q).map PartTask.resent).sum =
      (parts.map PartTask.resent).sum + n := by
  induction parts generalizing place with
  | nil => cases hp
  | cons first rest ih =>
    cases place with
    | zero =>
      obtain rfl := Option.some.inj hp
      simp only [List.set_cons_zero, List.map_cons, List.sum_cons]
      omega
    | succ place =>
      have hrest := ih (by simpa using hp)
      simp only [List.set_cons_succ, List.map_cons, List.sum_cons]
      omega

/-- A part that cannot be read is not sent. -/
theorem PartTask.Sound.attempts_of_unread {history : List Exchange} {failure : RangeFailure}
    (h : p.Sound u uploadId history) (hbody : p.body = .error failure) : p.attempts = 0 := by
  rw [h.attempts_eq, List.length_eq_zero_iff, List.eq_nil_iff_forall_not_mem]
  intro y hy
  obtain ⟨body, hbody', -⟩ := h.request_eq y hy
  rw [hbody] at hbody'
  cases hbody'

namespace Transmission

/-- Unless a part was lost, the counter is ahead of where it began by what the parts have given
up. -/
def Counted (before : Nat) (x : Transmission) : Prop :=
  .lost ∈ x.completions ∨
    x.traffic.retries = Word.wrap32 (before + (x.parts.map PartTask.resent).sum)

/-- **In one turn, the counter grows by what the part gives up**, one reply at most, unless the part
is lost. -/
theorem Sound.exists_resent (h : x.Sound u store uploadId) {turn : Turn}
    (hp : x.parts[turn.place]? = some p) : ∃ q n,
      (u.step store uploadId x turn).parts = x.parts.set turn.place q ∧ n ≤ 1 ∧
      (∀ count, x.traffic.retries = Word.wrap32 count →
        (u.step store uploadId x turn).traffic.retries = Word.wrap32 (count + n)) ∧
      (q.resent = p.resent + n ∨
        turn.lost = true ∧ .lost ∈ (u.step store uploadId x turn).completions) := by
  have hpart := h.part turn.place p hp
  have hdoes := hpart.does turn
  rw [Upload.step_eq hp]
  cases hs : turn.stepOf u.attemptLimit p with
  | send body =>
    rw [hs] at hdoes
    cases hdoes with
    | send hstage hbody hroom =>
      exact ⟨_, 0, rfl, Nat.zero_le 1, fun _ => id, Or.inl (by simp [PartTask.resent, hstage])⟩
  | retry =>
    rw [hs] at hdoes
    cases hdoes with
    | retry hstage hroom huntagged =>
      -- a part that has a reply was sent at least once
      obtain ⟨y, ys, hhistory, -⟩ := hpart.sent _ hstage
      have hsent := hpart.attempts_eq
      rw [hhistory, List.length_cons] at hsent
      refine ⟨_, 1, rfl, le_rfl, ?_, Or.inl (by simp [PartTask.resent, hstage, hsent])⟩
      intro count hcount
      show Word.wrap32 (x.traffic.retries + 1) = _
      rw [hcount, Word.wrap32_add]
  | stop c =>
    rw [hs] at hdoes
    refine ⟨_, 0, rfl, Nat.zero_le 1, fun _ => id, ?_⟩
    cases hdoes with
    | stop hlive hend => exact Or.inl (hpart.resent_of_end hend).symm
    | lose hlive =>
      cases hlost : turn.lost with
      | true => exact Or.inr ⟨rfl, List.mem_cons_self⟩
      | false =>
        -- a part that is lost on its own was never sent
        rw [Turn.stepOf, hlost, if_neg Bool.false_ne_true] at hs
        obtain ⟨hstage, hbody⟩ := PartTask.next_eq_lost hs
        have hattempts := hpart.attempts_of_unread hbody
        exact Or.inl (by simp [PartTask.resent, hstage, hattempts])
  | rest =>
    obtain ⟨hlt, rfl⟩ := List.getElem?_eq_some_iff.mp hp
    exact ⟨_, 0, (List.set_getElem_self hlt).symm, Nat.zero_le 1, fun _ => id, Or.inl rfl⟩

/-- **One turn keeps the count.** -/
theorem Counted.step {before : Nat} (h : x.Counted before) (hsound : x.Sound u store uploadId)
    (turn : Turn) : (u.step store uploadId x turn).Counted before := by
  cases hp : x.parts[turn.place]? with
  | none =>
    rw [Upload.step_of_none hp]
    exact h
  | some p =>
    rcases h with hlost | hcount
    · exact Or.inl (Upload.mem_completions_step hlost turn)
    · obtain ⟨q, n, hparts, -, hretries, hq | ⟨-, hlost⟩⟩ := hsound.exists_resent hp
      · exact Or.inr (by rw [hretries _ hcount, hparts, sum_resent_set hp hq, Nat.add_assoc])
      · exact Or.inl hlost

end Transmission

namespace Upload

variable {schedule : Schedule} {source : PartSource} {plan : Plan}

/-- **The shared counter counts the retries of all parts**, in whatever order they take turns. -/
theorem counted_transmission (u : Upload) (store : Store) (uploadId : String) (schedule : Schedule)
    (source : PartSource) (plan : Plan) :
    (u.transmission store uploadId schedule source plan).Counted 0 := by
  have hcounted : (u.transmission store uploadId schedule source plan).Sound u store uploadId ∧
      (u.transmission store uploadId schedule source plan).Counted 0 := by
    refine transmit_induction (P := fun x => x.Sound u store uploadId ∧ x.Counted 0)
      (fun turn x _ hx => ⟨hx.1.step turn, hx.2.step hx.1 turn⟩)
      ⟨sound_partTasks source plan, Or.inr ?_⟩
    -- no part was sent yet
    have hzero : ∀ n ∈ (partTasks source plan).map PartTask.resent, n = 0 := by
      intro n hn
      simp only [partTasks, List.map_map, List.mem_map] at hn
      obtain ⟨a, -, rfl⟩ := hn
      rfl
    show 0 = Word.wrap32 (0 + ((partTasks source plan).map PartTask.resent).sum)
    rw [List.sum_eq_zero hzero]
    rfl
  exact hcounted.2

/-- **When all parts have come to their end and none was lost, every part was sent again once for
each request but one.** -/
theorem Transmitted.retries_eq (h : Transmitted u store uploadId source plan x)
    (hcounted : x.Counted 0) (hlost : .lost ∉ x.completions) (hended : ∀ i, x.endedAt i = true) :
    x.traffic.retries = Word.wrap32 ((List.range plan.workerCount).map fun i =>
      (store.history x.traffic.log (i + 1)).length - 1).sum := by
  have hresent : x.parts.map PartTask.resent = (List.range plan.workerCount).map fun i =>
      (store.history x.traffic.log (i + 1)).length - 1 := by
    apply List.ext_getElem?
    intro i
    rw [List.getElem?_map, List.getElem?_map, ← h.length_parts]
    by_cases hi : i < x.parts.length
    · have hp := List.getElem?_eq_getElem hi
      have hstage := PartTask.hasEnded_iff.mp (endedAt_iff.mp (hended i) _ hp)
      rw [hp, List.getElem?_range hi, Option.map_some, Option.map_some,
        PartTask.resent_of_ended hstage, (h.sound.part i _ hp).attempts_eq]
    · rw [List.getElem?_eq_none (not_lt.mp hi),
        List.getElem?_eq_none (by rw [List.length_range]; exact not_lt.mp hi)]
      rfl
  rw [← hresent, hcounted.resolve_left hlost, Nat.zero_add]

end Upload

/-! ### Parts that are not lost -/

/-- A schedule of which no turn loses a part. -/
def Schedule.Lossless (schedule : Schedule) : Prop := ∀ turn ∈ schedule.turns, turn.lost = false

instance (schedule : Schedule) : Decidable schedule.Lossless :=
  inferInstanceAs (Decidable (∀ turn ∈ schedule.turns, turn.lost = false))

namespace Upload

variable {schedule : Schedule} {source : PartSource} {plan : Plan}

theorem lost_not_mem_step {turn : Turn} (hturn : turn.lost = false)
    (hbodies : ∀ p ∈ x.parts, ∃ body, p.body = .ok body) (hlost : .lost ∉ x.completions) :
    .lost ∉ (u.step store uploadId x turn).completions := by
  unfold step
  split
  next => exact hlost
  next p hp =>
    obtain ⟨body, hbody⟩ := hbodies p (List.mem_of_getElem? hp)
    have hnext : turn.stepOf u.attemptLimit p ≠ .stop .lost := by
      rw [Turn.stepOf, hturn, if_neg Bool.false_ne_true]
      intro hlost
      rw [(PartTask.next_eq_lost hlost).2] at hbody
      cases hbody
    cases hs : turn.stepOf u.attemptLimit p with
    | stop c =>
      rw [hs] at hnext
      intro hmem
      rcases List.mem_cons.mp hmem with rfl | hmem
      · exact hnext rfl
      · exact hlost hmem
    | send | retry | rest => exact hlost

/-- **No part is lost**, if all bodies can be read and no turn of the schedule loses one. -/
theorem lost_not_mem_transmission (u : Upload) (store : Store) (uploadId : String)
    (hschedule : schedule.Lossless)
    (hbodies : ∀ p ∈ partTasks source plan, ∃ body, p.body = .ok body) :
    .lost ∉ (u.transmission store uploadId schedule source plan).completions := by
  have hpayload (y z : Transmission)
      (h : y.parts.map PartTask.payload = z.parts.map PartTask.payload)
      (hz : ∀ p ∈ z.parts, ∃ body, p.body = .ok body) : ∀ p ∈ y.parts, ∃ body, p.body = .ok body := by
    intro p hp
    have hmem : p.payload ∈ z.parts.map PartTask.payload := h ▸ List.mem_map_of_mem hp
    obtain ⟨q, hq, heq⟩ := List.mem_map.mp hmem
    obtain ⟨body, hbody⟩ := hz q hq
    exact ⟨body, (Prod.mk.inj heq).2.symm.trans hbody⟩
  have hboth : (∀ p ∈ (u.transmission store uploadId schedule source plan).parts,
      ∃ body, p.body = .ok body) ∧
      .lost ∉ (u.transmission store uploadId schedule source plan).completions := by
    refine transmit_induction (P := fun x =>
      (∀ p ∈ x.parts, ∃ body, p.body = .ok body) ∧ .lost ∉ x.completions) ?_
      ⟨hbodies, List.not_mem_nil⟩
    rintro turn x hturn ⟨hx, hlost⟩
    have hfound : turn.lost = false := hturn.elim (hschedule turn) id
    exact ⟨hpayload _ x (map_payload_step x turn) hx, lost_not_mem_step hfound hx hlost⟩
  exact hboth.2

end Upload

end StripeTransfer
