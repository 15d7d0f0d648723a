/-
StripeTransfer/Proofs/Upload/Transmission.lean

All turns of the parts together.  However the parts are let go on, they take
turns one after the other (`Upload.exists_turns_transmit`), so what one turn
preserves holds throughout: the parts keep their numbers and bodies, nothing is
sent but requests for parts (`Upload.log_after`), and a part that has come to its
end does nothing more.

Every turn of a part that is under way brings it nearer to its end
(`Upload.rank_step_lt`).  Therefore all parts have come to their end when the
uploader has waited for them, unless one has failed (`Upload.endedAt_transmit`).
-/
import StripeTransfer.Proofs.Upload.Parts
import Mathlib

namespace StripeTransfer

variable {u : Upload} {store : Store} {uploadId : String} {x : Transmission} {place : Nat}
  {p : PartTask}

/-! ### What never changes -/

/-- The number and the body of a part. -/
def PartTask.payload (p : PartTask) : Nat × Except RangeFailure ByteArray := (p.number, p.body)

theorem PartTask.hasEnded_iff : p.hasEnded = true ↔ p.stage = .ended := by
  unfold hasEnded
  split
  next h => simp [h]
  next h => simpa using h

/-- Only the body of the part itself is ever sent. -/
theorem Turn.body_of_send {turn : Turn} {limit : Nat} {body : ByteArray}
    (h : turn.stepOf limit p = .send body) : p.body = .ok body := by
  unfold stepOf at h
  split_ifs at h
  · unfold PartTask.abandon at h
    split at h <;> cases h
  · unfold PartTask.next at h
    split at h
    next =>
      split at h
      next body' hbody =>
        split_ifs at h
        obtain rfl := PartStep.send.inj h
        exact hbody
      next => cases h
      next => cases h
    next =>
      split at h
      next => cases h
      next => cases h
      next => split_ifs at h
    next => cases h

/-- A request that some part may send. -/
def Transmission.MaySend (u : Upload) (uploadId : String) (x : Transmission) (r : Request) : Prop :=
  ∃ p ∈ x.parts, ∃ body, p.body = .ok body ∧ r = u.partRequest uploadId p.number body

/-- What may be sent depends on the numbers and bodies of the parts only. -/
theorem Transmission.maySend_congr {y : Transmission}
    (h : y.parts.map PartTask.payload = x.parts.map PartTask.payload) {r : Request} :
    y.MaySend u uploadId r ↔ x.MaySend u uploadId r := by
  have hpayload (z : Transmission) : z.MaySend u uploadId r ↔
      ∃ q ∈ z.parts.map PartTask.payload, ∃ body, q.2 = .ok body ∧
        r = u.partRequest uploadId q.1 body := by
    simp [MaySend, PartTask.payload]
  rw [hpayload, hpayload, h]

/-- Where the numbers and bodies are the same, every part is found in its place. -/
theorem Transmission.exists_payload {y : Transmission}
    (h : y.parts.map PartTask.payload = x.parts.map PartTask.payload)
    (hp : x.parts[place]? = some p) : ∃ q, y.parts[place]? = some q ∧ q.payload = p.payload := by
  have hget := congrArg (fun l => l[place]?) h
  simp only [List.getElem?_map, hp] at hget
  exact Option.map_eq_some_iff.mp hget

namespace Upload

theorem map_payload_set {parts : List PartTask} (hp : parts[place]? = some p) {q : PartTask}
    (hq : q.payload = p.payload) :
    (parts.set place q).map PartTask.payload = parts.map PartTask.payload := by
  obtain ⟨hlt, rfl⟩ := List.getElem?_eq_some_iff.mp hp
  apply List.ext_getElem?
  intro i
  rw [List.map_set, hq]
  by_cases hi : place = i
  · subst hi
    rw [List.getElem?_set_self (by simpa using hlt), List.getElem?_map,
      List.getElem?_eq_getElem hlt]
    rfl
  · rw [List.getElem?_set_ne hi]

theorem map_payload_perform (hp : x.parts[place]? = some p) (s : PartStep) :
    (u.perform store uploadId x place p s).parts.map PartTask.payload =
      x.parts.map PartTask.payload := by
  cases s with
  | send body => exact map_payload_set hp rfl
  | retry => exact map_payload_set hp rfl
  | stop c => exact map_payload_set hp rfl
  | rest => rfl

theorem map_payload_step (x : Transmission) (turn : Turn) :
    (u.step store uploadId x turn).parts.map PartTask.payload =
      x.parts.map PartTask.payload := by
  unfold step
  split
  next => rfl
  next p hp => exact map_payload_perform hp _

theorem map_payload_after (u : Upload) (store : Store) (uploadId : String) (x : Transmission)
    (turns : List Turn) :
    (u.after store uploadId x turns).parts.map PartTask.payload =
      x.parts.map PartTask.payload := by
  induction turns generalizing x with
  | nil => rfl
  | cons turn rest ih => exact (ih (u.step store uploadId x turn)).trans (map_payload_step x turn)

theorem length_parts_after (x : Transmission) (turns : List Turn) :
    (u.after store uploadId x turns).parts.length = x.parts.length := by
  have h := congrArg List.length (map_payload_after u store uploadId x turns)
  rwa [List.length_map, List.length_map] at h

/-! ### What is sent -/

theorem log_step (u : Upload) (store : Store) (uploadId : String) (x : Transmission) (turn : Turn) :
    ∃ sent, (u.step store uploadId x turn).traffic.log = sent ++ x.traffic.log ∧
      ∀ r ∈ sent, x.MaySend u uploadId r := by
  unfold step
  split
  next => exact ⟨[], rfl, nofun⟩
  next p hp =>
    cases hs : turn.stepOf u.attemptLimit p with
    | send body =>
      refine ⟨[u.partRequest uploadId p.number body], rfl, ?_⟩
      intro r hr
      rw [List.mem_singleton] at hr
      exact ⟨p, List.mem_of_getElem? hp, body, turn.body_of_send hs, hr⟩
    | retry => exact ⟨[], rfl, nofun⟩
    | stop c => exact ⟨[], rfl, nofun⟩
    | rest => exact ⟨[], rfl, nofun⟩

/-- **Turns send nothing but requests for parts**, each with the body of its part. -/
theorem log_after (u : Upload) (store : Store) (uploadId : String) (x : Transmission)
    (turns : List Turn) :
    ∃ sent, (u.after store uploadId x turns).traffic.log = sent ++ x.traffic.log ∧
      ∀ r ∈ sent, x.MaySend u uploadId r := by
  induction turns generalizing x with
  | nil => exact ⟨[], rfl, nofun⟩
  | cons turn rest ih =>
    obtain ⟨first, hfirst, hfrom⟩ := log_step u store uploadId x turn
    obtain ⟨sent, hsent, hrest⟩ := ih (u.step store uploadId x turn)
    refine ⟨sent ++ first, ?_, ?_⟩
    · show (u.after store uploadId (u.step store uploadId x turn) rest).traffic.log = _
      rw [hsent, hfirst, List.append_assoc]
    · intro r hr
      rcases List.mem_append.mp hr with hr | hr
      · exact (Transmission.maySend_congr (map_payload_step x turn)).mp (hrest r hr)
      · exact hfrom r hr

/-! ### Parts at their end -/

theorem endedAt_iff : x.endedAt place = true ↔
    ∀ p, x.parts[place]? = some p → p.hasEnded = true := by
  rw [Transmission.endedAt, Option.all_eq_true]

theorem step_eq {turn : Turn} (hp : x.parts[turn.place]? = some p) :
    u.step store uploadId x turn =
      u.perform store uploadId x turn.place p (turn.stepOf u.attemptLimit p) := by
  unfold step
  rw [hp]

/-- A turn of no part changes nothing. -/
theorem step_of_none {turn : Turn} (h : x.parts[turn.place]? = none) :
    u.step store uploadId x turn = x := by
  unfold step
  rw [h]

/-- What was completed stays so. -/
theorem mem_completions_step {c : Completion UploadError CompletedPart} (hc : c ∈ x.completions)
    (turn : Turn) : c ∈ (u.step store uploadId x turn).completions := by
  unfold step
  split
  next => exact hc
  next p hp =>
    cases turn.stepOf u.attemptLimit p with
    | stop c' => exact List.mem_cons_of_mem c' hc
    | send | retry | rest => exact hc

/-- A step at one place leaves the parts at the other places alone. -/
theorem getElem?_perform_of_ne {i : Nat} (hi : place ≠ i) (s : PartStep) :
    (u.perform store uploadId x place p s).parts[i]? = x.parts[i]? := by
  cases s with
  | send body => exact List.getElem?_set_ne hi
  | retry => exact List.getElem?_set_ne hi
  | stop c => exact List.getElem?_set_ne hi
  | rest => rfl

/-- A part that has come to its end takes no more steps. -/
theorem step_of_endedAt {turn : Turn} (h : x.endedAt turn.place = true) :
    u.step store uploadId x turn = x := by
  unfold step
  split
  next => rfl
  next p hp =>
    have hended := endedAt_iff.mp h p hp
    rw [PartTask.hasEnded_iff] at hended
    have hrest : turn.stepOf u.attemptLimit p = .rest := by
      simp [Turn.stepOf, PartTask.abandon, PartTask.next, hended]
    rw [hrest]
    rfl

/-- A turn of one part leaves the others alone. -/
theorem getElem?_step_of_ne {turn : Turn} {i : Nat} (hi : turn.place ≠ i) :
    (u.step store uploadId x turn).parts[i]? = x.parts[i]? := by
  unfold step
  split
  next => rfl
  next p hp => exact getElem?_perform_of_ne hi _

theorem endedAt_step {i : Nat} (h : x.endedAt i = true) (turn : Turn) :
    (u.step store uploadId x turn).endedAt i = true := by
  by_cases hi : turn.place = i
  · -- the part itself takes no more steps
    subst hi
    rw [step_of_endedAt h]
    exact h
  · rw [Transmission.endedAt, getElem?_step_of_ne hi]
    exact h

theorem endedAt_after {i : Nat} (h : x.endedAt i = true) (turns : List Turn) :
    (u.after store uploadId x turns).endedAt i = true := by
  induction turns generalizing x with
  | nil => exact h
  | cons turn rest ih => exact ih (endedAt_step h turn)

/-- Turns change nothing once all parts have come to their end. -/
theorem after_of_endedAt (h : ∀ i, x.endedAt i = true) (turns : List Turn) :
    u.after store uploadId x turns = x := by
  induction turns with
  | nil => rfl
  | cons turn rest ih =>
    show u.after store uploadId (u.step store uploadId x turn) rest = x
    rw [step_of_endedAt (h turn.place), ih]

end Upload

/-! ### Turns until the end -/

section Rank

variable {history : List Exchange}

namespace PartTask

/-- How many turns a part takes at most until it has come to its end. -/
def rank (limit : Nat) (p : PartTask) : Nat :=
  match p.stage with
  | .ready => 2 * (limit - p.attempts) + 1
  | .sent _ => 2 * (limit - p.attempts) + 2
  | .ended => 0

/-- A part has no turns left just if it has come to its end. -/
theorem rank_eq_zero_iff {limit : Nat} : p.rank limit = 0 ↔ p.hasEnded = true := by
  rw [hasEnded_iff]
  cases hstage : p.stage <;> simp [rank, hstage]

/-- Two turns for every request are enough, and one more to give up without any. -/
theorem Sound.rank_le (h : p.Sound u uploadId history) :
    p.rank u.attemptLimit ≤ u.turnLimit := by
  unfold rank Upload.turnLimit
  split
  next => omega
  next answer hstage =>
    -- a part that has a reply was sent at least once
    obtain ⟨x, xs, hhistory, -⟩ := h.sent answer hstage
    have hattempts := h.attempts_eq
    have hle := h.attempts_le
    rw [hhistory, List.length_cons] at hattempts
    omega
  next => exact Nat.zero_le _

end PartTask

end Rank

namespace Upload

/-- **Every turn of a part that is under way brings it nearer to its end.** -/
theorem rank_step_lt (h : x.Sound u store uploadId) (hp : x.parts[place]? = some p)
    (hlive : p.hasEnded = false) :
    ∃ q, (u.step store uploadId x ⟨place, false⟩).parts[place]? = some q ∧
      q.rank u.attemptLimit < p.rank u.attemptLimit := by
  have hpos : 0 < p.rank u.attemptLimit := by
    apply Nat.pos_of_ne_zero
    rw [ne_eq, PartTask.rank_eq_zero_iff, hlive]
    exact Bool.false_ne_true
  obtain ⟨hlt, -⟩ := List.getElem?_eq_some_iff.mp hp
  have hdoes := (h.part place p hp).does_next
  have hstep : u.step store uploadId x ⟨place, false⟩ =
      u.perform store uploadId x place p (p.next u.attemptLimit) := step_eq hp
  rw [hstep]
  generalize p.next u.attemptLimit = s at hdoes ⊢
  cases hdoes with
  | send hstage hbody hroom =>
    refine ⟨_, List.getElem?_set_self hlt, ?_⟩
    simp only [PartTask.rank, hstage]
    omega
  | retry hstage hroom huntagged =>
    -- to look at a reply is the second of the two turns of an attempt
    refine ⟨_, List.getElem?_set_self hlt, ?_⟩
    simp only [PartTask.rank, hstage]
    omega
  | lose => exact ⟨_, List.getElem?_set_self hlt, hpos⟩
  | stop => exact ⟨_, List.getElem?_set_self hlt, hpos⟩
  | rest hstage =>
    rw [PartTask.hasEnded_iff.mpr hstage] at hlive
    cases hlive

/-- A part that is given enough turns comes to its end. -/
theorem endedAt_toEnd {fuel : Nat} (h : x.Sound u store uploadId)
    (hfuel : ∀ p, x.parts[place]? = some p → p.rank u.attemptLimit ≤ fuel) :
    (u.toEnd store uploadId place fuel x).endedAt place = true := by
  induction fuel generalizing x with
  | zero =>
    rw [endedAt_iff]
    intro p hp
    exact PartTask.rank_eq_zero_iff.mp (Nat.le_zero.mp (hfuel p hp))
  | succ fuel ih =>
    unfold toEnd
    split_ifs with hended
    · exact hended
    · apply ih (h.step _)
      intro q hq
      cases hp : x.parts[place]? with
      | none =>
        rw [endedAt_iff, hp] at hended
        exact absurd (fun p hp => absurd hp (Option.some_ne_none p).symm) hended
      | some p =>
        have hlive : p.hasEnded = false := by
          rw [endedAt_iff, hp] at hended
          simpa using hended
        obtain ⟨q', hq', hrank⟩ := rank_step_lt h hp hlive
        obtain rfl := Option.some.inj (hq.symm.trans hq')
        have := hfuel p hp
        omega

/-! ### Sending all parts -/

theorem exists_turns_toEnd (u : Upload) (store : Store) (uploadId : String) (place fuel : Nat)
    (x : Transmission) : ∃ turns : List Turn, (∀ turn ∈ turns, turn.lost = false) ∧
      u.toEnd store uploadId place fuel x = u.after store uploadId x turns := by
  induction fuel generalizing x with
  | zero => exact ⟨[], nofun, rfl⟩
  | succ fuel ih =>
    unfold toEnd
    split_ifs
    · exact ⟨[], nofun, rfl⟩
    · obtain ⟨turns, hfound, hturns⟩ := ih (u.step store uploadId x ⟨place, false⟩)
      exact ⟨⟨place, false⟩ :: turns, List.forall_mem_cons.mpr ⟨rfl, hfound⟩, hturns⟩

theorem after_append (x : Transmission) (turns more : List Turn) :
    u.after store uploadId x (turns ++ more) =
      u.after store uploadId (u.after store uploadId x turns) more :=
  List.foldl_append

theorem exists_turns_finish (u : Upload) (store : Store) (uploadId : String) (drain : Bool)
    (places : List Nat) (x : Transmission) : ∃ turns : List Turn,
      (∀ turn ∈ turns, turn.lost = false) ∧
      u.finish store uploadId drain places x = u.after store uploadId x turns := by
  induction places generalizing x with
  | nil => exact ⟨[], nofun, rfl⟩
  | cons place rest ih =>
    unfold finish
    split_ifs
    · exact ⟨[], nofun, rfl⟩
    · obtain ⟨turns, hfound, hturns⟩ :=
        exists_turns_toEnd u store uploadId place u.turnLimit x
      obtain ⟨more, hmorefound, hmore⟩ := ih (u.toEnd store uploadId place u.turnLimit x)
      exact ⟨turns ++ more, List.forall_mem_append.mpr ⟨hfound, hmorefound⟩,
        by rw [hmore, hturns, after_append]⟩

/-- **Sending all parts is a sequence of turns**: first those of the schedule, then more of which none
loses a part. -/
theorem exists_turns_transmit (u : Upload) (store : Store) (uploadId : String) (schedule : Schedule)
    (parts : List PartTask) (t : Traffic) : ∃ more : List Turn, (∀ turn ∈ more, turn.lost = false) ∧
      u.transmit store uploadId schedule parts t =
        u.after store uploadId ⟨parts, [], t⟩ (schedule.turns ++ more) := by
  obtain ⟨more, hfound, hmore⟩ := exists_turns_finish u store uploadId schedule.drain
    (List.range parts.length) (u.after store uploadId ⟨parts, [], t⟩ schedule.turns)
  exact ⟨more, hfound, by rw [transmit, hmore, after_append]⟩

theorem endedAt_finish {drain : Bool} {places : List Nat} (h : x.Sound u store uploadId)
    (hok : drain = true ∨ (u.finish store uploadId drain places x).failed = false) :
    ∀ place ∈ places, (u.finish store uploadId drain places x).endedAt place = true := by
  induction places generalizing x with
  | nil => exact nofun
  | cons first rest ih =>
    unfold finish at hok ⊢
    split_ifs at hok ⊢ with hstop
    · rcases hok with hok | hok <;> simp [hok] at hstop
    · have hended := endedAt_toEnd h fun p hp => (h.part first p hp).rank_le
      obtain ⟨turns, -, hturns⟩ := exists_turns_toEnd u store uploadId first u.turnLimit x
      have hsound : (u.toEnd store uploadId first u.turnLimit x).Sound u store uploadId := by
        rw [hturns]
        exact h.after turns
      intro place hplace
      rcases List.mem_cons.mp hplace with rfl | hplace
      · -- what comes to its end first stays there while the others go on
        obtain ⟨more, -, hmore⟩ := exists_turns_finish u store uploadId drain rest
          (u.toEnd store uploadId place u.turnLimit x)
        rw [hmore]
        exact endedAt_after hended more
      · exact ih hsound hok place hplace

/-- **All parts have come to their end**, unless the uploader does not wait for them because one has
failed. -/
theorem endedAt_transmit {schedule : Schedule} {parts : List PartTask} {t : Traffic}
    (h : Transmission.Sound u store uploadId ⟨parts, [], t⟩)
    (hok : schedule.drain = true ∨ (u.transmit store uploadId schedule parts t).failed = false)
    (place : Nat) :
    (u.transmit store uploadId schedule parts t).endedAt place = true := by
  by_cases hplace : place < parts.length
  · exact endedAt_finish (h.after schedule.turns) hok place (List.mem_range.mpr hplace)
  · -- there is no such part
    obtain ⟨more, -, hmore⟩ := exists_turns_transmit u store uploadId schedule parts t
    rw [hmore, endedAt_iff]
    intro p hp
    obtain ⟨hlt, -⟩ := List.getElem?_eq_some_iff.mp hp
    rw [length_parts_after] at hlt
    exact absurd hlt hplace

end Upload

end StripeTransfer
