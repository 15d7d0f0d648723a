/-
StripeTransfer/Proofs/Upload/Course.lean

How an upload in parts can go.  Once it is opened, the parts of an even plan take
turns; what they have done is `Upload.transmission`, and what is known of it is
gathered in `Upload.Transmitted`: nothing but requests for parts has been sent
since the upload was opened, and the parts are sound.  If none has failed, all of
them were acknowledged (`Upload.Transmitted.acknowledged`), and the parts that
are joined carry the tags of the last replies, in the order of their numbers
(`Upload.Transmitted.joinAll_eq_ok`).

There are five ways for the whole to go, each with its result and its log
(`Upload.Course`, `Upload.course_multipart`).  All that is proved about uploads
comes from these five.
-/
import StripeTransfer.Proofs.Extent.Plan
import StripeTransfer.Proofs.Upload.Transmission
import Mathlib

namespace StripeTransfer

/-! ### Tags with their numbers -/

namespace Manifest

/-- The parts that carry some tags, numbered from one on. -/
def numbered (tags : List String) : List CompletedPart :=
  tags.zipIdx.map fun (tag, i) => ⟨i + 1, tag⟩

@[simp] theorem length_numbered (tags : List String) : (numbered tags).length = tags.length := by
  simp [numbered]

theorem getElem?_numbered (tags : List String) (i : Nat) :
    (numbered tags)[i]? = tags[i]?.map fun tag => ⟨i + 1, tag⟩ := by
  rw [numbered, List.getElem?_map, List.getElem?_zipIdx, Option.map_map, Nat.zero_add]
  rfl

end Manifest

theorem Transmission.failed_eq_false {x : Transmission}
    (h : ∀ c ∈ x.completions, c.failure? = none) : x.failed = false := by
  rw [failed, List.any_eq_false]
  intro c hc
  rw [h c hc]
  exact Bool.false_ne_true

namespace Upload

variable {u : Upload} {store : Store} {uploadId path : String} {slot : Slot}
  {schedule : Schedule} {plan : Plan} {source : PartSource}

/-! ### The parts of an opened upload -/

/-- What the parts have done when the uploader has waited for them. -/
def transmission (u : Upload) (store : Store) (uploadId : String) (schedule : Schedule)
    (source : PartSource) (plan : Plan) : Transmission :=
  u.transmit store uploadId schedule (partTasks source plan) ⟨[u.openRequest], 0⟩

theorem getElem?_partTasks (source : PartSource) (plan : Plan) (i : Nat) :
    (partTasks source plan)[i]? = plan.spans[i]?.map fun s =>
      ⟨i + 1, source.read (plan.assigned 0 i s).target, 0, .ready⟩ := by
  rw [partTasks, List.getElem?_map, Plan.getElem?_assignments, Option.map_map]
  rfl

@[simp] theorem length_partTasks (source : PartSource) (plan : Plan) :
    (partTasks source plan).length = plan.workerCount := by
  rw [partTasks, List.length_map, Plan.length_assignments]

/-- Before the first turn, no part was sent. -/
theorem sound_partTasks (source : PartSource) (plan : Plan) {before : Nat} :
    Transmission.Sound u store uploadId ⟨partTasks source plan, [], ⟨[u.openRequest], before⟩⟩ := by
  have hpart : ∀ (i : Nat) (p : PartTask), (partTasks source plan)[i]? = some p →
      ∃ s, p = ⟨i + 1, source.read (plan.assigned 0 i s).target, 0, .ready⟩ := by
    intro i p hp
    rw [getElem?_partTasks] at hp
    obtain ⟨s, -, rfl⟩ := Option.map_eq_some_iff.mp hp
    exact ⟨s, rfl⟩
  refine ⟨?_, ?_, ?_, nofun⟩
  · intro i p hp
    obtain ⟨s, rfl⟩ := hpart i p hp
    rfl
  · intro i p hp
    obtain ⟨s, rfl⟩ := hpart i p hp
    exact PartTask.Sound.initial u uploadId (i + 1) _
  · intro i p hp
    obtain ⟨s, rfl⟩ := hpart i p hp
    exact ⟨nofun, nofun⟩

/-- What is known of the parts after any turns. -/
structure Transmitted (u : Upload) (store : Store) (uploadId : String) (source : PartSource)
    (plan : Plan) (x : Transmission) : Prop where
  sound : x.Sound u store uploadId
  payload_eq : x.parts.map PartTask.payload = (partTasks source plan).map PartTask.payload
  /-- Since the upload was opened, nothing but requests for parts was sent. -/
  log_eq : ∃ sent, x.traffic.log = sent ++ [u.openRequest] ∧ ∀ r ∈ sent, x.MaySend u uploadId r

theorem transmitted_transmission (u : Upload) (store : Store) (uploadId : String)
    (schedule : Schedule) (source : PartSource) (plan : Plan) :
    Transmitted u store uploadId source plan
      (u.transmission store uploadId schedule source plan) := by
  obtain ⟨more, -, hmore⟩ := exists_turns_transmit u store uploadId schedule
    (partTasks source plan) ⟨[u.openRequest], 0⟩
  rw [transmission, hmore]
  have hpayload := map_payload_after u store uploadId
    ⟨partTasks source plan, [], ⟨[u.openRequest], 0⟩⟩ (schedule.turns ++ more)
  obtain ⟨sent, hlog, hsent⟩ := log_after u store uploadId
    ⟨partTasks source plan, [], ⟨[u.openRequest], 0⟩⟩ (schedule.turns ++ more)
  refine ⟨(sound_partTasks source plan).after _, hpayload, sent, hlog, ?_⟩
  intro r hr
  exact (Transmission.maySend_congr hpayload).mpr (hsent r hr)

namespace Transmitted

variable {x : Transmission}

theorem length_parts (h : Transmitted u store uploadId source plan x) :
    x.parts.length = plan.workerCount := by
  have hlength := congrArg List.length h.payload_eq
  rwa [List.length_map, List.length_map, length_partTasks] at hlength

/-- Every part has the number of its place, and the bytes of its span for a body. -/
theorem body_eq (h : Transmitted u store uploadId source plan x) {i : Nat} {p : PartTask}
    (hp : x.parts[i]? = some p) : ∃ s, plan.spans[i]? = some s ∧
      p.body = source.read (plan.assigned 0 i s).target := by
  have hget := congrArg (fun l => l[i]?) h.payload_eq
  simp only [List.getElem?_map, hp, getElem?_partTasks, Option.map_map] at hget
  obtain ⟨s, hs, hpayload⟩ := Option.map_eq_some_iff.mp hget.symm
  exact ⟨s, hs, (Prod.mk.inj hpayload).2.symm⟩

/-- The requests for parts are numbered from one to the number of workers. -/
theorem exists_part (h : Transmitted u store uploadId source plan x) {r : Request}
    (hr : x.MaySend u uploadId r) : ∃ i p body, x.parts[i]? = some p ∧ p.body = .ok body ∧
      r = u.partRequest uploadId (i + 1) body := by
  obtain ⟨p, hp, body, hbody, rfl⟩ := hr
  obtain ⟨i, hi⟩ := List.getElem?_of_mem hp
  exact ⟨i, p, body, hi, hbody, by rw [h.sound.number_eq i p hi]⟩

/-- What was sent so far opens the upload, or sends a part. -/
theorem operation_of_mem (h : Transmitted u store uploadId source plan x) {r : Request}
    (hr : r ∈ x.traffic.log) :
    r.operation = .initiate ∨ ∃ number, r.operation = .part number := by
  obtain ⟨sent, hlog, hsent⟩ := h.log_eq
  rw [hlog] at hr
  rcases List.mem_append.mp hr with hr | hr
  · obtain ⟨p, -, body, -, rfl⟩ := hsent r hr
    exact .inr ⟨_, rfl⟩
  · rw [List.mem_singleton] at hr
    subst hr
    exact .inl rfl

/-- A part was acknowledged: its last reply carries a tag. -/
def Acknowledged (store : Store) (log : List Request) (i : Nat) (tag : String) : Prop :=
  ∃ y ys, store.history log (i + 1) = y :: ys ∧ partTag? y.answer = .ok (some tag)

theorem Acknowledged.unique {log : List Request} {i : Nat} {tag tag' : String}
    (h : Acknowledged store log i tag) (h' : Acknowledged store log i tag') : tag = tag' := by
  obtain ⟨y, ys, hhistory, htag⟩ := h
  obtain ⟨y', ys', hhistory', htag'⟩ := h'
  obtain ⟨rfl, -⟩ := List.cons.inj (hhistory.symm.trans hhistory')
  rw [htag] at htag'
  exact Option.some.inj (Except.ok.inj htag')

/-- What a part returns, if it returns a value, is its number and the tag of its last reply. -/
theorem acknowledged_of_returned (h : Transmitted u store uploadId source plan x) {i : Nat}
    {value : CompletedPart} (hvalue : .returned i (.ok value) ∈ x.completions) :
    i < plan.workerCount ∧ ∃ tag, value = ⟨i + 1, tag⟩ ∧
      Acknowledged store x.traffic.log i tag := by
  have hlt := h.sound.returned_lt i _ hvalue
  have hp := List.getElem?_eq_getElem hlt
  obtain ⟨-, hend⟩ := (h.sound.reported i _ hp).returned _ hvalue
  rw [h.sound.number_eq i _ hp] at hend
  refine ⟨h.length_parts ▸ hlt, ?_⟩
  generalize hhistory : store.history x.traffic.log (i + 1) = history at hend
  cases hend with
  | acknowledged htag => exact ⟨_, rfl, _, _, hhistory, htag⟩

/-- **If no part has failed, every part was acknowledged**, and has said so. -/
theorem acknowledged (h : Transmitted u store uploadId source plan x)
    (hended : ∀ i, x.endedAt i = true) (hok : ∀ c ∈ x.completions, c.failure? = none) {i : Nat}
    (hi : i < plan.workerCount) : ∃ tag, .returned i (.ok ⟨i + 1, tag⟩) ∈ x.completions ∧
      Acknowledged store x.traffic.log i tag := by
  have hp := List.getElem?_eq_getElem (h.length_parts.symm ▸ hi : i < x.parts.length)
  have hstage := PartTask.hasEnded_iff.mp (endedAt_iff.mp (hended i) _ hp)
  rcases (h.sound.reported i _ hp).ended hstage with hlost | ⟨result, hresult⟩
  · cases hok _ hlost
  · cases result with
    | error e => cases hok _ hresult
    | ok value =>
      obtain ⟨-, tag, rfl, hack⟩ := h.acknowledged_of_returned hresult
      exact ⟨tag, hresult, hack⟩

/-- **The parts that are joined carry the tags of the last replies**, in the order of their
numbers. -/
theorem joinAll_eq_ok (h : Transmitted u store uploadId source plan x)
    (hended : x.failed = false → ∀ i, x.endedAt i = true) {parts : List CompletedPart}
    (hjoin : Tasks.joinAll plan.workerCount x.completions.reverse = .ok parts) :
    (∀ i, x.endedAt i = true) ∧ ∃ tags, parts = Manifest.numbered tags ∧
      tags.length = plan.workerCount ∧
      ∀ i tag, tags[i]? = some tag → Acknowledged store x.traffic.log i tag := by
  have hok : ∀ c ∈ x.completions, c.failure? = none := fun c hc =>
    Tasks.failure?_eq_none hjoin (List.mem_reverse.mpr hc)
  have hfailed := Transmission.failed_eq_false hok
  have hack : ∀ i : Fin plan.workerCount, ∃ tag,
      .returned i.val (.ok ⟨i.val + 1, tag⟩) ∈ x.completions ∧
        Acknowledged store x.traffic.log i tag :=
    fun i => h.acknowledged (hended hfailed) hok i.isLt
  -- every place has one tag, so the tags make up a list
  choose tag hreturned htag using hack
  have hget (i : Fin plan.workerCount) : (List.ofFn tag)[i.val]? = some (tag i) := by
    rw [List.getElem?_ofFn, dif_pos i.isLt]
  refine ⟨hended hfailed, List.ofFn tag, ?_, List.length_ofFn, ?_⟩
  · -- all values that come in are those of the numbered tags, and each of them comes in
    have hgives : ∀ c ∈ x.completions.reverse, Tasks.Gives (Manifest.numbered (List.ofFn tag)) c := by
      intro c hc
      rw [List.mem_reverse] at hc
      rcases c with ⟨i, e | value⟩ | -
      · cases hok _ hc
      · obtain ⟨hi, tag', rfl, hack'⟩ := h.acknowledged_of_returned hc
        obtain rfl := (htag ⟨i, hi⟩).unique hack'
        refine ⟨i, _, rfl, ?_⟩
        rw [Manifest.getElem?_numbered, hget ⟨i, hi⟩]
        rfl
      · cases hok _ hc
    have hlength : (Manifest.numbered (List.ofFn tag)).length = plan.workerCount := by
      rw [Manifest.length_numbered, List.length_ofFn]
    have hall := Tasks.joinAll_of_complete hgives fun i hi =>
      ⟨_, List.mem_reverse.mpr (hreturned ⟨i, hlength ▸ hi⟩)⟩
    rw [hlength, hjoin] at hall
    exact Except.ok.inj hall
  · intro i t ht
    rw [List.getElem?_ofFn] at ht
    split_ifs at ht with hi
    obtain rfl := Option.some.inj ht
    exact htag ⟨i, hi⟩

end Transmitted

/-! ### The whole upload -/

/-- The ways for an upload in parts to go, with its result and with the requests that the store has
received, the latest one first. -/
inductive Course (u : Upload) (store : Store) (path : String) (slot : Slot) (schedule : Schedule)
    (plan : Plan) : Except UploadError String → List Request → Prop
  /-- The upload is not opened. -/
  | refused {e : UploadError} :
      openedId (store [] u.openRequest) = .error e →
      Course u store path slot schedule plan (.error e) [u.openRequest]
  /-- The file cannot be brought into memory. -/
  | unprepared {uploadId : String} {e : UploadError} :
      openedId (store [] u.openRequest) = .ok uploadId →
      PartSource.prepare path plan.extent plan.workerCount u.source slot = .error e →
      Course u store path slot schedule plan (.error e) [u.abortRequest uploadId, u.openRequest]
  /-- Some part fails; others may still be under way when the upload is given up. -/
  | interrupted {uploadId : String} {source : PartSource} {failure : TaskFailure UploadError}
      {late : List Request} :
      openedId (store [] u.openRequest) = .ok uploadId →
      PartSource.prepare path plan.extent plan.workerCount u.source slot = .ok source →
      Tasks.joinAll plan.workerCount
          (u.transmission store uploadId schedule source plan).completions.reverse =
        .error failure →
      (∀ r ∈ late, ∃ number body, r = u.partRequest uploadId number body) →
      Course u store path slot schedule plan (.error (partFailure failure)) (late ++
        u.abortRequest uploadId ::
          (u.transmission store uploadId schedule source plan).traffic.log)
  /-- All parts are acknowledged, but the upload is not completed. -/
  | uncompleted {uploadId : String} {source : PartSource} {parts : List CompletedPart}
      {e : UploadError} :
      openedId (store [] u.openRequest) = .ok uploadId →
      PartSource.prepare path plan.extent plan.workerCount u.source slot = .ok source →
      Tasks.joinAll plan.workerCount
          (u.transmission store uploadId schedule source plan).completions.reverse = .ok parts →
      completedTag (store (u.transmission store uploadId schedule source plan).traffic.log
        (u.completeRequest uploadId parts)) = .error e →
      Course u store path slot schedule plan (.error e)
        (u.abortRequest uploadId :: u.completeRequest uploadId parts ::
          (u.transmission store uploadId schedule source plan).traffic.log)
  /-- All parts are acknowledged, and the upload is completed. -/
  | completed {uploadId : String} {source : PartSource} {parts : List CompletedPart}
      {etag : String} :
      openedId (store [] u.openRequest) = .ok uploadId →
      PartSource.prepare path plan.extent plan.workerCount u.source slot = .ok source →
      Tasks.joinAll plan.workerCount
          (u.transmission store uploadId schedule source plan).completions.reverse = .ok parts →
      completedTag (store (u.transmission store uploadId schedule source plan).traffic.log
        (u.completeRequest uploadId parts)) = .ok etag →
      Course u store path slot schedule plan (.ok etag)
        (u.completeRequest uploadId parts ::
          (u.transmission store uploadId schedule source plan).traffic.log)

/-- Unless one has failed, all parts have come to their end. -/
theorem endedAt_transmission
    (h : (u.transmission store uploadId schedule source plan).failed = false) (i : Nat) :
    (u.transmission store uploadId schedule source plan).endedAt i = true :=
  endedAt_transmit (sound_partTasks source plan) (Or.inr h) i

/-- An upload that is not opened. -/
theorem multipart_of_refused (path : String) (slot : Slot) (schedule : Schedule) {size : Nat}
    {e : UploadError} (hplan : Plan.even size u.workers 1 = .ok plan)
    (hopened : openedId (store [] u.openRequest) = .error e) :
    u.multipart store path size slot schedule .none = (.error e, ⟨[u.openRequest], 0⟩) := by
  simp only [multipart, hplan, Traffic.send, Traffic.none, hopened]

/-- An upload whose parts are sent and completed. -/
theorem multipart_of_ok {size : Nat} {etag : String} {x : Transmission}
    (hplan : Plan.even size u.workers 1 = .ok plan)
    (hopened : openedId (store [] u.openRequest) = .ok uploadId)
    (hsend : u.sendParts store path slot plan uploadId schedule ⟨[u.openRequest], 0⟩ =
      (.ok etag, x)) :
    u.multipart store path size slot schedule .none = (.ok etag, x.traffic) := by
  simp only [multipart, hplan, Traffic.send, Traffic.none, hopened, hsend]

/-- An upload that is given up: parts that are still under way take their last turns after that. -/
theorem multipart_of_error {size : Nat} {e : UploadError} {x : Transmission}
    (hplan : Plan.even size u.workers 1 = .ok plan)
    (hopened : openedId (store [] u.openRequest) = .ok uploadId)
    (hsend : u.sendParts store path slot plan uploadId schedule ⟨[u.openRequest], 0⟩ =
      (.error e, x)) :
    u.multipart store path size slot schedule .none =
      (.error e, (u.after store uploadId
        { x with traffic := u.abort store uploadId x.traffic } schedule.late).traffic) := by
  simp only [multipart, hplan, Traffic.send, Traffic.none, hopened, hsend]

/-- When no part is under way, the request that gives up the upload is the last one. -/
theorem multipart_of_error_of_endedAt {size : Nat} {e : UploadError} {x : Transmission}
    (hplan : Plan.even size u.workers 1 = .ok plan)
    (hopened : openedId (store [] u.openRequest) = .ok uploadId)
    (hsend : u.sendParts store path slot plan uploadId schedule ⟨[u.openRequest], 0⟩ =
      (.error e, x)) (hended : ∀ i, x.endedAt i = true) :
    u.multipart store path size slot schedule .none =
      (.error e, u.abort store uploadId x.traffic) := by
  rw [multipart_of_error hplan hopened hsend, after_of_endedAt]
  exact hended

/-- A file that cannot be brought into memory: no part is sent. -/
theorem sendParts_of_unprepared {e : UploadError}
    (hsource : PartSource.prepare path plan.extent plan.workerCount u.source slot = .error e) :
    u.sendParts store path slot plan uploadId schedule ⟨[u.openRequest], 0⟩ =
      (.error e, ⟨[], [], ⟨[u.openRequest], 0⟩⟩) := by
  simp only [sendParts, hsource]

/-- Parts of which one has failed: nothing is sent but what they have sent themselves. -/
theorem sendParts_of_failed {failure : TaskFailure UploadError}
    (hsource : PartSource.prepare path plan.extent plan.workerCount u.source slot = .ok source)
    (hjoin : Tasks.joinAll plan.workerCount
      (u.transmission store uploadId schedule source plan).completions.reverse =
        .error failure) :
    u.sendParts store path slot plan uploadId schedule ⟨[u.openRequest], 0⟩ =
      (.error (partFailure failure), u.transmission store uploadId schedule source plan) := by
  unfold transmission at hjoin ⊢
  simp only [sendParts, hsource, hjoin]

/-- Parts that are all acknowledged make up the manifest of the last request. -/
theorem sendParts_of_joined {parts : List CompletedPart}
    (hsource : PartSource.prepare path plan.extent plan.workerCount u.source slot = .ok source)
    (hjoin : Tasks.joinAll plan.workerCount
      (u.transmission store uploadId schedule source plan).completions.reverse = .ok parts) :
    u.sendParts store path slot plan uploadId schedule ⟨[u.openRequest], 0⟩ =
      (completedTag (store (u.transmission store uploadId schedule source plan).traffic.log
          (u.completeRequest uploadId parts)),
        { u.transmission store uploadId schedule source plan with
          traffic := ((u.transmission store uploadId schedule source plan).traffic.send store
            (u.completeRequest uploadId parts)).2 }) := by
  unfold transmission at hjoin ⊢
  simp only [sendParts, hsource, hjoin, Traffic.send]

/-- **Every upload in parts goes one of these ways.** -/
theorem course_multipart (u : Upload) (store : Store) (path : String) (slot : Slot)
    (schedule : Schedule) {size : Nat} (hplan : Plan.even size u.workers 1 = .ok plan) :
    Course u store path slot schedule plan (u.multipart store path size slot schedule .none).1
      (u.multipart store path size slot schedule .none).2.log := by
  cases hopened : openedId (store [] u.openRequest) with
  | error e =>
    rw [multipart_of_refused path slot schedule hplan hopened]
    exact .refused hopened
  | ok uploadId =>
    cases hsource : PartSource.prepare path plan.extent plan.workerCount u.source slot with
    | error e =>
      rw [multipart_of_error_of_endedAt hplan hopened (sendParts_of_unprepared hsource) fun i => rfl]
      exact .unprepared hopened hsource
    | ok source =>
      have htransmitted := transmitted_transmission u store uploadId schedule source plan
      cases hjoin : Tasks.joinAll plan.workerCount
          (u.transmission store uploadId schedule source plan).completions.reverse with
      | error failure =>
        rw [multipart_of_error hplan hopened (sendParts_of_failed hsource hjoin)]
        -- what the parts under way still send comes after the request to give up
        obtain ⟨late, hlog, hlate⟩ := log_after u store uploadId
          { u.transmission store uploadId schedule source plan with
            traffic := u.abort store uploadId
              (u.transmission store uploadId schedule source plan).traffic } schedule.late
        rw [hlog]
        refine .interrupted hopened hsource hjoin ?_
        intro r hr
        obtain ⟨p, -, body, -, rfl⟩ := hlate r hr
        exact ⟨_, _, rfl⟩
      | ok parts =>
        have hsend := sendParts_of_joined hsource hjoin
        cases htag : completedTag (store
            (u.transmission store uploadId schedule source plan).traffic.log
            (u.completeRequest uploadId parts)) with
        | error e =>
          rw [htag] at hsend
          -- no part is under way any more
          obtain ⟨hended, -⟩ := htransmitted.joinAll_eq_ok endedAt_transmission hjoin
          rw [multipart_of_error_of_endedAt hplan hopened hsend hended]
          exact .uncompleted hopened hsource hjoin htag
        | ok etag =>
          rw [htag] at hsend
          rw [multipart_of_ok hplan hopened hsend]
          exact .completed hopened hsource hjoin htag

theorem check_eq_ok : u.check = .ok () ↔ 1 ≤ u.workers ∧ 1 ≤ u.maxRetries := by
  unfold check
  split_ifs with hworkers hretries
  · simp only [false_iff]
    omega
  · simp only [false_iff]
    omega
  · simp only [true_iff]
    omega

/-- Several workers send a file in parts. -/
theorem run_eq_multipart (store : Store) (path : String) (schedule : Schedule) {size : Nat}
    (hworkers : 2 ≤ u.workers) (hretries : 1 ≤ u.maxRetries) (hsize : slot.size = .ok size) :
    u.run store path slot schedule =
      ((u.multipart store path size slot schedule .none).1.map fun etag =>
        ⟨etag, u.workers, size⟩, (u.multipart store path size slot schedule .none).2) := by
  have hcheck : u.check = .ok () := check_eq_ok.mpr ⟨by omega, hretries⟩
  have hone : u.workers ≠ 1 := by omega
  simp only [run, hcheck, hsize, if_neg hone]

end Upload

end StripeTransfer
