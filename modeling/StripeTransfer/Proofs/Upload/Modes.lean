/-
StripeTransfer/Proofs/Upload/Modes.lean

The way in which a file is brought into memory cannot be seen from outside.  If
an upload succeeds in one mode, with a store that follows a script, it succeeds in
every mode: with the same outcome, the same requests for every operation, and the
same number of retries (`Upload.run_of_mode`).

The two uploads need not go the same way.  Their parts may take turns in different
orders, so that the store receives the requests in different orders, too.  What
they have in common is the script: it says after how many replies each part gets
its tag, and this settles what every part sends (`Upload.Transmitted.settled`).
-/
import StripeTransfer.Proofs.Upload.Copies
import StripeTransfer.Proofs.Upload.Retries
import StripeTransfer.Proofs.Upload.Script
import Mathlib

namespace StripeTransfer

/-- Two uploads with the same requests for every operation in the same order, and as many
retries. -/
structure Traffic.Alike (t t' : Traffic) : Prop where
  requests : ∀ op : Operation, (t'.log.filter fun r => r.operation = op) =
    t.log.filter fun r => r.operation = op
  retries : t'.retries = t.retries

namespace Traffic.Alike

variable {t t' : Traffic} {store : Store} {script : Script}

theorem refl (t : Traffic) : t.Alike t := ⟨fun _ => rfl, rfl⟩

/-- A store that follows a script does not tell the two apart. -/
theorem answer_eq (h : t.Alike t') (hstore : store.Follows script) (r : Request) :
    store t'.log r = store t.log r := by
  rw [hstore, hstore, List.countP_eq_length_filter, List.countP_eq_length_filter, h.requests]

/-- The same request may follow. -/
theorem cons (h : t.Alike t') (r : Request) :
    Traffic.Alike ⟨r :: t.log, t.retries⟩ ⟨r :: t'.log, t'.retries⟩ := by
  refine ⟨fun op => ?_, h.retries⟩
  rw [List.filter_cons, List.filter_cons, h.requests]

end Traffic.Alike

namespace Upload

variable {u : Upload} {store : Store} {script : Script} {uploadId path : String} {slot : Slot}
  {schedule : Schedule} {plan : Plan} {source : PartSource} {content : ByteArray}
  {x x' : Transmission} {count : Nat → Nat} {tag : Nat → String}

/-! ### Bodies -/

/-- A part of a plan without sampling has all of its span. -/
theorem target_assigned (hdivisor : plan.divisor = 1) (i : Nat) (s : Span) :
    (plan.assigned 0 i s).target = s := by
  rw [Plan.assigned, hdivisor, Span.sample_one]
  rfl

/-- If all spans of a plan can be read, all of its parts have a body. -/
theorem bodies_of_reads (hdivisor : plan.divisor = 1)
    (hsource : ∀ s ∈ plan.spans, source.read s = .ok (s.slice content)) :
    ∀ p ∈ partTasks source plan, ∃ body, p.body = .ok body := by
  intro p hp
  obtain ⟨i, hi⟩ := List.getElem?_of_mem hp
  rw [getElem?_partTasks] at hi
  obtain ⟨s, hs, rfl⟩ := Option.map_eq_some_iff.mp hi
  rw [target_assigned hdivisor]
  exact ⟨_, hsource s (List.mem_of_getElem? hs)⟩

/-- The body of a part is its slice of the file. -/
theorem Transmitted.body_eq_slice (h : Transmitted u store uploadId source plan x)
    (hdivisor : plan.divisor = 1)
    (hsource : ∀ s ∈ plan.spans, source.read s = .ok (s.slice content)) {i : Nat} {p : PartTask}
    (hp : x.parts[i]? = some p) :
    ∃ s, plan.spans[i]? = some s ∧ p.body = .ok (s.slice content) := by
  obtain ⟨s, hs, hbody⟩ := h.body_eq hp
  rw [target_assigned hdivisor, hsource s (List.mem_of_getElem? hs)] at hbody
  exact ⟨s, hs, hbody⟩

/-! ### Parts under a script -/

/-- The script has a tag for every part of a plan, after `count` replies without one and within the
attempts. -/
def TagsOf (u : Upload) (script : Script) (plan : Plan) (count : Nat → Nat) (tag : Nat → String) :
    Prop :=
  ∀ i < plan.workerCount,
    FirstTag (script (.part (toString (i + 1)))) (count i) (tag i) ∧ count i < u.attemptLimit

/-- What the parts of a plan have done when all of them have their tags. -/
structure Settled (u : Upload) (uploadId : String) (content : ByteArray) (plan : Plan)
    (count : Nat → Nat) (tag : Nat → String) (x : Transmission) : Prop where
  joined : Tasks.joinAll plan.workerCount x.completions.reverse =
    .ok (Manifest.numbered ((List.range plan.workerCount).map tag))
  /-- Nothing but requests for parts was sent since the upload was opened. -/
  log_eq : ∃ sent, x.traffic.log = sent ++ [u.openRequest] ∧
    ∀ r ∈ sent, ∃ i < plan.workerCount, r.operation = .part (toString (i + 1))
  /-- Every part was sent with its slice of the file until it got its tag. -/
  part_requests : ∀ (i : Nat) (s : Span), plan.spans[i]? = some s →
    (x.traffic.log.filter fun r => r.operation = .part (toString (i + 1))) =
      List.replicate (count i + 1) (u.partRequest uploadId (i + 1) (s.slice content))
  retries_eq : x.traffic.retries = Word.wrap32 ((List.range plan.workerCount).map count).sum

/-- Parts that are joined have come to the tags of the script. -/
theorem Transmitted.exists_tagsOf (h : Transmitted u store uploadId source plan x)
    (hstore : store.Follows script) (hended : x.failed = false → ∀ i, x.endedAt i = true)
    {parts : List CompletedPart}
    (hjoin : Tasks.joinAll plan.workerCount x.completions.reverse = .ok parts) :
    ∃ count tag, TagsOf u script plan count tag := by
  obtain ⟨-, tags, -, hlength, hack⟩ := h.joinAll_eq_ok hended hjoin
  have hfirst : ∀ i : Nat, ∃ k t, i < plan.workerCount →
      FirstTag (script (.part (toString (i + 1)))) k t ∧ k < u.attemptLimit := by
    intro i
    by_cases hi : i < plan.workerCount
    · have hp := List.getElem?_eq_getElem (h.length_parts.symm ▸ hi : i < x.parts.length)
      obtain ⟨y, ys, hhistory, htag⟩ :=
        hack i _ (List.getElem?_eq_getElem (hlength.symm ▸ hi : i < tags.length))
      exact ⟨_, _, fun _ => (h.sound.part i _ hp).firstTag hstore hhistory htag⟩
    · exact ⟨0, "", fun hlt => absurd hlt hi⟩
  choose count tag htags using hfirst
  exact ⟨count, tag, htags⟩

namespace Transmitted

variable (h : Transmitted u store uploadId source plan x) (hstore : store.Follows script)
  (htags : TagsOf u script plan count tag)

include h hstore htags

/-- A part that was acknowledged got the tag of the script. -/
theorem history_of_acknowledged {i : Nat} (hi : i < plan.workerCount) {t : String}
    (hack : Acknowledged store x.traffic.log i t) :
    t = tag i ∧ (store.history x.traffic.log (i + 1)).length = count i + 1 := by
  obtain ⟨y, ys, hhistory, htag⟩ := hack
  have hp := List.getElem?_eq_getElem (h.length_parts.symm ▸ hi : i < x.parts.length)
  obtain ⟨hfirst, -⟩ := (h.sound.part i _ hp).firstTag hstore hhistory htag
  obtain ⟨hcount, htag⟩ := hfirst.unique (htags i hi).1
  exact ⟨htag, by rw [hhistory, List.length_cons, hcount]⟩

/-- No part with a body fails. -/
theorem failure?_eq_none (hbodies : ∀ p ∈ x.parts, ∃ body, p.body = .ok body)
    (hlost : .lost ∉ x.completions) : ∀ c ∈ x.completions, c.failure? = none := by
  rintro (⟨i, e | value⟩ | -) hc
  · have hi := h.sound.returned_lt i _ hc
    have hp := List.getElem?_eq_getElem hi
    obtain ⟨body, hbody⟩ := hbodies _ (List.mem_of_getElem? hp)
    obtain ⟨-, hend⟩ := (h.sound.reported i _ hp).returned _ hc
    rw [h.sound.number_eq i _ hp, hbody] at hend
    obtain ⟨hfirst, hlimit⟩ := htags i (h.length_parts ▸ hi)
    exact (hend.ne_error (h.sound.part i _ hp) hstore hfirst hlimit).elim
  · rfl
  · exact absurd hc hlost

/-- A part that has not failed was sent until it got the tag of the script. -/
theorem length_history_of_ok (hended : ∀ i, x.endedAt i = true)
    (hok : ∀ c ∈ x.completions, c.failure? = none) {i : Nat} (hi : i < plan.workerCount) :
    (store.history x.traffic.log (i + 1)).length = count i + 1 := by
  obtain ⟨t, -, hack⟩ := h.acknowledged hended hok hi
  exact (h.history_of_acknowledged hstore htags hi hack).2

/-- Parts of which none has failed are joined, and have the tags of the script. -/
theorem joinAll_eq_tags (hended : x.failed = false → ∀ i, x.endedAt i = true)
    (hok : ∀ c ∈ x.completions, c.failure? = none) :
    Tasks.joinAll plan.workerCount x.completions.reverse =
      .ok (Manifest.numbered ((List.range plan.workerCount).map tag)) := by
  cases hjoin : Tasks.joinAll plan.workerCount x.completions.reverse with
  | error failure =>
    obtain ⟨c, hc, hfailure⟩ := List.exists_of_findSome?_eq_some (Tasks.joinAll_eq_error_iff.mp hjoin)
    rw [hok c (List.mem_reverse.mp hc)] at hfailure
    cases hfailure
  | ok parts =>
    obtain ⟨-, tags, rfl, hlength, hack⟩ := h.joinAll_eq_ok hended hjoin
    have heq : tags = (List.range plan.workerCount).map tag := by
      refine List.ext_getElem (by simpa using hlength) fun i hi _ => ?_
      have htag := hack i _ (List.getElem?_eq_getElem hi)
      rw [(h.history_of_acknowledged hstore htags (hlength ▸ hi) htag).1]
      simp
    rw [heq]

/-- **What the parts do is settled by the script**, in whatever order they take turns. -/
theorem settled (hdivisor : plan.divisor = 1) (hcounted : x.Counted 0)
    (hended : x.failed = false → ∀ i, x.endedAt i = true)
    (hsource : ∀ s ∈ plan.spans, source.read s = .ok (s.slice content))
    (hlost : .lost ∉ x.completions) : Settled u uploadId content plan count tag x := by
  have hok : ∀ c ∈ x.completions, c.failure? = none := by
    refine h.failure?_eq_none hstore htags (fun p hp => ?_) hlost
    obtain ⟨i, hi⟩ := List.getElem?_of_mem hp
    obtain ⟨s, -, hs⟩ := h.body_eq_slice hdivisor hsource hi
    exact ⟨_, hs⟩
  have hall := hended (Transmission.failed_eq_false hok)
  refine ⟨h.joinAll_eq_tags hstore htags hended hok, ?_, ?_, ?_⟩
  · obtain ⟨sent, hlog, hsent⟩ := h.log_eq
    refine ⟨sent, hlog, fun r hr => ?_⟩
    obtain ⟨i, p, body, hp, -, rfl⟩ := h.exists_part (hsent r hr)
    exact ⟨i, h.length_parts ▸ (List.getElem?_eq_some_iff.mp hp).1, rfl⟩
  · intro i s hs
    have hi : i < plan.workerCount := (List.getElem?_eq_some_iff.mp hs).1
    have hp := List.getElem?_eq_getElem (h.length_parts.symm ▸ hi : i < x.parts.length)
    obtain ⟨s', hs', hp'⟩ := h.body_eq_slice hdivisor hsource hp
    obtain rfl := Option.some.inj (hs.symm.trans hs')
    rw [h.sound.requests_eq hp hp', h.length_history_of_ok hstore htags hall hok hi]
  · rw [h.retries_eq hcounted hlost hall]
    refine congrArg (fun counts => Word.wrap32 counts.sum) (List.map_congr_left fun i hi => ?_)
    rw [h.length_history_of_ok hstore htags hall hok (List.mem_range.mp hi), Nat.add_sub_cancel]

end Transmitted

/-- Parts that are settled alike have sent the same requests for every operation. -/
theorem Settled.alike (h : Settled u uploadId content plan count tag x)
    (h' : Settled u uploadId content plan count tag x') : x.traffic.Alike x'.traffic := by
  refine ⟨fun op => ?_, h'.retries_eq.trans h.retries_eq.symm⟩
  by_cases hop : ∃ i < plan.workerCount, op = .part (toString (i + 1))
  · obtain ⟨i, hi, rfl⟩ := hop
    have hs : plan.spans[i]? = some plan.spans[i] := List.getElem?_eq_getElem hi
    rw [h.part_requests i _ hs, h'.part_requests i _ hs]
  · -- of any other operation there is at most the request that opened the upload
    have hnone {y : Transmission} (hy : Settled u uploadId content plan count tag y) :
        (y.traffic.log.filter fun r => r.operation = op) =
          [u.openRequest].filter fun r => r.operation = op := by
      obtain ⟨sent, hlog, hsent⟩ := hy.log_eq
      have hempty : (sent.filter fun r => r.operation = op) = [] := by
        rw [List.filter_eq_nil_iff]
        intro r hr heq
        obtain ⟨i, hi, hpart⟩ := hsent r hr
        exact hop ⟨i, hi, (of_decide_eq_true heq).symm.trans hpart⟩
      rw [hlog, List.filter_append, hempty, List.nil_append]
    rw [hnone h, hnone h']

/-! ### Uploads in parts -/

/-- **An upload in parts succeeds just if it is opened, its parts are joined and it is completed**;
then the last request is the one that completes it. -/
theorem multipart_eq_ok_iff {size : Nat} {etag : String} {t : Traffic}
    (hplan : Plan.even size u.workers 1 = .ok plan) :
    u.multipart store path size slot schedule .none = (.ok etag, t) ↔
      ∃ uploadId source parts, openedId (store [] u.openRequest) = .ok uploadId ∧
        PartSource.prepare path plan.extent plan.workerCount u.source slot = .ok source ∧
        Tasks.joinAll plan.workerCount
          (u.transmission store uploadId schedule source plan).completions.reverse = .ok parts ∧
        completedTag (store (u.transmission store uploadId schedule source plan).traffic.log
          (u.completeRequest uploadId parts)) = .ok etag ∧
        t = ⟨u.completeRequest uploadId parts ::
            (u.transmission store uploadId schedule source plan).traffic.log,
          (u.transmission store uploadId schedule source plan).traffic.retries⟩ := by
  constructor
  · intro hrun
    cases hopened : openedId (store [] u.openRequest) with
    | error e =>
      rw [multipart_of_refused path slot schedule hplan hopened] at hrun
      cases hrun
    | ok uploadId =>
      rcases hsend : u.sendParts store path slot plan uploadId schedule ⟨[u.openRequest], 0⟩ with
        ⟨e | etag', y⟩
      · rw [multipart_of_error hplan hopened hsend] at hrun
        cases hrun
      · rw [multipart_of_ok hplan hopened hsend] at hrun
        obtain ⟨hetag, rfl⟩ := Prod.mk.inj hrun
        obtain rfl := Except.ok.inj hetag
        cases hsource : PartSource.prepare path plan.extent plan.workerCount u.source slot with
        | error e =>
          rw [sendParts_of_unprepared hsource] at hsend
          cases hsend
        | ok source =>
          cases hjoin : Tasks.joinAll plan.workerCount
              (u.transmission store uploadId schedule source plan).completions.reverse with
          | error failure =>
            rw [sendParts_of_failed hsource hjoin] at hsend
            cases hsend
          | ok parts =>
            rw [sendParts_of_joined hsource hjoin] at hsend
            obtain ⟨htag, rfl⟩ := Prod.mk.inj hsend
            exact ⟨uploadId, source, parts, rfl, rfl, hjoin, htag, rfl⟩
  · rintro ⟨uploadId, source, parts, hopened, hsource, hjoin, htag, rfl⟩
    have hsend := sendParts_of_joined hsource hjoin
    rw [htag] at hsend
    exact multipart_of_ok hplan hopened hsend

/-- No part of the transmission is lost if the parts are joined. -/
theorem lost_not_mem_of_joined {parts : List CompletedPart} {n : Nat}
    (hjoin : Tasks.joinAll n x.completions.reverse = .ok parts) : .lost ∉ x.completions := by
  intro hlost
  cases Tasks.failure?_eq_none hjoin (List.mem_reverse.mpr hlost)

/-- Nothing about parts that are settled depends on the mode. -/
theorem Settled.of_mode {mode : SourceMode}
    (h : Settled { u with source := mode } uploadId content plan count tag x) :
    Settled u uploadId content plan count tag x :=
  ⟨h.joined, h.log_eq, h.part_requests, h.retries_eq⟩

/-- A source of any mode hands out the slices of the file under the spans of an even plan. -/
theorem exists_slicing_source (path : String) (hreach : content.size ≤ maxOffset)
    (hworkers : 0 < u.workers) (hplan : Plan.even content.size u.workers 1 = .ok plan)
    (mode : SourceMode) : ∃ source,
      PartSource.prepare path plan.extent plan.workerCount mode (.file content) = .ok source ∧
      ∀ s ∈ plan.spans, source.read s = .ok (s.slice content) := by
  obtain ⟨hextent, -, hcomplete⟩ := Plan.complete_of_even hplan
  rw [hextent, Plan.workerCount_of_even hplan]
  obtain ⟨source, hsource, hread⟩ := PartSource.prepare_ok path mode hreach hworkers
  exact ⟨source, hsource, fun s hs => hread s (hextent ▸ (hcomplete.contiguous.bounds hs).2)⟩

/-- **An upload in parts that succeeds in one mode succeeds in every mode**, with the same tag and
with traffic alike. -/
theorem multipart_of_mode (hreach : content.size ≤ maxOffset) (hworkers : 0 < u.workers)
    (hplan : Plan.even content.size u.workers 1 = .ok plan) (hstore : store.Follows script)
    {etag : String} {t : Traffic}
    (hrun : u.multipart store path content.size (.file content) schedule .none = (.ok etag, t))
    (mode : SourceMode) {schedule' : Schedule} (hschedule : schedule'.Lossless) :
    ∃ t', multipart { u with source := mode } store path content.size (.file content) schedule'
        .none = (.ok etag, t') ∧ t.Alike t' := by
  obtain ⟨-, hdivisor, -⟩ := Plan.complete_of_even hplan
  obtain ⟨uploadId, source, parts, hopened, hsource, hjoin, htag, rfl⟩ :=
    (multipart_eq_ok_iff hplan).mp hrun
  -- the first upload has found the tags of the script
  have hfirst := transmitted_transmission u store uploadId schedule source plan
  obtain ⟨count, tag, htags⟩ := hfirst.exists_tagsOf hstore endedAt_transmission hjoin
  obtain ⟨_, hprepared, hread⟩ := exists_slicing_source path hreach hworkers hplan u.source
  obtain rfl := Except.ok.inj (hsource.symm.trans hprepared)
  have hsettled := hfirst.settled hstore htags hdivisor
    (counted_transmission u store uploadId schedule source plan) endedAt_transmission hread
    (lost_not_mem_of_joined hjoin)
  obtain rfl := Except.ok.inj (hjoin.symm.trans hsettled.joined)
  -- so does the second one, with a source of its own
  obtain ⟨source', hprepared', hread'⟩ := exists_slicing_source path hreach hworkers hplan mode
  have hlost := lost_not_mem_transmission { u with source := mode } store uploadId hschedule
    (bodies_of_reads hdivisor hread')
  have hsecond := transmitted_transmission { u with source := mode } store uploadId schedule'
    source' plan
  have hsettled' := (hsecond.settled hstore htags hdivisor
    (counted_transmission { u with source := mode } store uploadId schedule' source' plan)
    endedAt_transmission hread' hlost).of_mode
  have halike := hsettled.alike hsettled'
  refine ⟨_, (multipart_eq_ok_iff (u := { u with source := mode }) hplan).mpr
    ⟨uploadId, source', _, hopened, hprepared', hsettled'.joined, ?_, rfl⟩, halike.cons _⟩
  rw [halike.answer_eq hstore]
  exact htag

/-! ### Uploads in one request -/

/-- **A file that is sent in one request is sent whole**, whatever the mode. -/
theorem putObject_file (u : Upload) (store : Store) (path : String)
    (hreach : content.size ≤ maxOffset) (t : Traffic) :
    u.putObject store path content.size (.file content) t =
      ((accepted .putObject (store t.log { u.request "PUT" with body := content })).bind
          (headerTag .putObject) |>.map EntityTag.unquote,
        ⟨{ u.request "PUT" with body := content } :: t.log, t.retries⟩) := by
  obtain ⟨source, hsource, hread⟩ :=
    PartSource.prepare_ok path u.source hreach (show 0 < 1 from one_pos)
  have hwhole : (⟨0, content.size⟩ : Span).slice content = content := by
    rw [Span.slice, Span.stop, Nat.zero_add]
    exact extract_of_size_le le_rfl
  have hbody := hread ⟨0, content.size⟩ (Nat.zero_add _).le
  rw [hwhole] at hbody
  simp only [putObject, hsource, hbody, Traffic.send]

theorem putObject_of_mode (u : Upload) (mode : SourceMode) (store : Store) (path : String)
    (hreach : content.size ≤ maxOffset) (t : Traffic) :
    putObject { u with source := mode } store path content.size (.file content) t =
      u.putObject store path content.size (.file content) t := by
  rw [putObject_file _ store path hreach, putObject_file u store path hreach]
  rfl

/-- One worker sends a file in one request. -/
theorem run_eq_putObject (store : Store) (path : String) (schedule : Schedule) {size : Nat}
    (hworkers : u.workers = 1) (hretries : 1 ≤ u.maxRetries) (hsize : slot.size = .ok size) :
    u.run store path slot schedule =
      ((u.putObject store path size slot .none).1.map fun etag => ⟨etag, u.workers, size⟩,
        (u.putObject store path size slot .none).2) := by
  have hcheck : u.check = .ok () := check_eq_ok.mpr ⟨hworkers.ge, hretries⟩
  simp only [run, hcheck, hsize, if_pos hworkers]

/-! ### Uploads -/

/-- An upload that is refused does not succeed. -/
theorem check_of_run {outcome : UploadOutcome} {t : Traffic}
    (hrun : u.run store path slot schedule = (.ok outcome, t)) : u.check = .ok () := by
  cases hcheck : u.check with
  | ok => rfl
  | error e => simp [run, hcheck] at hrun

/-- **The way in which a file is brought into memory cannot be seen.**  The file has a size up to
`maxOffset`, as every file has.

To preload it gives the file, for any number of workers: also for fewer bytes than workers, and in
whatever order the workers are executed.

If an upload succeeds with a store that follows a script, it succeeds in every mode, with the same
outcome, with the same requests for every operation in the same order, and with as many retries.  The
parts may take their turns in any order in both of the uploads; only, no part of the second one is
cancelled. -/
theorem run_of_mode (path : String) (hreach : content.size ≤ maxOffset) :
    (∀ parts, 0 < parts →
      PartSource.preload path content.size parts (.file content) = .ok (.memory content) ∧
      ∃ run, (PartSource.preloadSpec path content.size parts).build = .ok run ∧
        ∀ order, order.Perm run.planOrder → ∃ report,
          run.read (.file content) order = .ok report ∧ report.total = content.size ∧
          report.buffer = some content) ∧
    ∀ (u : Upload) (store : Store) (script : Script) (schedule : Schedule)
      (outcome : UploadOutcome) (t : Traffic), store.Follows script →
      u.run store path (.file content) schedule = (.ok outcome, t) →
      ∀ (mode : SourceMode) (schedule' : Schedule), schedule'.Lossless →
        ∃ t', run { u with source := mode } store path (.file content) schedule' =
          (.ok outcome, t') ∧ t.Alike t' := by
  refine ⟨fun parts hparts => ⟨PartSource.preload_ok path hreach hparts,
    PartSource.preload_run_ok path hreach hparts⟩, ?_⟩
  intro u store script schedule outcome t hstore hrun mode schedule' hschedule
  obtain ⟨hworkers, hretries⟩ := check_eq_ok.mp (check_of_run hrun)
  have hsize : (Slot.file content).size = .ok content.size := rfl
  rcases Nat.eq_or_lt_of_le hworkers with hone | hseveral
  · have hrun' := run_eq_putObject (u := { u with source := mode }) store path schedule' hone.symm
      hretries hsize
    rw [putObject_of_mode u mode store path hreach,
      ← run_eq_putObject store path schedule hone.symm hretries hsize, hrun] at hrun'
    exact ⟨t, hrun', .refl t⟩
  · obtain ⟨plan, hplan⟩ := Plan.even_ok_of_pos content.size hworkers
    rw [run_eq_multipart store path schedule hseveral hretries hsize] at hrun
    rcases hparts : u.multipart store path content.size (.file content) schedule .none with
      ⟨e | etag, y⟩
    · rw [hparts] at hrun
      cases (Prod.mk.inj hrun).1
    · rw [hparts] at hrun
      obtain ⟨houtcome, rfl⟩ := Prod.mk.inj hrun
      obtain ⟨t', hparts', halike⟩ :=
        multipart_of_mode hreach hworkers hplan hstore hparts mode hschedule
      have hrun' := run_eq_multipart (u := { u with source := mode }) store path schedule' hseveral
        hretries hsize
      rw [hparts'] at hrun'
      exact ⟨t', hrun'.trans (congrArg (·, t') houtcome), halike⟩

/-- A script in which the first reply to the second part has no tag. -/
def hesitant : Script := fun op n =>
  match op with
  | .initiate => .ok ⟨200, [], "<UploadId>7</UploadId>".toUTF8⟩
  | .part number =>
    if number = "2" ∧ n = 0 then .ok ⟨200, [], ByteArray.empty⟩
    else .ok ⟨200, [("etag", [0x61])], ByteArray.empty⟩
  | _ => .ok ⟨200, [], "<ETag>x</ETag>".toUTF8⟩

/-- Three bytes are sent in two parts, read on demand and one after the other; then they are
preloaded, and the parts take turns.  A preloaded copy with five workers is the file, too. -/
theorem run_of_mode_hesitant :
    let u : Upload := { bucket := "b", key := "k", workers := 2, maxRetries := 1 }
    let content : ByteArray := ⟨#[1, 2, 3]⟩
    let crossed : Schedule := ⟨[⟨1, false⟩, ⟨0, false⟩, ⟨1, false⟩, ⟨0, false⟩], false, []⟩
    content.size ≤ maxOffset ∧ crossed.Lossless ∧
    PartSource.preload "f.bin" 3 5 (.file content) = .ok (.memory content) ∧
    ∃ t t', u.run (Store.ofScript hesitant) "f.bin" (.file content) .inOrder =
        (.ok ⟨"x", 2, 3⟩, t) ∧
      run { u with source := .preload } (Store.ofScript hesitant) "f.bin" (.file content)
        crossed = (.ok ⟨"x", 2, 3⟩, t') ∧ t.Alike t' := by
  intro u content crossed
  have hreach : content.size ≤ maxOffset := by decide
  have hcrossed : crossed.Lossless := by decide
  have hresult : (u.run (Store.ofScript hesitant) "f.bin" (.file content) .inOrder).1 =
      .ok ⟨"x", 2, 3⟩ := by decide +kernel
  have hrun : u.run (Store.ofScript hesitant) "f.bin" (.file content) .inOrder =
      (.ok ⟨"x", 2, 3⟩, (u.run (Store.ofScript hesitant) "f.bin" (.file content) .inOrder).2) := by
    rw [← hresult]
  obtain ⟨hpreload, hmodes⟩ := run_of_mode "f.bin" hreach
  obtain ⟨t', hrun', halike⟩ := hmodes u _ hesitant .inOrder _ _
    (Store.follows_ofScript hesitant) hrun .preload crossed hcrossed
  exact ⟨hreach, hcrossed, (hpreload 5 (by decide)).1, _, t', hrun, hrun', halike⟩

end Upload

end StripeTransfer
