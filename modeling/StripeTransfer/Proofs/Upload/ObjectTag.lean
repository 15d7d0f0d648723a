/-
StripeTransfer/Proofs/Upload/ObjectTag.lean

The tag that an upload reports.  One worker takes it from the header of the one
reply there is (`putTag`), several workers from the markup of the reply that
completes the upload (`completedTag`).  Either way the reply decides how the upload ends: nothing
that comes before or behind it can change the result
(`Upload.putObject_of_exchange`, `Upload.Course.of_exchange`).  So a tag that is
carried in quotes is reported without them on both ways (`Upload.run_etag`).
-/
import StripeTransfer.Proofs.Store.EntityTag
import StripeTransfer.Proofs.Upload.Modes
import Mathlib

namespace StripeTransfer

open Text

/-- A reply carries a tag in quotes, where the reply to an operation has it. -/
inductive Reply.Carries (x : String) (reply : Reply) : Operation → Prop
  | header : EntityTag.InHeader x reply → Carries x reply .put
  | element : EntityTag.InElement x reply.text.toList → Carries x reply .complete

namespace Upload

variable {u : Upload} {store : Store} {path x : String} {slot : Slot} {schedule : Schedule}
  {plan : Plan} {y : Exchange} {reply : Reply}

/-! ### One request -/

/-- **The reply to the one request decides.** -/
theorem putObject_of_exchange {size : Nat}
    (hy : y ∈ store.exchanges (u.putObject store path size slot .none).2.log) :
    y.request.operation = .put ∧ (u.putObject store path size slot .none).1 = putTag y.answer := by
  unfold putObject at hy ⊢
  cases hsource : PartSource.prepare path size 1 u.source slot with
  | error e => simp [hsource, Traffic.none] at hy
  | ok source =>
    cases hbody : source.read ⟨0, size⟩ with
    | error failure => cases failure <;> simp [hsource, hbody, Traffic.none] at hy
    | ok body =>
      simp only [hsource, hbody, Traffic.send, Traffic.none, Store.exchanges_cons,
        Store.exchanges_nil, List.mem_singleton] at hy ⊢
      subst hy
      exact ⟨rfl, rfl⟩

/-! ### Parts -/

/-- **The reply to the request that completes an upload decides**; no request of an upload in parts
has the whole file. -/
theorem Course.of_exchange {result : Except UploadError String} {log : List Request}
    (h : Course u store path slot schedule plan result log) (hy : y ∈ store.exchanges log) :
    y.request.operation ≠ .put ∧
      (y.request.operation = .complete → result = completedTag y.answer) := by
  have hsent {uploadId : String} {source : PartSource}
      (hy : y ∈ store.exchanges (u.transmission store uploadId schedule source plan).traffic.log) :
      y.request.operation ≠ .put ∧ y.request.operation ≠ .complete := by
    have htransmitted := transmitted_transmission u store uploadId schedule source plan
    rcases htransmitted.operation_of_mem (Store.mem_of_mem_exchanges hy) with hoperation | ⟨_, hoperation⟩
    · exact hoperation ▸ ⟨nofun, nofun⟩
    · exact hoperation ▸ ⟨nofun, nofun⟩
  cases h with
  | refused =>
    obtain rfl := List.mem_singleton.mp hy
    exact ⟨nofun, nofun⟩
  | unprepared =>
    simp only [Store.exchanges_cons, Store.exchanges_nil, List.mem_cons, List.not_mem_nil,
      or_false] at hy
    rcases hy with rfl | rfl
    · exact ⟨nofun, nofun⟩
    · exact ⟨nofun, nofun⟩
  | interrupted hopened hsource hjoin hlate =>
    rcases Store.mem_exchanges_append hy with hmem | hmem
    · obtain ⟨number, body, hrequest⟩ := hlate _ hmem
      exact hrequest ▸ ⟨nofun, nofun⟩
    · rcases List.mem_cons.mp hmem with rfl | hmem
      · exact ⟨nofun, nofun⟩
      · exact ⟨(hsent hmem).1, fun hcomplete => absurd hcomplete (hsent hmem).2⟩
  | uncompleted hopened hsource hjoin htag =>
    rcases List.mem_cons.mp hy with rfl | hy
    · exact ⟨nofun, nofun⟩
    · rcases List.mem_cons.mp hy with rfl | hy
      · exact ⟨nofun, fun _ => htag.symm⟩
      · exact ⟨(hsent hy).1, fun hcomplete => absurd hcomplete (hsent hy).2⟩
  | completed hopened hsource hjoin htag =>
    rcases List.mem_cons.mp hy with rfl | hy
    · exact ⟨nofun, fun _ => htag.symm⟩
    · exact ⟨(hsent hy).1, fun hcomplete => absurd hcomplete (hsent hy).2⟩

/-! ### The tag that is reported -/

/-- A tag that is found in a reply is reported just if the reply is no error. -/
theorem unquoted_eq_ok_iff {step : UploadStep} {find : Reply → Except UploadError String}
    {quoted etag : String} (hfind : find reply = .ok quoted) :
    ((accepted step (.ok reply)).bind find).map EntityTag.unquote = .ok etag ↔
      reply.isError = false ∧ etag = EntityTag.unquote quoted := by
  rw [unquoted_eq_ok]
  constructor
  · rintro ⟨reply', quoted', hreply, herror, hfind', rfl⟩
    obtain rfl := Except.ok.inj hreply
    obtain rfl := Except.ok.inj (hfind.symm.trans hfind')
    exact ⟨herror, rfl⟩
  · rintro ⟨herror, rfl⟩
    exact ⟨reply, quoted, rfl, herror, hfind, rfl⟩

/-- A tag in a header is reported without its quotes. -/
theorem putTag_eq_ok_iff (h : EntityTag.InHeader x reply) (hx : EntityTag.IsPlain x)
    {etag : String} : putTag (.ok reply) = .ok etag ↔ reply.isError = false ∧ etag = x := by
  obtain ⟨quoted, hread, rfl⟩ := h.exists_ofReply? hx
  exact unquoted_eq_ok_iff (headerTag_eq_ok_iff.mpr hread)

/-- A tag in an element is reported without its quotes. -/
theorem completedTag_eq_ok_iff (h : EntityTag.InElement x reply.text.toList)
    (hx : EntityTag.IsPlain x) {etag : String} :
    completedTag (.ok reply) = .ok etag ↔ reply.isError = false ∧ etag = x := by
  obtain ⟨quoted, hread, rfl⟩ := h.exists_element? hx
  exact unquoted_eq_ok_iff (elementText_eq_ok_iff.mpr hread)

/-- An upload of which the store has seen anything was not refused, and has found its file. -/
theorem checked_of_exchange (hy : y ∈ store.exchanges (u.run store path slot schedule).2.log) :
    (1 ≤ u.workers ∧ 1 ≤ u.maxRetries) ∧ ∃ size, slot.size = .ok size := by
  cases hcheck : u.check with
  | error e => simp [run, hcheck, Traffic.none] at hy
  | ok =>
    cases hsize : slot.size with
    | error cause => simp [run, hcheck, hsize, Traffic.none] at hy
    | ok size => exact ⟨check_eq_ok.mp hcheck, size, rfl⟩

/-- The outcome carries the tag that is reported. -/
theorem map_outcome_eq_ok_iff {result : Except UploadError String} {p : Prop}
    (h : ∀ etag, result = .ok etag ↔ p ∧ etag = x) {parts size : Nat} {outcome : UploadOutcome} :
    (result.map fun etag => (⟨etag, parts, size⟩ : UploadOutcome)) = .ok outcome ↔
      p ∧ outcome = ⟨x, parts, size⟩ := by
  constructor
  · intro heq
    cases result with
    | error e => cases heq
    | ok etag =>
      obtain ⟨hp, rfl⟩ := (h etag).mp rfl
      exact ⟨hp, (Except.ok.inj heq).symm⟩
  · rintro ⟨hp, rfl⟩
    rw [(h x).mpr ⟨hp, rfl⟩]
    rfl

/-- **The tag that an upload reports.**  If the reply to the one request has a tag in its header, or
the reply to the completion has it in an element, in quotes of any kind, then the upload succeeds just
if this reply is no error, and reports the tag as it stands between the quotes. -/
theorem run_etag (hx : EntityTag.IsPlain x) (u : Upload) (store : Store) (path : String)
    (slot : Slot) (schedule : Schedule)
    (hy : y ∈ store.exchanges (u.run store path slot schedule).2.log)
    (hanswer : y.answer = .ok reply) (hcarries : reply.Carries x y.request.operation) :
    ∃ size, slot.size = .ok size ∧ ∀ outcome, (u.run store path slot schedule).1 = .ok outcome ↔
      reply.isError = false ∧ outcome = ⟨x, u.workers, size⟩ := by
  obtain ⟨⟨hworkers, hretries⟩, size, hsize⟩ := checked_of_exchange hy
  refine ⟨size, hsize, fun outcome => ?_⟩
  rcases Nat.eq_or_lt_of_le hworkers with hone | hseveral
  · rw [run_eq_putObject store path schedule hone.symm hretries hsize] at hy ⊢
    obtain ⟨hput, hresult⟩ := putObject_of_exchange hy
    rw [hput] at hcarries
    cases hcarries with
    | header h =>
      refine map_outcome_eq_ok_iff fun etag => ?_
      rw [hresult, hanswer]
      exact putTag_eq_ok_iff h hx
  · obtain ⟨plan, hplan⟩ := Plan.even_ok_of_pos size hworkers
    rw [run_eq_multipart store path schedule hseveral hretries hsize] at hy ⊢
    obtain ⟨hput, hcomplete⟩ :=
      (course_multipart u store path slot schedule hplan).of_exchange hy
    generalize hoperation : y.request.operation = operation at hcarries
    cases hcarries with
    | header => exact absurd hoperation hput
    | element h =>
      refine map_outcome_eq_ok_iff fun etag => ?_
      rw [hcomplete hoperation, hanswer]
      exact completedTag_eq_ok_iff h hx

/-- A reply that has a tag with quotes of its own in an element. -/
def marked : Reply := ⟨200, [], "<r><e:etag a='1'>\n&#34;\"a&quot;&#34; </ETAG></r>".toUTF8⟩

theorem inElement_marked : EntityTag.InElement "\"a&quot;" marked.text.toList := by
  have htext : marked.text = "<r><e:etag a='1'>\n&#34;\"a&quot;&#34; </ETAG></r>" := by
    decide +kernel
  have hbefore : ∀ tag, Markup.Opening ['E', 'T', 'a', 'g'] tag → ¬ tag <:+: ['<', 'r', '>'] := by
    -- an opening tag is longer
    rintro tag ⟨-, hname, -⟩ hinfix
    have hlength := hinfix.length_le
    simp only [List.length_cons, List.length_append, ← hname.length_eq] at hlength
    omega
  have hopening : Markup.Opening ['E', 'T', 'a', 'g'] "<e:etag a='1'>".toList := by
    have hqualifier : Markup.IsQualifier ['e', ':'] :=
      .inr ⟨['e'], by decide, List.forall_mem_singleton.mpr (by decide +kernel), rfl⟩
    have hname : Markup.IsName ['E', 'T', 'a', 'g'] ['e', 't', 'a', 'g'] := by
      unfold Markup.IsName
      decide
    have hattributes : Markup.IsAttributes [' ', 'a', '=', '\'', '1', '\''] :=
      .inr ⟨' ', ['a', '=', '\'', '1', '\''], rfl, by decide, rfl⟩
    exact .intro hqualifier hname hattributes
  have hclosing : Markup.Closing ['E', 'T', 'a', 'g'] "</ETAG>".toList := by
    have hqualifier : Markup.IsQualifier [] := .inl rfl
    have hname : Markup.IsName ['E', 'T', 'a', 'g'] ['E', 'T', 'A', 'G'] := by
      unfold Markup.IsName
      decide
    exact .intro hqualifier hname
  have hblank : AllBlank ['\n'] ∧ AllBlank [' '] := by decide
  have hquote : "&#34;".toList ∈ EntityTag.quotes := by decide
  rw [htext]
  exact .intro hbefore hopening hblank.1 hquote hblank.2 hclosing

/-- A store that gives every object the same tag, with quotes of its own at its ends. -/
def quoting : Store := fun _ r =>
  match r.operation with
  | .initiate => .ok ⟨200, [], "<UploadId>7</UploadId>".toUTF8⟩
  | .complete => .ok marked
  | _ => .ok ⟨200, [("ETag", octets "\"\"a&quot;\"")], ByteArray.empty⟩

theorem exists_exchange_quoting {log : List Request} {op : Operation}
    (h : op ∈ log.map Request.operation) (hop : op = .put ∨ op = .complete) :
    ∃ y ∈ quoting.exchanges log, ∃ reply, y.answer = .ok reply ∧ reply.isError = false ∧
      reply.Carries "\"a&quot;" y.request.operation := by
  induction log with
  | nil => cases h
  | cons r log ih =>
    rcases List.mem_cons.mp h with rfl | h
    · refine ⟨_, List.mem_cons_self, ?_⟩
      rcases hop with hput | hcomplete
      · refine ⟨⟨200, [("ETag", octets "\"\"a&quot;\"")], ByteArray.empty⟩, ?_, rfl, ?_⟩
        · simp only [quoting, hput]
        · rw [hput]
          exact .header (by decide +kernel)
      · refine ⟨marked, ?_, rfl, ?_⟩
        · simp only [quoting, hcomplete]
        · rw [hcomplete]
          exact .element inElement_marked
    · obtain ⟨y, hy, hreply⟩ := ih h
      exact ⟨y, List.mem_cons_of_mem _ hy, hreply⟩

/-- One pair of quotes is taken off on both ways. -/
theorem run_etag_quoting :
    let u : Upload := { bucket := "b", key := "k" }
    let slot : Slot := .file ⟨#[1, 2, 3]⟩
    EntityTag.IsPlain "\"a&quot;" ∧
      ∀ workers ∈ [1, 2],
        (∃ y ∈ quoting.exchanges (run { u with workers } quoting "f.bin" slot .inOrder).2.log,
          ∃ reply, y.answer = .ok reply ∧ reply.Carries "\"a&quot;" y.request.operation) ∧
        (run { u with workers } quoting "f.bin" slot .inOrder).1 =
          .ok ⟨"\"a&quot;", workers, 3⟩ := by
  intro u slot
  have hx : EntityTag.IsPlain "\"a&quot;" := by decide +kernel
  have hsent : ∀ workers ∈ [1, 2], ∃ op ∈ (run { u with workers } quoting "f.bin" slot
      .inOrder).2.log.map Request.operation, op = .put ∨ op = .complete := by decide +kernel
  refine ⟨hx, fun workers hworkers => ?_⟩
  obtain ⟨op, hmem, hop⟩ := hsent workers hworkers
  obtain ⟨y, hy, reply, hanswer, hok, hcarries⟩ := exists_exchange_quoting hmem hop
  obtain ⟨size, hsize, hrun⟩ := run_etag hx _ _ _ _ _ hy hanswer hcarries
  obtain rfl := Except.ok.inj hsize
  exact ⟨⟨y, hy, reply, hanswer, hcarries⟩, (hrun _).mpr ⟨hok, rfl⟩⟩

end Upload

end StripeTransfer
