/-
StripeTransfer/Proofs/Upload/Exchange.lean

What a store has seen of an upload.  A log lists requests only; together with the
store it also says what came back for each of them (`Store.exchanges`), since a
store answers a request by what it has received before.  The exchanges about one
part are its history (`Store.history`).

The parts share one log.  They do not get in each other's way there, because no
two numbers are written alike: a request for one part leaves the histories of the
others as they were (`Store.history_part_of_ne`).
-/
import StripeTransfer.Upload.Session
import Mathlib

namespace StripeTransfer

/-- A request that a store has received, and what came back for it. -/
structure Exchange where
  request : Request
  answer : Except UploadError Reply

namespace Store

variable {store : Store} {log : List Request} {r : Request}

/-- The requests of a log with what came back for them, the latest one first. -/
def exchanges (store : Store) : List Request → List Exchange
  | [] => []
  | r :: log => ⟨r, store log r⟩ :: exchanges store log

/-- The exchanges about the part of a number, the latest one first. -/
def history (store : Store) (log : List Request) (number : Nat) : List Exchange :=
  (store.exchanges log).filter fun x => x.request.operation = .part (toString number)

@[simp] theorem exchanges_nil : store.exchanges [] = [] := rfl

@[simp] theorem exchanges_cons :
    store.exchanges (r :: log) = ⟨r, store log r⟩ :: store.exchanges log := rfl

theorem map_request_exchanges (store : Store) (log : List Request) :
    (store.exchanges log).map Exchange.request = log := by
  induction log with
  | nil => rfl
  | cons r log ih => rw [exchanges_cons, List.map_cons, ih]

/-- What was exchanged was requested. -/
theorem mem_of_mem_exchanges {x : Exchange} (h : x ∈ store.exchanges log) : x.request ∈ log := by
  have hmem : x.request ∈ (store.exchanges log).map Exchange.request := List.mem_map_of_mem h
  rwa [map_request_exchanges] at hmem

theorem mem_exchanges_append {before : List Request} {x : Exchange}
    (h : x ∈ store.exchanges (log ++ before)) :
    x.request ∈ log ∨ x ∈ store.exchanges before := by
  induction log with
  | nil => exact Or.inr h
  | cons r log ih =>
    rw [List.cons_append, exchanges_cons, List.mem_cons] at h
    rcases h with rfl | h
    · exact Or.inl List.mem_cons_self
    · exact (ih h).imp_left (List.mem_cons_of_mem r)

end Store

/-! ### What the requests of an upload ask for -/

namespace Upload

variable (u : Upload) (uploadId : String)

@[simp] theorem operation_openRequest : u.openRequest.operation = .initiate := rfl

@[simp] theorem operation_partRequest (number : Nat) (body : ByteArray) :
    (u.partRequest uploadId number body).operation = .part (toString number) := rfl

@[simp] theorem operation_completeRequest (parts : List CompletedPart) :
    (u.completeRequest uploadId parts).operation = .complete := rfl

end Upload

/-- No two numbers are written alike. -/
theorem Operation.part_inj {m n : Nat} :
    Operation.part (toString m) = .part (toString n) ↔ m = n := by
  rw [Operation.part.injEq]
  exact Nat.repr_inj

/-! ### Histories of parts -/

namespace Store

variable {store : Store} {log : List Request} {r : Request} {u : Upload} {uploadId : String}
  {number : Nat} {body : ByteArray}

theorem history_cons_of_ne (h : r.operation ≠ .part (toString number)) :
    store.history (r :: log) number = store.history log number := by
  rw [history, exchanges_cons, List.filter_cons_of_neg]
  · rfl
  · simpa using h

/-- A request for a part is the latest exchange about it. -/
theorem history_part : store.history (u.partRequest uploadId number body :: log) number =
    ⟨u.partRequest uploadId number body, store log (u.partRequest uploadId number body)⟩ ::
      store.history log number := by
  simp [history]

/-- A request for a part tells nothing about another one. -/
theorem history_part_of_ne {other : Nat} (h : number ≠ other) :
    store.history (u.partRequest uploadId number body :: log) other = store.history log other := by
  apply history_cons_of_ne
  rw [Upload.operation_partRequest, Ne, Operation.part_inj]
  exact h

/-- The requests for a part are as many as the exchanges about it. -/
theorem length_history : (store.history log number).length =
    (log.filter fun r => r.operation = .part (toString number)).length := by
  conv_rhs => rw [← map_request_exchanges store log, List.filter_map]
  rw [List.length_map]
  rfl

end Store

/-! ### Replies -/

section Replies

variable {answer : Except UploadError Reply} {step : UploadStep}

/-- A reply is accepted just if it reports no error. -/
theorem accepted_eq_ok {reply : Reply} :
    accepted step answer = .ok reply ↔ answer = .ok reply ∧ reply.isError = false := by
  cases answer with
  | error e => simp [accepted, Except.bind]
  | ok r =>
    by_cases h : r.isError
    · simp only [accepted, Except.bind, checkReply, if_pos h, Except.ok.injEq]
      constructor
      · rintro ⟨⟩
      · rintro ⟨rfl, herror⟩
        exact absurd h (by simp [herror])
    · simp only [accepted, Except.bind, checkReply, if_neg h, Except.ok.injEq]
      constructor
      · rintro rfl
        exact ⟨rfl, by simpa using h⟩
      · rintro ⟨rfl, -⟩
        rfl

/-- Something is found in what came back just if it is found in a reply that reports no error. -/
theorem bind_accepted_eq_ok {find : Reply → Except UploadError String} {text : String} :
    (accepted step answer).bind find = .ok text ↔
      ∃ reply, answer = .ok reply ∧ reply.isError = false ∧ find reply = .ok text := by
  cases h : accepted step answer with
  | error e =>
    simp only [Except.bind, reduceCtorEq, false_iff]
    rintro ⟨reply, hanswer, herror, -⟩
    rw [accepted_eq_ok.mpr ⟨hanswer, herror⟩] at h
    cases h
  | ok reply =>
    obtain ⟨rfl, herror⟩ := accepted_eq_ok.mp h
    simp [Except.bind, herror]

theorem elementText_eq_ok_iff {reply : Reply} {name text : String} :
    elementText step name reply = .ok text ↔ Markup.element? reply.text name = some text := by
  unfold elementText
  cases Markup.element? reply.text name <;> simp

theorem headerTag_eq_ok_iff {reply : Reply} {tag : String} :
    headerTag step reply = .ok tag ↔ EntityTag.ofReply? reply = some tag := by
  unfold headerTag
  cases EntityTag.ofReply? reply <;> simp

/-- A tag is reported without quotes, from a reply that reports no error. -/
theorem unquoted_eq_ok {find : Reply → Except UploadError String} {etag : String} :
    ((accepted step answer).bind find).map EntityTag.unquote = .ok etag ↔
      ∃ reply quoted, answer = .ok reply ∧ reply.isError = false ∧ find reply = .ok quoted ∧
        etag = EntityTag.unquote quoted := by
  constructor
  · intro h
    cases htext : (accepted step answer).bind find with
    | error e =>
      rw [htext] at h
      cases h
    | ok quoted =>
      rw [htext] at h
      obtain ⟨reply, hanswer, herror, hfind⟩ := bind_accepted_eq_ok.mp htext
      exact ⟨reply, quoted, hanswer, herror, hfind, (Except.ok.inj h).symm⟩
  · rintro ⟨reply, quoted, hanswer, herror, hfind, rfl⟩
    rw [bind_accepted_eq_ok.mpr ⟨reply, hanswer, herror, hfind⟩]
    rfl

/-- The tag of an object, from what came back for the whole of it. -/
def putTag (answer : Except UploadError Reply) : Except UploadError String :=
  ((accepted .putObject answer).bind (headerTag .putObject)).map EntityTag.unquote

end Replies

end StripeTransfer
