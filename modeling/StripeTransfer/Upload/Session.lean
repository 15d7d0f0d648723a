/-
StripeTransfer/Upload/Session.lean

Uploading a file to one object of a store.

With one worker the whole file goes out in one request.  With more, the upload
is opened with the store, which names it; the parts of an even plan are sent at
the same time, and a part whose reply carries no tag is sent again, up to a
number of times; then the upload is completed with a manifest of all tags.  If
anything fails after the upload was opened, it is aborted once, and the error
that made it fail is kept whatever the store answers to that.

A store is any function of the requests it has received so far and the next one.
The parts take steps in any order.  To send a request and to look at its reply
are two steps, so parts may come to their end in another order than the one in
which the store has received them.  A `Schedule` lists the turns of the parts,
says whether parts that are still under way go on after one of them has failed,
and lists the turns that are taken after the upload was aborted already.
-/
import StripeTransfer.Extent.Plan
import StripeTransfer.Store.EntityTag
import StripeTransfer.Store.Markup
import StripeTransfer.Tasks
import StripeTransfer.Upload.Manifest
import StripeTransfer.Upload.Source

namespace StripeTransfer

/-- A store: the reply to a request, given the requests received before, the latest one first. -/
abbrev Store : Type := List Request → Request → Except UploadError Reply

/-- What has happened between an uploader and a store. -/
structure Traffic where
  /-- All requests sent, the latest one first. -/
  log : List Request
  /-- How often a part was sent again, counted in a word of 32 bits. -/
  retries : Nat

/-- Nothing sent yet. -/
def Traffic.none : Traffic := ⟨[], 0⟩

/-- Sends a request to a store. -/
def Traffic.send (t : Traffic) (store : Store) (r : Request) : Except UploadError Reply × Traffic :=
  (store t.log r, { t with log := r :: t.log })

/-- The parameters of an upload. -/
structure Upload where
  bucket : String
  key : String
  workers : Nat := 1
  /-- How often a part without a tag is sent again. -/
  maxRetries : Nat := 2
  source : SourceMode := .onDemand
  deriving Repr, DecidableEq

/-- The result of a successful upload. -/
structure UploadOutcome where
  /-- The tag of the object, without quotes. -/
  etag : String
  parts : Nat
  /-- The size of the file. -/
  size : Nat
  deriving Repr, DecidableEq

/-- A turn of a part. -/
structure Turn where
  /-- The place of the part, from zero on. -/
  place : Nat
  /-- Whether the part panics or is cancelled instead of taking its next step. -/
  lost : Bool
  deriving Repr, DecidableEq

/-- The order in which parts take turns. -/
structure Schedule where
  /-- The turns while the uploader waits for the parts. -/
  turns : List Turn
  /-- Whether parts under way go on to their own end once one of them has failed. -/
  drain : Bool
  /-- The turns of parts that are still under way when the upload has been aborted. -/
  late : List Turn
  deriving Repr, DecidableEq

/-- The parts one after the other, each to its own end. -/
def Schedule.inOrder : Schedule := ⟨[], true, []⟩

/-! ### Replies -/

/-- Accepts a reply, or gives the error that it reports. -/
def checkReply (step : UploadStep) (reply : Reply) : Except UploadError Reply :=
  if reply.isError then
    .error (.protocol step reply.status ((Markup.element? reply.text "Code").getD "unknown error"))
  else .ok reply

/-- A reply that is accepted, from what came back from a store. -/
def accepted (step : UploadStep) (answer : Except UploadError Reply) : Except UploadError Reply :=
  answer.bind (checkReply step)

/-- The tag in the headers of an accepted reply. -/
def headerTag (step : UploadStep) (reply : Reply) : Except UploadError String :=
  match EntityTag.ofReply? reply with
  | some tag => .ok tag
  | none => .error (.protocol step reply.status "missing ETag header")

/-- The text of an element of an accepted reply. -/
def elementText (step : UploadStep) (name : String) (reply : Reply) : Except UploadError String :=
  match Markup.element? reply.text name with
  | some text => .ok text
  | none => .error (.protocol step reply.status s!"missing {name}")

/-- The name of an upload, from what came back for opening it. -/
def openedId (answer : Except UploadError Reply) : Except UploadError String :=
  (accepted .createUpload answer).bind (elementText .createUpload "UploadId")

/-- The tag of the object, from what came back for the completion of an upload. -/
def completedTag (answer : Except UploadError Reply) : Except UploadError String :=
  ((accepted .completeUpload answer).bind (elementText .completeUpload "ETag")).map
    EntityTag.unquote

/-! ### Parts -/

/-- The tag in what came back for a part, unless it reports an error. -/
def partTag? (answer : Except UploadError Reply) : Except UploadError (Option String) :=
  (accepted .uploadPart answer).map EntityTag.ofReply?

/-- How far a part has come. -/
inductive PartStage where
  /-- Its next request has not been sent. -/
  | ready
  /-- A request was sent, and this came back for it. -/
  | sent (answer : Except UploadError Reply)
  /-- It has come to its end. -/
  | ended

/-- One part on its way to the store. -/
structure PartTask where
  /-- The number of the part, from one on. -/
  number : Nat
  body : Except RangeFailure ByteArray
  /-- How often the part was sent. -/
  attempts : Nat
  stage : PartStage

/-- What a part does in a turn. -/
inductive PartStep where
  | send (body : ByteArray)
  /-- Give up the reply, to send the body once more. -/
  | retry
  | stop (completion : Completion UploadError CompletedPart)
  | rest

namespace PartTask

/-- The end of a part that returns a result. -/
def returned (p : PartTask) (result : Except UploadError CompletedPart) :
    Completion UploadError CompletedPart := .returned (p.number - 1) result

/-- What a part that is sent `limit` times at most does next. -/
def next (limit : Nat) (p : PartTask) : PartStep :=
  match p.stage with
  | .ready =>
    match p.body with
    | .ok body =>
      if p.attempts < limit then .send body
      else .stop (p.returned (.error (.partUntagged p.number limit)))
    | .error (.error e) => .stop (p.returned (.error e))
    | .error .outOfBounds => .stop .lost
  | .sent answer =>
    match partTag? answer with
    | .error e => .stop (p.returned (.error e))
    | .ok (some etag) => .stop (p.returned (.ok ⟨p.number, etag⟩))
    | .ok none =>
      if p.attempts < limit then .retry
      else .stop (p.returned (.error (.partUntagged p.number limit)))
  | .ended => .rest

/-- What a part does that is lost. -/
def abandon (p : PartTask) : PartStep :=
  match p.stage with
  | .ended => .rest
  | _ => .stop .lost

/-- Whether a part has come to its end. -/
def hasEnded (p : PartTask) : Bool :=
  match p.stage with
  | .ended => true
  | _ => false

end PartTask

/-- What a part does in a turn. -/
def Turn.stepOf (turn : Turn) (limit : Nat) (p : PartTask) : PartStep :=
  if turn.lost then p.abandon else p.next limit

/-- The parts on their way, what has come to an end, and the traffic. -/
structure Transmission where
  parts : List PartTask
  /-- The latest completion first. -/
  completions : List (Completion UploadError CompletedPart)
  traffic : Traffic

/-- Whether some part has failed. -/
def Transmission.failed (x : Transmission) : Bool := x.completions.any fun c => c.failure?.isSome

/-- Whether the part at a place has come to its end. -/
def Transmission.endedAt (x : Transmission) (place : Nat) : Bool :=
  x.parts[place]?.all PartTask.hasEnded

namespace Upload

/-- A request on the object of an upload. -/
def request (u : Upload) (method : String) : Request := Request.of method u.bucket u.key

/-- The request that opens an upload. -/
def openRequest (u : Upload) : Request := { u.request "POST" with query := [("uploads", "")] }

/-- The request that sends a part. -/
def partRequest (u : Upload) (uploadId : String) (number : Nat) (body : ByteArray) : Request :=
  { u.request "PUT" with
    query := [("partNumber", toString number), ("uploadId", uploadId)], body }

/-- The request that completes an upload. -/
def completeRequest (u : Upload) (uploadId : String) (parts : List CompletedPart) : Request :=
  { u.request "POST" with
    query := [("uploadId", uploadId)], body := (Manifest.text parts).toUTF8 }

/-- The request that gives up an upload. -/
def abortRequest (u : Upload) (uploadId : String) : Request :=
  { u.request "DELETE" with query := [("uploadId", uploadId)] }

/-- How often a part is sent at most: a word of 32 bits, as the number of retries. -/
def attemptLimit (u : Upload) : Nat := Word.wrap32 (1 + u.maxRetries)

/-- How many turns a part takes at most: two for every request, and one to give up without any. -/
def turnLimit (u : Upload) : Nat := 2 * u.attemptLimit + 1

/-- Carries out a step of the part `p`, which is at the given place. -/
def perform (u : Upload) (store : Store) (uploadId : String) (x : Transmission) (place : Nat)
    (p : PartTask) : PartStep → Transmission
  | .send body =>
    let (answer, traffic) := x.traffic.send store (u.partRequest uploadId p.number body)
    { x with
      parts := x.parts.set place { p with attempts := p.attempts + 1, stage := .sent answer }
      traffic }
  | .retry =>
    { x with
      parts := x.parts.set place { p with stage := .ready }
      traffic := { x.traffic with retries := Word.wrap32 (x.traffic.retries + 1) } }
  | .stop completion =>
    { x with
      parts := x.parts.set place { p with stage := .ended }
      completions := completion :: x.completions }
  | .rest => x

/-- Lets a part take a turn. -/
def step (u : Upload) (store : Store) (uploadId : String) (x : Transmission) (turn : Turn) :
    Transmission :=
  match x.parts[turn.place]? with
  | none => x
  | some p => u.perform store uploadId x turn.place p (turn.stepOf u.attemptLimit p)

/-- Lets parts take turns. -/
def after (u : Upload) (store : Store) (uploadId : String) (x : Transmission)
    (turns : List Turn) : Transmission :=
  turns.foldl (u.step store uploadId) x

/-- Lets the part at a place go on to its end, for `fuel` turns at most. -/
def toEnd (u : Upload) (store : Store) (uploadId : String) (place : Nat) :
    (fuel : Nat) → Transmission → Transmission
  | 0, x => x
  | fuel + 1, x =>
    if x.endedAt place then x
    else toEnd u store uploadId place fuel (u.step store uploadId x ⟨place, false⟩)

/-- Lets the parts at some places go on to their end, one after the other; unless parts are drained,
only until one has failed. -/
def finish (u : Upload) (store : Store) (uploadId : String) (drain : Bool) :
    (places : List Nat) → Transmission → Transmission
  | [], x => x
  | place :: rest, x =>
    if !drain && x.failed then x
    else
      finish u store uploadId drain rest (u.toEnd store uploadId place u.turnLimit x)

/-- Sends all parts. -/
def transmit (u : Upload) (store : Store) (uploadId : String) (schedule : Schedule)
    (parts : List PartTask) (t : Traffic) : Transmission :=
  u.finish store uploadId schedule.drain (List.range parts.length)
    (u.after store uploadId ⟨parts, [], t⟩ schedule.turns)

/-- The parts of a plan, with their bodies. -/
def partTasks (source : PartSource) (plan : Plan) : List PartTask :=
  (plan.assignments 0).map fun a => ⟨a.index + 1, source.read a.target, 0, .ready⟩

/-! ### The upload -/

/-- A failure of the parts, with the loss of a part as a failed transfer. -/
def partFailure : TaskFailure UploadError → UploadError
  | .error e => e
  | .lost => .loading .lost

/-- Sends the whole file in one request. -/
def putObject (u : Upload) (store : Store) (path : String) (size : Nat) (slot : Slot) (t : Traffic) :
    Except UploadError String × Traffic :=
  match PartSource.prepare path size 1 u.source slot with
  | .error e => (.error e, t)
  | .ok source =>
    match source.read ⟨0, size⟩ with
    | .error (.error e) => (.error e, t)
    | .error .outOfBounds => (.error (.loading .lost), t)
    | .ok body =>
      let (answer, t) := t.send store { u.request "PUT" with body }
      ((accepted .putObject answer).bind (headerTag .putObject) |>.map EntityTag.unquote, t)

/-- Sends the parts of an opened upload and completes it; also says how far the parts have come. -/
def sendParts (u : Upload) (store : Store) (path : String) (slot : Slot) (plan : Plan)
    (uploadId : String) (schedule : Schedule) (t : Traffic) :
    Except UploadError String × Transmission :=
  match PartSource.prepare path plan.extent plan.workerCount u.source slot with
  | .error e => (.error e, ⟨[], [], t⟩)
  | .ok source =>
    let x := u.transmit store uploadId schedule (partTasks source plan) t
    match Tasks.joinAll plan.workerCount x.completions.reverse with
    | .error failure => (.error (partFailure failure), x)
    | .ok parts =>
      let (answer, t) := x.traffic.send store (u.completeRequest uploadId parts)
      (completedTag answer, { x with traffic := t })

/-- Releases the parts of a failed upload; the answer does not matter. -/
def abort (u : Upload) (store : Store) (uploadId : String) (t : Traffic) : Traffic :=
  (t.send store (u.abortRequest uploadId)).2

/-- Sends the file in parts. -/
def multipart (u : Upload) (store : Store) (path : String) (size : Nat) (slot : Slot)
    (schedule : Schedule) (t : Traffic) : Except UploadError String × Traffic :=
  match Plan.even size u.workers 1 with
  | .error e => (.error (.loading (.refused (.plan e))), t)
  | .ok plan =>
    let (answer, t) := t.send store u.openRequest
    match openedId answer with
    | .error e => (.error e, t)
    | .ok uploadId =>
      match u.sendParts store path slot plan uploadId schedule t with
      | (.ok etag, x) => (.ok etag, x.traffic)
      | (.error e, x) =>
        let aborted := { x with traffic := u.abort store uploadId x.traffic }
        (.error e, (u.after store uploadId aborted schedule.late).traffic)

/-- Checks the parameters. -/
def check (u : Upload) : Except UploadError Unit :=
  if u.workers < 1 then .error (.refused (.tooFewJobs u.workers))
  else if u.maxRetries < 1 then .error (.refused (.tooFewRetries u.maxRetries))
  else .ok ()

/-- Uploads the file found at a path. -/
def run (u : Upload) (store : Store) (path : String) (slot : Slot) (schedule : Schedule) :
    Except UploadError UploadOutcome × Traffic :=
  match u.check with
  | .error e => (.error e, .none)
  | .ok () =>
    match slot.size with
    | .error cause => (.error (.io ⟨.inspect path, cause⟩), .none)
    | .ok size =>
      let (result, t) :=
        if u.workers = 1 then u.putObject store path size slot .none
        else u.multipart store path size slot schedule .none
      (result.map fun etag => ⟨etag, u.workers, size⟩, t)

end Upload

end StripeTransfer
