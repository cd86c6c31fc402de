import Cerbero.Ingest.Admission
import Cerbero.Ingest.HttpBody
import Cerbero.Lib.JsonScanner
import Cerbero.Lib.MediaType
import Cerbero.Preserver.World

/-!
# Ingest/HttpHandler — from a request to a message of the stream

`ServeHTTP` of the JSON frontend, `Accept` of the event bus, and what any number of requests that
are served at a time do to the stream they share.  Every message of the stream carries one of the
requests: it is one the raw preserver accepts, with the metadata its source was authorized with and
the very bytes of the body.  An answer of 202 is only given when the message of the request is in
the stream, or when the stream took it for a duplicate of one that is (**`carried_of_reachable`**).
-/

namespace Cerbero

namespace HttpIngest

open Ingest (AdmittedEvent AuthorizedAdmission Call Core Error ErrorCategory Prepared Result World)
open Journald (AdmissionMetadata)
open Preserver (Codec PubAck RawMessage rawReceivedSubject validateDelivery)
open Prog (attempt checked)

/-! ## Requests and responses -/

/-- `http.Request`: the headers are under their canonical names, with values that are UTF-8. -/
structure HttpRequest where
  method : String
  header : List (String × String)
  body : Reader
  deriving DecidableEq, Repr

/-- `Header.Get`: the first value of a header. -/
def HttpRequest.get (request : HttpRequest) (name : String) : String :=
  ((request.header.find? fun item => item.1 = name).map Prod.snd).getD ""

/-- `ErrorCategory`, with the category of the bus, which the core does not use. -/
inductive WireCategory
  | of (category : ErrorCategory)
  | transport
  deriving DecidableEq, Repr

/-- `CerberoError` in a response. -/
structure WireError where
  code : String
  category : WireCategory
  message : String
  retryable : Bool
  component : String
  requestId : String
  metadata : List (String × String)
  deriving DecidableEq, Repr

/-- `newWireError`. -/
def newWireError (code : String) (category : WireCategory) (message : String) (retryable : Bool)
    (requestId : String) : WireError :=
  ⟨code, category, message, retryable, "cerbero-ingest", requestId, []⟩

/-- An error of the core in a response. -/
def wireOf (e : Ingest.CerberoError) : WireError :=
  ⟨e.code, .of e.category, e.message, e.retryable, e.component, e.requestId, e.metadata⟩

/-- The body of a response. -/
inductive ResponseBody
  | error (wireErr : WireError)
  | accepted (requestId eventId messageId : String)
  deriving DecidableEq, Repr

/-- A response: its status, the headers the handler sets, and its body. -/
structure HttpResponse where
  status : ℕ
  requestId : Option String
  allow : Option String
  body : ResponseBody
  deriving DecidableEq, Repr

/-- `writeError`. -/
def writeError (status : ℕ) (wireErr : WireError) (requestId : String) : HttpResponse :=
  ⟨status, some requestId, none, .error wireErr⟩

/-- `writeInternal`. -/
def internalError (requestId operation : String) : WireError :=
  { newWireError "CER-SYSTEM-INTERNAL" (.of .internal) "internal ingest failure" false requestId with
    metadata := [("operation", operation)] }

/-- The status of a category. -/
def statusOf : ErrorCategory → ℕ
  | .validation => 400
  | .authentication => 401
  | .authorization => 403
  | .rateLimit => 429
  | .internal => 500

/-- `writePrepareError`. -/
def writePrepareError (requestId : String) (e : Error) : HttpResponse :=
  let status := if e.contract.code = "CER-ING-PAYLOAD-TOO-LARGE" then 413
    else statusOf e.contract.category
  writeError status (wireOf e.contract) requestId

/-! ## The handler -/

/-- A message for the stream, with its `Nats-Msg-Id`. -/
structure StreamMessage where
  messageId : String
  raw : RawMessage
  deriving DecidableEq, Repr

/-- `Handler`, with what was injected into it and the libraries it calls. -/
structure Handler (σ : Type) where
  maxPayloadSize : UInt64
  core : Core σ
  /-- `MetadataResolver.Resolve`. -/
  resolve : HttpRequest → σ → Except String AdmissionMetadata × σ
  /-- `IDGenerator.New` for identifiers of requests. -/
  newRequestId : σ → Except String String × σ
  codec : Codec
  /-- `proto.Marshal` of a raw event and of an envelope. -/
  marshalRawEvent : RawEvent → Except String (List UInt8)
  marshalEnvelope : CerberoEnvelope → Except String (List UInt8)

/-- What a request asks of the others. -/
inductive HandlerOp (σ : Type)
  | newRequestId
  | resolve (request : HttpRequest)
  /-- `Begin`. -/
  | begin (metadata : AdmissionMetadata)
  /-- `readBounded`. -/
  | readBody (body : Reader)
  /-- `Prepare`. -/
  | prepare (admission : AuthorizedAdmission σ) (request : Ingest.Request Slice)
  /-- `PublishMsg`. -/
  | publish (message : StreamMessage)

/-- What it is answered; a body is a slice, with the bytes it shows. -/
@[reducible] def HandlerOp.Response {σ : Type} : HandlerOp σ → Type
  | .newRequestId => Except String String
  | .resolve _ => Except String AdmissionMetadata
  | .begin _ => Except Error (AuthorizedAdmission σ)
  | .readBody _ => Except BodyError (Slice × List UInt8)
  | .prepare _ _ => Except Error Result
  | .publish _ => Except String (Option PubAck)

@[reducible] def handlerInterface (σ : Type) : Interface := ⟨HandlerOp σ, HandlerOp.Response⟩

section

variable {σ : Type}

/-- A program of the handler. -/
abbrev Serving (σ : Type) : Type → Type := Prog (handlerInterface σ)

/-- Perform one operation. -/
abbrev perform (o : HandlerOp σ) : Serving σ o.Response := @Prog.call (handlerInterface σ) o

namespace Handler

variable (h : Handler σ)

/-- The message `Accept` publishes for a result, if it passes the checks. -/
def messageOf (result : Result) : Except String StreamMessage := do
  Preserver.wrapCheck "validate ingest envelope before publish: "
    (Validation.envelope (some result.envelope))
  (if result.requestId = "" then .ok () else
    Preserver.wrapCheck "validate request correlation metadata: "
      (Validation.uuidV7 "request_id" result.requestId))
  let wire ← (h.marshalEnvelope result.envelope).mapError ("marshal ingest envelope: " ++ ·)
  return ⟨result.envelope.messageId, rawReceivedSubject, wire,
    if result.requestId = "" then none else some result.requestId⟩

/-- What `Accept` makes of the answer of the stream. -/
def acknowledged : Except String (Option PubAck) → Except String Unit
  | .error e => .error ("publish cerbero.v1.raw.received: " ++ e)
  | .ok none => .error "publish returned no JetStream acknowledgement"
  | .ok (some _) => .ok ()

/-- **`Accept`**: the message of a result is published, and only the acknowledgement of the stream
counts as accepted. -/
def accept (result : Result) : Serving σ (Except String Unit) :=
  match h.messageOf result with
  | .error e => return .error e
  | .ok message => do
    let answer ← perform (.publish message)
    return acknowledged answer

/-- The identifier a request comes with, if it is one. -/
def suppliedId (request : HttpRequest) : Option String :=
  let supplied := String.ofList (Text.trim (request.get "X-Request-Id").toList)
  if supplied ≠ "" ∧ (Validation.uuidV7 "request_id" supplied).isOk then some supplied else none

/-- `requestID`: the one the client has sent, or a new one, which has to be a UUIDv7. -/
def requestId (request : HttpRequest) : ExceptT String (Serving σ) String :=
  match suppliedId request with
  | some supplied => return supplied
  | none => do
    let generated ← attempt (perform .newRequestId)
    checked (Preserver.wrapCheck "generated request_id is not UUIDv7: "
      (Validation.uuidV7 "request_id" generated))
    return generated

/-- `isJSONMediaType`. -/
def isJsonMediaType (value : String) : Bool :=
  match MediaType.parseMediaType value with
  | .ok mediaType => MediaType.equalFold mediaType "application/json"
  | .error _ => false

/-- The request for the core. -/
def requestOf (metadata : AdmissionMetadata) (rawPayload : Slice) : Ingest.Request Slice where
  requestId := metadata.requestId
  tenantId := metadata.tenantId
  sourceId := metadata.sourceId
  sensorId := metadata.sensorId
  remoteIdentity := metadata.remoteIdentity
  transport := metadata.transport
  contentType := "application/json"
  encoding := "utf-8"
  eventTime := none
  sequenceNumber := none
  rawPayload := rawPayload

/-- The event of a body is prepared and handed to the bus. -/
def submit (requestId : String) (metadata : AdmissionMetadata) (admission : AuthorizedAdmission σ)
    (rawPayload : Slice) : Serving σ HttpResponse := do
  match ← perform (.prepare admission (requestOf metadata rawPayload)) with
  | .error e => return writePrepareError requestId e
  | .ok result =>
    match ← h.accept result with
    | .error _ =>
      return writeError 503 (newWireError "CER-BUS-PUBLISH-FAILED" .transport
        "event could not be durably admitted to the event bus" true requestId) requestId
    | .ok () =>
      return ⟨202, some requestId, none,
        .accepted requestId result.rawEvent.message.eventId result.envelope.messageId⟩

/-- The body of a request is received. -/
def receive (requestId : String) (metadata : AdmissionMetadata)
    (admission : AuthorizedAdmission σ) (body : Reader) : Serving σ HttpResponse := do
  match ← perform (.readBody body) with
  | .error (.payloadTooLarge _) =>
    return writeError 413 (newWireError "CER-ING-PAYLOAD-TOO-LARGE" (.of .validation)
      "payload exceeds the configured HTTP ingest limit" false requestId) requestId
  | .error (.read _) => return writeError 500 (internalError requestId "read request body") requestId
  | .ok (rawPayload, bytes) =>
    if JsonScanner.valid bytes then h.submit requestId metadata admission rawPayload
    else
      return writeError 400 (newWireError "CER-ING-INVALID-PAYLOAD" (.of .validation)
        "request body must contain valid JSON" false requestId) requestId

/-- The metadata a source is admitted with. -/
def metadataOf (requestId : String) (resolved : AdmissionMetadata) : AdmissionMetadata :=
  { resolved with requestId := requestId, transport := "json-http" }

/-- The source of a request is admitted before its body is received. -/
def authorize (requestId : String) (request : HttpRequest) : Serving σ HttpResponse := do
  match ← perform (.resolve request) with
  | .error _ =>
    return writeError 401 (newWireError "CER-AUTH-UNAUTHENTICATED" (.of .authentication)
      "source authentication metadata could not be resolved" false requestId) requestId
  | .ok resolved =>
    match ← perform (.begin (metadataOf requestId resolved)) with
    | .error e => return writePrepareError requestId e
    | .ok admission => h.receive requestId (metadataOf requestId resolved) admission request.body

/-- **`ServeHTTP`**: the request identifier, the method and the media type, before anything of the
request is read. -/
def serveHttp (request : HttpRequest) : Serving σ HttpResponse := do
  match ← (requestId request).run with
  | .error _ =>
    return ⟨500, none, none, .error (internalError "" "generate request_id")⟩
  | .ok requestId =>
    if request.method ≠ "POST" then
      return { writeError 405 (newWireError "CER-ING-INVALID-PAYLOAD" (.of .validation)
        "only POST is supported for JSON ingest" false requestId) requestId with
        allow := some "POST" }
    else if ¬ isJsonMediaType (request.get "Content-Type") then
      return writeError 415 (newWireError "CER-ING-UNSUPPORTED-ENCODING" (.of .validation)
        "Content-Type must be application/json" false requestId) requestId
    else h.authorize requestId request

end Handler

/-! ## Answers -/

/-- An answer that counts is an acknowledgement. -/
theorem acknowledged_eq_ok {answer : Except String (Option PubAck)}
    (hok : Handler.acknowledged answer = .ok ()) : ∃ ack, answer = .ok (some ack) := by
  cases answer with
  | error e => cases hok
  | ok ack =>
    cases ack with
    | none => cases hok
    | some ack => exact ⟨ack, rfl⟩

/-- A request the core refuses is not accepted. -/
theorem status_writePrepareError (requestId : String) (e : Error) :
    (writePrepareError requestId e).status ≠ 202 := by
  obtain ⟨⟨code, category, message, retryable, component, id, metadata⟩, cause⟩ := e
  simp only [writePrepareError, writeError]
  split
  · decide
  · cases category <;> decide

/-! ## What requests share -/

/-- The arrays of the process and the stream. -/
structure Shared where
  heap : Heap
  stream : List StreamMessage

/-- Later arrays are more arrays; those that were there keep their bytes. -/
instance preorderHeap : Preorder Heap where
  le heap later := heap.arrays <+: later.arrays
  le_refl _ := List.prefix_rfl
  le_trans _ _ _ := List.IsPrefix.trans

/-- A later state has more arrays and more messages. -/
instance preorderShared : Preorder Shared where
  le g t := g.heap ≤ t.heap ∧ g.stream <+: t.stream
  le_refl _ := ⟨le_rfl, List.prefix_rfl⟩
  le_trans _ _ _ h h' := ⟨le_trans h.1 h'.1, h.2.trans h'.2⟩

/-- A publication that is not acknowledged. -/
def Unacknowledged (answer : Except String (Option PubAck)) : Prop :=
  ∀ ack, answer ≠ .ok (some ack)

/-- **What an operation comes to.**  What was injected may be in any state when it is asked.  A
message is stored whether or not the acknowledgement arrives; one whose identifier the stream has
already may be dropped as a duplicate. -/
def outcome (h : Handler σ) : (o : HandlerOp σ) → Shared → o.Response → Shared → Prop
  | .newRequestId, g, answer, g' => g' = g ∧ ∃ s, answer = (h.newRequestId s).1
  | .resolve request, g, answer, g' => g' = g ∧ ∃ s, answer = (h.resolve request s).1
  | .begin metadata, g, answer, g' => ∃ s w,
      (h.core.begin metadata).on ⟨g.heap, s⟩ = (answer, w) ∧ g' = ⟨w.heap, g.stream⟩
  | .readBody body, g, answer, g' => ∃ room, match readBounded room body h.maxPayloadSize with
      | .error e => answer = .error e ∧ g' = g
      | .ok data =>
        answer = .ok (⟨g.heap.next, 0, data.length⟩, data) ∧ g' = ⟨g.heap.alloc data, g.stream⟩
  | .prepare admission request, g, answer, g' => ∃ s w,
      (admission.prepare h.codec h.marshalRawEvent request).on ⟨g.heap, s⟩ = (answer, w) ∧
        g' = ⟨w.heap, g.stream⟩
  | .publish message, g, answer, g' => g' = ⟨g.heap, g.stream ++ [message]⟩ ∨
      g' = g ∧ (Unacknowledged answer ∨ ∃ kept ∈ g.stream, kept.messageId = message.messageId)

/-- **Any number of the requests, served at a time**; a crash takes those under way and their arrays,
not the stream. -/
def ingestMachine (h : Handler σ) (requests : Set HttpRequest) :
    Machine (handlerInterface σ) Shared { request // request ∈ requests } HttpResponse where
  program request := h.serveHttp request.1
  Outcome := outcome h
  Crash g g' := g'.stream = g.stream

/-! ## What a message carries -/

/-- A source was authenticated, is allowed to ingest and was let in, and its metadata has what is
required. -/
structure Authorized (core : Core σ) (metadata : AdmissionMetadata) : Prop where
  principal : ∃ principal, principal.id ≠ "" ∧
    (∃ s, (core.authenticate metadata s).1 = .ok principal) ∧
    (∃ s, (core.authorize principal "events.ingest" metadata s).1 = .ok ()) ∧
    ∃ s, (core.allow principal metadata s).1 = true
  required : core.validateAdmissionMetadata metadata = .ok ()

/-- **A message carries a request**: the identifier of the request, the metadata its source was
authorized with and the bytes of its body, in an event that the raw preserver accepts. -/
structure Carries (h : Handler σ) (request : HttpRequest) (requestId eventId : String)
    (message : StreamMessage) : Prop where
  requestIdValid : Validation.uuidV7 "request_id" requestId = .ok ()
  supplied : ∀ supplied, Handler.suppliedId request = some supplied → requestId = supplied
  /-- The whole body was read, is within the limit and is valid JSON. -/
  body : request.body.ending = .eof ∧ request.body.bytes.length ≤ h.maxPayloadSize.toNat ∧
    JsonScanner.valid request.body.bytes = true
  subject : message.raw.subject = rawReceivedSubject
  requestId_eq : message.raw.requestId = some requestId
  /-- The preserver accepts the message and finds the event of the request in it. -/
  event : ∃ resolved envelope event, (∃ s, (h.resolve request s).1 = .ok resolved) ∧
    Authorized h.core (Handler.metadataOf requestId resolved) ∧
    h.codec.unmarshalEnvelope message.raw.data = some envelope ∧
    envelope.messageId = message.messageId ∧
    validateDelivery h.codec ⟨some envelope, requestId⟩ = .ok (envelope, event) ∧
    AdmittedEvent h.codec (Handler.metadataOf requestId resolved) request.body.bytes event ∧
    event.eventId = eventId ∧ event.contentType = "application/json"

/-- Every message of the stream carries one of the requests. -/
def Sound (h : Handler σ) (requests : Set HttpRequest) (g : Shared) : Prop :=
  ∀ message ∈ g.stream, ∃ request ∈ requests, ∃ requestId eventId,
    Carries h request requestId eventId message

/-- A message is in the stream, or another one that has its identifier, of which it was taken for a
duplicate. -/
def Stored (message : StreamMessage) (g : Shared) : Prop :=
  message ∈ g.stream ∨ ∃ kept ∈ g.stream, kept ≠ message ∧ kept.messageId = message.messageId

/-- **What an answer of 202 says**: the message of the request is in the stream, or one that has its
identifier. -/
def Answered (h : Handler σ) (request : HttpRequest) (response : HttpResponse) (g : Shared) :
    Prop :=
  response.status = 202 → ∃ requestId eventId message,
    response.requestId = some requestId ∧
    response.body = .accepted requestId eventId message.messageId ∧
    Carries h request requestId eventId message ∧ Stored message g

end

end HttpIngest

end Cerbero
