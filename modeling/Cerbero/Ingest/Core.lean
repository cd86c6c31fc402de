import Cerbero.Ingest.Export
import Cerbero.Lib.Buffers
import Cerbero.Lib.Stateful
import Cerbero.Preserver.Contract

/-!
# Ingest/Core — the common core of the ingest frontends

`services/cerbero-ingest/internal/ingestcore`: `Begin` authenticates and authorizes a source before
its payload is received, and the session it returns prepares the raw event and the envelope of a
request (`Prepare`).  The clock, the generator of identifiers and the hooks are injected; they have
a state of their own.  Payloads are slices, since the caller keeps the buffer of a request.
-/

namespace Cerbero

namespace Ingest

open Journald (AdmissionMetadata)

/-! ## Errors -/

/-- `ErrorCategory`, of which the core uses some. -/
inductive ErrorCategory
  | validation
  | authentication
  | authorization
  | rateLimit
  | internal
  deriving DecidableEq, Repr

def componentCerberoIngest : String := "cerbero-ingest"

/-- `CerberoError`, the error that goes over the wire: a stable code, its category, a message for a
person and whether to try again. -/
structure CerberoError where
  code : String
  category : ErrorCategory
  message : String
  retryable : Bool
  component : String
  requestId : String
  metadata : List (String × String)
  deriving DecidableEq, Repr

/-- `Error`: the contract and the text of its cause. -/
structure Error where
  contract : CerberoError
  cause : Option String
  deriving DecidableEq, Repr

/-- `newError`. -/
def newError (code : String) (category : ErrorCategory) (message : String) (retryable : Bool)
    (requestId : String) (cause : Option String) (metadata : List (String × String)) : Error :=
  ⟨⟨code, category, message, retryable, componentCerberoIngest, requestId, metadata⟩, cause⟩

/-- `invalidPayload`. -/
def invalidPayload (requestId field message : String) (cause : Option String) : Error :=
  newError "CER-ING-INVALID-PAYLOAD" .validation message false requestId cause [("field", field)]

/-- `internalError`. -/
def internalError (requestId operation cause : String) : Error :=
  newError "CER-SYSTEM-INTERNAL" .internal "internal ingest failure" false requestId (some cause)
    [("operation", operation)]

/-- `contractValidationError`. -/
def contractValidationError (requestId : String) (violation : ContractViolation) : Error :=
  newError "CER-ING-INVALID-PAYLOAD" .validation "constructed ingest contract failed validation"
    false requestId (some violation.text) [("field", violation.field)]

/-! ## Requests and results -/

/-- `time.Time`, in UTC. -/
structure Instant where
  unix : ℤ
  nanosecond : ℤ
  deriving DecidableEq, Repr

/-- `timestamppb.New`. -/
def Instant.timestamp (instant : Instant) : Timestamp := ⟨instant.unix, instant.nanosecond⟩

/-- `CheckValid` of a timestamp. -/
def checkValid (timestamp : Timestamp) : Except String Unit :=
  (Validation.timestamp "" (some timestamp)).mapError ContractViolation.reason

/-- `Request`, with its payload as a slice or as the bytes themselves. -/
structure Request (Payload : Type) where
  requestId : String
  tenantId : String
  sourceId : String
  sensorId : String
  remoteIdentity : String
  transport : String
  contentType : String
  encoding : String
  eventTime : Option Instant
  sequenceNumber : Option ℕ
  rawPayload : Payload
  deriving DecidableEq, Repr

/-- `requestAdmissionMetadata`: who sends a request and how, which is all that admission looks at.
-/
def Request.admissionMetadata {Payload : Type} (request : Request Payload) : AdmissionMetadata where
  requestId := request.requestId
  tenantId := request.tenantId
  sourceId := request.sourceId
  sensorId := request.sensorId
  remoteIdentity := request.remoteIdentity
  transport := request.transport

/-- The source time of a request, if it has one. -/
def Request.checkEventTime {Payload : Type} (request : Request Payload) :
    Except Error Unit :=
  match request.eventTime with
  | none => .ok ()
  | some eventTime => (checkValid eventTime.timestamp).mapError fun cause =>
    invalidPayload request.requestId "event_time"
      "source event_time is outside the Protobuf timestamp range" (some cause)

/-- A `*RawEvent`: its message, whose payload is what a slice shows. -/
structure RawEventRef where
  message : RawEvent
  rawPayload : Slice
  deriving DecidableEq, Repr

/-- The message as it is now. -/
def RawEventRef.load (event : RawEventRef) (heap : Heap) : RawEvent :=
  { event.message with rawPayload := heap.load event.rawPayload }

/-- `Result`. -/
structure Result where
  requestId : String
  rawEvent : RawEventRef
  envelope : CerberoEnvelope
  deriving DecidableEq, Repr

/-! ## The core -/

/-- `Principal`. -/
structure Principal where
  id : String
  deriving DecidableEq, Repr

/-- `Core`, with what was injected into it. -/
structure Core (σ : Type) where
  maxPayloadSize : ℕ
  allowMissingSensorId : Bool
  componentVersion : String
  pipelineVersion : String
  instanceId : String
  /-- `Clock.Now`. -/
  now : σ → Instant × σ
  /-- `IDGenerator.New`. -/
  newId : σ → Except String String × σ
  /-- `Authenticator.Authenticate`. -/
  authenticate : AdmissionMetadata → σ → Except String Principal × σ
  /-- `Authorizer.Authorize`. -/
  authorize : Principal → String → AdmissionMetadata → σ → Except String Unit × σ
  /-- `AdmissionLimiter.Allow`. -/
  allow : Principal → AdmissionMetadata → σ → Bool × σ

/-- The arrays there are, and the state of what was injected. -/
structure World (σ : Type) where
  heap : Heap
  sources : σ
  deriving DecidableEq, Repr

/-- A call of the core. -/
abbrev Call (σ : Type) : Type → Type := Stateful (World σ) Error

section

variable {σ α : Type}

/-- What was injected answers. -/
def ask (answer : σ → α × σ) : Call σ α :=
  .of fun w => (.ok (answer w.sources).1, { w with sources := (answer w.sources).2 })

/-- `append([]byte(nil), slice...)`, with the bytes of the copy. -/
def appendNil (slice : Slice) : Call σ (Slice × List UInt8) :=
  .of fun w => (.ok ((w.heap.copy slice).1, w.heap.load slice),
    { w with heap := (w.heap.copy slice).2 })

/-- A call that fails. -/
def fail (e : Error) : Call σ α := .checked (.error e)

/-- `authorizedAdmission`. -/
structure AuthorizedAdmission (σ : Type) where
  core : Core σ
  metadata : AdmissionMetadata

namespace Core

variable (core : Core σ)

/-- `validateAdmissionMetadata`: the first field that is missing is the error; the sensor may be
missing where the policy of the source allows it. -/
def validateAdmissionMetadata (metadata : AdmissionMetadata) : Except Error Unit :=
  let required := [("tenant_id", metadata.tenantId), ("source_id", metadata.sourceId),
    ("remote_identity", metadata.remoteIdentity), ("transport", metadata.transport)]
  match required.find? fun item => item.2 = "" with
  | some item =>
    .error (invalidPayload metadata.requestId item.1 "required ingest metadata is missing" none)
  | none =>
    if metadata.sensorId = "" ∧ ¬ core.allowMissingSensorId then
      .error (invalidPayload metadata.requestId "sensor_id"
        "sensor identity is required by this source policy" none)
    else .ok ()

/-- The error of a source that is not authenticated. -/
def unauthenticated (metadata : AdmissionMetadata) (cause : String) : Error :=
  newError "CER-AUTH-UNAUTHENTICATED" .authentication "source authentication failed" false
    metadata.requestId (some cause) []

/-- **`Begin`**: authenticate, authorize, check the metadata and ask the rate limiter, in this
order; only then is there an admission. -/
def begin (metadata : AdmissionMetadata) : Call σ (AuthorizedAdmission σ) := do
  match ← ask (core.authenticate metadata) with
  | .error cause => fail (unauthenticated metadata cause)
  | .ok principal =>
    if principal.id = "" then
      fail (unauthenticated metadata "authenticator returned an empty principal ID")
    else match ← ask (core.authorize principal "events.ingest" metadata) with
      | .error cause =>
        fail (newError "CER-AUTH-FORBIDDEN" .authorization
          "source is not authorized to ingest events" false metadata.requestId (some cause) [])
      | .ok () =>
        .checked (core.validateAdmissionMetadata metadata)
        if ← ask (core.allow principal metadata) then return ⟨core, metadata⟩
        else
          fail (newError "CER-ING-RATE-LIMITED" .rateLimit "ingest admission rate limit exceeded"
            true metadata.requestId none [])

/-- `validatePayload`: the payload is within the configured size. -/
def validatePayload (request : Request Slice) : Except Error Unit :=
  if core.maxPayloadSize < request.rawPayload.length then
    .error (newError "CER-ING-PAYLOAD-TOO-LARGE" .validation
      "payload exceeds the configured ingest limit" false request.requestId none
      [("field", "raw_payload"), ("max_payload_size", toString core.maxPayloadSize)])
  else .ok ()

/-- `generateID`: an identifier of the generator, checked to be a UUIDv7 before it is used. -/
def generateId (requestId field : String) : Call σ String := do
  match ← ask core.newId with
  | .error cause => fail (internalError requestId ("generate " ++ field) cause)
  | .ok value =>
    .checked ((Validation.uuidV7 field value).mapError fun violation =>
      internalError requestId ("validate generated " ++ field) violation.text)
    return value

variable (codec : Preserver.Codec) (marshal : RawEvent → Except String (List UInt8))

/-- The raw event of a request, whose payload was copied. -/
def rawEvent (request : Request Slice) (eventId : String) (ingestAt : Instant)
    (rawBytes : List UInt8) : RawEvent where
  eventId := eventId
  tenantId := request.tenantId
  sourceId := request.sourceId
  sensorId := request.sensorId
  eventTime := request.eventTime.map Instant.timestamp
  ingestTime := some ingestAt.timestamp
  contentType := request.contentType
  encoding := request.encoding
  rawPayload := rawBytes
  rawSize := rawBytes.length
  rawHashAlgorithm := "sha256"
  rawHash := codec.sha256LowerHex rawBytes
  transport := request.transport
  remoteIdentity := request.remoteIdentity
  sequenceNumber := request.sequenceNumber
  integrityStatus := .unverified
  pipelineVersion := core.pipelineVersion

/-- `anypb.New` of a raw event. -/
def pack (event : RawEvent) : Except String AnyMessage :=
  (marshal event).map fun value => ⟨"type.googleapis.com/cerbero.contracts.v1.RawEvent", value⟩

/-- The envelope of a request. -/
def envelope (request : Request Slice) (messageId traceId : String) (ingestAt : Instant)
    (payload : AnyMessage) : CerberoEnvelope where
  contractVersion := "1"
  messageId := messageId
  messageType := "RawEventReceived"
  tenantId := request.tenantId
  producer := some ⟨componentCerberoIngest, core.componentVersion, core.instanceId⟩
  emittedAt := some ingestAt.timestamp
  traceId := traceId
  causationId := ""
  correlationId := ""
  payloadSchema := "cerbero.raw_event.v1"
  payload := some payload

/-- **`prepare`**: the payload is checked and copied, identifiers and the time are drawn, and the
event and its envelope are built and validated. Nothing is published here. -/
def prepare (request : Request Slice) : Call σ Result := do
  .checked (core.validatePayload request)
  let eventId ← core.generateId request.requestId "event_id"
  let messageId ← core.generateId request.requestId "message_id"
  let traceId ← core.generateId request.requestId "trace_id"
  let ingestAt ← ask core.now
  .checked ((checkValid ingestAt.timestamp).mapError fun cause =>
    internalError request.requestId "capture ingest_time" cause)
  .checked request.checkEventTime
  let (rawBytes, bytes) ← appendNil request.rawPayload
  let event := core.rawEvent codec request eventId ingestAt bytes
  .checked ((Validation.rawEvent codec.sha256LowerHex event).mapError fun violation =>
    contractValidationError request.requestId violation)
  let payload ← .checked ((pack marshal event).mapError fun cause =>
    internalError request.requestId "pack RawEvent payload" cause)
  let envelope := core.envelope request messageId traceId ingestAt payload
  .checked ((Validation.envelope (some envelope)).mapError fun violation =>
    contractValidationError request.requestId violation)
  return ⟨request.requestId, ⟨event, rawBytes⟩, envelope⟩

end Core

/-- **`Prepare`** of a session. -/
def AuthorizedAdmission.prepare (codec : Preserver.Codec)
    (marshal : RawEvent → Except String (List UInt8)) (admission : AuthorizedAdmission σ)
    (request : Request Slice) : Call σ Result :=
  if request.admissionMetadata ≠ admission.metadata then
    fail (invalidPayload admission.metadata.requestId "admission_metadata"
      "ingest metadata changed after authentication and authorization" none)
  else admission.core.prepare codec marshal request

end

end Ingest

end Cerbero
