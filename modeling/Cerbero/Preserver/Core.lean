import Cerbero.Contracts.Protobuf
import Cerbero.Lib.Message
import Cerbero.Preserver.RawStore

/-!
# Preserver/Core — the preservation of one delivery

`RawPersistedBuilder.Build`, `JetStreamPublisher.Publish`, `Core.Process` and
`RawConsumer.Handle`: the program that takes a delivery from its validation to the disposition the
transport acts on.
-/

namespace Cerbero

namespace Preserver

open Prog (attempt checked)

def messageTypeRawEventPersisted : String := "RawEventPersisted"

def payloadSchemaRawEventPersistedV1 : String := "cerbero.raw_event_persisted.v1"

def rawPreserverComponent : String := "cerbero-raw-preserver"

/-- **The core and its builder**, as `New` and `NewRawPersistedBuilder` accept them. -/
structure Core where
  consumerName : String
  componentVersion : String
  instanceId : String
  consumerName_ne : consumerName ≠ ""
  componentVersion_ne : componentVersion ≠ ""
  instanceId_ne : instanceId ≠ ""

/-! ## The publication -/

section

variable (codec : Codec)

/-- `validateBuilderInput`: the envelope, the event and the object the message is built from. -/
def validateBuilderInput (incoming : CerberoEnvelope) (event : RawEvent) (object : RawObject)
    (requestId : String) : Fallible Unit := do
  wrapCheck "validate incoming envelope: " (Validation.envelope (some incoming))
  failIf (incoming.messageType != messageTypeRawEventReceived)
    ("incoming message_type: expected " ++ messageTypeRawEventReceived)
  failIf (incoming.payloadSchema != payloadSchemaRawEventV1)
    ("incoming payload_schema: expected " ++ payloadSchemaRawEventV1)
  wrapCheck "validate RawEvent: " (Validation.rawEvent codec.sha256LowerHex event)
  failIf (incoming.tenantId != event.tenantId)
    "tenant_id: incoming envelope and RawEvent tenants differ"
  (validateRawObject event object).mapError ("validate durable raw object: " ++ ·)
  checkOptionalId "request_id" requestId

/-- The payload of a `raw.persisted` publication. -/
def persistedOf (event : RawEvent) (object : RawObject) (persistedAt : Timestamp) :
    RawEventPersisted where
  eventId := event.eventId
  tenantId := event.tenantId
  sourceId := event.sourceId
  sensorId := event.sensorId
  eventTime := event.eventTime
  ingestTime := event.ingestTime
  contentType := event.contentType
  encoding := event.encoding
  rawSize := event.rawSize
  rawHashAlgorithm := event.rawHashAlgorithm
  rawHash := event.rawHash
  transport := event.transport
  remoteIdentity := event.remoteIdentity
  sequenceNumber := event.sequenceNumber
  integrityStatus := event.integrityStatus
  pipelineVersion := event.pipelineVersion
  storageUri := object.storageUri
  segmentId := object.segmentId
  offset := object.offset
  length := object.length
  persistedAt := some persistedAt

/-- The envelope of a `raw.persisted` publication. -/
def envelopeOf (core : Core) (incoming : CerberoEnvelope) (persisted : RawEventPersisted)
    (messageId : String) (persistedAt : Timestamp) : CerberoEnvelope where
  contractVersion := "1"
  messageId := messageId
  messageType := messageTypeRawEventPersisted
  tenantId := incoming.tenantId
  producer := some ⟨rawPreserverComponent, core.componentVersion, core.instanceId⟩
  emittedAt := some persistedAt
  traceId := incoming.traceId
  causationId := incoming.messageId
  correlationId := incoming.correlationId
  payloadSchema := payloadSchemaRawEventPersistedV1
  payload := some ⟨"type.googleapis.com/cerbero.contracts.v1.RawEventPersisted",
    Protobuf.marshalRawEventPersisted persisted⟩

/-- `RawPersistedBuilder.Build`: the message of a stored event, with a new identifier and the time,
validated as the next service will validate it. -/
def build (core : Core) (incoming : CerberoEnvelope) (event : RawEvent) (object : RawObject)
    (requestId : String) : Attempt Publication := do
  checked (validateBuilderInput codec incoming event object requestId)
  let messageId ← withContext "generate raw.persisted message_id: " (attempt (perform .newId))
  checked (wrapCheck "validate generated raw.persisted message_id: "
    (Validation.uuidV7 "raw_persisted.message_id" messageId))
  let persistedAt ← ExceptT.lift (perform .clockNow)
  checked (wrapCheck "validate persisted_at: "
    (Validation.timestamp "persisted_at" (some persistedAt)))
  let persisted := persistedOf event object persistedAt
  checked (wrapCheck "validate RawEventPersisted payload: "
    (Validation.rawEventPersisted persisted))
  let envelope := envelopeOf core incoming persisted messageId persistedAt
  checked (wrapCheck "validate raw.persisted envelope: " (Validation.envelope (some envelope)))
  return ⟨rawPersistedSubject, messageId, requestId, Protobuf.marshalEnvelope envelope⟩

end

/-- `validateRawPersistedPublication`: what the publisher checks by itself before it sends. -/
def validateRawPersistedPublication (publication : Publication) : Fallible Unit := do
  failIf (publication.subject != rawPersistedSubject)
    ("publication subject = " ++ Text.quote (Text.bytes publication.subject) ++ ", want " ++
      Text.quote (Text.bytes rawPersistedSubject))
  wrapCheck "" (Validation.uuidV7 "publication.message_id" publication.messageId)
  checkOptionalId "publication.request_id" publication.requestId
  failIf publication.payload.isEmpty "publication payload is required"

/-- The acknowledgement `Publish` accepts. -/
def validateAck : Option PubAck → Fallible Unit
  | none => .error "publish returned no JetStream acknowledgement"
  | some ack => do
    failIf (ack.stream != rawStreamName)
      ("publish acknowledged by unexpected stream " ++ Text.quote (Text.bytes ack.stream))
    failIf (ack.sequence == 0) "publish returned invalid JetStream sequence 0"

/-- `JetStreamPublisher.Publish`, for the incoming message of a consumer. -/
def publish (consumerName messageId : String) (publication : Publication) : Attempt Unit := do
  checked (validateRawPersistedPublication publication)
  let ack ← withContext ("publish " ++ publication.subject ++ ": ")
    (attempt (perform (.publishMsg consumerName messageId publication)))
  checked (validateAck ack)

/-! ## Processing -/

/-- A disposition and the error that came with it. -/
abbrev ProcessOutcome := Result × Option String

/-- `publishAndMark`. -/
def publishAndMark (core : Core) (result : Result) (record : Record) : Program ProcessOutcome := do
  match validatePublication record.publication with
  | .error e => return ({ result with disposition := .isolate }, some e)
  | .ok () =>
    match ← (publish core.consumerName record.incomingMessageId record.publication).run with
    | .error e => return (result, some ("publish raw.persisted: " ++ e))
    | .ok () =>
      match ← perform (.markPublished core.consumerName record.incomingMessageId) with
      | .error e => return (result, some ("mark raw.persisted publication complete: " ++ e))
      | .ok () => return ({ result with disposition := .ack }, none)

/-- What follows once a record is known: check it, and publish it unless that was done. -/
def finish (core : Core) (envelope : CerberoEnvelope) (event : RawEvent) (result : Result)
    (record : Record) : Program ProcessOutcome :=
  match validateExistingRecord core.consumerName envelope event record with
  | .error e => return ({ result with disposition := .isolate }, some e)
  | .ok () =>
    if record.published then return ({ result with disposition := .ack }, none)
    else publishAndMark core result record

/-- The evidence of an event. -/
def evidenceOf (event : RawEvent) : RawEvidence where
  tenantId := event.tenantId
  eventId := event.eventId
  ingestTime := event.ingestTime.getD ⟨0, 0⟩
  hashAlgorithm := event.rawHashAlgorithm
  hash := event.rawHash
  size := event.rawSize
  bytes := event.rawPayload

/-- The record a first preservation commits. -/
def recordOf (core : Core) (envelope : CerberoEnvelope) (event : RawEvent) (object : RawObject)
    (publication : Publication) : Record where
  consumerName := core.consumerName
  incomingMessageId := envelope.messageId
  eventId := event.eventId
  rawObject := object
  publication := publication
  published := false

section

variable (codec : Codec)

/-- The preservation of a message that has no record yet. -/
def preserveNew (core : Core) (delivery : Delivery) (envelope : CerberoEnvelope)
    (event : RawEvent) (result : Result) : Program ProcessOutcome := do
  match ← (ensureDurable codec (evidenceOf event)).run with
  | .error e => return (result, some ("persist raw evidence: " ++ e))
  | .ok object =>
    match validateRawObject event object with
    | .error e => return ({ result with disposition := .isolate }, some e)
    | .ok () =>
      match ← (build codec core envelope event object delivery.requestId).run with
      | .error e => return (result, some ("build raw.persisted publication: " ++ e))
      | .ok publication =>
        match validatePublication publication with
        | .error e => return ({ result with disposition := .isolate }, some e)
        | .ok () =>
          let record := recordOf core envelope event object publication
          match ← perform (.commitPreservation record) with
          | .error e =>
            return (result, some ("commit preservation metadata/outbox: " ++ e))
          | .ok committed => finish core envelope event result committed

/-- **`Core.Process`**: validate, look for a record of an earlier delivery, and either finish what
it has begun or preserve the event anew. -/
def process (core : Core) (delivery : Delivery) : Program ProcessOutcome := do
  match validateDelivery codec delivery with
  | .error e => return (resultFor delivery.envelope .isolate, some e)
  | .ok (envelope, event) =>
    let result : Result := ⟨.retry, envelope.messageId, event.eventId⟩
    match ← perform (.find core.consumerName envelope.messageId) with
    | .error e => return (result, some ("find preservation state: " ++ e))
    | .ok (some record) => finish core envelope event result record
    | .ok none => preserveNew codec core delivery envelope event result

/-! ## The consumer -/

/-- What `RawConsumer` tells the transport. -/
inductive TransportAction
  | doubleAck
  | nakWithDelay
  | termWithReason
  deriving DecidableEq, Repr

/-- A JetStream message: its subject, its data and the request header, if any. -/
structure RawMessage where
  subject : String
  data : List UInt8
  requestId : Option String
  deriving DecidableEq, Repr

/-- The action a disposition authorizes. -/
def transportAction : ProcessOutcome → TransportAction
  | (⟨.ack, _, _⟩, none) => .doubleAck
  | (⟨.ack, _, _⟩, some _) => .nakWithDelay
  | (⟨.retry, _, _⟩, _) => .nakWithDelay
  | (⟨.isolate, _, _⟩, _) => .termWithReason
  | (⟨.unspecified, _, _⟩, _) => .nakWithDelay

/-- `RawConsumer.Handle`: the outcome of `Process` decides what the transport is told. -/
def handle (core : Core) (message : RawMessage) : Program TransportAction :=
  if message.subject ≠ rawReceivedSubject then return .termWithReason
  else match codec.unmarshalEnvelope message.data with
    | none => return .termWithReason
    | some envelope => do
      let outcome ← process codec core ⟨some envelope, message.requestId.getD ""⟩
      return transportAction outcome

end

/-! ## A delivery -/

/-- The SHA-256 digest of the one byte `a`. -/
def sampleHash : String := "ca978112ca1bbdcafac231b39a23dc4da786eff8147c4e72b9807785afee48bb"

def sampleEventId : String := "01890a5d-ac96-774b-bcce-b302099a8057"

def sampleEvent : RawEvent where
  eventId := sampleEventId
  tenantId := "tenant-a"
  sourceId := "source-a"
  sensorId := ""
  eventTime := none
  ingestTime := some ⟨1789322400, 0⟩
  contentType := "text/plain"
  encoding := "utf-8"
  rawPayload := [0x61]
  rawSize := 1
  rawHashAlgorithm := "sha256"
  rawHash := sampleHash
  transport := "syslog"
  remoteIdentity := ""
  sequenceNumber := none
  integrityStatus := .unverified
  pipelineVersion := "1"

/-- The manifest of the event's segment, closed one second after the event came in. -/
def sampleManifestText : String :=
  "\x7b\"manifest_version\":1,\"segment_id\":\"" ++ sampleEventId ++
    "\",\"tenant_id\":\"tenant-a\",\"event_count\":1,\"first_event_id\":\"" ++ sampleEventId ++
    "\",\"last_event_id\":\"" ++ sampleEventId ++
    "\",\"created_at\":\"2026-09-13T18:00:01Z\",\"previous_segment_hash\":null," ++
    "\"content_hash\":\"sha256:" ++ sampleHash ++ "\"\x7d"

/-- The libraries on the bytes of the sample. -/
def sampleCodec : Codec where
  sha256LowerHex data :=
    if data = [0x61] then sampleHash
    else if data = Text.bytes sampleManifestText ++ [lineFeed] then
      "078a3a73269873ff89b8c18cfaa362a3339b2117a2273a65b25bea22bb342aad"
    else "e3b0c44298fc1c149afbf4c8996fb92427ae41e4649b934ca495991b7852b855"
  unmarshalRawEvent data :=
    if data = Protobuf.marshalRawEvent sampleEvent then some sampleEvent else none
  unmarshalEnvelope _ := none
  marshalManifest _ := Text.bytes sampleManifestText
  unmarshalManifest data :=
    if data = Text.bytes sampleManifestText then
      some (newManifest (evidenceOf sampleEvent) ⟨1789322401, 0⟩)
    else none

/-- The envelope of the event, under a message identifier. -/
def sampleEnvelope (messageId : String) : CerberoEnvelope where
  contractVersion := "1"
  messageId := messageId
  messageType := messageTypeRawEventReceived
  tenantId := "tenant-a"
  producer := some ⟨"cerbero-ingest", "1", "ingest-1"⟩
  emittedAt := some ⟨1789322400, 0⟩
  traceId := ""
  causationId := ""
  correlationId := ""
  payloadSchema := payloadSchemaRawEventV1
  payload := some ⟨"type.googleapis.com/cerbero.contracts.v1.RawEvent",
    Protobuf.marshalRawEvent sampleEvent⟩

/-- The event under a message identifier. -/
def sampleDelivery (messageId : String) : Delivery := ⟨some (sampleEnvelope messageId), ""⟩

def sampleCore : Core := ⟨"raw-preserver", "1", "preserver-1", by decide, by decide, by decide⟩

/-- Clocks and identifiers of a first attempt. -/
def sampleEnvironment : Environment where
  timeNow := ⟨1789322401, 0⟩
  clockNow := ⟨1789322401, 0⟩
  databaseNow := ⟨1789322402, 0⟩
  newId := .ok "01890a5d-ac96-774b-bcce-b302099a8002"
  sequence := 0

end Preserver

end Cerbero
