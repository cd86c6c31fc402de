import Cerbero.Contracts.Basic

/-!
# Contracts/Envelope — the event-bus envelope and the raw evidence it carries

`CerberoEnvelope` wraps every message on the bus; `RawEvent` is the evidence an ingest service
accepted, `RawEventPersisted` the locator the raw preserver hands on once the evidence is durable.
-/

namespace Cerbero

open Text

/-- `Producer`. -/
structure Producer where
  component : String
  componentVersion : String
  instanceId : String
  deriving DecidableEq, Repr

/-- `google.protobuf.Any`: a type and the bytes of a message of that type. -/
structure AnyMessage where
  typeUrl : String
  value : List UInt8
  deriving DecidableEq, Repr

/-- `CerberoEnvelope`, the message every service of the pipeline publishes; the payload is a message
of its own. -/
structure CerberoEnvelope where
  contractVersion : String
  messageId : String
  messageType : String
  tenantId : String
  producer : Option Producer
  emittedAt : Option Timestamp
  traceId : String
  causationId : String
  correlationId : String
  payloadSchema : String
  payload : Option AnyMessage
  deriving DecidableEq, Repr

/-- `validate_envelope`: the version of the contract, the identifier, the type, the producer and the
time, each with the error of its field. -/
def validateEnvelope (envelope : CerberoEnvelope) : Check := do
  rejectIf (envelope.contractVersion != "1") "contract_version" "must equal 1 for v1 envelopes"
  validateUuidV7 "message_id" envelope.messageId
  rejectIf (envelope.messageType == "") "message_type" "is required"
  match envelope.producer with
  | none => .error ⟨"producer", "is required"⟩
  | some producer =>
    rejectIf (producer.component == "") "producer.component" "is required"
    rejectIf (producer.componentVersion == "") "producer.component_version" "is required"
  validateRequiredTimestamp "emitted_at" envelope.emittedAt
  rejectIf (envelope.payloadSchema == "") "payload_schema" "is required"
  rejectIf envelope.payload.isNone "payload" "is required"

/-- `IntegrityStatus`. -/
inductive IntegrityStatus
  | unspecified
  | unverified
  | valid
  | invalid
  deriving DecidableEq, Repr

/-- `RawEvent`: what the ingest service received, with the bytes as they came, their size and their
digest. -/
structure RawEvent where
  eventId : String
  tenantId : String
  sourceId : String
  sensorId : String
  eventTime : Option Timestamp
  ingestTime : Option Timestamp
  contentType : String
  encoding : String
  rawPayload : List UInt8
  rawSize : ℕ
  rawHashAlgorithm : String
  rawHash : String
  transport : String
  remoteIdentity : String
  sequenceNumber : Option ℕ
  integrityStatus : IntegrityStatus
  pipelineVersion : String
  deriving DecidableEq, Repr

/-- `RawEventPersisted`: where the bytes of a raw event were stored and everything that is known
about them but the bytes. -/
structure RawEventPersisted where
  eventId : String
  tenantId : String
  sourceId : String
  sensorId : String
  eventTime : Option Timestamp
  ingestTime : Option Timestamp
  contentType : String
  encoding : String
  rawSize : ℕ
  rawHashAlgorithm : String
  rawHash : String
  transport : String
  remoteIdentity : String
  sequenceNumber : Option ℕ
  integrityStatus : IntegrityStatus
  pipelineVersion : String
  storageUri : String
  segmentId : String
  offset : ℕ
  length : ℕ
  persistedAt : Option Timestamp
  deriving DecidableEq, Repr

/-- A field that has to be there. -/
def requireNonEmpty (field value : String) : Check := rejectIf (value == "") field "is required"

/-- A timestamp that may be absent. -/
def validateOptionalTimestamp (field : String) : Option Timestamp → Check
  | none => .ok ()
  | some timestamp => validateTimestamp field timestamp

section

variable (sha256LowerHex : List UInt8 → String)

/-- `validate_sha256`. -/
def validateSha256 (algorithmField hashField algorithm hash : String) (data : List UInt8) :
    Check := do
  validateSha256Metadata algorithmField hashField algorithm hash
  rejectIf (sha256LowerHex data != hash) hashField "does not match the exact raw payload bytes"

/-- `validate_raw_event`; a length always fits 64 bits. -/
def validateRawEvent (event : RawEvent) : Check := do
  validateUuidV7 "event_id" event.eventId
  validateOptionalTimestamp "event_time" event.eventTime
  validateRequiredTimestamp "ingest_time" event.ingestTime
  rejectIf (event.rawSize != event.rawPayload.length) "raw_size"
    "does not match raw_payload byte length"
  validateSha256 sha256LowerHex "raw_hash_algorithm" "raw_hash" event.rawHashAlgorithm
    event.rawHash event.rawPayload

end

/-- `validate_raw_event_persisted`: the locator and the lineage have to be there, and the length is
the size of the raw bytes. -/
def validateRawEventPersisted (event : RawEventPersisted) : Check := do
  validateUuidV7 "event_id" event.eventId
  requireNonEmpty "tenant_id" event.tenantId
  requireNonEmpty "source_id" event.sourceId
  requireNonEmpty "pipeline_version" event.pipelineVersion
  requireNonEmpty "storage_uri" event.storageUri
  requireNonEmpty "segment_id" event.segmentId
  validateOptionalTimestamp "event_time" event.eventTime
  validateRequiredTimestamp "ingest_time" event.ingestTime
  validateRequiredTimestamp "persisted_at" event.persistedAt
  validateSha256Metadata "raw_hash_algorithm" "raw_hash" event.rawHashAlgorithm event.rawHash
  rejectIf (event.length != event.rawSize) "length" "must equal raw_size"

end Cerbero
