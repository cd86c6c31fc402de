import Cerbero.Contracts.Validation

/-!
# Preserver/Contract — deliveries, records and the checks between them

The values the raw preserver passes between its parts, and the checks of
`services/cerbero-raw-preserver/internal/preserver/core.go` that decide whether a delivery, a raw
object, a publication and an existing record fit together.  An error is its text.
-/

namespace Cerbero

/-- `Violation.Error`. -/
def ContractViolation.text (violation : ContractViolation) : String :=
  violation.field ++ ": " ++ violation.reason

namespace Preserver

def rawReceivedSubject : String := "cerbero.v1.raw.received"

def rawPersistedSubject : String := "cerbero.v1.raw.persisted"

def messageTypeRawEventReceived : String := "RawEventReceived"

def payloadSchemaRawEventV1 : String := "cerbero.raw_event.v1"

/-- `Disposition`: what becomes of a delivery: acknowledged, tried again or isolated. -/
inductive Disposition
  | unspecified
  | ack
  | retry
  | isolate
  deriving DecidableEq, Repr

/-- `Result`. -/
structure Result where
  disposition : Disposition
  messageId : String
  eventId : String
  deriving DecidableEq, Repr

/-- `Delivery`. -/
structure Delivery where
  envelope : Option CerberoEnvelope
  requestId : String
  deriving DecidableEq, Repr

/-- `RawEvidence`: what the raw store is asked to keep, with the size and the digest it has to
verify. -/
structure RawEvidence where
  tenantId : String
  eventId : String
  ingestTime : Timestamp
  hashAlgorithm : String
  hash : String
  size : ℕ
  bytes : List UInt8
  deriving DecidableEq, Repr

/-- `RawObject`: where a raw event is stored, as the locator that is handed on. -/
structure RawObject where
  storageUri : String
  segmentId : String
  offset : ℕ
  length : ℕ
  hash : String
  deriving DecidableEq, Repr

/-- `Publication`: the message that tells of a stored event. -/
structure Publication where
  subject : String
  messageId : String
  requestId : String
  payload : List UInt8
  deriving DecidableEq, Repr

/-- `Record`: what the database remembers of a delivery: its raw object and its publication. -/
structure Record where
  consumerName : String
  incomingMessageId : String
  eventId : String
  rawObject : RawObject
  publication : Publication
  published : Bool
  deriving DecidableEq, Repr

/-- `rawSegmentManifestV1`; its JSON form writes `created_at` as an RFC 3339 text. -/
structure SegmentManifest where
  manifestVersion : ℤ
  segmentId : String
  tenantId : String
  eventCount : ℕ
  firstEventId : String
  lastEventId : String
  createdAt : Timestamp
  previousSegmentHash : Option String
  contentHash : String
  deriving DecidableEq, Repr

/-- The digest and the wire forms the preserver takes from its libraries: SHA-256 in lower-case
hexadecimal, protobuf readers and the JSON of a manifest. -/
structure Codec where
  sha256LowerHex : List UInt8 → String
  unmarshalRawEvent : List UInt8 → Option RawEvent
  unmarshalEnvelope : List UInt8 → Option CerberoEnvelope
  marshalManifest : SegmentManifest → List UInt8
  unmarshalManifest : List UInt8 → Option SegmentManifest

/-- An outcome with the text of its error. -/
abbrev Fallible := Except String

/-- Fail with `text` when `bad` holds. -/
def failIf (bad : Bool) (text : String) : Fallible Unit := if bad then .error text else .ok ()

@[simp] theorem failIf_eq_ok {bad : Bool} {text : String} {u : Unit} :
    failIf bad text = .ok u ↔ bad = false := by
  cases bad <;> simp [failIf]

/-- A contract check whose violation is wrapped in a text. -/
def wrapCheck (context : String) (check : Check) : Fallible Unit :=
  check.mapError fun violation => context ++ violation.text

@[simp] theorem wrapCheck_eq_ok {context : String} {check : Check} :
    wrapCheck context check = .ok () ↔ check = .ok () := mapError_eq_ok

/-- An identifier that may be absent. -/
def checkOptionalId (field value : String) : Fallible Unit :=
  if value = "" then .ok () else wrapCheck "" (Validation.uuidV7 field value)

theorem checkOptionalId_eq_ok {field value : String} :
    checkOptionalId field value = .ok () ↔
      (value ≠ "" → Validation.uuidV7 field value = .ok ()) := by
  unfold checkOptionalId
  split <;> simp [*]

/-! ## Deliveries -/

/-- `anypb.Any.MessageName`: the type name after the last slash. -/
def messageName (any : AnyMessage) : String :=
  String.ofList (any.typeUrl.toList.reverse.takeWhile (· ≠ '/')).reverse

/-- `anypb.Any.UnmarshalTo` for a `RawEvent`. -/
def unmarshalTo (codec : Codec) (payload : Option AnyMessage) : Fallible RawEvent :=
  match payload with
  | none => .error "payload: unpack RawEvent: invalid nil source message"
  | some any =>
    if messageName any ≠ "cerbero.contracts.v1.RawEvent" then
      .error "payload: unpack RawEvent: mismatched message type"
    else match codec.unmarshalRawEvent any.value with
      | none => .error "payload: unpack RawEvent: cannot parse invalid wire-format data"
      | some event => .ok event

/-- `validateDelivery`: the envelope is decoded and validated, then the event in it, and both have
to be of this consumer's contract. -/
def validateDelivery (codec : Codec) (delivery : Delivery) : Fallible (CerberoEnvelope × RawEvent) := do
  wrapCheck "validate envelope: " (Validation.envelope delivery.envelope)
  match delivery.envelope with
  | none => .error "validate envelope: envelope: is required"
  | some envelope =>
    failIf (envelope.messageType != messageTypeRawEventReceived)
      ("message_type: expected " ++ messageTypeRawEventReceived)
    failIf (envelope.payloadSchema != payloadSchemaRawEventV1)
      ("payload_schema: expected " ++ payloadSchemaRawEventV1)
    failIf (envelope.tenantId == "") "tenant_id: envelope tenant is required"
    checkOptionalId "request_id" delivery.requestId
    let event ← unmarshalTo codec envelope.payload
    wrapCheck "validate RawEvent: " (Validation.rawEvent codec.sha256LowerHex event)
    failIf (event.tenantId == "") "tenant_id: RawEvent tenant is required"
    failIf (event.tenantId != envelope.tenantId) "tenant_id: envelope and RawEvent tenants differ"
    return (envelope, event)

/-! ## Objects, publications and records -/

/-- `validateRawObject`. -/
def validateRawObject (event : RawEvent) (object : RawObject) : Fallible Unit := do
  failIf (object.storageUri == "") "raw object storage_uri is required"
  failIf (object.segmentId == "") "raw object segment_id is required"
  failIf (object.length != event.rawSize) "raw object length does not match RawEvent raw_size"
  failIf (object.hash != event.rawHash) "raw object hash does not match RawEvent raw_hash"

/-- `validatePublication`: the subject, the identifiers and a payload. -/
def validatePublication (publication : Publication) : Fallible Unit := do
  failIf (publication.subject != rawPersistedSubject)
    ("outbox subject: expected " ++ rawPersistedSubject)
  wrapCheck "" (Validation.uuidV7 "raw_persisted.message_id" publication.messageId)
  checkOptionalId "raw_persisted.request_id" publication.requestId
  failIf publication.payload.isEmpty "raw.persisted outbox payload is required"

/-- `validateExistingRecord`: a record that is found has to be of this consumer, this message and
this event, and its locator has to fit the event. -/
def validateExistingRecord (consumerName : String) (envelope : CerberoEnvelope) (event : RawEvent)
    (record : Record) : Fallible Unit := do
  failIf (record.consumerName != consumerName)
    "existing preservation record has a different consumer identity"
  failIf (record.incomingMessageId != envelope.messageId)
    "existing preservation record has a different incoming message_id"
  failIf (record.eventId != event.eventId)
    "existing preservation record has a different event_id"
  failIf (record.rawObject.hash != event.rawHash)
    "existing preservation record has a different raw hash"
  (validateRawObject event record.rawObject).mapError
    ("existing preservation record raw object: " ++ ·)
  (validatePublication record.publication).mapError
    ("existing preservation record publication: " ++ ·)

/-- `resultFor` for a delivery that was not understood. -/
def resultFor (envelope : Option CerberoEnvelope) (disposition : Disposition) : Result :=
  ⟨disposition, (envelope.map CerberoEnvelope.messageId).getD "", ""⟩

/-! ## What a passed check says -/

/-- What `validateDelivery` promises about the envelope and the event it returns. -/
structure Admitted (codec : Codec) (delivery : Delivery) (envelope : CerberoEnvelope)
    (event : RawEvent) : Prop where
  envelope_eq : delivery.envelope = some envelope
  envelopeValid : Validation.envelope (some envelope) = .ok ()
  messageType : envelope.messageType = messageTypeRawEventReceived
  payloadSchema : envelope.payloadSchema = payloadSchemaRawEventV1
  requestId : delivery.requestId ≠ "" →
    Validation.uuidV7 "request_id" delivery.requestId = .ok ()
  eventValid : Validation.rawEvent codec.sha256LowerHex event = .ok ()
  tenant : event.tenantId ≠ ""
  tenant_eq : event.tenantId = envelope.tenantId

theorem admitted_of_validateDelivery {codec : Codec} {delivery : Delivery}
    {envelope : CerberoEnvelope} {event : RawEvent}
    (h : validateDelivery codec delivery = .ok (envelope, event)) :
    Admitted codec delivery envelope event := by
  obtain ⟨env, requestId⟩ := delivery
  rw [validateDelivery, check_bind_eq_ok, wrapCheck_eq_ok] at h
  obtain ⟨henv, h⟩ := h
  match env, henv, h with
  | some env, henv, h =>
    simp only [check_bind_eq_ok, failIf_eq_ok, checkOptionalId_eq_ok] at h
    obtain ⟨htype, hschema, -, hrequest, h⟩ := h
    obtain ⟨ev, -, h⟩ := bind_eq_ok.1 h
    simp only [check_bind_eq_ok, failIf_eq_ok, wrapCheck_eq_ok] at h
    obtain ⟨hev, htenant, heq, h⟩ := h
    obtain ⟨rfl, rfl⟩ := Prod.mk.inj (Except.ok.inj h)
    exact ⟨rfl, henv, by simpa using htype, by simpa using hschema, hrequest, hev,
      by simpa using htenant, by simpa using heq⟩

/-- An accepted record is about the delivery it was found for. -/
structure Matches (consumerName : String) (envelope : CerberoEnvelope) (event : RawEvent)
    (record : Record) : Prop where
  consumerName : record.consumerName = consumerName
  messageId : record.incomingMessageId = envelope.messageId
  eventId : record.eventId = event.eventId
  hash : record.rawObject.hash = event.rawHash
  object : validateRawObject event record.rawObject = .ok ()
  publication : validatePublication record.publication = .ok ()

theorem validateExistingRecord_eq_ok {consumerName : String} {envelope : CerberoEnvelope}
    {event : RawEvent} {record : Record} :
    validateExistingRecord consumerName envelope event record = .ok () ↔
      Matches consumerName envelope event record := by
  simp only [validateExistingRecord, check_bind_eq_ok, failIf_eq_ok, mapError_eq_ok,
    bne_eq_false_iff_eq]
  exact ⟨fun ⟨h1, h2, h3, h4, h5, h6⟩ => ⟨h1, h2, h3, h4, h5, h6⟩,
    fun ⟨h1, h2, h3, h4, h5, h6⟩ => ⟨h1, h2, h3, h4, h5, h6⟩⟩

end Preserver

end Cerbero
