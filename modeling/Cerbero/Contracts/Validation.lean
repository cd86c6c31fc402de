import Cerbero.Contracts.Envelope

/-!
# Contracts/Validation — the contract checks of the Go services

`services/internal/contracts/validation`: the checks the ingest and preservation services make.
They look at the same fields as the checks of `Contracts/Basic` and `Contracts/Envelope`, written
over Go's pointers: a message that is not there is rejected, not excluded by its type.  Where a
timestamp is out of its range, `CheckValid` prints the timestamp before the bound it misses, in a
format the runtime does not fix; the reason here is the bound alone.
-/

namespace Cerbero

namespace Validation

open Text

/-- `isHex`. -/
def isHex (value : UInt8) : Bool :=
  (0x30 ≤ value && value ≤ 0x39) || (0x61 ≤ value && value ≤ 0x66) ||
    (0x41 ≤ value && value ≤ 0x46)

/-- `UUIDv7`.  A byte of a rune that is not ASCII is no hexadecimal digit, so looking at every byte
and at the first byte of every rune is the same. -/
def uuidV7 (field value : String) : Check := do
  let value := bytes value
  rejectIf (value.length != 36 || value[8]? != some 0x2d || value[13]? != some 0x2d ||
    value[18]? != some 0x2d || value[23]? != some 0x2d) field "must be a canonical UUID string"
  rejectIf (value.zipIdx.any fun (byte, index) => !isHyphenIndex index && !isHex byte) field
    "contains non-hexadecimal characters"
  rejectIf (value[14]? != some 0x37) field "must use UUID version 7"
  let variant := value[19]?.map toAsciiLowercase
  rejectIf (variant != some 0x38 && variant != some 0x39 && variant != some 0x61 &&
    variant != some 0x62) field "must use the RFC UUID variant"

/-- `Timestamp`, with the range check of the protobuf runtime. -/
def timestamp (field : String) : Option Timestamp → Check
  | none => .error ⟨field, "is required"⟩
  | some timestamp => do
    rejectIf (timestamp.seconds < protoTimestampMinSeconds) field "before 0001-01-01"
    rejectIf (protoTimestampMaxSeconds < timestamp.seconds) field "after 9999-12-31"
    rejectIf (timestamp.nanos < 0 || protoTimestampMaxNanos < timestamp.nanos) field
      "has out-of-range nanos"

/-- A timestamp that may be absent. -/
def optionalTimestamp (field : String) : Option Timestamp → Check
  | none => .ok ()
  | some value => timestamp field (some value)

/-- `validateSHA256Metadata`: the algorithm, the length of the digest and its digits, with the same
error for both of the latter. -/
def sha256Metadata (algorithmField hashField algorithm hash : String) : Check := do
  rejectIf (algorithm != "sha256") algorithmField "must equal sha256"
  rejectIf ((bytes hash).length != 64) hashField
    "must be a 64-character lowercase hexadecimal SHA-256 digest"
  rejectIf ((bytes hash).any fun value =>
    !((0x30 ≤ value && value ≤ 0x39) || (0x61 ≤ value && value ≤ 0x66))) hashField
    "must be a 64-character lowercase hexadecimal SHA-256 digest"

/-- `Envelope`: as `validateEnvelope`, of a pointer that may be null and a producer that may be. -/
def envelope : Option CerberoEnvelope → Check
  | none => .error ⟨"envelope", "is required"⟩
  | some envelope => do
    rejectIf (envelope.contractVersion != "1") "contract_version" "must equal 1 for v1 envelopes"
    uuidV7 "message_id" envelope.messageId
    requireNonEmpty "message_type" envelope.messageType
    match envelope.producer with
    | none => .error ⟨"producer", "is required"⟩
    | some producer =>
      requireNonEmpty "producer.component" producer.component
      requireNonEmpty "producer.component_version" producer.componentVersion
    timestamp "emitted_at" envelope.emittedAt
    requireNonEmpty "payload_schema" envelope.payloadSchema
    rejectIf envelope.payload.isNone "payload" "is required"

section

variable (sha256LowerHex : List UInt8 → String)

/-- `validateSHA256`. -/
def sha256 (algorithmField hashField algorithm hash : String) (data : List UInt8) : Check := do
  sha256Metadata algorithmField hashField algorithm hash
  rejectIf (sha256LowerHex data != hash) hashField "does not match the exact raw payload bytes"

/-- `RawEvent`: the size and the digest are those of the payload the event carries. -/
def rawEvent (event : RawEvent) : Check := do
  uuidV7 "event_id" event.eventId
  optionalTimestamp "event_time" event.eventTime
  timestamp "ingest_time" event.ingestTime
  rejectIf (event.rawSize != event.rawPayload.length) "raw_size"
    "does not match raw_payload byte length"
  sha256 sha256LowerHex "raw_hash_algorithm" "raw_hash" event.rawHashAlgorithm event.rawHash
    event.rawPayload

end

/-- `RawEventPersisted`: the texts that have to be there are checked in the order of the source's
table. -/
def rawEventPersisted (event : RawEventPersisted) : Check := do
  uuidV7 "event_id" event.eventId
  requireNonEmpty "tenant_id" event.tenantId
  requireNonEmpty "source_id" event.sourceId
  requireNonEmpty "pipeline_version" event.pipelineVersion
  requireNonEmpty "storage_uri" event.storageUri
  requireNonEmpty "segment_id" event.segmentId
  optionalTimestamp "event_time" event.eventTime
  timestamp "ingest_time" event.ingestTime
  timestamp "persisted_at" event.persistedAt
  sha256Metadata "raw_hash_algorithm" "raw_hash" event.rawHashAlgorithm event.rawHash
  rejectIf (event.length != event.rawSize) "length" "must equal raw_size"

/-! ## What an accepted value is -/

@[simp] theorem requireNonEmpty_eq_ok {field value : String} {u : Unit} :
    requireNonEmpty field value = .ok u ↔ value ≠ "" := by
  simp [requireNonEmpty]

theorem variant_iff (b : Option UInt8) :
    (b != some 0x38 && b != some 0x39 && b != some 0x61 && b != some 0x62) =
      !b.any fun b => 0x38 ≤ b && b ≤ 0x39 || 0x61 ≤ b && b ≤ 0x62 := by
  match b with
  | none => rfl
  | some b =>
    rw [Bool.eq_iff_iff]
    simp only [bne_iff_ne, ne_eq, Option.some.injEq, Bool.and_eq_true, Bool.not_eq_true',
      Option.any_some, Bool.or_eq_false_iff, Bool.and_eq_false_iff, decide_eq_false_iff_not,
      UInt8.le_iff_toNat_le, ← UInt8.toNat_inj, UInt8.reduceToNat]
    omega

/-- **Both services accept the same identifiers**, and reject the others for the same reason. -/
theorem uuidV7_eq (field value : String) : uuidV7 field value = validateUuidV7 field value := by
  simp only [uuidV7, validateUuidV7, variant_iff]
  rfl

theorem uuidV7_field {field field' value : String} (h : uuidV7 field value = .ok ()) :
    uuidV7 field' value = .ok () := by
  rw [uuidV7_eq] at h ⊢
  exact validateUuidV7_field h

theorem timestamp_field {field field' : String} {value : Timestamp}
    (h : timestamp field (some value) = .ok ()) : timestamp field' (some value) = .ok () := by
  simp only [timestamp, check_bind_eq_ok, rejectIf_eq_ok] at h ⊢
  exact h

/-- An accepted digest is written in lower-case hexadecimal. -/
theorem lowerHex_of_sha256Metadata {algorithmField hashField algorithm hash : String}
    (h : sha256Metadata algorithmField hashField algorithm hash = .ok ()) :
    algorithm = "sha256" ∧ (bytes hash).length = 64 ∧
      ∀ b ∈ bytes hash, isHex b ∧ toAsciiLowercase b = b := by
  simp only [sha256Metadata, check_bind_eq_ok, rejectIf_eq_ok, bne_eq_false_iff_eq,
    List.any_eq_false, Bool.not_eq_true', Bool.not_eq_false] at h
  refine ⟨h.1, h.2.1, fun b hb => ?_⟩
  have hdigit := h.2.2 b hb
  simp only [Bool.or_eq_true, Bool.and_eq_true, decide_eq_true_eq, UInt8.le_iff_toNat_le,
    UInt8.reduceToNat] at hdigit
  simp only [isHex, toAsciiLowercase, Bool.or_eq_true, Bool.and_eq_true, decide_eq_true_eq,
    UInt8.le_iff_toNat_le, UInt8.reduceToNat]
  refine ⟨by omega, if_neg (by omega)⟩

end Validation

end Cerbero
