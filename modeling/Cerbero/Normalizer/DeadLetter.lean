import Cerbero.Normalizer.Runtime
import Cerbero.Normalizer.RetryState

/-!
# Normalizer/DeadLetter — messages, and the dead letters made of them

A message of the raw stream, what `decode_raw_persisted` of `eventbus.rs` makes of it, and the dead
letter of `dead_letter.rs`.
-/

namespace Cerbero

namespace Normalizer

open Text

/-! ## Messages -/

/-- A message as it is stored in the stream: the same at each delivery. -/
structure RawMessage where
  subject : String
  payload : List UInt8
  /-- From the reply subject, if it can be read. -/
  streamSequence : Option ℕ
  /-- `Cerbero-Request-Id`. -/
  requestId : Option String
  /-- `Cerbero-Replay-Root-DLQ-Record-Id`. -/
  replayRoot : Option String
  /-- `Cerbero-Replay-Attempt`. -/
  replayAttempt : Option String
  /-- `Cerbero-Replay-Source-Stream-Sequence`. -/
  replaySource : Option String
  deriving DecidableEq, Repr

/-- What the normalizer takes from `prost` and `uuid`. -/
structure Codecs where
  decodeEnvelope : List UInt8 → Except String CerberoEnvelope
  decodePersisted : List UInt8 → Except String RawEventPersisted
  parseUuid : String → Except String String

/-- An error about a message. -/
def handoffError (code message : String) : NormalizerError := ⟨code, message, false⟩

section

variable (lib : Libraries) (codecs : Codecs)

/-- `decode_raw_persisted`: decoding and validating the envelope and its payload, each with a code
of its own for what goes wrong. -/
def decodeRawPersisted (message : RawMessage) : Outcome IncomingRawPersisted := do
  let envelope ← (codecs.decodeEnvelope message.payload).mapError
    (handoffError "CER-NORM-ENVELOPE-DECODE")
  contractCheck "CER-NORM-ENVELOPE-CONTRACT" (validateEnvelope envelope)
  if envelope.messageType ≠ "RawEventPersisted" ∨
      envelope.payloadSchema ≠ "cerbero.raw_event_persisted.v1" then
    .error (handoffError "CER-NORM-UNSUPPORTED-CONTRACT" ("unsupported raw handoff type=" ++
      envelope.messageType ++ " schema=" ++ envelope.payloadSchema))
  let payload ← envelope.payload.elim (.error (handoffError "CER-NORM-ENVELOPE-CONTRACT"
    "raw.persisted envelope payload is required")) .ok
  if "cerbero.contracts.v1.RawEventPersisted".toList.isSuffixOf payload.typeUrl.toList = false then
    .error (handoffError "CER-NORM-PAYLOAD-TYPE" ("unexpected Any type_url " ++ payload.typeUrl))
  let persisted ← (codecs.decodePersisted payload.value).mapError
    (handoffError "CER-NORM-PAYLOAD-DECODE")
  contractCheck "CER-NORM-PAYLOAD-CONTRACT" (validateRawEventPersisted persisted)
  if persisted.tenantId ≠ envelope.tenantId then
    .error (handoffError "CER-NORM-TENANT-MISMATCH"
      "envelope tenant_id differs from RawEventPersisted tenant_id")
  return ⟨envelope, persisted, message.requestId⟩

/-- `delivery_identity`. -/
def deliveryIdentity (message : RawMessage) : String :=
  match message.streamSequence with
  | none => "payload:" ++ lib.sha256LowerHex message.payload
  | some sequence => "stream:" ++ toString sequence

/-! ## Dead letters -/

/-- `DeadLetterFailure`: what isolated a message, and how often and when it has failed. -/
structure DeadLetterFailure where
  errorCode : String
  errorMessage : String
  retryable : Bool
  attemptCount : ℕ
  firstFailureAt : ℤ
  lastFailureAt : ℤ
  deriving DecidableEq, Repr

/-- `NormalizationDeadLetter`: everything an operator, or the replay worker, needs to know about a
message that was isolated. -/
structure NormalizationDeadLetter where
  schemaVersion : String
  dlqRecordId : String
  originalMessageId : Option String
  originalSubject : String
  originalPayloadSha256 : String
  consumer : String
  attemptCount : ℕ
  streamSequence : Option ℕ
  consumerSequence : Option ℕ
  errorCode : String
  errorCategory : String
  failureStage : String
  errorMessage : String
  retryable : Bool
  firstFailureUnixMs : ℤ
  lastFailureUnixMs : ℤ
  tenantId : Option String
  rawEventId : Option String
  parserId : Option String
  parserVersion : Option String
  requestId : Option String
  traceId : Option String
  correlationId : Option String
  replayRootDlqRecordId : Option String
  replayAttempt : Option ℕ
  deriving DecidableEq, Repr

/-- The first entry of a table whose prefix a code has. -/
def byPrefix (table : List (String × String)) (other code : String) : String :=
  ((table.find? fun entry => entry.1.toList.isPrefixOf code.toList).map Prod.snd).getD other

/-- `error_category`: the category of the first prefix in the source's order that the code starts
with. -/
def errorCategory : String → String :=
  byPrefix [("CER-PARSE-", "PARSING"), ("CER-NORM-RAW-HASH", "INTEGRITY"),
    ("CER-NORM-RAW-LENGTH", "INTEGRITY"), ("CER-NORM-RAW-INTEGRITY", "INTEGRITY"),
    ("CER-NORM-CLICKHOUSE", "STORAGE"), ("CER-NORM-RAW-STORE", "STORAGE"),
    ("CER-NORM-NATS", "TRANSPORT"), ("CER-NORM-PUBLISH", "TRANSPORT"),
    ("CER-NORM-MAPPING", "NORMALIZATION"), ("CER-NORM-CONTRACT", "NORMALIZATION"),
    ("CER-NORM-TRANSFORMATION", "NORMALIZATION"), ("CER-NORM-SOURCE-TIME", "NORMALIZATION")]
    "INTERNAL"

/-- `failure_stage`: where in the pipeline a code comes from. -/
def failureStage : String → String :=
  byPrefix [("CER-PARSE-", "parsing"), ("CER-NORM-MAPPING", "mapping"),
    ("CER-NORM-CLICKHOUSE", "normalized_storage"), ("CER-NORM-RAW", "raw_read_or_integrity"),
    ("CER-NORM-ENVELOPE", "handoff_validation"), ("CER-NORM-PAYLOAD", "handoff_validation"),
    ("CER-NORM-TENANT", "handoff_validation"),
    ("CER-NORM-UNSUPPORTED-CONTRACT", "handoff_validation"), ("CER-NORM-PUBLISH", "event_bus"),
    ("CER-NORM-NATS", "event_bus")] "normalization"

/-- `non_empty`. -/
def nonEmpty (value : String) : Option String := if value = "" then none else some value

/-- `system_time_millis` of a time in microseconds. -/
def systemTimeMillis (time : ℤ) : ℤ := if time < 0 then 0 else time / 1000

/-- A positive number in a header. -/
def positiveHeader (largest : ℕ) (value : Option String) : Option ℕ :=
  (value.bind fun text => parseUnsigned largest text.toList).filter (0 < ·)

/-- `dlq_source_identity`. -/
def dlqSourceIdentity (subject : String) (streamSequence : Option ℕ) (replayRoot : Option String)
    (replayAttempt replaySource : Option ℕ) : String × Option ℕ :=
  if subject = "cerbero.v1.raw.replay" ∧ replayRoot.isSome ∧ replayAttempt.isSome ∧
      replaySource.isSome then ("cerbero.v1.raw.persisted", replaySource)
  else (subject, streamSequence)

/-- **`NormalizationDeadLetter::from_message`**: what can be decoded of the message is copied, and
where it cannot be, the fields stay empty. -/
def deadLetterOf (message : RawMessage) (consumer : String) (failure : DeadLetterFailure)
    (parserIdentity : Option (String × String)) (consumerSequence : Option ℕ)
    (dlqRecordId : String) : NormalizationDeadLetter :=
  let envelope := (codecs.decodeEnvelope message.payload).toOption
  let persisted := (envelope.bind CerberoEnvelope.payload).bind fun payload =>
    (codecs.decodePersisted payload.value).toOption
  let replayRoot := message.replayRoot.bind nonEmpty
  let replayAttempt := positiveHeader 4294967295 message.replayAttempt
  let replaySource := positiveHeader 18446744073709551615 message.replaySource
  let source := dlqSourceIdentity message.subject message.streamSequence replayRoot replayAttempt
    replaySource
  { schemaVersion := "cerbero.normalization_dlq.v1"
    dlqRecordId := dlqRecordId
    originalMessageId := envelope.bind fun value => nonEmpty value.messageId
    originalSubject := source.1
    originalPayloadSha256 := lib.sha256LowerHex message.payload
    consumer := consumer
    attemptCount := failure.attemptCount
    streamSequence := source.2
    consumerSequence := consumerSequence
    errorCode := failure.errorCode
    errorCategory := errorCategory failure.errorCode
    failureStage := failureStage failure.errorCode
    errorMessage := failure.errorMessage
    retryable := failure.retryable
    firstFailureUnixMs := systemTimeMillis failure.firstFailureAt
    lastFailureUnixMs := systemTimeMillis failure.lastFailureAt
    tenantId := envelope.bind fun value => nonEmpty value.tenantId
    rawEventId := persisted.bind fun value => nonEmpty value.eventId
    parserId := parserIdentity.map Prod.fst
    parserVersion := parserIdentity.map Prod.snd
    requestId := message.requestId.bind nonEmpty
    traceId := envelope.bind fun value => nonEmpty value.traceId
    correlationId := envelope.bind fun value => nonEmpty value.correlationId
    replayRootDlqRecordId := replayRoot
    replayAttempt := replayAttempt }

end

end Normalizer

end Cerbero
