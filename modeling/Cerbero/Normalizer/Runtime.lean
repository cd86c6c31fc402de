import Cerbero.Lib.Program
import Cerbero.Normalizer.Core

/-!
# Normalizer/Runtime — one message on its way through the normalizer

`process_message` of `runtime.rs` with the rows of `clickhouse.rs`: read the raw bytes, look for the
row of the derivation, otherwise normalize, insert, read back, compare and publish.  ClickHouse keeps
one row for each deduplication token, which is the logical key.
-/

namespace Cerbero

namespace Normalizer

open Text
open Prog (attempt checked)

/-! ## Rows -/

/-- `StoredNormalization`: a row of the table, with the columns of the event, of its transformation
and of the message that announces it. -/
structure StoredNormalization where
  logicalKey : String
  tenantId : String
  normalizedEventId : String
  rawEventId : String
  eventTimePresent : ℕ
  eventTimeSeconds : ℤ
  eventTimeNanos : ℤ
  ingestTimeSeconds : ℤ
  ingestTimeNanos : ℤ
  normalizedAtSeconds : ℤ
  normalizedAtNanos : ℤ
  ocsfVersion : String
  classUid : ℕ
  categoryUid : ℕ
  activityId : Option ℕ
  severity : Option ℕ
  parserId : String
  parserVersion : String
  mappingId : String
  mappingVersion : String
  normalizationStatus : NormalizationStatus
  normalizedHashAlgorithm : String
  normalizedHash : String
  pipelineVersion : String
  ocsfEventJson : String
  transformationId : String
  configurationHash : String
  executionMode : ℤ
  publicationMessageId : String
  causationMessageId : String
  traceId : String
  correlationId : String
  producerComponentVersion : String
  producerInstanceId : String
  deriving DecidableEq, Repr

/-- An error about a stored row. -/
def storedRowError (message : String) : NormalizerError := ⟨"CER-NORM-STORED-ROW", message, false⟩

/-- The parts of `RuntimeConfig` that go into a row. -/
structure RuntimeConfig where
  componentVersion : String
  instanceId : String

/-- `IncomingRawPersisted`. -/
structure IncomingRawPersisted where
  envelope : CerberoEnvelope
  persisted : RawEventPersisted
  requestId : Option String

/-- The row of a plan with its times and its JSON text at hand. -/
def rowOf (config : RuntimeConfig) (plan : NormalizationPlan) (ingestTime normalizedAt : Timestamp)
    (json : String) (incoming : CerberoEnvelope) (publicationMessageId : String) :
    StoredNormalization where
  logicalKey := plan.logicalKey
  tenantId := plan.normalizedEvent.tenantId
  normalizedEventId := plan.normalizedEvent.normalizedEventId
  rawEventId := plan.normalizedEvent.rawEventId
  eventTimePresent := if plan.resolvedEventTime.isSome then 1 else 0
  eventTimeSeconds := (plan.resolvedEventTime.map Timestamp.seconds).getD 0
  eventTimeNanos := (plan.resolvedEventTime.map Timestamp.nanos).getD 0
  ingestTimeSeconds := ingestTime.seconds
  ingestTimeNanos := ingestTime.nanos
  normalizedAtSeconds := normalizedAt.seconds
  normalizedAtNanos := normalizedAt.nanos
  ocsfVersion := plan.normalizedEvent.ocsfVersion
  classUid := plan.normalizedEvent.classUid
  categoryUid := plan.normalizedEvent.categoryUid
  activityId := plan.normalizedEvent.activityId
  severity := plan.normalizedEvent.severity
  parserId := plan.normalizedEvent.parserId
  parserVersion := plan.normalizedEvent.parserVersion
  mappingId := plan.mappingId
  mappingVersion := plan.mappingVersion
  normalizationStatus := plan.normalizedEvent.normalizationStatus
  normalizedHashAlgorithm := plan.normalizedEvent.normalizedHashAlgorithm
  normalizedHash := plan.normalizedEvent.normalizedHash
  pipelineVersion := plan.normalizedEvent.pipelineVersion
  ocsfEventJson := json
  transformationId := plan.transformation.transformationId
  configurationHash := plan.transformation.configurationHash
  executionMode := plan.transformation.executionMode.number
  publicationMessageId := publicationMessageId
  causationMessageId := incoming.messageId
  traceId := incoming.traceId
  correlationId := incoming.correlationId
  producerComponentVersion := config.componentVersion
  producerInstanceId := config.instanceId

/-- `StoredNormalization::from_plan`: the row a plan is stored as. -/
def fromPlan (config : RuntimeConfig) (plan : NormalizationPlan) (ingestTime : Timestamp)
    (incoming : CerberoEnvelope) (publicationMessageId : String) : Outcome StoredNormalization :=
  match plan.normalizedEvent.normalizedAt with
  | none => .error (storedRowError "NormalizedEvent.normalized_at is required")
  | some normalizedAt =>
    match fromUtf8 plan.canonicalOcsfJson with
    | none => .error ⟨"CER-NORM-OCSF-UTF8", utf8Error plan.canonicalOcsfJson, false⟩
    | some json => .ok (rowOf config plan ingestTime normalizedAt json incoming
        publicationMessageId)

/-! ## Comparisons -/

/-- The code of a conflict. -/
def idempotencyConflict : String := "CER-NORM-IDEMPOTENCY-CONFLICT"

/-- `validate_existing_identity`. -/
def validateExistingIdentity (row : StoredNormalization) (rawEventId : String)
    (identity : DerivationIdentity) : Outcome Unit :=
  refuseIf (!(row.logicalKey == identity.logicalKey && row.rawEventId == rawEventId &&
      row.ocsfVersion == identity.ocsfVersion &&
      row.pipelineVersion == identity.pipelineVersion && row.parserId == identity.parserId &&
      row.parserVersion == identity.parserVersion && row.mappingId == identity.mappingId &&
      row.mappingVersion == identity.mappingVersion &&
      row.configurationHash == identity.configurationHash &&
      row.executionMode == identity.executionMode.number))
    ⟨idempotencyConflict,
      "stored logical normalization metadata conflicts with derivation identity", false⟩

/-- `validate_existing_plan`: a stored row and the plan of a repeated run have to agree; the first
difference is the conflict. -/
def validateExistingPlan (row : StoredNormalization) (plan : NormalizationPlan) :
    Outcome Unit := do
  validateExistingIdentity row plan.normalizedEvent.rawEventId plan.identity
  refuseIf (!(row.normalizedHashAlgorithm == plan.normalizedEvent.normalizedHashAlgorithm &&
      row.normalizedHash == plan.normalizedEvent.normalizedHash))
    ⟨idempotencyConflict,
      "stored normalization payload metadata conflicts with normalization plan", false⟩

/-! ## Operations -/

/-- The operations of a worker. -/
inductive RuntimeOp
  /-- `FilesystemRawReader::read`. -/
  | readRaw (persisted : RawEventPersisted)
  /-- The query of `find_by_logical_key`. -/
  | findRow (logicalKey : String)
  /-- The insert of `insert_and_read_back`. -/
  | insertRow (row : StoredNormalization)
  /-- `EventBus::publish_normalized`. -/
  | publishNormalized (row : StoredNormalization) (requestId : Option String)

/-- What an operation answers. -/
@[reducible] def RuntimeOp.Response : RuntimeOp → Type
  | .readRaw _ => Outcome (List UInt8)
  | .findRow _ => Outcome (Option StoredNormalization)
  | .insertRow _ => Outcome Unit
  | .publishNormalized _ _ => Outcome Unit

/-- The interface of a worker. -/
@[reducible] def runtimeInterface : Interface := ⟨RuntimeOp, RuntimeOp.Response⟩

/-- A program of a worker that may fail. -/
abbrev Task := ExceptT NormalizerError (Prog runtimeInterface)

/-- Perform one operation. -/
abbrev request (o : RuntimeOp) : Prog runtimeInterface o.Response :=
  @Prog.call runtimeInterface o

/-- `validate_hash_key`. -/
def validateHashKey (value : String) : Outcome Unit :=
  refuseIf (!isLowerHex value)
    (storedRowError "logical normalization key must be lowercase SHA-256 hex")

/-- `find_by_logical_key`. -/
def findByLogicalKey (logicalKey : String) : Task (Option StoredNormalization) := do
  checked (validateHashKey logicalKey)
  attempt (request (.findRow logicalKey))

/-- `insert_and_read_back`: the row is inserted and read again, because another worker may have been
first. -/
def insertAndReadBack (row : StoredNormalization) : Task StoredNormalization := do
  checked (validateHashKey row.logicalKey)
  attempt (request (.insertRow row))
  match ← findByLogicalKey row.logicalKey with
  | some stored => return stored
  | none => throw ⟨"CER-NORM-CLICKHOUSE-READBACK",
      "ClickHouse acknowledged insert but logical row was not readable", true⟩

/-! ## One message -/

section

variable (lib : Libraries) (core : NormalizerCore) (config : RuntimeConfig) (readings : Readings)
  (incoming : IncomingRawPersisted)

/-- The part of `process_message` that follows when no row is stored yet. -/
def normalizeAndStore (identity : DerivationIdentity) (raw : List UInt8) : Task Unit := do
  let plan ← checked (normalize lib core readings incoming.envelope incoming.persisted raw)
  checked (refuseIf (plan.logicalKey != identity.logicalKey) ⟨"CER-NORM-DERIVATION-IDENTITY",
    "normalization plan identity differs from deterministic preflight", false⟩)
  let ingestTime ← checked (ingestTimeOf incoming.persisted)
  let candidate ← checked (fromPlan config plan ingestTime incoming.envelope
    readings.publicationMessageId)
  let stored ← insertAndReadBack candidate
  checked (validateExistingPlan stored plan)
  attempt (request (.publishNormalized stored incoming.requestId))

/-- The part of `process_message` that follows once the raw bytes are read. -/
def processRaw (raw : List UInt8) : Task Unit :=
  match derivationIdentity lib core incoming.persisted raw with
  | .error preflight =>
    match normalize lib core readings incoming.envelope incoming.persisted raw with
    | .error error => throw error
    | .ok _ => throw ⟨"CER-NORM-DERIVATION-IDENTITY",
        "derivation preflight failed but normalization succeeded: " ++ preflight.code ++ ": " ++
          preflight.message, false⟩
  | .ok identity => do
    match ← findByLogicalKey identity.logicalKey with
    | some existing =>
      checked (validateExistingIdentity existing incoming.persisted.eventId identity)
      attempt (request (.publishNormalized existing incoming.requestId))
    | none => normalizeAndStore lib core config readings incoming identity raw

/-- **`process_message`.** -/
def processMessage : Task Unit := do
  let raw ← attempt (request (.readRaw incoming.persisted))
  processRaw lib core config readings incoming raw

end

/-! ## The stores -/

/-- The table of normalized events, by logical key, and what was published. -/
structure Warehouse where
  rows : SortedMap String StoredNormalization
  published : List (StoredNormalization × Option String)

namespace Warehouse

/-- Insert a row unless its deduplication token was used. -/
def keep (w : Warehouse) (row : StoredNormalization) : Warehouse :=
  { w with rows := w.rows.insert row.logicalKey ((w.rows.get? row.logicalKey).getD row) }

/-- A row that is there stays. -/
theorem get?_keep {w : Warehouse} {row row' : StoredNormalization} {k : String}
    (h : w.rows.get? k = some row') : (w.keep row).rows.get? k = some row' := by
  rw [keep, SortedMap.get?_insert]
  split
  · rename_i hk
    rw [← hk, h]
    rfl
  · exact h

/-- What an operation does when nothing is wrong; `raw` is what the Raw Store holds. -/
def effect (raw : List UInt8) : (o : RuntimeOp) → Warehouse → o.Response × Warehouse
  | .readRaw _, w => (.ok raw, w)
  | .findRow logicalKey, w => (.ok (w.rows.get? logicalKey), w)
  | .insertRow row, w => (.ok (), w.keep row)
  | .publishNormalized row requestId, w =>
    (.ok (), { w with published := w.published ++ [(row, requestId)] })

/-- The codes an operation fails with. -/
def failureCodes : RuntimeOp → List String
  | .readRaw _ => ["CER-NORM-RAW-URI", "CER-NORM-RAW-READ", "CER-NORM-RAW-LENGTH"]
  | .findRow _ => ["CER-NORM-CLICKHOUSE-UNAVAILABLE", "CER-NORM-CLICKHOUSE-ERROR",
      "CER-NORM-CLICKHOUSE-DECODE"]
  | .insertRow _ => ["CER-NORM-CLICKHOUSE-ENCODE", "CER-NORM-CLICKHOUSE-UNAVAILABLE",
      "CER-NORM-CLICKHOUSE-ERROR"]
  | .publishNormalized _ _ => ["CER-NORM-OCSF-DECODE", "CER-NORM-STORED-ROW",
      "CER-NORM-PUBLISH-CONTRACT", "CER-NORM-EXECUTION-MODE", "CER-NORM-NATS-UNAVAILABLE",
      "CER-NORM-PUBLISH-ACK"]

/-- A response that reports a failure. -/
def Failed : (o : RuntimeOp) → o.Response → Prop
  | .readRaw persisted, r => ∃ e, r = .error e ∧ e.code ∈ failureCodes (.readRaw persisted)
  | .findRow logicalKey, r => ∃ e, r = .error e ∧ e.code ∈ failureCodes (.findRow logicalKey)
  | .insertRow row, r => ∃ e, r = .error e ∧ e.code ∈ failureCodes (.insertRow row)
  | .publishNormalized row requestId, r =>
    ∃ e, r = .error e ∧ e.code ∈ failureCodes (.publishNormalized row requestId)

/-- **The outcomes of an operation**: its effect, or a failure with or without it. -/
def Outcomes (raw : List UInt8) (o : RuntimeOp) (w : Warehouse) (r : o.Response)
    (w' : Warehouse) : Prop :=
  (r, w') = effect raw o w ∨ Failed o r ∧ (w' = w ∨ w' = (effect raw o w).2)

end Warehouse

end Normalizer

end Cerbero
