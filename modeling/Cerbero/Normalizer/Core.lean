import Mathlib.Data.Set.Function
import Cerbero.Contracts.ProstStruct
import Cerbero.Lib.Sha256
import Cerbero.Normalizer.Mapping

/-!
# Normalizer/Core — one normalization

`NormalizerCore`: the identity of a derivation and the plan of a normalization.  Clock and generator
are read once per run; everything else is a function of the message and the raw bytes.

`exists_planOf` says what two successful runs on one input share: all but their readings.  Their
identities agree (`identity_eq`), their hashes only if their clocks do
(**`normalizedHash_eq_iff`**).
-/

namespace Cerbero

namespace Normalizer

open Text

/-! ## Configuration -/

/-- The text of a SHA-256 digest: 64 hexadecimal digits, none of them in upper case. -/
def isLowerHex (value : String) : Bool :=
  (bytes value).length == 64 &&
    (bytes value).all fun b => isAsciiHexdigit b && !(0x41 ≤ b && b ≤ 0x5a)

/-- **A SHA-256 digest** is such a text. -/
theorem isLowerHex_sha256LowerHex (data : List UInt8) : isLowerHex (sha256LowerHex data) := by
  have hdigit : ∀ ch ∈ (sha256LowerHex data).toList, ch.toNat < 128 ∧
      (isAsciiHexdigit ch.toUInt8 && !(0x41 ≤ ch.toUInt8 && ch.toUInt8 ≤ 0x5a)) = true := by
    intro ch hch
    obtain ⟨d, rfl⟩ := digit_of_mem_sha256LowerHex hch
    clear hch
    revert d
    decide
  have hbytes : bytes (sha256LowerHex data) = (sha256LowerHex data).toList.map Char.toUInt8 := by
    rw [bytes_eq_flatMap, List.map_eq_flatMap]
    exact List.flatMap_congr fun ch hch => utf8EncodeChar_of_lt (hdigit ch hch).1
  rw [isLowerHex, hbytes, List.length_map, length_sha256LowerHex, beq_self_eq_true, Bool.true_and,
    List.all_map, List.all_eq_true]
  exact fun ch hch => (hdigit ch hch).2

/-- What the normalizer takes from its libraries: SHA-256 in lower-case hexadecimal, and the bits of
the `f64` a number's text stands for. -/
structure Libraries where
  sha256LowerHex : List UInt8 → String
  f64Bits : String → Option UInt64
  isLowerHex_sha256 : ∀ data, isLowerHex (sha256LowerHex data)

/-- **`NormalizerCore`**, as its constructor accepts it. -/
structure NormalizerCore where
  pipelineVersion : String
  executionMode : ExecutionMode
  parsers : List Parser
  policies : SourceTimePolicyRegistry
  pipelineVersion_ne : pipelineVersion ≠ ""
  executionMode_ne : executionMode ≠ .unspecified

/-- What a run reads from the clock and from the generators of identifiers. -/
structure Readings where
  now : Outcome Timestamp
  normalizedEventId : Outcome String
  transformationId : Outcome String
  publicationMessageId : String

/-- `NormalizationPlan`: the event and the transformation to be stored, the key they are stored
under, and the canonical OCSF text they were digested from. -/
structure NormalizationPlan where
  logicalKey : String
  resolvedEventTime : Option Timestamp
  mappingId : String
  mappingVersion : String
  canonicalOcsfJson : List UInt8
  normalizedEvent : NormalizedEvent
  transformation : Transformation

/-- `DerivationIdentity`: the versions a derivation is made by, and the key that follows from them.
-/
structure DerivationIdentity where
  logicalKey : String
  parserId : String
  parserVersion : String
  mappingId : String
  mappingVersion : String
  ocsfVersion : String
  pipelineVersion : String
  configurationHash : String
  executionMode : ExecutionMode
  deriving DecidableEq, Repr

/-- `invalid`. -/
def invalid (message : String) : NormalizerError := ⟨"CER-NORM-INVALID", message, false⟩

/-- `from_parse`. -/
def fromParse (error : ParseError) : NormalizerError := ⟨error.code, error.message, error.retryable⟩

/-- `from_source_time`. -/
def fromSourceTime (message : String) : NormalizerError :=
  ⟨"CER-NORM-SOURCE-TIME-POLICY", message, false⟩

/-- Fail with `error` when `bad` holds. -/
def refuseIf (bad : Bool) (error : NormalizerError) : Outcome Unit :=
  if bad then .error error else .ok ()

@[simp] theorem refuseIf_eq_ok {bad : Bool} {error : NormalizerError} :
    refuseIf bad error = .ok () ↔ bad = false := by
  cases bad <;> simp [refuseIf]

/-- A contract check under an error code. -/
def contractCheck (code : String) (check : Check) : Outcome Unit :=
  check.mapError fun violation => ⟨code, violation.field ++ ": " ++ violation.reason, false⟩

/-- `timestamp_to_unix_millis` of the core. -/
def coreUnixMillis (timestamp : Timestamp) : Outcome ℤ :=
  if fitsInt64 (timestamp.seconds * 1000) && fitsInt64 (unixMillis timestamp) then
    .ok (unixMillis timestamp)
  else .error (invalid "timestamp overflows milliseconds")

section

variable (lib : Libraries)

/-! ## Canonical JSON -/

/-- `canonical_json_bytes`. -/
def canonicalJsonBytes (value : Json) : List UInt8 := bytes value.canonicalize.render

/-- `canonical_json_hash`. -/
def canonicalJsonHash (value : Json) : String := lib.sha256LowerHex (canonicalJsonBytes value)

/-- `json_to_prost_struct` of `core.rs`. -/
def jsonToProstStruct : Json → Outcome Struct :=
  prostStructOf lib.f64Bits
    (invalid "OCSF JSON number cannot be represented as protobuf Struct number")
    (invalid "OCSF event root must be a JSON object")

/-! ## Identity -/

/-- `NormalizerCoreConfig::configuration_hash_for`. -/
def baseConfigurationHash (core : NormalizerCore)
    (parserId parserVersion mappingId mappingVersion : String) : String :=
  lib.sha256LowerHex (bytes ("parser=" ++ parserId ++ "@" ++ parserVersion ++ "\nmapping=" ++
    mappingId ++ "@" ++ mappingVersion ++ "\nocsf=" ++ ocsfVersion ++ "\npipeline=" ++
    core.pipelineVersion ++ "\nmode=" ++ core.executionMode.asStrName ++ "\n"))

/-- `NormalizerCore::configuration_hash_for`: the digest of the base configuration, and of the time
policy of the source where the event has no time of its own. -/
def configurationHashFor (core : NormalizerCore) (persisted : RawEventPersisted)
    (parserId parserVersion mappingId mappingVersion : String) : String :=
  let base := baseConfigurationHash lib core parserId parserVersion mappingId mappingVersion
  if persisted.eventTime.isSome then base
  else match core.policies.get? persisted.sourceId with
    | none => base
    | some policy => lib.sha256LowerHex (bytes ("base_configuration=" ++ base ++
        "\nsource_time_policy=" ++ policy.canonical ++ "\n"))

/-- `logical_key_for`: the digest of a text with one line for each thing that tells derivations
apart. -/
def logicalKeyFor (core : NormalizerCore) (persisted : RawEventPersisted)
    (parserId parserVersion mappingId mappingVersion : String) : String :=
  lib.sha256LowerHex (bytes ("raw_event_id=" ++ persisted.eventId ++ "\nparser=" ++ parserId ++
    "@" ++ parserVersion ++ "\nmapping=" ++ mappingId ++ "@" ++ mappingVersion ++ "\nocsf=" ++
    ocsfVersion ++ "\npipeline=" ++ core.pipelineVersion ++ "\nconfiguration=" ++
    configurationHashFor lib core persisted parserId parserVersion mappingId mappingVersion ++
    "\nexecution_mode=" ++ core.executionMode.asStrName ++ "\n"))

/-- `validate_raw_bytes`. -/
def validateRawBytes (persisted : RawEventPersisted) (raw : List UInt8) : Outcome Unit := do
  refuseIf (raw.length != persisted.rawSize) ⟨"CER-NORM-RAW-LENGTH",
    "Raw Store byte length does not match RawEventPersisted.raw_size", false⟩
  refuseIf (lib.sha256LowerHex raw != persisted.rawHash) ⟨"CER-NORM-RAW-HASH",
    "Raw Store SHA-256 does not match RawEventPersisted.raw_hash", false⟩

/-- The identity of a derivation by a parser and a mapping. -/
def identityFor (core : NormalizerCore) (persisted : RawEventPersisted)
    (parserId parserVersion : String) (mapping : Mapping) : DerivationIdentity where
  logicalKey := logicalKeyFor lib core persisted parserId parserVersion mapping.id mapping.version
  parserId := parserId
  parserVersion := parserVersion
  mappingId := mapping.id
  mappingVersion := mapping.version
  ocsfVersion := ocsfVersion
  pipelineVersion := core.pipelineVersion
  configurationHash :=
    configurationHashFor lib core persisted parserId parserVersion mapping.id mapping.version
  executionMode := core.executionMode

/-- **`derivation_identity`**: the key of a derivation before it is made: only the parser is
selected, nothing is parsed. -/
def derivationIdentity (core : NormalizerCore) (persisted : RawEventPersisted)
    (raw : List UInt8) : Outcome DerivationIdentity := do
  validateRawBytes lib persisted raw
  let (_, trace) ← (select (core.parsers.map Parser.toParserProbe)
    ⟨raw, persisted, none⟩).mapError fromParse
  let mapping ← forParser trace.selectedParserId
  return identityFor lib core persisted trace.selectedParserId trace.selectedParserVersion mapping

/-! ## Normalization -/

/-- `validate_handoff`: the type and the schema of the message, its tenant, and the digest's
algorithm. -/
def validateHandoff (incoming : CerberoEnvelope) (persisted : RawEventPersisted) :
    Outcome Unit := do
  refuseIf (incoming.messageType != "RawEventPersisted")
    (invalid "incoming message_type must be RawEventPersisted")
  refuseIf (incoming.payloadSchema != "cerbero.raw_event_persisted.v1")
    (invalid "incoming payload_schema must be cerbero.raw_event_persisted.v1")
  refuseIf (incoming.tenantId != persisted.tenantId)
    (invalid "envelope tenant_id differs from RawEventPersisted tenant_id")
  refuseIf (persisted.rawHashAlgorithm != "sha256")
    (invalid "RawEventPersisted.raw_hash_algorithm must be sha256")

/-- The normalized event of a plan. -/
def normalizedEventOf (core : NormalizerCore) (persisted : RawEventPersisted)
    (parsed : ParsedEvent) (mapped : MappingOutput) (ocsfStruct : Struct) (now : Timestamp)
    (normalizedEventId : String) : NormalizedEvent where
  normalizedEventId := normalizedEventId
  rawEventId := persisted.eventId
  tenantId := persisted.tenantId
  normalizedAt := some now
  ocsfVersion := ocsfVersion
  classUid := mapped.classUid
  categoryUid := mapped.categoryUid
  severity := mapped.severity
  activityId := mapped.activityId
  ocsfEvent := some ocsfStruct
  parserId := parsed.parserId
  parserVersion := parsed.parserVersion
  normalizationStatus := mapped.status
  normalizedHashAlgorithm := "sha256"
  normalizedHash := canonicalJsonHash lib mapped.ocsfEvent
  pipelineVersion := core.pipelineVersion

/-- The transformation of a plan. -/
def transformationOf (core : NormalizerCore) (persisted : RawEventPersisted)
    (parsed : ParsedEvent) (mapped : MappingOutput) (now : Timestamp)
    (normalizedEventId transformationId : String) : Transformation where
  transformationId := transformationId
  inputObjectId := persisted.eventId
  inputObjectType := "RawEvent"
  outputObjectId := normalizedEventId
  outputObjectType := "NormalizedEvent"
  component := "cerbero-normalizer:" ++ mapped.mappingId
  componentVersion := mapped.mappingVersion
  configurationHash := configurationHashFor lib core persisted parsed.parserId
    parsed.parserVersion mapped.mappingId mapped.mappingVersion
  startedAt := some now
  completedAt := some now
  status := .success
  error := none
  executionMode := core.executionMode

/-- `build_normalization_plan`: the time of a parsed event is resolved and the event mapped; the
event and the transformation are filled in with the identifiers and the time of this run, and both
are validated. -/
def buildNormalizationPlan (core : NormalizerCore) (readings : Readings)
    (persisted : RawEventPersisted) (parsed : ParsedEvent) : Outcome NormalizationPlan := do
  let _ ← forParser parsed.parserId
  let eventTime ← (resolve core.policies persisted parsed).mapError fromSourceTime
  let normalizedAt ← readings.now
  let normalizedAtMillis ← coreUnixMillis normalizedAt
  let mapped ← map parsed persisted eventTime normalizedAtMillis
  let normalizedEventId ← readings.normalizedEventId
  let transformationId ← readings.transformationId
  let ocsfStruct ← jsonToProstStruct lib mapped.ocsfEvent
  let normalizedEvent := normalizedEventOf lib core persisted parsed mapped ocsfStruct normalizedAt
    normalizedEventId
  contractCheck "CER-NORM-CONTRACT" (validateNormalizedEvent normalizedEvent)
  let transformation := transformationOf lib core persisted parsed mapped normalizedAt
    normalizedEventId transformationId
  contractCheck "CER-NORM-TRANSFORMATION-CONTRACT" (validateTransformation transformation)
  return {
    logicalKey := logicalKeyFor lib core persisted parsed.parserId parsed.parserVersion
      mapped.mappingId mapped.mappingVersion
    resolvedEventTime := eventTime.eventTime
    mappingId := mapped.mappingId
    mappingVersion := mapped.mappingVersion
    canonicalOcsfJson := canonicalJsonBytes mapped.ocsfEvent
    normalizedEvent := normalizedEvent
    transformation := transformation }

/-- **`NormalizerCore::normalize`**: validate, parse and plan; no step of it has an effect. -/
def normalize (core : NormalizerCore) (readings : Readings) (incoming : CerberoEnvelope)
    (persisted : RawEventPersisted) (raw : List UInt8) : Outcome NormalizationPlan := do
  validateHandoff incoming persisted
  validateRawBytes lib persisted raw
  let parsed ← (parse core.parsers ⟨raw, persisted, none⟩).mapError fromParse
  buildNormalizationPlan lib core readings persisted parsed

end

/-! ## What a successful run is made of -/

/-- The one mapping that is registered. -/
abbrev sshMapping : Mapping := ⟨linuxSshAuthMappingId, linuxSshAuthMappingVersion⟩

/-- The identity a plan carries. -/
def NormalizationPlan.identity (plan : NormalizationPlan) : DerivationIdentity where
  logicalKey := plan.logicalKey
  parserId := plan.normalizedEvent.parserId
  parserVersion := plan.normalizedEvent.parserVersion
  mappingId := plan.mappingId
  mappingVersion := plan.mappingVersion
  ocsfVersion := plan.normalizedEvent.ocsfVersion
  pipelineVersion := plan.normalizedEvent.pipelineVersion
  configurationHash := plan.transformation.configurationHash
  executionMode := plan.transformation.executionMode

/-- **The plan of a login**: `login` is what the parsed event says, `now` the clock reading. -/
structure PlanOf (lib : Libraries) (core : NormalizerCore) (persisted : RawEventPersisted)
    (parsed : ParsedEvent) (login : Login) (now : Timestamp) (plan : NormalizationPlan) : Prop where
  identity : plan.identity =
    identityFor lib core persisted parsed.parserId parsed.parserVersion sshMapping
  rawEventId : plan.normalizedEvent.rawEventId = persisted.eventId
  normalizedAt : plan.normalizedEvent.normalizedAt = some now
  hashAlgorithm : plan.normalizedEvent.normalizedHashAlgorithm = "sha256"
  hash : plan.normalizedEvent.normalizedHash = lib.sha256LowerHex plan.canonicalOcsfJson
  canonicalOcsfJson : plan.canonicalOcsfJson =
    canonicalJsonBytes (ocsfEvent login (unixMillis now))

section

variable {lib : Libraries} {core : NormalizerCore} {readings readings' : Readings}
  {incoming : CerberoEnvelope} {persisted : RawEventPersisted} {raw : List UInt8}
  {parsed : ParsedEvent} {plan plan' : NormalizationPlan}

theorem coreUnixMillis_eq_ok {timestamp : Timestamp} {millis : ℤ}
    (h : coreUnixMillis timestamp = .ok millis) : unixMillis timestamp = millis := by
  unfold coreUnixMillis at h
  split at h
  · exact Except.ok.inj h
  · exact nomatch h

/-- The plan of a mapped event. -/
def planOfMapped (lib : Libraries) (core : NormalizerCore) (persisted : RawEventPersisted)
    (parsed : ParsedEvent) (eventTime : EventTimeContext) (mapped : MappingOutput)
    (ocsfStruct : Struct) (now : Timestamp) (normalizedEventId transformationId : String) :
    NormalizationPlan where
  logicalKey := logicalKeyFor lib core persisted parsed.parserId parsed.parserVersion
    mapped.mappingId mapped.mappingVersion
  resolvedEventTime := eventTime.eventTime
  mappingId := mapped.mappingId
  mappingVersion := mapped.mappingVersion
  canonicalOcsfJson := canonicalJsonBytes mapped.ocsfEvent
  normalizedEvent :=
    normalizedEventOf lib core persisted parsed mapped ocsfStruct now normalizedEventId
  transformation :=
    transformationOf lib core persisted parsed mapped now normalizedEventId transformationId

theorem exists_planOfMapped
    (h : buildNormalizationPlan lib core readings persisted parsed = .ok plan) :
    ∃ eventTime mapped ocsfStruct now normalizedEventId transformationId,
      resolve core.policies persisted parsed = .ok eventTime ∧ readings.now = .ok now ∧
      map parsed persisted eventTime (unixMillis now) = .ok mapped ∧
      jsonToProstStruct lib mapped.ocsfEvent = .ok ocsfStruct ∧
      plan = planOfMapped lib core persisted parsed eventTime mapped ocsfStruct now
        normalizedEventId transformationId := by
  obtain ⟨_, -, h⟩ := bind_eq_ok.1 h
  obtain ⟨eventTime, hresolve, h⟩ := bind_eq_ok.1 h
  obtain ⟨now, hnow, h⟩ := bind_eq_ok.1 h
  obtain ⟨millis, hmillis, h⟩ := bind_eq_ok.1 h
  obtain ⟨mapped, hmap, h⟩ := bind_eq_ok.1 h
  obtain ⟨normalizedEventId, -, h⟩ := bind_eq_ok.1 h
  obtain ⟨transformationId, -, h⟩ := bind_eq_ok.1 h
  obtain ⟨ocsfStruct, hstruct, h⟩ := bind_eq_ok.1 h
  obtain ⟨-, h⟩ := check_bind_eq_ok.1 h
  obtain ⟨-, h⟩ := check_bind_eq_ok.1 h
  rw [← coreUnixMillis_eq_ok hmillis] at hmap
  exact ⟨eventTime, mapped, ocsfStruct, now, normalizedEventId, transformationId,
    mapError_eq_ok.1 hresolve, hnow, hmap, hstruct, (Except.ok.inj h).symm⟩

theorem buildNormalizationPlan_eq_ok
    (h : buildNormalizationPlan lib core readings persisted parsed = .ok plan) :
    parsed.parserId = linuxSshdParserId ∧ ∃ eventTime login status now,
      resolve core.policies persisted parsed = .ok eventTime ∧
      loginOf parsed persisted eventTime = .ok (login, status) ∧ readings.now = .ok now ∧
      PlanOf lib core persisted parsed login now plan := by
  obtain ⟨eventTime, mapped, _, now, _, _, hresolve, hnow, hmap, -, rfl⟩ := exists_planOfMapped h
  obtain ⟨hparser, login, status, hlogin, rfl⟩ := map_eq_ok hmap
  exact ⟨hparser, eventTime, login, status, now, hresolve, hlogin, hnow,
    ⟨rfl, rfl, rfl, rfl, rfl, rfl⟩⟩

theorem normalize_eq_ok (h : normalize lib core readings incoming persisted raw = .ok plan) :
    validateRawBytes lib persisted raw = .ok () ∧ ∃ parsed,
      parse core.parsers ⟨raw, persisted, none⟩ = .ok parsed ∧
      buildNormalizationPlan lib core readings persisted parsed = .ok plan := by
  obtain ⟨-, h⟩ := check_bind_eq_ok.1 h
  obtain ⟨hraw, h⟩ := check_bind_eq_ok.1 h
  obtain ⟨parsed, hparsed, h⟩ := bind_eq_ok.1 h
  exact ⟨hraw, parsed, mapError_eq_ok.1 hparsed, h⟩

/-- **The preflight finds the identity of the plan.** -/
theorem derivationIdentity_eq_ok
    (h : normalize lib core readings incoming persisted raw = .ok plan) :
    derivationIdentity lib core persisted raw = .ok plan.identity := by
  obtain ⟨hraw, parsed, hparsed, hbuild⟩ := normalize_eq_ok h
  obtain ⟨index, trace, hselect, hid, hversion⟩ := parse_eq_ok hparsed
  obtain ⟨hparser, -, login, -, now, -, -, -, hplan⟩ := buildNormalizationPlan_eq_ok hbuild
  have hmapping : forParser trace.selectedParserId = .ok sshMapping := by
    rw [hid, hparser]
    exact if_pos rfl
  rw [hplan.identity, ← hid, ← hversion]
  exact bind_eq_ok.2 ⟨(), hraw, bind_eq_ok.2 ⟨(index, trace), mapError_eq_ok.2 hselect,
    bind_eq_ok.2 ⟨_, hmapping, rfl⟩⟩⟩

end

end Normalizer

end Cerbero
