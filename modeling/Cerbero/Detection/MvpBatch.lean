import Mathlib.Data.List.Lex
import Cerbero.Contracts.ProstStruct
import Cerbero.Detection.Materialize
import Cerbero.Detection.MvpRules
import Cerbero.Lib.Program

/-!
# Detection/MvpBatch — one bounded run of the MVP rule pack

`MvpBatchRuntime::execute` as a program: load the events of a range, make the EVENT Signals durable
one by one, then the THRESHOLD Signals, then correlate the durable EVENT Signals and make the
Findings durable.  Its operations are the query of the source, the generator of identifiers and the
two calls of the repository.

The THRESHOLD plan comes from a Sigma rule in a file of its own; it is a parameter, or the error of
its import.  What `serde_json` says of a stored text it refuses is left out of the error.
-/

namespace Cerbero

namespace Detection

open Text
open Prog (attempt checked)

/-! ## Requests -/

/-- `MvpBatchRequest`: a range of times of one tenant, how many events at most, and the two times
its results are stamped with. -/
structure MvpBatchRequest where
  tenantId : String
  executionMode : ExecutionMode
  startMillis : ℤ
  endMillis : ℤ
  maxEvents : ℕ
  evaluatedAt : Timestamp
  createdAt : Timestamp

/-- `MvpBatchResult`. -/
structure MvpBatchResult where
  eventsLoaded : ℕ
  signals : List Signal
  findings : List Finding

def maxBatchEvents : ℕ := 10000

/-- A `RuntimeError` about a violation. -/
def contractError (text : String) (violation : ContractViolation) : RuntimeError :=
  ⟨text ++ ": " ++ violation.field ++ ": " ++ violation.reason⟩

/-- Fail with a message when `bad` holds. -/
def failIf (bad : Bool) (message : String) : Except RuntimeError Unit :=
  if bad then .error ⟨message⟩ else .ok ()

/-- `validate_request`: the tenant, the times, the mode, the range and the bound on the number of
events. -/
def validateRequest (request : MvpBatchRequest) : Except RuntimeError Unit := do
  (validateUuidV7 "tenant_id" request.tenantId).mapError (contractError "invalid tenant_id")
  (validateTimestamp "evaluated_at" request.evaluatedAt).mapError
    (contractError "invalid evaluated_at")
  (validateTimestamp "created_at" request.createdAt).mapError (contractError "invalid created_at")
  failIf (request.executionMode == .unspecified) "execution_mode must be LIVE, REPLAY, or TEST"
  failIf (request.endMillis < request.startMillis) "batch start_millis must be <= end_millis"
  failIf (request.maxEvents == 0 || maxBatchEvents < request.maxEvents)
    ("max_events must be between 1 and " ++ toString maxBatchEvents)

/-! ## Clocks -/

/-- A value that fits an `i64`. -/
def fitsInt64 (n : ℤ) : Bool := -9223372036854775808 ≤ n && n ≤ 9223372036854775807

/-- Whole milliseconds since the epoch; the rest of the nanoseconds is cut off. -/
def wholeMillis (timestamp : Timestamp) : ℤ :=
  timestamp.seconds * 1000 + timestamp.nanos.tdiv 1000000

/-- `timestamp_to_millis_checked`. -/
def timestampToMillisChecked (timestamp : Timestamp) : Except MvpPolicyError ℤ :=
  if fitsInt64 (timestamp.seconds * 1000) && fitsInt64 (wholeMillis timestamp) then
    .ok (wholeMillis timestamp)
  else .error ⟨"timestamp milliseconds overflow i64"⟩

/-- `timestamp_millis`: the milliseconds of a time; a missing one, and one out of range, sorts
before all others. -/
def timestampMillis : Option Timestamp → ℤ
  | none => -9223372036854775808
  | some timestamp =>
    match timestampToMillisChecked timestamp with
    | .ok millis => millis
    | .error _ => -9223372036854775808

/-! ## The source -/

/-- `BatchEvent`. -/
structure BatchEvent where
  event : NormalizedEvent
  sourceEventTime : Option Timestamp

/-- `StoredNormalizedRow`: a row of the table of normalized events as ClickHouse prints it. -/
structure StoredNormalizedRow where
  tenantId : String
  normalizedEventId : String
  rawEventId : String
  eventTimePresent : ℕ
  eventTimeSeconds : ℤ
  eventTimeNanos : ℤ
  normalizedAtSeconds : ℤ
  normalizedAtNanos : ℤ
  ocsfVersion : String
  classUid : ℕ
  categoryUid : ℕ
  activityId : Option ℕ
  severity : Option ℕ
  parserId : String
  parserVersion : String
  normalizationStatus : NormalizationStatus
  normalizedHashAlgorithm : String
  normalizedHash : String
  pipelineVersion : String
  ocsfEventJson : String

/-- Equality of two `f64`: no NaN equals itself, and the two zeros are equal. -/
def f64Equal (a b : UInt64) : Bool :=
  let magnitude (bits : UInt64) : ℕ := bits.toNat % 2 ^ 63
  magnitude a ≤ 2047 * 2 ^ 52 && magnitude b ≤ 2047 * 2 ^ 52 &&
    (a == b || magnitude a == 0 && magnitude b == 0)

mutual

/-- Equality of two `prost` values. -/
def sameValue : Value → Value → Bool
  | .unset, .unset => true
  | .nullValue a, .nullValue b => a == b
  | .numberValue a, .numberValue b => f64Equal a b
  | .stringValue a, .stringValue b => a == b
  | .boolValue a, .boolValue b => a == b
  | .structValue fields, .structValue fields' => sameFields fields fields'
  | .listValue values, .listValue values' => sameValues values values'
  | _, _ => false

def sameValues : List Value → List Value → Bool
  | [], [] => true
  | value :: values, value' :: values' => sameValue value value' && sameValues values values'
  | _, _ => false

def sameFields : List (String × Value) → List (String × Value) → Bool
  | [], [] => true
  | field :: fields, field' :: fields' => sameField field field' && sameFields fields fields'
  | _, _ => false

def sameField : String × Value → String × Value → Bool
  | (name, value), (name', value') => name == name' && sameValue value value'

end

/-- Equality of two normalized events. -/
def sameEvent (a b : NormalizedEvent) : Bool :=
  a.normalizedEventId == b.normalizedEventId && a.rawEventId == b.rawEventId &&
    a.tenantId == b.tenantId && a.normalizedAt == b.normalizedAt &&
    a.ocsfVersion == b.ocsfVersion && a.classUid == b.classUid &&
    a.categoryUid == b.categoryUid && a.severity == b.severity && a.activityId == b.activityId &&
    (match a.ocsfEvent, b.ocsfEvent with
      | none, none => true
      | some fields, some fields' => sameFields fields fields'
      | _, _ => false) &&
    a.parserId == b.parserId && a.parserVersion == b.parserVersion &&
    a.normalizationStatus == b.normalizationStatus &&
    a.normalizedHashAlgorithm == b.normalizedHashAlgorithm &&
    a.normalizedHash == b.normalizedHash && a.pipelineVersion == b.pipelineVersion

/-- What the runtime takes from its libraries: `serde_json::from_str`, the bits of the `f64` that a
number's text stands for, and SHA-256. -/
structure BatchLibraries where
  fromStr : String → Option Json
  f64Bits : String → Option UInt64
  sha256LowerHex : List UInt8 → String

section

variable (lib : BatchLibraries)

/-- The source event time of a row. -/
def StoredNormalizedRow.sourceEventTime (row : StoredNormalizedRow) :
    Except RuntimeError (Option Timestamp) :=
  match row.eventTimePresent with
  | 0 => .ok none
  | 1 => do
    let timestamp : Timestamp := ⟨row.eventTimeSeconds, row.eventTimeNanos⟩
    (validateTimestamp "event_time" timestamp).mapError (contractError "invalid stored event_time")
    return some timestamp
  | other => .error ⟨"event_time_present must be 0 or 1, observed " ++ toString other⟩

/-- `into_batch_event`: the event of a row, or the column that makes it unreadable. -/
def StoredNormalizedRow.intoBatchEvent (row : StoredNormalizedRow) :
    Except RuntimeError BatchEvent := do
  let some ocsf := lib.fromStr row.ocsfEventJson
    | .error ⟨"stored OCSF JSON decode failed"⟩
  let sourceEventTime ← row.sourceEventTime
  let ocsfStruct ← prostStructOf lib.f64Bits
    ⟨"stored OCSF number is outside protobuf Struct range"⟩
    ⟨"stored OCSF event root must be an object"⟩ ocsf
  return {
    event := {
      normalizedEventId := row.normalizedEventId
      rawEventId := row.rawEventId
      tenantId := row.tenantId
      normalizedAt := some ⟨row.normalizedAtSeconds, row.normalizedAtNanos⟩
      ocsfVersion := row.ocsfVersion
      classUid := row.classUid
      categoryUid := row.categoryUid
      severity := row.severity
      activityId := row.activityId
      ocsfEvent := some ocsfStruct
      parserId := row.parserId
      parserVersion := row.parserVersion
      normalizationStatus := row.normalizationStatus
      normalizedHashAlgorithm := row.normalizedHashAlgorithm
      normalizedHash := row.normalizedHash
      pipelineVersion := row.pipelineVersion }
    sourceEventTime := sourceEventTime }

/-- The loop of `load` over the rows. -/
def uniqueEvents : SortedMap String BatchEvent → List StoredNormalizedRow →
    Except RuntimeError (SortedMap String BatchEvent)
  | unique, [] => .ok unique
  | unique, row :: rows => do
    let batchEvent ← row.intoBatchEvent lib
    let eventId := batchEvent.event.normalizedEventId
    match unique.get? eventId with
    | some existing =>
      failIf (!(sameEvent existing.event batchEvent.event &&
          existing.sourceEventTime == batchEvent.sourceEventTime))
        ("conflicting duplicate NormalizedEvent identity " ++ eventId)
      uniqueEvents unique rows
    | none => uniqueEvents (unique.insert eventId batchEvent) rows

/-- The order of the events of a batch: milliseconds, then identifier. -/
def BatchEvent.sortKey (batchEvent : BatchEvent) : ℤ ×ₗ String :=
  toLex (timestampMillis batchEvent.sourceEventTime, batchEvent.event.normalizedEventId)

/-- `ClickHouseNormalizedEventSource::load`, from the rows of the query on. -/
def loadRows (rows : List StoredNormalizedRow) : Except RuntimeError (List BatchEvent) := do
  let unique ← uniqueEvents lib SortedMap.empty rows
  return (unique.toList.map Prod.snd).insertionSort fun a b => a.sortKey ≤ b.sortKey

end

/-! ## Fields of an event -/

/-- `event_string_field`: the text of a field of the OCSF event; an absent or null field gives none,
and a value of another kind is an error. -/
def eventStringField (event : NormalizedEvent) (field : String) :
    Except MvpPolicyError (Option String) :=
  match fieldState event field with
  | .present (.stringValue value) => .ok (some value)
  | .present _ => .error ⟨"field " ++ field ++ " is not a string"⟩
  | .absent => .ok none
  | .null => .ok none
  | .malformed => .error ⟨"field " ++ field ++ " is malformed"⟩

/-- An `f64` that is finite, within `2 ^ 53 - 1` and no more than `2 ^ -52` away from its integral
part, as that integral part. -/
def f64Integral (bits : UInt64) : Option ℤ :=
  let exponent := bits.toNat / 2 ^ 52 % 2 ^ 11
  let fraction := bits.toNat % 2 ^ 52
  -- the number is `mantissa / scale`; from the exponent 1076 on it is too large
  let mantissa := if exponent = 0 then fraction else fraction + 2 ^ 52
  let scale := 2 ^ (1075 - max exponent 1)
  if 1075 < exponent ∨ 2 ^ 52 * (mantissa % scale) > scale ∨ (2 ^ 53 - 1) * scale < mantissa then
    none
  else if bits.toNat < 2 ^ 63 then some (mantissa / scale : ℕ) else some (-(mantissa / scale : ℕ))

/-- `event_integer_field`: the whole number of a field; an absent or null field gives none, and a
number with a fraction is an error. -/
def eventIntegerField (event : NormalizedEvent) (field : String) :
    Except MvpPolicyError (Option ℤ) :=
  match fieldState event field with
  | .present (.numberValue bits) =>
    match f64Integral bits with
    | some integer => .ok (some integer)
    | none => .error ⟨"field " ++ field ++ " is not an integral i64-compatible number"⟩
  | .present _ => .error ⟨"field " ++ field ++ " is not numeric"⟩
  | .absent => .ok none
  | .null => .ok none
  | .malformed => .error ⟨"field " ++ field ++ " is malformed"⟩

/-! ## THRESHOLD -/

/-- The loop of `threshold_group_key`. -/
def thresholdGroupKey (event : NormalizedEvent) :
    List String → Except MvpPolicyError (Option (List String))
  | [] => .ok (some [])
  | field :: fields => do
    let some value ← eventStringField event field | return none
    return (← thresholdGroupKey event fields).map (value :: ·)

/-- `MvpPolicy`, as the policy of a THRESHOLD rule. -/
def mvpThresholdPolicy : ThresholdEvaluationPolicy String String (List String) MvpPolicyError where
  toEventLeafEvaluationPolicy := mvpPolicy
  thresholdGroupKey groupBy event := thresholdGroupKey event groupBy
  thresholdEventTimeMillis timeBasis timeField event :=
    if timeBasis = .eventTime then eventIntegerField event timeField
    else .error ⟨"MVP batch threshold supports EVENT_TIME only"⟩

/-- `MvpCompiledThresholdPlan`. -/
abbrev MvpCompiledThresholdPlan :=
  CompiledThresholdExecutionPlan MvpExecutionPlan MvpProfile String

/-! ## SEQUENCE -/

def accountCompromiseRuleId : String := "CER-COR-0003"

def correlationRuleVersion : String := "2"

/-- `MvpSequenceOrdering`. -/
inductive MvpSequenceOrdering
  | observed
  deriving DecidableEq, Repr

/-- `compile_sequence_rule`: the plan of the one sequence rule of the pack, or why it does not
compile. -/
def compileSequenceRule (sha256LowerHex : List UInt8 → String) :
    Except RuntimeError (CompiledSequenceCorrelationPlan String String MvpSequenceOrdering) :=
  (compileSequenceCorrelationPlan
    { correlationRuleId := accountCompromiseRuleId
      correlationRuleVersion := correlationRuleVersion
      stages := [failedLoginRuleId, successfulLoginRuleId, privilegeEscalationRuleId]
      joinKeys := ["user.name"]
      maxWindowMillis := 600000
      ordering := MvpSequenceOrdering.observed
      configurationHash := sha256LowerHex (bytes "mvp-account-compromise-sequence-v1") }
    .clickHouse).mapError fun error => ⟨"SEQUENCE rule compilation failed: " ++ error.asStr⟩

/-- The loop of `MvpSequencePolicy::new`. -/
def collectUsers : SortedMap String String → List BatchEvent →
    Except RuntimeError (SortedMap String String)
  | userByEventId, [] => .ok userByEventId
  | userByEventId, batchEvent :: batchEvents => do
    match ← (eventStringField batchEvent.event "user.name").mapError fun error =>
      ⟨"user extraction failed: " ++ error.message⟩ with
    | none => collectUsers userByEventId batchEvents
    | some user =>
      collectUsers (userByEventId.insert batchEvent.event.normalizedEventId user) batchEvents

/-- The field of `MvpSequencePolicy`, as `MvpSequencePolicy::new` fills it. -/
def userByEventId (events : List BatchEvent) : Except RuntimeError (SortedMap String String) :=
  collectUsers SortedMap.empty events

/-- `sequence_time_millis`. -/
def sequenceTimeMillis (signal : Signal) : Option ℤ :=
  signal.firstObservedAt.bind fun timestamp => (timestampToMillisChecked timestamp).toOption

/-- **`MvpSequencePolicy`**: a Signal is of the stage of its rule, joined by the user of its first
event input and ordered by its time and then its identifier. -/
def mvpSequencePolicy (users : SortedMap String String) :
    SequenceCorrelationEvaluationPolicy String String MvpSequenceOrdering String (ℤ ×ₗ String)
      MvpPolicyError where
  stageMatches stage signal := .ok (signal.ruleId == stage)
  sequenceGroupKey joinKeys signal :=
    if joinKeys ≠ ["user.name"] then .error ⟨"MVP sequence requires join key user.name"⟩
    else .ok ((signal.inputs.find? fun input => input.inputType == 1).bind fun input =>
      users.get? input.inputId)
  sequenceTimeMillis signal := .ok (sequenceTimeMillis signal)
  sequenceOrderKey _ signal :=
    .ok ((sequenceTimeMillis signal).map fun millis => toLex (millis, signal.signalId))

/-! ## The run -/

/-- `EventPresentation`. -/
structure EventPresentation where
  severity : String
  summary : String

/-- An EVENT rule with what its Signals say. -/
abbrev EventRule := CompiledEventExecutionPlan MvpExecutionPlan MvpProfile × EventPresentation

/-- The EVENT rules of the pack, in the order in which they are tried. -/
def eventRules (sha256LowerHex : List UInt8 → String) : Except RuntimeError (List EventRule) := do
  let failedPlan ← compileEventRule sha256LowerHex failedLoginRuleId "mvp-failed-login-v1"
    failedLoginExpression
  let successPlan ← compileEventRule sha256LowerHex successfulLoginRuleId
    "mvp-successful-login-v1" successfulLoginExpression
  let privilegePlan ← compileEventRule sha256LowerHex privilegeEscalationRuleId
    "mvp-privilege-escalation-v1" privilegeEscalationExpression
  return [(failedPlan, ⟨"MEDIUM", "Failed login matched"⟩),
    (successPlan, ⟨"LOW", "Successful login matched"⟩),
    (privilegePlan, ⟨"HIGH", "Privilege escalation matched"⟩)]

/-- The operations of a run. -/
inductive BatchOp
  /-- The query of `load`. -/
  | queryRows (tenantId : String) (executionMode : ExecutionMode) (startMillis endMillis : ℤ)
      (maxEvents : ℕ)
  /-- `Uuid::now_v7`. -/
  | nowV7
  /-- `PostgresAnalyticalRepository::persist_signal`. -/
  | persistSignal (signal : Signal)
  /-- `PostgresAnalyticalRepository::persist_finding`. -/
  | persistFinding (finding : Finding)

/-- What an operation answers. -/
@[reducible] def BatchOp.Response : BatchOp → Type
  | .queryRows _ _ _ _ _ => Except RuntimeError (List StoredNormalizedRow)
  | .nowV7 => String
  | .persistSignal _ => Except RuntimeError Signal
  | .persistFinding _ => Except RuntimeError Finding

/-- The interface of a run. -/
@[reducible] def batchInterface : Interface := ⟨BatchOp, BatchOp.Response⟩

/-- A program of a run; it may fail. -/
abbrev BatchTask := ExceptT RuntimeError (Prog batchInterface)

/-- Perform one operation. -/
abbrev perform (o : BatchOp) : Prog batchInterface o.Response := @Prog.call batchInterface o

/-- `Uuid::now_v7().to_string()`. -/
def nowV7 : BatchTask String := ExceptT.lift (perform .nowV7)

/-- A loop that collects what its rounds make. -/
def collectRounds {α β : Type} (round : α → BatchTask (List β)) : List α → BatchTask (List β)
  | [] => return []
  | a :: as => do
    let made ← round a
    return made ++ (← collectRounds round as)

/-- The text of `EventSignalEvaluationError`. -/
def EventSignalEvaluationError.runtimeError :
    EventSignalEvaluationError MvpPolicyError → RuntimeError
  | .policy error => ⟨"EVENT evaluation failed: EVENT evaluation failed: " ++ error.message⟩
  | .invalidProvenance violation =>
    contractError "EVENT evaluation failed: invalid Signal provenance" violation
  | .unspecifiedExecutionMode => ⟨"EVENT evaluation failed: " ++
      "Signal provenance requires LIVE, REPLAY, or TEST execution mode"⟩

/-- The text of `ThresholdEvaluationError`. -/
def ThresholdEvaluationError.runtimeError :
    ThresholdEvaluationError MvpPolicyError → RuntimeError
  | .policy error =>
    ⟨"THRESHOLD evaluation failed: THRESHOLD evaluation failed: " ++ error.message⟩
  | .invalidProvenance violation =>
    contractError "THRESHOLD evaluation failed: invalid THRESHOLD provenance" violation
  | .unspecifiedExecutionMode => ⟨"THRESHOLD evaluation failed: " ++
      "THRESHOLD provenance requires LIVE, REPLAY, or TEST execution mode"⟩

/-- The text of `SequenceCorrelationEvaluationError`. -/
def SequenceCorrelationEvaluationError.runtimeError :
    SequenceCorrelationEvaluationError MvpPolicyError → RuntimeError
  | .policy error => ⟨"SEQUENCE evaluation failed: SEQUENCE correlation evaluation failed: " ++
      error.message⟩
  | .invalidInput violation =>
    contractError "SEQUENCE evaluation failed: invalid SEQUENCE correlation input" violation
  | .unspecifiedExecutionMode => ⟨"SEQUENCE evaluation failed: " ++
      "SEQUENCE correlation requires LIVE, REPLAY, or TEST execution mode"⟩

section

variable (lib : BatchLibraries) (request : MvpBatchRequest)

/-- One event under one rule: its durable Signal, if the rule matches. -/
def signalOfRule (batchEvent : BatchEvent) (rule : EventRule) : BatchTask (List Signal) := do
  let outcome ← checked ((evaluateNormalizedEventForSignal rule.1.plan batchEvent.event
    request.executionMode request.evaluatedAt mvpPolicy).mapError
      EventSignalEvaluationError.runtimeError)
  match outcome with
  | none => return []
  | some provenance => do
    let signalId ← nowV7
    let signal ← checked ((materializeEventSignal provenance batchEvent.event
      { signalId := signalId
        severity := rule.2.severity
        confidence := none
        summary := rule.2.summary
        inputRelation := "EVENT_MATCH"
        createdAt := request.createdAt
        sourceEventTime := batchEvent.sourceEventTime }).mapError
        (contractError "EVENT materialization failed"))
    let durable ← attempt (perform (.persistSignal signal))
    return [durable]

/-- The loop over the events: their durable Signals. -/
def eventSignals (rules : List EventRule) (events : List BatchEvent) : BatchTask (List Signal) :=
  collectRounds (fun batchEvent => collectRounds (signalOfRule request batchEvent) rules) events

/-- The durable Signal of a THRESHOLD match. -/
def signalOfThreshold (provenance : ThresholdSignalProvenance String) :
    BatchTask (List Signal) := do
  let signalId ← nowV7
  let signal ← checked ((materializeThresholdSignal provenance
    { signalId := signalId
      severity := "HIGH"
      confidence := none
      summary := "SSH authentication burst: 10 failed logins within 5 minutes"
      inputRelation := "THRESHOLD_INPUT"
      createdAt := request.createdAt
      sourceCount := 1 }).mapError (contractError "THRESHOLD materialization failed"))
  let durable ← attempt (perform (.persistSignal signal))
  return [durable]

/-- The durable Finding of a SEQUENCE match. -/
def findingOfSequence (correlationMatch : SequenceCorrelationMatch) :
    BatchTask (List Finding) := do
  let findingId ← nowV7
  let finding ← checked ((materializeSequenceCorrelationFinding correlationMatch
    { findingId := findingId
      severity := "HIGH"
      confidence := some "MEDIUM"
      title := "Account compromise sequence"
      description := "Failed login followed by successful login and privilege escalation"
      inputRelation := "SEQUENCE_INPUT"
      createdAt := request.createdAt }).mapError
      (contractError "SEQUENCE materialization failed"))
  let durable ← attempt (perform (.persistFinding finding))
  return [durable]

/-- `ClickHouseNormalizedEventSource::load`. -/
def load : BatchTask (List BatchEvent) := do
  let rows ← attempt (perform (.queryRows request.tenantId request.executionMode
    request.startMillis request.endMillis request.maxEvents))
  checked (loadRows lib rows)

/-- The THRESHOLD matches of the events. -/
def thresholdMatches (thresholdPlan : MvpCompiledThresholdPlan) (events : List BatchEvent) :
    Except RuntimeError (List (ThresholdSignalProvenance String)) :=
  (evaluateThresholdNormalizedEvents thresholdPlan (events.map BatchEvent.event)
    request.executionMode request.evaluatedAt mvpThresholdPolicy).mapError
      ThresholdEvaluationError.runtimeError

/-- The SEQUENCE matches of the durable EVENT Signals. -/
def sequenceMatches (events : List BatchEvent) (signals : List Signal) :
    Except RuntimeError (List SequenceCorrelationMatch) := do
  let sequencePlan ← compileSequenceRule lib.sha256LowerHex
  let users ← userByEventId events
  (evaluateSequenceSignals sequencePlan signals request.executionMode
    (mvpSequencePolicy users)).mapError SequenceCorrelationEvaluationError.runtimeError

/-- **`MvpBatchRuntime::execute`**: load, persist the Signals of each event, then those of the
threshold, then the Findings of the sequence, and count them. -/
def execute (thresholdPlan : Except RuntimeError MvpCompiledThresholdPlan) :
    BatchTask MvpBatchResult := do
  checked (validateRequest request)
  let events ← load lib request
  let rules ← checked (eventRules lib.sha256LowerHex)
  let sequenceSignals ← eventSignals request rules events
  let thresholdPlan ← checked thresholdPlan
  let thresholds ← checked (thresholdMatches request thresholdPlan events)
  let thresholdSignals ← collectRounds (signalOfThreshold request) thresholds
  let sequences ← checked (sequenceMatches lib request events sequenceSignals)
  let findings ← collectRounds (findingOfSequence request) sequences
  return {
    eventsLoaded := events.length
    signals := (sequenceSignals ++ thresholdSignals).insertionSort
      fun a b => a.signalId ≤ b.signalId
    findings := findings.insertionSort fun a b => a.findingId ≤ b.findingId }

end

end Detection

end Cerbero
