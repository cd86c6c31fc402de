import Cerbero.Contracts.Finding
import Cerbero.Detection.Sequence
import Cerbero.Detection.Threshold

/-!
# Detection/Materialize — from a match to the canonical Signal or Finding

The producer supplies the identifier, the presentation and the clock; the rest is taken from the
match.  Each materializer validates what it built and returns the violation.
-/

namespace Cerbero

namespace Detection

open Text

/-- `contract_backend`. -/
def contractBackend : ExecutionBackend → ℤ
  | .clickHouse => 1
  | .stream => 2

/-! ## EVENT matches -/

/-- `EventSignalProvenance`: the rule and the event of a match, and how and when it was evaluated.
-/
structure EventSignalProvenance (RuleVersion : Type) where
  ruleId : RuleId
  ruleVersion : RuleVersion
  normalizedEventId : String
  evaluatedAt : Timestamp
  executionBackend : ExecutionBackend
  executionMode : ExecutionMode
  deriving DecidableEq

/-- `EventSignalEvaluationError`. -/
inductive EventSignalEvaluationError (PolicyError : Type)
  | policy (error : PolicyError)
  | invalidProvenance (violation : ContractViolation)
  | unspecifiedExecutionMode
  deriving DecidableEq

section

variable {Field RuleValue RuleVersion Plan Error : Type} [AsRefStr Field]
  [EventExecutionPlanView Plan Field RuleValue] [EventSignalExecutionPlanView Plan RuleVersion]

/-- `evaluate_normalized_event_for_signal`; no provenance stands for `NoMatch`. -/
def evaluateNormalizedEventForSignal (plan : Plan) (event : NormalizedEvent)
    (executionMode : ExecutionMode) (evaluatedAt : Timestamp)
    (policy : EventLeafEvaluationPolicy Field RuleValue Value Error) :
    Except (EventSignalEvaluationError Error) (Option (EventSignalProvenance RuleVersion)) := do
  (validateUuidV7 "normalized_event_id" event.normalizedEventId).mapError .invalidProvenance
  (validateTimestamp "evaluated_at" evaluatedAt).mapError .invalidProvenance
  if executionMode = .unspecified then throw .unspecifiedExecutionMode
  let outcome ← (evaluateEventExecutionPlan plan (fieldState event) policy).mapError .policy
  let provenance : EventSignalProvenance RuleVersion :=
    { ruleId := EventSignalExecutionPlanView.signalRuleId plan
      ruleVersion := EventSignalExecutionPlanView.signalRuleVersion plan
      normalizedEventId := event.normalizedEventId
      evaluatedAt := evaluatedAt
      executionBackend := EventSignalExecutionPlanView.signalExecutionBackend plan
      executionMode := executionMode }
  return if outcome = .match then some provenance else none

end

/-- `EventSignalMaterializationContext`: what a Signal says beyond its match, which its rule brings
along. -/
structure EventSignalMaterializationContext where
  signalId : String
  severity : String
  confidence : Option String
  summary : String
  inputRelation : String
  createdAt : Timestamp
  sourceEventTime : Option Timestamp

section

variable {RuleVersion : Type} [ToString RuleVersion]

/-- The Signal `materialize_event_signal` builds. -/
def eventSignal (provenance : EventSignalProvenance RuleVersion) (event : NormalizedEvent)
    (context : EventSignalMaterializationContext) : Signal where
  signalId := context.signalId
  tenantId := event.tenantId
  ruleId := provenance.ruleId.value
  ruleVersion := toString provenance.ruleVersion
  ruleType := 1
  severity := context.severity
  confidence := context.confidence
  status := 1
  firstObservedAt := context.sourceEventTime
  lastObservedAt := context.sourceEventTime
  createdAt := some context.createdAt
  executionMode := provenance.executionMode.number
  sourceCount := 1
  eventCount := 1
  summary := context.summary
  provenance := some ⟨some provenance.evaluatedAt, contractBackend provenance.executionBackend⟩
  inputs := [⟨context.signalId, 1, event.normalizedEventId, context.inputRelation, 0⟩]

/-- **`materialize_event_signal`**: the Signal of a match, which is returned only if it passes
`validate_signal`. -/
def materializeEventSignal (provenance : EventSignalProvenance RuleVersion)
    (event : NormalizedEvent) (context : EventSignalMaterializationContext) :
    Except ContractViolation Signal := do
  rejectIf (provenance.normalizedEventId != event.normalizedEventId) "normalized_event_id"
    "must match EventSignalProvenance.normalized_event_id"
  validateSignal (eventSignal provenance event context)
  return eventSignal provenance event context

/-! ## THRESHOLD matches -/

/-- `ThresholdSignalMaterializationContext`: what a threshold Signal says beyond its match. -/
structure ThresholdSignalMaterializationContext where
  signalId : String
  severity : String
  confidence : Option String
  summary : String
  inputRelation : String
  createdAt : Timestamp
  sourceCount : ℕ

/-- The inputs of a THRESHOLD Signal from position `index` on. -/
def thresholdInputs (signalId relation : String) :
    ℕ → List String → Except ContractViolation (List SignalInput)
  | _, [] => .ok []
  | index, inputId :: inputIds => do
    rejectIf (UInt32.size ≤ index) "inputs.ordinal" "input list exceeds uint32 ordinal capacity"
    let inputs ← thresholdInputs signalId relation (index + 1) inputIds
    return ⟨signalId, 1, inputId, relation, index⟩ :: inputs

/-- The Signal `materialize_threshold_signal` builds from its inputs. -/
def thresholdSignal (provenance : ThresholdSignalProvenance RuleVersion)
    (context : ThresholdSignalMaterializationContext) (inputs : List SignalInput) : Signal where
  signalId := context.signalId
  tenantId := provenance.tenantId
  ruleId := provenance.ruleId.value
  ruleVersion := toString provenance.ruleVersion
  ruleType := 2
  severity := context.severity
  confidence := context.confidence
  status := 1
  firstObservedAt := some provenance.firstObservedAt
  lastObservedAt := some provenance.lastObservedAt
  createdAt := some context.createdAt
  executionMode := provenance.executionMode.number
  sourceCount := context.sourceCount
  eventCount := provenance.normalizedEventIds.length
  summary := context.summary
  provenance := some ⟨some provenance.evaluatedAt, contractBackend provenance.executionBackend⟩
  inputs := inputs

/-- **`materialize_threshold_signal`**: the Signal of a threshold match with one input for each
contributing event, returned only if it is valid. -/
def materializeThresholdSignal (provenance : ThresholdSignalProvenance RuleVersion)
    (context : ThresholdSignalMaterializationContext) : Except ContractViolation Signal := do
  rejectIf provenance.normalizedEventIds.isEmpty "normalized_event_ids"
    "THRESHOLD provenance requires contributing events"
  rejectIf (UInt64.size ≤ provenance.normalizedEventIds.length) "event_count"
    "contributing event list exceeds uint64 capacity"
  let inputs ← thresholdInputs context.signalId context.inputRelation 0
    provenance.normalizedEventIds
  validateSignal (thresholdSignal provenance context inputs)
  return thresholdSignal provenance context inputs

end

/-! ## SEQUENCE matches -/

/-- `CorrelationFindingMaterializationContext`: what a Finding says beyond the sequence it was found
by. -/
structure CorrelationFindingMaterializationContext where
  findingId : String
  severity : String
  confidence : Option String
  title : String
  description : String
  inputRelation : String
  createdAt : Timestamp

def signalInputType : String := "SIGNAL"

/-- The Finding `materialize_sequence_correlation_finding` builds. -/
def sequenceCorrelationFinding (correlationMatch : SequenceCorrelationMatch)
    (context : CorrelationFindingMaterializationContext) : Finding where
  findingId := context.findingId
  tenantId := correlationMatch.tenantId
  findingType := 3
  status := 1
  severity := context.severity
  confidence := context.confidence
  title := context.title
  description := context.description
  firstSeen := some correlationMatch.windowStart
  lastSeen := some correlationMatch.windowEnd
  createdAt := some context.createdAt
  updatedAt := some context.createdAt
  primaryRuleId := none
  primaryRuleVersion := none
  correlationRuleId := some correlationMatch.correlationRuleId
  correlationRuleVersion := some correlationMatch.correlationRuleVersion
  disposition := 1
  metadata := none
  executionMode := correlationMatch.executionMode.number
  inputs := correlationMatch.inputSignalIds.map fun signalId =>
    ⟨context.findingId, signalInputType, signalId, context.inputRelation⟩
  correlationProvenance := some
    { correlationRuleId := correlationMatch.correlationRuleId
      correlationRuleVersion := correlationMatch.correlationRuleVersion
      windowStart := some correlationMatch.windowStart
      windowEnd := some correlationMatch.windowEnd
      inputIds := correlationMatch.inputSignalIds
      outputFindingId := context.findingId
      executionBackend := contractBackend correlationMatch.executionBackend
      executionMode := correlationMatch.executionMode.number
      configurationHash := correlationMatch.configurationHash }

/-- **`materialize_sequence_correlation_finding`.** -/
def materializeSequenceCorrelationFinding (correlationMatch : SequenceCorrelationMatch)
    (context : CorrelationFindingMaterializationContext) : Except ContractViolation Finding := do
  validateFinding (sequenceCorrelationFinding correlationMatch context)
  return sequenceCorrelationFinding correlationMatch context

end Detection

end Cerbero
