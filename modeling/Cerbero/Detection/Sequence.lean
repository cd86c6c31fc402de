import Mathlib.Data.Prod.Lex
import Mathlib.Data.List.Sort
import Mathlib.Data.String.Basic
import Cerbero.Contracts.Signal
import Cerbero.Detection.Event
import Cerbero.Lib.SortedMap
import Cerbero.Lib.Greedy

/-!
# Detection/Sequence — SEQUENCE correlation over one bounded set of Signals

Signals are validated and collapsed by identifier (`validateUniqueSignals`), turned into candidates
that know which stages they match and put into the group of their tenant and join key
(`collectSequenceCandidates`).  Each group is sorted by order key and identifier; from each
candidate of the first stage in turn, every further stage takes the first later candidate that fits
(`selectSequence`), and the first start that completes becomes the match.
-/

namespace Cerbero

namespace Detection

open Text

/-! ## Plans -/

/-- `has_text`. -/
def hasText (value : String) : Bool := !isBlank value

/-- `SequenceCorrelationRule`. -/
structure SequenceCorrelationRule (Stage JoinKey Ordering : Type) where
  correlationRuleId : String
  correlationRuleVersion : String
  stages : List Stage
  joinKeys : List JoinKey
  maxWindowMillis : ℕ
  ordering : Ordering
  configurationHash : String

/-- **`CompiledSequenceCorrelationPlan`**, with what its compiler has checked. -/
structure CompiledSequenceCorrelationPlan (Stage JoinKey Ordering : Type)
    extends SequenceCorrelationRule Stage JoinKey Ordering where
  backend : ExecutionBackend
  supportedBackends : ExecutionBackendCapabilities
  ruleId_text : hasText correlationRuleId
  ruleVersion_text : hasText correlationRuleVersion
  configurationHash_text : hasText configurationHash
  stages_ne_nil : stages ≠ []
  joinKeys_ne_nil : joinKeys ≠ []
  joinKeys_nodup : joinKeys.Nodup
  window_pos : 0 < maxWindowMillis
  window_lt : maxWindowMillis < 2 ^ 63
  backend_eq : backend = .clickHouse

/-- `compile_sequence_correlation_plan`: texts that name the rule, at least one stage and one key to
join by, no key twice, and a span that is positive and fits an `i64`. -/
def compileSequenceCorrelationPlan {Stage JoinKey Ordering : Type} [DecidableEq JoinKey]
    (rule : SequenceCorrelationRule Stage JoinKey Ordering) (backend : ExecutionBackend) :
    Except RuleCompilationErrorKind (CompiledSequenceCorrelationPlan Stage JoinKey Ordering) :=
  if hbackend : backend ≠ .clickHouse then .error .unsupportedBackend
  else if htext : ¬ hasText rule.correlationRuleId ∨ ¬ hasText rule.correlationRuleVersion ∨
      ¬ hasText rule.configurationHash ∨ rule.stages = [] ∨ rule.joinKeys = [] then
    .error .invalidMapping
  else if hwindow : rule.maxWindowMillis = 0 ∨ 2 ^ 63 ≤ rule.maxWindowMillis then
    .error .invalidWindow
  else if hnodup : ¬ rule.joinKeys.Nodup then .error .invalidMapping
  else .ok
    { rule with
      backend := backend
      supportedBackends := ⟨true, false⟩
      ruleId_text := by tauto
      ruleVersion_text := by tauto
      configurationHash_text := by tauto
      stages_ne_nil := by tauto
      joinKeys_ne_nil := by tauto
      joinKeys_nodup := by tauto
      window_pos := by omega
      window_lt := by omega
      backend_eq := by tauto }

/-- `SequenceCorrelationEvaluationPolicy`: what the evaluation asks of its caller, each with an
error: whether a Signal is of a stage, the key it is joined by, its time and its order. -/
structure SequenceCorrelationEvaluationPolicy
    (Stage JoinKey Ordering GroupKey OrderKey Error : Type) where
  stageMatches : Stage → Signal → Except Error Bool
  sequenceGroupKey : List JoinKey → Signal → Except Error (Option GroupKey)
  sequenceTimeMillis : Signal → Except Error (Option ℤ)
  sequenceOrderKey : Ordering → Signal → Except Error (Option OrderKey)

/-- `SequenceCorrelationMatch`: the Signals of a sequence in order, one for each stage, the span
they lie in, and the rule. -/
structure SequenceCorrelationMatch where
  correlationRuleId : String
  correlationRuleVersion : String
  tenantId : String
  windowStart : Timestamp
  windowEnd : Timestamp
  inputSignalIds : List String
  executionBackend : ExecutionBackend
  executionMode : ExecutionMode
  configurationHash : String
  deriving DecidableEq

/-- `SequenceCorrelationEvaluationError`. -/
inductive SequenceCorrelationEvaluationError (PolicyError : Type)
  | policy (error : PolicyError)
  | invalidInput (violation : ContractViolation)
  | unspecifiedExecutionMode
  deriving DecidableEq

/-! ## Unique Signals -/

/-- `validate_execution_mode`. -/
def validateExecutionMode (signal : Signal) (executionMode : ExecutionMode) : Check :=
  rejectIf (signal.executionMode != executionMode.number) "signals.execution_mode"
    "must equal the bounded correlation evaluation mode"

/-- The loop of `validate_unique_signals`. -/
def uniqueSignals (executionMode : ExecutionMode) :
    SortedMap String Signal → List Signal → Except ContractViolation (SortedMap String Signal)
  | unique, [] => .ok unique
  | unique, signal :: signals => do
    validateSignal signal
    validateExecutionMode signal executionMode
    match unique.get? signal.signalId with
    | some existing =>
      rejectIf (existing != signal) "signals.signal_id"
        "duplicate identity carries conflicting canonical Signal content"
      uniqueSignals executionMode unique signals
    | none => uniqueSignals executionMode (unique.insert signal.signalId signal) signals

/-- `validate_unique_signals`. -/
def validateUniqueSignals (signals : List Signal) (executionMode : ExecutionMode) :
    Except ContractViolation (SortedMap String Signal) :=
  uniqueSignals executionMode SortedMap.empty signals

/-! ## Candidates -/

/-- `Candidate` of a sequence. -/
structure SequenceCandidate (OrderKey : Type) where
  signalId : String
  stageIndices : List ℕ
  timeMillis : ℤ
  orderKey : OrderKey
  deriving DecidableEq

section

variable {Stage JoinKey Ordering GroupKey OrderKey Error : Type} [LinearOrder GroupKey]
  [LinearOrder OrderKey]

/-- The indices, from `index` on, of the stages a Signal matches. -/
def matchingStages
    (policy : SequenceCorrelationEvaluationPolicy Stage JoinKey Ordering GroupKey OrderKey Error)
    (signal : Signal) : ℕ → List Stage → Except Error (List ℕ)
  | _, [] => .ok []
  | index, stage :: stages => do
    let matched ← policy.stageMatches stage signal
    let rest ← matchingStages policy signal (index + 1) stages
    return if matched then index :: rest else rest

/-- The group key and the candidate of a Signal that takes part. -/
def sequenceParticipation (plan : CompiledSequenceCorrelationPlan Stage JoinKey Ordering)
    (policy : SequenceCorrelationEvaluationPolicy Stage JoinKey Ordering GroupKey OrderKey Error)
    (signal : Signal) : Except Error (Option (GroupKey × SequenceCandidate OrderKey)) := do
  let stageIndices ← matchingStages policy signal 0 plan.stages
  if stageIndices.isEmpty then return none
  let some groupKey ← policy.sequenceGroupKey plan.joinKeys signal | return none
  let some timeMillis ← policy.sequenceTimeMillis signal | return none
  let some orderKey ← policy.sequenceOrderKey plan.ordering signal | return none
  return some (groupKey, ⟨signal.signalId, stageIndices, timeMillis, orderKey⟩)

/-- `CandidateGroups`. -/
abbrev CandidateGroups (GroupKey OrderKey : Type) [LinearOrder GroupKey] :=
  SortedMap (String ×ₗ GroupKey) (List (SequenceCandidate OrderKey))

/-- `collect_sequence_candidates`: the loop over the unique Signals. -/
def collectSequenceCandidates (plan : CompiledSequenceCorrelationPlan Stage JoinKey Ordering)
    (policy : SequenceCorrelationEvaluationPolicy Stage JoinKey Ordering GroupKey OrderKey Error) :
    CandidateGroups GroupKey OrderKey → List Signal →
      Except Error (CandidateGroups GroupKey OrderKey)
  | groups, [] => .ok groups
  | groups, signal :: signals => do
    match ← sequenceParticipation plan policy signal with
    | none => collectSequenceCandidates plan policy groups signals
    | some (groupKey, candidate) =>
      collectSequenceCandidates plan policy
        (groups.push (toLex (signal.tenantId, groupKey)) candidate) signals

/-! ## Selection -/

/-- What the inner loop carries from stage to stage. -/
structure Selection (OrderKey : Type) where
  lastOrderKey : OrderKey
  minTime : ℤ
  maxTime : ℤ
  deriving DecidableEq

/-- A candidate extends the selection by the stage `stageIndex`: it matches the stage, comes
strictly later, and the times stay within the window. -/
def acceptStage (maxWindowMillis : ℤ) (stageIndex : ℕ) (selection : Selection OrderKey)
    (candidate : SequenceCandidate OrderKey) : Option (Selection OrderKey) :=
  if stageIndex ∉ candidate.stageIndices ∨ candidate.orderKey ≤ selection.lastOrderKey then none
  else
    let candidateMinTime := min selection.minTime candidate.timeMillis
    let candidateMaxTime := max selection.maxTime candidate.timeMillis
    if maxWindowMillis < candidateMaxTime - candidateMinTime then none
    else some ⟨candidate.orderKey, candidateMinTime, candidateMaxTime⟩

/-- The stages after the first, in order. -/
def laterStages (maxWindowMillis : ℤ) (stageCount : ℕ) :
    List (Selection OrderKey → SequenceCandidate OrderKey → Option (Selection OrderKey)) :=
  (List.range' 1 (stageCount - 1)).map (acceptStage maxWindowMillis)

/-- The body of the outer loop of `select_sequence`: the selection that starts at one
candidate. -/
def selectFrom (candidates : List (SequenceCandidate OrderKey)) (stageCount : ℕ)
    (maxWindowMillis : ℤ) (startIndex : ℕ) (start : SequenceCandidate OrderKey) :
    Option (List ℕ × Selection OrderKey) :=
  if 0 ∉ start.stageIndices then none
  else
    (Greedy.extend candidates (laterStages maxWindowMillis stageCount) (startIndex + 1)
      ⟨start.orderKey, start.timeMillis, start.timeMillis⟩).map
        fun (selected, selection) => (startIndex :: selected, selection)

/-- `select_sequence`. -/
def selectSequence (candidates : List (SequenceCandidate OrderKey)) (stageCount : ℕ)
    (maxWindowMillis : ℤ) : Option (List ℕ × Selection OrderKey) :=
  candidates.zipIdx.findSome? fun (start, startIndex) =>
    selectFrom candidates stageCount maxWindowMillis startIndex start

/-! ## Evaluation -/

/-- The order of the candidates of a group: order key, then identifier. -/
def SequenceCandidate.sortKey (c : SequenceCandidate OrderKey) : OrderKey ×ₗ String :=
  toLex (c.orderKey, c.signalId)

/-- The candidates of a group, sorted. -/
def sortCandidates (candidates : List (SequenceCandidate OrderKey)) :
    List (SequenceCandidate OrderKey) :=
  candidates.insertionSort fun a b => a.sortKey ≤ b.sortKey

/-- `SequenceCorrelationEvaluationError::InvalidInput` around a failed contract check. -/
def liftInput {PolicyError α : Type} (x : Except ContractViolation α) :
    Except (SequenceCorrelationEvaluationError PolicyError) α :=
  x.mapError .invalidInput

/-- The match of a selection among the sorted candidates of a group. -/
def matchOfSelection (plan : CompiledSequenceCorrelationPlan Stage JoinKey Ordering)
    (executionMode : ExecutionMode) (tenantId : String)
    (candidates : List (SequenceCandidate OrderKey)) (selected : List ℕ)
    (selection : Selection OrderKey) : SequenceCorrelationMatch where
  correlationRuleId := plan.correlationRuleId
  correlationRuleVersion := plan.correlationRuleVersion
  tenantId := tenantId
  windowStart := timestampFromMillis selection.minTime
  windowEnd := timestampFromMillis selection.maxTime
  inputSignalIds := selected.filterMap fun index => candidates[index]?.map (·.signalId)
  executionBackend := plan.backend
  executionMode := executionMode
  configurationHash := plan.configurationHash

/-- The body of the loop over the groups. -/
def sequenceOfGroup (plan : CompiledSequenceCorrelationPlan Stage JoinKey Ordering)
    (executionMode : ExecutionMode) (tenantId : String)
    (candidates : List (SequenceCandidate OrderKey)) :
    Except (SequenceCorrelationEvaluationError Error) (Option SequenceCorrelationMatch) := do
  let some (selected, selection) := selectSequence (sortCandidates candidates) plan.stages.length
    plan.maxWindowMillis | return none
  let found := matchOfSelection plan executionMode tenantId (sortCandidates candidates) selected
    selection
  liftInput (validateTimestamp "window_start" found.windowStart)
  liftInput (validateTimestamp "window_end" found.windowEnd)
  return some found

/-- The loop over the groups. -/
def sequencesOfGroups (plan : CompiledSequenceCorrelationPlan Stage JoinKey Ordering)
    (executionMode : ExecutionMode) :
    List ((String ×ₗ GroupKey) × List (SequenceCandidate OrderKey)) →
      Except (SequenceCorrelationEvaluationError Error) (List SequenceCorrelationMatch) :=
  filterMapOk fun (key, candidates) =>
    sequenceOfGroup plan executionMode (ofLex key).1 candidates

/-- **`evaluate_sequence_signals`**: Signals are checked and deduplicated, grouped by tenant and
key, and each group is searched for its first sequence. -/
def evaluateSequenceSignals (plan : CompiledSequenceCorrelationPlan Stage JoinKey Ordering)
    (signals : List Signal) (executionMode : ExecutionMode)
    (policy : SequenceCorrelationEvaluationPolicy Stage JoinKey Ordering GroupKey OrderKey Error) :
    Except (SequenceCorrelationEvaluationError Error) (List SequenceCorrelationMatch) := do
  if executionMode = .unspecified then throw .unspecifiedExecutionMode
  liftInput (rejectIf (2 ^ 63 ≤ plan.maxWindowMillis) "max_window_millis"
    "exceeds supported deterministic batch range")
  let unique ← liftInput (validateUniqueSignals signals executionMode)
  let groups ← (collectSequenceCandidates plan policy SortedMap.empty
    (unique.toList.map Prod.snd)).mapError .policy
  sequencesOfGroups plan executionMode groups.toList

end

end Detection

end Cerbero
