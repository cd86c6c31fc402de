import Mathlib.Data.Prod.Lex
import Mathlib.Data.List.Sort
import Mathlib.Data.String.Basic
import Cerbero.Detection.Event
import Cerbero.Lib.SortedMap
import Cerbero.Lib.EarliestWindow

/-!
# Detection/Threshold — THRESHOLD rules over one bounded set of events

An event is checked, dropped if its identifier was seen before, filtered by the compiled EVENT plan
and put into the group of its tenant and policy-owned key (`collectEvent`).  Each group is sorted by
time and identifier, and the first window of `threshold` candidates becomes a match
(`matchOfGroup`).

The clock of an event is an `i64` of milliseconds, the difference of two of them an `i128`; both
are integers here.
-/

namespace Cerbero

namespace Detection

/-! ## Plans -/

/-- `ThresholdAggregation`. -/
inductive ThresholdAggregation
  | count
  deriving DecidableEq, Repr

/-- `ThresholdTimeBasis`. -/
inductive ThresholdTimeBasis
  | eventTime
  | ingestTime
  deriving DecidableEq, Repr

/-- `ThresholdLateEventPolicy`. -/
inductive ThresholdLateEventPolicy
  | accept
  | acceptWithLimit (maxLatenessMillis : ℕ)
  | ignoreForStream
  deriving DecidableEq, Repr

/-- `ThresholdWindow`. -/
structure ThresholdWindow (Field : Type) where
  durationMillis : ℕ
  timeBasis : ThresholdTimeBasis
  timeField : Field
  lateEventPolicy : ThresholdLateEventPolicy

/-- **`CompiledThresholdExecutionPlan`**, with what its compiler has checked. -/
structure CompiledThresholdExecutionPlan (Plan Profile Field : Type) [AsRefStr Field] where
  filter : CompiledEventExecutionPlan Plan Profile
  groupBy : List Field
  aggregation : ThresholdAggregation
  threshold : ℕ
  window : ThresholdWindow Field
  supportedBackends : ExecutionBackendCapabilities
  groupBy_ne_nil : groupBy ≠ []
  groupBy_nodup : (groupBy.map AsRefStr.asRef).Nodup
  threshold_pos : 0 < threshold
  threshold_lt : threshold < 2 ^ 64
  duration_pos : 0 < window.durationMillis
  duration_lt : window.durationMillis < 2 ^ 63
  accepts_late : window.lateEventPolicy = .accept

/-- `ThresholdEvaluationPolicy`. -/
structure ThresholdEvaluationPolicy (Field RuleValue GroupKey Error : Type)
    extends EventLeafEvaluationPolicy Field RuleValue Value Error where
  thresholdGroupKey : List Field → NormalizedEvent → Except Error (Option GroupKey)
  thresholdEventTimeMillis :
    ThresholdTimeBasis → Field → NormalizedEvent → Except Error (Option ℤ)

/-- `ThresholdSignalProvenance`: the contributing events of a match in order, the first and the last
time, and the rule they were counted by. -/
structure ThresholdSignalProvenance (RuleVersion : Type) where
  ruleId : RuleId
  ruleVersion : RuleVersion
  tenantId : String
  normalizedEventIds : List String
  firstObservedAt : Timestamp
  lastObservedAt : Timestamp
  evaluatedAt : Timestamp
  executionBackend : ExecutionBackend
  executionMode : ExecutionMode
  deriving DecidableEq

/-- `ThresholdEvaluationError`. -/
inductive ThresholdEvaluationError (PolicyError : Type)
  | policy (error : PolicyError)
  | invalidProvenance (violation : ContractViolation)
  | unspecifiedExecutionMode
  deriving DecidableEq

/-- `ThresholdEvaluationError::Policy` around a failed policy call. -/
def liftPolicy {PolicyError α : Type} (x : Except PolicyError α) :
    Except (ThresholdEvaluationError PolicyError) α :=
  x.mapError .policy

/-- `ThresholdEvaluationError::InvalidProvenance` around a failed contract check. -/
def liftCheck {PolicyError : Type} (x : Check) : Except (ThresholdEvaluationError PolicyError) Unit :=
  x.mapError .invalidProvenance

/-! ## Candidates -/

/-- `Candidate`. -/
structure Candidate where
  normalizedEventId : String
  eventTimeMillis : ℤ
  deriving DecidableEq, Repr, Inhabited

/-- The sort key of a candidate: its time, then its identifier. -/
def Candidate.sortKey (c : Candidate) : ℤ ×ₗ String :=
  toLex (c.eventTimeMillis, c.normalizedEventId)

theorem Candidate.sortKey_injective : Function.Injective Candidate.sortKey := by
  intro a b h
  obtain ⟨h1, h2⟩ := Prod.mk.inj (toLex.injective h)
  cases a
  cases b
  cases h1
  cases h2
  rfl

instance : LinearOrder Candidate := LinearOrder.lift' Candidate.sortKey Candidate.sortKey_injective

theorem Candidate.neverDecreases_eventTimeMillis :
    EarliestWindow.NeverDecreases Candidate.eventTimeMillis := by
  intro a b h
  rcases (Prod.Lex.le_iff).1 (show a.sortKey ≤ b.sortKey from h) with hlt | heq
  · exact hlt.le
  · exact heq.1.le

/-! ## Collecting the groups -/

section

variable {Field RuleValue RuleVersion Plan Profile GroupKey Error : Type} [AsRefStr Field]
  [EventExecutionPlanView Plan Field RuleValue] [EventSignalExecutionPlanView Plan RuleVersion]
  [LinearOrder GroupKey]

/-- The group key and the time of an event that takes part: it matches the filter and the policy
gives it both. -/
def participation (plan : CompiledThresholdExecutionPlan Plan Profile Field)
    (policy : ThresholdEvaluationPolicy Field RuleValue GroupKey Error) (event : NormalizedEvent) :
    Except Error (Option (GroupKey × ℤ)) := do
  match ← evaluateEventExecutionPlan plan.filter.plan (fieldState event)
    policy.toEventLeafEvaluationPolicy with
  | .noMatch => return none
  | .match =>
    let some groupKey ← policy.thresholdGroupKey plan.groupBy event | return none
    let some eventTimeMillis ← policy.thresholdEventTimeMillis plan.window.timeBasis
      plan.window.timeField event | return none
    return some (groupKey, eventTimeMillis)

/-- `groups`: the candidates of each tenant and group key, in the order they came. -/
abbrev Groups (GroupKey : Type) [LinearOrder GroupKey] :=
  SortedMap (String ×ₗ GroupKey) (List Candidate)

/-- The state of the loop over the events. -/
structure Collected (GroupKey : Type) [LinearOrder GroupKey] where
  seenEventIds : List String
  groups : Groups GroupKey

/-- The identifier checks made on every event. -/
def checkEvent (event : NormalizedEvent) : Check := do
  validateUuidV7 "normalized_event_id" event.normalizedEventId
  validateUuidV7 "tenant_id" event.tenantId

/-- Note an event that is seen for the first time, and put it into its group. -/
def Collected.record (state : Collected GroupKey) (event : NormalizedEvent) :
    Option (GroupKey × ℤ) → Collected GroupKey
  | none => { state with seenEventIds := event.normalizedEventId :: state.seenEventIds }
  | some (groupKey, eventTimeMillis) =>
    { seenEventIds := event.normalizedEventId :: state.seenEventIds
      groups := state.groups.push (toLex (event.tenantId, groupKey))
        ⟨event.normalizedEventId, eventTimeMillis⟩ }

/-- One round of the loop over the events. -/
def collectEvent (plan : CompiledThresholdExecutionPlan Plan Profile Field)
    (policy : ThresholdEvaluationPolicy Field RuleValue GroupKey Error)
    (state : Collected GroupKey) (event : NormalizedEvent) :
    Except (ThresholdEvaluationError Error) (Collected GroupKey) := do
  liftCheck (checkEvent event)
  if event.normalizedEventId ∈ state.seenEventIds then return state
  return state.record event (← liftPolicy (participation plan policy event))

/-- The loop over the events. -/
def collect (plan : CompiledThresholdExecutionPlan Plan Profile Field)
    (policy : ThresholdEvaluationPolicy Field RuleValue GroupKey Error) :
    Collected GroupKey → List NormalizedEvent →
      Except (ThresholdEvaluationError Error) (Collected GroupKey)
  | state, [] => .ok state
  | state, event :: events => do
    collect plan policy (← collectEvent plan policy state event) events

/-! ## Matching the groups -/

/-- The match of one window of candidates. -/
def matchOfWindow (plan : CompiledThresholdExecutionPlan Plan Profile Field)
    (executionMode : ExecutionMode) (evaluatedAt : Timestamp) (tenantId : String)
    (contributors : List Candidate) : ThresholdSignalProvenance RuleVersion where
  ruleId := EventSignalExecutionPlanView.signalRuleId plan.filter.plan
  ruleVersion := EventSignalExecutionPlanView.signalRuleVersion plan.filter.plan
  tenantId := tenantId
  normalizedEventIds := contributors.map Candidate.normalizedEventId
  firstObservedAt := timestampFromMillis (contributors.headD default).eventTimeMillis
  lastObservedAt := timestampFromMillis (contributors.getLastD default).eventTimeMillis
  evaluatedAt := evaluatedAt
  executionBackend := EventSignalExecutionPlanView.signalExecutionBackend plan.filter.plan
  executionMode := executionMode

/-- The body of the loop over the groups, from the sorted candidates on. -/
def matchOfSorted (plan : CompiledThresholdExecutionPlan Plan Profile Field)
    (executionMode : ExecutionMode) (evaluatedAt : Timestamp) (tenantId : String)
    (candidates : List Candidate) :
    Except (ThresholdEvaluationError Error) (Option (ThresholdSignalProvenance RuleVersion)) := do
  let some contributors := EarliestWindow.earliestWindow Candidate.eventTimeMillis
    plan.window.durationMillis plan.threshold candidates | return none
  let found := matchOfWindow plan executionMode evaluatedAt tenantId contributors
  liftCheck (validateTimestamp "first_observed_at" found.firstObservedAt)
  liftCheck (validateTimestamp "last_observed_at" found.lastObservedAt)
  return some found

/-- The loop over the groups. -/
def matchGroups (plan : CompiledThresholdExecutionPlan Plan Profile Field)
    (executionMode : ExecutionMode) (evaluatedAt : Timestamp) :
    List ((String ×ₗ GroupKey) × List Candidate) →
      Except (ThresholdEvaluationError Error) (List (ThresholdSignalProvenance RuleVersion)) :=
  filterMapOk fun (key, candidates) => matchOfSorted plan executionMode evaluatedAt (ofLex key).1
    (candidates.insertionSort (· ≤ ·))

/-- The checks made before the first event. -/
def checkRequest (plan : CompiledThresholdExecutionPlan Plan Profile Field)
    (executionMode : ExecutionMode) (evaluatedAt : Timestamp) :
    Except (ThresholdEvaluationError Error) Unit := do
  liftCheck (validateTimestamp "evaluated_at" evaluatedAt)
  if executionMode = .unspecified then throw .unspecifiedExecutionMode
  liftCheck (rejectIf (2 ^ 64 ≤ plan.threshold) "threshold"
    "exceeds platform collection capacity")
  liftCheck (rejectIf (2 ^ 63 ≤ plan.window.durationMillis) "window.duration_millis"
    "exceeds supported deterministic batch range")

/-- **`evaluate_threshold_normalized_events`**: candidates are selected and deduplicated, grouped,
sorted by time and searched for the earliest window that reaches the count. -/
def evaluateThresholdNormalizedEvents (plan : CompiledThresholdExecutionPlan Plan Profile Field)
    (events : List NormalizedEvent) (executionMode : ExecutionMode) (evaluatedAt : Timestamp)
    (policy : ThresholdEvaluationPolicy Field RuleValue GroupKey Error) :
    Except (ThresholdEvaluationError Error) (List (ThresholdSignalProvenance RuleVersion)) := do
  checkRequest plan executionMode evaluatedAt
  let collected ← collect plan policy ⟨[], SortedMap.empty⟩ events
  matchGroups plan executionMode evaluatedAt collected.groups.toList

end

end Detection

end Cerbero
