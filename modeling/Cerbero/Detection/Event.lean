import Cerbero.Contracts.NormalizedEvent

/-!
# Detection/Event — evaluating one compiled EVENT predicate

A compiled predicate is evaluated left to right with short circuit; a leaf is handed to the policy
together with the state of its field in the event.  Field paths are dotted and resolve inside the
event's OCSF document.
-/

namespace Cerbero

namespace Detection

/-! ## Plans -/

/-- `ComparisonOperator`: what a leaf of a rule may ask of a field; which of them a policy evaluates
is its own matter. -/
inductive ComparisonOperator
  | eq
  | ne
  | gt
  | gte
  | lt
  | lte
  | isIn
  | notIn
  | contains
  | startsWith
  | endsWith
  | matches
  deriving DecidableEq, Repr

/-- `EventPredicate`: the predicate of a compiled plan, built as the expression of its rule is. -/
inductive EventPredicate (Field RuleValue : Type)
  | and (children : List (EventPredicate Field RuleValue))
  | or (children : List (EventPredicate Field RuleValue))
  | not (child : EventPredicate Field RuleValue)
  | comparison (field : Field) (operator : ComparisonOperator) (value : RuleValue)
  | exists (field : Field)

/-- `ExecutionBackend`. -/
inductive ExecutionBackend
  | clickHouse
  | stream
  deriving DecidableEq, Repr

/-- `ExecutionBackendCapabilities`. -/
structure ExecutionBackendCapabilities where
  clickHouse : Bool
  stream : Bool
  deriving DecidableEq, Repr

/-- `RuleId`: the text of a rule identifier. -/
structure RuleId where
  value : String
  deriving DecidableEq, Repr

/-- `AsRef<str>` for the field references of a rule. -/
class AsRefStr (Field : Type) where
  asRef : Field → String

instance : AsRefStr String := ⟨id⟩

/-- `EventExecutionPlanView`. -/
class EventExecutionPlanView (Plan : Type) (Field RuleValue : outParam Type) where
  eventPredicates : Plan → EventPredicate Field RuleValue

/-- `EventSignalExecutionPlanView`. -/
class EventSignalExecutionPlanView (Plan : Type) (RuleVersion : outParam Type) where
  signalRuleId : Plan → RuleId
  signalRuleVersion : Plan → RuleVersion
  signalExecutionBackend : Plan → ExecutionBackend

/-- `ExecutionPlan`: the parts of a compiled plan, each of a type of its own so that every kind of
rule has its plan. -/
structure ExecutionPlan (PlanId RuleVersion RequiredFields Predicates Grouping Window
    ResourceLimits PlanHash : Type) where
  planId : PlanId
  ruleId : RuleId
  ruleVersion : RuleVersion
  backend : ExecutionBackend
  requiredFields : RequiredFields
  predicates : Predicates
  grouping : Grouping
  window : Window
  resourceLimits : ResourceLimits
  planHash : PlanHash

section

variable {PlanId RuleVersion RequiredFields Field RuleValue Grouping Window ResourceLimits
  PlanHash : Type}

instance : EventExecutionPlanView (ExecutionPlan PlanId RuleVersion RequiredFields
    (EventPredicate Field RuleValue) Grouping Window ResourceLimits PlanHash) Field RuleValue :=
  ⟨fun plan => plan.predicates⟩

instance {Predicates : Type} : EventSignalExecutionPlanView (ExecutionPlan PlanId RuleVersion
    RequiredFields Predicates Grouping Window ResourceLimits PlanHash) RuleVersion :=
  ⟨fun plan => plan.ruleId, fun plan => plan.ruleVersion, fun plan => plan.backend⟩

end

/-- `CompiledEventExecutionPlan`. -/
structure CompiledEventExecutionPlan (Plan Profile : Type) where
  plan : Plan
  fieldProfile : Profile
  supportedBackends : ExecutionBackendCapabilities

/-- `RuleCompilationErrorKind`: the stage of the compilation a rule failed at. -/
inductive RuleCompilationErrorKind
  | syntaxError
  | unknownField
  | typeError
  | invalidOperator
  | invalidWindow
  | unsupportedBackend
  | invalidMapping
  | resourcePolicyViolation
  deriving DecidableEq, Repr

/-- `timestamp_from_millis`: the division is Euclidean, so the nanoseconds are never negative. -/
def timestampFromMillis (value : ℤ) : Timestamp :=
  ⟨value / 1000, value % 1000 * 1000000⟩

/-! ## Fields of an event -/

/-- `EventFieldState`. -/
inductive EventFieldState (V : Type)
  | present (value : V)
  | absent
  | null
  | malformed

/-- `classify_value`. -/
def classifyValue : Value → EventFieldState Value
  | .nullValue 0 => .null
  | .nullValue _ => .malformed
  | .unset => .malformed
  | value => .present value

/-- The walk of `resolve_ocsf_field` along the segments of a path. -/
def resolveSegments : Struct → List String → EventFieldState Value
  | _, [] => .malformed
  | current, segment :: rest =>
    if segment = "" then .malformed else
    match current.lookup segment with
    | none => .absent
    | some value =>
      if rest.isEmpty then classifyValue value else
      match value with
      | .structValue next => resolveSegments next rest
      | .nullValue 0 => .null
      | _ => .malformed

/-- `resolve_ocsf_field`. -/
def resolveOcsfField (root : Struct) (path : String) : EventFieldState Value :=
  if path = "" then .malformed
  else resolveSegments root ((path.toList.splitOn '.').map String.ofList)

/-- `NormalizedEventFieldView::field_state`. -/
def fieldState {Field : Type} [AsRefStr Field] (event : NormalizedEvent) (field : Field) :
    EventFieldState Value :=
  match event.ocsfEvent with
  | none => .malformed
  | some root => resolveOcsfField root (AsRefStr.asRef field)

/-! ## Evaluation -/

/-- `EventLeafEvaluationPolicy`. -/
structure EventLeafEvaluationPolicy (Field RuleValue EventValue Error : Type) where
  evaluateExists : Field → EventFieldState EventValue → Except Error Bool
  evaluateComparison :
    Field → EventFieldState EventValue → ComparisonOperator → RuleValue → Except Error Bool

/-- `EventEvaluationResult`. -/
inductive EventEvaluationResult
  | match
  | noMatch
  deriving DecidableEq, Repr

variable {Field RuleValue EventValue Error : Type}

mutual

/-- `evaluate_predicate`: a conjunction and a disjunction stop at the first child that decides them,
and an error is a decision. -/
def evaluatePredicate (state : Field → EventFieldState EventValue)
    (policy : EventLeafEvaluationPolicy Field RuleValue EventValue Error) :
    EventPredicate Field RuleValue → Except Error Bool
  | .and children => evaluateAll state policy children
  | .or children => evaluateAny state policy children
  | .not child => do return !(← evaluatePredicate state policy child)
  | .comparison field operator value =>
    policy.evaluateComparison field (state field) operator value
  | .exists field => policy.evaluateExists field (state field)

/-- The loop of `evaluate_predicate` over the children of an `And`. -/
def evaluateAll (state : Field → EventFieldState EventValue)
    (policy : EventLeafEvaluationPolicy Field RuleValue EventValue Error) :
    List (EventPredicate Field RuleValue) → Except Error Bool
  | [] => .ok true
  | child :: children => do
    if !(← evaluatePredicate state policy child) then return false
    evaluateAll state policy children

/-- The loop of `evaluate_predicate` over the children of an `Or`. -/
def evaluateAny (state : Field → EventFieldState EventValue)
    (policy : EventLeafEvaluationPolicy Field RuleValue EventValue Error) :
    List (EventPredicate Field RuleValue) → Except Error Bool
  | [] => .ok false
  | child :: children => do
    if ← evaluatePredicate state policy child then return true
    evaluateAny state policy children

end

/-- `evaluate_event_execution_plan`: the predicate of a plan on the fields of one event; a match
carries what names the plan and the event. -/
def evaluateEventExecutionPlan {Plan : Type} [EventExecutionPlanView Plan Field RuleValue]
    (plan : Plan) (state : Field → EventFieldState EventValue)
    (policy : EventLeafEvaluationPolicy Field RuleValue EventValue Error) :
    Except Error EventEvaluationResult := do
  if ← evaluatePredicate state policy (EventExecutionPlanView.eventPredicates plan) then
    return .match
  else return .noMatch

end Detection

end Cerbero
