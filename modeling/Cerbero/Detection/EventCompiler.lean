import Mathlib.Data.String.Basic
import Cerbero.Detection.Event
import Cerbero.Lib.SortedMap

/-!
# Detection/EventCompiler — from the Detection AST to an EVENT plan

An expression is checked for its structure and its types, handed through the optimizer, checked
again, and lowered to the predicate the evaluator runs (`compileEventExecutionPlan`).  The schema,
the value types, the field profile and the plan are owned by the caller.
-/

namespace Cerbero

namespace Detection

open Text

/-! ## The AST -/

/-- `ComparisonOperator::as_str`. -/
def ComparisonOperator.asStr : ComparisonOperator → String
  | .eq => "EQ"
  | .ne => "NE"
  | .gt => "GT"
  | .gte => "GTE"
  | .lt => "LT"
  | .lte => "LTE"
  | .isIn => "IN"
  | .notIn => "NOT_IN"
  | .contains => "CONTAINS"
  | .startsWith => "STARTS_WITH"
  | .endsWith => "ENDS_WITH"
  | .matches => "MATCHES"

/-- `BooleanOperator`. -/
inductive BooleanOperator
  | and
  | or
  | not
  deriving DecidableEq, Repr

/-- `ComparisonExpression`. -/
structure ComparisonExpression (Field RuleValue : Type) where
  field : Field
  operator : ComparisonOperator
  value : RuleValue
  deriving DecidableEq, Repr

/-- `ExistsExpression`. -/
structure ExistsExpression (Field : Type) where
  field : Field
  deriving DecidableEq, Repr

/-- `DetectionExpression`; the constructors of `BooleanExpression` are its first three. -/
inductive DetectionExpression (Field RuleValue : Type)
  | and (children : List (DetectionExpression Field RuleValue))
  | or (children : List (DetectionExpression Field RuleValue))
  | not (child : DetectionExpression Field RuleValue)
  | comparison (comparison : ComparisonExpression Field RuleValue)
  | exists (exists_ : ExistsExpression Field)

/-- `RuleCompilationErrorKind::as_str`. -/
def RuleCompilationErrorKind.asStr : RuleCompilationErrorKind → String
  | .syntaxError => "SYNTAX_ERROR"
  | .unknownField => "UNKNOWN_FIELD"
  | .typeError => "TYPE_ERROR"
  | .invalidOperator => "INVALID_OPERATOR"
  | .invalidWindow => "INVALID_WINDOW"
  | .unsupportedBackend => "UNSUPPORTED_BACKEND"
  | .invalidMapping => "INVALID_MAPPING"
  | .resourcePolicyViolation => "RESOURCE_POLICY_VIOLATION"

variable {Field RuleValue FieldType ValueType Profile Plan : Type}

/-! ## Structure -/

/-- `AstValidationError`. -/
inductive AstValidationError
  | emptyBooleanExpression (operator : BooleanOperator)
  deriving DecidableEq, Repr

mutual

/-- `validate_expression`: no conjunction or disjunction is empty, at any depth. -/
def validateExpression : DetectionExpression Field RuleValue → Except AstValidationError Unit
  | .and children =>
    if children.isEmpty then .error (.emptyBooleanExpression .and)
    else validateExpressions children
  | .or children =>
    if children.isEmpty then .error (.emptyBooleanExpression .or)
    else validateExpressions children
  | .not child => validateExpression child
  | .comparison _ => .ok ()
  | .exists _ => .ok ()

/-- The loop of `validate_boolean_expression` over the children. -/
def validateExpressions :
    List (DetectionExpression Field RuleValue) → Except AstValidationError Unit
  | [] => .ok ()
  | child :: children => do
    validateExpression child
    validateExpressions children

end

/-! ## Types -/

/-- `FieldTypeResolver`. -/
structure FieldTypeResolver (FieldType : Type) where
  resolveFieldType : String → Option FieldType

/-- `require_field_type`. -/
def requireFieldType (resolver : FieldTypeResolver FieldType) (field : String) :
    Except RuleCompilationErrorKind FieldType :=
  match resolver.resolveFieldType field with
  | some fieldType => .ok fieldType
  | none => .error .unknownField

/-- `ValueTypeResolver`. -/
structure ValueTypeResolver (RuleValue ValueType : Type) where
  resolveValueType : RuleValue → ValueType

/-- `ComparisonTypePolicy`. -/
structure ComparisonTypePolicy (FieldType ValueType : Type) where
  validateComparison :
    FieldType → ComparisonOperator → ValueType → Except RuleCompilationErrorKind Unit

section

variable [AsRefStr Field] (fieldResolver : FieldTypeResolver FieldType)
  (valueResolver : ValueTypeResolver RuleValue ValueType)
  (policy : ComparisonTypePolicy FieldType ValueType)

mutual

/-- `type_check_expression`: each leaf is checked by the policy, from the left, and the first error
is the result. -/
def typeCheckExpression :
    DetectionExpression Field RuleValue → Except RuleCompilationErrorKind Unit
  | .and children => typeCheckExpressions children
  | .or children => typeCheckExpressions children
  | .not child => typeCheckExpression child
  | .comparison comparison => do
    let fieldType ← requireFieldType fieldResolver (AsRefStr.asRef comparison.field)
    let valueType := valueResolver.resolveValueType comparison.value
    policy.validateComparison fieldType comparison.operator valueType
  | .exists exists_ => do
    let _ ← requireFieldType fieldResolver (AsRefStr.asRef exists_.field)
    return ()

/-- The loop of `type_check_expression` over the children. -/
def typeCheckExpressions :
    List (DetectionExpression Field RuleValue) → Except RuleCompilationErrorKind Unit
  | [] => .ok ()
  | child :: children => do
    typeCheckExpression child
    typeCheckExpressions children

end

end

/-! ## Lowering -/

mutual

/-- `lower_event_predicate`: the expression becomes a predicate node by node. -/
def lowerEventPredicate : DetectionExpression Field RuleValue → EventPredicate Field RuleValue
  | .and children => .and (lowerEventPredicates children)
  | .or children => .or (lowerEventPredicates children)
  | .not child => .not (lowerEventPredicate child)
  | .comparison comparison =>
    .comparison comparison.field comparison.operator comparison.value
  | .exists exists_ => .exists exists_.field

/-- `lower_event_predicate`, child by child. -/
def lowerEventPredicates :
    List (DetectionExpression Field RuleValue) → List (EventPredicate Field RuleValue)
  | [] => []
  | child :: children => lowerEventPredicate child :: lowerEventPredicates children

end

/-! ## Stages -/

/-- `EventAstOptimizer`. -/
structure EventAstOptimizer (Field RuleValue : Type) where
  optimizeEventAst : DetectionExpression Field RuleValue →
    Except RuleCompilationErrorKind (DetectionExpression Field RuleValue)

/-- `IdentityEventAstOptimizer`. -/
def identityEventAstOptimizer : EventAstOptimizer Field RuleValue := ⟨.ok⟩

/-- `EventFieldProfile`. -/
structure EventFieldProfile (RequiredFields OptionalFields FieldTypes : Type) where
  requiredFields : RequiredFields
  optionalFields : OptionalFields
  fieldTypes : FieldTypes

/-- `EventFieldProfileResolver`. -/
structure EventFieldProfileResolver (Field RuleValue Profile : Type) where
  resolveEventFieldProfile :
    DetectionExpression Field RuleValue → Except RuleCompilationErrorKind Profile

/-- `EventExecutionPlanCompiler`. -/
structure EventExecutionPlanCompiler (Field RuleValue Profile Plan : Type) where
  supportedBackends : EventPredicate Field RuleValue → Profile →
    Except RuleCompilationErrorKind ExecutionBackendCapabilities
  compileEventPlan : ExecutionBackend → EventPredicate Field RuleValue → Profile →
    Except RuleCompilationErrorKind Plan

/-- `EventCompilationStages`. -/
structure EventCompilationStages (Field RuleValue Profile Plan : Type) where
  optimizer : EventAstOptimizer Field RuleValue
  profileResolver : EventFieldProfileResolver Field RuleValue Profile
  planCompiler : EventExecutionPlanCompiler Field RuleValue Profile Plan

/-- `ExecutionBackendCapabilities::supports`. -/
def ExecutionBackendCapabilities.supports (capabilities : ExecutionBackendCapabilities) :
    ExecutionBackend → Bool
  | .clickHouse => capabilities.clickHouse
  | .stream => capabilities.stream

/-- **`compile_event_execution_plan`**: validate, check the types, optimize, lower and hand the
predicate to the compiler of plans, with the stage of a failure in its error. -/
def compileEventExecutionPlan [AsRefStr Field] (expression : DetectionExpression Field RuleValue)
    (backend : ExecutionBackend) (fieldResolver : FieldTypeResolver FieldType)
    (valueResolver : ValueTypeResolver RuleValue ValueType)
    (policy : ComparisonTypePolicy FieldType ValueType)
    (stages : EventCompilationStages Field RuleValue Profile Plan) :
    Except RuleCompilationErrorKind (CompiledEventExecutionPlan Plan Profile) := do
  (validateExpression expression).mapError fun _ => .syntaxError
  typeCheckExpression fieldResolver valueResolver policy expression
  let optimizedExpression ← stages.optimizer.optimizeEventAst expression
  (validateExpression optimizedExpression).mapError fun _ => .syntaxError
  typeCheckExpression fieldResolver valueResolver policy optimizedExpression
  let fieldProfile ← stages.profileResolver.resolveEventFieldProfile optimizedExpression
  let predicate := lowerEventPredicate optimizedExpression
  let supportedBackends ← stages.planCompiler.supportedBackends predicate fieldProfile
  if !supportedBackends.supports backend then throw .unsupportedBackend
  let plan ← stages.planCompiler.compileEventPlan backend predicate fieldProfile
  return ⟨plan, fieldProfile, supportedBackends⟩

/-- What a compilation has checked, and what it compiled. -/
theorem compileEventExecutionPlan_eq_ok [AsRefStr Field]
    {expression : DetectionExpression Field RuleValue} {backend : ExecutionBackend}
    {fieldResolver : FieldTypeResolver FieldType}
    {valueResolver : ValueTypeResolver RuleValue ValueType}
    {policy : ComparisonTypePolicy FieldType ValueType}
    {stages : EventCompilationStages Field RuleValue Profile Plan}
    {compiled : CompiledEventExecutionPlan Plan Profile}
    (h : compileEventExecutionPlan expression backend fieldResolver valueResolver policy stages =
      .ok compiled) :
    validateExpression expression = .ok () ∧
      typeCheckExpression fieldResolver valueResolver policy expression = .ok () ∧
      ∃ optimized, stages.optimizer.optimizeEventAst expression = .ok optimized ∧
        validateExpression optimized = .ok () ∧
        typeCheckExpression fieldResolver valueResolver policy optimized = .ok () ∧
        stages.planCompiler.compileEventPlan backend (lowerEventPredicate optimized)
          compiled.fieldProfile = .ok compiled.plan := by
  simp only [compileEventExecutionPlan, check_bind_eq_ok, mapError_eq_ok] at h
  obtain ⟨hvalid, htypes, h⟩ := h
  obtain ⟨optimized, hoptimized, h⟩ := bind_eq_ok.1 h
  simp only [check_bind_eq_ok, mapError_eq_ok] at h
  obtain ⟨hvalid', htypes', h⟩ := h
  obtain ⟨profile, -, h⟩ := bind_eq_ok.1 h
  obtain ⟨backends, -, h⟩ := bind_eq_ok.1 h
  obtain ⟨-, h⟩ := guard_eq_ok.1 h
  obtain ⟨plan, hplan, h⟩ := bind_eq_ok.1 h
  obtain rfl := Except.ok.inj h
  exact ⟨hvalid, htypes, optimized, hoptimized, hvalid', htypes', hplan⟩

end Detection

end Cerbero
