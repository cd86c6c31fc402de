import Cerbero.Detection.ExpressionMeaning
import Cerbero.Detection.Repository

/-!
# Detection/MvpRules — the EVENT rules of the MVP batch

The schema knows four text fields and one number, rule values are texts, and only equality of texts
passes the type checker.  The leaf policy can fail in two ways; of an accepted rule only one is left
(`evaluate_compiled`): a comparison that is reached finds a value that is no string.
-/

namespace Cerbero

namespace Detection

open Text

/-! ## Compilation -/

/-- `MvpFieldType`. -/
inductive MvpFieldType
  | text
  | number
  deriving DecidableEq, Repr

/-- `MvpExpression`. -/
abbrev MvpExpression := DetectionExpression String String

/-- `MvpFieldResolver`. -/
def mvpFieldResolver : FieldTypeResolver MvpFieldType where
  resolveFieldType field :=
    if field ∈ ["activity_name", "status", "user.name", "src_endpoint.ip"] then some .text
    else if field = "time" then some .number
    else none

/-- `MvpValueResolver`. -/
def mvpValueResolver : ValueTypeResolver String MvpFieldType where
  resolveValueType _ := .text

/-- `MvpComparisonPolicy`. -/
def mvpComparisonPolicy : ComparisonTypePolicy MvpFieldType MvpFieldType where
  validateComparison fieldType operator valueType := do
    if fieldType ≠ valueType then throw .typeError
    if operator ≠ .eq then throw .invalidOperator

/-- `MvpProfile`. -/
abbrev MvpProfile :=
  EventFieldProfile (List String) (List String) (SortedMap String MvpFieldType)

mutual

/-- `collect_expression_fields`; the set is a map to nothing. -/
def collectExpressionFields : MvpExpression → SortedMap String Unit → SortedMap String Unit
  | .and children, fields => collectExpressionsFields children fields
  | .or children, fields => collectExpressionsFields children fields
  | .not child, fields => collectExpressionFields child fields
  | .comparison comparison, fields => fields.insert comparison.field ()
  | .exists exists_, fields => fields.insert exists_.field ()

/-- `collect_expression_fields`, child by child. -/
def collectExpressionsFields : List MvpExpression → SortedMap String Unit → SortedMap String Unit
  | [], fields => fields
  | child :: children, fields =>
    collectExpressionsFields children (collectExpressionFields child fields)

end

/-- The loop of `resolve_event_field_profile` over the required fields. -/
def resolveFieldTypes : List String → SortedMap String MvpFieldType →
    Except RuleCompilationErrorKind (SortedMap String MvpFieldType)
  | [], fieldTypes => .ok fieldTypes
  | field :: fields, fieldTypes => do
    let fieldType ← requireFieldType mvpFieldResolver field
    resolveFieldTypes fields (fieldTypes.insert field fieldType)

/-- `MvpFieldProfileResolver`. -/
def mvpFieldProfileResolver : EventFieldProfileResolver String String MvpProfile where
  resolveEventFieldProfile expression := do
    let requiredFields := (collectExpressionFields expression SortedMap.empty).toList.map Prod.fst
    let fieldTypes ← resolveFieldTypes requiredFields SortedMap.empty
    return ⟨requiredFields, [], fieldTypes⟩

/-- `MvpExecutionPlan`. -/
abbrev MvpExecutionPlan :=
  ExecutionPlan String String (List String) (EventPredicate String String) Unit Unit Unit String

/-- `RuleId::from_str`. -/
def RuleId.fromStr (value : String) : Option RuleId :=
  if isNumberedId ruleIdPrefix value ruleIdDigits then some ⟨value⟩ else none

/-- `MvpPlanCompiler`. -/
structure MvpPlanCompiler where
  planId : String
  ruleId : String
  ruleVersion : String
  planHash : String

/-- `MvpPlanCompiler::compile_event_plan`: the plan with the names the compiler was given, if the
rule's identifier reads as one. -/
def MvpPlanCompiler.compileEventPlan (compiler : MvpPlanCompiler) (backend : ExecutionBackend)
    (predicate : EventPredicate String String) (fieldProfile : MvpProfile) :
    Except RuleCompilationErrorKind MvpExecutionPlan :=
  match RuleId.fromStr compiler.ruleId with
  | none => .error .invalidMapping
  | some ruleId => .ok
    { planId := compiler.planId
      ruleId := ruleId
      ruleVersion := compiler.ruleVersion
      backend := backend
      requiredFields := fieldProfile.requiredFields
      predicates := predicate
      grouping := ()
      window := ()
      resourceLimits := ()
      planHash := compiler.planHash }

/-- The stages the MVP rules are compiled with. -/
def mvpStages (compiler : MvpPlanCompiler) :
    EventCompilationStages String String MvpProfile MvpExecutionPlan where
  optimizer := identityEventAstOptimizer
  profileResolver := mvpFieldProfileResolver
  planCompiler :=
    { supportedBackends := fun _ _ => .ok ⟨true, false⟩
      compileEventPlan := compiler.compileEventPlan }

def ruleVersion : String := "1"

/-- **`compile_event_rule`**: one of the EVENT rules of the pack through the compiler, with its
error under the rule's name. -/
def compileEventRule (sha256LowerHex : List UInt8 → String) (ruleId planName : String)
    (expression : MvpExpression) :
    Except RuntimeError (CompiledEventExecutionPlan MvpExecutionPlan MvpProfile) :=
  (compileEventExecutionPlan expression .clickHouse mvpFieldResolver mvpValueResolver
    mvpComparisonPolicy (mvpStages
      { planId := planName
        ruleId := ruleId
        ruleVersion := ruleVersion
        planHash := sha256LowerHex (bytes planName) })).mapError fun error =>
    ⟨"EVENT rule " ++ ruleId ++ " compilation failed: " ++ error.asStr⟩

/-! ## The rules -/

/-- `and`. -/
def andExpression (children : List MvpExpression) : MvpExpression := .and children

/-- `eq`. -/
def eqExpression (field value : String) : MvpExpression := .comparison ⟨field, .eq, value⟩

/-- `failed_login_expression`. -/
def failedLoginExpression : MvpExpression :=
  andExpression [eqExpression "activity_name" "Logon", eqExpression "status" "Failure"]

/-- `successful_login_expression`. -/
def successfulLoginExpression : MvpExpression :=
  andExpression [eqExpression "activity_name" "Logon", eqExpression "status" "Success"]

/-- `privilege_escalation_expression`. -/
def privilegeEscalationExpression : MvpExpression :=
  eqExpression "activity_name" "Privilege Escalation"

def failedLoginRuleId : String := "CER-DET-000101"

def successfulLoginRuleId : String := "CER-DET-000102"

def privilegeEscalationRuleId : String := "CER-DET-000103"

/-! ## The leaf policy -/

/-- `MvpPolicyError`. -/
structure MvpPolicyError where
  message : String
  deriving DecidableEq, Repr

/-- The comparison of a present value that is no string. -/
def notAString (field : String) : MvpPolicyError :=
  ⟨"field " ++ field ++ " is not a string for MVP comparison"⟩

/-- The comparison by an operator the policy does not know. -/
def unsupportedOperator (operator : ComparisonOperator) : MvpPolicyError :=
  ⟨"operator " ++ operator.asStr ++ " is unsupported by the MVP leaf policy"⟩

/-- `MvpPolicy`, as the policy of the leaves. -/
def mvpPolicy : EventLeafEvaluationPolicy String String Value MvpPolicyError where
  evaluateExists _ state :=
    match state with
    | .present _ => .ok true
    | _ => .ok false
  evaluateComparison field state operator ruleValue :=
    match state with
    | .present (.stringValue actual) =>
      match operator with
      | .eq => .ok (actual == ruleValue)
      | operator => .error (unsupportedOperator operator)
    | .present _ => .error (notAString field)
    | _ => .ok false

/-! ## What the type checker leaves to the policy -/

section

variable {Field RuleValue FieldType ValueType EventValue Error : Type} [AsRefStr Field]
  {fieldResolver : FieldTypeResolver FieldType}
  {valueResolver : ValueTypeResolver RuleValue ValueType}
  {typePolicy : ComparisonTypePolicy FieldType ValueType}
  {state : Field → EventFieldState EventValue}
  {policy : EventLeafEvaluationPolicy Field RuleValue EventValue Error}

/-- Every child is checked. -/
theorem typeCheckExpressions_eq_ok : ∀ {children : List (DetectionExpression Field RuleValue)},
    typeCheckExpressions fieldResolver valueResolver typePolicy children = .ok () →
      ∀ child ∈ children, typeCheckExpression fieldResolver valueResolver typePolicy child = .ok ()
  | [], _, child, hchild => by simp at hchild
  | e :: children, h, child, hchild => by
      rw [typeCheckExpressions, check_bind_eq_ok] at h
      obtain rfl | hchild := List.mem_cons.1 hchild
      · exact h.1
      · exact typeCheckExpressions_eq_ok h.2 child hchild

/-- **The leaves that are reached were checked.** -/
theorem typeCheck_of_reachesLeaf {e leaf : DetectionExpression Field RuleValue}
    (h : ReachesLeaf state policy e leaf) :
    typeCheckExpression fieldResolver valueResolver typePolicy e = .ok () →
      typeCheckExpression fieldResolver valueResolver typePolicy leaf = .ok () := by
  induction h with
  | comparison => exact id
  | «exists» => exact id
  | not _ ih =>
    intro hcheck
    rw [typeCheckExpression] at hcheck
    exact ih hcheck
  | and _ _ ih =>
    intro hcheck
    rw [typeCheckExpression] at hcheck
    exact ih (typeCheckExpressions_eq_ok hcheck _ (by simp))
  | or _ _ ih =>
    intro hcheck
    rw [typeCheckExpression] at hcheck
    exact ih (typeCheckExpressions_eq_ok hcheck _ (by simp))

end

/-- An accepted comparison is an equality. -/
theorem operator_of_typeCheck {comparison : ComparisonExpression String String}
    (h : typeCheckExpression mvpFieldResolver mvpValueResolver mvpComparisonPolicy
      (.comparison comparison) = .ok ()) : comparison.operator = .eq := by
  rw [typeCheckExpression] at h
  obtain ⟨fieldType, -, h⟩ := bind_eq_ok.1 h
  simp only [mvpComparisonPolicy] at h
  obtain ⟨-, h⟩ := guard_eq_ok.1 h
  split_ifs at h with hop
  exact not_not.1 hop

/-- An equality fails on a present value that is no string, and on nothing else. -/
theorem evaluateComparison_eq_error {field ruleValue : String} {state : EventFieldState Value}
    {error : MvpPolicyError} :
    mvpPolicy.evaluateComparison field state .eq ruleValue = .error error ↔
      (∃ v, state = .present v ∧ ∀ text, v ≠ .stringValue text) ∧ error = notAString field := by
  rw [mvpPolicy]
  obtain v | _ | _ | _ := state
  · cases v <;> simp [eq_comm]
  · simp
  · simp
  · simp

theorem notAString_ne_unsupportedOperator (field : String) (operator : ComparisonOperator) :
    notAString field ≠ unsupportedOperator operator := by
  intro h
  have hchars := congrArg (fun e : MvpPolicyError => e.message.toList.head?) h
  simp [notAString, unsupportedOperator] at hchars

/-! ## Compiled rules -/

variable {sha256LowerHex : List UInt8 → String} {ruleId planName : String}
  {expression : MvpExpression}
  {compiled : CompiledEventExecutionPlan MvpExecutionPlan MvpProfile}

/-- An accepted rule was checked, and its plan holds the lowered expression. -/
theorem compileEventRule_eq_ok
    (h : compileEventRule sha256LowerHex ruleId planName expression = .ok compiled) :
    typeCheckExpression mvpFieldResolver mvpValueResolver mvpComparisonPolicy expression =
        .ok () ∧
      compiled.plan.predicates = lowerEventPredicate expression := by
  rw [compileEventRule, mapError_eq_ok] at h
  obtain ⟨-, htypes, optimized, hoptimized, -, -, hplan⟩ := compileEventExecutionPlan_eq_ok h
  obtain rfl : expression = optimized := Except.ok.inj hoptimized
  refine ⟨htypes, ?_⟩
  simp only [mvpStages, MvpPlanCompiler.compileEventPlan] at hplan
  split at hplan
  · exact nomatch hplan
  · rw [← Except.ok.inj hplan]

/-- `EventEvaluationResult` of a truth value. -/
def EventEvaluationResult.ofBool (b : Bool) : EventEvaluationResult :=
  if b then .match else .noMatch

theorem EventEvaluationResult.ofBool_injective :
    Function.Injective EventEvaluationResult.ofBool := by
  intro a b h
  cases a <;> cases b <;> first | rfl | exact nomatch h

/-- The plan of an accepted rule returns what the lowered expression does. -/
theorem evaluate_compiled_eq_map
    (h : compileEventRule sha256LowerHex ruleId planName expression = .ok compiled)
    (event : NormalizedEvent) :
    evaluateEventExecutionPlan compiled.plan (fieldState event) mvpPolicy =
      (evaluatePredicate (fieldState event) mvpPolicy (lowerEventPredicate expression)).map
        EventEvaluationResult.ofBool := by
  rw [evaluateEventExecutionPlan, ← (compileEventRule_eq_ok h).2]
  show (do
    if ← evaluatePredicate (fieldState event) mvpPolicy compiled.plan.predicates then
      return EventEvaluationResult.match
    else return EventEvaluationResult.noMatch) = _
  obtain e | _ | _ := evaluatePredicate (fieldState event) mvpPolicy compiled.plan.predicates
  · rfl
  · rfl
  · rfl

/-- The map of an injective function loses nothing. -/
theorem exceptMap_injective {ε α β : Type} {f : α → β} (hf : Function.Injective f)
    {x y : Except ε α} (h : x.map f = y.map f) : x = y := by
  obtain e | a := x <;> obtain e' | b := y
  · exact congrArg _ (Except.error.inj h)
  · exact nomatch h
  · exact nomatch h
  · exact congrArg _ (hf (Except.ok.inj h))

/-- A leaf of an accepted rule that fails is a comparison with a value that is no string. -/
theorem exists_comparison_of_error {leaf : MvpExpression} {event : NormalizedEvent}
    {error : MvpPolicyError} (hreach : ReachesLeaf (fieldState event) mvpPolicy expression leaf)
    (htypes : typeCheckExpression mvpFieldResolver mvpValueResolver mvpComparisonPolicy leaf =
      .ok ())
    (h : Evaluates (fieldState event) mvpPolicy leaf (.error error)) :
    ∃ comparison, ReachesLeaf (fieldState event) mvpPolicy expression (.comparison comparison) ∧
      (∃ v, fieldState event comparison.field = .present v ∧ ∀ text, v ≠ .stringValue text) ∧
      error = notAString comparison.field := by
  have heval := h.evaluatePredicate_eq
  have hleaf := hreach.isLeaf
  match leaf with
  | .comparison comparison =>
    rw [lowerEventPredicate, evaluatePredicate, operator_of_typeCheck htypes,
      evaluateComparison_eq_error] at heval
    exact ⟨comparison, hreach, heval⟩
  | .exists exists_ =>
    rw [lowerEventPredicate, evaluatePredicate, mvpPolicy] at heval
    dsimp only at heval
    split at heval
    · exact nomatch heval
    · exact nomatch heval
  | .and _ => exact nomatch hleaf
  | .or _ => exact nomatch hleaf
  | .not _ => exact nomatch hleaf

/-- **A compiled rule means what its expression says, and cannot get stuck.**  On every event the
plan returns what the expression means, failures included.  It fails only where a comparison that the
short-circuit order reaches finds a value that is present and no string, with the error of that
comparison, and never with that of an unsupported operator. -/
theorem evaluate_compiled
    (h : compileEventRule sha256LowerHex ruleId planName expression = .ok compiled)
    (event : NormalizedEvent) :
    (∀ r, evaluateEventExecutionPlan compiled.plan (fieldState event) mvpPolicy =
      r.map EventEvaluationResult.ofBool ↔
        Evaluates (fieldState event) mvpPolicy expression r) ∧
    ∀ error, evaluateEventExecutionPlan compiled.plan (fieldState event) mvpPolicy =
      .error error →
        (∀ operator, error ≠ unsupportedOperator operator) ∧
        ∃ comparison, ReachesLeaf (fieldState event) mvpPolicy expression (.comparison comparison) ∧
          (∃ v, fieldState event comparison.field = .present v ∧ ∀ text, v ≠ .stringValue text) ∧
          error = notAString comparison.field := by
  have hmap := evaluate_compiled_eq_map h event
  refine ⟨fun r => ?_, fun error herror => ?_⟩
  · rw [hmap, ← evaluatePredicate_lower_iff]
    exact ⟨exceptMap_injective EventEvaluationResult.ofBool_injective, fun hr => by rw [hr]⟩
  · have hpredicate : evaluatePredicate (fieldState event) mvpPolicy
        (lowerEventPredicate expression) = .error error :=
      exceptMap_injective EventEvaluationResult.ofBool_injective (hmap.symm.trans herror)
    obtain ⟨leaf, hreach, hleaf⟩ := (evaluatePredicate_lower_iff.1 hpredicate).exists_reached rfl
    obtain ⟨comparison, hcomparison, hstate, rfl⟩ :=
      exists_comparison_of_error hreach
        (typeCheck_of_reachesLeaf hreach (compileEventRule_eq_ok h).1) hleaf
    exact ⟨notAString_ne_unsupportedOperator _, comparison, hcomparison, hstate, rfl⟩

/-! ## A run -/

/-- The plan of the failed-login rule. -/
def failedLoginPlan (sha256LowerHex : List UInt8 → String) :
    CompiledEventExecutionPlan MvpExecutionPlan MvpProfile where
  plan :=
    { planId := "mvp-failed-login-v1"
      ruleId := ⟨failedLoginRuleId⟩
      ruleVersion := ruleVersion
      backend := .clickHouse
      requiredFields := ["activity_name", "status"]
      predicates := lowerEventPredicate failedLoginExpression
      grouping := ()
      window := ()
      resourceLimits := ()
      planHash := sha256LowerHex (bytes "mvp-failed-login-v1") }
  fieldProfile := ⟨["activity_name", "status"], [],
    (SortedMap.empty.insert "activity_name" .text).insert "status" .text⟩
  supportedBackends := ⟨true, false⟩

theorem compileEventRule_failedLogin (sha256LowerHex : List UInt8 → String) :
    compileEventRule sha256LowerHex failedLoginRuleId "mvp-failed-login-v1"
      failedLoginExpression = .ok (failedLoginPlan sha256LowerHex) := by
  rfl

/-- A logon whose status is a number. -/
def numericStatusEvent : NormalizedEvent where
  normalizedEventId := "01890a5d-ac96-774b-bcce-b302099a8101"
  rawEventId := "01890a5d-ac96-774b-bcce-b302099a8102"
  tenantId := "01890a5d-ac96-774b-bcce-b302099a8057"
  normalizedAt := some ⟨0, 0⟩
  ocsfVersion := "1.3.0"
  classUid := 3002
  categoryUid := 3
  severity := none
  activityId := some 1
  ocsfEvent := some [("activity_name", .stringValue "Logon"), ("status", .numberValue 0)]
  parserId := "parser"
  parserVersion := "1"
  normalizationStatus := .success
  normalizedHashAlgorithm := "sha256"
  normalizedHash := "hash"
  pipelineVersion := "1"

theorem evaluate_compiled_failedLogin :
    (∀ r, evaluateEventExecutionPlan (failedLoginPlan fun _ => "hash").plan
      (fieldState numericStatusEvent) mvpPolicy = r.map EventEvaluationResult.ofBool ↔
        Evaluates (fieldState numericStatusEvent) mvpPolicy failedLoginExpression r) ∧
    ∀ error, evaluateEventExecutionPlan (failedLoginPlan fun _ => "hash").plan
      (fieldState numericStatusEvent) mvpPolicy = .error error →
        (∀ operator, error ≠ unsupportedOperator operator) ∧
        ∃ comparison, ReachesLeaf (fieldState numericStatusEvent) mvpPolicy failedLoginExpression
          (.comparison comparison) ∧
          (∃ v, fieldState numericStatusEvent comparison.field = .present v ∧
            ∀ text, v ≠ .stringValue text) ∧
          error = notAString comparison.field :=
  evaluate_compiled (compileEventRule_failedLogin _) numericStatusEvent

end Detection

end Cerbero
