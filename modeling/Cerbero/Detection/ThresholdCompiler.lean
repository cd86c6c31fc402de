import Cerbero.Detection.MvpBatch

/-!
# Detection/ThresholdCompiler — from a THRESHOLD rule to its plan

The compiler checks the counts and the window of a rule, that its group fields are known and differ
from each other, and hands the filter to the EVENT compiler.  What it has checked is what the plan
carries in its fields (**`compileThresholdExecutionPlan_eq_ok`**).
-/

namespace Cerbero

namespace Detection

/-! ## Rules -/

/-- `ThresholdRule`; the threshold is a `u64`. -/
structure ThresholdRule (Field RuleValue : Type) where
  filter : DetectionExpression Field RuleValue
  groupBy : List Field
  aggregation : ThresholdAggregation
  threshold : UInt64
  window : ThresholdWindow Field

variable {Field RuleValue FieldType ValueType Profile Plan : Type} [AsRefStr Field]

/-- The loop over the group fields; `previous` are those before. -/
def checkGroupBy (fieldResolver : FieldTypeResolver FieldType) :
    List String → List Field → Except RuleCompilationErrorKind Unit
  | _, [] => .ok ()
  | previous, field :: fields => do
    if AsRefStr.asRef field ∈ previous then throw .invalidMapping
    let _ ← requireFieldType fieldResolver (AsRefStr.asRef field)
    checkGroupBy fieldResolver (AsRefStr.asRef field :: previous) fields

/-- Group fields that pass differ from each other and from those before. -/
theorem nodup_of_checkGroupBy {fieldResolver : FieldTypeResolver FieldType} {fields : List Field} :
    ∀ {previous : List String}, checkGroupBy fieldResolver previous fields = .ok () →
      (fields.map AsRefStr.asRef).Nodup ∧ ∀ field ∈ fields, AsRefStr.asRef field ∉ previous := by
  induction fields with
  | nil =>
    intro previous _
    exact ⟨List.nodup_nil, fun _ h => absurd h List.not_mem_nil⟩
  | cons field fields ih =>
    intro previous h
    rw [checkGroupBy] at h
    obtain ⟨hnew, h⟩ := guard_eq_ok.1 h
    obtain ⟨_, -, h⟩ := bind_eq_ok.1 h
    obtain ⟨hnodup, hfresh⟩ := ih h
    refine ⟨List.nodup_cons.2 ⟨?_, hnodup⟩, ?_⟩
    · intro hmem
      obtain ⟨other, hother, heq⟩ := List.mem_map.1 hmem
      exact hfresh other hother (heq ▸ List.mem_cons_self)
    · intro other hother
      obtain rfl | hother := List.mem_cons.1 hother
      · exact hnew
      · exact fun hmem => hfresh other hother (List.mem_cons_of_mem _ hmem)

/-- **`compile_threshold_execution_plan`**: the stages of the source one after the other: the rule's
own values, its base expression, the grouping and the plan. -/
def compileThresholdExecutionPlan (rule : ThresholdRule Field RuleValue)
    (backend : ExecutionBackend) (fieldResolver : FieldTypeResolver FieldType)
    (valueResolver : ValueTypeResolver RuleValue ValueType)
    (policy : ComparisonTypePolicy FieldType ValueType)
    (stages : EventCompilationStages Field RuleValue Profile Plan) :
    Except RuleCompilationErrorKind (CompiledThresholdExecutionPlan Plan Profile Field) :=
  if backend ≠ .clickHouse then .error .unsupportedBackend
  else if hcounts : rule.groupBy = [] ∨ rule.threshold = 0 then .error .invalidMapping
  else if hwindow : rule.window.durationMillis = 0 ∨ 2 ^ 63 ≤ rule.window.durationMillis then
    .error .invalidWindow
  else if hlate : rule.window.lateEventPolicy ≠ .accept then .error .unsupportedBackend
  else match hgroup : checkGroupBy fieldResolver [] rule.groupBy with
  | .error kind => .error kind
  | .ok () => do
    let _ ← requireFieldType fieldResolver (AsRefStr.asRef rule.window.timeField)
    let filter ← compileEventExecutionPlan rule.filter backend fieldResolver valueResolver policy
      stages
    return {
      filter := filter
      groupBy := rule.groupBy
      aggregation := rule.aggregation
      threshold := rule.threshold.toNat
      window := rule.window
      supportedBackends := ⟨true, false⟩
      groupBy_ne_nil := fun h => hcounts (.inl h)
      groupBy_nodup := (nodup_of_checkGroupBy hgroup).1
      threshold_pos := Nat.pos_of_ne_zero fun h => hcounts (.inr (UInt64.toNat_inj.1 h))
      threshold_lt := rule.threshold.toNat_lt
      duration_pos := Nat.pos_of_ne_zero fun h => hwindow (.inl h)
      duration_lt := Nat.lt_of_not_le fun h => hwindow (.inr h)
      accepts_late := not_not.1 hlate }

/-- **The plan of a rule** has its filter compiled and the rest of the rule as it is. -/
theorem compileThresholdExecutionPlan_eq_ok {rule : ThresholdRule Field RuleValue}
    {backend : ExecutionBackend} {fieldResolver : FieldTypeResolver FieldType}
    {valueResolver : ValueTypeResolver RuleValue ValueType}
    {policy : ComparisonTypePolicy FieldType ValueType}
    {stages : EventCompilationStages Field RuleValue Profile Plan}
    {compiled : CompiledThresholdExecutionPlan Plan Profile Field}
    (h : compileThresholdExecutionPlan rule backend fieldResolver valueResolver policy stages =
      .ok compiled) :
    compileEventExecutionPlan rule.filter backend fieldResolver valueResolver policy stages =
        .ok compiled.filter ∧
      compiled.groupBy = rule.groupBy ∧ compiled.threshold = rule.threshold.toNat ∧
      compiled.window = rule.window := by
  unfold compileThresholdExecutionPlan at h
  split_ifs at h with hbackend hcounts hwindow hlate
  split at h
  · cases h
  · obtain ⟨_, -, h⟩ := bind_eq_ok.1 h
    obtain ⟨filter, hfilter, h⟩ := bind_eq_ok.1 h
    obtain rfl := Except.ok.inj h
    exact ⟨hfilter, rfl, rfl, rfl⟩

/-! ## The plan of an MVP rule -/

/-- The predicate of an MVP plan is the lowered expression, and the plan bears the names it was
compiled with. -/
theorem compileMvpPlan_eq_ok {expression : MvpExpression} {compiler : MvpPlanCompiler}
    {compiled : CompiledEventExecutionPlan MvpExecutionPlan MvpProfile}
    (h : compileEventExecutionPlan expression .clickHouse mvpFieldResolver mvpValueResolver
      mvpComparisonPolicy (mvpStages compiler) = .ok compiled) :
    compiled.plan.predicates = lowerEventPredicate expression ∧
      compiled.plan.ruleId.value = compiler.ruleId ∧
      compiled.plan.ruleVersion = compiler.ruleVersion ∧ compiled.plan.backend = .clickHouse := by
  obtain ⟨-, -, optimized, hoptimized, -, -, hplan⟩ := compileEventExecutionPlan_eq_ok h
  obtain rfl : expression = optimized := Except.ok.inj hoptimized
  simp only [mvpStages, MvpPlanCompiler.compileEventPlan, RuleId.fromStr] at hplan
  split_ifs at hplan with hid
  rw [← Except.ok.inj hplan]
  exact ⟨rfl, rfl, rfl, rfl⟩

end Detection

end Cerbero
