import Cerbero.Contracts.Signal
import Cerbero.Contracts.NormalizedEvent

/-!
# Contracts/Finding — the canonical Finding and its validator
-/

namespace Cerbero

open Text

/-- `FindingInput`: a Signal or an event that a Finding rests on, and how. -/
structure FindingInput where
  findingId : String
  inputType : String
  inputId : String
  relation : String
  deriving DecidableEq, Repr

/-- `FindingCorrelationProvenance`: the rule and the plan a correlation was found by, and its inputs
in the order they were joined. -/
structure FindingCorrelationProvenance where
  correlationRuleId : String
  correlationRuleVersion : String
  windowStart : Option Timestamp
  windowEnd : Option Timestamp
  inputIds : List String
  outputFindingId : String
  executionBackend : ℤ
  executionMode : ℤ
  configurationHash : String
  deriving DecidableEq, Repr

/-- `Finding`: what the detection service tells an analyst, with the inputs that explain it. -/
structure Finding where
  findingId : String
  tenantId : String
  findingType : ℤ
  status : ℤ
  severity : String
  confidence : Option String
  title : String
  description : String
  firstSeen : Option Timestamp
  lastSeen : Option Timestamp
  createdAt : Option Timestamp
  updatedAt : Option Timestamp
  primaryRuleId : Option String
  primaryRuleVersion : Option String
  correlationRuleId : Option String
  correlationRuleVersion : Option String
  disposition : ℤ
  metadata : Option Struct
  executionMode : ℤ
  inputs : List FindingInput
  correlationProvenance : Option FindingCorrelationProvenance

/-- `validate_optional_pair`: two optional texts of which both are there or neither is. -/
def validateOptionalPair (firstField : String) (first : Option String) (secondField : String)
    (second : Option String) : Check :=
  match first, second with
  | none, none => .ok ()
  | some first, some second => do
    requireText firstField first
    requireText secondField second
  | _, _ => .error ⟨firstField,
      firstField ++ " and " ++ secondField ++ " must both be present or both be absent"⟩

/-- `validate_seen_pair`: the first and the last time come together, and the first is not after the
last. -/
def validateSeenPair (finding : Finding) : Check :=
  match finding.firstSeen, finding.lastSeen with
  | none, none => .ok ()
  | some first, some last => do
    validateTimestamp "first_seen" first
    validateTimestamp "last_seen" last
    rejectIf (!timestampLe first last) "first_seen" "must be less than or equal to last_seen"
  | _, _ => .error ⟨"first_seen",
      "first_seen and last_seen must both be present or both be absent"⟩

/-- `validate_required_times`. -/
def validateRequiredTimes (finding : Finding) : Check := do
  validateRequiredTimestamp "created_at" finding.createdAt
  validateRequiredTimestamp "updated_at" finding.updatedAt

/-- `validate_finding_input`: the input names its Finding, and its type and identifier are there. -/
def validateFindingInput (findingId : String) (input : FindingInput) : Check := do
  rejectIf (input.findingId != findingId) "inputs.finding_id"
    "must equal the containing Finding.finding_id"
  requireText "inputs.input_type" input.inputType
  validateUuidV7 "inputs.input_id" input.inputId
  requireText "inputs.relation" input.relation

/-- The loop of `validate_inputs`: the relations seen so far must not come again. -/
def checkFindingInputs (findingId : String) :
    List (String × String × String) → List FindingInput → Check
  | _, [] => .ok ()
  | seen, input :: inputs => do
    validateFindingInput findingId input
    rejectIf (seen.contains (input.inputType, input.inputId, input.relation)) "inputs"
      "must not contain duplicate input_type/input_id/relation entries"
    checkFindingInputs findingId ((input.inputType, input.inputId, input.relation) :: seen) inputs

/-- `validate_inputs`; the set of input identifiers it returns is read off the inputs. -/
def validateInputs (finding : Finding) : Check := do
  rejectIf finding.inputs.isEmpty "inputs" "must preserve at least one contributing object"
  checkFindingInputs finding.findingId [] finding.inputs

/-- The loop over the provenance identifiers. -/
def checkProvenanceIds (findingInputIds : List String) : List String → List String → Check
  | _, [] => .ok ()
  | seen, inputId :: inputIds => do
    validateUuidV7 "correlation_provenance.input_ids" inputId
    rejectIf (seen.contains inputId) "correlation_provenance.input_ids"
      "must not contain duplicate object identities"
    rejectIf (!findingInputIds.contains inputId) "correlation_provenance.input_ids"
      "every correlation input_id must be backed by Finding.inputs"
    checkProvenanceIds findingInputIds (inputId :: seen) inputIds

/-- The window check of `validate_correlation_provenance`. -/
def validateProvenanceWindow (provenance : FindingCorrelationProvenance) : Check :=
  match provenance.windowStart, provenance.windowEnd with
  | none, _ => .error ⟨"correlation_provenance.window_start", "is required"⟩
  | some _, none => .error ⟨"correlation_provenance.window_end", "is required"⟩
  | some windowStart, some windowEnd => do
    validateTimestamp "correlation_provenance.window_start" windowStart
    validateTimestamp "correlation_provenance.window_end" windowEnd
    rejectIf (!timestampLe windowStart windowEnd) "correlation_provenance.window_start"
      "must be less than or equal to window_end"

/-- The rule identity check of `validate_correlation_provenance`. -/
def validateProvenanceRule (finding : Finding) (provenance : FindingCorrelationProvenance) :
    Check :=
  match finding.correlationRuleId, finding.correlationRuleVersion with
  | none, _ => .error ⟨"correlation_rule_id", "is required for CORRELATION Findings"⟩
  | some _, none => .error ⟨"correlation_rule_version", "is required for CORRELATION Findings"⟩
  | some ruleId, some ruleVersion => do
    rejectIf (provenance.correlationRuleId != ruleId) "correlation_provenance.correlation_rule_id"
      "must equal Finding.correlation_rule_id"
    rejectIf (provenance.correlationRuleVersion != ruleVersion)
      "correlation_provenance.correlation_rule_version"
      "must equal Finding.correlation_rule_version"

/-- `validate_correlation_provenance`: the rule and the window, inputs of the Finding of which none
is named twice, and the Finding, its backend and its mode. -/
def validateCorrelationProvenance (finding : Finding) (provenance : FindingCorrelationProvenance) :
    Check := do
  validateProvenanceRule finding provenance
  validateProvenanceWindow provenance
  rejectIf provenance.inputIds.isEmpty "correlation_provenance.input_ids"
    "must preserve at least one contributing object identity"
  checkProvenanceIds (finding.inputs.map FindingInput.inputId) [] provenance.inputIds
  rejectIf (provenance.outputFindingId != finding.findingId)
    "correlation_provenance.output_finding_id" "must equal Finding.finding_id"
  rejectIf (!isMember 1 2 provenance.executionBackend) "correlation_provenance.execution_backend"
    "must be CLICKHOUSE or STREAM"
  rejectIf (provenance.executionMode != finding.executionMode)
    "correlation_provenance.execution_mode" "must equal Finding.execution_mode"
  requireText "correlation_provenance.configuration_hash" provenance.configurationHash

/-- `validate_type_specific_provenance`; the finding type was checked before. -/
def validateTypeSpecificProvenance (finding : Finding) : Check :=
  if finding.findingType = 3 then
    match finding.correlationProvenance with
    | none => .error ⟨"correlation_provenance", "is required for CORRELATION Findings"⟩
    | some provenance => validateCorrelationProvenance finding provenance
  else do
    if finding.findingType ≠ 4 then
      rejectIf (finding.primaryRuleId.isNone || finding.primaryRuleVersion.isNone)
        "primary_rule_id" "DETECTION and THRESHOLD Findings require primary rule identity/version"
    rejectIf finding.correlationProvenance.isSome "correlation_provenance"
      "is only valid for CORRELATION Findings"

/-- **`validate_finding`**: every part of a Finding in the order of the source, the first failure
being the error. -/
def validateFinding (finding : Finding) : Check := do
  validateUuidV7 "finding_id" finding.findingId
  validateUuidV7 "tenant_id" finding.tenantId
  rejectIf (!isMember 1 4 finding.findingType) "finding_type"
    "must be DETECTION, THRESHOLD, CORRELATION, or ANALYTICAL"
  rejectIf (!isMember 1 5 finding.status) "status"
    "must be OPEN, ACKNOWLEDGED, SUPPRESSED, RESOLVED, or INVALIDATED"
  requireText "severity" finding.severity
  match finding.confidence with
  | some confidence => requireText "confidence" confidence
  | none => .ok ()
  requireText "title" finding.title
  requireText "description" finding.description
  validateSeenPair finding
  validateRequiredTimes finding
  validateOptionalPair "primary_rule_id" finding.primaryRuleId "primary_rule_version"
    finding.primaryRuleVersion
  validateOptionalPair "correlation_rule_id" finding.correlationRuleId "correlation_rule_version"
    finding.correlationRuleVersion
  rejectIf (!isMember 1 6 finding.disposition) "disposition"
    "must be UNDETERMINED, TRUE_POSITIVE, BENIGN_TRUE_POSITIVE, FALSE_POSITIVE, DUPLICATE, or TEST_ACTIVITY"
  rejectIf (!isMember 1 3 finding.executionMode) "execution_mode"
    "must distinguish LIVE, REPLAY, or TEST"
  validateInputs finding
  validateTypeSpecificProvenance finding

/-! ## What an accepted correlation Finding satisfies -/

/-- The checks of an accepted Finding with provenance that its identity depends on. -/
structure Finding.Accepted (finding : Finding) (provenance : FindingCorrelationProvenance) :
    Prop where
  tenantId_uuid : validateUuidV7 "tenant_id" finding.tenantId = .ok ()
  executionMode_mem : isMember 1 3 finding.executionMode
  inputIds_uuid : ∀ inputId ∈ provenance.inputIds,
    validateUuidV7 "correlation_provenance.input_ids" inputId = .ok ()

theorem uuid_of_checkProvenanceIds {findingInputIds : List String} :
    ∀ {inputIds seen : List String}, checkProvenanceIds findingInputIds seen inputIds = .ok () →
      ∀ inputId ∈ inputIds, validateUuidV7 "correlation_provenance.input_ids" inputId = .ok ()
  | [], _, _, inputId, hmem => by simp at hmem
  | x :: inputIds, seen, h, inputId, hmem => by
      rw [checkProvenanceIds, check_bind_eq_ok, check_bind_eq_ok, check_bind_eq_ok] at h
      obtain ⟨hx, -, -, hrest⟩ := h
      rcases List.mem_cons.1 hmem with rfl | hmem
      · exact hx
      · exact uuid_of_checkProvenanceIds hrest inputId hmem

/-- Only a correlation Finding keeps its provenance through the validator. -/
theorem validateCorrelationProvenance_of_accepted {finding : Finding}
    {provenance : FindingCorrelationProvenance}
    (hp : finding.correlationProvenance = some provenance)
    (h : validateTypeSpecificProvenance finding = .ok ()) :
    validateCorrelationProvenance finding provenance = .ok () := by
  rw [validateTypeSpecificProvenance, hp] at h
  split_ifs at h with htype hanalytical
  · exact h
  · rw [check_bind_eq_ok, rejectIf_eq_ok] at h
    exact absurd h.2 (by simp [rejectIf])
  · exact absurd h (by simp [rejectIf])

/-- **An accepted Finding passed its identity and provenance checks.** -/
theorem accepted_of_validateFinding {finding : Finding} {provenance : FindingCorrelationProvenance}
    (hp : finding.correlationProvenance = some provenance)
    (h : validateFinding finding = .ok ()) : finding.Accepted provenance := by
  rw [validateFinding] at h
  have hrest : validateUuidV7 "tenant_id" finding.tenantId = .ok () ∧
      isMember 1 3 finding.executionMode ∧ validateTypeSpecificProvenance finding = .ok () := by
    cases hc : finding.confidence <;>
      simp only [hc, check_bind_eq_ok, rejectIf_eq_ok] at h <;>
      simp_all
  obtain ⟨htenant, hmode, htype⟩ := hrest
  have hprov := validateCorrelationProvenance_of_accepted hp htype
  simp only [validateCorrelationProvenance, check_bind_eq_ok] at hprov
  obtain ⟨-, -, -, hids, -⟩ := hprov
  exact ⟨htenant, hmode, uuid_of_checkProvenanceIds hids⟩

end Cerbero
