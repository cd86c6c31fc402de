import Cerbero.Contracts.UuidText
import Cerbero.Detection.MatchPromise

/-!
# Detection/MaterializeExact — an emitted match fails to materialize by its context only

What the evaluators promise of a match implies every rule of the validators that looks at it.  What
is left of a validator is a check of the context (`…MaterializationContext.check`), so a materializer
is that check and then the object (`materializeThresholdSignal_eq`,
`materializeSequenceCorrelationFinding_eq`).  One rule is stronger than the promise: a Signal has no
ordinals past `u32::MAX`.
-/

namespace Cerbero

namespace Detection

open Text

theorem rejectIf_false (field reason : String) : rejectIf false field reason = .ok () :=
  if_neg Bool.false_ne_true

theorem bind_ok (x : Check) : (x >>= fun _ => Except.ok ()) = x := by
  match x with
  | .ok () => rfl
  | .error _ => rfl

/-! ## THRESHOLD Signals -/

/-- The check of a confidence that may be absent. -/
def requireConfidence : Option String → Check
  | some confidence => requireText "confidence" confidence
  | none => .ok ()

/-- The checks of `validate_signal` that look at the context, for a match of `eventCount` events. -/
def ThresholdSignalMaterializationContext.check (context : ThresholdSignalMaterializationContext)
    (eventCount : ℕ) : Check := do
  validateUuidV7 "signal_id" context.signalId
  requireText "severity" context.severity
  requireConfidence context.confidence
  validateTimestamp "created_at" context.createdAt
  rejectIf (context.sourceCount == 0) "source_count" "must be greater than zero"
  requireText "summary" context.summary
  requireText "inputs.relation" context.inputRelation
  rejectIf (eventCount < context.sourceCount) "source_count"
    "cannot exceed event_count for EVENT or THRESHOLD Signals"

/-- The inputs of a THRESHOLD Signal, numbered from `index` on. -/
def numberedInputs (signalId relation : String) (index : ℕ) (inputIds : List String) :
    List SignalInput :=
  (inputIds.zipIdx index).map fun (inputId, ordinal) => ⟨signalId, 1, inputId, relation, ordinal⟩

theorem numberedInputs_cons (signalId relation : String) (index : ℕ) (inputId : String)
    (inputIds : List String) :
    numberedInputs signalId relation index (inputId :: inputIds) =
      ⟨signalId, 1, inputId, relation, index⟩ ::
        numberedInputs signalId relation (index + 1) inputIds := rfl

theorem map_inputId_numberedInputs (signalId relation : String) (index : ℕ)
    (inputIds : List String) :
    (numberedInputs signalId relation index inputIds).map SignalInput.inputId = inputIds := by
  rw [numberedInputs, List.map_map]
  exact List.zipIdx_map_fst index inputIds

theorem map_ordinal_numberedInputs (signalId relation : String) (inputIds : List String) :
    (numberedInputs signalId relation 0 inputIds).map SignalInput.ordinal =
      List.range inputIds.length := by
  rw [numberedInputs, List.map_map, List.range_eq_range']
  exact List.zipIdx_map_snd 0 inputIds

/-- The ordinals end where `u32` does. -/
theorem thresholdInputs_eq (signalId relation : String) : ∀ (index : ℕ) (inputIds : List String),
    index + inputIds.length ≤ UInt32.size → thresholdInputs signalId relation index inputIds =
      .ok (numberedInputs signalId relation index inputIds)
  | _, [], _ => rfl
  | index, inputId :: inputIds, h => by
      rw [List.length_cons] at h
      have hindex : decide (UInt32.size ≤ index) = false := decide_eq_false (by omega)
      rw [thresholdInputs, hindex, thresholdInputs_eq signalId relation (index + 1) inputIds
        (by omega), numberedInputs_cons]
      rfl

/-- Past them the inputs are refused. -/
theorem thresholdInputs_eq_error (signalId relation : String) :
    ∀ (index : ℕ) (inputIds : List String), index ≤ UInt32.size →
      UInt32.size < index + inputIds.length → thresholdInputs signalId relation index inputIds =
        .error ⟨"inputs.ordinal", "input list exceeds uint32 ordinal capacity"⟩
  | index, [], hle, h => by
      rw [List.length_nil] at h
      omega
  | index, inputId :: inputIds, hle, h => by
      rw [List.length_cons] at h
      rw [thresholdInputs]
      by_cases hindex : UInt32.size ≤ index
      · rw [decide_eq_true hindex]
        rfl
      · rw [decide_eq_false hindex, thresholdInputs_eq_error signalId relation (index + 1) inputIds
          (by omega) (by omega)]
        rfl

/-- The loop over distinct identifiers checks the relation and nothing else. -/
theorem checkSignalInputs_numberedInputs {signalId relation : String}
    (hrelation : isBlank relation = false) :
    ∀ {inputIds : List String} {index : ℕ} {unique : List (ℤ × String)},
      (∀ id ∈ inputIds, validateUuidV7 "inputs.input_id" id = .ok ()) → inputIds.Nodup →
      (∀ id ∈ inputIds, ((1 : ℤ), id) ∉ unique) → index + inputIds.length ≤ UInt32.size →
        checkSignalInputs signalId index unique (numberedInputs signalId relation index inputIds) =
          .ok inputIds.length
  | [], _, _, _, _, _, _ => rfl
  | id :: inputIds, index, unique, huuid, hnodup, hfresh, hlen => by
      rw [List.length_cons] at hlen
      obtain ⟨hnot, hnodup⟩ := List.nodup_cons.1 hnodup
      have hinput : validateSignalInput signalId ⟨signalId, 1, id, relation, index⟩ index =
          .ok () := by
        simp only [validateSignalInput, requireText, check_bind_eq_ok, rejectIf_eq_ok]
        exact ⟨bne_self_eq_false _, rfl, huuid id List.mem_cons_self, hrelation,
          decide_eq_false (by omega), bne_self_eq_false _⟩
      have hseen : unique.contains ((1 : ℤ), id) = false := by
        simpa using hfresh id List.mem_cons_self
      have hrest := @checkSignalInputs_numberedInputs signalId relation hrelation inputIds
        (index + 1) ((1, id) :: unique) (fun x hx => huuid x (List.mem_cons_of_mem _ hx)) hnodup (fun x hx hmem => by
          obtain heq | hmem := List.mem_cons.1 hmem
          · exact hnot ((Prod.mk.inj heq).2 ▸ hx)
          · exact hfresh x (List.mem_cons_of_mem _ hx) hmem)
        (show index + 1 + inputIds.length ≤ UInt32.size by omega)
      rw [numberedInputs_cons, checkSignalInputs, hinput, ok_bind, hseen, hrest]
      show Except.ok (1 + inputIds.length) = _
      rw [Nat.add_comm, List.length_cons]

section

variable {RuleVersion : Type} [ToString RuleVersion] {m : ThresholdSignalProvenance RuleVersion}

/-- The inputs of a match: only the relation is looked at. -/
theorem validateSignalInputs_thresholdSignal (h : m.WellFormed)
    (hlen : m.normalizedEventIds.length ≤ UInt32.size)
    (context : ThresholdSignalMaterializationContext) :
    validateSignalInputs (thresholdSignal m context
      (numberedInputs context.signalId context.inputRelation 0 m.normalizedEventIds)) = do
        requireText "inputs.relation" context.inputRelation
        return m.normalizedEventIds.length := by
  obtain ⟨id, ids, hids⟩ := List.exists_cons_of_ne_nil h.ids_ne_nil
  have huuid := h.ids_uuid id (hids ▸ List.mem_cons_self)
  have hne : (thresholdSignal m context (numberedInputs context.signalId context.inputRelation 0
      m.normalizedEventIds)).inputs.isEmpty = false := by
    rw [thresholdSignal, hids, numberedInputs_cons]
    rfl
  rw [validateSignalInputs, hne]
  show checkSignalInputs context.signalId 0 [] (numberedInputs context.signalId
    context.inputRelation 0 m.normalizedEventIds) = _
  cases hrelation : isBlank context.inputRelation with
  | true =>
    rw [hids, numberedInputs_cons, checkSignalInputs, validateSignalInput, requireText, hrelation]
    simp only [bne_self_eq_false, huuid, rejectIf]
    rfl
  | false =>
    rw [checkSignalInputs_numberedInputs hrelation h.ids_uuid h.ids_nodup (by simp) (by omega),
      requireText, hrelation]
    rfl

/-- **What is left of `validate_signal`** on the Signal of a match: the checks of its context. -/
theorem validateSignal_thresholdSignal (h : m.WellFormed)
    (hrule : isNumberedId ruleIdPrefix m.ruleId.value ruleIdDigits)
    (hversion : isBlank (toString m.ruleVersion) = false)
    (hlen : m.normalizedEventIds.length ≤ UInt32.size)
    (context : ThresholdSignalMaterializationContext) :
    validateSignal (thresholdSignal m context
      (numberedInputs context.signalId context.inputRelation 0 m.normalizedEventIds)) =
        context.check m.normalizedEventIds.length := by
  have hmode := isMember_number h.executionMode_ne
  have hbackend := isMember_contractBackend m.executionBackend
  have hzero : (m.normalizedEventIds.length == 0) = false := by
    simpa using h.ids_ne_nil
  have hrequire : requireText "rule_version" (toString m.ruleVersion) = .ok () := by
    rw [requireText, hversion]
    rfl
  rw [validateSignal, validateSignalInputs_thresholdSignal h hlen]
  simp only [validateSignalIdentity, validateSignalTimes, validateSignalCounts,
    validateSignalProvenance, validateSignalRuleCounts, validateDetectionRuleId, thresholdSignal,
    validateRequiredTimestamp, h.tenantId_uuid, h.timesValid.1, h.timesValid.2, h.first_le_last,
    h.evaluatedAt_valid, hrule, hmode, hbackend, hrequire, hzero, bind_assoc, pure_bind, ok_bind,
    Bool.not_true, rejectIf_false, bne_self_eq_false, Bool.or_self,
    show ¬ (2 : ℤ) = 3 by decide, show ¬ (2 : ℤ) = 1 by decide, show (!isMember 1 3 2) = false from rfl,
    show (!isMember 1 4 1) = false from rfl, if_false]
  rw [ThresholdSignalMaterializationContext.check]
  cases context.confidence with
  | some confidence =>
    simp only [requireConfidence, bind_ok]
    rfl
  | none =>
    simp only [requireConfidence, ok_bind]
    rfl

/-- **The materializer of a match is the check of its context**, and then the Signal. -/
theorem materializeThresholdSignal_eq (h : m.WellFormed)
    (hrule : isNumberedId ruleIdPrefix m.ruleId.value ruleIdDigits)
    (hversion : isBlank (toString m.ruleVersion) = false)
    (hlen : m.normalizedEventIds.length ≤ UInt32.size)
    (context : ThresholdSignalMaterializationContext) :
    materializeThresholdSignal m context = do
      context.check m.normalizedEventIds.length
      return thresholdSignal m context
        (numberedInputs context.signalId context.inputRelation 0 m.normalizedEventIds) := by
  have hempty : m.normalizedEventIds.isEmpty = false := by
    simpa using h.ids_ne_nil
  have hcount : decide (UInt64.size ≤ m.normalizedEventIds.length) = false :=
    decide_eq_false (not_le.2 (hlen.trans_lt (by decide)))
  rw [materializeThresholdSignal, hempty, hcount, thresholdInputs_eq _ _ 0 _ (by omega)]
  simp only [rejectIf_false, ok_bind]
  rw [validateSignal_thresholdSignal h hrule hversion hlen]

/-- A match of more events than `u32` counts never materializes. -/
theorem materializeThresholdSignal_eq_error
    (hlen : UInt32.size < m.normalizedEventIds.length)
    (hcount : m.normalizedEventIds.length < UInt64.size)
    (context : ThresholdSignalMaterializationContext) :
    materializeThresholdSignal m context =
      .error ⟨"inputs.ordinal", "input list exceeds uint32 ordinal capacity"⟩ := by
  have hempty : m.normalizedEventIds.isEmpty = false := by
    rw [List.isEmpty_eq_false_iff]
    intro hnil
    rw [hnil] at hlen
    exact absurd hlen (by decide)
  rw [materializeThresholdSignal, hempty, decide_eq_false (not_le.2 hcount),
    thresholdInputs_eq_error _ _ 0 _ (by decide) (by omega)]
  rfl

end
/-! ## SEQUENCE Findings -/

/-- The checks of `validate_finding` that look at the context. -/
def CorrelationFindingMaterializationContext.check
    (context : CorrelationFindingMaterializationContext) : Check := do
  validateUuidV7 "finding_id" context.findingId
  requireText "severity" context.severity
  requireConfidence context.confidence
  requireText "title" context.title
  requireText "description" context.description
  validateTimestamp "created_at" context.createdAt
  requireText "inputs.relation" context.inputRelation

/-- The inputs of a SEQUENCE Finding. -/
def findingInputs (findingId relation : String) (inputIds : List String) : List FindingInput :=
  inputIds.map fun signalId => ⟨findingId, signalInputType, signalId, relation⟩

/-- The loop over distinct identifiers checks the relation and nothing else. -/
theorem checkFindingInputs_findingInputs {findingId relation : String}
    (hrelation : isBlank relation = false) :
    ∀ {inputIds : List String} {seen : List (String × String × String)},
      (∀ id ∈ inputIds, validateUuidV7 "inputs.input_id" id = .ok ()) → inputIds.Nodup →
      (∀ id ∈ inputIds, (signalInputType, id, relation) ∉ seen) →
        checkFindingInputs findingId seen (findingInputs findingId relation inputIds) = .ok ()
  | [], _, _, _, _ => rfl
  | id :: inputIds, seen, huuid, hnodup, hfresh => by
      obtain ⟨hnot, hnodup⟩ := List.nodup_cons.1 hnodup
      have hinput : validateFindingInput findingId ⟨findingId, signalInputType, id, relation⟩ =
          .ok () := by
        simp only [validateFindingInput, requireText, check_bind_eq_ok, rejectIf_eq_ok]
        exact ⟨bne_self_eq_false _, by decide, huuid id List.mem_cons_self, hrelation⟩
      have hseen : seen.contains (signalInputType, id, relation) = false := by
        simpa using hfresh id List.mem_cons_self
      have hrest := @checkFindingInputs_findingInputs findingId relation hrelation inputIds
        ((signalInputType, id, relation) :: seen) (fun x hx => huuid x (List.mem_cons_of_mem _ hx)) hnodup fun x hx hmem => by
          obtain heq | hmem := List.mem_cons.1 hmem
          · exact hnot ((Prod.mk.inj (Prod.mk.inj heq).2).1 ▸ hx)
          · exact hfresh x (List.mem_cons_of_mem _ hx) hmem
      rw [findingInputs, List.map_cons, checkFindingInputs, hinput, ok_bind, hseen]
      exact hrest

/-- The loop over the identifiers of the provenance. -/
theorem checkProvenanceIds_eq_ok {findingInputIds : List String} :
    ∀ {inputIds seen : List String},
      (∀ id ∈ inputIds, validateUuidV7 "inputs.input_id" id = .ok ()) → inputIds.Nodup →
      (∀ id ∈ inputIds, id ∉ seen) → (∀ id ∈ inputIds, id ∈ findingInputIds) →
        checkProvenanceIds findingInputIds seen inputIds = .ok ()
  | [], _, _, _, _, _ => rfl
  | id :: inputIds, seen, huuid, hnodup, hfresh, hbacked => by
      obtain ⟨hnot, hnodup⟩ := List.nodup_cons.1 hnodup
      simp only [checkProvenanceIds, check_bind_eq_ok, rejectIf_eq_ok]
      refine ⟨validateUuidV7_field (huuid id List.mem_cons_self),
        by simpa using hfresh id List.mem_cons_self, by simpa using hbacked id List.mem_cons_self,
        checkProvenanceIds_eq_ok (fun x hx => huuid x (List.mem_cons_of_mem _ hx)) hnodup
          (fun x hx hmem => ?_) fun x hx => hbacked x (List.mem_cons_of_mem _ hx)⟩
      obtain rfl | hmem := List.mem_cons.1 hmem
      · exact hnot hx
      · exact hfresh x (List.mem_cons_of_mem _ hx) hmem

/-- A timestamp that passed under one name passes under another. -/
theorem validateTimestamp_twice (field field' : String) (t : Timestamp) {α : Type}
    (k : Except ContractViolation α) :
    (do validateTimestamp field t; validateTimestamp field' t; k) =
      (do validateTimestamp field t; k) := by
  match h : validateTimestamp field t with
  | .ok () =>
    rw [validateTimestamp_field h]
    rfl
  | .error _ => rfl

section

variable {m : SequenceCorrelationMatch}

/-- The inputs of a match: only the relation is looked at. -/
theorem validateInputs_sequenceCorrelationFinding (h : m.WellFormed)
    (context : CorrelationFindingMaterializationContext) :
    validateInputs (sequenceCorrelationFinding m context) =
      requireText "inputs.relation" context.inputRelation := by
  obtain ⟨id, ids, hids⟩ := List.exists_cons_of_ne_nil h.ids_ne_nil
  have huuid := h.ids_uuid id (hids ▸ List.mem_cons_self)
  have hne : (sequenceCorrelationFinding m context).inputs.isEmpty = false := by
    rw [sequenceCorrelationFinding, hids]
    rfl
  rw [validateInputs, hne]
  show checkFindingInputs context.findingId []
    (findingInputs context.findingId context.inputRelation m.inputSignalIds) = _
  cases hrelation : isBlank context.inputRelation with
  | true =>
    rw [hids, findingInputs, List.map_cons, checkFindingInputs, validateFindingInput]
    simp only [requireText, hrelation, bne_self_eq_false, huuid,
      show isBlank signalInputType = false by decide]
    rfl
  | false =>
    rw [checkFindingInputs_findingInputs hrelation h.ids_uuid h.ids_nodup (by simp), requireText,
      hrelation]
    rfl

/-- The provenance of a match holds whatever the context. -/
theorem validateTypeSpecificProvenance_sequenceCorrelationFinding (h : m.WellFormed)
    (context : CorrelationFindingMaterializationContext) :
    validateTypeSpecificProvenance (sequenceCorrelationFinding m context) = .ok () := by
  have hids : (sequenceCorrelationFinding m context).inputs.map FindingInput.inputId =
      m.inputSignalIds := by
    rw [sequenceCorrelationFinding, List.map_map]
    exact List.map_id' _
  have hloop : checkProvenanceIds ((sequenceCorrelationFinding m context).inputs.map
      FindingInput.inputId) [] m.inputSignalIds = .ok () := by
    rw [hids]
    exact checkProvenanceIds_eq_ok h.ids_uuid h.ids_nodup (by simp) fun _ hid => hid
  show validateCorrelationProvenance (sequenceCorrelationFinding m context) _ = .ok ()
  rw [validateCorrelationProvenance]
  simp only [check_bind_eq_ok, rejectIf_eq_ok]
  refine ⟨?_, ?_, by simpa using h.ids_ne_nil, hloop, bne_self_eq_false _, ?_,
    bne_self_eq_false _, ?_⟩
  · show validateProvenanceRule (sequenceCorrelationFinding m context) _ = .ok ()
    simp only [validateProvenanceRule, sequenceCorrelationFinding, check_bind_eq_ok,
      rejectIf_eq_ok, bne_self_eq_false, and_self]
  · simp only [validateProvenanceWindow, check_bind_eq_ok, rejectIf_eq_ok]
    exact ⟨validateTimestamp_field h.windowStart_valid, validateTimestamp_field h.windowEnd_valid,
      by simpa using h.start_le_end⟩
  · simpa using isMember_contractBackend m.executionBackend
  · simpa [requireText] using h.configurationHash_text

/-- **What is left of `validate_finding`** on the Finding of a match: the checks of its context. -/
theorem validateFinding_sequenceCorrelationFinding (h : m.WellFormed)
    (context : CorrelationFindingMaterializationContext) :
    validateFinding (sequenceCorrelationFinding m context) = context.check := by
  have hmode := isMember_number h.executionMode_ne
  have hid : requireText "correlation_rule_id" m.correlationRuleId = .ok () := by
    rw [requireText, h.ruleId_text]
    rfl
  have hversion : requireText "correlation_rule_version" m.correlationRuleVersion = .ok () := by
    rw [requireText, h.ruleVersion_text]
    rfl
  rw [validateFinding, validateInputs_sequenceCorrelationFinding h,
    validateTypeSpecificProvenance_sequenceCorrelationFinding h]
  simp only [sequenceCorrelationFinding, validateSeenPair, validateRequiredTimes,
    validateOptionalPair, validateRequiredTimestamp, h.tenantId_uuid, h.windowStart_valid,
    h.windowEnd_valid, h.start_le_end, hmode, hid, hversion, bind_assoc, ok_bind, Bool.not_true,
    rejectIf_false, show (!isMember 1 4 3) = false from rfl,
    show (!isMember 1 5 1) = false from rfl, show (!isMember 1 6 1) = false from rfl]
  rw [CorrelationFindingMaterializationContext.check]
  cases context.confidence with
  | some confidence =>
    simp only [requireConfidence, validateTimestamp_twice, bind_ok]
  | none =>
    simp only [requireConfidence, validateTimestamp_twice, bind_ok, ok_bind]

/-- **The materializer of a match is the check of its context**, and then the Finding. -/
theorem materializeSequenceCorrelationFinding_eq (h : m.WellFormed)
    (context : CorrelationFindingMaterializationContext) :
    materializeSequenceCorrelationFinding m context = do
      context.check
      return sequenceCorrelationFinding m context := by
  rw [materializeSequenceCorrelationFinding, validateFinding_sequenceCorrelationFinding h]

end

/-! ## Materializing what was emitted -/

/-- **A Signal says what its match says.** -/
structure ThresholdSignalProvenance.ReportedBy {RuleVersion : Type} [ToString RuleVersion]
    (m : ThresholdSignalProvenance RuleVersion) (signal : Signal) : Prop where
  valid : validateSignal signal = .ok ()
  inputIds_eq : signal.inputs.map SignalInput.inputId = m.normalizedEventIds
  ordinals_eq : signal.inputs.map SignalInput.ordinal = List.range m.normalizedEventIds.length
  eventCount_eq : signal.eventCount = m.normalizedEventIds.length
  tenantId_eq : signal.tenantId = m.tenantId
  ruleId_eq : signal.ruleId = m.ruleId.value
  ruleVersion_eq : signal.ruleVersion = toString m.ruleVersion
  firstObservedAt_eq : signal.firstObservedAt = some m.firstObservedAt
  lastObservedAt_eq : signal.lastObservedAt = some m.lastObservedAt
  executionMode_eq : signal.executionMode = m.executionMode.number
  provenance_eq : signal.provenance =
    some ⟨some m.evaluatedAt, contractBackend m.executionBackend⟩

/-- **A Finding says what its match says.** -/
structure SequenceCorrelationMatch.ReportedBy (m : SequenceCorrelationMatch) (finding : Finding) :
    Prop where
  valid : validateFinding finding = .ok ()
  inputIds_eq : finding.inputs.map FindingInput.inputId = m.inputSignalIds
  tenantId_eq : finding.tenantId = m.tenantId
  ruleId_eq : finding.correlationRuleId = some m.correlationRuleId
  ruleVersion_eq : finding.correlationRuleVersion = some m.correlationRuleVersion
  firstSeen_eq : finding.firstSeen = some m.windowStart
  lastSeen_eq : finding.lastSeen = some m.windowEnd
  executionMode_eq : finding.executionMode = m.executionMode.number
  provenance_eq : finding.correlationProvenance = some
    { correlationRuleId := m.correlationRuleId
      correlationRuleVersion := m.correlationRuleVersion
      windowStart := some m.windowStart
      windowEnd := some m.windowEnd
      inputIds := m.inputSignalIds
      outputFindingId := finding.findingId
      executionBackend := contractBackend m.executionBackend
      executionMode := m.executionMode.number
      configurationHash := m.configurationHash }

/-- The fields a context check names. -/
def thresholdContextFields : List String :=
  ["signal_id", "severity", "confidence", "created_at", "source_count", "summary",
    "inputs.relation"]

def findingContextFields : List String :=
  ["finding_id", "severity", "confidence", "title", "description", "created_at",
    "inputs.relation"]

/-- A failing check names its field. -/
theorem field_of_rejectIf {bad : Bool} {field reason : String} {v : ContractViolation}
    (h : rejectIf bad field reason = .error v) : v.field = field := by
  match bad, h with
  | true, h => exact (Except.error.inj h) ▸ rfl

theorem field_of_validateUuidV7 {field value : String} {v : ContractViolation}
    (h : validateUuidV7 field value = .error v) : v.field = field := by
  simp only [validateUuidV7, bind_eq_error] at h
  obtain h | ⟨_, -, h | ⟨_, -, h | ⟨_, -, h⟩⟩⟩ := h
  all_goals exact field_of_rejectIf h

theorem field_of_validateTimestamp {field : String} {t : Timestamp} {v : ContractViolation}
    (h : validateTimestamp field t = .error v) : v.field = field := by
  simp only [validateTimestamp, bind_eq_error] at h
  obtain h | ⟨_, -, h⟩ := h
  all_goals exact field_of_rejectIf h

theorem field_of_requireConfidence {value : Option String} {v : ContractViolation}
    (h : requireConfidence value = .error v) : v.field = "confidence" := by
  match value, h with
  | some _, h => exact field_of_rejectIf h

theorem ThresholdSignalMaterializationContext.field_of_check
    {context : ThresholdSignalMaterializationContext} {eventCount : ℕ} {v : ContractViolation}
    (h : context.check eventCount = .error v) : v.field ∈ thresholdContextFields := by
  simp only [check, requireText, bind_eq_error] at h
  obtain h | ⟨_, -, h | ⟨_, -, h | ⟨_, -, h | ⟨_, -, h | ⟨_, -, h | ⟨_, -, h | ⟨_, -, h⟩⟩⟩⟩⟩⟩⟩ := h
  · exact field_of_validateUuidV7 h ▸ by decide
  · exact field_of_rejectIf h ▸ by decide
  · exact field_of_requireConfidence h ▸ by decide
  · exact field_of_validateTimestamp h ▸ by decide
  all_goals exact field_of_rejectIf h ▸ by decide

theorem CorrelationFindingMaterializationContext.field_of_check
    {context : CorrelationFindingMaterializationContext} {v : ContractViolation}
    (h : context.check = .error v) : v.field ∈ findingContextFields := by
  simp only [check, requireText, bind_eq_error] at h
  obtain h | ⟨_, -, h | ⟨_, -, h | ⟨_, -, h | ⟨_, -, h | ⟨_, -, h | ⟨_, -, h⟩⟩⟩⟩⟩⟩ := h
  · exact field_of_validateUuidV7 h ▸ by decide
  · exact field_of_rejectIf h ▸ by decide
  · exact field_of_requireConfidence h ▸ by decide
  · exact field_of_rejectIf h ▸ by decide
  · exact field_of_rejectIf h ▸ by decide
  · exact field_of_validateTimestamp h ▸ by decide
  · exact field_of_rejectIf h ▸ by decide

section

variable {RuleVersion : Type} [ToString RuleVersion] {m : ThresholdSignalProvenance RuleVersion}

theorem reportedBy_thresholdSignal {context : ThresholdSignalMaterializationContext}
    (h : validateSignal (thresholdSignal m context
      (numberedInputs context.signalId context.inputRelation 0 m.normalizedEventIds)) = .ok ()) :
    m.ReportedBy (thresholdSignal m context
      (numberedInputs context.signalId context.inputRelation 0 m.normalizedEventIds)) where
  valid := h
  inputIds_eq := map_inputId_numberedInputs _ _ _ _
  ordinals_eq := map_ordinal_numberedInputs _ _ _
  eventCount_eq := rfl
  tenantId_eq := rfl
  ruleId_eq := rfl
  ruleVersion_eq := rfl
  firstObservedAt_eq := rfl
  lastObservedAt_eq := rfl
  executionMode_eq := rfl
  provenance_eq := rfl

/-- A well-formed match that `u32` can number materializes unless its context is refused. -/
theorem ThresholdSignalProvenance.WellFormed.materializes (h : m.WellFormed)
    (hrule : isNumberedId ruleIdPrefix m.ruleId.value ruleIdDigits)
    (hversion : isBlank (toString m.ruleVersion) = false)
    (hlen : m.normalizedEventIds.length ≤ UInt32.size)
    (context : ThresholdSignalMaterializationContext) :
    (∀ violation, materializeThresholdSignal m context = .error violation ↔
      context.check m.normalizedEventIds.length = .error violation) ∧
    ∀ signal, materializeThresholdSignal m context = .ok signal → m.ReportedBy signal := by
  have hvalidate := validateSignal_thresholdSignal h hrule hversion hlen context
  rw [materializeThresholdSignal_eq h hrule hversion hlen]
  match hcheck : context.check m.normalizedEventIds.length with
  | .error e =>
    refine ⟨fun _ => ?_, fun _ h => nomatch h⟩
    rw [error_bind, Except.error.injEq, Except.error.injEq]
  | .ok () =>
    refine ⟨fun _ => ⟨fun h => (nomatch h), fun h => (nomatch h)⟩, fun signal hsignal => ?_⟩
    obtain rfl := Except.ok.inj hsignal
    exact reportedBy_thresholdSignal (hvalidate.trans hcheck)

end

theorem reportedBy_sequenceCorrelationFinding {m : SequenceCorrelationMatch}
    {context : CorrelationFindingMaterializationContext}
    (h : validateFinding (sequenceCorrelationFinding m context) = .ok ()) :
    m.ReportedBy (sequenceCorrelationFinding m context) where
  valid := h
  inputIds_eq := by
    rw [sequenceCorrelationFinding, List.map_map]
    exact List.map_id' _
  tenantId_eq := rfl
  ruleId_eq := rfl
  ruleVersion_eq := rfl
  firstSeen_eq := rfl
  lastSeen_eq := rfl
  executionMode_eq := rfl
  provenance_eq := rfl

/-- A well-formed match materializes unless its context is refused. -/
theorem SequenceCorrelationMatch.WellFormed.materializes {m : SequenceCorrelationMatch}
    (h : m.WellFormed) (context : CorrelationFindingMaterializationContext) :
    (∀ violation, materializeSequenceCorrelationFinding m context = .error violation ↔
      context.check = .error violation) ∧
    ∀ finding, materializeSequenceCorrelationFinding m context = .ok finding →
      m.ReportedBy finding := by
  have hvalidate := validateFinding_sequenceCorrelationFinding h context
  rw [materializeSequenceCorrelationFinding_eq h]
  match hcheck : context.check with
  | .error e =>
    refine ⟨fun _ => ?_, fun _ h => nomatch h⟩
    rw [error_bind, Except.error.injEq, Except.error.injEq]
  | .ok () =>
    refine ⟨fun _ => ⟨fun h => (nomatch h), fun h => (nomatch h)⟩, fun finding hfinding => ?_⟩
    obtain rfl := Except.ok.inj hfinding
    exact reportedBy_sequenceCorrelationFinding (hvalidate.trans hcheck)

/-- **Emitted matches materialize.**  A THRESHOLD match of no more events than `u32` numbers, whose
plan names the rule as the contract wants it, and every SEQUENCE match: the materializer fails
exactly with the violation of the context's own check, which names a field of the context, and what
it builds is valid and says what the match says. -/
theorem emitted_materializes :
    (∀ {Field RuleValue RuleVersion Plan Profile GroupKey Error : Type} [AsRefStr Field]
      [ToString RuleVersion] [EventExecutionPlanView Plan Field RuleValue]
      [EventSignalExecutionPlanView Plan RuleVersion] [LinearOrder GroupKey]
      (plan : CompiledThresholdExecutionPlan Plan Profile Field)
      (policy : ThresholdEvaluationPolicy Field RuleValue GroupKey Error)
      (events : List NormalizedEvent) (executionMode : ExecutionMode) (evaluatedAt : Timestamp)
      (found : List (ThresholdSignalProvenance RuleVersion)),
      isNumberedId ruleIdPrefix
        (EventSignalExecutionPlanView.signalRuleId plan.filter.plan).value ruleIdDigits →
      isBlank (toString
        (EventSignalExecutionPlanView.signalRuleVersion plan.filter.plan : RuleVersion)) = false →
      evaluateThresholdNormalizedEvents plan events executionMode evaluatedAt policy =
        .ok found →
      ∀ m ∈ found, m.normalizedEventIds.length ≤ UInt32.size →
        ∀ context : ThresholdSignalMaterializationContext,
          (∀ violation, materializeThresholdSignal m context = .error violation ↔
            context.check m.normalizedEventIds.length = .error violation) ∧
          (∀ violation, materializeThresholdSignal m context = .error violation →
            violation.field ∈ thresholdContextFields) ∧
          ∀ signal, materializeThresholdSignal m context = .ok signal → m.ReportedBy signal) ∧
    ∀ {Stage JoinKey Ordering GroupKey OrderKey Error : Type} [LinearOrder GroupKey]
      [LinearOrder OrderKey] (plan : CompiledSequenceCorrelationPlan Stage JoinKey Ordering)
      (policy : SequenceCorrelationEvaluationPolicy Stage JoinKey Ordering GroupKey OrderKey Error)
      (signals : List Signal) (executionMode : ExecutionMode)
      (found : List SequenceCorrelationMatch),
      evaluateSequenceSignals plan signals executionMode policy = .ok found →
      ∀ m ∈ found, ∀ context : CorrelationFindingMaterializationContext,
        (∀ violation, materializeSequenceCorrelationFinding m context = .error violation ↔
          context.check = .error violation) ∧
        (∀ violation, materializeSequenceCorrelationFinding m context = .error violation →
          violation.field ∈ findingContextFields) ∧
        ∀ finding, materializeSequenceCorrelationFinding m context = .ok finding →
          m.ReportedBy finding := by
  constructor
  · intro _ _ _ _ _ _ _ _ _ _ _ _ plan policy events executionMode evaluatedAt found hrule
      hversion h m hm hlen context
    obtain ⟨hform, hruleId, hruleVersion, -⟩ := wellFormed_of_evaluateThreshold h hm
    obtain ⟨hfails, hreports⟩ := hform.materializes (hruleId ▸ hrule) (hruleVersion ▸ hversion)
      hlen context
    exact ⟨hfails, fun v hv => context.field_of_check ((hfails v).1 hv), hreports⟩
  · intro _ _ _ _ _ _ _ _ plan policy signals executionMode found h m hm context
    obtain ⟨hfails, hreports⟩ := (wellFormed_of_evaluateSequence h hm).1.materializes context
    exact ⟨hfails, fun v hv => context.field_of_check ((hfails v).1 hv), hreports⟩

/-! ## Runs -/

def sampleThresholdContext : ThresholdSignalMaterializationContext where
  signalId := "01890a5d-ac96-774b-bcce-b302099a8100"
  severity := "high"
  confidence := none
  summary := "two logons within a second"
  inputRelation := "contributing"
  createdAt := ⟨11, 0⟩
  sourceCount := 1

def sampleFindingContext : CorrelationFindingMaterializationContext where
  findingId := "01890a5d-ac96-774b-bcce-b302099a8200"
  severity := "high"
  confidence := some "medium"
  title := "a sequence"
  description := "one rule after the other"
  inputRelation := "contributing"
  createdAt := ⟨50, 0⟩

/-- The match of the sample events. -/
def sampleThresholdMatch : ThresholdSignalProvenance String :=
  ⟨⟨"CER-DET-000001"⟩, "1", "01890a5d-ac96-774b-bcce-b302099a8057",
    ["01890a5d-ac96-774b-bcce-b302099a8001", "01890a5d-ac96-774b-bcce-b302099a8002"],
    ⟨0, 0⟩, ⟨1, 0⟩, ⟨10, 0⟩, .clickHouse, .live⟩

theorem emitted_materializes_sample :
    sampleThresholdMatch.ReportedBy (thresholdSignal sampleThresholdMatch sampleThresholdContext
      (numberedInputs sampleThresholdContext.signalId sampleThresholdContext.inputRelation 0
        sampleThresholdMatch.normalizedEventIds)) ∧
    sampleSequenceMatch.ReportedBy
      (sequenceCorrelationFinding sampleSequenceMatch sampleFindingContext) := by
  have hsignal := (emitted_materializes.1 (samplePlan 2 (by decide) (by decide)) samplePolicy
    sampleEvents .live ⟨10, 0⟩ _ (by decide) (by decide) evaluateThreshold_sampleEvents
    sampleThresholdMatch List.mem_cons_self (by decide) sampleThresholdContext).2.2
  have hfinding := (emitted_materializes.2 sampleSequencePlan sampleSequencePolicy sampleSignals
    .live _ evaluateSequence_sample sampleSequenceMatch List.mem_cons_self
    sampleFindingContext).2.2
  refine ⟨hsignal _ (by decide +kernel), hfinding _ ?_⟩
  have hvalid : validateFinding (sequenceCorrelationFinding sampleSequenceMatch
    sampleFindingContext) = .ok () := by decide +kernel
  rw [materializeSequenceCorrelationFinding, hvalid]
  rfl

/-! ## More events than ordinals -/

/-- The `index`-th of many identifiers. -/
def manyId (index : ℕ) : UuidV7 := ⟨0, 0, ⟨index % 2 ^ 62, Nat.mod_lt _ (by decide)⟩⟩

/-- Logons of `root` at one moment. -/
def manyEvents (count : ℕ) : List NormalizedEvent :=
  (List.range count).map fun index => sampleEvent (manyId index).text 0

theorem manyId_text_inj {i j : ℕ} (hi : i < 2 ^ 62) (hj : j < 2 ^ 62)
    (h : (manyId i).text = (manyId j).text) : i = j := by
  have hrand := congrArg (fun id => (UuidV7.randB id : ℕ)) (UuidV7.text_injective h)
  have hmod : i % 2 ^ 62 = j % 2 ^ 62 := hrand
  rwa [Nat.mod_eq_of_lt hi, Nat.mod_eq_of_lt hj] at hmod

/-- What a logon contributes does not depend on its identifier. -/
theorem participation_sampleEvent (threshold : ℕ) (pos : 0 < threshold) (lt : threshold < 2 ^ 64)
    (id : String) :
    participation (samplePlan threshold pos lt) samplePolicy (sampleEvent id 0) =
      .ok (some ("root", 0)) := by
  show participation (samplePlan 1 (by decide) (by decide)) samplePolicy (sampleEvent "" 0) = _
  decide +kernel

section

variable {count : ℕ}

theorem nodup_manyEvents (hlt : count < 2 ^ 62) :
    ((manyEvents count).map NormalizedEvent.normalizedEventId).Nodup := by
  rw [manyEvents, List.map_map]
  refine List.Nodup.map_on (fun i hi j hj hij => ?_) List.nodup_range
  exact manyId_text_inj ((List.mem_range.1 hi).trans hlt) ((List.mem_range.1 hj).trans hlt) hij

variable {threshold : ℕ} (pos : 0 < threshold) (lt : threshold < 2 ^ 64)

theorem admissible_manyEvents :
    ∀ event ∈ manyEvents count, Admissible (samplePlan threshold pos lt) samplePolicy event := by
  intro event hevent
  obtain ⟨index, -, rfl⟩ := List.mem_map.1 hevent
  refine ⟨check_bind_eq_ok.2 ⟨validateUuidV7_text _ _, ?_⟩, _, participation_sampleEvent _ _ _ _⟩
  show validateUuidV7 "tenant_id" "01890a5d-ac96-774b-bcce-b302099a8057" = .ok ()
  decide +kernel

/-- The only group, and its candidates. -/
theorem matching_manyEvents {key : String ×ₗ String} {candidate : Candidate} :
    Matching (samplePlan threshold pos lt) samplePolicy {e | e ∈ manyEvents count} key candidate ↔
      key = toLex ("01890a5d-ac96-774b-bcce-b302099a8057", "root") ∧
        ∃ index < count, candidate = ⟨(manyId index).text, 0⟩ := by
  constructor
  · rintro ⟨event, hevent, hid, htenant, hpart⟩
    obtain ⟨index, hindex, rfl⟩ := List.mem_map.1 hevent
    rw [participation_sampleEvent] at hpart
    obtain ⟨hkey, htime⟩ := Prod.mk.inj (Option.some.inj (Except.ok.inj hpart))
    refine ⟨?_, index, List.mem_range.1 hindex, ?_⟩
    · exact ofLex.injective (Prod.ext htenant.symm hkey.symm)
    · obtain ⟨id, time⟩ := candidate
      obtain rfl : 0 = time := htime
      obtain rfl : (manyId index).text = id := hid
      rfl
  · rintro ⟨rfl, index, hindex, rfl⟩
    exact ⟨_, List.mem_map_of_mem (List.mem_range.2 hindex), rfl, rfl,
      participation_sampleEvent _ _ _ _⟩

/-- As many events as the threshold asks for reach it. -/
theorem reaches_manyEvents (hlt : count < 2 ^ 62) (hle : threshold ≤ count) :
    Reaches (samplePlan threshold pos lt) samplePolicy {e | e ∈ manyEvents count}
      (toLex ("01890a5d-ac96-774b-bcce-b302099a8057", "root")) := by
  refine ⟨(Finset.range count).image fun index => ⟨(manyId index).text, 0⟩, ?_, ?_, ?_⟩
  · rw [Finset.card_image_of_injOn, Finset.card_range]
    · exact hle
    · intro i hi j hj hij
      simp only [Finset.coe_range, Set.mem_Iio] at hi hj
      exact manyId_text_inj (hi.trans hlt) (hj.trans hlt) (congrArg Candidate.normalizedEventId hij)
  · intro candidate hmem
    obtain ⟨index, hindex, rfl⟩ := Finset.mem_image.1 hmem
    exact (matching_manyEvents pos lt).2 ⟨rfl, index, Finset.mem_range.1 hindex, rfl⟩
  · intro a ha b hb
    obtain ⟨i, -, rfl⟩ := Finset.mem_image.1 ha
    obtain ⟨j, -, rfl⟩ := Finset.mem_image.1 hb
    exact Int.natCast_nonneg _

/-- **As many events as the threshold asks for are a match**, and all of them contribute. -/
theorem exists_match_manyEvents (hlt : count < 2 ^ 62) (hle : threshold ≤ count) :
    ∃ found : List (ThresholdSignalProvenance String),
      evaluateThresholdNormalizedEvents (samplePlan threshold pos lt) (manyEvents count) .live
        ⟨10, 0⟩ samplePolicy = .ok found ∧
      ∃ m ∈ found, m.normalizedEventIds.length = threshold := by
  have hcoh := coherent_of_nodup (nodup_manyEvents hlt)
  have hrequest : (checkRequest (samplePlan threshold pos lt) .live ⟨10, 0⟩ :
      Except (ThresholdEvaluationError Unit) Unit) = .ok () := by
    simp only [checkRequest, check_bind_eq_ok, liftCheck_eq_ok]
    refine ⟨by decide, ?_⟩
    rw [if_neg (by decide)]
    simp only [check_bind_eq_ok, liftCheck_eq_ok, rejectIf_eq_ok]
    exact ⟨decide_eq_false (not_le.2 lt), decide_eq_false (show ¬ 2 ^ 63 ≤ 1000 by decide)⟩
  obtain ⟨found, hfound⟩ := (exists_evaluateThreshold_eq_ok_iff hcoh).2
    ⟨hrequest, admissible_manyEvents pos lt, fun key contributors first last m hm => by
      have hzero : ∀ candidate ∈ contributors, candidate.eventTimeMillis = 0 := by
        intro candidate hmem
        obtain ⟨-, index, -, rfl⟩ := (matching_manyEvents pos lt).1 ((hm.mem_iff candidate).1 hmem).1
        rfl
      rw [ThresholdSignalProvenance.TimesValid, hm.firstObservedAt_eq, hm.lastObservedAt_eq,
        hzero first (List.mem_of_head? hm.head_eq), hzero last (List.mem_of_getLast? hm.getLast_eq)]
      decide⟩
  refine ⟨found, hfound, ?_⟩
  obtain ⟨state, hholds, -⟩ := evaluateThreshold_eq_ok hcoh hfound
  have hreaches := reaches_manyEvents pos lt hlt hle
  obtain ⟨candidates, hget⟩ := hholds.exists_get hreaches
  obtain ⟨window, hwin⟩ := Option.isSome_iff_exists.1 ((hholds.windowOf_isSome hget).2 hreaches)
  obtain ⟨first, last, hmatch⟩ := hholds.earliestMatch hget hwin .live ⟨10, 0⟩
  refine ⟨_, (mem_evaluateThreshold hcoh hfound).2 ⟨_, window, first, last, hmatch, rfl⟩, ?_⟩
  rw [hmatch.normalizedEventIds_eq, List.length_map, hmatch.length_eq]
  rfl

end

/-- **A match of `2 ^ 32 + 1` events is refused by every context**, although its rule is named as
the contract wants it. -/
theorem not_materializes_manyEvents :
    ∃ found : List (ThresholdSignalProvenance String),
      evaluateThresholdNormalizedEvents (samplePlan 4294967297 (by decide) (by decide))
        (manyEvents 4294967297) .live ⟨10, 0⟩ samplePolicy = .ok found ∧
      ∃ m ∈ found, isNumberedId ruleIdPrefix m.ruleId.value ruleIdDigits ∧
        isBlank m.ruleVersion = false ∧ ∀ context, materializeThresholdSignal m context =
          .error ⟨"inputs.ordinal", "input list exceeds uint32 ordinal capacity"⟩ := by
  obtain ⟨found, hfound, m, hm, hlen⟩ := @exists_match_manyEvents 4294967297 4294967297
    (by decide) (by decide) (by decide) le_rfl
  obtain ⟨-, hrule, hversion, -⟩ := wellFormed_of_evaluateThreshold hfound hm
  refine ⟨found, hfound, m, hm, ?_, ?_, materializeThresholdSignal_eq_error ?_ ?_⟩
  · rw [hrule]
    decide
  · rw [hversion]
    decide
  · rw [hlen]
    decide
  · rw [hlen]
    decide

end Detection

end Cerbero
