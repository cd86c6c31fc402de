import Cerbero.Detection.SequenceOrder
import Cerbero.Detection.ThresholdExact

/-!
# Detection/Tenants — the tenants of one evaluation do not see each other

Groups are keyed by tenant first, so the loop over the inputs of one tenant builds the part of the
groups that has its keys, and the loop over the groups finds its matches there: both for THRESHOLD
(`evaluateThreshold_tenant`) and for SEQUENCE (`evaluateSequence_tenant`).
-/

namespace Cerbero

namespace Detection

/-- A group is one of a tenant. -/
def ofTenant {GroupKey : Type} (tenantId : String) (key : String ×ₗ GroupKey) : Bool :=
  (ofLex key).1 == tenantId

theorem ofTenant_toLex {GroupKey : Type} (tenantId owner : String) (groupKey : GroupKey) :
    ofTenant tenantId (toLex (owner, groupKey)) = (owner == tenantId) := rfl

/-! ## THRESHOLD -/

section

variable {Field RuleValue RuleVersion Plan Profile GroupKey Error : Type} [AsRefStr Field]
  [EventExecutionPlanView Plan Field RuleValue] [EventSignalExecutionPlanView Plan RuleVersion]
  [LinearOrder GroupKey]
  {plan : CompiledThresholdExecutionPlan Plan Profile Field}
  {policy : ThresholdEvaluationPolicy Field RuleValue GroupKey Error}

/-- **The loop over the events of a tenant** builds the groups of the tenant. -/
theorem collect_tenant (tenantId : String) :
    ∀ {events : List NormalizedEvent} {state state' part : Collected GroupKey},
      (events.map NormalizedEvent.normalizedEventId).Nodup →
      (∀ e ∈ events, e.normalizedEventId ∉ state.seenEventIds) →
      (∀ e ∈ events, e.normalizedEventId ∉ part.seenEventIds) →
      part.groups = state.groups.filter (fun key _ => ofTenant tenantId key) →
      collect plan policy state events = .ok state' →
      ∃ part', collect plan policy part (events.filter (·.tenantId == tenantId)) = .ok part' ∧
        part'.groups = state'.groups.filter fun key _ => ofTenant tenantId key
  | [], state, state', part, _, _, _, hgroups, h => by
      obtain rfl := Except.ok.inj h
      exact ⟨part, rfl, hgroups⟩
  | event :: events, state, state', part, hnodup, hnew, hnewPart, hgroups, h => by
      rw [List.map_cons, List.nodup_cons] at hnodup
      obtain ⟨next, hnext, h⟩ := bind_eq_ok.1 h
      obtain ⟨hcheck, hseen | ⟨hunseen, o, ho, rfl⟩⟩ := collectEvent_eq_ok.1 hnext
      · exact absurd hseen.1 (hnew event List.mem_cons_self)
      have hfresh : ∀ (before : Collected GroupKey), (∀ e ∈ event :: events,
          e.normalizedEventId ∉ before.seenEventIds) →
          ∀ e ∈ events, e.normalizedEventId ∉ (before.record event o).seenEventIds := by
        intro before hbefore e he hmem
        obtain heq | hmem := mem_seenEventIds_record.1 hmem
        · exact hnodup.1 (heq ▸ List.mem_map_of_mem he)
        · exact hbefore e (List.mem_cons_of_mem _ he) hmem
      have hpartRest : ∀ e ∈ events, e.normalizedEventId ∉ part.seenEventIds :=
        fun e he => hnewPart e (List.mem_cons_of_mem _ he)
      by_cases htenant : event.tenantId = tenantId
      · have hrecord : (part.record event o).groups =
            (state.record event o).groups.filter fun key _ => ofTenant tenantId key := by
          match o with
          | none => exact hgroups
          | some (groupKey, time) =>
            simp only [Collected.record, hgroups]
            rw [SortedMap.filter_push]
            rw [ofTenant_toLex, htenant, beq_self_eq_true]
        obtain ⟨part', hpart', hfinal⟩ := collect_tenant tenantId hnodup.2 (hfresh state hnew)
          (hfresh part hnewPart) hrecord h
        have hstep : collectEvent plan policy part event = .ok (part.record event o) :=
          collectEvent_eq_ok.2 ⟨hcheck, .inr ⟨hnewPart event List.mem_cons_self, o, ho, rfl⟩⟩
        refine ⟨part', ?_, hfinal⟩
        rw [List.filter_cons_of_pos (by simp [htenant])]
        exact bind_eq_ok.2 ⟨_, hstep, hpart'⟩
      · have hrecord : part.groups =
            (state.record event o).groups.filter fun key _ => ofTenant tenantId key := by
          match o with
          | none => exact hgroups
          | some (groupKey, time) =>
            simp only [Collected.record, hgroups]
            rw [SortedMap.filter_push_of_not]
            rw [ofTenant_toLex, beq_eq_false_iff_ne]
            exact htenant
        rw [List.filter_cons_of_neg (by simp [htenant])]
        exact collect_tenant tenantId hnodup.2 (hfresh state hnew) hpartRest hrecord h

/-- A match is one of the tenant of its group. -/
theorem tenantId_matchOfSorted {executionMode : ExecutionMode} {evaluatedAt : Timestamp}
    {owner : String} {candidates : List Candidate} {found : ThresholdSignalProvenance RuleVersion}
    (h : (matchOfSorted plan executionMode evaluatedAt owner candidates :
      Except (ThresholdEvaluationError Error) _) = .ok (some found)) : found.tenantId = owner := by
  rw [matchOfSorted] at h
  split at h
  · obtain ⟨-, -, h⟩ := bind_eq_ok.1 h
    obtain ⟨-, -, h⟩ := bind_eq_ok.1 h
    obtain rfl := Option.some.inj (Except.ok.inj h)
    rfl
  · exact nomatch h

/-- **The matches of a tenant are the matches of its events.** -/
theorem evaluateThreshold_tenant {events : List NormalizedEvent} {executionMode : ExecutionMode}
    {evaluatedAt : Timestamp} {found : List (ThresholdSignalProvenance RuleVersion)}
    (tenantId : String) (hids : (events.map NormalizedEvent.normalizedEventId).Nodup)
    (h : evaluateThresholdNormalizedEvents plan events executionMode evaluatedAt policy =
      .ok found) :
    evaluateThresholdNormalizedEvents plan (events.filter (·.tenantId == tenantId)) executionMode
      evaluatedAt policy = .ok (found.filter (·.tenantId == tenantId)) := by
  obtain ⟨hrequest, h⟩ := check_bind_eq_ok.1 h
  obtain ⟨state, hstate, h⟩ := bind_eq_ok.1 h
  have hunseen : ∀ e ∈ events, e.normalizedEventId ∉
      (⟨[], SortedMap.empty⟩ : Collected GroupKey).seenEventIds := by simp
  obtain ⟨part, hpart, hgroups⟩ := collect_tenant tenantId hids hunseen hunseen rfl hstate
  refine check_bind_eq_ok.2 ⟨hrequest, bind_eq_ok.2 ⟨part, hpart, ?_⟩⟩
  rw [hgroups]
  exact filterMapOk_filter (fun group m hm => by
    rw [tenantId_matchOfSorted hm]
    rfl) h

end

/-! ## SEQUENCE -/

section

variable {Stage JoinKey Ordering GroupKey OrderKey Error : Type} [LinearOrder GroupKey]
  [LinearOrder OrderKey] {plan : CompiledSequenceCorrelationPlan Stage JoinKey Ordering}
  {policy : SequenceCorrelationEvaluationPolicy Stage JoinKey Ordering GroupKey OrderKey Error}
  {executionMode : ExecutionMode}

/-- The unique Signals of a tenant. -/
theorem validateUniqueSignals_tenant (tenantId : String) {signals : List Signal}
    {unique : SortedMap String Signal}
    (h : validateUniqueSignals signals executionMode = .ok unique) :
    validateUniqueSignals (signals.filter (·.tenantId == tenantId)) executionMode =
      .ok (unique.filter fun _ signal => signal.tenantId == tenantId) := by
  obtain ⟨hadmitted, hagree⟩ := validateUniqueSignals_isOk.1 ⟨unique, h⟩
  obtain ⟨part, hpart⟩ : ∃ part, validateUniqueSignals (signals.filter (·.tenantId == tenantId))
      executionMode = .ok part :=
    validateUniqueSignals_isOk.2 ⟨fun s hs => hadmitted s (List.mem_of_mem_filter hs),
      fun a ha b hb => hagree a (List.mem_of_mem_filter ha) b (List.mem_of_mem_filter hb)⟩
  rw [hpart]
  refine congrArg Except.ok (SortedMap.ext_get? fun id => Option.ext fun s => ?_)
  rw [get?_validateUniqueSignals hpart, SortedMap.get?_filter, Option.filter_eq_some_iff,
    get?_validateUniqueSignals h, List.mem_filter, and_right_comm]

omit [LinearOrder OrderKey] in
/-- **The loop over the Signals of a tenant** builds the groups of the tenant. -/
theorem collectSequenceCandidates_tenant (tenantId : String) :
    ∀ {signals : List Signal} {groups result : CandidateGroups GroupKey OrderKey},
      collectSequenceCandidates plan policy groups signals = .ok result →
      collectSequenceCandidates plan policy
          (groups.filter fun key _ => ofTenant tenantId key)
          (signals.filter (·.tenantId == tenantId)) =
        .ok (result.filter fun key _ => ofTenant tenantId key)
  | [], groups, result, h => by
      obtain rfl := Except.ok.inj h
      rfl
  | signal :: signals, groups, result, h => by
      obtain ⟨o, ho, h⟩ := bind_eq_ok.1 h
      by_cases htenant : signal.tenantId = tenantId
      · rw [List.filter_cons_of_pos (by simp [htenant])]
        refine bind_eq_ok.2 ⟨o, ho, ?_⟩
        match o, h with
        | none, h => exact collectSequenceCandidates_tenant tenantId h
        | some (groupKey, candidate), h =>
          have htail := collectSequenceCandidates_tenant tenantId h
          rwa [SortedMap.filter_push _ _ _
            (by rw [ofTenant_toLex, htenant, beq_self_eq_true])] at htail
      · rw [List.filter_cons_of_neg (by simp [htenant])]
        match o, h with
        | none, h => exact collectSequenceCandidates_tenant tenantId h
        | some (groupKey, candidate), h =>
          have htail := collectSequenceCandidates_tenant tenantId h
          rwa [SortedMap.filter_push_of_not _ _ _
            (by rw [ofTenant_toLex, beq_eq_false_iff_ne]; exact htenant)] at htail

/-- A match is one of the tenant of its group. -/
theorem tenantId_sequenceOfGroup {owner : String} {candidates : List (SequenceCandidate OrderKey)}
    {found : SequenceCorrelationMatch}
    (h : (sequenceOfGroup plan executionMode owner candidates :
      Except (SequenceCorrelationEvaluationError Error) _) = .ok (some found)) :
    found.tenantId = owner := by
  rw [sequenceOfGroup] at h
  split at h
  · obtain ⟨-, -, h⟩ := bind_eq_ok.1 h
    obtain ⟨-, -, h⟩ := bind_eq_ok.1 h
    obtain rfl := Option.some.inj (Except.ok.inj h)
    rfl
  · exact nomatch h

/-- **The matches of a tenant are the matches of its Signals.** -/
theorem evaluateSequence_tenant {signals : List Signal} {found : List SequenceCorrelationMatch}
    (tenantId : String)
    (h : evaluateSequenceSignals plan signals executionMode policy = .ok found) :
    evaluateSequenceSignals plan (signals.filter (·.tenantId == tenantId)) executionMode policy =
      .ok (found.filter (·.tenantId == tenantId)) := by
  obtain ⟨hmode, unique, groups, hunique, hgroups, h⟩ := evaluateSequenceSignals_eq_ok.1 h
  have hpart := collectSequenceCandidates_tenant tenantId hgroups
  rw [SortedMap.filter_empty, List.filter_map] at hpart
  refine evaluateSequenceSignals_eq_ok.2 ⟨hmode, _, _, validateUniqueSignals_tenant tenantId hunique,
    hpart, ?_⟩
  exact filterMapOk_filter (fun group m hm => by
    rw [tenantId_sequenceOfGroup hm]
    rfl) h

end

/-! ## Both -/

/-- **Tenants do not influence each other's detections.** -/
theorem evaluate_tenant (tenantId : String) (executionMode : ExecutionMode) :
    (∀ (Field RuleValue RuleVersion Plan Profile GroupKey Error : Type) [AsRefStr Field]
      [EventExecutionPlanView Plan Field RuleValue] [EventSignalExecutionPlanView Plan RuleVersion]
      [LinearOrder GroupKey] (plan : CompiledThresholdExecutionPlan Plan Profile Field)
      (policy : ThresholdEvaluationPolicy Field RuleValue GroupKey Error)
      (events : List NormalizedEvent) (evaluatedAt : Timestamp)
      (found : List (ThresholdSignalProvenance RuleVersion)),
      (events.map NormalizedEvent.normalizedEventId).Nodup →
      evaluateThresholdNormalizedEvents plan events executionMode evaluatedAt policy = .ok found →
      evaluateThresholdNormalizedEvents plan (events.filter (·.tenantId == tenantId)) executionMode
        evaluatedAt policy = .ok (found.filter (·.tenantId == tenantId))) ∧
    ∀ (Stage JoinKey Ordering GroupKey OrderKey Error : Type) [LinearOrder GroupKey]
      [LinearOrder OrderKey] (plan : CompiledSequenceCorrelationPlan Stage JoinKey Ordering)
      (policy : SequenceCorrelationEvaluationPolicy Stage JoinKey Ordering GroupKey OrderKey Error)
      (signals : List Signal) (found : List SequenceCorrelationMatch),
      evaluateSequenceSignals plan signals executionMode policy = .ok found →
      evaluateSequenceSignals plan (signals.filter (·.tenantId == tenantId)) executionMode policy =
        .ok (found.filter (·.tenantId == tenantId)) :=
  ⟨fun _ _ _ _ _ _ _ _ _ _ _ _ _ _ _ _ hids h => evaluateThreshold_tenant tenantId hids h,
    fun _ _ _ _ _ _ _ _ _ _ _ _ h => evaluateSequence_tenant tenantId h⟩

/-- The sample with a Signal of another tenant, and a THRESHOLD sample of one tenant. -/
theorem evaluate_tenant_sample :
    evaluateSequenceSignals sampleSequencePlan (({ sampleSignal
        "01890a5d-ac96-774b-bcce-b302099a8004" "CER-DET-000001" 20 with
        tenantId := "01890a5d-ac96-774b-bcce-b302099a8058" } :: sampleSignals).filter
          (·.tenantId == "01890a5d-ac96-774b-bcce-b302099a8057")) .live sampleSequencePolicy =
      .ok [sampleSequenceMatch] ∧
    evaluateThresholdNormalizedEvents (samplePlan 2 (by decide) (by decide))
        (sampleEvents.filter (·.tenantId == "01890a5d-ac96-774b-bcce-b302099a8058")) .live ⟨10, 0⟩
        samplePolicy = .ok ([] : List (ThresholdSignalProvenance String)) := by
  refine ⟨?_, ?_⟩
  · exact (evaluate_tenant _ _).2 _ _ _ _ _ _ sampleSequencePlan sampleSequencePolicy _
      [sampleSequenceMatch] (by decide +kernel)
  · exact (evaluate_tenant _ _).1 _ _ _ _ _ _ _ (samplePlan 2 (by decide) (by decide)) samplePolicy
      sampleEvents ⟨10, 0⟩ _ (by decide +kernel) evaluateThreshold_sampleEvents

end Detection

end Cerbero
