import Cerbero.Detection.Materialize
import Cerbero.Detection.SequenceOrder
import Cerbero.Detection.ThresholdGrowth
import Cerbero.Detection.ThresholdOrder

/-!
# Detection/MatchPromise — what the evaluators promise of a match

A THRESHOLD match has distinct identifiers of the contract's form, times in order and in range, and
a tenant (`wellFormed_of_evaluateThreshold`), whether or not events share identifiers; so has a
SEQUENCE match (`wellFormed_of_evaluateSequence`).
-/

namespace Cerbero

namespace Detection

open Text

/-! ## Clocks -/

/-- Milliseconds are turned into timestamps in order. -/
theorem timestampLe_timestampFromMillis {a b : ℤ} (h : a ≤ b) :
    timestampLe (timestampFromMillis a) (timestampFromMillis b) := by
  rw [timestampLe, Bool.or_eq_true, Bool.and_eq_true, decide_eq_true_iff, decide_eq_true_iff,
    beq_iff_eq]
  show a / 1000 < b / 1000 ∨ a / 1000 = b / 1000 ∧ a % 1000 * 1000000 ≤ b % 1000 * 1000000
  omega

theorem validateTimestamp_field {field field' : String} {t : Timestamp}
    (h : validateTimestamp field t = .ok ()) : validateTimestamp field' t = .ok () := by
  simp only [validateTimestamp, check_bind_eq_ok, rejectIf_eq_ok] at h ⊢
  exact h

theorem isMember_number {mode : ExecutionMode} (h : mode ≠ .unspecified) :
    isMember 1 3 mode.number := by
  match mode with
  | .unspecified => exact absurd rfl h
  | .live => rfl
  | .replay => rfl
  | .test => rfl

theorem isMember_contractBackend (backend : ExecutionBackend) :
    isMember 1 2 (contractBackend backend) := by
  match backend with
  | .clickHouse => rfl
  | .stream => rfl

/-! ## What a THRESHOLD match promises -/

/-- **What the evaluator promises of a THRESHOLD match.** -/
structure ThresholdSignalProvenance.WellFormed {RuleVersion : Type}
    (m : ThresholdSignalProvenance RuleVersion) : Prop where
  tenantId_uuid : validateUuidV7 "tenant_id" m.tenantId = .ok ()
  ids_ne_nil : m.normalizedEventIds ≠ []
  ids_nodup : m.normalizedEventIds.Nodup
  ids_uuid : ∀ id ∈ m.normalizedEventIds, validateUuidV7 "inputs.input_id" id = .ok ()
  timesValid : m.TimesValid
  first_le_last : timestampLe m.firstObservedAt m.lastObservedAt
  evaluatedAt_valid : validateTimestamp "provenance.evaluated_at" m.evaluatedAt = .ok ()
  executionMode_ne : m.executionMode ≠ .unspecified

section

variable {Field RuleValue RuleVersion Plan Profile GroupKey Error : Type} [AsRefStr Field]
  [EventExecutionPlanView Plan Field RuleValue] [EventSignalExecutionPlanView Plan RuleVersion]
  [LinearOrder GroupKey]
  {plan : CompiledThresholdExecutionPlan Plan Profile Field}
  {policy : ThresholdEvaluationPolicy Field RuleValue GroupKey Error}
  {executionMode : ExecutionMode} {evaluatedAt : Timestamp}

/-- **The groups hold valid candidates**: each was seen, has an identifier of its own in its group,
and is of a tenant.  Unlike `Collected.Holds` this asks nothing of the events. -/
structure Collected.Valid (state : Collected GroupKey) : Prop where
  seen : ∀ key, ∀ c ∈ state.members key, c.normalizedEventId ∈ state.seenEventIds
  nodup : ∀ key, ((state.members key).map Candidate.normalizedEventId).Nodup
  uuid : ∀ key, ∀ c ∈ state.members key,
    validateUuidV7 "normalized_event_id" c.normalizedEventId = .ok ()
  tenant : ∀ key, ∀ _c ∈ state.members key, validateUuidV7 "tenant_id" (ofLex key).1 = .ok ()

theorem valid_empty : (⟨[], SortedMap.empty⟩ : Collected GroupKey).Valid where
  seen := by simp [Collected.members, SortedMap.members]
  nodup := by simp [Collected.members, SortedMap.members]
  uuid := by simp [Collected.members, SortedMap.members]
  tenant := by simp [Collected.members, SortedMap.members]

/-- **One round keeps the groups valid.** -/
theorem Collected.Valid.collectEvent {state state' : Collected GroupKey} {event : NormalizedEvent}
    (h : state.Valid) (hstep : Detection.collectEvent plan policy state event = .ok state') :
    state'.Valid := by
  obtain ⟨hcheck, ⟨-, rfl⟩ | ⟨hnew, o, -, rfl⟩⟩ := collectEvent_eq_ok.1 hstep
  · exact h
  · rw [checkEvent, check_bind_eq_ok] at hcheck
    exact
      { seen := fun key c hmem => by
          rw [mem_seenEventIds_record]
          obtain hold | ⟨hid, -⟩ := mem_members_record.1 hmem
          · exact .inr (h.seen key c hold)
          · exact .inl hid
        nodup := fun key => nodup_members_record (h.nodup key) fun c hmem heq =>
          hnew (heq ▸ h.seen key c hmem)
        uuid := fun key c hmem => by
          obtain hold | ⟨hid, -⟩ := mem_members_record.1 hmem
          · exact h.uuid key c hold
          · exact hid ▸ hcheck.1
        tenant := fun key c hmem => by
          obtain hold | ⟨-, htenant, -⟩ := mem_members_record.1 hmem
          · exact h.tenant key c hold
          · exact htenant ▸ hcheck.2 }

/-- **A run keeps the groups valid.** -/
theorem valid_collect {state' : Collected GroupKey} :
    ∀ {rest : List NormalizedEvent} {state : Collected GroupKey},
      state.Valid → collect plan policy state rest = .ok state' → state'.Valid
  | [], _, h, hrun => by
      obtain rfl := Except.ok.inj hrun
      exact h
  | _ :: _, _, h, hrun => by
      rw [collect, bind_eq_ok] at hrun
      obtain ⟨next, hstep, hrun⟩ := hrun
      exact valid_collect (h.collectEvent hstep) hrun

/-- The window of valid candidates makes a match of the promised form. -/
theorem Collected.Valid.wellFormed {state : Collected GroupKey} (h : state.Valid)
    {key : String ×ₗ GroupKey} {candidates window : List Candidate}
    (hget : state.groups.get? key = some candidates) (hwin : windowOf plan candidates = some window)
    (hmode : executionMode ≠ .unspecified)
    (hat : validateTimestamp "evaluated_at" evaluatedAt = .ok ())
    (htimes : (matchOfWindow plan executionMode evaluatedAt (ofLex key).1 window :
      ThresholdSignalProvenance RuleVersion).TimesValid) :
    (matchOfWindow plan executionMode evaluatedAt (ofLex key).1 window :
      ThresholdSignalProvenance RuleVersion).WellFormed := by
  have hmembers : state.members key = candidates := SortedMap.members_of_get? hget
  have hnodup : (candidates.map Candidate.normalizedEventId).Nodup := hmembers ▸ h.nodup key
  obtain ⟨hpair, -, last, hlast, -, hmem, -⟩ :=
    EarliestWindow.earliestWindow_eq_some (pairwise_lt_insertionSort hnodup)
      Candidate.neverDecreases_eventTimeMillis (Int.natCast_nonneg _) plan.threshold_pos hwin
  have hsub : ∀ x ∈ window, x ∈ candidates := fun x hx => mem_insertionSort.1 ((hmem x).1 hx).1
  have hstate : ∀ x ∈ window, x ∈ state.members key := fun x hx => hmembers ▸ hsub x hx
  obtain ⟨first, rest, rfl⟩ : ∃ first rest, window = first :: rest :=
    List.exists_cons_of_ne_nil fun hnil => by simp [hnil] at hlast
  refine
    { tenantId_uuid := h.tenant key first (hstate first List.mem_cons_self)
      ids_ne_nil := List.cons_ne_nil _ _
      ids_nodup := List.Nodup.map_on (fun a ha b hb hab =>
        List.inj_on_of_nodup_map hnodup (hsub a ha) (hsub b hb) hab) (hpair.imp fun hlt => hlt.ne)
      ids_uuid := fun id hid => ?_
      timesValid := htimes
      first_le_last := ?_
      evaluatedAt_valid := validateTimestamp_field hat
      executionMode_ne := hmode }
  · obtain ⟨c, hc, rfl⟩ := List.mem_map.1 hid
    exact validateUuidV7_field (h.uuid key c (hstate c hc))
  · have hle : first.eventTimeMillis ≤ last.eventTimeMillis :=
      Candidate.neverDecreases_eventTimeMillis ((hmem first).1 List.mem_cons_self).2.1
    rw [matchOfWindow, List.getLastD_eq_getLast?, hlast]
    exact timestampLe_timestampFromMillis hle

/-- **Every THRESHOLD match has the promised form.** -/
theorem wellFormed_of_evaluateThreshold {events : List NormalizedEvent}
    {found : List (ThresholdSignalProvenance RuleVersion)}
    (h : evaluateThresholdNormalizedEvents plan events executionMode evaluatedAt policy =
      .ok found) {m : ThresholdSignalProvenance RuleVersion} (hm : m ∈ found) :
    m.WellFormed ∧ m.ruleId = EventSignalExecutionPlanView.signalRuleId plan.filter.plan ∧
      m.ruleVersion = EventSignalExecutionPlanView.signalRuleVersion plan.filter.plan ∧
      m.evaluatedAt = evaluatedAt ∧ m.executionMode = executionMode ∧
      m.executionBackend = EventSignalExecutionPlanView.signalExecutionBackend plan.filter.plan := by
  obtain ⟨hmode, hat, -⟩ := evaluateThreshold_ne_ok h
  rw [evaluateThresholdNormalizedEvents, check_bind_eq_ok] at h
  obtain ⟨state, hcollect, hmatch⟩ := bind_eq_ok.1 h.2
  obtain ⟨⟨key, candidates⟩, hg, hround⟩ := (mem_filterMapOk hmatch).1 hm
  have hwindow := matchOfSorted_eq_ok hround
  obtain ⟨window, hwin, rfl⟩ := Option.map_eq_some_iff.1 hwindow.symm
  have htimes := exists_matchOfSorted_eq_ok_iff.1 ⟨_, hround⟩ window hwin
  exact ⟨(valid_collect valid_empty hcollect).wellFormed (SortedMap.mem_toList.1 hg) hwin hmode hat
    htimes, rfl, rfl, rfl, rfl, rfl⟩

end
/-! ## What a SEQUENCE match promises -/

/-- **What the evaluator promises of a SEQUENCE match.** -/
structure SequenceCorrelationMatch.WellFormed (m : SequenceCorrelationMatch) : Prop where
  tenantId_uuid : validateUuidV7 "tenant_id" m.tenantId = .ok ()
  ids_ne_nil : m.inputSignalIds ≠ []
  ids_nodup : m.inputSignalIds.Nodup
  ids_uuid : ∀ id ∈ m.inputSignalIds, validateUuidV7 "inputs.input_id" id = .ok ()
  windowStart_valid : validateTimestamp "first_seen" m.windowStart = .ok ()
  windowEnd_valid : validateTimestamp "last_seen" m.windowEnd = .ok ()
  start_le_end : timestampLe m.windowStart m.windowEnd
  executionMode_ne : m.executionMode ≠ .unspecified
  ruleId_text : isBlank m.correlationRuleId = false
  ruleVersion_text : isBlank m.correlationRuleVersion = false
  configurationHash_text : isBlank m.configurationHash = false

section

variable {Stage JoinKey Ordering GroupKey OrderKey Error : Type} [LinearOrder GroupKey]
  [LinearOrder OrderKey] {plan : CompiledSequenceCorrelationPlan Stage JoinKey Ordering}
  {policy : SequenceCorrelationEvaluationPolicy Stage JoinKey Ordering GroupKey OrderKey Error}
  {signals : List Signal} {executionMode : ExecutionMode}

theorem signalId_uuid_of_validateSignal {signal : Signal} (h : validateSignal signal = .ok ()) :
    validateUuidV7 "signal_id" signal.signalId = .ok () := by
  rw [validateSignal, check_bind_eq_ok, validateSignalIdentity, check_bind_eq_ok] at h
  exact h.1.1

/-- A round over the groups that ends in a match has found a selection, and its window is valid. -/
theorem sequenceOfGroup_eq_some {tenantId : String}
    {candidates : List (SequenceCandidate OrderKey)} {m : SequenceCorrelationMatch}
    (h : (sequenceOfGroup plan executionMode tenantId candidates :
      Except (SequenceCorrelationEvaluationError Error) _) = .ok (some m)) :
    (∃ selected selection, selectSequence (sortCandidates candidates) plan.stages.length
        plan.maxWindowMillis = some (selected, selection) ∧
      m = matchOfSelection plan executionMode tenantId (sortCandidates candidates) selected
        selection) ∧
    validateTimestamp "window_start" m.windowStart = .ok () ∧
    validateTimestamp "window_end" m.windowEnd = .ok () := by
  rw [sequenceOfGroup] at h
  match hsel : selectSequence (sortCandidates candidates) plan.stages.length
    plan.maxWindowMillis with
  | none =>
    rw [hsel] at h
    exact nomatch Except.ok.inj h
  | some (selected, selection) =>
    rw [hsel] at h
    simp only [check_bind_eq_ok, liftInput_eq_ok] at h
    obtain ⟨hstart, hend, h⟩ := h
    obtain rfl := Option.some.inj (Except.ok.inj h)
    exact ⟨⟨selected, selection, rfl, rfl⟩, hstart, hend⟩

/-- **Every SEQUENCE match has the promised form.** -/
theorem wellFormed_of_evaluateSequence {found : List SequenceCorrelationMatch}
    (h : evaluateSequenceSignals plan signals executionMode policy = .ok found)
    {m : SequenceCorrelationMatch} (hm : m ∈ found) :
    m.WellFormed ∧ m.correlationRuleId = plan.correlationRuleId ∧
      m.correlationRuleVersion = plan.correlationRuleVersion ∧
      m.configurationHash = plan.configurationHash ∧ m.executionMode = executionMode ∧
      m.executionBackend = plan.backend := by
  obtain ⟨hmode, unique, -, hunique, -⟩ := evaluateSequenceSignals_eq_ok.1 h
  obtain ⟨groups, hholds, hgroups⟩ := evaluateSequence_eq_ok h
  obtain ⟨⟨key, candidates⟩, hg, hround⟩ := (mem_filterMapOk hgroups).1 hm
  obtain ⟨⟨selected, selection, hsel, rfl⟩, hstart, hend⟩ := sequenceOfGroup_eq_some hround
  obtain ⟨first, rest, start, orderKeys, times, lo, hi, hmatch, -⟩ :=
    hholds.matchesGroup executionMode (SortedMap.mem_toList.1 hg) hsel
  have hvalid : ∀ s ∈ first :: rest, validateSignal s = .ok () := fun s hs =>
    (admitted_of_uniqueSignals hunique s (hmatch.isSequence.mem s hs)).1
  have htext : ∀ {value : String}, hasText value → isBlank value = false := fun h => by
    simpa [hasText] using h
  refine ⟨?_, rfl, rfl, rfl, rfl, rfl⟩
  exact
    { tenantId_uuid := by
        rw [hmatch.tenantId_eq, ← hmatch.isSequence.tenant first List.mem_cons_self]
        exact (accepted_of_validateSignal (hvalid first List.mem_cons_self)).tenantId_uuid
      ids_ne_nil := by
        rw [hmatch.inputSignalIds_eq]
        exact List.cons_ne_nil _ _
      ids_nodup := hmatch.inputSignalIds_eq ▸ hmatch.nodup
      ids_uuid := by
        rw [hmatch.inputSignalIds_eq]
        intro id hid
        obtain ⟨s, hs, rfl⟩ := List.mem_map.1 hid
        exact validateUuidV7_field (signalId_uuid_of_validateSignal (hvalid s hs))
      windowStart_valid := validateTimestamp_field hstart
      windowEnd_valid := validateTimestamp_field hend
      start_le_end := by
        rw [hmatch.windowStart_eq, hmatch.windowEnd_eq]
        exact timestampLe_timestampFromMillis (hmatch.isLeast.2 hmatch.isGreatest.1)
      executionMode_ne := hmode
      ruleId_text := htext plan.ruleId_text
      ruleVersion_text := htext plan.ruleVersion_text
      configurationHash_text := htext plan.configurationHash_text }

end
end Detection

end Cerbero
