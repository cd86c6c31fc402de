import Cerbero.Detection.Materialize
import Cerbero.Detection.Repository

/-!
# Detection/Restamp — what identifiers and clocks of a run do not change

Two runs over the same events give their Signals and Findings other identifiers and other clock
readings.  An object with another stamp is accepted if the first one is
(`validateSignal_restamp`, `validateFinding_restamp`) and has the same logical identity
(`signalKeyText_restamp`, `findingLogicalKey_restamp`), and the evaluators find the same matches at
another time of evaluation.
-/

namespace Cerbero

namespace Detection

/-! ## Signals -/

/-- An input of the Signal with another identifier. -/
def restampInput (signalId : String) (input : SignalInput) : SignalInput :=
  { input with signalId := signalId }

/-- A Signal as another run would have made it. -/
def restampSignal (signalId : String) (evaluatedAt createdAt : Timestamp) (signal : Signal) :
    Signal :=
  { signal with
    signalId := signalId
    createdAt := some createdAt
    provenance := signal.provenance.map fun p => { p with evaluatedAt := some evaluatedAt }
    inputs := signal.inputs.map (restampInput signalId) }

section

variable {signalId : String} {evaluatedAt createdAt : Timestamp} {signal : Signal}

/-- **The logical identity of a Signal** does not depend on its stamp. -/
theorem signalKeyText_restamp :
    signalKeyText (restampSignal signalId evaluatedAt createdAt signal) = signalKeyText signal := by
  rw [signalKeyText, signalKeyText, restampSignal, List.foldl_map]
  rfl

/-- An input names the Signal it belongs to, and the new name passes where the old one did. -/
theorem validateSignalInput_restamp {owner : String} {input : SignalInput} {index : ℕ}
    (h : validateSignalInput owner input index = .ok ()) :
    validateSignalInput signalId (restampInput signalId input) index = .ok () := by
  simp only [validateSignalInput, check_bind_eq_ok, restampInput] at h ⊢
  refine ⟨?_, h.2⟩
  rw [rejectIf_eq_ok, bne_self_eq_false]

/-- The inputs are checked one after the other against the ones before; neither their order nor
their identities change. -/
theorem checkSignalInputs_restamp {owner : String} {inputs : List SignalInput} :
    ∀ {index : ℕ} {unique : List (ℤ × String)} {count : ℕ},
      checkSignalInputs owner index unique inputs = .ok count →
        checkSignalInputs signalId index unique (inputs.map (restampInput signalId)) = .ok count := by
  induction inputs with
  | nil =>
    intro index unique count h
    exact h
  | cons input inputs ih =>
    intro index unique count h
    rw [checkSignalInputs, check_bind_eq_ok, check_bind_eq_ok] at h
    obtain ⟨hinput, hunique, h⟩ := h
    obtain ⟨rest, hrest, h⟩ := bind_eq_ok.1 h
    rw [List.map_cons, checkSignalInputs, check_bind_eq_ok, check_bind_eq_ok]
    exact ⟨validateSignalInput_restamp hinput, hunique, bind_eq_ok.2 ⟨rest, ih hrest, h⟩⟩

/-- The rest of the identity does not mention the Signal's own identifier. -/
theorem validateSignalIdentity_restamp (hid : validateUuidV7 "signal_id" signalId = .ok ())
    (h : validateSignalIdentity signal = .ok ()) :
    validateSignalIdentity (restampSignal signalId evaluatedAt createdAt signal) = .ok () := by
  rw [validateSignalIdentity, check_bind_eq_ok] at h ⊢
  exact ⟨hid, h.2⟩

/-- Of the times only the creation is new. -/
theorem validateSignalTimes_restamp (hcreated : validateTimestamp "created_at" createdAt = .ok ())
    (h : validateSignalTimes signal = .ok ()) :
    validateSignalTimes (restampSignal signalId evaluatedAt createdAt signal) = .ok () := by
  simp only [validateSignalTimes, restampSignal] at h ⊢
  cases hfirst : signal.firstObservedAt with
  | none =>
    cases hlast : signal.lastObservedAt with
    | none => exact hcreated
    | some last => simp [hfirst, hlast, error_bind] at h
  | some first =>
    cases hlast : signal.lastObservedAt with
    | none => simp [hfirst, hlast, error_bind] at h
    | some last =>
      simp only [hfirst, hlast, check_bind_eq_ok] at h ⊢
      exact ⟨h.1, h.2.1, h.2.2.1, hcreated⟩

/-- Of the provenance only the evaluation time is new. -/
theorem validateSignalProvenance_restamp
    (hevaluated : validateTimestamp "provenance.evaluated_at" evaluatedAt = .ok ())
    (h : validateSignalProvenance signal = .ok ()) :
    validateSignalProvenance (restampSignal signalId evaluatedAt createdAt signal) = .ok () := by
  rw [validateSignalProvenance] at h ⊢
  cases hprovenance : signal.provenance with
  | none => simp [hprovenance] at h
  | some provenance =>
    simp only [hprovenance, check_bind_eq_ok] at h
    simp only [restampSignal, hprovenance, Option.map_some, check_bind_eq_ok]
    exact ⟨hevaluated, h.2⟩

/-- **An accepted Signal is accepted with another stamp.** -/
theorem validateSignal_restamp (hid : validateUuidV7 "signal_id" signalId = .ok ())
    (hevaluated : validateTimestamp "provenance.evaluated_at" evaluatedAt = .ok ())
    (hcreated : validateTimestamp "created_at" createdAt = .ok ())
    (h : validateSignal signal = .ok ()) :
    validateSignal (restampSignal signalId evaluatedAt createdAt signal) = .ok () := by
  simp only [validateSignal, check_bind_eq_ok] at h ⊢
  obtain ⟨hidentity, htimes, hcounts, hprovenance, h⟩ := h
  obtain ⟨count, hinputs, hrule⟩ := bind_eq_ok.1 h
  rw [validateSignalInputs, check_bind_eq_ok] at hinputs
  refine ⟨validateSignalIdentity_restamp hid hidentity,
    validateSignalTimes_restamp hcreated htimes, hcounts,
    validateSignalProvenance_restamp hevaluated hprovenance, bind_eq_ok.2 ⟨count, ?_, hrule⟩⟩
  rw [validateSignalInputs, check_bind_eq_ok]
  refine ⟨?_, checkSignalInputs_restamp hinputs.2⟩
  rw [restampSignal, List.isEmpty_map]
  exact hinputs.1

end

/-! ## Findings -/

/-- An input of the Finding with another identifier. -/
def restampFindingInput (findingId : String) (input : FindingInput) : FindingInput :=
  { input with findingId := findingId }

/-- A Finding as another run would have made it. -/
def restampFinding (findingId : String) (createdAt : Timestamp) (finding : Finding) : Finding :=
  { finding with
    findingId := findingId
    createdAt := some createdAt
    updatedAt := some createdAt
    inputs := finding.inputs.map (restampFindingInput findingId)
    correlationProvenance := finding.correlationProvenance.map fun p =>
      { p with outputFindingId := findingId } }

section

variable {findingId : String} {createdAt : Timestamp} {finding : Finding}

/-- **The logical identity of a Finding** does not depend on its stamp. -/
theorem findingLogicalKey_restamp (repository : AnalyticalRepository) :
    findingLogicalKey repository (restampFinding findingId createdAt finding) =
      findingLogicalKey repository finding := by
  rw [findingLogicalKey, findingLogicalKey, restampFinding]
  cases finding.correlationProvenance with
  | none => rfl
  | some provenance => rfl

/-- The same of an input of a Finding. -/
theorem validateFindingInput_restamp {owner : String} {input : FindingInput}
    (h : validateFindingInput owner input = .ok ()) :
    validateFindingInput findingId (restampFindingInput findingId input) = .ok () := by
  simp only [validateFindingInput, check_bind_eq_ok, restampFindingInput] at h ⊢
  refine ⟨?_, h.2⟩
  rw [rejectIf_eq_ok, bne_self_eq_false]

/-- The inputs of a Finding are checked against the ones seen so far, by identities that stay. -/
theorem checkFindingInputs_restamp {owner : String} {inputs : List FindingInput} :
    ∀ {seen : List (String × String × String)}, checkFindingInputs owner seen inputs = .ok () →
      checkFindingInputs findingId seen (inputs.map (restampFindingInput findingId)) = .ok () := by
  induction inputs with
  | nil =>
    intro seen h
    exact h
  | cons input inputs ih =>
    intro seen h
    rw [checkFindingInputs, check_bind_eq_ok, check_bind_eq_ok] at h
    rw [List.map_cons, checkFindingInputs, check_bind_eq_ok, check_bind_eq_ok]
    exact ⟨validateFindingInput_restamp h.1, h.2.1, ih h.2.2⟩

/-- A restamped Finding has the inputs it had. -/
theorem map_inputId_restamp :
    (restampFinding findingId createdAt finding).inputs.map FindingInput.inputId =
      finding.inputs.map FindingInput.inputId := by
  rw [restampFinding, List.map_map]
  rfl

/-- The provenance of a correlation names its Finding, and it is renamed with it. -/
theorem validateCorrelationProvenance_restamp (createdAt : Timestamp)
    {provenance : FindingCorrelationProvenance} (h : validateCorrelationProvenance finding provenance = .ok ()) :
    validateCorrelationProvenance (restampFinding findingId createdAt finding)
      { provenance with outputFindingId := findingId } = .ok () := by
  simp only [validateCorrelationProvenance, check_bind_eq_ok] at h ⊢
  obtain ⟨hrule, hwindow, hempty, hids, -, hrest⟩ := h
  refine ⟨hrule, hwindow, hempty, ?_, ?_, hrest⟩
  · rw [map_inputId_restamp]
    exact hids
  · rw [rejectIf_eq_ok]
    exact bne_self_eq_false findingId

/-- So whichever provenance the type of the Finding asks for stays valid. -/
theorem validateTypeSpecificProvenance_restamp
    (h : validateTypeSpecificProvenance finding = .ok ()) :
    validateTypeSpecificProvenance (restampFinding findingId createdAt finding) = .ok () := by
  rw [validateTypeSpecificProvenance] at h ⊢
  by_cases htype : finding.findingType = 3
  · rw [if_pos htype] at h
    rw [if_pos (show (restampFinding findingId createdAt finding).findingType = 3 from htype)]
    cases hprovenance : finding.correlationProvenance with
    | none => simp [hprovenance] at h
    | some provenance =>
      rw [hprovenance] at h
      simp only [restampFinding, hprovenance, Option.map_some]
      exact validateCorrelationProvenance_restamp createdAt h
  · rw [if_neg htype] at h
    rw [if_neg (show ¬ (restampFinding findingId createdAt finding).findingType = 3 from htype)]
    simp only [restampFinding, Option.isSome_map]
    exact h

/-- The inputs as a whole, which must not be empty. -/
theorem validateInputs_restamp (h : validateInputs finding = .ok ()) :
    validateInputs (restampFinding findingId createdAt finding) = .ok () := by
  rw [validateInputs, check_bind_eq_ok] at h ⊢
  refine ⟨?_, checkFindingInputs_restamp h.2⟩
  rw [restampFinding, List.isEmpty_map]
  exact h.1

/-- A new Finding was updated when it was created. -/
theorem validateRequiredTimes_restamp
    (hcreated : validateTimestamp "created_at" createdAt = .ok ())
    (hupdated : validateTimestamp "updated_at" createdAt = .ok ()) :
    validateRequiredTimes (restampFinding findingId createdAt finding) = .ok () :=
  check_bind_eq_ok.2 ⟨hcreated, hupdated⟩

/-- **An accepted Finding is accepted with another stamp.** -/
theorem validateFinding_restamp (hid : validateUuidV7 "finding_id" findingId = .ok ())
    (hcreated : validateTimestamp "created_at" createdAt = .ok ())
    (hupdated : validateTimestamp "updated_at" createdAt = .ok ())
    (h : validateFinding finding = .ok ()) :
    validateFinding (restampFinding findingId createdAt finding) = .ok () := by
  have htimes : validateRequiredTimes (restampFinding findingId createdAt finding) = .ok () :=
    validateRequiredTimes_restamp hcreated hupdated
  rw [validateFinding] at h ⊢
  cases hconfidence : finding.confidence with
  | none =>
    have hsame : (restampFinding findingId createdAt finding).confidence = none := hconfidence
    rw [hconfidence] at h
    rw [hsame]
    simp only [check_bind_eq_ok] at h ⊢
    obtain ⟨-, htenant, htype, hstatus, hseverity, hnone, htitle, hdescription, hseen, -, hprimary,
      hcorrelation, hdisposition, hmode, hinputs, hspecific⟩ := h
    exact ⟨hid, htenant, htype, hstatus, hseverity, hnone, htitle, hdescription, hseen, htimes,
      hprimary, hcorrelation, hdisposition, hmode, validateInputs_restamp hinputs,
      validateTypeSpecificProvenance_restamp hspecific⟩
  | some confidence =>
    have hsame : (restampFinding findingId createdAt finding).confidence = some confidence :=
      hconfidence
    rw [hconfidence] at h
    rw [hsame]
    simp only [check_bind_eq_ok] at h ⊢
    obtain ⟨-, htenant, htype, hstatus, hseverity, htext, htitle, hdescription, hseen, -, hprimary,
      hcorrelation, hdisposition, hmode, hinputs, hspecific⟩ := h
    exact ⟨hid, htenant, htype, hstatus, hseverity, htext, htitle, hdescription, hseen, htimes,
      hprimary, hcorrelation, hdisposition, hmode, validateInputs_restamp hinputs,
      validateTypeSpecificProvenance_restamp hspecific⟩

end

/-! ## Matches -/

section

variable {Field RuleValue RuleVersion Plan Error : Type} [AsRefStr Field]
  [EventExecutionPlanView Plan Field RuleValue] [EventSignalExecutionPlanView Plan RuleVersion]
  {plan : Plan} {event : NormalizedEvent} {executionMode : ExecutionMode}
  {evaluatedAt evaluatedAt' : Timestamp} {policy : EventLeafEvaluationPolicy Field RuleValue Value Error}

/-- An EVENT rule matches at every time of evaluation, or at none. -/
theorem evaluateNormalizedEventForSignal_restamp
    {outcome : Option (EventSignalProvenance RuleVersion)}
    (hevaluated : validateTimestamp "evaluated_at" evaluatedAt' = .ok ())
    (h : evaluateNormalizedEventForSignal plan event executionMode evaluatedAt policy =
      .ok outcome) :
    evaluateNormalizedEventForSignal plan event executionMode evaluatedAt' policy =
      .ok (outcome.map fun p => { p with evaluatedAt := evaluatedAt' }) := by
  rw [evaluateNormalizedEventForSignal, check_bind_eq_ok, check_bind_eq_ok] at h ⊢
  refine ⟨h.1, mapError_eq_ok.2 hevaluated, ?_⟩
  obtain ⟨-, -, h⟩ := h
  by_cases hmode : executionMode = .unspecified
  · rw [if_pos hmode] at h
    cases h
  · rw [if_neg hmode] at h ⊢
    obtain ⟨found, hfound, h⟩ := bind_eq_ok.1 h
    refine bind_eq_ok.2 ⟨found, hfound, ?_⟩
    obtain rfl := Except.ok.inj h
    cases found with
    | «match» => rfl
    | noMatch => rfl

end

section

variable {Field RuleValue RuleVersion Plan Profile GroupKey Error : Type} [AsRefStr Field]
  [EventExecutionPlanView Plan Field RuleValue] [EventSignalExecutionPlanView Plan RuleVersion]
  [LinearOrder GroupKey] {plan : CompiledThresholdExecutionPlan Plan Profile Field}
  {policy : ThresholdEvaluationPolicy Field RuleValue GroupKey Error}
  {events : List NormalizedEvent} {executionMode : ExecutionMode}
  {evaluatedAt evaluatedAt' : Timestamp}

omit [LinearOrder GroupKey] in
/-- **The match of a group does not depend on when it is evaluated**, apart from the time it is
stamped with. -/
theorem matchOfSorted_restamp {tenantId : String} {candidates : List Candidate}
    {found : Option (ThresholdSignalProvenance RuleVersion)}
    (h : (matchOfSorted plan executionMode evaluatedAt tenantId candidates :
      Except (ThresholdEvaluationError Error) _) = .ok found) :
    (matchOfSorted plan executionMode evaluatedAt' tenantId candidates :
      Except (ThresholdEvaluationError Error) _) =
        .ok (found.map fun m => { m with evaluatedAt := evaluatedAt' }) := by
  rw [matchOfSorted] at h ⊢
  cases hwindow : EarliestWindow.earliestWindow Candidate.eventTimeMillis
      plan.window.durationMillis plan.threshold candidates with
  | none =>
    rw [hwindow] at h
    obtain rfl := Except.ok.inj h
    rfl
  | some contributors =>
    rw [hwindow] at h
    simp only [check_bind_eq_ok] at h ⊢
    obtain ⟨hfirst, hlast, h⟩ := h
    obtain rfl := Except.ok.inj h
    exact ⟨hfirst, hlast, rfl⟩

omit [LinearOrder GroupKey] in
/-- So neither do the matches of all groups. -/
theorem matchGroups_restamp {groups : List ((String ×ₗ GroupKey) × List Candidate)} :
    ∀ {found : List (ThresholdSignalProvenance RuleVersion)},
      (matchGroups plan executionMode evaluatedAt groups :
        Except (ThresholdEvaluationError Error) _) = .ok found →
      (matchGroups plan executionMode evaluatedAt' groups :
        Except (ThresholdEvaluationError Error) _) =
          .ok (found.map fun m => { m with evaluatedAt := evaluatedAt' }) := by
  induction groups with
  | nil =>
    intro found h
    obtain rfl := Except.ok.inj h
    rfl
  | cons group groups ih =>
    intro found h
    obtain ⟨here, hhere, h⟩ := bind_eq_ok.1 h
    obtain ⟨rest, hrest, h⟩ := bind_eq_ok.1 h
    obtain rfl := Except.ok.inj h
    refine bind_eq_ok.2 ⟨_, matchOfSorted_restamp hhere, bind_eq_ok.2 ⟨_, ih hrest, ?_⟩⟩
    rw [List.map_append, Option.toList_map]
    rfl

/-- **A THRESHOLD rule finds the same matches at every time of evaluation.** -/
theorem evaluateThreshold_restamp {found : List (ThresholdSignalProvenance RuleVersion)}
    (hevaluated : validateTimestamp "evaluated_at" evaluatedAt' = .ok ())
    (h : evaluateThresholdNormalizedEvents plan events executionMode evaluatedAt policy =
      .ok found) :
    evaluateThresholdNormalizedEvents plan events executionMode evaluatedAt' policy =
      .ok (found.map fun m => { m with evaluatedAt := evaluatedAt' }) := by
  rw [evaluateThresholdNormalizedEvents, check_bind_eq_ok] at h ⊢
  obtain ⟨hrequest, h⟩ := h
  obtain ⟨state, hstate, h⟩ := bind_eq_ok.1 h
  rw [checkRequest, check_bind_eq_ok] at hrequest
  refine ⟨?_, bind_eq_ok.2 ⟨state, hstate, matchGroups_restamp h⟩⟩
  rw [checkRequest, check_bind_eq_ok]
  exact ⟨mapError_eq_ok.2 hevaluated, hrequest.2⟩

end

/-! ## Objects of matches -/

section

variable {RuleVersion : Type} [ToString RuleVersion] {signalId : String}
  {evaluatedAt createdAt : Timestamp} {signal : Signal}

/-- The Signal of an event match, restamped, is the Signal of the restamped match. -/
theorem eventSignal_restamp (provenance : EventSignalProvenance RuleVersion)
    (event : NormalizedEvent) (context : EventSignalMaterializationContext) :
    eventSignal { provenance with evaluatedAt := evaluatedAt } event
        { context with signalId := signalId, createdAt := createdAt } =
      restampSignal signalId evaluatedAt createdAt (eventSignal provenance event context) := rfl

/-- The same of a threshold match. -/
theorem thresholdSignal_restamp (provenance : ThresholdSignalProvenance RuleVersion)
    (context : ThresholdSignalMaterializationContext) (inputs : List SignalInput) :
    thresholdSignal { provenance with evaluatedAt := evaluatedAt }
        { context with signalId := signalId, createdAt := createdAt }
        (inputs.map (restampInput signalId)) =
      restampSignal signalId evaluatedAt createdAt (thresholdSignal provenance context inputs) := rfl

/-- The Signal of an EVENT match of another run. -/
theorem materializeEventSignal_restamp {provenance : EventSignalProvenance RuleVersion}
    {event : NormalizedEvent} {context : EventSignalMaterializationContext}
    (hid : validateUuidV7 "signal_id" signalId = .ok ())
    (hevaluated : validateTimestamp "provenance.evaluated_at" evaluatedAt = .ok ())
    (hcreated : validateTimestamp "created_at" createdAt = .ok ())
    (h : materializeEventSignal provenance event context = .ok signal) :
    materializeEventSignal { provenance with evaluatedAt := evaluatedAt } event
        { context with signalId := signalId, createdAt := createdAt } =
      .ok (restampSignal signalId evaluatedAt createdAt signal) := by
  rw [materializeEventSignal, check_bind_eq_ok, check_bind_eq_ok] at h ⊢
  obtain ⟨hsame, hvalid, h⟩ := h
  obtain rfl := Except.ok.inj h
  rw [eventSignal_restamp]
  exact ⟨hsame, validateSignal_restamp hid hevaluated hcreated hvalid, rfl⟩

/-- The inputs of a threshold Signal differ in their owner alone. -/
theorem thresholdInputs_restamp {owner relation : String} {inputIds : List String} :
    ∀ {index : ℕ} {inputs : List SignalInput},
      thresholdInputs owner relation index inputIds = .ok inputs →
        thresholdInputs signalId relation index inputIds =
          .ok (inputs.map (restampInput signalId)) := by
  induction inputIds with
  | nil =>
    intro index inputs h
    obtain rfl := Except.ok.inj h
    rfl
  | cons inputId inputIds ih =>
    intro index inputs h
    rw [thresholdInputs, check_bind_eq_ok] at h ⊢
    obtain ⟨hindex, h⟩ := h
    obtain ⟨rest, hrest, h⟩ := bind_eq_ok.1 h
    obtain rfl := Except.ok.inj h
    exact ⟨hindex, bind_eq_ok.2 ⟨_, ih hrest, rfl⟩⟩

/-- The Signal of a THRESHOLD match of another run. -/
theorem materializeThresholdSignal_restamp {provenance : ThresholdSignalProvenance RuleVersion}
    {context : ThresholdSignalMaterializationContext}
    (hid : validateUuidV7 "signal_id" signalId = .ok ())
    (hevaluated : validateTimestamp "provenance.evaluated_at" evaluatedAt = .ok ())
    (hcreated : validateTimestamp "created_at" createdAt = .ok ())
    (h : materializeThresholdSignal provenance context = .ok signal) :
    materializeThresholdSignal { provenance with evaluatedAt := evaluatedAt }
        { context with signalId := signalId, createdAt := createdAt } =
      .ok (restampSignal signalId evaluatedAt createdAt signal) := by
  rw [materializeThresholdSignal, check_bind_eq_ok, check_bind_eq_ok] at h ⊢
  obtain ⟨hempty, hcount, h⟩ := h
  obtain ⟨inputs, hinputs, h⟩ := bind_eq_ok.1 h
  obtain ⟨hvalid, h⟩ := check_bind_eq_ok.1 h
  obtain rfl := Except.ok.inj h
  refine ⟨hempty, hcount, bind_eq_ok.2 ⟨_, thresholdInputs_restamp hinputs, ?_⟩⟩
  rw [thresholdSignal_restamp]
  exact check_bind_eq_ok.2 ⟨validateSignal_restamp hid hevaluated hcreated hvalid, rfl⟩

end

/-- The Finding of a SEQUENCE match of another run. -/
theorem materializeSequenceCorrelationFinding_restamp {findingId : String} {createdAt : Timestamp}
    {correlationMatch : SequenceCorrelationMatch}
    {context : CorrelationFindingMaterializationContext} {finding : Finding}
    (hid : validateUuidV7 "finding_id" findingId = .ok ())
    (hcreated : validateTimestamp "created_at" createdAt = .ok ())
    (hupdated : validateTimestamp "updated_at" createdAt = .ok ())
    (h : materializeSequenceCorrelationFinding correlationMatch context = .ok finding) :
    materializeSequenceCorrelationFinding correlationMatch
        { context with findingId := findingId, createdAt := createdAt } =
      .ok (restampFinding findingId createdAt finding) := by
  rw [materializeSequenceCorrelationFinding, check_bind_eq_ok] at h ⊢
  obtain ⟨hvalid, h⟩ := h
  obtain rfl := Except.ok.inj h
  have hinputs : (sequenceCorrelationFinding correlationMatch
      { context with findingId := findingId, createdAt := createdAt }) =
        restampFinding findingId createdAt (sequenceCorrelationFinding correlationMatch context) := by
    rw [restampFinding, sequenceCorrelationFinding, sequenceCorrelationFinding]
    simp only [List.map_map]
    rfl
  rw [hinputs]
  exact ⟨validateFinding_restamp hid hcreated hupdated hvalid, rfl⟩

end Detection

end Cerbero
