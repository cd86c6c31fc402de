import Cerbero.Detection.MvpSequence
import Cerbero.Detection.SigmaImport
import Cerbero.Detection.ThresholdGrowth
import Cerbero.Lib.EarliestBurst
import Cerbero.Lib.Sha256
import Cerbero.Normalizer.StoredRow

/-!
# Detection/SigmaBursts — what a Sigma pack detects

An `event_count` pack says: so many events with the values of the selection, of one tenant and with
the same group values, within the timespan (`EventCount.Counted`, `EarliestWindow.Burst`).  Import,
compilation and evaluation keep this meaning: of the rows of a batch, the matches of the compiled
rule are the reports of the earliest bursts of the pack (**`mem_thresholdMatches_iff`**).
-/

namespace Cerbero

namespace Detection

open Text Panicking EarliestWindow

/-! ## The meaning of a pack -/

/-- What an `event_count` pack counts, and for whom it reports. -/
structure EventCount where
  selection : SortedMap String String
  groupBy : List String
  gte : ℕ
  timespanMillis : ℕ
  timeField : String
  ruleId : String
  ruleVersion : String

/-- A base document the importer is for: OCSF fields of the `sshd` of a Linux host. -/
structure SigmaDocument.IsSshdBase (document : SigmaDocument) : Prop where
  taxonomy_eq : document.taxonomy = some "ocsf"
  logsource : ∃ logsource, document.logsource = some logsource ∧
    logsource.product = some "linux" ∧ logsource.service = some "sshd"

/-- **What a pack says**: its one correlation, a stable `event_count`, counts the events of the
selection that the condition of its base rule names.  The fields of the selection are plain names. -/
inductive Denotes : List SigmaDocument → EventCount → Prop
  | mk {documents : List SigmaDocument} {correlationDocument baseDocument : SigmaDocument}
      {correlation : SigmaCorrelation} {detection : SigmaDetection} {referenced : String}
      {count : EventCount}
      (hdocument : (documents.filter fun d => d.correlation.isSome) = [correlationDocument])
      (hcorrelation : correlationDocument.correlation = some correlation)
      (htaxonomy : correlationDocument.taxonomy = some "ocsf")
      (hstatus : correlationDocument.status = some "stable")
      (hkind : correlation.kind = "event_count")
      (hrules : correlation.rules = [referenced])
      (hbase : documents.find? (SigmaDocument.isBaseRule referenced) = some baseDocument)
      (hsshd : baseDocument.IsSshdBase)
      (hdetection : baseDocument.detection = some detection)
      (hselection : detection.selections.get? detection.condition = some count.selection)
      (hplain : ∀ field text, count.selection.get? field = some text → '|' ∉ field.toList)
      (hgroupBy : count.groupBy = correlation.groupBy)
      (hgte : count.gte = correlation.condition.gte.toNat)
      (htimespan : SigmaTimespan correlation.timespan.toList count.timespanMillis ∨
        SignedTimespan correlation.timespan.toList count.timespanMillis)
      (hbasis : correlationDocument.cerberoTimeBasis = some "EVENT_TIME")
      (htimeField : correlationDocument.cerberoTimeField = some count.timeField)
      (hpolicy : correlationDocument.cerberoLateEventPolicy = some "ACCEPT")
      (hruleId : correlationDocument.cerberoRuleId = some count.ruleId)
      (hruleVersion : correlationDocument.cerberoRuleVersion = some count.ruleVersion) :
      Denotes documents count

/-- The field is there, as this text. -/
def HasText (event : NormalizedEvent) (field text : String) : Prop :=
  fieldState event field = .present (.stringValue text)

/-- **The event counts for the group at a time**: it is the tenant's, has the values of the
selection and of the group, and its clock shows the time. -/
structure EventCount.Counts (count : EventCount) (key : String ×ₗ List String)
    (event : NormalizedEvent) (millis : ℤ) : Prop where
  tenantId_eq : event.tenantId = (ofLex key).1
  selected : ∀ field text, count.selection.get? field = some text → HasText event field text
  grouped : List.Forall₂ (HasText event) count.groupBy (ofLex key).2
  clock : ∃ number, fieldState event count.timeField = .present (.numberValue number) ∧
    f64Integral number = some millis

/-- An identifier and a time of an event that counts. -/
def EventCount.Counted (count : EventCount) (events : Set NormalizedEvent)
    (key : String ×ₗ List String) (c : Candidate) : Prop :=
  ∃ event ∈ events, event.normalizedEventId = c.normalizedEventId ∧
    count.Counts key event c.eventTimeMillis

/-- Enough events of the group within the timespan. -/
def EventCount.Burst (count : EventCount) (events : Set NormalizedEvent)
    (key : String ×ₗ List String) : Finset Candidate → Prop :=
  EarliestWindow.Burst Candidate.eventTimeMillis count.timespanMillis count.gte
    (count.Counted events key)

/-- The earliest of the group's bursts. -/
def EventCount.EarliestBurst (count : EventCount) (events : Set NormalizedEvent)
    (key : String ×ₗ List String) : List Candidate → Prop :=
  IsEarliest Candidate.eventTimeMillis count.timespanMillis count.gte (count.Counted events key)

/-- The report of a burst. -/
def EventCount.report (count : EventCount) (executionMode : ExecutionMode)
    (evaluatedAt : Timestamp) (key : String ×ₗ List String) (contributors : List Candidate) :
    ThresholdSignalProvenance String where
  ruleId := ⟨count.ruleId⟩
  ruleVersion := count.ruleVersion
  tenantId := (ofLex key).1
  normalizedEventIds := contributors.map Candidate.normalizedEventId
  firstObservedAt := timestampFromMillis (contributors.headD default).eventTimeMillis
  lastObservedAt := timestampFromMillis (contributors.getLastD default).eventTimeMillis
  evaluatedAt := evaluatedAt
  executionBackend := .clickHouse
  executionMode := executionMode

/-! ## Import -/

theorem rejectImport_eq_ok {bad : Bool} {message : String} :
    rejectImport bad message = .ok () ↔ bad = false := by
  cases bad <;> simp [rejectImport]

theorem requireValue_eq_ok {lib : ImportLibraries} {actual : Option String}
    {expected field : String} :
    requireValue lib actual expected field = .ok () ↔ actual = some expected := by
  rw [requireValue, rejectImport_eq_ok, decide_eq_false_iff_not, not_not]

theorem adapt_eq_attempt {ε ε' α : Type} {f : ε → ε'} {x : Panicking ε α} {a : α} :
    x.adapt f = attempt (.ok a) ↔ x = attempt (.ok a) := by
  obtain _ | e | b := x
  · exact iff_of_false (fun h => by cases h) (fun h => by cases h)
  · exact iff_of_false (fun h => by cases h) (fun h => by cases h)
  · constructor
    · intro h
      obtain rfl : b = a := Except.ok.inj (Option.some.inj h)
      rfl
    · intro h
      obtain rfl : b = a := Except.ok.inj (Option.some.inj h)
      rfl

theorem attempt_of_bind {ε α β : Type} {x : Panicking ε α} {f : α → Panicking ε β} {b : β}
    (h : x >>= f = attempt (.ok b)) : ∃ a, x = attempt (.ok a) ∧ f a = attempt (.ok b) := by
  obtain _ | e | a := x
  · cases h
  · cases h
  · exact ⟨a, rfl, h⟩

/-- The filter of a selection, read as the list of its comparisons. -/
theorem filterOfSelection_eq_ok {selection : SortedMap String String}
    {filter : DetectionExpression String String} (h : filterOfSelection selection = .ok filter) :
    (∃ entry, selection.toList = [entry] ∧ filter = .comparison ⟨entry.1, .eq, entry.2⟩) ∨
      filter = .and (selection.toList.map fun entry => .comparison ⟨entry.1, .eq, entry.2⟩) := by
  unfold filterOfSelection at h
  dsimp only at h
  split_ifs at h with hlength
  · rw [List.length_map, List.length_eq_one_iff] at hlength
    obtain ⟨entry, hentry⟩ := hlength
    rw [hentry, orImportError_eq_ok] at h
    exact .inl ⟨entry, hentry, (Option.some.inj h).symm⟩
  · exact .inr (Except.ok.inj h).symm

/-- What an imported rule has to do with what its pack says. -/
structure EventCount.Imported (count : EventCount) (imported : ImportedSigmaThresholdRule) :
    Prop where
  filter_eq : filterOfSelection count.selection = .ok imported.thresholdRule.filter
  groupBy_eq : imported.thresholdRule.groupBy = count.groupBy
  threshold_eq : imported.thresholdRule.threshold.toNat = count.gte
  durationMillis_eq : imported.thresholdRule.window.durationMillis = count.timespanMillis
  timeBasis_eq : imported.thresholdRule.window.timeBasis = .eventTime
  timeField_eq : imported.thresholdRule.window.timeField = count.timeField
  ruleId_eq : imported.ruleId.value = count.ruleId
  ruleVersion_eq : imported.ruleVersion = count.ruleVersion

variable {lib : ImportLibraries} {source : String}

theorem correlationOf_eq_ok {documents : List SigmaDocument} {correlationDocument : SigmaDocument}
    {correlation : SigmaCorrelation}
    (h : correlationOf documents = .ok (correlationDocument, correlation)) :
    (documents.filter fun d => d.correlation.isSome) = [correlationDocument] ∧
      correlationDocument.correlation = some correlation := by
  simp only [correlationOf, check_bind_eq_ok, rejectImport_eq_ok] at h
  obtain ⟨-, hone, h⟩ := h
  obtain ⟨head, hhead, h⟩ := bind_eq_ok.1 h
  obtain ⟨found, hfound, h⟩ := bind_eq_ok.1 h
  rw [orImportError_eq_ok] at hhead hfound
  cases Except.ok.inj h
  obtain ⟨only, honly⟩ := List.length_eq_one_iff.1 (not_not.1 (of_decide_eq_false hone))
  rw [honly] at hhead
  obtain rfl := Option.some.inj hhead
  exact ⟨honly, hfound⟩

theorem referencedRule_eq_ok {correlationDocument : SigmaDocument} {correlation : SigmaCorrelation}
    {referenced : String} (h : referencedRule lib correlationDocument correlation = .ok referenced) :
    correlationDocument.taxonomy = some "ocsf" ∧ correlationDocument.status = some "stable" ∧
      correlation.kind = "event_count" ∧ correlation.rules = [referenced] := by
  simp only [referencedRule, check_bind_eq_ok, requireValue_eq_ok, rejectImport_eq_ok,
    decide_eq_false_iff_not, not_not] at h
  obtain ⟨htaxonomy, hstatus, hkind, hone, -, -, h⟩ := h
  obtain ⟨only, honly⟩ := List.length_eq_one_iff.1 hone
  rw [honly, orImportError_eq_ok] at h
  rw [honly, Option.some.inj h]
  exact ⟨htaxonomy, hstatus, hkind, rfl⟩

theorem selectionOf_eq_ok {documents : List SigmaDocument} {referenced : String}
    {selection : SortedMap String String} (h : selectionOf lib documents referenced = .ok selection) :
    ∃ baseDocument detection,
      documents.find? (SigmaDocument.isBaseRule referenced) = some baseDocument ∧
      baseDocument.IsSshdBase ∧ baseDocument.detection = some detection ∧
      detection.selections.get? detection.condition = some selection ∧
      ∀ field text, selection.get? field = some text → '|' ∉ field.toList := by
  rw [selectionOf] at h
  obtain ⟨baseDocument, hbase, h⟩ := bind_eq_ok.1 h
  simp only [check_bind_eq_ok, requireValue_eq_ok] at h
  obtain ⟨htaxonomy, h⟩ := h
  obtain ⟨logsource, hlogsource, h⟩ := bind_eq_ok.1 h
  simp only [check_bind_eq_ok, requireValue_eq_ok] at h
  obtain ⟨hproduct, hservice, h⟩ := h
  obtain ⟨detection, hdetection, h⟩ := bind_eq_ok.1 h
  obtain ⟨found, hfound, h⟩ := bind_eq_ok.1 h
  simp only [check_bind_eq_ok, rejectImport_eq_ok] at h
  obtain ⟨-, hplain, h⟩ := h
  obtain rfl := Except.ok.inj h
  rw [orImportError_eq_ok] at hbase hlogsource hdetection hfound
  refine ⟨baseDocument, detection, hbase, ⟨htaxonomy, logsource, hlogsource, hproduct, hservice⟩,
    hdetection, hfound, ?_⟩
  intro field text hget hmem
  rw [List.any_eq_false] at hplain
  exact hplain (field, text) (SortedMap.mem_toList.2 hget) (List.contains_iff_mem.2 hmem)

theorem identityOf_eq_ok {correlationDocument : SigmaDocument} {ruleId : RuleId}
    {ruleVersion : String} (h : identityOf correlationDocument = .ok (ruleId, ruleVersion)) :
    correlationDocument.cerberoRuleId = some ruleId.value ∧
      correlationDocument.cerberoRuleVersion = some ruleVersion := by
  rw [identityOf] at h
  obtain ⟨text, htext, h⟩ := bind_eq_ok.1 h
  obtain ⟨id, hid, h⟩ := bind_eq_ok.1 h
  obtain ⟨version, hversion, h⟩ := bind_eq_ok.1 h
  rw [check_bind_eq_ok] at h
  cases Except.ok.inj h.2
  rw [orImportError_eq_ok] at htext hid hversion
  rw [RuleId.fromStr] at hid
  split_ifs at hid
  rw [← Option.some.inj hid]
  exact ⟨htext, hversion⟩

theorem clockOf_eq_ok {correlationDocument : SigmaDocument} {basis : ThresholdTimeBasis}
    {timeField : String} {policy : ThresholdLateEventPolicy}
    (h : clockOf correlationDocument = .ok (basis, timeField, policy)) :
    basis = .eventTime ∧ correlationDocument.cerberoTimeBasis = some "EVENT_TIME" ∧
      correlationDocument.cerberoTimeField = some timeField ∧
      correlationDocument.cerberoLateEventPolicy = some "ACCEPT" := by
  rw [clockOf] at h
  obtain ⟨basisText, hbasisText, h⟩ := bind_eq_ok.1 h
  simp only [check_bind_eq_ok, rejectImport_eq_ok, decide_eq_false_iff_not, not_not] at h
  obtain ⟨rfl, h⟩ := h
  obtain ⟨field, hfield, h⟩ := bind_eq_ok.1 h
  obtain ⟨policyText, hpolicyText, h⟩ := bind_eq_ok.1 h
  simp only [check_bind_eq_ok, rejectImport_eq_ok, decide_eq_false_iff_not, not_not] at h
  obtain ⟨rfl, h⟩ := h
  cases Except.ok.inj h
  rw [orImportError_eq_ok] at hbasisText hfield hpolicyText
  exact ⟨rfl, hbasisText, (Option.filter_eq_some_iff.1 hfield).1, hpolicyText⟩

/-- **An imported rule says what its pack says.** -/
theorem parseSigmaThresholdRule_eq_ok {imported : ImportedSigmaThresholdRule}
    (h : parseSigmaThresholdRule lib source = attempt (.ok imported)) :
    ∃ documents count, lib.fromYaml source = .ok documents ∧ Denotes documents count ∧
      count.Imported imported := by
  rw [parseSigmaThresholdRule] at h
  obtain ⟨documents, hdocuments, h⟩ := attempt_of_bind h
  rw [attempt_eq_attempt, mapError_eq_ok] at hdocuments
  obtain ⟨parts, hparts, h⟩ := attempt_of_bind h
  rw [attempt_eq_attempt, importDocuments] at hparts
  obtain ⟨⟨correlationDocument, correlation⟩, hcorrelation, hparts⟩ := bind_eq_ok.1 hparts
  obtain ⟨referenced, hreferenced, hparts⟩ := bind_eq_ok.1 hparts
  obtain ⟨selection, hselection, hparts⟩ := bind_eq_ok.1 hparts
  obtain ⟨filter, hfilter, hparts⟩ := bind_eq_ok.1 hparts
  obtain ⟨⟨ruleId, ruleVersion⟩, hidentity, hparts⟩ := bind_eq_ok.1 hparts
  obtain ⟨⟨basis, timeField, policy⟩, hclock, hparts⟩ := bind_eq_ok.1 hparts
  obtain ⟨level, -, hparts⟩ := bind_eq_ok.1 hparts
  obtain rfl := Except.ok.inj hparts
  obtain ⟨millis, hmillis, h⟩ := attempt_of_bind h
  obtain rfl := Except.ok.inj (Option.some.inj h)
  obtain ⟨hdocument, hcorrelation⟩ := correlationOf_eq_ok hcorrelation
  obtain ⟨htaxonomy, hstatus, hkind, hrules⟩ := referencedRule_eq_ok hreferenced
  obtain ⟨baseDocument, detection, hbase, hsshd, hdetection, hselection, hplain⟩ :=
    selectionOf_eq_ok hselection
  obtain ⟨hruleId, hruleVersion⟩ := identityOf_eq_ok hidentity
  obtain ⟨rfl, hbasis, htimeField, hpolicy⟩ := clockOf_eq_ok hclock
  let count : EventCount :=
    { selection := selection
      groupBy := correlation.groupBy
      gte := correlation.condition.gte.toNat
      timespanMillis := millis
      timeField := timeField
      ruleId := ruleId.value
      ruleVersion := ruleVersion }
  refine ⟨documents, count, hdocuments, ?_, ?_⟩
  · exact .mk hdocument hcorrelation htaxonomy hstatus hkind hrules hbase hsshd hdetection
      hselection hplain rfl rfl (parseTimespanMillis_eq_ok.1 hmillis) hbasis htimeField hpolicy
      hruleId hruleVersion
  · exact ⟨hfilter, rfl, rfl, rfl, rfl, rfl, rfl, rfl⟩

/-! ## Compilation -/

/-- What a compiled plan has to do with what its pack says. -/
structure EventCount.Compiled (count : EventCount) (plan : MvpCompiledThresholdPlan) : Prop where
  filter : ∃ filter, filterOfSelection count.selection = .ok filter ∧
    plan.filter.plan.predicates = lowerEventPredicate filter
  groupBy_eq : plan.groupBy = count.groupBy
  threshold_eq : plan.threshold = count.gte
  durationMillis_eq : plan.window.durationMillis = count.timespanMillis
  timeBasis_eq : plan.window.timeBasis = .eventTime
  timeField_eq : plan.window.timeField = count.timeField
  ruleId_eq : plan.filter.plan.ruleId.value = count.ruleId
  ruleVersion_eq : plan.filter.plan.ruleVersion = count.ruleVersion
  backend_eq : plan.filter.plan.backend = .clickHouse

/-- **A compiled rule says what its pack says.** -/
theorem compileThresholdRule_eq_ok {plan : MvpCompiledThresholdPlan}
    (h : compileThresholdRule lib source = attempt (.ok plan)) :
    ∃ documents count, lib.fromYaml source = .ok documents ∧ Denotes documents count ∧
      count.Compiled plan := by
  rw [compileThresholdRule] at h
  obtain ⟨imported, himported, h⟩ := attempt_of_bind h
  obtain ⟨_, -, h⟩ := attempt_of_bind h
  obtain ⟨_, -, h⟩ := attempt_of_bind h
  rw [attempt_eq_attempt, mapError_eq_ok] at h
  obtain ⟨hfilter, hgroupBy, hthreshold, hwindow⟩ := compileThresholdExecutionPlan_eq_ok h
  obtain ⟨hpredicates, hruleId, hruleVersion, hbackend⟩ := compileMvpPlan_eq_ok hfilter
  obtain ⟨documents, count, hdocuments, hdenotes, hcount⟩ :=
    parseSigmaThresholdRule_eq_ok (adapt_eq_attempt.1 himported)
  refine ⟨documents, count, hdocuments, hdenotes, ?_⟩
  exact
    { filter := ⟨_, hcount.filter_eq, hpredicates⟩
      groupBy_eq := hgroupBy.trans hcount.groupBy_eq
      threshold_eq := hthreshold.trans hcount.threshold_eq
      durationMillis_eq := (congrArg _ hwindow).trans hcount.durationMillis_eq
      timeBasis_eq := (congrArg _ hwindow).trans hcount.timeBasis_eq
      timeField_eq := (congrArg _ hwindow).trans hcount.timeField_eq
      ruleId_eq := hruleId.trans hcount.ruleId_eq
      ruleVersion_eq := hruleVersion.trans hcount.ruleVersion_eq
      backend_eq := hbackend }

/-! ## Evaluation -/

/-- A comparison holds of the text it names, and of nothing else. -/
theorem evaluate_eq_ok_true {event : NormalizedEvent} {field text : String} :
    evaluatePredicate (fieldState event) mvpPolicy (.comparison field .eq text) = .ok true ↔
      HasText event field text := by
  rw [evaluatePredicate, mvpPolicy, HasText]
  obtain v | _ | _ | _ := fieldState event field
  · cases v <;> simp
  · simp
  · simp
  · simp

/-- A conjunction holds if all its parts do. -/
theorem evaluateAll_eq_ok_true {state : String → EventFieldState Value}
    {predicates : List (EventPredicate String String)} :
    evaluateAll state mvpPolicy predicates = .ok true ↔
      ∀ p ∈ predicates, evaluatePredicate state mvpPolicy p = .ok true := by
  induction predicates with
  | nil => exact iff_of_true rfl fun _ h => absurd h List.not_mem_nil
  | cons p predicates ih =>
    rw [List.forall_mem_cons]
    by_cases hp : evaluatePredicate state mvpPolicy p = .ok true
    · rw [evaluateAll_of_true _ hp, ih, and_iff_right hp]
    · rw [evaluateAll_of_ne _ hp]
      exact iff_of_false hp fun h => hp h.1

/-- **The filter of a selection** holds of the events with the values of the selection. -/
theorem evaluate_filterOfSelection {selection : SortedMap String String}
    {filter : DetectionExpression String String} (h : filterOfSelection selection = .ok filter)
    (event : NormalizedEvent) :
    evaluatePredicate (fieldState event) mvpPolicy (lowerEventPredicate filter) = .ok true ↔
      ∀ field text, selection.get? field = some text → HasText event field text := by
  have hentries : (∀ field text, selection.get? field = some text → HasText event field text) ↔
      ∀ entry ∈ selection.toList, HasText event entry.1 entry.2 :=
    ⟨fun hall entry hentry => hall _ _ (SortedMap.mem_toList.1 hentry),
      fun hall field text hget => hall (field, text) (SortedMap.mem_toList.2 hget)⟩
  rw [hentries]
  obtain ⟨entry, hlist, rfl⟩ | rfl := filterOfSelection_eq_ok h
  · rw [hlist, List.forall_mem_singleton, lowerEventPredicate, evaluate_eq_ok_true]
  · rw [lowerEventPredicate, evaluatePredicate, lowerEventPredicates_eq_map,
      evaluateAll_eq_ok_true, List.map_map, List.forall_mem_map]
    refine forall₂_congr fun entry _ => ?_
    exact evaluate_eq_ok_true

/-- A field that is read as a text is there, as this text. -/
theorem eventStringField_eq_ok {event : NormalizedEvent} {field text : String} :
    eventStringField event field = .ok (some text) ↔ HasText event field text := by
  rw [eventStringField, HasText]
  obtain v | _ | _ | _ := fieldState event field
  · cases v <;> simp
  · simp
  · simp
  · simp

/-- The group values are the texts of the group fields. -/
theorem thresholdGroupKey_eq_ok {event : NormalizedEvent} {fields : List String} :
    ∀ {values : List String}, thresholdGroupKey event fields = .ok (some values) ↔
      List.Forall₂ (HasText event) fields values := by
  induction fields with
  | nil =>
    intro values
    rw [thresholdGroupKey, List.forall₂_nil_left_iff, Except.ok.injEq, Option.some_inj]
    exact eq_comm
  | cons field fields ih =>
    intro values
    rw [thresholdGroupKey, List.forall₂_cons_left_iff, bind_eq_ok]
    constructor
    · rintro ⟨o, ho, h⟩
      obtain _ | value := o
      · cases h
      · obtain ⟨o', ho', h⟩ := bind_eq_ok.1 h
        obtain ⟨rest, rfl, rfl⟩ := Option.map_eq_some_iff.1 (Except.ok.inj h)
        exact ⟨value, rest, eventStringField_eq_ok.1 ho, ih.1 ho', rfl⟩
    · rintro ⟨value, rest, hvalue, hrest, rfl⟩
      refine ⟨some value, eventStringField_eq_ok.2 hvalue, ?_⟩
      exact bind_eq_ok.2 ⟨some rest, ih.2 hrest, rfl⟩

/-- A field that is read as a number is there, as this number. -/
theorem eventIntegerField_eq_ok {event : NormalizedEvent} {field : String} {millis : ℤ} :
    eventIntegerField event field = .ok (some millis) ↔
      ∃ number, fieldState event field = .present (.numberValue number) ∧
        f64Integral number = some millis := by
  rw [eventIntegerField]
  obtain v | _ | _ | _ := fieldState event field
  · cases v with
    | numberValue number =>
      cases hintegral : f64Integral number <;> simp [hintegral]
    | _ => simp
  · simp
  · simp
  · simp

/-- The plan of an MVP rule returns what its predicate does. -/
theorem evaluate_filter_eq_map (plan : MvpCompiledThresholdPlan) (event : NormalizedEvent) :
    evaluateEventExecutionPlan plan.filter.plan (fieldState event)
        mvpThresholdPolicy.toEventLeafEvaluationPolicy =
      (evaluatePredicate (fieldState event) mvpPolicy plan.filter.plan.predicates).map
        EventEvaluationResult.ofBool := by
  show (do
    if ← evaluatePredicate (fieldState event) mvpPolicy plan.filter.plan.predicates then
      return EventEvaluationResult.match
    else return EventEvaluationResult.noMatch) = _
  obtain e | _ | _ := evaluatePredicate (fieldState event) mvpPolicy plan.filter.plan.predicates
  · rfl
  · rfl
  · rfl

/-- An event takes part if it matches the filter and has a group and a time. -/
theorem participation_eq_ok {plan : MvpCompiledThresholdPlan} {event : NormalizedEvent}
    {values : List String} {millis : ℤ} :
    participation plan mvpThresholdPolicy event = .ok (some (values, millis)) ↔
      evaluatePredicate (fieldState event) mvpPolicy plan.filter.plan.predicates = .ok true ∧
      thresholdGroupKey event plan.groupBy = .ok (some values) ∧
      mvpThresholdPolicy.thresholdEventTimeMillis plan.window.timeBasis plan.window.timeField
        event = .ok (some millis) := by
  rw [participation, evaluate_filter_eq_map]
  obtain e | _ | _ := evaluatePredicate (fieldState event) mvpPolicy plan.filter.plan.predicates
  · exact iff_of_false (fun h => by cases h) fun h => by cases h.1
  · exact iff_of_false (fun h => by cases h) fun h => by cases h.1
  · rw [and_iff_right rfl]
    show (thresholdGroupKey event plan.groupBy >>= _) = _ ↔ _
    rw [bind_eq_ok]
    constructor
    · rintro ⟨o, ho, h⟩
      obtain _ | values' := o
      · cases h
      · obtain ⟨o', ho', h⟩ := bind_eq_ok.1 h
        obtain _ | millis' := o'
        · cases h
        · cases Except.ok.inj h
          exact ⟨ho, ho'⟩
    · rintro ⟨hvalues, hmillis⟩
      exact ⟨some values, hvalues, bind_eq_ok.2 ⟨some millis, hmillis, rfl⟩⟩

/-- **The candidates of a compiled rule** are the events its pack counts. -/
theorem EventCount.Compiled.matching_iff {count : EventCount} {plan : MvpCompiledThresholdPlan}
    (h : count.Compiled plan) {events : Set NormalizedEvent} {key : String ×ₗ List String}
    {c : Candidate} :
    Matching plan mvpThresholdPolicy events key c ↔ count.Counted events key c := by
  obtain ⟨filter, hfilter, hpredicates⟩ := h.filter
  refine exists_congr fun event => and_congr_right fun _ => and_congr_right fun _ => ?_
  rw [participation_eq_ok, hpredicates, evaluate_filterOfSelection hfilter, h.groupBy_eq,
    thresholdGroupKey_eq_ok, h.timeBasis_eq, h.timeField_eq]
  show _ ∧ _ ∧ _ ∧ eventIntegerField event count.timeField = _ ↔ _
  rw [eventIntegerField_eq_ok]
  constructor
  · rintro ⟨htenant, hselected, hgrouped, hclock⟩
    exact ⟨htenant, hselected, hgrouped, hclock⟩
  · rintro ⟨htenant, hselected, hgrouped, hclock⟩
    exact ⟨htenant, hselected, hgrouped, hclock⟩

/-- The report of a burst is the match of its window. -/
theorem EventCount.Compiled.report_eq {count : EventCount} {plan : MvpCompiledThresholdPlan}
    (h : count.Compiled plan) (executionMode : ExecutionMode) (evaluatedAt : Timestamp)
    (key : String ×ₗ List String) (contributors : List Candidate) :
    count.report executionMode evaluatedAt key contributors =
      matchOfWindow plan executionMode evaluatedAt (ofLex key).1 contributors := by
  have hruleId : (⟨count.ruleId⟩ : RuleId) = plan.filter.plan.ruleId := by rw [← h.ruleId_eq]
  have hruleVersion := h.ruleVersion_eq.symm
  have hbackend := h.backend_eq.symm
  rw [EventCount.report, matchOfWindow, hruleId, hruleVersion, hbackend]
  rfl

/-- **A match of the evaluator is an earliest burst.** -/
theorem EventCount.Compiled.earliestBurst {count : EventCount} {plan : MvpCompiledThresholdPlan}
    (h : count.Compiled plan) {events : Set NormalizedEvent} {key : String ×ₗ List String}
    {found : ThresholdSignalProvenance String} {contributors : List Candidate}
    {first last : Candidate}
    (hmatch : EarliestMatch plan mvpThresholdPolicy events key found contributors first last) :
    count.EarliestBurst events key contributors := by
  have hcounted : Matching plan mvpThresholdPolicy events key = count.Counted events key :=
    funext fun c => propext h.matching_iff
  refine isEarliest_of_window last Candidate.neverDecreases_eventTimeMillis
    hmatch.sorted (hmatch.length_eq.trans h.threshold_eq) ?_ ?_ (h.threshold_eq ▸ plan.threshold_pos)
  · intro c hc
    rw [← h.matching_iff, ← h.durationMillis_eq]
    exact (hmatch.mem_iff c).1 hc
  · intro c hc hfull
    rw [← hcounted, ← h.durationMillis_eq, ← h.threshold_eq] at hfull
    exact hmatch.least c (h.matching_iff.2 hc) hfull

/-! ## The rows of a batch -/

/-- Every event is under its identifier. -/
def UnderIdentifier (unique : SortedMap String BatchEvent) : Prop :=
  ∀ id batchEvent, unique.get? id = some batchEvent → batchEvent.event.normalizedEventId = id

theorem underIdentifier_uniqueEvents {batchLib : BatchLibraries}
    {rows : List StoredNormalizedRow} : ∀ {unique unique' : SortedMap String BatchEvent},
      UnderIdentifier unique → uniqueEvents batchLib unique rows = .ok unique' →
        UnderIdentifier unique' := by
  induction rows with
  | nil =>
    intro unique unique' hunique h
    obtain rfl := Except.ok.inj h
    exact hunique
  | cons row rows ih =>
    intro unique unique' hunique h
    rw [uniqueEvents] at h
    obtain ⟨batchEvent, -, h⟩ := bind_eq_ok.1 h
    dsimp only at h
    split at h
    · rw [check_bind_eq_ok] at h
      exact ih hunique h.2
    · refine ih ?_ h
      intro id stored hget
      rw [SortedMap.get?_insert] at hget
      split_ifs at hget with hid
      · obtain rfl := Option.some.inj hget
        exact hid.symm
      · exact hunique id stored hget

/-- The events of a batch. -/
def batchEvents (batch : List BatchEvent) : Set NormalizedEvent :=
  {event | event ∈ batch.map BatchEvent.event}

/-- **Events of a batch with equal identifiers are equal.** -/
theorem coherent_loadRows {batchLib : BatchLibraries} {rows : List StoredNormalizedRow}
    {batch : List BatchEvent} (h : loadRows batchLib rows = .ok batch) :
    Coherent (batchEvents batch) := by
  rw [loadRows] at h
  obtain ⟨unique, hunique, h⟩ := bind_eq_ok.1 h
  obtain rfl := Except.ok.inj h
  have hunder : UnderIdentifier unique :=
    underIdentifier_uniqueEvents (fun id _ hget => by cases hget) hunique
  intro a ha b hb hab
  obtain ⟨batchEvent, hbatch, rfl⟩ := List.mem_map.1 ha
  obtain ⟨batchEvent', hbatch', rfl⟩ := List.mem_map.1 hb
  rw [List.mem_insertionSort] at hbatch hbatch'
  obtain ⟨⟨id, _⟩, hentry, rfl⟩ := List.mem_map.1 hbatch
  obtain ⟨⟨id', _⟩, hentry', rfl⟩ := List.mem_map.1 hbatch'
  rw [SortedMap.mem_toList] at hentry hentry'
  have hid := (hunder _ _ hentry).symm.trans (hab.trans (hunder _ _ hentry'))
  subst hid
  rw [hentry] at hentry'
  rw [Option.some.inj hentry']

/-- Rows that are read as one event are one event. -/
theorem intoBatchEvent_congr {batchLib batchLib' : BatchLibraries} {row row' : StoredNormalizedRow}
    (hrow : row' = { row with ocsfEventJson := row'.ocsfEventJson })
    (hread : batchLib.fromStr row.ocsfEventJson = batchLib'.fromStr row'.ocsfEventJson)
    (hbits : batchLib.f64Bits = batchLib'.f64Bits) :
    row.intoBatchEvent batchLib = row'.intoBatchEvent batchLib' := by
  rw [StoredNormalizedRow.intoBatchEvent, StoredNormalizedRow.intoBatchEvent, hread, hbits, hrow]
  rfl

theorem uniqueEvents_congr {batchLib batchLib' : BatchLibraries}
    {rows rows' : List StoredNormalizedRow} (h : List.Forall₂ (fun row row' =>
      row.intoBatchEvent batchLib = row'.intoBatchEvent batchLib') rows rows') :
    ∀ unique, uniqueEvents batchLib unique rows = uniqueEvents batchLib' unique rows' := by
  induction h with
  | nil => exact fun _ => rfl
  | cons hrow _ ih =>
    intro unique
    rw [uniqueEvents, uniqueEvents, hrow]
    simp only [ih]

/-- **A batch is what its rows are read as.** -/
theorem loadRows_congr {batchLib batchLib' : BatchLibraries} {rows rows' : List StoredNormalizedRow}
    (h : List.Forall₂ (fun row row' =>
      row.intoBatchEvent batchLib = row'.intoBatchEvent batchLib') rows rows') :
    loadRows batchLib rows = loadRows batchLib' rows' := by
  rw [loadRows, loadRows, uniqueEvents_congr h]

/-! ## From the pack to the matches -/

/-- **The matches of a compiled plan** are the reports of the earliest bursts of the tenants and
groups that have one. -/
theorem EventCount.Compiled.mem_thresholdMatches {count : EventCount}
    {plan : MvpCompiledThresholdPlan} (hcount : count.Compiled plan) {batch : List BatchEvent}
    (hcoh : Coherent (batchEvents batch)) {request : MvpBatchRequest}
    {found : List (ThresholdSignalProvenance String)}
    (hfound : thresholdMatches request plan batch = .ok found) :
    (∀ m, m ∈ found ↔ ∃ key contributors,
      count.EarliestBurst (batchEvents batch) key contributors ∧
        m = count.report request.executionMode request.evaluatedAt key contributors) ∧
    ∀ key, (∃ S, count.Burst (batchEvents batch) key S) ↔
      ∃ contributors, count.EarliestBurst (batchEvents batch) key contributors := by
  rw [thresholdMatches, mapError_eq_ok] at hfound
  obtain ⟨state, hholds, -⟩ := evaluateThreshold_eq_ok hcoh hfound
  -- a group with a burst has a match
  have hexists : ∀ key S, count.Burst (batchEvents batch) key S → ∃ contributors first last,
      EarliestMatch plan mvpThresholdPolicy (batchEvents batch) key
        (matchOfWindow plan request.executionMode request.evaluatedAt (ofLex key).1 contributors)
        contributors first last := by
    intro key S hS
    have hreaches : Reaches plan mvpThresholdPolicy (batchEvents batch) key := by
      refine ⟨S, hcount.threshold_eq ▸ hS.many, fun c hc => hcount.matching_iff.2 (hS.holds c hc), ?_⟩
      rw [hcount.durationMillis_eq]
      exact hS.close
    obtain ⟨candidates, hget⟩ := hholds.exists_get hreaches
    obtain ⟨window, hwindow⟩ := Option.isSome_iff_exists.1 ((hholds.windowOf_isSome hget).2 hreaches)
    exact ⟨window, hholds.earliestMatch hget hwindow request.executionMode request.evaluatedAt⟩
  refine ⟨fun m => ?_, fun key => ⟨?_, ?_⟩⟩
  · rw [mem_evaluateThreshold hcoh hfound]
    constructor
    · rintro ⟨key, contributors, first, last, hmatch, rfl⟩
      exact ⟨key, contributors, hcount.earliestBurst hmatch, (hcount.report_eq _ _ _ _).symm⟩
    · rintro ⟨key, contributors, hearliest, rfl⟩
      obtain ⟨window, first, last, hmatch⟩ := hexists key _ hearliest.burst
      obtain rfl : window = contributors := IsEarliest.unique
        Candidate.neverDecreases_eventTimeMillis (hcount.earliestBurst hmatch) hearliest
      rw [hcount.report_eq]
      exact ⟨key, window, first, last, hmatch, rfl⟩
  · rintro ⟨S, hS⟩
    obtain ⟨contributors, first, last, hmatch⟩ := hexists key S hS
    exact ⟨contributors, hcount.earliestBurst hmatch⟩
  · rintro ⟨contributors, hearliest⟩
    exact ⟨_, hearliest.burst⟩

/-- **A compiled Sigma rule detects what its pack says.**  For every source of a rule that compiles
and all rows of a batch, the matches are the reports of the earliest bursts of the tenants and
groups that have one. -/
theorem mem_thresholdMatches_iff {plan : MvpCompiledThresholdPlan} {batchLib : BatchLibraries}
    {rows : List StoredNormalizedRow} {batch : List BatchEvent} {request : MvpBatchRequest}
    {found : List (ThresholdSignalProvenance String)}
    (hcompile : compileThresholdRule lib source = attempt (.ok plan))
    (hload : loadRows batchLib rows = .ok batch)
    (hfound : thresholdMatches request plan batch = .ok found) :
    ∃ documents count, lib.fromYaml source = .ok documents ∧ Denotes documents count ∧
      (∀ m, m ∈ found ↔ ∃ key contributors,
        count.EarliestBurst (batchEvents batch) key contributors ∧
          m = count.report request.executionMode request.evaluatedAt key contributors) ∧
      ∀ key, (∃ S, count.Burst (batchEvents batch) key S) ↔
        ∃ contributors, count.EarliestBurst (batchEvents batch) key contributors := by
  obtain ⟨documents, count, hdocuments, hdenotes, hcount⟩ := compileThresholdRule_eq_ok hcompile
  obtain ⟨hmem, hexists⟩ := hcount.mem_thresholdMatches (coherent_loadRows hload) hfound
  exact ⟨documents, count, hdocuments, hdenotes, hmem, hexists⟩

/-! ## A run -/

/-- The text of a pack: three failed logons of a user within five minutes. -/
def sampleSource : String := "\n".intercalate
  ["title: Failed login",
    "name: failed_login",
    "taxonomy: ocsf",
    "logsource:",
    "    product: linux",
    "    service: sshd",
    "detection:",
    "    selection:",
    "        activity_name: Logon",
    "        status: Failure",
    "    condition: selection",
    "---",
    "title: Failed login burst",
    "status: stable",
    "taxonomy: ocsf",
    "correlation:",
    "    type: event_count",
    "    rules:",
    "        - failed_login",
    "    group-by:",
    "        - user.name",
    "    timespan: 5m",
    "    condition:",
    "        gte: 3",
    "level: high",
    "cerbero_rule_id: CER-DET-000001",
    "cerbero_rule_version: '1'",
    "cerbero_time_basis: EVENT_TIME",
    "cerbero_time_field: time",
    "cerbero_late_event_policy: ACCEPT",
    ""]

def sampleBaseDocument : SigmaDocument where
  title := "Failed login"
  id := none
  name := some "failed_login"
  taxonomy := some "ocsf"
  status := none
  logsource := some ⟨some "linux", some "sshd"⟩
  detection := some ⟨"selection", SortedMap.empty.insert "selection"
    ((SortedMap.empty.insert "activity_name" "Logon").insert "status" "Failure")⟩
  correlation := none
  level := none
  cerberoRuleId := none
  cerberoRuleVersion := none
  cerberoTimeBasis := none
  cerberoTimeField := none
  cerberoLateEventPolicy := none

def sampleCorrelationDocument : SigmaDocument where
  title := "Failed login burst"
  id := none
  name := none
  taxonomy := some "ocsf"
  status := some "stable"
  logsource := none
  detection := none
  correlation := some ⟨"event_count", ["failed_login"], ["user.name"], "5m", ⟨3⟩⟩
  level := some "high"
  cerberoRuleId := some "CER-DET-000001"
  cerberoRuleVersion := some "1"
  cerberoTimeBasis := some "EVENT_TIME"
  cerberoTimeField := some "time"
  cerberoLateEventPolicy := some "ACCEPT"

/-- The documents of the pack, in a library that knows its text. -/
def sampleImportLibraries : ImportLibraries where
  fromYaml source :=
    if source = sampleSource then .ok [sampleBaseDocument, sampleCorrelationDocument]
    else .error "another text"
  debug := Text.debug
  sha256LowerHex := sha256LowerHex

/-- A logon of a user, some seconds after the first one. -/
structure SampleLogon where
  last : Char
  user : String
  status : String
  seconds : ℕ
  deriving DecidableEq

/-- The OCSF event of a logon. -/
def SampleLogon.json (logon : SampleLogon) : Json :=
  .object [("activity_name", .string "Logon"), ("status", .string logon.status),
    ("time", .ofInt (1789000000000 + 1000 * logon.seconds)),
    ("user", .object [("name", .string logon.user)])]

/-- The row of a logon, with a text for its event. -/
def SampleLogon.row (logon : SampleLogon) (ocsfEventJson : String) : StoredNormalizedRow :=
  sampleRow ("01890a5d-ac96-774b-bcce-b302099a820".push logon.last) (1789000000 + logon.seconds) 0
    ocsfEventJson

/-- Of `root`, four failures and a success, the last failure more than five minutes after the
first two; of `guest`, two failures. -/
def sampleLogons : List SampleLogon :=
  [⟨'1', "root", "Failure", 0⟩, ⟨'2', "guest", "Failure", 10⟩, ⟨'3', "root", "Success", 20⟩,
    ⟨'4', "root", "Failure", 100⟩, ⟨'5', "guest", "Failure", 110⟩, ⟨'6', "root", "Failure", 300⟩,
    ⟨'7', "root", "Failure", 500⟩]

def sampleBurstRows : List StoredNormalizedRow :=
  sampleLogons.map fun logon => logon.row logon.json.render

/-- JSON is read as it stands; the numbers of the sample are whole. -/
def sampleBurstLibraries : BatchLibraries where
  fromStr := Normalizer.readText
  f64Bits text := (parseUnsigned (2 ^ 53 - 1) text.toList).map Normalizer.natF64Bits
  sha256LowerHex := sha256LowerHex

/-- Each event under one character, to evaluate the batch without reading JSON. -/
def keyedLibraries : BatchLibraries :=
  { sampleBurstLibraries with
    fromStr := fun text =>
      (sampleLogons.find? fun logon => String.singleton logon.last = text).map SampleLogon.json }

def keyedRows : List StoredNormalizedRow :=
  sampleLogons.map fun logon => logon.row (String.singleton logon.last)

theorem wellFormed_sampleLogon (logon : SampleLogon) : logon.json.WellFormed := by
  simp [SampleLogon.json, Json.WellFormed, Json.WellFormedMembers, Json.WellFormedMember,
    Json.wellFormed_ofInt]

theorem fromStr_render (logon : SampleLogon) :
    sampleBurstLibraries.fromStr logon.json.render = some logon.json := by
  simp only [sampleBurstLibraries, Normalizer.readText]
  exact Json.read_render (wellFormed_sampleLogon logon)

theorem fromStr_keyed : ∀ logon ∈ sampleLogons,
    keyedLibraries.fromStr (String.singleton logon.last) = some logon.json := by
  intro logon hlogon
  have hfind : ∀ logon ∈ sampleLogons, (sampleLogons.find? fun other =>
      String.singleton other.last = String.singleton logon.last) = some logon := by
    decide +kernel
  simp only [keyedLibraries, hfind logon hlogon, Option.map_some]

/-- The text of an event is read as what its key stands for. -/
theorem loadRows_sample :
    loadRows sampleBurstLibraries sampleBurstRows = loadRows keyedLibraries keyedRows := by
  refine loadRows_congr (List.forall₂_map_left_iff.2 (List.forall₂_map_right_iff.2
    (List.forall₂_same.2 fun logon hlogon => ?_)))
  have hread := (fromStr_render logon).trans (fromStr_keyed logon hlogon).symm
  have hrow : logon.row (String.singleton logon.last) =
      { logon.row logon.json.render with ocsfEventJson := String.singleton logon.last } := rfl
  exact intoBatchEvent_congr hrow hread rfl

/-- The pack is compiled, and evaluated over the rows. -/
def sampleBurstRun : Panicking RuntimeError
    (MvpCompiledThresholdPlan × List BatchEvent × List (ThresholdSignalProvenance String)) := do
  let plan ← compileThresholdRule sampleImportLibraries sampleSource
  let batch ← attempt (loadRows keyedLibraries keyedRows)
  let found ← attempt (thresholdMatches sampleRequest plan batch)
  return (plan, batch, found)

/-- The first three failures of `root`, five minutes apart at most. -/
def sampleContributors : List String :=
  ["01890a5d-ac96-774b-bcce-b302099a8201", "01890a5d-ac96-774b-bcce-b302099a8204",
    "01890a5d-ac96-774b-bcce-b302099a8206"]

theorem sampleBurstRun_eq : sampleBurstRun.run.bind (fun made => made.toOption.map fun made =>
      made.2.2.map ThresholdSignalProvenance.normalizedEventIds) = some [sampleContributors] := by
  decide +kernel

/-- The sample compiles, and has one match. -/
theorem exists_sampleBurst : ∃ plan batch found,
    compileThresholdRule sampleImportLibraries sampleSource = attempt (.ok plan) ∧
    loadRows sampleBurstLibraries sampleBurstRows = .ok batch ∧
    thresholdMatches sampleRequest plan batch = .ok found ∧
    found.map ThresholdSignalProvenance.normalizedEventIds = [sampleContributors] := by
  obtain ⟨answer, hrun, hanswer⟩ := Option.bind_eq_some_iff.1 sampleBurstRun_eq
  obtain ⟨made, hmade, hfound⟩ := Option.map_eq_some_iff.1 hanswer
  cases answer with
  | error e => cases hmade
  | ok made' =>
    obtain rfl := Option.some.inj hmade
    obtain ⟨plan, hplan, h⟩ := attempt_of_bind (b := made') hrun
    obtain ⟨batch, hbatch, h⟩ := attempt_of_bind h
    obtain ⟨found, hmatches, h⟩ := attempt_of_bind h
    rw [attempt_eq_attempt] at hbatch hmatches
    have hmade' : attempt (.ok (plan, batch, found)) = attempt (.ok made') := h
    obtain rfl := Except.ok.inj (attempt_eq_attempt.1 hmade')
    exact ⟨plan, batch, found, hplan, loadRows_sample.trans hbatch, hmatches, hfound⟩

theorem mem_thresholdMatches_iff_sampleBurst : ∃ plan batch found documents count,
    compileThresholdRule sampleImportLibraries sampleSource = attempt (.ok plan) ∧
    loadRows sampleBurstLibraries sampleBurstRows = .ok batch ∧
    thresholdMatches sampleRequest plan batch = .ok found ∧
    found.map ThresholdSignalProvenance.normalizedEventIds = [sampleContributors] ∧
    sampleImportLibraries.fromYaml sampleSource = .ok documents ∧ Denotes documents count ∧
    (∀ m, m ∈ found ↔ ∃ key contributors,
      count.EarliestBurst (batchEvents batch) key contributors ∧
        m = count.report sampleRequest.executionMode sampleRequest.evaluatedAt key contributors) ∧
    ∀ key, (∃ S, count.Burst (batchEvents batch) key S) ↔
      ∃ contributors, count.EarliestBurst (batchEvents batch) key contributors := by
  obtain ⟨plan, batch, found, hcompile, hload, hfound, hids⟩ := exists_sampleBurst
  obtain ⟨documents, count, hdocuments, hdenotes, hmem, hexists⟩ :=
    mem_thresholdMatches_iff hcompile hload hfound
  exact ⟨plan, batch, found, documents, count, hcompile, hload, hfound, hids, hdocuments, hdenotes,
    hmem, hexists⟩

end Detection

end Cerbero
