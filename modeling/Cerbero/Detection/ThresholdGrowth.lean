import Cerbero.Detection.ThresholdExact

/-!
# Detection/ThresholdGrowth — later events leave a match as it is

A match is determined by the candidates of its group up to its last contributor
(`EarliestMatch.of_agree`).  So a list of events that is continued by later ones keeps its matches,
contributors and times included, whatever matches the other groups gain
(`evaluateThreshold_append`).  What the continuation can do is make the whole batch fail: by an
event whose identifiers are invalid, or by a match whose times are
(`exists_evaluateThreshold_eq_ok_iff`).
-/

namespace Cerbero

namespace Detection

open EarliestWindow

/-! ## Policies without errors -/

section

variable {Field RuleValue GroupKey Error : Type}
  {policy : ThresholdEvaluationPolicy Field RuleValue GroupKey Error}

/-- **A policy that returns no error.** -/
structure ThresholdEvaluationPolicy.NeverFails
    (policy : ThresholdEvaluationPolicy Field RuleValue GroupKey Error) : Prop where
  evaluateExists : ∀ field state, ∃ b, policy.evaluateExists field state = .ok b
  evaluateComparison : ∀ field state operator value,
    ∃ b, policy.evaluateComparison field state operator value = .ok b
  thresholdGroupKey : ∀ groupBy event, ∃ o, policy.thresholdGroupKey groupBy event = .ok o
  thresholdEventTimeMillis : ∀ timeBasis timeField event,
    ∃ o, policy.thresholdEventTimeMillis timeBasis timeField event = .ok o

mutual

theorem exists_evaluatePredicate_eq_ok
    (h : policy.NeverFails) (state : Field → EventFieldState Value) :
    ∀ predicate : EventPredicate Field RuleValue, ∃ b,
      evaluatePredicate state policy.toEventLeafEvaluationPolicy predicate = .ok b
  | .and children => exists_evaluateAll_eq_ok h state children
  | .or children => exists_evaluateAny_eq_ok h state children
  | .not child => by
      obtain ⟨b, hb⟩ := exists_evaluatePredicate_eq_ok h state child
      exact ⟨!b, by rw [evaluatePredicate, hb]; rfl⟩
  | .comparison field operator value => h.evaluateComparison field (state field) operator value
  | .exists field => h.evaluateExists field (state field)

theorem exists_evaluateAll_eq_ok
    (h : policy.NeverFails) (state : Field → EventFieldState Value) :
    ∀ children : List (EventPredicate Field RuleValue), ∃ b,
      evaluateAll state policy.toEventLeafEvaluationPolicy children = .ok b
  | [] => ⟨true, rfl⟩
  | child :: children => by
      obtain ⟨b, hb⟩ := exists_evaluatePredicate_eq_ok h state child
      obtain ⟨b', hb'⟩ := exists_evaluateAll_eq_ok h state children
      rw [evaluateAll, hb, ok_bind]
      cases b
      · exact ⟨false, rfl⟩
      · exact ⟨b', hb'⟩

theorem exists_evaluateAny_eq_ok
    (h : policy.NeverFails) (state : Field → EventFieldState Value) :
    ∀ children : List (EventPredicate Field RuleValue), ∃ b,
      evaluateAny state policy.toEventLeafEvaluationPolicy children = .ok b
  | [] => ⟨false, rfl⟩
  | child :: children => by
      obtain ⟨b, hb⟩ := exists_evaluatePredicate_eq_ok h state child
      obtain ⟨b', hb'⟩ := exists_evaluateAny_eq_ok h state children
      rw [evaluateAny, hb, ok_bind]
      cases b
      · exact ⟨b', hb'⟩
      · exact ⟨true, rfl⟩

end

end

variable {Field RuleValue RuleVersion Plan Profile GroupKey Error : Type} [AsRefStr Field]
  [EventExecutionPlanView Plan Field RuleValue]
  {plan : CompiledThresholdExecutionPlan Plan Profile Field}
  {policy : ThresholdEvaluationPolicy Field RuleValue GroupKey Error}
  {key : String ×ₗ GroupKey} {m m' : ThresholdSignalProvenance RuleVersion}
  {contributors contributors' : List Candidate} {first first' last last' : Candidate}

/-- Such a policy answers on every event. -/
theorem ThresholdEvaluationPolicy.NeverFails.participation (h : policy.NeverFails)
    (plan : CompiledThresholdExecutionPlan Plan Profile Field) (event : NormalizedEvent) :
    ∃ o, Detection.participation plan policy event = .ok o := by
  obtain ⟨b, hb⟩ := exists_evaluatePredicate_eq_ok h (fieldState event)
    (EventExecutionPlanView.eventPredicates plan.filter.plan)
  obtain ⟨groupKey, hkey⟩ := h.thresholdGroupKey plan.groupBy event
  obtain ⟨time, htime⟩ :=
    h.thresholdEventTimeMillis plan.window.timeBasis plan.window.timeField event
  rw [Detection.participation, evaluateEventExecutionPlan, hb, ok_bind]
  cases b
  · exact ⟨none, rfl⟩
  · cases groupKey with
    | none => exact ⟨none, by simp only [if_true, pure_bind, hkey, ok_bind]; rfl⟩
    | some groupKey =>
      cases time with
      | none => exact ⟨none, by simp only [if_true, pure_bind, hkey, htime, ok_bind]; rfl⟩
      | some time => exact ⟨_, by simp only [if_true, pure_bind, hkey, htime, ok_bind]; rfl⟩

/-! ## The specification determines the match -/

section

variable {events events' : Set NormalizedEvent}

theorem EarliestMatch.matching_last
    (h : EarliestMatch plan policy events key m contributors first last) :
    Matching plan policy events key last :=
  ((h.mem_iff last).1 (List.mem_of_getLast? h.getLast_eq)).1

theorem EarliestMatch.reaches
    (h : EarliestMatch plan policy events key m contributors first last) :
    Reaches plan policy events key := by
  obtain ⟨S, hcard, hS, hclose⟩ := h.full
  exact ⟨S, hcard, fun c hc => (hS c hc).1, hclose⟩

theorem EarliestMatch.last_unique
    (h : EarliestMatch plan policy events key m contributors first last)
    (h' : EarliestMatch plan policy events key m' contributors' first' last') : last = last' :=
  le_antisymm (h.least _ h'.matching_last h'.full) (h'.least _ h.matching_last h.full)

/-- **A group has one earliest match.** -/
theorem EarliestMatch.contributors_unique
    (h : EarliestMatch plan policy events key m contributors first last)
    (h' : EarliestMatch plan policy events key m' contributors' first' last') :
    contributors = contributors' := by
  obtain rfl := h.last_unique h'
  have hperm : contributors.Perm contributors' :=
    (List.perm_ext_iff_of_nodup (h.sorted.imp fun h => h.ne) (h'.sorted.imp fun h => h.ne)).2
      fun c => (h.mem_iff c).trans (h'.mem_iff c).symm
  exact hperm.eq_of_pairwise (fun a b _ _ hab hba => absurd hba hab.asymm) h.sorted h'.sorted

/-- **The match depends on the candidates up to its last contributor only.** -/
theorem EarliestMatch.of_agree
    (h : EarliestMatch plan policy events key m contributors first last)
    (hagree : ∀ c ≤ last, Matching plan policy events' key c ↔ Matching plan policy events key c) :
    EarliestMatch plan policy events' key m contributors first last :=
  { h with
    mem_iff := fun c => (h.mem_iff c).trans
      ⟨fun ⟨hc, hle, hclose⟩ => ⟨(hagree c hle).2 hc, hle, hclose⟩,
        fun ⟨hc, hle, hclose⟩ => ⟨(hagree c hle).1 hc, hle, hclose⟩⟩
    full := by
      obtain ⟨S, hcard, hS, hclose⟩ := h.full
      exact ⟨S, hcard, fun c hc => ⟨(hagree c (hS c hc).2).2 (hS c hc).1, (hS c hc).2⟩, hclose⟩
    least := fun c hc hfull => by
      by_contra hlt
      -- a set that is full below `last` is one of the old candidates
      have hle : c ≤ last := (not_le.1 hlt).le
      obtain ⟨S, hcard, hS, hclose⟩ := hfull
      exact hlt (h.least c ((hagree c hle).1 hc) ⟨S, hcard, fun x hx =>
        ⟨(hagree x ((hS x hx).2.trans hle)).1 (hS x hx).1, (hS x hx).2⟩, hclose⟩) }

end

theorem matching_append {A B : List NormalizedEvent} {c : Candidate} :
    Matching plan policy {e | e ∈ A ++ B} key c ↔
      Matching plan policy {e | e ∈ A} key c ∨ Matching plan policy {e | e ∈ B} key c := by
  simp only [Matching, Set.mem_ofPred_eq, List.mem_append, or_and_right, exists_or]

/-- **Later candidates leave the match as it is.** -/
theorem EarliestMatch.append {A B : List NormalizedEvent}
    (h : EarliestMatch plan policy {e | e ∈ A} key m contributors first last)
    (hlater : ∀ c, Matching plan policy {e | e ∈ B} key c → last < c) :
    EarliestMatch plan policy {e | e ∈ A ++ B} key m contributors first last := by
  refine h.of_agree fun c hle => ?_
  rw [matching_append, or_iff_left fun hB => (hlater c hB).not_ge hle]

/-- The mode and the clock of the evaluation do not matter to what a match is. -/
theorem EarliestMatch.restamp {events : Set NormalizedEvent}
    (h : EarliestMatch plan policy events key m contributors first last)
    (evaluatedAt : Timestamp) (executionMode : ExecutionMode) :
    EarliestMatch plan policy events key
      { m with evaluatedAt := evaluatedAt, executionMode := executionMode }
      contributors first last :=
  { h with
    tenantId_eq := h.tenantId_eq
    normalizedEventIds_eq := h.normalizedEventIds_eq
    firstObservedAt_eq := h.firstObservedAt_eq
    lastObservedAt_eq := h.lastObservedAt_eq }

/-! ## The matches an evaluation returns -/

variable [EventSignalExecutionPlanView Plan RuleVersion]

/-- The match of a group is what the evaluator makes of its contributors. -/
theorem EarliestMatch.eq_matchOfWindow {events : Set NormalizedEvent}
    {executionMode : ExecutionMode} {evaluatedAt : Timestamp} {tenantId : String}
    {window : List Candidate}
    (h : EarliestMatch plan policy events key m contributors first last)
    (hm : m = matchOfWindow plan executionMode evaluatedAt tenantId window) :
    m = matchOfWindow plan executionMode evaluatedAt (ofLex key).1 contributors := by
  have htenant := h.tenantId_eq
  have hids := h.normalizedEventIds_eq
  have hfirst := h.firstObservedAt_eq
  have hlast := h.lastObservedAt_eq
  subst hm
  simp only [matchOfWindow] at htenant hids hfirst hlast ⊢
  rw [htenant, hids, hfirst, hlast, List.getLastD_eq_getLast?, h.getLast_eq,
    List.headD_eq_head?_getD, h.head_eq]
  rfl

variable [LinearOrder GroupKey]

/-- The window of a group that has a match. -/
theorem Collected.Holds.exists_windowOf_eq {events : Set NormalizedEvent}
    {state : Collected GroupKey} (hholds : state.Holds plan policy events)
    (h : EarliestMatch plan policy events key m contributors first last) :
    ∃ candidates, (key, candidates) ∈ state.groups.toList ∧
      windowOf plan candidates = some contributors := by
  obtain ⟨candidates, hget⟩ := hholds.exists_get h.reaches
  obtain ⟨window, hwin⟩ :=
    Option.isSome_iff_exists.1 ((hholds.windowOf_isSome hget).2 h.reaches)
  obtain ⟨first', last', h' : EarliestMatch plan policy events key
    (matchOfWindow plan .live ⟨0, 0⟩ (ofLex key).1 window : ThresholdSignalProvenance RuleVersion)
    window first' last'⟩ := hholds.earliestMatch hget hwin .live ⟨0, 0⟩
  rw [h'.contributors_unique h] at hwin
  exact ⟨candidates, SortedMap.mem_toList.2 hget, hwin⟩

variable {events : List NormalizedEvent} {executionMode : ExecutionMode} {evaluatedAt : Timestamp}
  {found : List (ThresholdSignalProvenance RuleVersion)}

/-- **The matches found** are the matches of the groups. -/
theorem mem_evaluateThreshold (hcoh : Coherent {e | e ∈ events})
    (h : evaluateThresholdNormalizedEvents plan events executionMode evaluatedAt policy =
      .ok found) :
    m ∈ found ↔ ∃ key contributors first last,
      EarliestMatch plan policy {e | e ∈ events} key m contributors first last ∧
        m = matchOfWindow plan executionMode evaluatedAt (ofLex key).1 contributors := by
  obtain ⟨state, hholds, hmatch⟩ := evaluateThreshold_eq_ok hcoh h
  rw [matchGroups] at hmatch
  rw [mem_filterMapOk hmatch]
  constructor
  · rintro ⟨⟨key, candidates⟩, hg, hm⟩
    obtain ⟨window, hwin, rfl⟩ := Option.map_eq_some_iff.1 (matchOfSorted_eq_ok hm).symm
    obtain ⟨first, last, hmatch⟩ := hholds.earliestMatch (SortedMap.mem_toList.1 hg) hwin
      executionMode evaluatedAt
    exact ⟨key, window, first, last, hmatch, rfl⟩
  · rintro ⟨key, contributors, first, last, hm, hmeq⟩
    obtain ⟨candidates, hg, hwin⟩ := hholds.exists_windowOf_eq hm
    obtain ⟨o, ho⟩ := exists_of_filterMapOk_eq_ok hmatch _ hg
    refine ⟨(key, candidates), hg, ho.trans (congrArg Except.ok ?_)⟩
    rw [matchOfSorted_eq_ok ho, hwin, hmeq]
    rfl

/-- The observation times of a match pass the checks. -/
def ThresholdSignalProvenance.TimesValid (m : ThresholdSignalProvenance RuleVersion) : Prop :=
  validateTimestamp "first_observed_at" m.firstObservedAt = .ok () ∧
    validateTimestamp "last_observed_at" m.lastObservedAt = .ok ()

omit [EventSignalExecutionPlanView Plan RuleVersion] [LinearOrder GroupKey] in
/-- Two matches of the same contributors carry the same times. -/
theorem EarliestMatch.timesValid_iff {events : Set NormalizedEvent}
    (h : EarliestMatch plan policy events key m contributors first last)
    (h' : EarliestMatch plan policy events key m' contributors first' last') :
    m.TimesValid ↔ m'.TimesValid := by
  obtain rfl := Option.some.inj (h.head_eq.symm.trans h'.head_eq)
  obtain rfl := h.last_unique h'
  rw [ThresholdSignalProvenance.TimesValid, ThresholdSignalProvenance.TimesValid,
    h.firstObservedAt_eq, h.lastObservedAt_eq, h'.firstObservedAt_eq, h'.lastObservedAt_eq]

omit [LinearOrder GroupKey] in
/-- A round over the groups stops exactly at a match whose times are invalid. -/
theorem exists_matchOfSorted_eq_ok_iff {tenantId : String} {candidates : List Candidate} :
    (∃ o, (matchOfSorted plan executionMode evaluatedAt tenantId
      (candidates.insertionSort (· ≤ ·)) : Except (ThresholdEvaluationError Error)
        (Option (ThresholdSignalProvenance RuleVersion))) = .ok o) ↔
      ∀ window, windowOf plan candidates = some window →
        (matchOfWindow plan executionMode evaluatedAt tenantId window :
          ThresholdSignalProvenance RuleVersion).TimesValid := by
  rw [windowOf, matchOfSorted]
  cases earliestWindow Candidate.eventTimeMillis plan.window.durationMillis plan.threshold
    (candidates.insertionSort (· ≤ ·)) with
  | none => simp [pure, Except.pure]
  | some window =>
    simp only [check_bind_eq_ok, liftCheck_eq_ok, Option.some.injEq, forall_eq']
    exact ⟨fun ⟨_, hfirst, hlast, _⟩ => ⟨hfirst, hlast⟩,
      fun ⟨hfirst, hlast⟩ => ⟨_, hfirst, hlast, rfl⟩⟩

/-- **When an evaluation succeeds**: the request and the identifiers pass their checks, the policy
answers, and the times of every match are valid. -/
theorem exists_evaluateThreshold_eq_ok_iff (hcoh : Coherent {e | e ∈ events}) :
    (∃ found : List (ThresholdSignalProvenance RuleVersion),
      evaluateThresholdNormalizedEvents plan events executionMode evaluatedAt policy = .ok found) ↔
      (checkRequest plan executionMode evaluatedAt :
        Except (ThresholdEvaluationError Error) Unit) = .ok () ∧
      (∀ event ∈ events, Admissible plan policy event) ∧
      ∀ key contributors first last (m : ThresholdSignalProvenance RuleVersion),
        EarliestMatch plan policy {e | e ∈ events} key m contributors first last →
          m.TimesValid := by
  constructor
  · rintro ⟨found, h⟩
    obtain ⟨state, hholds, hmatch⟩ := evaluateThreshold_eq_ok hcoh h
    rw [evaluateThresholdNormalizedEvents, check_bind_eq_ok] at h
    refine ⟨h.1, hholds.admissible, fun key contributors first last m hm => ?_⟩
    obtain ⟨candidates, hg, hwin⟩ := hholds.exists_windowOf_eq hm
    obtain ⟨first', last', hm'⟩ := hholds.earliestMatch (SortedMap.mem_toList.1 hg) hwin
      executionMode evaluatedAt
    exact (hm.timesValid_iff hm').2 (exists_matchOfSorted_eq_ok_iff.1
      (exists_of_filterMapOk_eq_ok hmatch _ hg) contributors hwin)
  · rintro ⟨hrequest, hadm, htimes⟩
    obtain ⟨state, hcollect⟩ := exists_collect_eq_ok ⟨[], SortedMap.empty⟩ hadm
    have hholds : state.Holds plan policy {e | e ∈ events} := by
      simpa using holds_collect holds_empty (by simpa using hcoh) hcollect
    have hgroups : ∃ found : List (ThresholdSignalProvenance RuleVersion),
        (matchGroups plan executionMode evaluatedAt state.groups.toList :
          Except (ThresholdEvaluationError Error) _) = .ok found := by
      apply exists_filterMapOk_eq_ok
      rintro ⟨key, candidates⟩ hg
      refine exists_matchOfSorted_eq_ok_iff.2 fun window hwin => ?_
      obtain ⟨first, last, hm⟩ := hholds.earliestMatch (SortedMap.mem_toList.1 hg) hwin
        executionMode evaluatedAt
      exact htimes key window first last _ hm
    obtain ⟨found, hfound⟩ := hgroups
    refine ⟨found, ?_⟩
    rw [evaluateThresholdNormalizedEvents, check_bind_eq_ok]
    exact ⟨hrequest, bind_eq_ok.2 ⟨state, hcollect, hfound⟩⟩

/-! ## Growth -/

/-- Events with pairwise distinct identifiers are coherent. -/
theorem coherent_of_nodup (h : (events.map NormalizedEvent.normalizedEventId).Nodup) :
    Coherent {e | e ∈ events} :=
  fun _ ha _ hb hab => List.inj_on_of_nodup_map h ha hb hab

/-- **Later events do not change a match.**  Events with pairwise distinct identifiers are continued
by others, all of whose candidates in the group `key` come after the last contributor of the match
that the group has.  If the grown list evaluates, at whatever time and in whatever mode, its only
match for the group has the same rule, contributors and times; and it does evaluate unless the new
request, the identifiers of a new event or the times of a match fail their checks. -/
theorem evaluateThreshold_append {A B : List NormalizedEvent} {executionMode' : ExecutionMode}
    {evaluatedAt' : Timestamp}
    (hids : ((A ++ B).map NormalizedEvent.normalizedEventId).Nodup)
    (hpolicy : policy.NeverFails)
    (hA : evaluateThresholdNormalizedEvents plan A executionMode evaluatedAt policy = .ok found)
    (hm : m ∈ found) (hmatch : EarliestMatch plan policy {e | e ∈ A} key m contributors first last)
    (hlater : ∀ c, Matching plan policy {e | e ∈ B} key c → last < c) :
    (∀ found' : List (ThresholdSignalProvenance RuleVersion),
      evaluateThresholdNormalizedEvents plan (A ++ B) executionMode' evaluatedAt' policy =
        .ok found' → ∀ m', (m' ∈ found' ∧ ∃ contributors' first' last',
          EarliestMatch plan policy {e | e ∈ A ++ B} key m' contributors' first' last') ↔
            m' = { m with evaluatedAt := evaluatedAt', executionMode := executionMode' }) ∧
    ((∃ found' : List (ThresholdSignalProvenance RuleVersion),
      evaluateThresholdNormalizedEvents plan (A ++ B) executionMode' evaluatedAt' policy =
        .ok found') ↔
      (checkRequest plan executionMode' evaluatedAt' :
        Except (ThresholdEvaluationError Error) Unit) = .ok () ∧
      (∀ event ∈ B, checkEvent event = .ok ()) ∧
      ∀ key contributors first last (m : ThresholdSignalProvenance RuleVersion),
        EarliestMatch plan policy {e | e ∈ A ++ B} key m contributors first last →
          m.TimesValid) := by
  have hcoh := coherent_of_nodup hids
  have hcohA : Coherent {e | e ∈ A} :=
    fun a ha b hb => hcoh a (List.mem_append_left _ ha) b (List.mem_append_left _ hb)
  refine ⟨fun found' hgrown m' => ?_, ?_⟩
  · -- what the match of `A` is, and what it is with the new mode and clock
    obtain ⟨_, _, _, _, -, hmeq⟩ := (mem_evaluateThreshold hcohA hA).1 hm
    have hmeq := hmatch.eq_matchOfWindow hmeq
    have hm' : ({ m with evaluatedAt := evaluatedAt', executionMode := executionMode' } :
        ThresholdSignalProvenance RuleVersion) =
        matchOfWindow plan executionMode' evaluatedAt' (ofLex key).1 contributors := by
      rw [hmeq]
      rfl
    have hnew' := (hmatch.append hlater).restamp evaluatedAt' executionMode'
    constructor
    · rintro ⟨hin, contributors', first', last', hmatch'⟩
      obtain ⟨_, _, _, _, -, hmeq'⟩ := (mem_evaluateThreshold hcoh hgrown).1 hin
      rw [hmatch'.eq_matchOfWindow hmeq', hmatch'.contributors_unique hnew', hm']
    · rintro rfl
      exact ⟨(mem_evaluateThreshold hcoh hgrown).2 ⟨key, contributors, first, last, hnew', hm'⟩,
        contributors, first, last, hnew'⟩
  · rw [exists_evaluateThreshold_eq_ok_iff hcoh]
    obtain ⟨-, hadm, -⟩ := (exists_evaluateThreshold_eq_ok_iff hcohA).1 ⟨found, hA⟩
    refine and_congr_right fun _ => and_congr_left fun _ =>
      ⟨fun h event hB => ?_, fun h event hAB => ?_⟩
    · exact (h event (List.mem_append_right _ hB)).1
    · rcases List.mem_append.1 hAB with hA | hB
      · exact hadm event hA
      · exact ⟨h event hB, hpolicy.participation plan event⟩

/-! ## Runs -/

/-- A logon of another tenant, after the year 9999. -/
def farEvent (normalizedEventId : String) : NormalizedEvent :=
  { sampleEvent normalizedEventId 253402300800000 with
    tenantId := "01890a5d-ac96-774b-bcce-b302099a9999" }

/-- Two logons of another tenant. -/
def farEvents : List NormalizedEvent :=
  [farEvent "01890a5d-ac96-774b-bcce-b302099a8004", farEvent "01890a5d-ac96-774b-bcce-b302099a8005"]

theorem neverFails_samplePolicy : samplePolicy.NeverFails where
  evaluateExists := by
    rintro field (_ | _ | _ | _)
    all_goals exact ⟨_, rfl⟩
  evaluateComparison _ _ _ _ := ⟨false, rfl⟩
  thresholdGroupKey groupBy event := by
    rw [samplePolicy]
    dsimp only
    split
    · exact ⟨_, rfl⟩
    · exact ⟨_, rfl⟩
  thresholdEventTimeMillis _ _ _ := ⟨_, rfl⟩

/-- **Another group can make the grown batch fail**: the two later events of another tenant are a
match whose times no timestamp can hold, and the match of the first tenant is lost with it. -/
theorem evaluateThreshold_farEvents :
    ((sampleEvents ++ farEvents).map NormalizedEvent.normalizedEventId).Nodup ∧
    samplePolicy.NeverFails ∧
    evaluateThresholdNormalizedEvents (samplePlan 2 (by decide) (by decide)) sampleEvents .live
      ⟨10, 0⟩ samplePolicy = .ok [⟨⟨"CER-DET-000001"⟩, "1", "01890a5d-ac96-774b-bcce-b302099a8057",
        ["01890a5d-ac96-774b-bcce-b302099a8001", "01890a5d-ac96-774b-bcce-b302099a8002"],
        ⟨0, 0⟩, ⟨1, 0⟩, ⟨10, 0⟩, .clickHouse, .live⟩] ∧
    (∀ groupKey c, ¬ Matching (samplePlan 2 (by decide) (by decide)) samplePolicy
      {e | e ∈ farEvents} (toLex ("01890a5d-ac96-774b-bcce-b302099a8057", groupKey)) c) ∧
    evaluateThresholdNormalizedEvents (samplePlan 2 (by decide) (by decide))
      (sampleEvents ++ farEvents) .live ⟨10, 0⟩ samplePolicy =
        .error (.invalidProvenance ⟨"first_observed_at",
          "seconds are outside the Protobuf Timestamp range"⟩) := by
  refine ⟨by decide, neverFails_samplePolicy, by decide, ?_, by decide⟩
  rintro groupKey c ⟨event, hevent, -, htenant, -⟩
  have hfar : ∀ id, (farEvent id).tenantId ≠ "01890a5d-ac96-774b-bcce-b302099a8057" := by
    intro id
    show "01890a5d-ac96-774b-bcce-b302099a9999" ≠ "01890a5d-ac96-774b-bcce-b302099a8057"
    decide
  simp only [Set.mem_ofPred_eq, farEvents, List.mem_cons, List.not_mem_nil, or_false] at hevent
  obtain rfl | rfl := hevent
  · exact hfar _ htenant
  · exact hfar _ htenant

/-- A logon after the match of the sample. -/
def laterEvent : NormalizedEvent := sampleEvent "01890a5d-ac96-774b-bcce-b302099a8004" 1500

/-- The candidates of the later logon. -/
theorem matching_laterEvent {key : String ×ₗ String} {c : Candidate}
    (h : Matching (samplePlan 2 (by decide) (by decide)) samplePolicy {e | e ∈ [laterEvent]}
      key c) :
    c = ⟨"01890a5d-ac96-774b-bcce-b302099a8004", 1500⟩ := by
  obtain ⟨event, hevent, hid, -, hpart⟩ := h
  obtain rfl := List.mem_singleton.1 hevent
  have htime : participation (samplePlan 2 (by decide) (by decide)) samplePolicy laterEvent =
      .ok (some ("root", 1500)) := by decide
  rw [htime] at hpart
  obtain ⟨id, time⟩ := c
  obtain ⟨-, rfl⟩ := Prod.mk.inj (Option.some.inj (Except.ok.inj hpart))
  obtain rfl : _ = id := hid
  rfl

/-- The match of the sample, of the group of `root`. -/
theorem earliestMatch_sampleEvents :
    EarliestMatch (samplePlan 2 (by decide) (by decide)) samplePolicy
      {e | e ∈ sampleEvents} (toLex ("01890a5d-ac96-774b-bcce-b302099a8057", "root"))
      (⟨⟨"CER-DET-000001"⟩, "1", "01890a5d-ac96-774b-bcce-b302099a8057",
        ["01890a5d-ac96-774b-bcce-b302099a8001", "01890a5d-ac96-774b-bcce-b302099a8002"],
        ⟨0, 0⟩, ⟨1, 0⟩, ⟨10, 0⟩, .clickHouse, .live⟩ : ThresholdSignalProvenance String)
      [⟨"01890a5d-ac96-774b-bcce-b302099a8001", 0⟩, ⟨"01890a5d-ac96-774b-bcce-b302099a8002", 1000⟩]
      ⟨"01890a5d-ac96-774b-bcce-b302099a8001", 0⟩
      ⟨"01890a5d-ac96-774b-bcce-b302099a8002", 1000⟩ := by
  have hgroup : (do
      let state ← collect (samplePlan 2 (by decide) (by decide)) samplePolicy
        ⟨[], SortedMap.empty⟩ sampleEvents
      return state.groups.get? (toLex ("01890a5d-ac96-774b-bcce-b302099a8057", "root"))) =
        .ok (some [⟨"01890a5d-ac96-774b-bcce-b302099a8003", 5000⟩,
          ⟨"01890a5d-ac96-774b-bcce-b302099a8002", 1000⟩,
          ⟨"01890a5d-ac96-774b-bcce-b302099a8001", 0⟩]) := by decide
  obtain ⟨state, hcollect, hgroup⟩ := bind_eq_ok.1 hgroup
  have hget := Except.ok.inj hgroup
  have hholds : state.Holds (samplePlan 2 (by decide) (by decide)) samplePolicy
      {e | e ∈ sampleEvents} := by
    simpa using holds_collect holds_empty (by simpa using coherent_sampleEvents) hcollect
  have hwin : windowOf (samplePlan 2 (by decide) (by decide))
      [⟨"01890a5d-ac96-774b-bcce-b302099a8003", 5000⟩,
        ⟨"01890a5d-ac96-774b-bcce-b302099a8002", 1000⟩,
        ⟨"01890a5d-ac96-774b-bcce-b302099a8001", 0⟩] =
      some [⟨"01890a5d-ac96-774b-bcce-b302099a8001", 0⟩,
        ⟨"01890a5d-ac96-774b-bcce-b302099a8002", 1000⟩] := by decide
  obtain ⟨first, last, hm : EarliestMatch _ _ _ _ (matchOfWindow _ .live ⟨10, 0⟩ _ _ :
    ThresholdSignalProvenance String) _ _ _⟩ := hholds.earliestMatch hget hwin .live ⟨10, 0⟩
  obtain rfl := Option.some.inj hm.head_eq
  obtain rfl := Option.some.inj hm.getLast_eq
  exact hm

/-- The match of the sample when it is replayed. -/
def replayedMatch : ThresholdSignalProvenance String :=
  ⟨⟨"CER-DET-000001"⟩, "1", "01890a5d-ac96-774b-bcce-b302099a8057",
    ["01890a5d-ac96-774b-bcce-b302099a8001", "01890a5d-ac96-774b-bcce-b302099a8002"],
    ⟨0, 0⟩, ⟨1, 0⟩, ⟨20, 0⟩, .clickHouse, .replay⟩

theorem evaluateThreshold_laterEvent :
    evaluateThresholdNormalizedEvents (samplePlan 2 (by decide) (by decide))
      (sampleEvents ++ [laterEvent]) .replay ⟨20, 0⟩ samplePolicy = .ok [replayedMatch] := by
  decide +kernel

/-- The sample keeps its match when the later logon is added. -/
theorem evaluateThreshold_append_laterEvent :
    replayedMatch ∈ [replayedMatch] ∧ ∃ contributors first last,
      EarliestMatch (samplePlan 2 (by decide) (by decide)) samplePolicy
        {e | e ∈ sampleEvents ++ [laterEvent]}
        (toLex ("01890a5d-ac96-774b-bcce-b302099a8057", "root")) replayedMatch contributors first
        last := by
  refine ((evaluateThreshold_append (by decide) neverFails_samplePolicy
    evaluateThreshold_sampleEvents (List.mem_singleton.2 rfl) earliestMatch_sampleEvents
    fun c hc => ?_).1 _ evaluateThreshold_laterEvent replayedMatch).2 rfl
  rw [matching_laterEvent hc]
  decide

end Detection

end Cerbero
