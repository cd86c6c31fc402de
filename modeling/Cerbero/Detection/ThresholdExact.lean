import Mathlib.Data.List.Forall2
import Cerbero.Detection.ThresholdGroups

/-!
# Detection/ThresholdExact — the matches are the earliest close sets of events

The evaluator is compared with a definition that knows no loop, no window pointer and no order of
input: a tenant's group has a match exactly if `threshold` of its candidates lie within the window
of each other, and the match is the earliest such set (`EarliestMatch`).
-/

namespace Cerbero

namespace Detection

open EarliestWindow

variable {Field RuleValue RuleVersion Plan Profile GroupKey Error : Type} [AsRefStr Field]
  [EventExecutionPlanView Plan Field RuleValue] [EventSignalExecutionPlanView Plan RuleVersion]
  [LinearOrder GroupKey]
  {plan : CompiledThresholdExecutionPlan Plan Profile Field}
  {policy : ThresholdEvaluationPolicy Field RuleValue GroupKey Error}

/-! ## The specification -/

/-- **`found` is the earliest match of the group `key`**, and `contributors`, from `first` to
`last`, are its events: the events of the group up to `last` whose time is within the window of
`last`, in order; there are `threshold` of them, and `last` is the least event up to which
`threshold` events are close. -/
structure EarliestMatch (plan : CompiledThresholdExecutionPlan Plan Profile Field)
    (policy : ThresholdEvaluationPolicy Field RuleValue GroupKey Error)
    (events : Set NormalizedEvent) (key : String ×ₗ GroupKey)
    (found : ThresholdSignalProvenance RuleVersion) (contributors : List Candidate)
    (first last : Candidate) : Prop where
  sorted : contributors.Pairwise (· < ·)
  length_eq : contributors.length = plan.threshold
  head_eq : contributors.head? = some first
  getLast_eq : contributors.getLast? = some last
  mem_iff : ∀ c, c ∈ contributors ↔ Matching plan policy events key c ∧ c ≤ last ∧
    last.eventTimeMillis - c.eventTimeMillis ≤ plan.window.durationMillis
  full : FullAt Candidate.eventTimeMillis plan.window.durationMillis plan.threshold
    (Matching plan policy events key) last
  least : ∀ c, Matching plan policy events key c →
    FullAt Candidate.eventTimeMillis plan.window.durationMillis plan.threshold
      (Matching plan policy events key) c → last ≤ c
  tenantId_eq : found.tenantId = (ofLex key).1
  normalizedEventIds_eq : found.normalizedEventIds = contributors.map Candidate.normalizedEventId
  firstObservedAt_eq : found.firstObservedAt = timestampFromMillis first.eventTimeMillis
  lastObservedAt_eq : found.lastObservedAt = timestampFromMillis last.eventTimeMillis

/-- `threshold` distinct events of the group `key` span at most the window. -/
def Reaches (plan : CompiledThresholdExecutionPlan Plan Profile Field)
    (policy : ThresholdEvaluationPolicy Field RuleValue GroupKey Error)
    (events : Set NormalizedEvent) (key : String ×ₗ GroupKey) : Prop :=
  ∃ S : Finset Candidate, plan.threshold ≤ S.card ∧
    (∀ c ∈ S, Matching plan policy events key c) ∧
    Close Candidate.eventTimeMillis plan.window.durationMillis S

/-! ## The loop over the groups -/

/-- The window found in a group. -/
def windowOf (plan : CompiledThresholdExecutionPlan Plan Profile Field)
    (candidates : List Candidate) : Option (List Candidate) :=
  earliestWindow Candidate.eventTimeMillis plan.window.durationMillis plan.threshold
    (candidates.insertionSort (· ≤ ·))

/-- One round over the groups, when it succeeds. -/
theorem matchOfSorted_eq_ok {executionMode : ExecutionMode} {evaluatedAt : Timestamp}
    {tenantId : String} {candidates : List Candidate}
    {found : Option (ThresholdSignalProvenance RuleVersion)}
    (h : (matchOfSorted plan executionMode evaluatedAt tenantId
      (candidates.insertionSort (· ≤ ·)) : Except (ThresholdEvaluationError Error) _) = .ok found) :
    found = (windowOf plan candidates).map (matchOfWindow plan executionMode evaluatedAt tenantId) := by
  rw [windowOf]
  unfold matchOfSorted at h
  cases hw : earliestWindow Candidate.eventTimeMillis plan.window.durationMillis plan.threshold
    (candidates.insertionSort (· ≤ ·)) with
  | none =>
    rw [hw] at h
    exact (Except.ok.inj h).symm
  | some contributors =>
    rw [hw] at h
    simp only [check_bind_eq_ok] at h
    exact (Except.ok.inj h.2.2).symm

omit [LinearOrder GroupKey] in
/-- **The matches, group by group**: one for every group with a window, in the order of the
groups. -/
theorem matchGroups_eq_ok {executionMode : ExecutionMode} {evaluatedAt : Timestamp}
    {groups : List ((String ×ₗ GroupKey) × List Candidate)}
    {found : List (ThresholdSignalProvenance RuleVersion)}
    (h : (matchGroups plan executionMode evaluatedAt groups :
      Except (ThresholdEvaluationError Error) _) = .ok found) :
    ∃ hits : List ((String ×ₗ GroupKey) × List Candidate), hits.Sublist groups ∧
      (∀ g, g ∈ hits ↔ g ∈ groups ∧ (windowOf plan g.2).isSome) ∧
      List.Forall₂ (fun g m => ∃ contributors, windowOf plan g.2 = some contributors ∧
        m = matchOfWindow plan executionMode evaluatedAt (ofLex g.1).1 contributors) hits found := by
  obtain ⟨hits, hsub, hmem, hall⟩ := filterMapOk_eq_ok h
  refine ⟨hits, hsub, fun g => (hmem g).trans (and_congr_right fun hg => ?_),
    hall.imp fun g m hm => ?_⟩
  · obtain ⟨o, ho⟩ := exists_of_filterMapOk_eq_ok h g hg
    rw [ho, matchOfSorted_eq_ok ho]
    cases windowOf plan g.2 <;> simp
  · obtain ⟨contributors, hwin, heq⟩ := Option.map_eq_some_iff.1 (matchOfSorted_eq_ok hm).symm
    exact ⟨contributors, hwin, heq.symm⟩

/-! ## One group -/

section

variable {events : Set NormalizedEvent} {state : Collected GroupKey}

/-- The sorted candidates of a group, as the window search needs them. -/
theorem Collected.Holds.sorted (h : state.Holds plan policy events) {key : String ×ₗ GroupKey}
    {candidates : List Candidate} (hget : state.groups.get? key = some candidates) :
    (candidates.insertionSort (· ≤ ·)).Pairwise (· < ·) ∧
      ∀ c, c ∈ candidates.insertionSort (· ≤ ·) ↔ Matching plan policy events key c := by
  have hmembers : state.members key = candidates := SortedMap.members_of_get? hget
  refine ⟨pairwise_lt_insertionSort (hmembers ▸ h.nodup key), fun c => ?_⟩
  rw [mem_insertionSort, ← h.mem key c, hmembers]

/-- A group has a window exactly if its events reach the threshold. -/
theorem Collected.Holds.windowOf_isSome (h : state.Holds plan policy events)
    {key : String ×ₗ GroupKey} {candidates : List Candidate}
    (hget : state.groups.get? key = some candidates) :
    (windowOf plan candidates).isSome ↔ Reaches plan policy events key := by
  obtain ⟨hsorted, hmem⟩ := h.sorted hget
  rw [windowOf, earliestWindow_isSome_iff hsorted Candidate.neverDecreases_eventTimeMillis
    (Int.natCast_nonneg _) plan.threshold_pos]
  simp only [hmem, Reaches]

/-- Events that reach the threshold form a group. -/
theorem Collected.Holds.exists_get (h : state.Holds plan policy events)
    {key : String ×ₗ GroupKey} (hr : Reaches plan policy events key) :
    ∃ candidates, state.groups.get? key = some candidates := by
  obtain ⟨S, hcard, hS, -⟩ := hr
  obtain ⟨c, hc⟩ := Finset.card_pos.1 (plan.threshold_pos.trans_le hcard)
  have := (h.mem key c).2 (hS c hc)
  cases hget : state.groups.get? key with
  | none => simp [Collected.members, SortedMap.members, hget] at this
  | some candidates => exact ⟨candidates, rfl⟩

/-- **The window of a group is its earliest match.** -/
theorem Collected.Holds.earliestMatch (h : state.Holds plan policy events)
    {key : String ×ₗ GroupKey} {candidates contributors : List Candidate}
    (hget : state.groups.get? key = some candidates)
    (hwin : windowOf plan candidates = some contributors) (executionMode : ExecutionMode)
    (evaluatedAt : Timestamp) :
    ∃ first last, EarliestMatch plan policy events key
      (matchOfWindow plan executionMode evaluatedAt (ofLex key).1 contributors :
        ThresholdSignalProvenance RuleVersion) contributors first last := by
  obtain ⟨hsorted, hmem⟩ := h.sorted hget
  obtain ⟨hpair, hlen, last, hlast, -, hiff, hfull, hleast⟩ :=
    earliestWindow_eq_some hsorted Candidate.neverDecreases_eventTimeMillis (Int.natCast_nonneg _)
      plan.threshold_pos hwin
  simp only [hmem] at hiff hfull hleast
  cases contributors with
  | nil => simp at hlast
  | cons first rest =>
    exact ⟨first, last,
      { sorted := hpair
        length_eq := hlen
        head_eq := rfl
        getLast_eq := hlast
        mem_iff := hiff
        full := hfull
        least := hleast
        tenantId_eq := rfl
        normalizedEventIds_eq := rfl
        firstObservedAt_eq := rfl
        lastObservedAt_eq := by
          rw [matchOfWindow, List.getLastD_eq_getLast?, hlast]
          rfl }⟩

end

/-! ## The evaluator -/

/-- A successful evaluation: the groups of all events, and the matches of the groups. -/
theorem evaluateThreshold_eq_ok {events : List NormalizedEvent} {executionMode : ExecutionMode}
    {evaluatedAt : Timestamp} {found : List (ThresholdSignalProvenance RuleVersion)}
    (hcoh : Coherent {e | e ∈ events})
    (h : evaluateThresholdNormalizedEvents plan events executionMode evaluatedAt policy =
      .ok found) :
    ∃ state : Collected GroupKey, state.Holds plan policy {e | e ∈ events} ∧
      (matchGroups plan executionMode evaluatedAt state.groups.toList :
        Except (ThresholdEvaluationError Error) _) = .ok found := by
  rw [evaluateThresholdNormalizedEvents, check_bind_eq_ok] at h
  obtain ⟨state, hcollect, hmatch⟩ := bind_eq_ok.1 h.2
  refine ⟨state, ?_, hmatch⟩
  simpa using holds_collect holds_empty (by simpa using hcoh) hcollect

/-- **THRESHOLD evaluation is exact.**  If events with equal identifiers are equal, a successful
evaluation returns one match for each tenant and group key whose events reach the threshold, and
each is the earliest match of its group. -/
theorem evaluateThreshold_exact {events : List NormalizedEvent} {executionMode : ExecutionMode}
    {evaluatedAt : Timestamp} {found : List (ThresholdSignalProvenance RuleVersion)}
    (hcoh : Coherent {e | e ∈ events})
    (h : evaluateThresholdNormalizedEvents plan events executionMode evaluatedAt policy =
      .ok found) :
    ∃ keys : List (String ×ₗ GroupKey), keys.Nodup ∧
      (∀ key, key ∈ keys ↔ Reaches plan policy {e | e ∈ events} key) ∧
      List.Forall₂ (fun key m => ∃ contributors first last,
        EarliestMatch plan policy {e | e ∈ events} key m contributors first last) keys found := by
  obtain ⟨state, hholds, hmatch⟩ := evaluateThreshold_eq_ok hcoh h
  obtain ⟨hits, hsub, hmem, hall⟩ := matchGroups_eq_ok hmatch
  refine ⟨hits.map Prod.fst, (state.groups.nodup_keys).sublist (hsub.map _), fun key => ?_, ?_⟩
  · rw [List.mem_map]
    constructor
    · rintro ⟨g, hg, rfl⟩
      obtain ⟨hin, hsome⟩ := (hmem g).1 hg
      exact (hholds.windowOf_isSome (SortedMap.mem_toList.1 hin)).1 hsome
    · intro hr
      obtain ⟨candidates, hc⟩ := hholds.exists_get hr
      exact ⟨(key, candidates), (hmem _).2 ⟨SortedMap.mem_toList.2 hc,
        (hholds.windowOf_isSome hc).2 hr⟩, rfl⟩
  · rw [List.forall₂_map_left_iff]
    have hin : ∀ g ∈ hits, g ∈ state.groups.toList := fun g hg => ((hmem g).1 hg).1
    refine ((List.forall₂_and_left _ _).2 ⟨hin, hall⟩).imp
      fun g m ⟨hg, contributors, hwin, hm⟩ => ⟨contributors, ?_⟩
    rw [hm]
    exact hholds.earliestMatch (SortedMap.mem_toList.1 hg) hwin executionMode evaluatedAt

/-! ## A run -/

/-- A failed logon of `root` at a time in milliseconds. -/
def sampleEvent (normalizedEventId : String) (millis : ℤ) : NormalizedEvent where
  normalizedEventId := normalizedEventId
  rawEventId := "01890a5d-ac96-774b-bcce-b302099a8057"
  tenantId := "01890a5d-ac96-774b-bcce-b302099a8057"
  normalizedAt := some (timestampFromMillis millis)
  ocsfVersion := "1.8.0"
  classUid := 3002
  categoryUid := 3
  severity := none
  activityId := some 1
  ocsfEvent := some [("user", .structValue [("name", .stringValue "root")])]
  parserId := "linux/sshd"
  parserVersion := "1"
  normalizationStatus := .success
  normalizedHashAlgorithm := "sha256"
  normalizedHash := ""
  pipelineVersion := "1"

/-- A policy that groups by the text of one field and reads the normalization clock. -/
def samplePolicy : ThresholdEvaluationPolicy String Unit String Unit where
  evaluateExists _ state :=
    match state with
    | .present _ => .ok true
    | _ => .ok false
  evaluateComparison _ _ _ _ := .ok false
  thresholdGroupKey groupBy event :=
    match groupBy.map (fieldState event) with
    | [.present (.stringValue text)] => .ok (some text)
    | _ => .ok none
  thresholdEventTimeMillis _ _ event :=
    .ok (event.normalizedAt.map fun t => t.seconds * 1000 + t.nanos / 1000000)

/-- The plans of the sample rules. -/
abbrev SamplePlan :=
  ExecutionPlan String String (List String) (EventPredicate String Unit) Unit Unit Unit String

/-- Events that name a user, by user: `threshold` of them within a second. -/
def samplePlan (threshold : ℕ) (pos : 0 < threshold) (lt : threshold < 2 ^ 64) :
    CompiledThresholdExecutionPlan SamplePlan Unit String where
  filter := ⟨⟨"plan", ⟨"CER-DET-000001"⟩, "1", .clickHouse, ["user.name"],
    .and [.exists "user.name"], (), (), (), "hash"⟩, (), ⟨true, false⟩⟩
  groupBy := ["user.name"]
  aggregation := .count
  threshold := threshold
  window := ⟨1000, .eventTime, "time", .accept⟩
  supportedBackends := ⟨true, false⟩
  groupBy_ne_nil := by decide
  groupBy_nodup := by decide
  threshold_pos := pos
  threshold_lt := lt
  duration_pos := by decide
  duration_lt := by decide
  accepts_late := rfl

/-- Three logons, the last one too late. -/
def sampleEvents : List NormalizedEvent :=
  [sampleEvent "01890a5d-ac96-774b-bcce-b302099a8003" 5000,
    sampleEvent "01890a5d-ac96-774b-bcce-b302099a8002" 1000,
    sampleEvent "01890a5d-ac96-774b-bcce-b302099a8001" 0]

theorem coherent_sampleEvents : Coherent {e | e ∈ sampleEvents} := by
  intro a ha b hb hab
  simp only [Set.mem_ofPred_eq, sampleEvents, List.mem_cons, List.not_mem_nil, or_false] at ha hb
  rcases ha with rfl | rfl | rfl <;> rcases hb with rfl | rfl | rfl <;>
    first | rfl | exact absurd hab (by decide)

/-- The first two logons are a second apart, and make the only match. -/
theorem evaluateThreshold_sampleEvents :
    evaluateThresholdNormalizedEvents (samplePlan 2 (by decide) (by decide)) sampleEvents .live
      ⟨10, 0⟩ samplePolicy = .ok [⟨⟨"CER-DET-000001"⟩, "1", "01890a5d-ac96-774b-bcce-b302099a8057",
        ["01890a5d-ac96-774b-bcce-b302099a8001", "01890a5d-ac96-774b-bcce-b302099a8002"],
        ⟨0, 0⟩, ⟨1, 0⟩, ⟨10, 0⟩, .clickHouse, .live⟩] := by
  decide +kernel

theorem evaluateThreshold_exact_sampleEvents :
    ∃ keys : List (String ×ₗ String), keys.Nodup ∧
      (∀ key, key ∈ keys ↔ Reaches (samplePlan 2 (by decide) (by decide)) samplePolicy
        {e | e ∈ sampleEvents} key) ∧
      List.Forall₂ (fun key m => ∃ contributors first last,
        EarliestMatch (samplePlan 2 (by decide) (by decide)) samplePolicy {e | e ∈ sampleEvents} key
          m contributors first last) keys
        [⟨⟨"CER-DET-000001"⟩, "1", "01890a5d-ac96-774b-bcce-b302099a8057",
          ["01890a5d-ac96-774b-bcce-b302099a8001", "01890a5d-ac96-774b-bcce-b302099a8002"],
          ⟨0, 0⟩, ⟨1, 0⟩, ⟨10, 0⟩, .clickHouse, .live⟩] :=
  evaluateThreshold_exact coherent_sampleEvents evaluateThreshold_sampleEvents

end Detection

end Cerbero
