import Cerbero.Detection.ThresholdExact

/-!
# Detection/ThresholdOrder — when the order of the events does not matter

Only the first event of an identifier is kept, before it is filtered and grouped.  So the order of
the input is irrelevant exactly if events that share an identifier are equal, or the request or an
event is rejected whatever the order (`orderIrrelevant_iff`).
-/

namespace Cerbero

namespace Detection

open EarliestWindow

/-- **The order of the events does not matter**: for every plan and policy, any two arrangements
of the events that evaluate at all evaluate to the same matches. -/
def OrderIrrelevant (events : List NormalizedEvent) (executionMode : ExecutionMode)
    (evaluatedAt : Timestamp) : Prop :=
  ∀ (Field RuleValue RuleVersion Plan Profile GroupKey Error : Type) [AsRefStr Field]
    [EventExecutionPlanView Plan Field RuleValue] [EventSignalExecutionPlanView Plan RuleVersion]
    [LinearOrder GroupKey] (plan : CompiledThresholdExecutionPlan Plan Profile Field)
    (policy : ThresholdEvaluationPolicy Field RuleValue GroupKey Error)
    (left right : List NormalizedEvent) (found : List (ThresholdSignalProvenance RuleVersion)),
    left.Perm events → right.Perm events →
      evaluateThresholdNormalizedEvents plan left executionMode evaluatedAt policy = .ok found →
        evaluateThresholdNormalizedEvents plan right executionMode evaluatedAt policy = .ok found

/-! ## Equal groups up to the order of their candidates -/

section

variable {Field RuleValue RuleVersion Plan Profile GroupKey Error : Type} [AsRefStr Field]
  [EventExecutionPlanView Plan Field RuleValue] [EventSignalExecutionPlanView Plan RuleVersion]
  {plan : CompiledThresholdExecutionPlan Plan Profile Field}

/-- Matching sees each group sorted. -/
theorem matchGroups_map_insertionSort {executionMode : ExecutionMode} {evaluatedAt : Timestamp}
    (groups : List ((String ×ₗ GroupKey) × List Candidate)) :
    (matchGroups plan executionMode evaluatedAt
      (groups.map fun g => (g.1, g.2.insertionSort (· ≤ ·))) :
        Except (ThresholdEvaluationError Error) (List (ThresholdSignalProvenance RuleVersion))) =
      matchGroups plan executionMode evaluatedAt groups := by
  have hsort : ∀ candidates : List Candidate,
      (candidates.insertionSort (· ≤ ·)).insertionSort (· ≤ ·) =
        candidates.insertionSort (· ≤ ·) := fun candidates =>
    (candidates.pairwise_insertionSort (· ≤ ·)).insertionSort_eq
  rw [matchGroups, filterMapOk_map]
  simp only [hsort]

variable [LinearOrder GroupKey]
  {policy : ThresholdEvaluationPolicy Field RuleValue GroupKey Error}

/-- **The sorted groups are determined by the set of events.** -/
theorem Collected.Holds.mapVal_eq {events : Set NormalizedEvent} {state state' : Collected GroupKey}
    (h : state.Holds plan policy events) (h' : state'.Holds plan policy events) :
    state.groups.mapVal (fun c => c.insertionSort (· ≤ ·)) =
      state'.groups.mapVal (fun c => c.insertionSort (· ≤ ·)) := by
  refine SortedMap.ext_get? fun key => ?_
  rw [SortedMap.get?_mapVal, SortedMap.get?_mapVal]
  have hmem : ∀ c, c ∈ state.members key ↔ c ∈ state'.members key := fun c =>
    (h.mem key c).trans (h'.mem key c).symm
  cases hget : state.groups.get? key with
  | none =>
    cases hget' : state'.groups.get? key with
    | none => rfl
    | some candidates =>
      -- a group is never empty, so one side cannot have it alone
      obtain ⟨c, hc⟩ := List.exists_mem_of_ne_nil candidates fun hnil =>
        h'.ne_nil key (hnil ▸ hget')
      have := (hmem c).2 (by rwa [Collected.members, SortedMap.members_of_get? hget'])
      simp [Collected.members, SortedMap.members, hget] at this
  | some candidates =>
    cases hget' : state'.groups.get? key with
    | none =>
      obtain ⟨c, hc⟩ := List.exists_mem_of_ne_nil candidates fun hnil => h.ne_nil key (hnil ▸ hget)
      have := (hmem c).1 (by rwa [Collected.members, SortedMap.members_of_get? hget])
      simp [Collected.members, SortedMap.members, hget'] at this
    | some candidates' =>
      obtain ⟨hsorted, hiff⟩ := h.sorted hget
      obtain ⟨hsorted', hiff'⟩ := h'.sorted hget'
      have hperm : (candidates.insertionSort (· ≤ ·)).Perm (candidates'.insertionSort (· ≤ ·)) :=
        (List.perm_ext_iff_of_nodup (hsorted.imp fun h => h.ne) (hsorted'.imp fun h => h.ne)).2
          fun c => (hiff c).trans (hiff' c).symm
      exact congrArg some (hperm.eq_of_pairwise (fun a b _ _ hab hba => absurd hba hab.asymm)
        hsorted hsorted')

/-- Coherent events evaluate alike in every order. -/
theorem evaluateThreshold_perm {left right : List NormalizedEvent} {executionMode : ExecutionMode}
    {evaluatedAt : Timestamp} {found : List (ThresholdSignalProvenance RuleVersion)}
    (hcoh : Coherent {e | e ∈ left}) (hperm : left.Perm right)
    (h : evaluateThresholdNormalizedEvents plan left executionMode evaluatedAt policy =
      .ok found) :
    evaluateThresholdNormalizedEvents plan right executionMode evaluatedAt policy = .ok found := by
  have hset : {e | e ∈ right} = {e | e ∈ left} := by
    ext e
    exact hperm.mem_iff.symm
  obtain ⟨state, hholds, hmatch⟩ := evaluateThreshold_eq_ok hcoh h
  obtain ⟨state', hcollect⟩ :
      ∃ state', collect plan policy ⟨[], SortedMap.empty⟩ right = .ok state' :=
    exists_collect_eq_ok _ fun e he => hholds.admissible e (hperm.mem_iff.2 he)
  have hholds' : state'.Holds plan policy {e | e ∈ left} := by
    rw [← hset]
    simpa using holds_collect holds_empty (by simpa [hset] using hcoh) hcollect
  rw [evaluateThresholdNormalizedEvents, check_bind_eq_ok] at h ⊢
  refine ⟨h.1, bind_eq_ok.2 ⟨state', hcollect, ?_⟩⟩
  have hlists : state.groups.toList.map (fun g => (g.1, g.2.insertionSort (· ≤ ·))) =
      state'.groups.toList.map (fun g => (g.1, g.2.insertionSort (· ≤ ·))) :=
    congrArg SortedMap.toList (hholds.mapVal_eq hholds')
  rwa [← matchGroups_map_insertionSort, ← hlists, matchGroups_map_insertionSort]

/-- A rejected request or event is rejected in every order. -/
theorem evaluateThreshold_ne_ok {events : List NormalizedEvent} {executionMode : ExecutionMode}
    {evaluatedAt : Timestamp} {found : List (ThresholdSignalProvenance RuleVersion)}
    (h : evaluateThresholdNormalizedEvents plan events executionMode evaluatedAt policy =
      .ok found) :
    executionMode ≠ .unspecified ∧ validateTimestamp "evaluated_at" evaluatedAt = .ok () ∧
      ∀ e ∈ events, checkEvent e = .ok () := by
  have hevents : ∀ {rest : List NormalizedEvent} {state state' : Collected GroupKey},
      collect plan policy state rest = .ok state' → ∀ e ∈ rest, checkEvent e = .ok () := by
    intro rest
    induction rest with
    | nil => simp
    | cons event rest ih =>
      intro state state' hrun e he
      obtain ⟨next, hstep, hrest⟩ := bind_eq_ok.1 hrun
      rcases List.mem_cons.1 he with rfl | he
      · exact (collectEvent_eq_ok.1 hstep).1
      · exact ih hrest e he
  rw [evaluateThresholdNormalizedEvents, check_bind_eq_ok, checkRequest, check_bind_eq_ok] at h
  obtain ⟨⟨hat, hmode⟩, hrun⟩ := h
  obtain ⟨state, hcollect, -⟩ := bind_eq_ok.1 hrun
  refine ⟨?_, by simpa using hat, hevents hcollect⟩
  rintro rfl
  simp [throw, throwThe, MonadExceptOf.throw] at hmode

end

/-! ## Two events with one identifier -/

section

open Classical in
/-- A policy that lets only one event into a group. -/
noncomputable def onlyPolicy (a : NormalizedEvent) :
    ThresholdEvaluationPolicy String Unit Unit Unit where
  evaluateExists _ _ := .ok true
  evaluateComparison _ _ _ _ := .ok true
  thresholdGroupKey _ event := .ok (if event = a then some () else none)
  thresholdEventTimeMillis _ _ _ := .ok (some 0)

/-- The plan a single event satisfies. -/
def onePlan : CompiledThresholdExecutionPlan SamplePlan Unit String :=
  samplePlan 1 (by decide) (by decide)

theorem participation_onlyPolicy_self (a : NormalizedEvent) :
    participation onePlan (onlyPolicy a) a = .ok (some ((), 0)) := by
  have h : (onlyPolicy a).thresholdGroupKey onePlan.groupBy a = .ok (some ()) := by
    simp [onlyPolicy]
  rw [participation, h]
  rfl

theorem participation_onlyPolicy_ne {a e : NormalizedEvent} (hne : e ≠ a) :
    participation onePlan (onlyPolicy a) e = .ok none := by
  have h : (onlyPolicy a).thresholdGroupKey onePlan.groupBy e = .ok none := by
    simp [onlyPolicy, hne]
  rw [participation, h]
  rfl

/-- Once the identifier of `a` was seen, no event enters a group. -/
theorem collect_onlyPolicy {a : NormalizedEvent} :
    ∀ {rest : List NormalizedEvent} {state : Collected Unit},
      (∀ e ∈ rest, checkEvent e = .ok ()) → a.normalizedEventId ∈ state.seenEventIds →
        ∃ state', collect onePlan (onlyPolicy a) state rest = .ok state' ∧
          state'.groups = state.groups
  | [], state, _, _ => ⟨state, rfl, rfl⟩
  | e :: rest, state, hcheck, hseen => by
      have hrest := fun x hx => hcheck x (List.mem_cons_of_mem e hx)
      obtain ⟨next, hstep, hgroups, hseen'⟩ : ∃ next,
          collectEvent onePlan (onlyPolicy a) state e = .ok next ∧ next.groups = state.groups ∧
            a.normalizedEventId ∈ next.seenEventIds := by
        by_cases he : e.normalizedEventId ∈ state.seenEventIds
        · exact ⟨state, collectEvent_eq_ok.2 ⟨hcheck e List.mem_cons_self, Or.inl ⟨he, rfl⟩⟩, rfl,
            hseen⟩
        · have hne : e ≠ a := fun h => he (h ▸ hseen)
          exact ⟨state.record e none, collectEvent_eq_ok.2 ⟨hcheck e List.mem_cons_self,
            Or.inr ⟨he, none, participation_onlyPolicy_ne hne, rfl⟩⟩, rfl,
            mem_seenEventIds_record.2 (Or.inr hseen)⟩
      obtain ⟨state', hrun, hsame⟩ := collect_onlyPolicy hrest hseen'
      exact ⟨state', bind_eq_ok.2 ⟨next, hstep, hrun⟩, hsame.trans hgroups⟩

variable {a b : NormalizedEvent} {rest : List NormalizedEvent} {executionMode : ExecutionMode}
  {evaluatedAt : Timestamp}

theorem checkRequest_onePlan (hmode : executionMode ≠ .unspecified)
    (hat : validateTimestamp "evaluated_at" evaluatedAt = .ok ()) :
    (checkRequest onePlan executionMode evaluatedAt : Except (ThresholdEvaluationError Unit) Unit) =
      .ok () := by
  rw [checkRequest, check_bind_eq_ok, if_neg hmode]
  refine ⟨by simpa using hat, ?_⟩
  decide

/-- With the other event first, there is no match. -/
theorem evaluateThreshold_other_first (hmode : executionMode ≠ .unspecified)
    (hat : validateTimestamp "evaluated_at" evaluatedAt = .ok ())
    (hcheck : ∀ e ∈ b :: rest, checkEvent e = .ok ()) (hne : b ≠ a)
    (hid : b.normalizedEventId = a.normalizedEventId) :
    evaluateThresholdNormalizedEvents onePlan (b :: rest) executionMode evaluatedAt
      (onlyPolicy a) = .ok [] := by
  have hstep : collectEvent onePlan (onlyPolicy a) ⟨[], SortedMap.empty⟩ b =
      .ok ((⟨[], SortedMap.empty⟩ : Collected Unit).record b none) :=
    collectEvent_eq_ok.2 ⟨hcheck b List.mem_cons_self,
      Or.inr ⟨by simp, none, participation_onlyPolicy_ne hne, rfl⟩⟩
  obtain ⟨state, hrun, hgroups⟩ := collect_onlyPolicy (a := a)
    (fun e he => hcheck e (List.mem_cons_of_mem b he))
    (mem_seenEventIds_record.2 (Or.inl hid) :
      a.normalizedEventId ∈ ((⟨[], SortedMap.empty⟩ : Collected Unit).record b none).seenEventIds)
  rw [evaluateThresholdNormalizedEvents, check_bind_eq_ok]
  refine ⟨checkRequest_onePlan hmode hat,
    bind_eq_ok.2 ⟨state, bind_eq_ok.2 ⟨_, hstep, hrun⟩, ?_⟩⟩
  rw [hgroups]
  rfl

/-- With `a` first, there is a match. -/
theorem evaluateThreshold_self_first (hcheck : ∀ e ∈ a :: rest, checkEvent e = .ok ()) :
    evaluateThresholdNormalizedEvents onePlan (a :: rest) executionMode evaluatedAt
      (onlyPolicy a) ≠ .ok [] := by
  intro h
  have hstep : collectEvent onePlan (onlyPolicy a) ⟨[], SortedMap.empty⟩ a =
      .ok ((⟨[], SortedMap.empty⟩ : Collected Unit).record a (some ((), 0))) :=
    collectEvent_eq_ok.2 ⟨hcheck a List.mem_cons_self,
      Or.inr ⟨by simp, _, participation_onlyPolicy_self a, rfl⟩⟩
  obtain ⟨state, hrun, hgroups⟩ := collect_onlyPolicy (a := a)
    (fun e he => hcheck e (List.mem_cons_of_mem a he))
    (mem_seenEventIds_record.2 (Or.inl rfl) : a.normalizedEventId ∈
      ((⟨[], SortedMap.empty⟩ : Collected Unit).record a (some ((), 0))).seenEventIds)
  rw [evaluateThresholdNormalizedEvents, check_bind_eq_ok] at h
  obtain ⟨state', hcollect, hmatch⟩ := bind_eq_ok.1 h.2
  obtain rfl : state = state' := by
    rw [collect, hstep] at hcollect
    exact Except.ok.inj (hrun.symm.trans hcollect)
  obtain ⟨hits, -, hmem, hall⟩ := matchGroups_eq_ok hmatch
  have hempty : hits = [] := List.forall₂_nil_right_iff.1 hall
  have hwin : (windowOf onePlan [⟨a.normalizedEventId, 0⟩]).isSome := by
    rw [windowOf, earliestWindow_isSome_iff (by simp) Candidate.neverDecreases_eventTimeMillis
      (Int.natCast_nonneg _) onePlan.threshold_pos]
    exact ⟨{⟨a.normalizedEventId, 0⟩}, le_rfl, by simp, by simp [Close]⟩
  have := (hmem (toLex (a.tenantId, ()), [⟨a.normalizedEventId, 0⟩])).2
    ⟨by rw [hgroups]; exact List.mem_cons_self, hwin⟩
  rw [hempty] at this
  exact List.not_mem_nil this

end

/-- Two different members of a list can be brought to its front. -/
theorem exists_perm_cons_cons {α : Type*} {l : List α} {a b : α} (ha : a ∈ l) (hb : b ∈ l)
    (hne : a ≠ b) : ∃ rest, (a :: b :: rest).Perm l := by
  obtain ⟨s, t, rfl⟩ := List.append_of_mem ha
  have hb' : b ∈ s ++ t := by
    rw [List.mem_append, List.mem_cons] at hb
    rw [List.mem_append]
    exact hb.imp id fun h => h.resolve_left hne.symm
  obtain ⟨u, v, huv⟩ := List.append_of_mem hb'
  have hfront : (a :: b :: (u ++ v)).Perm (a :: (s ++ t)) := by
    rw [huv]
    exact List.perm_middle.symm.cons a
  exact ⟨u ++ v, hfront.trans List.perm_middle.symm⟩

/-- **Input order is irrelevant exactly if no two different events share an identifier**, or the
request or one of the events is rejected in any case. -/
theorem orderIrrelevant_iff (events : List NormalizedEvent) (executionMode : ExecutionMode)
    (evaluatedAt : Timestamp) :
    OrderIrrelevant events executionMode evaluatedAt ↔
      Coherent {e | e ∈ events} ∨ executionMode = .unspecified ∨
        validateTimestamp "evaluated_at" evaluatedAt ≠ .ok () ∨
          ∃ e ∈ events, checkEvent e ≠ .ok () := by
  constructor
  · intro horder
    by_contra hcon
    push Not at hcon
    obtain ⟨hcoh, hmode, hat, hcheck⟩ := hcon
    simp only [Coherent, not_forall] at hcoh
    obtain ⟨a, ha, b, hb, hid, hne⟩ := hcoh
    obtain ⟨rest, hperm⟩ := exists_perm_cons_cons ha hb hne
    have hperm' : (b :: a :: rest).Perm events := (List.Perm.swap a b rest).trans hperm
    have hother := evaluateThreshold_other_first hmode hat
      (fun e he => hcheck e (hperm'.mem_iff.1 he)) (Ne.symm hne) hid.symm
    exact evaluateThreshold_self_first (fun e he => hcheck e (hperm.mem_iff.1 he))
      (horder _ _ _ _ _ _ _ _ _ _ _ _ hperm' hperm hother)
  · intro hcond Field RuleValue RuleVersion Plan Profile GroupKey Error _ _ _ _ plan policy left
      right found hleft hright h
    obtain ⟨hmode, hat, hcheck⟩ := evaluateThreshold_ne_ok h
    rcases hcond with hcoh | hunspecified | hinvalid | ⟨e, he, hbad⟩
    · have hset : {e | e ∈ left} = {e | e ∈ events} := by
        ext e
        exact hleft.mem_iff
      exact evaluateThreshold_perm (hset ▸ hcoh) (hleft.trans hright.symm) h
    · exact absurd hunspecified hmode
    · exact absurd hat hinvalid
    · exact absurd (hcheck e (hleft.mem_iff.2 he)) hbad

/-- One identifier with two times: the first one decides. -/
theorem not_orderIrrelevant_sample :
    ¬ OrderIrrelevant [sampleEvent "01890a5d-ac96-774b-bcce-b302099a8001" 0,
      sampleEvent "01890a5d-ac96-774b-bcce-b302099a8001" 1000] .live ⟨10, 0⟩ := by
  intro h
  have := h _ _ _ _ _ _ _ onePlan samplePolicy _
    [sampleEvent "01890a5d-ac96-774b-bcce-b302099a8001" 1000,
      sampleEvent "01890a5d-ac96-774b-bcce-b302099a8001" 0]
    [⟨⟨"CER-DET-000001"⟩, "1", "01890a5d-ac96-774b-bcce-b302099a8057",
      ["01890a5d-ac96-774b-bcce-b302099a8001"], ⟨0, 0⟩, ⟨0, 0⟩, ⟨10, 0⟩, .clickHouse, .live⟩]
    (List.Perm.refl _) (List.Perm.swap _ _ _) (by decide)
  revert this
  decide

end Detection

end Cerbero
