import Mathlib.Data.Set.Insert
import Cerbero.Detection.Threshold

/-!
# Detection/ThresholdGroups — what the loop over the events leaves in the groups

After any number of rounds the groups hold the candidates of the events seen, each once
(`Collected.Holds`).  One round keeps that (`Holds.collectEvent`), so a whole run does
(`holds_collect`), as long as events with equal identifiers are equal.
-/

namespace Cerbero

namespace Detection

variable {Field RuleValue RuleVersion Plan Profile GroupKey Error : Type} [AsRefStr Field]
  [EventExecutionPlanView Plan Field RuleValue] [EventSignalExecutionPlanView Plan RuleVersion]
  [LinearOrder GroupKey]
  {plan : CompiledThresholdExecutionPlan Plan Profile Field}
  {policy : ThresholdEvaluationPolicy Field RuleValue GroupKey Error}

@[simp] theorem liftPolicy_eq_ok {PolicyError α : Type} {x : Except PolicyError α} {a : α} :
    liftPolicy x = .ok a ↔ x = .ok a := mapError_eq_ok

@[simp] theorem liftCheck_eq_ok {PolicyError : Type} {x : Check} {u : Unit} :
    (liftCheck x : Except (ThresholdEvaluationError PolicyError) Unit) = .ok u ↔ x = .ok u :=
  mapError_eq_ok

/-- **Events with equal identifiers are equal.** -/
def Coherent (events : Set NormalizedEvent) : Prop :=
  ∀ a ∈ events, ∀ b ∈ events, a.normalizedEventId = b.normalizedEventId → a = b

/-- `c` is the candidate of an event of the group `key`: the event is the tenant's, matches the
filter, and the policy gives it the group's key and the candidate's time. -/
def Matching (plan : CompiledThresholdExecutionPlan Plan Profile Field)
    (policy : ThresholdEvaluationPolicy Field RuleValue GroupKey Error)
    (events : Set NormalizedEvent) (key : String ×ₗ GroupKey) (c : Candidate) : Prop :=
  ∃ event ∈ events, event.normalizedEventId = c.normalizedEventId ∧
    event.tenantId = (ofLex key).1 ∧
    participation plan policy event = .ok (some ((ofLex key).2, c.eventTimeMillis))

/-- An event that the loop can take in: its identifiers are valid and the policy answers. -/
def Admissible (plan : CompiledThresholdExecutionPlan Plan Profile Field)
    (policy : ThresholdEvaluationPolicy Field RuleValue GroupKey Error)
    (event : NormalizedEvent) : Prop :=
  checkEvent event = .ok () ∧ ∃ o, participation plan policy event = .ok o

/-- The candidates of a group. -/
def Collected.members (state : Collected GroupKey) (key : String ×ₗ GroupKey) : List Candidate :=
  state.groups.members key

/-- **The groups hold the candidates of the events seen, each once.** -/
structure Collected.Holds (plan : CompiledThresholdExecutionPlan Plan Profile Field)
    (policy : ThresholdEvaluationPolicy Field RuleValue GroupKey Error)
    (events : Set NormalizedEvent) (state : Collected GroupKey) : Prop where
  seen : ∀ id, id ∈ state.seenEventIds ↔ ∃ event ∈ events, event.normalizedEventId = id
  admissible : ∀ event ∈ events, Admissible plan policy event
  mem : ∀ key c, c ∈ state.members key ↔ Matching plan policy events key c
  nodup : ∀ key, ((state.members key).map Candidate.normalizedEventId).Nodup
  ne_nil : ∀ key, state.groups.get? key ≠ some []

/-! ## One round -/

/-- Everything one round can do. -/
theorem collectEvent_eq_ok {state state' : Collected GroupKey} {event : NormalizedEvent} :
    collectEvent plan policy state event = .ok state' ↔
      checkEvent event = .ok () ∧
        ((event.normalizedEventId ∈ state.seenEventIds ∧ state' = state) ∨
          (event.normalizedEventId ∉ state.seenEventIds ∧
            ∃ o, participation plan policy event = .ok o ∧ state' = state.record event o)) := by
  rw [collectEvent, check_bind_eq_ok, liftCheck_eq_ok]
  refine and_congr_right fun _ => ?_
  split_ifs with hseen
  · simp [hseen, pure, Except.pure, @eq_comm _ state']
  · rw [bind_eq_ok]
    simp [hseen, pure, Except.pure, @eq_comm _ state']

/-- Where the candidate of a new event goes. -/
theorem mem_members_record {state : Collected GroupKey} {event : NormalizedEvent}
    {o : Option (GroupKey × ℤ)} {key : String ×ₗ GroupKey} {c : Candidate} :
    c ∈ (state.record event o).members key ↔ c ∈ state.members key ∨
      (event.normalizedEventId = c.normalizedEventId ∧ event.tenantId = (ofLex key).1 ∧
        o = some ((ofLex key).2, c.eventTimeMillis)) := by
  cases o with
  | none => simp [Collected.record, Collected.members]
  | some p =>
    obtain ⟨groupKey, t⟩ := p
    obtain ⟨id, time⟩ := c
    rw [Collected.record, Collected.members, SortedMap.mem_members_push, SortedMap.eq_toLex_iff]
    simp only [Candidate.mk.injEq, Option.some.injEq, Prod.mk.injEq, Collected.members]
    refine or_congr_right ?_
    rw [@eq_comm _ id, @eq_comm _ time]
    tauto

theorem mem_seenEventIds_record {state : Collected GroupKey} {event : NormalizedEvent}
    {o : Option (GroupKey × ℤ)} {id : String} :
    id ∈ (state.record event o).seenEventIds ↔
      event.normalizedEventId = id ∨ id ∈ state.seenEventIds := by
  rcases o with - | ⟨k, t⟩ <;> simp [Collected.record, eq_comm]

/-- A new identifier keeps the identifiers of every group distinct. -/
theorem nodup_members_record {state : Collected GroupKey} {event : NormalizedEvent}
    {o : Option (GroupKey × ℤ)} {key : String ×ₗ GroupKey}
    (hnodup : ((state.members key).map Candidate.normalizedEventId).Nodup)
    (hnew : ∀ c ∈ state.members key, c.normalizedEventId ≠ event.normalizedEventId) :
    (((state.record event o).members key).map Candidate.normalizedEventId).Nodup := by
  cases o with
  | none => exact hnodup
  | some p => exact SortedMap.nodup_members_push Candidate.normalizedEventId hnodup hnew

theorem record_groups_ne_nil {state : Collected GroupKey} {event : NormalizedEvent}
    {o : Option (GroupKey × ℤ)} {key : String ×ₗ GroupKey}
    (h : state.groups.get? key ≠ some []) : (state.record event o).groups.get? key ≠ some [] := by
  cases o with
  | none => exact h
  | some p => exact SortedMap.get?_push_ne_nil h

theorem holds_empty : (⟨[], SortedMap.empty⟩ : Collected GroupKey).Holds plan policy ∅ where
  seen := by simp
  admissible := by simp
  mem := by simp [Collected.members, SortedMap.members, Matching]
  nodup := by simp [Collected.members, SortedMap.members]
  ne_nil := by simp

omit [LinearOrder GroupKey] in
theorem matching_insert {events : Set NormalizedEvent} {event : NormalizedEvent}
    {key : String ×ₗ GroupKey} {c : Candidate} :
    Matching plan policy (insert event events) key c ↔
      Matching plan policy events key c ∨
        (event.normalizedEventId = c.normalizedEventId ∧ event.tenantId = (ofLex key).1 ∧
          participation plan policy event = .ok (some ((ofLex key).2, c.eventTimeMillis))) := by
  simp only [Matching, Set.exists_mem_insert]
  exact or_comm

/-- **One round adds its event to the events the groups hold.** -/
theorem Collected.Holds.collectEvent {events : Set NormalizedEvent}
    {state state' : Collected GroupKey} {event : NormalizedEvent}
    (h : state.Holds plan policy events) (hcoh : Coherent (insert event events))
    (hstep : Detection.collectEvent plan policy state event = .ok state') :
    state'.Holds plan policy (insert event events) := by
  obtain ⟨hcheck, ⟨hseen, rfl⟩ | ⟨hnew, o, ho, rfl⟩⟩ := collectEvent_eq_ok.1 hstep
  · -- the event was seen before, so it is the one that was
    obtain ⟨other, hother, hid⟩ := (h.seen _).1 hseen
    have heq : other = event :=
      hcoh _ (Set.mem_insert_of_mem _ hother) _ (Set.mem_insert _ _) hid
    rw [Set.insert_eq_of_mem (heq ▸ hother)]
    exact h
  · have hfresh : ∀ key, ∀ c ∈ state.members key,
        c.normalizedEventId ≠ event.normalizedEventId := by
      intro key c hc heq
      obtain ⟨other, hother, hid, -⟩ := (h.mem key c).1 hc
      exact hnew ((h.seen _).2 ⟨other, hother, hid.trans heq⟩)
    exact
      { seen := fun id => by
          rw [mem_seenEventIds_record, h.seen, Set.exists_mem_insert]
        admissible := fun e he => by
          rcases Set.mem_insert_iff.1 he with rfl | he
          · exact ⟨hcheck, o, ho⟩
          · exact h.admissible e he
        mem := fun key c => by
          rw [mem_members_record, h.mem, matching_insert, ho, Except.ok.injEq]
        nodup := fun key => nodup_members_record (h.nodup key) (hfresh key)
        ne_nil := fun key => record_groups_ne_nil (h.ne_nil key) }

/-! ## Whole runs -/

/-- **A run adds all its events.** -/
theorem holds_collect {state' : Collected GroupKey} :
    ∀ {rest : List NormalizedEvent} {events : Set NormalizedEvent} {state : Collected GroupKey},
      state.Holds plan policy events → Coherent (events ∪ {e | e ∈ rest}) →
        collect plan policy state rest = .ok state' →
          state'.Holds plan policy (events ∪ {e | e ∈ rest})
  | [], events, state, h, _, hrun => by
      obtain rfl := Except.ok.inj hrun
      simpa using h
  | event :: rest, events, state, h, hcoh, hrun => by
      rw [collect, bind_eq_ok] at hrun
      obtain ⟨next, hstep, hrun⟩ := hrun
      have hsplit : events ∪ {e | e ∈ event :: rest} = insert event events ∪ {e | e ∈ rest} := by
        ext e
        simp only [Set.mem_union, Set.mem_ofPred_eq, List.mem_cons, Set.mem_insert_iff]
        tauto
      rw [hsplit] at hcoh ⊢
      have hcoh' : Coherent (insert event events) :=
        fun a ha b hb => hcoh a (Or.inl ha) b (Or.inl hb)
      exact holds_collect (h.collectEvent hcoh' hstep) hcoh hrun

/-- A run over admissible events does not stop. -/
theorem exists_collect_eq_ok :
    ∀ {rest : List NormalizedEvent} (state : Collected GroupKey),
      (∀ event ∈ rest, Admissible plan policy event) →
        ∃ state', collect plan policy state rest = .ok state'
  | [], state, _ => ⟨state, rfl⟩
  | event :: rest, state, h => by
      obtain ⟨next, hnext⟩ : ∃ next, collectEvent plan policy state event = .ok next := by
        obtain ⟨hcheck, o, ho⟩ := h event List.mem_cons_self
        by_cases hseen : event.normalizedEventId ∈ state.seenEventIds
        · exact ⟨state, collectEvent_eq_ok.2 ⟨hcheck, Or.inl ⟨hseen, rfl⟩⟩⟩
        · exact ⟨_, collectEvent_eq_ok.2 ⟨hcheck, Or.inr ⟨hseen, o, ho, rfl⟩⟩⟩
      obtain ⟨state', hrest⟩ := exists_collect_eq_ok next fun e he => h e (List.mem_cons_of_mem _ he)
      exact ⟨state', bind_eq_ok.2 ⟨next, hnext, hrest⟩⟩

/-! ## Sorted groups -/

/-- Candidates with distinct identifiers are strictly sorted. -/
theorem pairwise_lt_insertionSort {candidates : List Candidate}
    (h : (candidates.map Candidate.normalizedEventId).Nodup) :
    (candidates.insertionSort (· ≤ ·)).Pairwise (· < ·) := by
  have hperm := candidates.perm_insertionSort (· ≤ ·)
  have hnodup : (candidates.insertionSort (· ≤ ·)).Nodup :=
    (List.Perm.nodup_iff hperm).2 (List.Nodup.of_map _ h)
  have hsorted := candidates.pairwise_insertionSort (· ≤ ·)
  exact (List.pairwise_and_iff.2 ⟨hsorted, hnodup⟩).imp fun ⟨hle, hne⟩ => lt_of_le_of_ne hle hne

theorem mem_insertionSort {candidates : List Candidate} {c : Candidate} :
    c ∈ candidates.insertionSort (· ≤ ·) ↔ c ∈ candidates :=
  (candidates.perm_insertionSort (· ≤ ·)).mem_iff

end Detection

end Cerbero
