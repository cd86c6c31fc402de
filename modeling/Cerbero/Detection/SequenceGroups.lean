import Cerbero.Detection.SequenceSelect

/-!
# Detection/SequenceGroups — which candidates the groups of a sequence hold

A Signal takes part with exactly the stages it matches (`sequenceParticipation_eq_ok`), the unique
Signals are the Signals (`get?_uniqueSignals`), and after the loop a group holds the candidates of
its Signals, each once (`mem_collectSequenceCandidates`, `nodup_collectSequenceCandidates`).
-/

namespace Cerbero

namespace Detection

variable {Stage JoinKey Ordering GroupKey OrderKey Error : Type} [LinearOrder GroupKey]
  [LinearOrder OrderKey] {plan : CompiledSequenceCorrelationPlan Stage JoinKey Ordering}
  {policy : SequenceCorrelationEvaluationPolicy Stage JoinKey Ordering GroupKey OrderKey Error}

@[simp] theorem liftInput_eq_ok {PolicyError α : Type} {x : Except ContractViolation α} {a : α} :
    (liftInput x : Except (SequenceCorrelationEvaluationError PolicyError) α) = .ok a ↔
      x = .ok a :=
  mapError_eq_ok

/-! ## Participation -/

omit [LinearOrder GroupKey] [LinearOrder OrderKey] in
/-- The stages that are listed are the stages that match. -/
theorem mem_matchingStages {signal : Signal} :
    ∀ {stages : List Stage} {index : ℕ} {found : List ℕ},
      matchingStages policy signal index stages = .ok found →
        ∀ m, index + m ∈ found ↔
          ∃ stage, stages[m]? = some stage ∧ policy.stageMatches stage signal = .ok true
  | [], _, found, h, m => by
      obtain rfl := Except.ok.inj h
      simp
  | stage :: stages, index, found, h, m => by
      rw [matchingStages] at h
      obtain ⟨matched, hmatched, h⟩ := bind_eq_ok.1 h
      obtain ⟨rest, hrest, h⟩ := bind_eq_ok.1 h
      obtain rfl := Except.ok.inj h
      have hlow : ∀ i ∈ rest, index < i := low_of_matchingStages hrest
      cases m with
      | zero =>
        have hnot : index ∉ rest := fun hi => absurd (hlow index hi) (lt_irrefl _)
        cases matched <;> simp [hnot, hmatched]
      | succ m =>
        have ih := mem_matchingStages hrest m
        rw [show index + (m + 1) = index + 1 + m by omega, List.getElem?_cons_succ, ← ih]
        cases matched with
        | false => simp
        | true =>
          have hne : index + 1 + m ≠ index := by omega
          simp [hne]
where
  low_of_matchingStages {signal : Signal} :
      ∀ {stages : List Stage} {index : ℕ} {found : List ℕ},
        matchingStages policy signal (index + 1) stages = .ok found → ∀ i ∈ found, index < i
    | [], _, found, h, i, hi => by
        obtain rfl := Except.ok.inj h
        simp at hi
    | stage :: stages, index, found, h, i, hi => by
        rw [matchingStages] at h
        obtain ⟨matched, -, h⟩ := bind_eq_ok.1 h
        obtain ⟨rest, hrest, h⟩ := bind_eq_ok.1 h
        obtain rfl := Except.ok.inj h
        have ih := low_of_matchingStages hrest
        cases matched with
        | false => exact (Nat.lt_succ_self index).trans (ih i hi)
        | true =>
          rcases List.mem_cons.1 hi with rfl | hi
          · exact Nat.lt_succ_self index
          · exact (Nat.lt_succ_self index).trans (ih i hi)

omit [LinearOrder GroupKey] [LinearOrder OrderKey] in
/-- **A Signal takes part with its identifier, its stages, its time and its order key.** -/
theorem sequenceParticipation_eq_ok {signal : Signal} {groupKey : GroupKey}
    {c : SequenceCandidate OrderKey} :
    sequenceParticipation plan policy signal = .ok (some (groupKey, c)) ↔
      matchingStages policy signal 0 plan.stages = .ok c.stageIndices ∧ c.stageIndices ≠ [] ∧
        policy.sequenceGroupKey plan.joinKeys signal = .ok (some groupKey) ∧
        policy.sequenceTimeMillis signal = .ok (some c.timeMillis) ∧
        policy.sequenceOrderKey plan.ordering signal = .ok (some c.orderKey) ∧
        c.signalId = signal.signalId := by
  constructor
  · intro h
    rw [sequenceParticipation] at h
    obtain ⟨stageIndices, hstages, h⟩ := bind_eq_ok.1 h
    split_ifs at h with hempty
    · exact absurd h (by simp [pure, Except.pure])
    obtain ⟨g, hg, h⟩ := bind_eq_ok.1 h
    cases g with
    | none => exact absurd h (by simp [pure, Except.pure])
    | some g =>
      obtain ⟨t, ht, h⟩ := bind_eq_ok.1 h
      cases t with
      | none => exact absurd h (by simp [pure, Except.pure])
      | some t =>
        obtain ⟨k, hk, h⟩ := bind_eq_ok.1 h
        cases k with
        | none => exact absurd h (by simp [pure, Except.pure])
        | some k =>
          obtain ⟨rfl, rfl⟩ := Prod.mk.inj (Option.some.inj (Except.ok.inj h))
          exact ⟨hstages, by simpa using hempty, hg, ht, hk, rfl⟩
  · rintro ⟨hstages, hne, hg, ht, hk, hid⟩
    obtain ⟨id, stageIndices, t, k⟩ := c
    dsimp only at hid hstages hne ht hk
    subst hid
    rw [sequenceParticipation, hstages, hg, ht, hk]
    simp [hne, bind, Except.bind, pure, Except.pure]

/-- `c` is the candidate of `signal` in the group `key`. -/
def InGroup (plan : CompiledSequenceCorrelationPlan Stage JoinKey Ordering)
    (policy : SequenceCorrelationEvaluationPolicy Stage JoinKey Ordering GroupKey OrderKey Error)
    (key : String ×ₗ GroupKey) (signal : Signal) (c : SequenceCandidate OrderKey) : Prop :=
  signal.tenantId = (ofLex key).1 ∧
    sequenceParticipation plan policy signal = .ok (some ((ofLex key).2, c))

/-! ## Unique Signals -/

/-- **The unique Signals are the Signals**: a second Signal of an identifier is the same one. -/
theorem get?_uniqueSignals {executionMode : ExecutionMode} :
    ∀ {signals : List Signal} {unique result : SortedMap String Signal},
      uniqueSignals executionMode unique signals = .ok result →
        ∀ id s, result.get? id = some s ↔
          unique.get? id = some s ∨ (s ∈ signals ∧ s.signalId = id)
  | [], unique, result, h, id, s => by
      obtain rfl := Except.ok.inj h
      simp
  | signal :: signals, unique, result, h, id, s => by
      rw [uniqueSignals, check_bind_eq_ok, check_bind_eq_ok] at h
      obtain ⟨-, -, h⟩ := h
      cases hget : unique.get? signal.signalId with
      | some existing =>
        rw [hget] at h
        dsimp only at h
        rw [check_bind_eq_ok, rejectIf_eq_ok, bne_eq_false_iff_eq] at h
        obtain ⟨rfl, h⟩ := h
        rw [get?_uniqueSignals h, List.mem_cons]
        refine ⟨fun hs => hs.imp_right fun ⟨hs, hid⟩ => ⟨Or.inr hs, hid⟩, ?_⟩
        rintro (hs | ⟨rfl | hs, rfl⟩)
        · exact Or.inl hs
        · exact Or.inl hget
        · exact Or.inr ⟨hs, rfl⟩
      | none =>
        rw [hget] at h
        dsimp only at h
        rw [get?_uniqueSignals h, SortedMap.get?_insert, List.mem_cons]
        split_ifs with hid
        · subst hid
          rw [hget, Option.some.injEq]
          constructor
          · rintro (rfl | ⟨hs, hid⟩)
            · exact Or.inr ⟨Or.inl rfl, rfl⟩
            · exact Or.inr ⟨Or.inr hs, hid⟩
          · rintro (hs | ⟨rfl | hs, hid⟩)
            · exact absurd hs (by simp)
            · exact Or.inl rfl
            · exact Or.inr ⟨hs, hid⟩
        · refine or_congr_right ⟨fun ⟨hs, heq⟩ => ⟨Or.inr hs, heq⟩, ?_⟩
          rintro ⟨rfl | hs, heq⟩
          · exact absurd heq.symm hid
          · exact ⟨hs, heq⟩

variable {signals : List Signal} {executionMode : ExecutionMode}

theorem mem_values_uniqueSignals {unique : SortedMap String Signal}
    (h : validateUniqueSignals signals executionMode = .ok unique) {s : Signal} :
    s ∈ unique.toList.map Prod.snd ↔ s ∈ signals := by
  rw [List.mem_map]
  constructor
  · rintro ⟨⟨id, s⟩, hs, rfl⟩
    have := (get?_uniqueSignals h id s).1 (SortedMap.mem_toList.1 hs)
    exact (this.resolve_left (by simp)).1
  · intro hs
    exact ⟨(s.signalId, s), SortedMap.mem_toList.2 ((get?_uniqueSignals h _ s).2
      (Or.inr ⟨hs, rfl⟩)), rfl⟩

theorem nodup_values_uniqueSignals {unique : SortedMap String Signal}
    (h : validateUniqueSignals signals executionMode = .ok unique) :
    ((unique.toList.map Prod.snd).map Signal.signalId).Nodup := by
  have hkeys : (unique.toList.map Prod.snd).map Signal.signalId = unique.toList.map Prod.fst := by
    rw [List.map_map]
    refine List.map_congr_left fun p hp => ?_
    have := (get?_uniqueSignals h p.1 p.2).1 (SortedMap.mem_toList.1 hp)
    exact (this.resolve_left (by simp)).2
  rw [hkeys]
  exact unique.nodup_keys

/-! ## The groups -/

omit [LinearOrder OrderKey] in
/-- **The loop adds the candidates of its Signals to their groups.** -/
theorem mem_collectSequenceCandidates :
    ∀ {rest : List Signal} {groups result : CandidateGroups GroupKey OrderKey},
      collectSequenceCandidates plan policy groups rest = .ok result →
        ∀ key c, c ∈ result.members key ↔
          c ∈ groups.members key ∨ ∃ s ∈ rest, InGroup plan policy key s c
  | [], groups, result, h, key, c => by
      obtain rfl := Except.ok.inj h
      simp
  | signal :: rest, groups, result, h, key, c => by
      rw [collectSequenceCandidates] at h
      obtain ⟨o, ho, h⟩ := bind_eq_ok.1 h
      have hhead : (∃ s ∈ signal :: rest, InGroup plan policy key s c) ↔
          InGroup plan policy key signal c ∨ ∃ s ∈ rest, InGroup plan policy key s c := by
        simp
      rw [hhead, InGroup, ho]
      cases o with
      | none =>
        rw [mem_collectSequenceCandidates h]
        simp
      | some p =>
        obtain ⟨groupKey, candidate⟩ := p
        rw [mem_collectSequenceCandidates h, SortedMap.mem_members_push, or_assoc]
        rw [SortedMap.eq_toLex_iff, Except.ok.injEq, Option.some.injEq, Prod.mk.injEq, @eq_comm _ c, and_assoc]

omit [LinearOrder OrderKey] in
/-- Each Signal is in a group at most once. -/
theorem nodup_collectSequenceCandidates :
    ∀ {rest : List Signal} {groups result : CandidateGroups GroupKey OrderKey},
      collectSequenceCandidates plan policy groups rest = .ok result →
        (rest.map Signal.signalId).Nodup →
        (∀ key, ((groups.members key).map SequenceCandidate.signalId).Nodup) →
        (∀ key, ∀ c ∈ groups.members key, c.signalId ∉ rest.map Signal.signalId) →
          ∀ key, ((result.members key).map SequenceCandidate.signalId).Nodup
  | [], groups, result, h, _, hnodup, _, key => by
      obtain rfl := Except.ok.inj h
      exact hnodup key
  | signal :: rest, groups, result, h, hrest, hnodup, hnew, key => by
      rw [List.map_cons, List.nodup_cons] at hrest
      simp only [List.map_cons, List.mem_cons, not_or] at hnew
      rw [collectSequenceCandidates] at h
      obtain ⟨o, ho, h⟩ := bind_eq_ok.1 h
      cases o with
      | none =>
        exact nodup_collectSequenceCandidates h hrest.2 hnodup (fun k c hc => (hnew k c hc).2) key
      | some p =>
        obtain ⟨groupKey, candidate⟩ := p
        have hid : candidate.signalId = signal.signalId :=
          (sequenceParticipation_eq_ok.1 ho).2.2.2.2.2
        refine nodup_collectSequenceCandidates h hrest.2 (fun k => ?_) (fun k c hc => ?_) key
        · exact SortedMap.nodup_members_push _ (hnodup k) fun c hc => by
            rw [hid]
            exact (hnew k c hc).1
        · rcases SortedMap.mem_members_push.1 hc with hc | ⟨-, rfl⟩
          · exact (hnew k c hc).2
          · rw [hid]
            exact hrest.1

omit [LinearOrder OrderKey] in
/-- A run of the loop needs an answer for every Signal. -/
theorem participation_of_collectSequenceCandidates :
    ∀ {rest : List Signal} {groups result : CandidateGroups GroupKey OrderKey},
      collectSequenceCandidates plan policy groups rest = .ok result →
        ∀ s ∈ rest, ∃ o, sequenceParticipation plan policy s = .ok o
  | [], _, _, _, s, hs => by simp at hs
  | signal :: rest, groups, result, h, s, hs => by
      rw [collectSequenceCandidates] at h
      obtain ⟨o, ho, h⟩ := bind_eq_ok.1 h
      rcases List.mem_cons.1 hs with rfl | hs
      · exact ⟨o, ho⟩
      · cases o with
        | none => exact participation_of_collectSequenceCandidates h s hs
        | some p => exact participation_of_collectSequenceCandidates h s hs

omit [LinearOrder OrderKey] in
/-- If the policy answers for every Signal, the loop ends. -/
theorem exists_collectSequenceCandidates :
    ∀ {rest : List Signal} (groups : CandidateGroups GroupKey OrderKey),
      (∀ s ∈ rest, ∃ o, sequenceParticipation plan policy s = .ok o) →
        ∃ result, collectSequenceCandidates plan policy groups rest = .ok result
  | [], groups, _ => ⟨groups, rfl⟩
  | signal :: rest, groups, hanswered => by
      obtain ⟨⟨o, ho⟩, hrest⟩ := List.forall_mem_cons.1 hanswered
      simp only [collectSequenceCandidates, ho, ok_bind]
      cases o with
      | none => exact exists_collectSequenceCandidates groups hrest
      | some p => exact exists_collectSequenceCandidates _ hrest

/-- **The groups of a successful evaluation.** -/
structure HoldsSignals (plan : CompiledSequenceCorrelationPlan Stage JoinKey Ordering)
    (policy : SequenceCorrelationEvaluationPolicy Stage JoinKey Ordering GroupKey OrderKey Error)
    (signals : List Signal) (groups : CandidateGroups GroupKey OrderKey) : Prop where
  mem : ∀ key c, c ∈ groups.members key ↔ ∃ s ∈ signals, InGroup plan policy key s c
  nodup : ∀ key, ((groups.members key).map SequenceCandidate.signalId).Nodup
  answered : ∀ s ∈ signals, ∃ o, sequenceParticipation plan policy s = .ok o
  coherent : ∀ a ∈ signals, ∀ b ∈ signals, a.signalId = b.signalId → a = b

omit [LinearOrder OrderKey] in
/-- The loop over the unique Signals makes the groups of the Signals. -/
theorem holdsSignals_of_collectSequenceCandidates {unique : SortedMap String Signal}
    {groups : CandidateGroups GroupKey OrderKey}
    (hunique : validateUniqueSignals signals executionMode = .ok unique)
    (hgroups : collectSequenceCandidates plan policy SortedMap.empty
      (unique.toList.map Prod.snd) = .ok groups) : HoldsSignals plan policy signals groups := by
  refine ⟨fun key c => ?_, fun key => ?_, fun s hs => ?_, fun a ha b hb hab => ?_⟩
  · rw [mem_collectSequenceCandidates hgroups]
    simp only [SortedMap.members, SortedMap.get?_empty, Option.getD_none, List.not_mem_nil,
      false_or, mem_values_uniqueSignals hunique]
  · exact nodup_collectSequenceCandidates hgroups (nodup_values_uniqueSignals hunique)
      (by simp [SortedMap.members]) (by simp [SortedMap.members]) key
  · exact participation_of_collectSequenceCandidates hgroups s
      ((mem_values_uniqueSignals hunique).2 hs)
  · have ha' := (get?_uniqueSignals hunique a.signalId a).2 (Or.inr ⟨ha, rfl⟩)
    have hb' := (get?_uniqueSignals hunique a.signalId b).2 (Or.inr ⟨hb, hab.symm⟩)
    exact Option.some.inj (ha'.symm.trans hb')

theorem evaluateSequence_eq_ok {found : List SequenceCorrelationMatch}
    (h : evaluateSequenceSignals plan signals executionMode policy = .ok found) :
    ∃ groups : CandidateGroups GroupKey OrderKey, HoldsSignals plan policy signals groups ∧
      (sequencesOfGroups plan executionMode groups.toList :
        Except (SequenceCorrelationEvaluationError Error) _) = .ok found := by
  rw [evaluateSequenceSignals] at h
  split_ifs at h
  · exact absurd h (by simp [throw, throwThe, MonadExceptOf.throw, bind, Except.bind])
  rw [check_bind_eq_ok] at h
  obtain ⟨-, h⟩ := h
  obtain ⟨unique, hunique, h⟩ := bind_eq_ok.1 h
  obtain ⟨groups, hgroups, h⟩ := bind_eq_ok.1 h
  rw [liftInput_eq_ok] at hunique
  rw [mapError_eq_ok] at hgroups
  exact ⟨groups, holdsSignals_of_collectSequenceCandidates hunique hgroups, h⟩

end Detection

end Cerbero
