import Cerbero.Detection.SequenceExact

/-!
# Detection/SequenceOrder — the order of the Signals and their copies do not matter

The unique Signals are there exactly if each Signal passes its checks and Signals with equal
identifiers are equal (`validateUniqueSignals_isOk`), and then they depend on the set of Signals
only.  So does the evaluation (**`evaluateSequence_congr`**).
-/

namespace Cerbero

namespace Detection

variable {executionMode : ExecutionMode}

/-- The checks made on every Signal. -/
def Admitted (executionMode : ExecutionMode) (signal : Signal) : Prop :=
  validateSignal signal = .ok () ∧ validateExecutionMode signal executionMode = .ok ()

/-- **Signals with equal identifiers are equal.** -/
def Agree (signals : List Signal) : Prop :=
  ∀ a ∈ signals, ∀ b ∈ signals, a.signalId = b.signalId → a = b

/-! ## When the unique Signals are there -/

theorem admitted_of_uniqueSignals :
    ∀ {signals : List Signal} {unique result : SortedMap String Signal},
      uniqueSignals executionMode unique signals = .ok result →
        ∀ s ∈ signals, Admitted executionMode s
  | [], _, _, _, _, hs => by simp at hs
  | signal :: signals, unique, result, h, s, hs => by
      rw [uniqueSignals, check_bind_eq_ok, check_bind_eq_ok] at h
      obtain ⟨hvalid, hmode, h⟩ := h
      obtain rfl | hs := List.mem_cons.1 hs
      · exact ⟨hvalid, hmode⟩
      · cases hget : unique.get? signal.signalId with
        | some existing =>
          rw [hget] at h
          exact admitted_of_uniqueSignals (check_bind_eq_ok.1 h).2 s hs
        | none =>
          rw [hget] at h
          exact admitted_of_uniqueSignals h s hs

theorem exists_uniqueSignals :
    ∀ {signals : List Signal} {unique : SortedMap String Signal},
      (∀ s ∈ signals, Admitted executionMode s) → Agree signals →
      (∀ s ∈ signals, ∀ existing, unique.get? s.signalId = some existing → existing = s) →
        ∃ result, uniqueSignals executionMode unique signals = .ok result
  | [], unique, _, _, _ => ⟨unique, rfl⟩
  | signal :: signals, unique, hadmitted, hagree, hknown => by
      have hrest : Agree signals := fun a ha b hb =>
        hagree a (List.mem_cons_of_mem _ ha) b (List.mem_cons_of_mem _ hb)
      have hadmittedRest := fun s hs => hadmitted s (List.mem_cons_of_mem signal hs)
      have hknownRest := fun s hs => hknown s (List.mem_cons_of_mem signal hs)
      obtain ⟨hvalid, hmode⟩ := hadmitted signal List.mem_cons_self
      simp only [uniqueSignals, check_bind_eq_ok]
      cases hget : unique.get? signal.signalId with
      | some existing =>
        obtain rfl := hknown signal List.mem_cons_self existing hget
        obtain ⟨result, hresult⟩ := exists_uniqueSignals hadmittedRest hrest hknownRest
        refine ⟨result, hvalid, hmode, check_bind_eq_ok.2 ⟨?_, hresult⟩⟩
        rw [rejectIf_eq_ok, bne_self_eq_false]
      | none =>
        have hinserted : ∀ s ∈ signals, ∀ existing,
            (unique.insert signal.signalId signal).get? s.signalId = some existing →
              existing = s := by
          intro s hs existing hexisting
          rw [SortedMap.get?_insert] at hexisting
          split_ifs at hexisting with hid
          · exact Option.some.inj hexisting ▸
              (hagree s (List.mem_cons_of_mem _ hs) signal List.mem_cons_self hid).symm
          · exact hknownRest s hs existing hexisting
        obtain ⟨result, hresult⟩ := exists_uniqueSignals hadmittedRest hrest hinserted
        exact ⟨result, hvalid, hmode, hresult⟩

theorem agree_of_validateUniqueSignals {signals : List Signal} {unique : SortedMap String Signal}
    (h : validateUniqueSignals signals executionMode = .ok unique) : Agree signals := by
  intro a ha b hb hab
  have hgetA := (get?_uniqueSignals h a.signalId a).2 (.inr ⟨ha, rfl⟩)
  have hgetB := (get?_uniqueSignals h a.signalId b).2 (.inr ⟨hb, hab.symm⟩)
  exact Option.some.inj (hgetA.symm.trans hgetB)

/-- **When the unique Signals are there.** -/
theorem validateUniqueSignals_isOk {signals : List Signal} :
    (∃ unique, validateUniqueSignals signals executionMode = .ok unique) ↔
      (∀ s ∈ signals, Admitted executionMode s) ∧ Agree signals := by
  constructor
  · rintro ⟨unique, h⟩
    exact ⟨admitted_of_uniqueSignals h, agree_of_validateUniqueSignals h⟩
  · rintro ⟨hadmitted, hagree⟩
    exact exists_uniqueSignals hadmitted hagree fun _ _ _ h => by simp at h

theorem get?_validateUniqueSignals {signals : List Signal} {unique : SortedMap String Signal}
    (h : validateUniqueSignals signals executionMode = .ok unique) {id : String} {s : Signal} :
    unique.get? id = some s ↔ s ∈ signals ∧ s.signalId = id := by
  rw [get?_uniqueSignals h]
  simp

/-- **They depend on the set of the Signals.** -/
theorem validateUniqueSignals_congr {signals signals' : List Signal}
    {unique : SortedMap String Signal} (hset : ∀ s, s ∈ signals ↔ s ∈ signals')
    (h : validateUniqueSignals signals executionMode = .ok unique) :
    validateUniqueSignals signals' executionMode = .ok unique := by
  obtain ⟨hadmitted, hagree⟩ := validateUniqueSignals_isOk.1 ⟨unique, h⟩
  obtain ⟨unique', h'⟩ := validateUniqueSignals_isOk.2
    ⟨fun s hs => hadmitted s ((hset s).2 hs),
      fun a ha b hb => hagree a ((hset a).2 ha) b ((hset b).2 hb)⟩
  have heq : unique' = unique := by
    refine SortedMap.ext_get? fun id => Option.ext fun s => ?_
    rw [get?_validateUniqueSignals h', get?_validateUniqueSignals h, hset]
  rw [h', heq]

/-! ## Evaluation -/

section

variable {Stage JoinKey Ordering GroupKey OrderKey Error : Type} [LinearOrder GroupKey]
  [LinearOrder OrderKey] {plan : CompiledSequenceCorrelationPlan Stage JoinKey Ordering}
  {policy : SequenceCorrelationEvaluationPolicy Stage JoinKey Ordering GroupKey OrderKey Error}
  {signals signals' : List Signal}

/-- Everything a successful evaluation did. -/
theorem evaluateSequenceSignals_eq_ok {found : List SequenceCorrelationMatch} :
    evaluateSequenceSignals plan signals executionMode policy = .ok found ↔
      executionMode ≠ .unspecified ∧ ∃ unique groups,
        validateUniqueSignals signals executionMode = .ok unique ∧
        collectSequenceCandidates plan policy SortedMap.empty (unique.toList.map Prod.snd) =
          .ok groups ∧
        (sequencesOfGroups plan executionMode groups.toList :
          Except (SequenceCorrelationEvaluationError Error) _) = .ok found := by
  have hwindow : rejectIf (2 ^ 63 ≤ plan.maxWindowMillis) "max_window_millis"
      "exceeds supported deterministic batch range" = .ok () :=
    rejectIf_eq_ok.2 (decide_eq_false (Nat.not_le.2 plan.window_lt))
  rw [evaluateSequenceSignals]
  by_cases hmode : executionMode = .unspecified
  · subst hmode
    exact ⟨fun h => (by cases h), fun h => absurd rfl h.1⟩
  · rw [if_neg hmode]
    constructor
    · intro h
      obtain ⟨unique, hunique, h⟩ := bind_eq_ok.1 (check_bind_eq_ok.1 h).2
      obtain ⟨groups, hgroups, h⟩ := bind_eq_ok.1 h
      exact ⟨hmode, unique, groups, liftInput_eq_ok.1 hunique, mapError_eq_ok.1 hgroups, h⟩
    · rintro ⟨-, unique, groups, hunique, hgroups, h⟩
      exact check_bind_eq_ok.2 ⟨liftInput_eq_ok.2 hwindow, bind_eq_ok.2 ⟨unique,
        liftInput_eq_ok.2 hunique, bind_eq_ok.2 ⟨groups, mapError_eq_ok.2 hgroups, h⟩⟩⟩

theorem evaluateSequence_of_mem_iff {found : List SequenceCorrelationMatch}
    (hset : ∀ s, s ∈ signals ↔ s ∈ signals')
    (h : evaluateSequenceSignals plan signals executionMode policy = .ok found) :
    evaluateSequenceSignals plan signals' executionMode policy = .ok found := by
  obtain ⟨hmode, unique, groups, hunique, hgroups, h⟩ := evaluateSequenceSignals_eq_ok.1 h
  exact evaluateSequenceSignals_eq_ok.2
    ⟨hmode, unique, groups, validateUniqueSignals_congr hset hunique, hgroups, h⟩

/-- **Lists with the same Signals have the same matches, or fail both; and Signals of one
identifier that differ make every list of them fail.** -/
theorem evaluateSequence_congr (plan : CompiledSequenceCorrelationPlan Stage JoinKey Ordering)
    (policy : SequenceCorrelationEvaluationPolicy Stage JoinKey Ordering GroupKey OrderKey Error)
    (executionMode : ExecutionMode) (signals signals' : List Signal)
    (hset : ∀ s, s ∈ signals ↔ s ∈ signals') :
    (∀ found, evaluateSequenceSignals plan signals executionMode policy = .ok found ↔
      evaluateSequenceSignals plan signals' executionMode policy = .ok found) ∧
    ∀ a ∈ signals, ∀ b ∈ signals, a.signalId = b.signalId → a ≠ b → ∀ found,
      evaluateSequenceSignals plan signals executionMode policy ≠ .ok found ∧
        evaluateSequenceSignals plan signals' executionMode policy ≠ .ok found := by
  have hiff : ∀ found, evaluateSequenceSignals plan signals executionMode policy = .ok found ↔
      evaluateSequenceSignals plan signals' executionMode policy = .ok found := fun found =>
    ⟨evaluateSequence_of_mem_iff hset, evaluateSequence_of_mem_iff fun s => (hset s).symm⟩
  refine ⟨hiff, fun a ha b hb hid hne found => ?_⟩
  have hfails : evaluateSequenceSignals plan signals executionMode policy ≠ .ok found := by
    intro h
    obtain ⟨-, unique, -, hunique, -⟩ := evaluateSequenceSignals_eq_ok.1 h
    exact hne (agree_of_validateUniqueSignals hunique a ha b hb hid)
  exact ⟨hfails, fun h => hfails ((hiff found).2 h)⟩

/-- The sample in reverse, with a copy of each Signal. -/
theorem evaluateSequence_congr_sample :
    evaluateSequenceSignals sampleSequencePlan (sampleSignals.reverse ++ sampleSignals) .live
      sampleSequencePolicy = .ok [sampleSequenceMatch] := by
  have hset : ∀ s, s ∈ sampleSignals ↔ s ∈ sampleSignals.reverse ++ sampleSignals := by
    intro s
    rw [List.mem_append, List.mem_reverse, or_self]
  exact ((evaluateSequence_congr _ _ _ _ _ hset).1 _).1 evaluateSequence_sample

end

end Detection

end Cerbero
