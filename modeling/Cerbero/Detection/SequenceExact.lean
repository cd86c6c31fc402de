import Mathlib.Order.Bounds.Basic
import Cerbero.Detection.SequenceGroups

/-!
# Detection/SequenceExact — the matches of SEQUENCE are the earliest sequences of Signals

`IsSequence` says, in the words of the plan and the policy alone, what a sequence of Signals of one
tenant and group is.  Every match is one (`evaluateSequence_sound`).  If times follow order keys
within a group, every group that has a sequence has a match, and the match starts at the least Signal
that a sequence can start with (`evaluateSequence_complete`).
-/

namespace Cerbero

namespace Detection

variable {Stage JoinKey Ordering GroupKey OrderKey Error : Type} [LinearOrder OrderKey]
  {plan : CompiledSequenceCorrelationPlan Stage JoinKey Ordering}
  {policy : SequenceCorrelationEvaluationPolicy Stage JoinKey Ordering GroupKey OrderKey Error}
  {signals : List Signal} {executionMode : ExecutionMode} {key : String ×ₗ GroupKey}

/-! ## The specification -/

/-- **A sequence of Signals** of the tenant and group `key`: one Signal per stage, in stage order,
each matching its stage, with strictly increasing order keys and with all times within the window of
each other. -/
structure IsSequence (plan : CompiledSequenceCorrelationPlan Stage JoinKey Ordering)
    (policy : SequenceCorrelationEvaluationPolicy Stage JoinKey Ordering GroupKey OrderKey Error)
    (signals : List Signal) (key : String ×ₗ GroupKey) (inputs : List Signal)
    (orderKeys : List OrderKey) (times : List ℤ) : Prop where
  mem : ∀ s ∈ inputs, s ∈ signals
  tenant : ∀ s ∈ inputs, s.tenantId = (ofLex key).1
  group : ∀ s ∈ inputs, policy.sequenceGroupKey plan.joinKeys s = .ok (some (ofLex key).2)
  stages : List.Forall₂ (fun stage s => policy.stageMatches stage s = .ok true) plan.stages inputs
  order : List.Forall₂ (fun s k => policy.sequenceOrderKey plan.ordering s = .ok (some k))
    inputs orderKeys
  increasing : orderKeys.Pairwise (· < ·)
  time : List.Forall₂ (fun s t => policy.sequenceTimeMillis s = .ok (some t)) inputs times
  close : ∀ t ∈ times, ∀ t' ∈ times, t' - t ≤ plan.maxWindowMillis

/-- **Times follow order keys within a group**: a smaller order key never has a larger time. -/
def TimeConsistent (plan : CompiledSequenceCorrelationPlan Stage JoinKey Ordering)
    (policy : SequenceCorrelationEvaluationPolicy Stage JoinKey Ordering GroupKey OrderKey Error)
    (signals : List Signal) : Prop :=
  ∀ a ∈ signals, ∀ b ∈ signals, a.tenantId = b.tenantId →
    ∀ (g : GroupKey) (ka kb : OrderKey) (ta tb : ℤ),
      policy.sequenceGroupKey plan.joinKeys a = .ok (some g) →
      policy.sequenceGroupKey plan.joinKeys b = .ok (some g) →
      policy.sequenceOrderKey plan.ordering a = .ok (some ka) →
      policy.sequenceOrderKey plan.ordering b = .ok (some kb) →
      policy.sequenceTimeMillis a = .ok (some ta) →
      policy.sequenceTimeMillis b = .ok (some tb) → ka < kb → ta ≤ tb

/-! ## Parallel lists -/

section

variable {α β : Type} {R : α → β → Prop}

theorem exists_forall₂ : ∀ {l : List α}, (∀ a ∈ l, ∃ b, R a b) → ∃ l', List.Forall₂ R l l'
  | [], _ => ⟨[], .nil⟩
  | a :: l, h => by
      obtain ⟨b, hb⟩ := h a List.mem_cons_self
      obtain ⟨l', hl'⟩ := exists_forall₂ fun x hx => h x (List.mem_cons_of_mem _ hx)
      exact ⟨b :: l', .cons hb hl'⟩

theorem forall₂_getElem? {l : List α} {l' : List β} (h : List.Forall₂ R l l') :
    ∀ {i : ℕ} {b : β}, l'[i]? = some b → ∃ a, l[i]? = some a ∧ R a b := by
  induction h with
  | nil => intro i b hb; simp at hb
  | @cons a b l l' hab _ ih =>
    intro i c hc
    cases i with
    | zero =>
      obtain rfl : b = c := by simpa using hc
      exact ⟨a, rfl, hab⟩
    | succ i => exact ih (by simpa using hc)

theorem forall₂_mem {l : List α} {l' : List β} (h : List.Forall₂ R l l') :
    (∀ a ∈ l, ∃ b ∈ l', R a b) ∧ ∀ b ∈ l', ∃ a ∈ l, R a b := by
  induction h with
  | nil => simp
  | @cons a b l l' hab _ ih =>
    refine ⟨fun x hx => ?_, fun y hy => ?_⟩
    · rcases List.mem_cons.1 hx with rfl | hx
      · exact ⟨b, List.mem_cons_self, hab⟩
      · obtain ⟨y, hy, hxy⟩ := ih.1 x hx
        exact ⟨y, List.mem_cons_of_mem _ hy, hxy⟩
    · rcases List.mem_cons.1 hy with rfl | hy
      · exact ⟨a, List.mem_cons_self, hab⟩
      · obtain ⟨x, hx, hxy⟩ := ih.2 y hy
        exact ⟨x, List.mem_cons_of_mem _ hx, hxy⟩

/-- If every `b` related to an element is the value of `f`, the related list is the image. -/
theorem forall₂_eq_map {γ : Type} {S : α → γ → Prop} {l : List α} {l' : List β}
    (h : List.Forall₂ R l l') {f : β → γ} (hf : ∀ a b c, R a b → S a c → c = f b) :
    ∀ {m : List γ}, List.Forall₂ S l m → m = l'.map f := by
  induction h with
  | nil => intro m hm; cases hm; rfl
  | cons hab _ ih =>
    intro m hm
    cases hm with
    | cons hac hm => rw [List.map_cons, ih hm, hf _ _ _ hab hac]

end

/-! ## Signals and their candidates -/

/-- A sequence of candidates, read back as Signals. -/
theorem isSequence_of_candidateChain {inputs : List Signal} {xs : List (SequenceCandidate OrderKey)}
    (hmem : ∀ s ∈ inputs, s ∈ signals) (hall : List.Forall₂ (InGroup plan policy key) inputs xs)
    (hchain : CandidateChain plan.stages.length plan.maxWindowMillis xs) :
    IsSequence plan policy signals key inputs (xs.map (·.orderKey)) (xs.map (·.timeMillis)) where
  mem := hmem
  tenant s hs := by
    obtain ⟨c, -, hc⟩ := (forall₂_mem hall).1 s hs
    exact hc.1
  group s hs := by
    obtain ⟨c, -, hc⟩ := (forall₂_mem hall).1 s hs
    exact (sequenceParticipation_eq_ok.1 hc.2).2.2.1
  stages := by
    refine List.forall₂_iff_get.2 ⟨?_, fun i hi hi' => ?_⟩
    · rw [hall.length_eq, hchain.length_eq]
    · have hx : i < xs.length := hall.length_eq ▸ hi'
      obtain ⟨s, hs, hin⟩ := forall₂_getElem? hall (List.getElem?_eq_getElem hx)
      obtain rfl : inputs.get ⟨i, hi'⟩ = s := by
        simpa [List.getElem?_eq_getElem hi'] using hs
      have hstages := (sequenceParticipation_eq_ok.1 hin.2).1
      have hi0 : 0 + i ∈ xs[i].stageIndices := by
        simpa using hchain.stage i xs[i] (List.getElem?_eq_getElem hx)
      obtain ⟨stage, hstage, hmatch⟩ := (mem_matchingStages hstages i).1 hi0
      obtain rfl : plan.stages.get ⟨i, hi⟩ = stage := by
        simpa [List.getElem?_eq_getElem hi] using hstage
      exact hmatch
  order := by
    rw [List.forall₂_map_right_iff]
    exact hall.imp fun s c hc => (sequenceParticipation_eq_ok.1 hc.2).2.2.2.2.1
  increasing := hchain.increasing
  time := by
    rw [List.forall₂_map_right_iff]
    exact hall.imp fun s c hc => (sequenceParticipation_eq_ok.1 hc.2).2.2.2.1
  close t ht t' ht' := by
    obtain ⟨a, ha, rfl⟩ := List.mem_map.1 ht
    obtain ⟨b, hb, rfl⟩ := List.mem_map.1 ht'
    exact hchain.close a ha b hb

omit [LinearOrder OrderKey] in
theorem exists_matchingStages {s : Signal} {o : Option (GroupKey × SequenceCandidate OrderKey)}
    (h : sequenceParticipation plan policy s = .ok o) :
    ∃ l, matchingStages policy s 0 plan.stages = .ok l := by
  rw [sequenceParticipation] at h
  obtain ⟨l, hl, -⟩ := bind_eq_ok.1 h
  exact ⟨l, hl⟩

/-- A sequence of Signals, as candidates. -/
theorem IsSequence.exists_candidateChain {inputs : List Signal} {orderKeys : List OrderKey}
    {times : List ℤ} (h : IsSequence plan policy signals key inputs orderKeys times)
    (hanswered : ∀ s ∈ signals, ∃ o, sequenceParticipation plan policy s = .ok o) :
    ∃ xs, List.Forall₂ (InGroup plan policy key) inputs xs ∧
      CandidateChain plan.stages.length plan.maxWindowMillis xs ∧
      orderKeys = xs.map (·.orderKey) := by
  have hin : ∀ s ∈ inputs, ∃ c, InGroup plan policy key s c := by
    intro s hs
    obtain ⟨o, ho⟩ := hanswered s (h.mem s hs)
    obtain ⟨l, hl⟩ := exists_matchingStages ho
    obtain ⟨k, -, hk⟩ := (forall₂_mem h.order).1 s hs
    obtain ⟨t, -, ht⟩ := (forall₂_mem h.time).1 s hs
    obtain ⟨i, hi⟩ := List.mem_iff_getElem?.1 hs
    obtain ⟨stage, hstage, hmatch⟩ := forall₂_getElem? h.stages hi
    have hil : 0 + i ∈ l := (mem_matchingStages hl i).2 ⟨stage, hstage, hmatch⟩
    exact ⟨⟨s.signalId, l, t, k⟩, h.tenant s hs, sequenceParticipation_eq_ok.2
      ⟨hl, List.ne_nil_of_mem hil, h.group s hs, ht, hk, rfl⟩⟩
  obtain ⟨xs, hall⟩ := exists_forall₂ hin
  have horder : orderKeys = xs.map (·.orderKey) :=
    forall₂_eq_map hall (fun s c k hc hk => by
      have := (sequenceParticipation_eq_ok.1 hc.2).2.2.2.2.1
      exact Option.some.inj (Except.ok.inj (hk.symm.trans this))) h.order
  have htime : times = xs.map (·.timeMillis) :=
    forall₂_eq_map hall (fun s c t hc ht => by
      have := (sequenceParticipation_eq_ok.1 hc.2).2.2.2.1
      exact Option.some.inj (Except.ok.inj (ht.symm.trans this))) h.time
  refine ⟨xs, hall,
    { length_eq := by rw [← hall.length_eq, h.stages.length_eq]
      stage := fun i x hx => ?_
      increasing := horder ▸ h.increasing
      close := fun a ha b hb => ?_ }, horder⟩
  · obtain ⟨s, hs, hc⟩ := forall₂_getElem? hall hx
    obtain ⟨stage, hstage, hmatch⟩ := forall₂_getElem? h.stages hs
    have := (mem_matchingStages (sequenceParticipation_eq_ok.1 hc.2).1 i).2 ⟨stage, hstage, hmatch⟩
    rwa [Nat.zero_add] at this
  · rw [htime] at h
    exact h.close _ (List.mem_map_of_mem ha) _ (List.mem_map_of_mem hb)

/-! ## One group -/

/-- One round over the groups, when it succeeds. -/
theorem sequenceOfGroup_eq_ok {tenantId : String} {candidates : List (SequenceCandidate OrderKey)}
    {o : Option SequenceCorrelationMatch}
    (h : (sequenceOfGroup plan executionMode tenantId candidates :
      Except (SequenceCorrelationEvaluationError Error) _) = .ok o) :
    o = (selectSequence (sortCandidates candidates) plan.stages.length plan.maxWindowMillis).map
      fun r => matchOfSelection plan executionMode tenantId (sortCandidates candidates) r.1 r.2 := by
  unfold sequenceOfGroup at h
  cases hs : selectSequence (sortCandidates candidates) plan.stages.length
    plan.maxWindowMillis with
  | none =>
    rw [hs] at h
    exact (Except.ok.inj h).symm
  | some r =>
    obtain ⟨selected, selection⟩ := r
    rw [hs] at h
    simp only [check_bind_eq_ok] at h
    exact (Except.ok.inj h.2.2).symm

theorem mem_sortCandidates {candidates : List (SequenceCandidate OrderKey)}
    {c : SequenceCandidate OrderKey} : c ∈ sortCandidates candidates ↔ c ∈ candidates :=
  (List.perm_insertionSort _ _).mem_iff

theorem pairwise_sortCandidates (candidates : List (SequenceCandidate OrderKey)) :
    (sortCandidates candidates).Pairwise fun a b => a.sortKey ≤ b.sortKey :=
  haveI : Std.Total fun a b : SequenceCandidate OrderKey => a.sortKey ≤ b.sortKey :=
    ⟨fun a b => le_total a.sortKey b.sortKey⟩
  haveI : IsTrans _ fun a b : SequenceCandidate OrderKey => a.sortKey ≤ b.sortKey :=
    ⟨fun _ _ _ => le_trans⟩
  List.pairwise_insertionSort _ _

theorem orderKey_le_of_sortKey_le {a b : SequenceCandidate OrderKey} (h : a.sortKey ≤ b.sortKey) :
    a.orderKey ≤ b.orderKey := by
  rcases Prod.Lex.le_iff.1 h with hlt | heq
  · exact hlt.le
  · exact heq.1.le

/-- The sort keys of a sorted group follow the positions. -/
theorem sortKey_le_of_getElem? {l : List (SequenceCandidate OrderKey)}
    (hsorted : l.Pairwise fun a b => a.sortKey ≤ b.sortKey) {i j : ℕ}
    {x y : SequenceCandidate OrderKey} (hx : l[i]? = some x) (hy : l[j]? = some y) (hij : i ≤ j) :
    x.sortKey ≤ y.sortKey := by
  rcases eq_or_lt_of_le hij with rfl | hlt
  · rw [hx, Option.some.injEq] at hy
    exact (congrArg _ hy).le
  · obtain ⟨hi, rfl⟩ := List.getElem?_eq_some_iff.1 hx
    obtain ⟨hj, rfl⟩ := List.getElem?_eq_some_iff.1 hy
    exact List.pairwise_iff_getElem.1 hsorted i j hi hj hlt

variable [LinearOrder GroupKey] {groups : CandidateGroups GroupKey OrderKey}
  {candidates : List (SequenceCandidate OrderKey)}

/-- The sorted candidates of a group are those of its Signals. -/
theorem HoldsSignals.mem_sorted (h : HoldsSignals plan policy signals groups)
    (hget : groups.get? key = some candidates) (c : SequenceCandidate OrderKey) :
    c ∈ sortCandidates candidates ↔ ∃ s ∈ signals, InGroup plan policy key s c := by
  rw [mem_sortCandidates, ← h.mem key c, SortedMap.members_of_get? hget]

/-- Candidates of a group with one identifier are one. -/
theorem HoldsSignals.injOn (h : HoldsSignals plan policy signals groups)
    (hget : groups.get? key = some candidates) {a b : SequenceCandidate OrderKey}
    (ha : a ∈ sortCandidates candidates) (hb : b ∈ sortCandidates candidates)
    (hab : a.signalId = b.signalId) : a = b := by
  have hnodup := h.nodup key
  rw [SortedMap.members_of_get? hget] at hnodup
  exact List.inj_on_of_nodup_map hnodup (mem_sortCandidates.1 ha) (mem_sortCandidates.1 hb) hab

/-- The match of one group: the sequence behind it, and its times. -/
structure MatchesGroup (plan : CompiledSequenceCorrelationPlan Stage JoinKey Ordering)
    (policy : SequenceCorrelationEvaluationPolicy Stage JoinKey Ordering GroupKey OrderKey Error)
    (signals : List Signal) (key : String ×ₗ GroupKey) (found : SequenceCorrelationMatch)
    (inputs : List Signal) (orderKeys : List OrderKey) (times : List ℤ) (lo hi : ℤ) : Prop where
  isSequence : IsSequence plan policy signals key inputs orderKeys times
  nodup : (inputs.map Signal.signalId).Nodup
  inputSignalIds_eq : found.inputSignalIds = inputs.map Signal.signalId
  tenantId_eq : found.tenantId = (ofLex key).1
  isLeast : IsLeast {t | t ∈ times} lo
  isGreatest : IsGreatest {t | t ∈ times} hi
  span_le : hi - lo ≤ plan.maxWindowMillis
  windowStart_eq : found.windowStart = timestampFromMillis lo
  windowEnd_eq : found.windowEnd = timestampFromMillis hi

omit [LinearOrder GroupKey] [LinearOrder OrderKey] in
theorem inputSignalIds_of_forall₂ {l : List (SequenceCandidate OrderKey)} {selected : List ℕ}
    {xs : List (SequenceCandidate OrderKey)}
    (h : List.Forall₂ (fun j x => l[j]? = some x) selected xs) :
    (selected.filterMap fun j => l[j]?.map (·.signalId)) = xs.map (·.signalId) := by
  induction h with
  | nil => rfl
  | cons hx _ ih =>
    rw [List.filterMap_cons, hx, List.map_cons, ← ih]
    rfl

/-- The Signals behind the candidates of a selection. -/
theorem HoldsSignals.matchesGroup_of_chain (h : HoldsSignals plan policy signals groups)
    (executionMode : ExecutionMode) (hget : groups.get? key = some candidates)
    {selected : List ℕ} {selection : Selection OrderKey} {xs : List (SequenceCandidate OrderKey)}
    (hall : List.Forall₂ (fun j x => (sortCandidates candidates)[j]? = some x) selected xs)
    (hchain : CandidateChain plan.stages.length plan.maxWindowMillis xs)
    (hbounds : TimeBounds xs selection.minTime selection.maxTime)
    (hspan : selection.maxTime - selection.minTime ≤ plan.maxWindowMillis) :
    ∃ inputs, List.Forall₂ (InGroup plan policy key) inputs xs ∧
      MatchesGroup plan policy signals key
        (matchOfSelection plan executionMode (ofLex key).1 (sortCandidates candidates) selected
          selection) inputs (xs.map (·.orderKey)) (xs.map (·.timeMillis)) selection.minTime
        selection.maxTime := by
  have hsorted : ∀ x ∈ xs, x ∈ sortCandidates candidates := by
    intro x hx
    obtain ⟨j, -, hj⟩ := (forall₂_mem hall).2 x hx
    exact List.mem_of_getElem? hj
  obtain ⟨inputs, hinputs⟩ :=
    exists_forall₂ (R := fun c s => s ∈ signals ∧ InGroup plan policy key s c) fun x hx =>
      (h.mem_sorted hget x).1 (hsorted x hx)
  have hflip : List.Forall₂ (InGroup plan policy key) inputs xs :=
    List.Forall₂.flip (hinputs.imp fun _ _ hc => hc.2)
  have hmem : ∀ s ∈ inputs, s ∈ signals := by
    intro s hs
    obtain ⟨c, -, hc⟩ := (forall₂_mem hinputs).2 s hs
    exact hc.1
  have hids : inputs.map Signal.signalId = xs.map (·.signalId) :=
    (forall₂_eq_map hflip.flip (S := fun c id => id = c.signalId) (f := Signal.signalId)
      (fun c s id hc hid => by rw [hid, (sequenceParticipation_eq_ok.1 hc.2).2.2.2.2.2])
      (List.forall₂_map_right_iff.2 (List.forall₂_same.2 fun _ _ => rfl))).symm
  have hnodup : (xs.map (·.signalId)).Nodup := by
    have hxs : xs.Nodup := List.Nodup.of_map _ (hchain.increasing.imp fun hlt => hlt.ne)
    exact hxs.map_on fun a ha b hb hab => h.injOn hget (hsorted a ha) (hsorted b hb) hab
  have htimes : ∀ t, t ∈ xs.map (·.timeMillis) ↔ ∃ x ∈ xs, t = x.timeMillis := by
    intro t
    rw [List.mem_map]
    exact ⟨fun ⟨x, hx, ht⟩ => ⟨x, hx, ht.symm⟩, fun ⟨x, hx, ht⟩ => ⟨x, hx, ht.symm⟩⟩
  refine ⟨inputs, hflip,
    { isSequence := isSequence_of_candidateChain hmem hflip hchain
      nodup := hids ▸ hnodup
      inputSignalIds_eq := (inputSignalIds_of_forall₂ hall).trans hids.symm
      tenantId_eq := rfl
      isLeast := ⟨(htimes _).2 hbounds.lo_mem, fun t ht => ?_⟩
      isGreatest := ⟨(htimes _).2 hbounds.hi_mem, fun t ht => ?_⟩
      span_le := hspan
      windowStart_eq := rfl
      windowEnd_eq := rfl }⟩
  · obtain ⟨x, hx, rfl⟩ := (htimes t).1 ht
    exact (hbounds.le x hx).1
  · obtain ⟨x, hx, rfl⟩ := (htimes t).1 ht
    exact (hbounds.le x hx).2

/-- **The selection of a group is a sequence of its Signals**, and starts with the start of the
selection. -/
theorem HoldsSignals.matchesGroup (h : HoldsSignals plan policy signals groups)
    (executionMode : ExecutionMode) (hget : groups.get? key = some candidates)
    {selected : List ℕ} {selection : Selection OrderKey}
    (hsel : selectSequence (sortCandidates candidates) plan.stages.length plan.maxWindowMillis =
      some (selected, selection)) :
    ∃ first rest start xs times lo hi,
      MatchesGroup plan policy signals key
        (matchOfSelection plan executionMode (ofLex key).1 (sortCandidates candidates) selected
          selection) (first :: rest) (start.orderKey :: xs) times lo hi ∧
      InGroup plan policy key first start ∧
      ∀ (j : ℕ) (x : SequenceCandidate OrderKey), (sortCandidates candidates)[j]? = some x →
        (selectFrom (sortCandidates candidates) plan.stages.length plan.maxWindowMillis j x).isSome →
          start.sortKey ≤ x.sortKey := by
  obtain ⟨i, start, hi, hfrom, hfirst⟩ := selectSequence_eq_some hsel
  have hpos : 0 < plan.stages.length := List.length_pos_iff.2 plan.stages_ne_nil
  obtain ⟨xs, hall, -, hchain, hbounds, hspan⟩ :=
    chain_of_selectFrom (Int.natCast_nonneg _) hpos hi hfrom
  obtain ⟨inputs, hinputs, hmatch⟩ :=
    h.matchesGroup_of_chain executionMode hget hall hchain hbounds hspan
  obtain ⟨first, rest, hfirstin, -, rfl⟩ := List.forall₂_cons_right_iff.1 hinputs
  exact ⟨first, rest, start, _, _, _, _, hmatch, hfirstin, fun j x hx hsome =>
    sortKey_le_of_getElem? (pairwise_sortCandidates candidates) hi hx (hfirst j x hx hsome)⟩

/-! ## The evaluator -/

/-- **The matches, group by group**: one for every group whose selection completes. -/
theorem sequencesOfGroups_eq_ok {found : List SequenceCorrelationMatch}
    (h : (sequencesOfGroups plan executionMode groups.toList :
      Except (SequenceCorrelationEvaluationError Error) _) = .ok found) :
    ∃ hits : List ((String ×ₗ GroupKey) × List (SequenceCandidate OrderKey)),
      (hits.map Prod.fst).Nodup ∧
      (∀ g, g ∈ hits ↔ groups.get? g.1 = some g.2 ∧
        (selectSequence (sortCandidates g.2) plan.stages.length plan.maxWindowMillis).isSome) ∧
      List.Forall₂ (fun g m => groups.get? g.1 = some g.2 ∧ ∃ selected selection,
        selectSequence (sortCandidates g.2) plan.stages.length plan.maxWindowMillis =
          some (selected, selection) ∧
        m = matchOfSelection plan executionMode (ofLex g.1).1 (sortCandidates g.2) selected
          selection) hits found := by
  obtain ⟨hits, hsub, hmem, hall⟩ := filterMapOk_eq_ok h
  have hin : ∀ g ∈ hits, groups.get? g.1 = some g.2 := fun g hg =>
    SortedMap.mem_toList.1 ((hmem g).1 hg).1
  refine ⟨hits, groups.nodup_keys.sublist (hsub.map _), fun g => (hmem g).trans ?_,
    ((List.forall₂_and_left _ _).2 ⟨hin, hall⟩).imp fun g m ⟨hg, hm⟩ => ⟨hg, ?_⟩⟩
  · rw [← SortedMap.mem_toList]
    refine and_congr_right fun hg => ?_
    obtain ⟨o, ho⟩ := exists_of_filterMapOk_eq_ok h g hg
    rw [ho, sequenceOfGroup_eq_ok ho]
    cases selectSequence (sortCandidates g.2) plan.stages.length plan.maxWindowMillis <;> simp
  · obtain ⟨r, hr, heq⟩ := Option.map_eq_some_iff.1 (sequenceOfGroup_eq_ok hm).symm
    exact ⟨r.1, r.2, hr, heq.symm⟩

/-- **SEQUENCE evaluation is sound.**  Every match of a successful evaluation is a sequence of
Signals of one tenant and group, its window is the span of their times, and no tenant and group has
two matches. -/
theorem evaluateSequence_sound {found : List SequenceCorrelationMatch}
    (h : evaluateSequenceSignals plan signals executionMode policy = .ok found) :
    ∃ keys : List (String ×ₗ GroupKey), keys.Nodup ∧
      List.Forall₂ (fun key m => ∃ inputs orderKeys times lo hi,
        MatchesGroup plan policy signals key m inputs orderKeys times lo hi) keys found := by
  obtain ⟨groups, hholds, hgroups⟩ := evaluateSequence_eq_ok h
  obtain ⟨hits, hnodup, -, hall⟩ := sequencesOfGroups_eq_ok hgroups
  refine ⟨hits.map Prod.fst, hnodup, ?_⟩
  rw [List.forall₂_map_left_iff]
  refine hall.imp fun g m ⟨hget, selected, selection, hsel, hm⟩ => ?_
  obtain ⟨first, rest, start, xs, times, lo, hi, hmatch, -⟩ :=
    hholds.matchesGroup executionMode hget hsel
  exact ⟨first :: rest, start.orderKey :: xs, times, lo, hi, hm ▸ hmatch⟩

/-- The candidates of a group inherit the consistency of the policy. -/
theorem HoldsSignals.consistent (h : HoldsSignals plan policy signals groups)
    (hget : groups.get? key = some candidates) (hcons : TimeConsistent plan policy signals) :
    Consistent (sortCandidates candidates) := by
  intro a ha b hb hab
  obtain ⟨s, hs, hsa⟩ := (h.mem_sorted hget a).1 ha
  obtain ⟨t, ht, htb⟩ := (h.mem_sorted hget b).1 hb
  obtain ⟨-, -, hsg, hst, hsk, -⟩ := sequenceParticipation_eq_ok.1 hsa.2
  obtain ⟨-, -, htg, htt, htk, -⟩ := sequenceParticipation_eq_ok.1 htb.2
  exact hcons s hs t ht (hsa.1.trans htb.1.symm) _ _ _ _ _ hsg htg hsk htk hst htt hab

/-- A sequence of Signals makes a group, and its first candidate completes. -/
theorem HoldsSignals.selectFrom_isSome (h : HoldsSignals plan policy signals groups)
    (hcons : TimeConsistent plan policy signals) {first : Signal} {rest : List Signal}
    {k : OrderKey} {orderKeys : List OrderKey} {times : List ℤ}
    (hseq : IsSequence plan policy signals key (first :: rest) (k :: orderKeys) times) :
    ∃ candidates i start, groups.get? key = some candidates ∧
      (sortCandidates candidates)[i]? = some start ∧ start.orderKey = k ∧
      start.signalId = first.signalId ∧
      (selectFrom (sortCandidates candidates) plan.stages.length plan.maxWindowMillis i
        start).isSome := by
  obtain ⟨xs, hall, hchain, horder⟩ := hseq.exists_candidateChain h.answered
  obtain ⟨start, xs, hfirst, hrest, rfl⟩ := List.forall₂_cons_left_iff.1 hall
  have hmembers : ∀ x ∈ start :: xs, x ∈ groups.members key := by
    intro x hx
    obtain ⟨s, hs, hsx⟩ := (forall₂_mem hall).2 x hx
    exact (h.mem key x).2 ⟨s, hseq.mem s hs, hsx⟩
  cases hget : groups.get? key with
  | none =>
    have := hmembers start List.mem_cons_self
    simp [SortedMap.members, hget] at this
  | some candidates =>
    rw [SortedMap.members_of_get? hget] at hmembers
    obtain ⟨i, hi⟩ := List.mem_iff_getElem?.1
      (mem_sortCandidates.2 (hmembers start List.mem_cons_self))
    refine ⟨candidates, i, start, rfl, hi, (List.cons.inj horder).1.symm,
      (sequenceParticipation_eq_ok.1 hfirst.2).2.2.2.2.2, ?_⟩
    exact Detection.selectFrom_isSome
      ((pairwise_sortCandidates candidates).imp orderKey_le_of_sortKey_le)
      (h.consistent hget hcons) hchain (fun x hx => mem_sortCandidates.2 (hmembers x hx)) hi

omit [LinearOrder GroupKey] in
/-- A sequence has a first Signal with an order key. -/
theorem IsSequence.exists_cons {inputs : List Signal} {orderKeys : List OrderKey} {times : List ℤ}
    (h : IsSequence plan policy signals key inputs orderKeys times) :
    ∃ first rest k ks, inputs = first :: rest ∧ orderKeys = k :: ks := by
  have hlen : plan.stages.length = inputs.length := h.stages.length_eq
  cases inputs with
  | nil => exact absurd (List.length_eq_zero_iff.1 hlen) plan.stages_ne_nil
  | cons first rest =>
    obtain ⟨k, ks, -, -, rfl⟩ := List.forall₂_cons_left_iff.1 h.order
    exact ⟨first, rest, k, ks, rfl, rfl⟩

/-- **SEQUENCE evaluation is complete.**  If times follow order keys within a group, a successful
evaluation has a match for exactly the tenants and groups that have a sequence of Signals, and the
first Signal of the match is the least one, by order key and identifier, that a sequence of the group
starts with. -/
theorem evaluateSequence_complete {found : List SequenceCorrelationMatch}
    (hcons : TimeConsistent plan policy signals)
    (h : evaluateSequenceSignals plan signals executionMode policy = .ok found) :
    ∃ keys : List (String ×ₗ GroupKey), keys.Nodup ∧
      (∀ key, key ∈ keys ↔
        ∃ inputs orderKeys times, IsSequence plan policy signals key inputs orderKeys times) ∧
      List.Forall₂ (fun key m => ∃ first rest k orderKeys times,
        m.tenantId = (ofLex key).1 ∧
        m.inputSignalIds = (first :: rest).map Signal.signalId ∧
        IsSequence plan policy signals key (first :: rest) (k :: orderKeys) times ∧
        ∀ first' rest' k' orderKeys' times',
          IsSequence plan policy signals key (first' :: rest') (k' :: orderKeys') times' →
            toLex (k, first.signalId) ≤ toLex (k', first'.signalId)) keys found := by
  obtain ⟨groups, hholds, hgroups⟩ := evaluateSequence_eq_ok h
  obtain ⟨hits, hnodup, hmem, hall⟩ := sequencesOfGroups_eq_ok hgroups
  refine ⟨hits.map Prod.fst, hnodup, fun key => ?_, ?_⟩
  · rw [List.mem_map]
    constructor
    · rintro ⟨g, hg, rfl⟩
      obtain ⟨hget, hsome⟩ := (hmem g).1 hg
      obtain ⟨⟨selected, selection⟩, hsel⟩ := Option.isSome_iff_exists.1 hsome
      obtain ⟨first, rest, start, xs, times, lo, hi, hmatch, -⟩ :=
        hholds.matchesGroup executionMode hget hsel
      exact ⟨_, _, _, hmatch.isSequence⟩
    · rintro ⟨inputs, orderKeys, times, hseq⟩
      obtain ⟨first, rest, k, ks, rfl, rfl⟩ := hseq.exists_cons
      obtain ⟨candidates, i, start, hget, hi, -, -, hsome⟩ := hholds.selectFrom_isSome hcons hseq
      exact ⟨(key, candidates), (hmem _).2 ⟨hget, selectSequence_isSome hi hsome⟩, rfl⟩
  · rw [List.forall₂_map_left_iff]
    refine hall.imp fun g m ⟨hget, selected, selection, hsel, hm⟩ => ?_
    obtain ⟨first, rest, start, xs, times, lo, hi, hmatch, hin, hleast⟩ :=
      hholds.matchesGroup executionMode hget hsel
    rw [← hm] at hmatch
    refine ⟨first, rest, start.orderKey, xs, times, hmatch.tenantId_eq, hmatch.inputSignalIds_eq,
      hmatch.isSequence, fun first' rest' k' ks' times' hseq => ?_⟩
    obtain ⟨candidates, i, start', hget', hi', hk', hid', hsome⟩ :=
      hholds.selectFrom_isSome hcons hseq
    obtain rfl : g.2 = candidates := Option.some.inj (hget.symm.trans hget')
    have hle := hleast i start' hi' hsome
    rwa [SequenceCandidate.sortKey, SequenceCandidate.sortKey, hk', hid',
      (sequenceParticipation_eq_ok.1 hin.2).2.2.2.2.2] at hle

omit [LinearOrder GroupKey] in
/-- Order keys that start with the time follow the time, whatever comes second. -/
theorem timeConsistent_of_lexKey {κ : Type} [LinearOrder κ]
    {policy : SequenceCorrelationEvaluationPolicy Stage JoinKey Ordering GroupKey (ℤ ×ₗ κ) Error}
    (h : ∀ s k t, policy.sequenceOrderKey plan.ordering s = .ok (some k) →
      policy.sequenceTimeMillis s = .ok (some t) → (ofLex k).1 = t) :
    TimeConsistent plan policy signals := by
  intro a _ b _ _ g ka kb ta tb _ _ hka hkb hta htb hlt
  rw [← h a ka ta hka hta, ← h b kb tb hkb htb]
  rcases Prod.Lex.le_iff.1 hlt.le with hfst | ⟨heq, -⟩
  · exact hfst.le
  · exact heq.le

/-! ## A run -/

/-- A Signal of a rule, observed at one time. -/
def sampleSignal (signalId ruleId : String) (seconds : ℤ) : Signal where
  signalId := signalId
  tenantId := "01890a5d-ac96-774b-bcce-b302099a8057"
  ruleId := ruleId
  ruleVersion := "1"
  ruleType := 1
  severity := "high"
  confidence := none
  status := 1
  firstObservedAt := some ⟨seconds, 0⟩
  lastObservedAt := some ⟨seconds, 0⟩
  createdAt := some ⟨seconds, 0⟩
  executionMode := 1
  sourceCount := 1
  eventCount := 1
  summary := "logon"
  provenance := some ⟨some ⟨seconds, 0⟩, 1⟩
  inputs := [⟨signalId, 1, "01890a5d-ac96-774b-bcce-b302099a8057", "matched", 0⟩]

/-- Stages are rules, groups are severities, and the order key is the time with the identifier. -/
def sampleSequencePolicy :
    SequenceCorrelationEvaluationPolicy String String Unit String (ℤ ×ₗ String) Unit where
  stageMatches stage signal := .ok (stage == signal.ruleId)
  sequenceGroupKey _ signal := .ok (some signal.severity)
  sequenceTimeMillis signal := .ok (signal.firstObservedAt.map fun t => t.seconds * 1000)
  sequenceOrderKey _ signal :=
    .ok (signal.firstObservedAt.map fun t => toLex (t.seconds * 1000, signal.signalId))

/-- Two rules, one after the other within a minute. -/
def sampleSequencePlan : CompiledSequenceCorrelationPlan String String Unit where
  correlationRuleId := "CER-COR-000001"
  correlationRuleVersion := "1"
  stages := ["CER-DET-000001", "CER-DET-000002"]
  joinKeys := ["severity"]
  maxWindowMillis := 60000
  ordering := ()
  configurationHash := "hash"
  backend := .clickHouse
  supportedBackends := ⟨true, false⟩
  ruleId_text := by decide
  ruleVersion_text := by decide
  configurationHash_text := by decide
  stages_ne_nil := by decide
  joinKeys_ne_nil := by decide
  joinKeys_nodup := by decide
  window_pos := by decide
  window_lt := by decide
  backend_eq := rfl

/-- The second rule fires once too early and once in time. -/
def sampleSignals : List Signal :=
  [sampleSignal "01890a5d-ac96-774b-bcce-b302099a8003" "CER-DET-000002" 40,
    sampleSignal "01890a5d-ac96-774b-bcce-b302099a8002" "CER-DET-000001" 10,
    sampleSignal "01890a5d-ac96-774b-bcce-b302099a8001" "CER-DET-000002" 5]

theorem timeConsistent_sample :
    TimeConsistent sampleSequencePlan sampleSequencePolicy sampleSignals := by
  refine timeConsistent_of_lexKey fun s k t hk ht => ?_
  simp only [sampleSequencePolicy, Except.ok.injEq, Option.map_eq_some_iff] at hk ht
  obtain ⟨a, ha, rfl⟩ := hk
  obtain ⟨b, hb, rfl⟩ := ht
  rw [ha, Option.some.injEq] at hb
  rw [hb]
  rfl

/-- The match of the sample. -/
def sampleSequenceMatch : SequenceCorrelationMatch where
  correlationRuleId := "CER-COR-000001"
  correlationRuleVersion := "1"
  tenantId := "01890a5d-ac96-774b-bcce-b302099a8057"
  windowStart := ⟨10, 0⟩
  windowEnd := ⟨40, 0⟩
  inputSignalIds :=
    ["01890a5d-ac96-774b-bcce-b302099a8002", "01890a5d-ac96-774b-bcce-b302099a8003"]
  executionBackend := .clickHouse
  executionMode := .live
  configurationHash := "hash"

theorem evaluateSequence_sample :
    evaluateSequenceSignals sampleSequencePlan sampleSignals .live sampleSequencePolicy =
      .ok [sampleSequenceMatch] := by
  decide +kernel

theorem evaluateSequence_sound_sample :
    ∃ keys : List (String ×ₗ String), keys.Nodup ∧
      List.Forall₂ (fun key m => ∃ inputs orderKeys times lo hi,
        MatchesGroup sampleSequencePlan sampleSequencePolicy sampleSignals key m inputs orderKeys
          times lo hi) keys [sampleSequenceMatch] :=
  evaluateSequence_sound evaluateSequence_sample

theorem evaluateSequence_complete_sample :
    ∃ keys : List (String ×ₗ String), keys.Nodup ∧
      (∀ key, key ∈ keys ↔ ∃ inputs orderKeys times,
        IsSequence sampleSequencePlan sampleSequencePolicy sampleSignals key inputs orderKeys
          times) ∧
      List.Forall₂ (fun key m => ∃ first rest k orderKeys times,
        m.tenantId = (ofLex key).1 ∧
        m.inputSignalIds = (first :: rest).map Signal.signalId ∧
        IsSequence sampleSequencePlan sampleSequencePolicy sampleSignals key (first :: rest)
          (k :: orderKeys) times ∧
        ∀ first' rest' k' orderKeys' times',
          IsSequence sampleSequencePlan sampleSequencePolicy sampleSignals key (first' :: rest')
            (k' :: orderKeys') times' →
            toLex (k, first.signalId) ≤ toLex (k', first'.signalId)) keys [sampleSequenceMatch] :=
  evaluateSequence_complete timeConsistent_sample evaluateSequence_sample

end Detection

end Cerbero
