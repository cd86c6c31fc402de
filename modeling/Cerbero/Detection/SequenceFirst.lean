import Cerbero.Detection.SequenceExact

/-!
# Detection/SequenceFirst — the match of a group is its first sequence

`FirstSequence` singles out one sequence of a group: none starts earlier, and of those that start
with the same Signal none is earlier at any stage.  There is at most one
(`FirstSequence.eq`), and if times follow order keys it is what the evaluator emits
(`evaluateSequence_first`).
-/

namespace Cerbero

namespace Detection

variable {Stage JoinKey Ordering GroupKey OrderKey Error : Type} [LinearOrder OrderKey]
  {plan : CompiledSequenceCorrelationPlan Stage JoinKey Ordering}
  {policy : SequenceCorrelationEvaluationPolicy Stage JoinKey Ordering GroupKey OrderKey Error}
  {signals : List Signal} {executionMode : ExecutionMode} {key : String ×ₗ GroupKey}

/-! ## The specification -/

/-- The places of Signals in the order of their group: order key, then identifier. -/
def places (inputs : List Signal) (orderKeys : List OrderKey) : List (OrderKey ×ₗ String) :=
  List.zipWith (fun s k => toLex (k, s.signalId)) inputs orderKeys

/-- **The first sequence of a group**: no sequence starts earlier, and none with the same start is
earlier at any stage. -/
structure FirstSequence (plan : CompiledSequenceCorrelationPlan Stage JoinKey Ordering)
    (policy : SequenceCorrelationEvaluationPolicy Stage JoinKey Ordering GroupKey OrderKey Error)
    (signals : List Signal) (key : String ×ₗ GroupKey) (inputs : List Signal)
    (orderKeys : List OrderKey) (times : List ℤ) : Prop where
  isSequence : IsSequence plan policy signals key inputs orderKeys times
  head_le : ∀ inputs' orderKeys' times',
    IsSequence plan policy signals key inputs' orderKeys' times' →
      ∀ p ∈ (places inputs orderKeys).head?, ∀ p' ∈ (places inputs' orderKeys').head?, p ≤ p'
  places_le : ∀ inputs' orderKeys' times',
    IsSequence plan policy signals key inputs' orderKeys' times' →
      (places inputs orderKeys).head? = (places inputs' orderKeys').head? →
        List.Forall₂ (· ≤ ·) (places inputs orderKeys) (places inputs' orderKeys')

theorem eq_of_forall₂_le {α : Type} [PartialOrder α] {l m : List α}
    (h : List.Forall₂ (· ≤ ·) l m) : List.Forall₂ (· ≤ ·) m l → l = m := by
  induction h with
  | nil => exact fun _ => rfl
  | cons hab _ ih =>
    intro h'
    cases h' with
    | cons hba h' => rw [le_antisymm hab hba, ih h']

omit [LinearOrder OrderKey] in
/-- The identifiers are part of the places. -/
theorem map_places_snd {inputs : List Signal} : ∀ {orderKeys : List OrderKey},
    inputs.length = orderKeys.length →
      (places inputs orderKeys).map (fun p => (ofLex p).2) = inputs.map Signal.signalId := by
  induction inputs with
  | nil => exact fun {orderKeys} _ => by simp [places]
  | cons s inputs ih =>
    intro orderKeys hlen
    cases orderKeys with
    | nil => simp at hlen
    | cons k orderKeys =>
      have := ih (Nat.succ.inj hlen)
      simpa [places] using this

omit [LinearOrder OrderKey] in
/-- The order keys are part of the places. -/
theorem map_places_fst {inputs : List Signal} : ∀ {orderKeys : List OrderKey},
    inputs.length = orderKeys.length →
      (places inputs orderKeys).map (fun p => (ofLex p).1) = orderKeys := by
  induction inputs with
  | nil =>
    intro orderKeys hlen
    rw [List.length_eq_zero_iff.1 hlen.symm]
    rfl
  | cons s inputs ih =>
    intro orderKeys hlen
    cases orderKeys with
    | nil => simp at hlen
    | cons k orderKeys =>
      have := ih (Nat.succ.inj hlen)
      simpa [places] using this

theorem IsSequence.length_eq {inputs : List Signal} {orderKeys : List OrderKey} {times : List ℤ}
    (h : IsSequence plan policy signals key inputs orderKeys times) :
    inputs.length = orderKeys.length :=
  h.order.length_eq

/-- Earlier places have smaller order keys. -/
theorem IsSequence.orderKeys_le {signals' : List Signal} {inputs inputs' : List Signal}
    {orderKeys orderKeys' : List OrderKey} {times times' : List ℤ}
    (h : IsSequence plan policy signals key inputs orderKeys times)
    (h' : IsSequence plan policy signals' key inputs' orderKeys' times')
    (hle : List.Forall₂ (· ≤ ·) (places inputs orderKeys) (places inputs' orderKeys')) :
    List.Forall₂ (· ≤ ·) orderKeys orderKeys' := by
  rw [← map_places_fst h.length_eq, ← map_places_fst h'.length_eq, List.forall₂_map_left_iff,
    List.forall₂_map_right_iff]
  refine hle.imp fun p p' hp => ?_
  obtain hlt | heq := Prod.Lex.le_iff.1 hp
  · exact hlt.le
  · exact heq.1.le

/-- Signals have one order key and one time each. -/
theorem IsSequence.eq_of_inputs {inputs : List Signal} {orderKeys orderKeys' : List OrderKey}
    {times times' : List ℤ} (h : IsSequence plan policy signals key inputs orderKeys times)
    (h' : IsSequence plan policy signals key inputs orderKeys' times') :
    orderKeys' = orderKeys ∧ times' = times := by
  constructor
  · have := forall₂_eq_map h.order (f := id) (S := fun s k =>
      policy.sequenceOrderKey plan.ordering s = .ok (some k))
      (fun s a b ha hb => Option.some.inj (Except.ok.inj (hb.symm.trans ha))) h'.order
    rwa [List.map_id] at this
  · have := forall₂_eq_map h.time (f := id) (S := fun s t =>
      policy.sequenceTimeMillis s = .ok (some t))
      (fun s a b ha hb => Option.some.inj (Except.ok.inj (hb.symm.trans ha))) h'.time
    rwa [List.map_id] at this

/-- Sequences of Signals with the same identifiers are the same. -/
theorem IsSequence.inputs_eq (hcoh : ∀ a ∈ signals, ∀ b ∈ signals, a.signalId = b.signalId → a = b)
    {inputs inputs' : List Signal} {orderKeys orderKeys' : List OrderKey} {times times' : List ℤ}
    (h : IsSequence plan policy signals key inputs orderKeys times)
    {key' : String ×ₗ GroupKey}
    (h' : IsSequence plan policy signals key' inputs' orderKeys' times')
    (hids : inputs.map Signal.signalId = inputs'.map Signal.signalId) : inputs = inputs' := by
  have hall : List.Forall₂ (fun a b : Signal => a.signalId = b.signalId) inputs inputs' := by
    rw [← List.forall₂_map_left_iff (f := Signal.signalId)
      (R := fun (id : String) (b : Signal) => id = b.signalId),
      ← List.forall₂_map_right_iff (f := Signal.signalId) (R := fun (a b : String) => a = b), hids]
    exact List.forall₂_same.2 fun _ _ => rfl
  have hmem := (List.forall₂_and_left _ _).2 ⟨h.mem, hall⟩
  have hboth := (List.forall₂_and_left _ _).2 ⟨h'.mem, hmem.flip⟩
  have heq : List.Forall₂ (· = ·) inputs' inputs :=
    hboth.imp fun b a ⟨hb, ha, hab⟩ => (hcoh a ha b hb hab).symm
  rw [List.forall₂_eq_eq_eq] at heq
  exact heq.symm

/-- **A group has one first sequence.** -/
theorem FirstSequence.eq
    (hcoh : ∀ a ∈ signals, ∀ b ∈ signals, a.signalId = b.signalId → a = b)
    {inputs inputs' : List Signal} {orderKeys orderKeys' : List OrderKey} {times times' : List ℤ}
    (h : FirstSequence plan policy signals key inputs orderKeys times)
    (h' : FirstSequence plan policy signals key inputs' orderKeys' times') :
    inputs' = inputs ∧ orderKeys' = orderKeys ∧ times' = times := by
  have hseq := h.isSequence
  have hseq' := h'.isSequence
  obtain ⟨s, rest, k, ks, rfl, rfl⟩ := hseq.exists_cons
  obtain ⟨s', rest', k', ks', rfl, rfl⟩ := hseq'.exists_cons
  have hhead : toLex (k, s.signalId) = toLex (k', s'.signalId) :=
    le_antisymm (h.head_le _ _ _ hseq' _ rfl _ rfl) (h'.head_le _ _ _ hseq _ rfl _ rfl)
  have hplaces := eq_of_forall₂_le (h.places_le _ _ _ hseq' (congrArg some hhead))
    (h'.places_le _ _ _ hseq (congrArg some hhead.symm))
  have hids : (s' :: rest').map Signal.signalId = (s :: rest).map Signal.signalId := by
    rw [← map_places_snd hseq.length_eq, ← map_places_snd hseq'.length_eq, hplaces]
  have hinputs := hseq'.inputs_eq hcoh hseq hids
  rw [hinputs] at hseq'
  exact ⟨hinputs, hseq.eq_of_inputs hseq'⟩

/-! ## The candidates -/

omit [LinearOrder OrderKey] in
theorem places_eq_map {inputs : List Signal} {xs : List (SequenceCandidate OrderKey)}
    (h : List.Forall₂ (InGroup plan policy key) inputs xs) :
    places inputs (xs.map (·.orderKey)) = xs.map SequenceCandidate.sortKey := by
  induction h with
  | nil => rfl
  | @cons s c inputs xs hc _ ih =>
    have hid : c.signalId = s.signalId := (sequenceParticipation_eq_ok.1 hc.2).2.2.2.2.2
    rw [places] at ih ⊢
    rw [List.map_cons, List.zipWith_cons_cons, ih, List.map_cons, SequenceCandidate.sortKey, hid]

variable [LinearOrder GroupKey] {groups : CandidateGroups GroupKey OrderKey}
  {candidates : List (SequenceCandidate OrderKey)}

/-- Stage by stage, earlier positions are earlier places. -/
theorem sortKeys_le_of_positions {l : List (SequenceCandidate OrderKey)}
    (hsorted : l.Pairwise fun a b => a.sortKey ≤ b.sortKey) {ks js : List ℕ}
    (hle : List.Forall₂ (· ≤ ·) ks js) :
    ∀ {xs ys : List (SequenceCandidate OrderKey)},
      List.Forall₂ (fun j x => l[j]? = some x) ks xs →
      List.Forall₂ (fun j x => l[j]? = some x) js ys →
        List.Forall₂ (· ≤ ·) (xs.map SequenceCandidate.sortKey)
          (ys.map SequenceCandidate.sortKey) := by
  induction hle with
  | nil =>
    intro xs ys hxs hys
    cases hxs
    cases hys
    exact .nil
  | cons hkj _ ih =>
    intro xs ys hxs hys
    cases hxs with
    | cons hx hxs =>
      cases hys with
      | cons hy hys => exact .cons (sortKey_le_of_getElem? hsorted hx hy hkj) (ih hxs hys)

/-- A sequence of Signals, as candidates of its group. -/
theorem HoldsSignals.exists_candidates (h : HoldsSignals plan policy signals groups)
    (hget : groups.get? key = some candidates) {inputs : List Signal} {orderKeys : List OrderKey}
    {times : List ℤ} (hseq : IsSequence plan policy signals key inputs orderKeys times) :
    ∃ start xs, CandidateChain plan.stages.length plan.maxWindowMillis (start :: xs) ∧
      (∀ x ∈ start :: xs, x ∈ sortCandidates candidates) ∧
      places inputs orderKeys = (start :: xs).map SequenceCandidate.sortKey := by
  obtain ⟨ys, hall, hchain, rfl⟩ := hseq.exists_candidateChain h.answered
  obtain ⟨first, rest, -, -, rfl, -⟩ := hseq.exists_cons
  obtain ⟨start, xs, -, -, rfl⟩ := List.forall₂_cons_left_iff.1 hall
  refine ⟨start, xs, hchain, fun x hx => (h.mem_sorted hget x).2 ?_, places_eq_map hall⟩
  obtain ⟨s, hs, hsx⟩ := (forall₂_mem hall).2 x hx
  exact ⟨s, hseq.mem s hs, hsx⟩

/-- **What the evaluator selects in a group is the first sequence of its Signals.** -/
theorem HoldsSignals.firstSequence (h : HoldsSignals plan policy signals groups)
    (hcons : TimeConsistent plan policy signals) (executionMode : ExecutionMode)
    (hget : groups.get? key = some candidates) {selected : List ℕ}
    {selection : Selection OrderKey}
    (hsel : selectSequence (sortCandidates candidates) plan.stages.length plan.maxWindowMillis =
      some (selected, selection)) :
    ∃ inputs orderKeys times lo hi,
      MatchesGroup plan policy signals key
        (matchOfSelection plan executionMode (ofLex key).1 (sortCandidates candidates) selected
          selection) inputs orderKeys times lo hi ∧
      FirstSequence plan policy signals key inputs orderKeys times := by
  obtain ⟨i, start, hi, hfrom, hfirst⟩ := selectSequence_eq_some hsel
  have hpos : 0 < plan.stages.length := List.length_pos_iff.2 plan.stages_ne_nil
  have hsorted := pairwise_sortCandidates candidates
  have hsorted' := hsorted.imp orderKey_le_of_sortKey_le
  obtain ⟨xs, hall, -, hchain, hbounds, hspan⟩ :=
    chain_of_selectFrom (Int.natCast_nonneg _) hpos hi hfrom
  obtain ⟨inputs, hinputs, hmatch⟩ :=
    h.matchesGroup_of_chain executionMode hget hall hchain hbounds hspan
  have hstart : start ∈ sortCandidates candidates := List.mem_of_getElem? hi
  have hcons' := h.consistent hget hcons
  refine ⟨inputs, _, _, _, _, hmatch, hmatch.isSequence, ?_, ?_⟩
  · intro inputs' orderKeys' times' hseq p hp p' hp'
    obtain ⟨start', xs', hchain', hmem, hplaces⟩ := h.exists_candidates hget hseq
    rw [places_eq_map hinputs] at hp
    rw [hplaces] at hp'
    obtain rfl := Option.some.inj hp
    obtain rfl := Option.some.inj hp'
    obtain ⟨j, hj⟩ := List.mem_iff_getElem?.1 (hmem start' List.mem_cons_self)
    exact sortKey_le_of_getElem? hsorted hi hj
      (hfirst j start' hj (Detection.selectFrom_isSome hsorted' hcons' hchain' hmem hj))
  · intro inputs' orderKeys' times' hseq hhead
    obtain ⟨start', xs', hchain', hmem, hplaces⟩ := h.exists_candidates hget hseq
    rw [places_eq_map hinputs, hplaces] at hhead ⊢
    have hkey : start.sortKey = start'.sortKey := Option.some.inj hhead
    have hid : start.signalId = start'.signalId := congrArg (fun k => (ofLex k).2) hkey
    obtain rfl := h.injOn hget hstart (hmem start' List.mem_cons_self) hid
    -- the sequence competes from the very position the selection starts at
    obtain ⟨ks, js, t, hfrom', hjs, hle⟩ := exists_selectFrom_le hsorted' hcons' hchain' hmem hi
    rw [hfrom, Option.some.injEq, Prod.mk.injEq] at hfrom'
    obtain ⟨rfl, -⟩ := hfrom'
    cases hall with
    | cons _ hxs => exact .cons le_rfl (sortKeys_le_of_positions hsorted hle hxs hjs)

/-! ## The evaluator -/

/-- What a match takes from the plan and the mode, whatever the Signals. -/
def SequenceCorrelationMatch.Stamped
    (plan : CompiledSequenceCorrelationPlan Stage JoinKey Ordering)
    (executionMode : ExecutionMode) (m : SequenceCorrelationMatch) : Prop :=
  m.correlationRuleId = plan.correlationRuleId ∧
    m.correlationRuleVersion = plan.correlationRuleVersion ∧
    m.executionBackend = plan.backend ∧ m.executionMode = executionMode ∧
    m.configurationHash = plan.configurationHash

/-- **SEQUENCE evaluation emits first sequences.**  If times follow order keys within a group, a
successful evaluation has a match for exactly the tenants and groups that have a sequence of
Signals, and the match is the first one. -/
theorem evaluateSequence_first {found : List SequenceCorrelationMatch}
    (hcons : TimeConsistent plan policy signals)
    (h : evaluateSequenceSignals plan signals executionMode policy = .ok found) :
    ∃ keys : List (String ×ₗ GroupKey), keys.Nodup ∧
      (∀ key, key ∈ keys ↔
        ∃ inputs orderKeys times, IsSequence plan policy signals key inputs orderKeys times) ∧
      List.Forall₂ (fun key m => m.Stamped plan executionMode ∧
        ∃ inputs orderKeys times lo hi,
          FirstSequence plan policy signals key inputs orderKeys times ∧
          MatchesGroup plan policy signals key m inputs orderKeys times lo hi) keys found := by
  obtain ⟨groups, hholds, hgroups⟩ := evaluateSequence_eq_ok h
  obtain ⟨hits, hnodup, hmem, hall⟩ := sequencesOfGroups_eq_ok hgroups
  refine ⟨hits.map Prod.fst, hnodup, fun key => ?_, ?_⟩
  · rw [List.mem_map]
    constructor
    · rintro ⟨g, hg, rfl⟩
      obtain ⟨hget, hsome⟩ := (hmem g).1 hg
      obtain ⟨⟨selected, selection⟩, hsel⟩ := Option.isSome_iff_exists.1 hsome
      obtain ⟨inputs, orderKeys, times, lo, hi, hmatch, -⟩ :=
        hholds.firstSequence hcons executionMode hget hsel
      exact ⟨inputs, orderKeys, times, hmatch.isSequence⟩
    · rintro ⟨inputs, orderKeys, times, hseq⟩
      obtain ⟨first, rest, k, ks, rfl, rfl⟩ := hseq.exists_cons
      obtain ⟨candidates, i, start, hget, hi, -, -, hsome⟩ := hholds.selectFrom_isSome hcons hseq
      exact ⟨(key, candidates), (hmem _).2 ⟨hget, selectSequence_isSome hi hsome⟩, rfl⟩
  · rw [List.forall₂_map_left_iff]
    refine hall.imp fun g m ⟨hget, selected, selection, hsel, hm⟩ => ?_
    obtain ⟨inputs, orderKeys, times, lo, hi, hmatch, hfirst⟩ :=
      hholds.firstSequence hcons executionMode hget hsel
    subst hm
    exact ⟨⟨rfl, rfl, rfl, rfl, rfl⟩, inputs, orderKeys, times, lo, hi, hfirst, hmatch⟩

omit [LinearOrder GroupKey] in
/-- A match belongs to one group, and comes from one list of Signals. -/
theorem MatchesGroup.unique
    (hcoh : ∀ a ∈ signals, ∀ b ∈ signals, a.signalId = b.signalId → a = b)
    {key' : String ×ₗ GroupKey} {m : SequenceCorrelationMatch} {inputs inputs' : List Signal}
    {orderKeys orderKeys' : List OrderKey} {times times' : List ℤ} {lo lo' hi hi' : ℤ}
    (h : MatchesGroup plan policy signals key m inputs orderKeys times lo hi)
    (h' : MatchesGroup plan policy signals key' m inputs' orderKeys' times' lo' hi') :
    key' = key ∧ inputs' = inputs ∧ orderKeys' = orderKeys ∧ times' = times := by
  obtain rfl : inputs' = inputs := h'.isSequence.inputs_eq hcoh h.isSequence
    (h'.inputSignalIds_eq.symm.trans h.inputSignalIds_eq)
  obtain ⟨first, rest, -, -, rfl, -⟩ := h.isSequence.exists_cons
  have htenant : (ofLex key').1 = (ofLex key).1 := h'.tenantId_eq.symm.trans h.tenantId_eq
  have hgroup := (h'.isSequence.group first List.mem_cons_self).symm.trans
    (h.isSequence.group first List.mem_cons_self)
  have hkey : ofLex key' = ofLex key := Prod.ext htenant (Option.some.inj (Except.ok.inj hgroup))
  obtain rfl : key' = key := congrArg toLex hkey
  exact ⟨rfl, rfl, h.isSequence.eq_of_inputs h'.isSequence⟩

omit [LinearOrder GroupKey] in
/-- The match of a group follows from its Signals, whichever list they were found in. -/
theorem MatchesGroup.eq_of_inputs {signals' : List Signal} {m m' : SequenceCorrelationMatch}
    {inputs : List Signal} {orderKeys : List OrderKey} {times : List ℤ} {lo lo' hi hi' : ℤ}
    (hm : m.Stamped plan executionMode) (hm' : m'.Stamped plan executionMode)
    (h : MatchesGroup plan policy signals key m inputs orderKeys times lo hi)
    (h' : MatchesGroup plan policy signals' key m' inputs orderKeys times lo' hi') : m' = m := by
  obtain rfl := h.isLeast.unique h'.isLeast
  obtain rfl := h.isGreatest.unique h'.isGreatest
  obtain ⟨hrule, hversion, hbackend, hmode, hhash⟩ := hm
  obtain ⟨hrule', hversion', hbackend', hmode', hhash'⟩ := hm'
  have htenant := h'.tenantId_eq.trans h.tenantId_eq.symm
  have hstart := h'.windowStart_eq.trans h.windowStart_eq.symm
  have hend := h'.windowEnd_eq.trans h.windowEnd_eq.symm
  have hids := h'.inputSignalIds_eq.trans h.inputSignalIds_eq.symm
  cases m
  cases m'
  simp_all

/-- **Every match is the first sequence of its group.** -/
theorem exists_first_of_mem {found : List SequenceCorrelationMatch} {m : SequenceCorrelationMatch}
    (hcons : TimeConsistent plan policy signals)
    (h : evaluateSequenceSignals plan signals executionMode policy = .ok found) (hm : m ∈ found) :
    m.Stamped plan executionMode ∧ ∃ key inputs orderKeys times lo hi,
      FirstSequence plan policy signals key inputs orderKeys times ∧
      MatchesGroup plan policy signals key m inputs orderKeys times lo hi := by
  obtain ⟨keys, -, -, hall⟩ := evaluateSequence_first hcons h
  obtain ⟨key, -, hstamp, hfirst⟩ := (forall₂_mem hall).2 m hm
  exact ⟨hstamp, key, hfirst⟩

end Detection

end Cerbero
