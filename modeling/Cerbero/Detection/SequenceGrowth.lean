import Cerbero.Detection.SequenceFirst
import Cerbero.Detection.SequenceOrder

/-!
# Detection/SequenceGrowth — later Signals do not change a match

A start that fails on `A` may complete on `A ++ B`, with a later Signal of `B`.  It cannot start
earlier than the match of `A` does: the rest of the match would have completed it on `A` already,
since the later Signal of `B` bounds all its times (`FirstSequence.head_le_append`).
-/

namespace Cerbero

namespace Detection

variable {Stage JoinKey Ordering GroupKey OrderKey Error : Type} [LinearOrder GroupKey]
  [LinearOrder OrderKey] {plan : CompiledSequenceCorrelationPlan Stage JoinKey Ordering}
  {policy : SequenceCorrelationEvaluationPolicy Stage JoinKey Ordering GroupKey OrderKey Error}
  {A B signals : List Signal} {executionMode : ExecutionMode} {key : String ×ₗ GroupKey}
  {inputs : List Signal} {orderKeys : List OrderKey} {times : List ℤ} {last : OrderKey}

/-! ## Sequences of a part -/

omit [LinearOrder GroupKey] in
/-- A sequence of a part of the Signals is one of all of them. -/
theorem IsSequence.mono (hsub : ∀ s ∈ A, s ∈ signals)
    (h : IsSequence plan policy A key inputs orderKeys times) :
    IsSequence plan policy signals key inputs orderKeys times :=
  { h with mem := fun s hs => hsub s (h.mem s hs) }

omit [LinearOrder GroupKey] in
/-- A sequence whose Signals all belong to a part is one of the part. -/
theorem IsSequence.restrict (hmem : ∀ s ∈ inputs, s ∈ A)
    (h : IsSequence plan policy signals key inputs orderKeys times) :
    IsSequence plan policy A key inputs orderKeys times :=
  { h with mem := hmem }

/-- In an increasing list every element is at most the last one. -/
theorem le_getLast_of_pairwise : ∀ {l : List OrderKey}, l.Pairwise (· < ·) →
    l.getLast? = some last → ∀ k ∈ l, k ≤ last
  | [], _, h, _, _ => by simp at h
  | [a], _, h, k, hk => by
      obtain rfl := Option.some.inj h
      exact (List.mem_singleton.1 hk).le
  | a :: b :: l, hpair, h, k, hk => by
      rw [List.pairwise_cons] at hpair
      rw [List.getLast?_cons_cons] at h
      obtain rfl | hk := List.mem_cons.1 hk
      · exact (hpair.1 b List.mem_cons_self).le.trans
          (le_getLast_of_pairwise hpair.2 h b List.mem_cons_self)
      · exact le_getLast_of_pairwise hpair.2 h k hk

omit [LinearOrder GroupKey] in
/-- The Signal behind an order key of a sequence, with its time. -/
theorem IsSequence.exists_of_orderKey
    (h : IsSequence plan policy signals key inputs orderKeys times) {k : OrderKey}
    (hk : k ∈ orderKeys) :
    ∃ s ∈ inputs, ∃ t ∈ times, policy.sequenceTimeMillis s = .ok (some t) ∧
      policy.sequenceOrderKey plan.ordering s = .ok (some k) := by
  obtain ⟨s, hs, hsk⟩ := (forall₂_mem h.order).2 k hk
  obtain ⟨t, ht, hst⟩ := (forall₂_mem h.time).1 s hs
  exact ⟨s, hs, t, ht, hst, hsk⟩

omit [LinearOrder GroupKey] in
/-- The times of two sequences of one group follow their order keys. -/
theorem TimeConsistent.time_le (hcons : TimeConsistent plan policy signals)
    {inputs' : List Signal} {orderKeys' : List OrderKey} {times' : List ℤ}
    (h : IsSequence plan policy signals key inputs orderKeys times)
    (h' : IsSequence plan policy signals key inputs' orderKeys' times') {a b : Signal}
    (ha : a ∈ inputs) (hb : b ∈ inputs') {ka kb : OrderKey} {ta tb : ℤ}
    (hka : policy.sequenceOrderKey plan.ordering a = .ok (some ka))
    (hkb : policy.sequenceOrderKey plan.ordering b = .ok (some kb))
    (hta : policy.sequenceTimeMillis a = .ok (some ta))
    (htb : policy.sequenceTimeMillis b = .ok (some tb)) (hlt : ka < kb) : ta ≤ tb :=
  hcons a (h.mem a ha) b (h'.mem b hb) ((h.tenant a ha).trans (h'.tenant b hb).symm) _ ka kb ta tb
    (h.group a ha) (h'.group b hb) hka hkb hta htb hlt

omit [LinearOrder GroupKey] in
/-- **The rest of one sequence completes an earlier start of another**, if that other one ends later:
its end bounds all the times. -/
theorem IsSequence.graft (hcons : TimeConsistent plan policy signals) {s s' : Signal}
    {rest rest' : List Signal} {k k' l : OrderKey} {ks ks' : List OrderKey} {t t' : ℤ}
    {ts ts' : List ℤ}
    (h : IsSequence plan policy signals key (s :: rest) (k :: ks) (t :: ts))
    (h' : IsSequence plan policy signals key (s' :: rest') (k' :: ks') (t' :: ts'))
    (hk : k' ≤ k) (hl : l ∈ k' :: ks') (hlater : ∀ j ∈ k :: ks, j < l) :
    IsSequence plan policy signals key (s' :: rest) (k' :: ks) (t' :: ts) := by
  have horder := List.forall₂_cons.1 h.order
  have horder' := List.forall₂_cons.1 h'.order
  have htime := List.forall₂_cons.1 h.time
  have htime' := List.forall₂_cons.1 h'.time
  have hinc := List.pairwise_cons.1 h.increasing
  -- a time of the rest lies between the new start and the end of the other sequence
  have hrest : ∀ u ∈ ts, t' ≤ u ∧ u - t' ≤ plan.maxWindowMillis := by
    intro u hu
    obtain ⟨a, ha, hau⟩ := (forall₂_mem htime.2).2 u hu
    obtain ⟨ka, hka, haka⟩ := (forall₂_mem horder.2).1 a ha
    obtain ⟨b, hb, v, hv, hbv, hbl⟩ := h'.exists_of_orderKey hl
    have ha' := List.mem_cons_of_mem s ha
    have h1 := hcons.time_le h' h List.mem_cons_self ha' horder'.1 haka htime'.1 hau
      (hk.trans_lt (hinc.1 ka hka))
    have h2 := hcons.time_le h h' ha' hb haka hbl hau hbv
      (hlater ka (List.mem_cons_of_mem k hka))
    have h3 := h'.close t' List.mem_cons_self v hv
    exact ⟨h1, by omega⟩
  constructor
  case mem =>
    exact List.forall_mem_cons.2 ⟨h'.mem s' List.mem_cons_self,
      fun a ha => h.mem a (List.mem_cons_of_mem s ha)⟩
  case tenant =>
    exact List.forall_mem_cons.2 ⟨h'.tenant s' List.mem_cons_self,
      fun a ha => h.tenant a (List.mem_cons_of_mem s ha)⟩
  case group =>
    exact List.forall_mem_cons.2 ⟨h'.group s' List.mem_cons_self,
      fun a ha => h.group a (List.mem_cons_of_mem s ha)⟩
  case stages =>
    obtain ⟨stage, stages, hstage', -, hstages⟩ := List.forall₂_cons_right_iff.1 h'.stages
    obtain ⟨_, _, -, hrest, heq⟩ := List.forall₂_cons_right_iff.1 h.stages
    rw [hstages] at heq ⊢
    obtain ⟨rfl, rfl⟩ := List.cons.inj heq
    exact .cons hstage' hrest
  case order => exact .cons horder'.1 horder.2
  case increasing =>
    exact List.pairwise_cons.2 ⟨fun j hj => hk.trans_lt (hinc.1 j hj), hinc.2⟩
  case time => exact .cons htime'.1 htime.2
  case close =>
    intro u hu v hv
    obtain rfl | hu' := List.mem_cons.1 hu
    · obtain rfl | hv' := List.mem_cons.1 hv
      · simp
      · exact (hrest v hv').2
    · obtain rfl | hv' := List.mem_cons.1 hv
      · have := (hrest u hu').1
        omega
      · exact h.close u (List.mem_cons_of_mem t hu') v (List.mem_cons_of_mem t hv')

/-! ## Later Signals -/

/-- The Signals of a sequence of `A ++ B` that come no later than `last` are Signals of `A`. -/
theorem mem_of_le_last {found : List SequenceCorrelationMatch}
    (hAB : evaluateSequenceSignals plan (A ++ B) executionMode policy = .ok found)
    (hlater : ∀ s ∈ B, ∀ c, InGroup plan policy key s c → last < c.orderKey)
    (h : IsSequence plan policy (A ++ B) key inputs orderKeys times) {s : Signal} {k : OrderKey}
    (hs : s ∈ inputs) (hk : policy.sequenceOrderKey plan.ordering s = .ok (some k))
    (hle : k ≤ last) : s ∈ A := by
  obtain ⟨groups, hholds, -⟩ := evaluateSequence_eq_ok hAB
  obtain ⟨xs, hall, -, -⟩ := h.exists_candidateChain hholds.answered
  obtain ⟨x, -, hx⟩ := (forall₂_mem hall).1 s hs
  have hkey := (sequenceParticipation_eq_ok.1 hx.2).2.2.2.2.1
  obtain rfl : k = x.orderKey := Option.some.inj (Except.ok.inj (hk.symm.trans hkey))
  refine (List.mem_append.1 (h.mem s hs)).resolve_right fun hB => ?_
  exact absurd (hlater s hB x hx) (not_lt.2 hle)

/-- **No sequence of `A ++ B` starts before the first one of `A`.** -/
theorem FirstSequence.head_le_append {found : List SequenceCorrelationMatch}
    (hcons : TimeConsistent plan policy (A ++ B))
    (hAB : evaluateSequenceSignals plan (A ++ B) executionMode policy = .ok found)
    (hlast : orderKeys.getLast? = some last)
    (hlater : ∀ s ∈ B, ∀ c, InGroup plan policy key s c → last < c.orderKey)
    (h : FirstSequence plan policy A key inputs orderKeys times) {inputs' : List Signal}
    {orderKeys' : List OrderKey} {times' : List ℤ}
    (h' : IsSequence plan policy (A ++ B) key inputs' orderKeys' times') :
    ∀ p ∈ (places inputs orderKeys).head?, ∀ p' ∈ (places inputs' orderKeys').head?, p ≤ p' := by
  have hseq := h.isSequence
  have hsub : ∀ s ∈ A, s ∈ A ++ B := fun _ => List.mem_append_left B
  have hmono := hseq.mono hsub
  obtain ⟨s, rest, k, ks, rfl, rfl⟩ := hseq.exists_cons
  obtain ⟨s', rest', k', ks', rfl, rfl⟩ := h'.exists_cons
  obtain ⟨t, ts, hst, htime, rfl⟩ := List.forall₂_cons_left_iff.1 hseq.time
  obtain ⟨t', ts', hst', htime', rfl⟩ := List.forall₂_cons_left_iff.1 h'.time
  rintro p hp p' hp'
  obtain rfl := Option.some.inj hp
  obtain rfl := Option.some.inj hp'
  have hle := le_getLast_of_pairwise hseq.increasing hlast
  have hin : ∀ a ∈ s' :: rest', ∀ j, policy.sequenceOrderKey plan.ordering a = .ok (some j) →
      j ≤ last → a ∈ A := fun a ha j => mem_of_le_last hAB hlater h' ha
  by_contra hlt
  have hkk : k' ≤ k := (Prod.Lex.lt_iff.1 (not_le.1 hlt)).elim le_of_lt fun heq => heq.1.le
  have hk' := (List.forall₂_cons.1 h'.order).1
  by_cases hend : ∃ l ∈ k' :: ks', last < l
  · obtain ⟨l, hl, hlt'⟩ := hend
    have hgraft := hmono.graft hcons h' hkk hl fun j hj => (hle j hj).trans_lt hlt'
    have hrestrict := hgraft.restrict (A := A) (List.forall_mem_cons.2
      ⟨hin s' List.mem_cons_self k' hk' (hkk.trans (hle k List.mem_cons_self)),
        fun a ha => hseq.mem a (List.mem_cons_of_mem s ha)⟩)
    exact hlt (h.head_le _ _ _ hrestrict _ rfl _ rfl)
  · push Not at hend
    have hrestrict := h'.restrict (A := A) fun a ha => by
      obtain ⟨j, hj, haj⟩ := (forall₂_mem h'.order).1 a ha
      exact hin a ha j haj (hend j hj)
    exact hlt (h.head_le _ _ _ hrestrict _ rfl _ rfl)

/-- What comes first in `A ++ B` is the first sequence of `A`. -/
theorem FirstSequence.eq_append {found : List SequenceCorrelationMatch}
    (hcons : TimeConsistent plan policy (A ++ B))
    (hAB : evaluateSequenceSignals plan (A ++ B) executionMode policy = .ok found)
    (hlast : orderKeys.getLast? = some last)
    (hlater : ∀ s ∈ B, ∀ c, InGroup plan policy key s c → last < c.orderKey)
    (h : FirstSequence plan policy A key inputs orderKeys times) {inputs' : List Signal}
    {orderKeys' : List OrderKey} {times' : List ℤ}
    (h' : FirstSequence plan policy (A ++ B) key inputs' orderKeys' times') :
    inputs' = inputs ∧ orderKeys' = orderKeys ∧ times' = times := by
  have hseq := h.isSequence
  have hseq' := h'.isSequence
  have hsub : ∀ s ∈ A, s ∈ A ++ B := fun _ => List.mem_append_left B
  have hmono := hseq.mono hsub
  obtain ⟨groups, hholds, -⟩ := evaluateSequence_eq_ok hAB
  have hhead := h.head_le_append hcons hAB hlast hlater hseq'
  obtain ⟨s, rest, k, ks, rfl, rfl⟩ := hseq.exists_cons
  obtain ⟨s', rest', k', ks', rfl, rfl⟩ := hseq'.exists_cons
  have heq : toLex (k, s.signalId) = toLex (k', s'.signalId) :=
    le_antisymm (hhead _ rfl _ rfl) (h'.head_le _ _ _ hmono _ rfl _ rfl)
  -- both start alike, so the sequence of `A ++ B` ends no later than that of `A`
  have hplaces := h'.places_le _ _ _ hmono (congrArg some heq.symm)
  have hle : ∀ a ∈ s' :: rest', a ∈ A := by
    intro a ha
    obtain ⟨j, hj, haj⟩ := (forall₂_mem hseq'.order).1 a ha
    obtain ⟨i, hi, hji⟩ := (forall₂_mem (hseq'.orderKeys_le hmono hplaces)).1 j hj
    exact mem_of_le_last hAB hlater hseq' ha haj
      (hji.trans (le_getLast_of_pairwise hseq.increasing hlast i hi))
  have hplaces' := h.places_le _ _ _ (hseq'.restrict hle) (congrArg some heq)
  have hids : (s' :: rest').map Signal.signalId = (s :: rest).map Signal.signalId := by
    rw [← map_places_snd hseq.length_eq, ← map_places_snd hseq'.length_eq,
      eq_of_forall₂_le hplaces hplaces']
  have hinputs := hseq'.inputs_eq hholds.coherent hmono hids
  rw [hinputs] at hseq'
  exact ⟨hinputs, hmono.eq_of_inputs hseq'⟩

/-! ## When an evaluation succeeds -/

/-- The window times of a match pass the checks. -/
def SequenceCorrelationMatch.WindowValid (m : SequenceCorrelationMatch) : Prop :=
  validateTimestamp "window_start" m.windowStart = .ok () ∧
    validateTimestamp "window_end" m.windowEnd = .ok ()

omit [LinearOrder GroupKey] in
/-- Two matches of the same sequence carry the same window. -/
theorem MatchesGroup.windowValid_iff {signals' : List Signal} {m m' : SequenceCorrelationMatch}
    {lo lo' hi hi' : ℤ} (h : MatchesGroup plan policy signals key m inputs orderKeys times lo hi)
    (h' : MatchesGroup plan policy signals' key m' inputs orderKeys times lo' hi') :
    m.WindowValid ↔ m'.WindowValid := by
  obtain rfl := h.isLeast.unique h'.isLeast
  obtain rfl := h.isGreatest.unique h'.isGreatest
  rw [SequenceCorrelationMatch.WindowValid, SequenceCorrelationMatch.WindowValid,
    h.windowStart_eq, h.windowEnd_eq, h'.windowStart_eq, h'.windowEnd_eq]

omit [LinearOrder GroupKey] in
/-- A round over the groups stops exactly at a match whose window is invalid. -/
theorem exists_sequenceOfGroup_eq_ok_iff {tenantId : String}
    {candidates : List (SequenceCandidate OrderKey)} :
    (∃ o, (sequenceOfGroup plan executionMode tenantId candidates :
      Except (SequenceCorrelationEvaluationError Error) _) = .ok o) ↔
      ∀ selected selection, selectSequence (sortCandidates candidates) plan.stages.length
        plan.maxWindowMillis = some (selected, selection) →
          (matchOfSelection plan executionMode tenantId (sortCandidates candidates) selected
            selection).WindowValid := by
  rw [sequenceOfGroup]
  cases selectSequence (sortCandidates candidates) plan.stages.length plan.maxWindowMillis with
  | none => simp [pure, Except.pure]
  | some r =>
    obtain ⟨selected, selection⟩ := r
    simp only [check_bind_eq_ok, liftInput_eq_ok]
    constructor
    · rintro ⟨_, hstart, hend, _⟩ _ _ heq
      obtain ⟨rfl, rfl⟩ := Prod.mk.inj (Option.some.inj heq)
      exact ⟨hstart, hend⟩
    · intro h
      obtain ⟨hstart, hend⟩ := h selected selection rfl
      exact ⟨_, hstart, hend, rfl⟩

/-- The selection of the group of a first sequence is that sequence. -/
theorem HoldsSignals.exists_selectSequence_eq {groups : CandidateGroups GroupKey OrderKey}
    (h : HoldsSignals plan policy signals groups) (hcons : TimeConsistent plan policy signals)
    (executionMode : ExecutionMode)
    (hfirst : FirstSequence plan policy signals key inputs orderKeys times) :
    ∃ candidates selected selection lo hi, (key, candidates) ∈ groups.toList ∧
      selectSequence (sortCandidates candidates) plan.stages.length plan.maxWindowMillis =
        some (selected, selection) ∧
      MatchesGroup plan policy signals key
        (matchOfSelection plan executionMode (ofLex key).1 (sortCandidates candidates) selected
          selection) inputs orderKeys times lo hi := by
  obtain ⟨first, rest, k, ks, rfl, rfl⟩ := hfirst.isSequence.exists_cons
  obtain ⟨candidates, i, start, hget, hi, -, -, hsome⟩ :=
    h.selectFrom_isSome hcons hfirst.isSequence
  obtain ⟨⟨selected, selection⟩, hsel⟩ :=
    Option.isSome_iff_exists.1 (selectSequence_isSome hi hsome)
  obtain ⟨inputs', orderKeys', times', lo, hi', hmatch, hfirst'⟩ :=
    h.firstSequence hcons executionMode hget hsel
  obtain ⟨rfl, rfl, rfl⟩ := hfirst.eq h.coherent hfirst'
  exact ⟨candidates, selected, selection, lo, hi', SortedMap.mem_toList.2 hget, hsel, hmatch⟩

/-- **When an evaluation succeeds**: the mode is a mode, the Signals pass their checks and agree, the
policy answers for them, and the window of the first sequence of every group is valid. -/
theorem exists_evaluateSequence_eq_ok_iff (hcons : TimeConsistent plan policy signals) :
    (∃ found, evaluateSequenceSignals plan signals executionMode policy = .ok found) ↔
      executionMode ≠ .unspecified ∧ (∀ s ∈ signals, Admitted executionMode s) ∧ Agree signals ∧
      (∀ s ∈ signals, ∃ o, sequenceParticipation plan policy s = .ok o) ∧
      ∀ key inputs orderKeys times m lo hi,
        FirstSequence plan policy signals key inputs orderKeys times →
          MatchesGroup plan policy signals key m inputs orderKeys times lo hi → m.WindowValid := by
  constructor
  · rintro ⟨found, h⟩
    obtain ⟨hmode, unique, groups, hunique, hgroups, hfound⟩ := evaluateSequenceSignals_eq_ok.1 h
    have hholds := holdsSignals_of_collectSequenceCandidates hunique hgroups
    obtain ⟨hadmitted, hagree⟩ := validateUniqueSignals_isOk.1 ⟨unique, hunique⟩
    refine ⟨hmode, hadmitted, hagree, hholds.answered,
      fun key inputs orderKeys times m lo hi hfirst hm => ?_⟩
    obtain ⟨candidates, selected, selection, lo', hi', hg, hsel, hm'⟩ :=
      hholds.exists_selectSequence_eq hcons executionMode hfirst
    exact (hm.windowValid_iff hm').2 (exists_sequenceOfGroup_eq_ok_iff.1
      (exists_of_filterMapOk_eq_ok hfound _ hg) selected selection hsel)
  · rintro ⟨hmode, hadmitted, hagree, hanswered, hwindow⟩
    obtain ⟨unique, hunique⟩ := validateUniqueSignals_isOk.2 ⟨hadmitted, hagree⟩
    have hcollect : ∃ groups, collectSequenceCandidates plan policy SortedMap.empty
        (unique.toList.map Prod.snd) = .ok groups :=
      exists_collectSequenceCandidates _ fun s hs =>
        hanswered s ((mem_values_uniqueSignals hunique).1 hs)
    obtain ⟨groups, hgroups⟩ := hcollect
    have hholds := holdsSignals_of_collectSequenceCandidates hunique hgroups
    have hfound : ∃ found, (sequencesOfGroups plan executionMode groups.toList :
        Except (SequenceCorrelationEvaluationError Error) _) = .ok found := by
      apply exists_filterMapOk_eq_ok
      rintro ⟨key, candidates⟩ hg
      refine exists_sequenceOfGroup_eq_ok_iff.2 fun selected selection hsel => ?_
      obtain ⟨inputs, orderKeys, times, lo, hi, hm, hfirst⟩ :=
        hholds.firstSequence hcons executionMode (SortedMap.mem_toList.1 hg) hsel
      exact hwindow key inputs orderKeys times _ lo hi hfirst hm
    obtain ⟨found, hfound⟩ := hfound
    exact ⟨found, evaluateSequenceSignals_eq_ok.2
      ⟨hmode, unique, groups, hunique, hgroups, hfound⟩⟩

/-! ## Growth -/

/-- The grown list has the match of `A`, and the group has no other. -/
theorem mem_evaluateSequence_append {found found' : List SequenceCorrelationMatch}
    {m : SequenceCorrelationMatch} {lo hi : ℤ}
    (hcons : TimeConsistent plan policy (A ++ B))
    (hA : evaluateSequenceSignals plan A executionMode policy = .ok found)
    (hAB : evaluateSequenceSignals plan (A ++ B) executionMode policy = .ok found')
    (hm : m ∈ found) (hmatch : MatchesGroup plan policy A key m inputs orderKeys times lo hi)
    (hlast : orderKeys.getLast? = some last)
    (hlater : ∀ s ∈ B, ∀ c, InGroup plan policy key s c → last < c.orderKey) :
    ∀ m', (m' ∈ found' ∧ ∃ inputs' orderKeys' times' lo' hi',
      MatchesGroup plan policy (A ++ B) key m' inputs' orderKeys' times' lo' hi') ↔ m' = m := by
  have hconsA : TimeConsistent plan policy A := fun a ha b hb =>
    hcons a (List.mem_append_left B ha) b (List.mem_append_left B hb)
  obtain ⟨groupsA, hholdsA, -⟩ := evaluateSequence_eq_ok hA
  obtain ⟨groups, hholds, -⟩ := evaluateSequence_eq_ok hAB
  -- the match of `A` is its first sequence
  obtain ⟨hstamp, key', X, ks, ts, lo', hi', hfirst, hmatch'⟩ := exists_first_of_mem hconsA hA hm
  obtain ⟨rfl, rfl, rfl, rfl⟩ := hmatch.unique hholdsA.coherent hmatch'
  have hsub : ∀ s ∈ A, s ∈ A ++ B := fun _ => List.mem_append_left B
  have hmono := hmatch.isSequence.mono hsub
  obtain ⟨keys, -, hkeys, hall⟩ := evaluateSequence_first hcons hAB
  have heq : ∀ m₁ : SequenceCorrelationMatch, m₁.Stamped plan executionMode →
      ∀ inputs₁ orderKeys₁ times₁ lo₁ hi₁,
      FirstSequence plan policy (A ++ B) key' inputs₁ orderKeys₁ times₁ →
      MatchesGroup plan policy (A ++ B) key' m₁ inputs₁ orderKeys₁ times₁ lo₁ hi₁ → m₁ = m := by
    intro m₁ hstamp₁ inputs₁ orderKeys₁ times₁ lo₁ hi₁ hfirst₁ hmatch₁
    obtain ⟨rfl, rfl, rfl⟩ := hfirst.eq_append hcons hAB hlast hlater hfirst₁
    exact hmatch.eq_of_inputs hstamp hstamp₁ hmatch₁
  intro m'
  constructor
  · rintro ⟨hm', inputs', orderKeys', times', lo₂, hi₂, hmatch₂⟩
    obtain ⟨hstamp₁, key₁, inputs₁, orderKeys₁, times₁, lo₁, hi₁, hfirst₁, hmatch₁⟩ :=
      exists_first_of_mem hcons hAB hm'
    obtain ⟨rfl, -⟩ := hmatch₂.unique hholds.coherent hmatch₁
    exact heq m' hstamp₁ _ _ _ _ _ hfirst₁ hmatch₁
  · rintro rfl
    obtain ⟨m₁, hm₁, hstamp₁, inputs₁, orderKeys₁, times₁, lo₁, hi₁, hfirst₁, hmatch₁⟩ :=
      (forall₂_mem hall).1 key' ((hkeys key').2 ⟨_, _, _, hmono⟩)
    obtain rfl := heq m₁ hstamp₁ _ _ _ _ _ hfirst₁ hmatch₁
    exact ⟨hm₁, _, _, _, _, _, hmatch₁⟩

/-- **Later Signals do not change a match.**  Signals `A` are continued by `B`, and every candidate
of `B` in the group `key` has an order key greater than the last one of the match that the group has
on `A`.  If times follow order keys and the grown list evaluates, its only match for the group is
that same match; and it does evaluate unless a new Signal fails its checks or has the identifier of
another one, the policy fails on it, or the window of a match is invalid. -/
theorem evaluateSequence_append {found : List SequenceCorrelationMatch}
    {m : SequenceCorrelationMatch} {lo hi : ℤ}
    (hcons : TimeConsistent plan policy (A ++ B))
    (hA : evaluateSequenceSignals plan A executionMode policy = .ok found)
    (hm : m ∈ found) (hmatch : MatchesGroup plan policy A key m inputs orderKeys times lo hi)
    (hlast : orderKeys.getLast? = some last)
    (hlater : ∀ s ∈ B, ∀ c, InGroup plan policy key s c → last < c.orderKey) :
    (∀ found', evaluateSequenceSignals plan (A ++ B) executionMode policy = .ok found' →
      ∀ m', (m' ∈ found' ∧ ∃ inputs' orderKeys' times' lo' hi',
        MatchesGroup plan policy (A ++ B) key m' inputs' orderKeys' times' lo' hi') ↔ m' = m) ∧
    ((∃ found', evaluateSequenceSignals plan (A ++ B) executionMode policy = .ok found') ↔
      (∀ s ∈ B, Admitted executionMode s) ∧ Agree (A ++ B) ∧
      (∀ s ∈ B, ∃ o, sequenceParticipation plan policy s = .ok o) ∧
      ∀ key inputs orderKeys times m lo hi,
        FirstSequence plan policy (A ++ B) key inputs orderKeys times →
          MatchesGroup plan policy (A ++ B) key m inputs orderKeys times lo hi →
            m.WindowValid) := by
  have hconsA : TimeConsistent plan policy A := fun a ha b hb =>
    hcons a (List.mem_append_left B ha) b (List.mem_append_left B hb)
  refine ⟨fun found' hAB => mem_evaluateSequence_append hcons hA hAB hm hmatch hlast hlater, ?_⟩
  obtain ⟨hmode, hadmitted, -, hanswered, -⟩ :=
    (exists_evaluateSequence_eq_ok_iff hconsA).1 ⟨found, hA⟩
  rw [exists_evaluateSequence_eq_ok_iff hcons]
  simp only [List.forall_mem_append]
  exact ⟨fun ⟨_, hB, hagree, hansweredB, hwindow⟩ => ⟨hB.2, hagree, hansweredB.2, hwindow⟩,
    fun ⟨hB, hagree, hansweredB, hwindow⟩ =>
      ⟨hmode, ⟨hadmitted, hB⟩, hagree, ⟨hanswered, hansweredB⟩, hwindow⟩⟩

/-! ## A run -/

/-- The second rule fires once more, after the match of the sample. -/
def laterSignal : Signal := sampleSignal "01890a5d-ac96-774b-bcce-b302099a8004" "CER-DET-000002" 50

theorem timeConsistent_sampleSequencePolicy (signals : List Signal) :
    TimeConsistent sampleSequencePlan sampleSequencePolicy signals := by
  refine timeConsistent_of_lexKey fun s k t hk ht => ?_
  simp only [sampleSequencePolicy, Except.ok.injEq, Option.map_eq_some_iff] at hk ht
  obtain ⟨a, ha, rfl⟩ := hk
  obtain ⟨b, hb, rfl⟩ := ht
  rw [ha, Option.some.injEq] at hb
  rw [hb]
  rfl

/-- The Signals behind the match of the sample. -/
theorem matchesGroup_sample :
    MatchesGroup sampleSequencePlan sampleSequencePolicy sampleSignals
      (toLex ("01890a5d-ac96-774b-bcce-b302099a8057", "high")) sampleSequenceMatch
      [sampleSignal "01890a5d-ac96-774b-bcce-b302099a8002" "CER-DET-000001" 10,
        sampleSignal "01890a5d-ac96-774b-bcce-b302099a8003" "CER-DET-000002" 40]
      [toLex (10000, "01890a5d-ac96-774b-bcce-b302099a8002"),
        toLex (40000, "01890a5d-ac96-774b-bcce-b302099a8003")] [10000, 40000] 10000 40000 where
  isSequence :=
    { mem := by decide
      tenant := by decide
      group := by decide
      stages := .cons rfl (.cons rfl .nil)
      order := .cons rfl (.cons rfl .nil)
      increasing := by decide
      time := .cons rfl (.cons rfl .nil)
      close := by decide }
  nodup := by decide
  inputSignalIds_eq := rfl
  tenantId_eq := rfl
  isLeast := ⟨List.mem_cons_self, by simp [lowerBounds]⟩
  isGreatest := ⟨by simp, by simp [upperBounds]⟩
  span_le := by decide
  windowStart_eq := by decide
  windowEnd_eq := by decide

/-- The sample keeps its match when the later Signal is added. -/
theorem evaluateSequence_append_laterSignal :
    sampleSequenceMatch ∈ [sampleSequenceMatch] ∧ ∃ inputs orderKeys times lo hi,
      MatchesGroup sampleSequencePlan sampleSequencePolicy (sampleSignals ++ [laterSignal])
        (toLex ("01890a5d-ac96-774b-bcce-b302099a8057", "high")) sampleSequenceMatch inputs
        orderKeys times lo hi := by
  refine ((evaluateSequence_append (timeConsistent_sampleSequencePolicy _) evaluateSequence_sample
    (List.mem_singleton.2 rfl) matchesGroup_sample rfl fun s hs c hc => ?_).1 _
    (by decide +kernel) sampleSequenceMatch).2 rfl
  obtain rfl := List.mem_singleton.1 hs
  have hkey := (sequenceParticipation_eq_ok.1 hc.2).2.2.2.2.1
  rw [← Option.some.inj (Except.ok.inj hkey)]
  decide

/-! ## Another group -/

/-- The clock of the far policy: Signals of severity `low` count from the year 10000. -/
def farTimeMillis (signal : Signal) : Option ℤ :=
  signal.firstObservedAt.map fun t =>
    (if signal.severity = "low" then 253402300800000 else 0) + t.seconds * 1000

/-- The sample policy with the far clock. -/
def farSequencePolicy :
    SequenceCorrelationEvaluationPolicy String String Unit String (ℤ ×ₗ String) Unit :=
  { sampleSequencePolicy with
    sequenceTimeMillis := fun signal => .ok (farTimeMillis signal)
    sequenceOrderKey := fun _ signal =>
      .ok ((farTimeMillis signal).map fun t => toLex (t, signal.signalId)) }

theorem timeConsistent_farSequencePolicy (signals : List Signal) :
    TimeConsistent sampleSequencePlan farSequencePolicy signals := by
  refine timeConsistent_of_lexKey fun s k t hk ht => ?_
  simp only [farSequencePolicy, Except.ok.injEq, Option.map_eq_some_iff] at hk ht
  obtain ⟨a, ha, rfl⟩ := hk
  rw [ha] at ht
  exact Option.some.inj ht

/-- A Signal of severity `low`. -/
def farSignal (signalId ruleId : String) (seconds : ℤ) : Signal :=
  { sampleSignal signalId ruleId seconds with severity := "low" }

/-- The sample, with a Signal that starts a sequence of another group. -/
def startedSignals : List Signal :=
  sampleSignals ++ [farSignal "01890a5d-ac96-774b-bcce-b302099a8005" "CER-DET-000001" 10]

/-- A Signal that completes the sequence. -/
def completingSignal : Signal :=
  farSignal "01890a5d-ac96-774b-bcce-b302099a8006" "CER-DET-000002" 20

/-- The match of the sample is there for the far policy too. -/
theorem matchesGroup_startedSignals :
    MatchesGroup sampleSequencePlan farSequencePolicy startedSignals
      (toLex ("01890a5d-ac96-774b-bcce-b302099a8057", "high")) sampleSequenceMatch
      [sampleSignal "01890a5d-ac96-774b-bcce-b302099a8002" "CER-DET-000001" 10,
        sampleSignal "01890a5d-ac96-774b-bcce-b302099a8003" "CER-DET-000002" 40]
      [toLex (10000, "01890a5d-ac96-774b-bcce-b302099a8002"),
        toLex (40000, "01890a5d-ac96-774b-bcce-b302099a8003")] [10000, 40000] 10000 40000 where
  isSequence :=
    { mem := by decide
      tenant := by decide
      group := by decide
      stages := .cons rfl (.cons rfl .nil)
      order := .cons rfl (.cons rfl .nil)
      increasing := by decide
      time := .cons rfl (.cons rfl .nil)
      close := by decide }
  nodup := by decide
  inputSignalIds_eq := rfl
  tenantId_eq := rfl
  isLeast := matchesGroup_sample.isLeast
  isGreatest := matchesGroup_sample.isGreatest
  span_le := matchesGroup_sample.span_le
  windowStart_eq := matchesGroup_sample.windowStart_eq
  windowEnd_eq := matchesGroup_sample.windowEnd_eq

/-- **Another group can make the grown list fail**: the later Signal is of another group, where it
completes a match whose window no timestamp can hold, and the match of the first group is lost with
it. -/
theorem evaluateSequence_completingSignal :
    ((startedSignals ++ [completingSignal]).map Signal.signalId).Nodup ∧
    TimeConsistent sampleSequencePlan farSequencePolicy (startedSignals ++ [completingSignal]) ∧
    evaluateSequenceSignals sampleSequencePlan startedSignals .live farSequencePolicy =
      .ok [sampleSequenceMatch] ∧
    evaluateSequenceSignals sampleSequencePlan [completingSignal] .live farSequencePolicy =
      .ok [] ∧
    MatchesGroup sampleSequencePlan farSequencePolicy startedSignals
      (toLex ("01890a5d-ac96-774b-bcce-b302099a8057", "high")) sampleSequenceMatch
      [sampleSignal "01890a5d-ac96-774b-bcce-b302099a8002" "CER-DET-000001" 10,
        sampleSignal "01890a5d-ac96-774b-bcce-b302099a8003" "CER-DET-000002" 40]
      [toLex (10000, "01890a5d-ac96-774b-bcce-b302099a8002"),
        toLex (40000, "01890a5d-ac96-774b-bcce-b302099a8003")] [10000, 40000] 10000 40000 ∧
    (∀ s ∈ [completingSignal], ∀ c, ¬ InGroup sampleSequencePlan farSequencePolicy
      (toLex ("01890a5d-ac96-774b-bcce-b302099a8057", "high")) s c) ∧
    evaluateSequenceSignals sampleSequencePlan (startedSignals ++ [completingSignal]) .live
      farSequencePolicy = .error (.invalidInput
        ⟨"window_start", "seconds are outside the Protobuf Timestamp range"⟩) := by
  refine ⟨by decide, timeConsistent_farSequencePolicy _, by decide +kernel, by decide +kernel,
    matchesGroup_startedSignals, fun s hs c hc => ?_, by decide +kernel⟩
  obtain rfl := List.mem_singleton.1 hs
  have hgroup := (sequenceParticipation_eq_ok.1 hc.2).2.2.1
  exact absurd (Option.some.inj (Except.ok.inj hgroup)) (by decide)

end Detection

end Cerbero
