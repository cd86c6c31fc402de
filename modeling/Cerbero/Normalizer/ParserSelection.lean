import Cerbero.Lib.Leader
import Cerbero.Normalizer.Parser
import Mathlib.Data.Prod.Lex

/-!
# Normalizer/ParserSelection — the chosen parser is the best one

`ParserRegistry::select` without a configured parser: the ranking loop is a pass that keeps the
leaders (`rank_eq`), so a parser is chosen exactly if it supports the input and is better than every
other one that does, and the order of registration decides nothing
(**`select_unique_maximum`**).
-/

namespace Cerbero

namespace Normalizer

/-! ## The ranking loop -/

/-- What a candidate is ranked by: none without confidence. -/
def ParserCandidate.key (entry : ParserCandidate) : Option (ℕ ×ₗ ℕ) :=
  if entry.confidence = 0 then none else some (toLex (entry.tier.rank, entry.confidence))

theorem ParserCandidate.key_of_ne {entry : ParserCandidate} (h : entry.confidence ≠ 0) :
    entry.key = some (toLex (entry.tier.rank, entry.confidence)) := if_neg h

theorem ParserTier.rank_injective : Function.Injective ParserTier.rank := by
  intro t t'
  cases t <;> cases t' <;> decide

/-- The ranking of some leaders. -/
def rankingOf (leaders : List (ParserCandidate × ℕ)) : Ranking where
  best := leaders.head?.map fun (entry, index) => (index, entry.tier, entry.confidence)
  tied := leaders.map Prod.snd

/-- A turn of the loop is a step of the pass. -/
theorem step_rankingOf {leaders : List (ParserCandidate × ℕ)}
    (h : ∀ e ∈ leaders, e.1.confidence ≠ 0) (e : ParserCandidate × ℕ) :
    (rankingOf leaders).step e = rankingOf (Leader.step (fun e => e.1.key) leaders e) ∧
      ∀ e' ∈ Leader.step (fun e => e.1.key) leaders e, e'.1.confidence ≠ 0 := by
  obtain ⟨entry, index⟩ := e
  by_cases hzero : entry.confidence = 0
  · have hkey : entry.key = none := if_pos hzero
    rw [Ranking.step, if_pos hzero, Leader.step]
    simp only [hkey]
    exact ⟨trivial, h⟩
  have hkey := ParserCandidate.key_of_ne hzero
  match leaders, h with
  | [], _ =>
    simp only [Ranking.step, if_neg hzero, Leader.step, hkey, rankingOf, List.head?_nil,
      Option.map_none, Option.bind_none]
    exact ⟨rfl, List.forall_mem_singleton.2 hzero⟩
  | (top, i) :: leaders, h =>
    have htop := ParserCandidate.key_of_ne (h (top, i) List.mem_cons_self)
    have hlt : toLex (top.tier.rank, top.confidence) < toLex (entry.tier.rank, entry.confidence) ↔
        top.tier.rank < entry.tier.rank ∨
          top.tier.rank = entry.tier.rank ∧ top.confidence < entry.confidence := Prod.Lex.lt_iff
    have heq : toLex (entry.tier.rank, entry.confidence) =
        toLex (top.tier.rank, top.confidence) ↔
          entry.tier = top.tier ∧ entry.confidence = top.confidence := by
      rw [toLex_inj, Prod.mk.injEq, ParserTier.rank_injective.eq_iff]
    simp only [Ranking.step, if_neg hzero, Leader.step, hkey, htop, rankingOf, List.head?_cons,
      Option.map_some, Option.bind_some, hlt, heq]
    split_ifs
    · exact ⟨rfl, List.forall_mem_singleton.2 hzero⟩
    · refine ⟨?_, List.forall_mem_append.2 ⟨h, List.forall_mem_singleton.2 hzero⟩⟩
      simp
    · exact ⟨rfl, h⟩

/-- **The loop of `select` keeps the leaders.** -/
theorem rank_eq (candidates : List ParserCandidate) :
    rank candidates = rankingOf (Leader.scan (fun e => e.1.key) candidates.zipIdx) := by
  have hfold : ∀ (l leaders : List (ParserCandidate × ℕ)),
      (∀ e ∈ leaders, e.1.confidence ≠ 0) →
      l.foldl Ranking.step (rankingOf leaders) =
        rankingOf (l.foldl (Leader.step fun e => e.1.key) leaders) := by
    intro l
    induction l with
    | nil => exact fun _ _ => rfl
    | cons e l ih =>
      intro leaders h
      obtain ⟨hstep, hnonzero⟩ := step_rankingOf h e
      rw [List.foldl_cons, List.foldl_cons, hstep, ih _ hnonzero]
  exact hfold candidates.zipIdx [] fun _ h => nomatch h

/-! ## Choices without a configured parser -/

/-- The confidence of a parser; 0 for one that panics. -/
def confidenceIn (input : ParserInput) (parser : ParserProbe) : ℕ :=
  (parser.probe input).getD 0

/-- The candidate of a parser. -/
def candidateIn (input : ParserInput) (parser : ParserProbe) : ParserCandidate :=
  candidate parser (confidenceIn input parser)

/-- The tier and the confidence of a parser, in that order. -/
def keyIn (input : ParserInput) (parser : ParserProbe) : ℕ ×ₗ ℕ :=
  toLex (parser.tier.rank, confidenceIn input parser)

/-- The parsers that are as good as any, with their places. -/
def leadersIn (input : ParserInput) (parsers : List ParserProbe) : List (ParserProbe × ℕ) :=
  Leader.scan (fun e => (candidateIn input e.1).key) parsers.zipIdx

/-- The error where no parser supports the input. -/
def unsupported : ParseError :=
  permanent "CER-PARSE-NO-MATCH" "no registered parser supports the input"

/-- The error of a tie between parsers of some ids. -/
def ambiguous (ids : List String) : ParseError :=
  permanent "CER-PARSE-NO-MATCH"
    ("parser selection is ambiguous at the highest tier/confidence: " ++ ", ".intercalate ids)

/-- No parser panics on the input. -/
def Calm (input : ParserInput) (parsers : List ParserProbe) : Prop :=
  ∀ parser ∈ parsers, (parser.probe input).isSome

theorem probeAll_eq {input : ParserInput} {parsers : List ParserProbe} (h : Calm input parsers) :
    probeAll parsers input = .ok (parsers.map (candidateIn input)) := by
  refine mapM_eq_ok fun parser hparser => ?_
  obtain ⟨confidence, hconfidence⟩ := Option.isSome_iff_exists.1 (h parser hparser)
  simp only [probeParser, candidateIn, confidenceIn, hconfidence, Option.getD_some]
  rfl

theorem mem_leadersIn {input : ParserInput} {parsers : List ParserProbe} {e : ParserProbe × ℕ}
    (h : e ∈ leadersIn input parsers) : parsers[e.2]? = some e.1 := by
  have hmem : e ∈ parsers.zipIdx := by
    obtain ⟨hnil, -⟩ | ⟨top, hleaders, -⟩ :=
      Leader.leads_scan (fun e => (candidateIn input e.1).key) parsers.zipIdx
    · rw [leadersIn, hnil] at h
      exact nomatch h
    · rw [leadersIn, hleaders] at h
      exact List.mem_of_mem_filter h
  exact List.mem_zipIdx_iff_getElem?.1 hmem

theorem rank_candidates (input : ParserInput) (parsers : List ParserProbe) :
    rank (parsers.map (candidateIn input)) =
      rankingOf ((leadersIn input parsers).map fun e => (candidateIn input e.1, e.2)) := by
  have hzip : (parsers.map (candidateIn input)).zipIdx =
      parsers.zipIdx.map fun e => (candidateIn input e.1, e.2) := by
    rw [List.zipIdx_map]
    rfl
  rw [rank_eq, hzip, Leader.scan_map]
  rfl

theorem candidateIds_leaders (input : ParserInput) (parsers : List ParserProbe) :
    candidateIds (parsers.map (candidateIn input)) ((leadersIn input parsers).map Prod.snd) =
      ", ".intercalate ((leadersIn input parsers).map fun e => e.1.id) := by
  rw [candidateIds, List.map_map]
  refine congrArg _ (List.map_congr_left fun e he => ?_)
  rw [Function.comp_apply, List.getElem?_map, mem_leadersIn he]
  rfl

/-- **What `select` returns**, by its leaders. -/
theorem select_eq_leaders {input : ParserInput} {parsers : List ParserProbe}
    (hauto : input.configuredParserId = none) (hcalm : Calm input parsers) :
    select parsers input = match leadersIn input parsers with
      | [] => .error unsupported
      | [(parser, index)] => .ok (index, traceOf "auto:tier-then-confidence"
          (parsers.map (candidateIn input)) parser)
      | leaders => .error (ambiguous (leaders.map fun e => e.1.id)) := by
  have hids := candidateIds_leaders input parsers
  have hmem : ∀ e ∈ leadersIn input parsers, parsers[e.2]? = some e.1 := fun e => mem_leadersIn
  rw [select, hauto]
  dsimp only
  rw [probeAll_eq hcalm, ok_bind, rank_candidates]
  match leadersIn input parsers, hids, hmem with
  | [], _, _ => rfl
  | [(parser, index)], _, hmem =>
    have hparser := hmem _ List.mem_cons_self
    simp only [rankingOf, List.map_cons, List.map_nil, List.head?_cons, Option.map_some,
      List.length_cons, List.length_nil]
    rw [if_neg (by decide), hparser]
    rfl
  | e :: e' :: leaders, hids, _ =>
    have hmany : 1 < (e :: e' :: leaders).length := by simp
    simp only [rankingOf, List.map_cons, List.head?_cons, Option.map_some, List.length_cons,
      List.length_map] at hmany ⊢
    rw [if_pos hmany]
    exact congrArg (fun ids => Except.error (permanent "CER-PARSE-NO-MATCH"
      ("parser selection is ambiguous at the highest tier/confidence: " ++ ids)))
      (by simpa only [List.map_map, List.map_cons, Function.comp_def] using hids)

/-! ## The unique maximum -/

/-- **The best parser**: it has confidence, and a greater tier and confidence than every other
parser that has some. -/
structure Best (input : ParserInput) (before : List ParserProbe) (parser : ParserProbe)
    (after : List ParserProbe) : Prop where
  supports : confidenceIn input parser ≠ 0
  greatest : ∀ other ∈ before ++ after, confidenceIn input other ≠ 0 →
    keyIn input other < keyIn input parser

theorem key_candidateIn (input : ParserInput) (parser : ParserProbe) :
    (candidateIn input parser).key =
      if confidenceIn input parser = 0 then none else some (keyIn input parser) := rfl

theorem best_iff {input : ParserInput} {before after : List ParserProbe} {parser : ParserProbe} :
    Best input before parser after ↔ ∃ top, (candidateIn input parser).key = some top ∧
      ∀ other ∈ before ++ after, ∀ k, (candidateIn input other).key = some k → k < top := by
  simp only [key_candidateIn]
  constructor
  · rintro ⟨hsupports, hgreatest⟩
    refine ⟨keyIn input parser, if_neg hsupports, fun other hother k hk => ?_⟩
    split_ifs at hk with hzero
    rw [← Option.some.inj hk]
    exact hgreatest other hother hzero
  · rintro ⟨top, htop, hless⟩
    split_ifs at htop with hsupports
    refine ⟨hsupports, fun other hother hzero => ?_⟩
    rw [Option.some.inj htop]
    exact hless other hother _ (if_neg hzero)

/-- One parser leads exactly if it is the best. -/
theorem leadersIn_eq_singleton {input : ParserInput} {before after : List ParserProbe}
    {parser : ParserProbe} :
    leadersIn input (before ++ parser :: after) = [(parser, before.length)] ↔
      Best input before parser after := by
  have hplaces : (before ++ parser :: after).zipIdx =
      before.zipIdx ++ (parser, before.length) :: after.zipIdx (before.length + 1) := by
    rw [List.zipIdx_append, List.zipIdx_cons, Nat.zero_add]
  rw [best_iff, leadersIn, Leader.scan_eq_singleton, hplaces]
  constructor
  · rintro ⟨before', after', top, hsplit, htop, hless⟩
    have hlength : before' = before.zipIdx ∧ after' = after.zipIdx (before.length + 1) := by
      have hindex : before'.length = before.length := by
        have hget : (before ++ parser :: after).zipIdx[before'.length]? =
            some (parser, before.length) := by
          rw [hplaces, hsplit, List.getElem?_append_right le_rfl, Nat.sub_self]
          rfl
        rw [List.getElem?_zipIdx, Option.map_eq_some_iff] at hget
        obtain ⟨_, -, hget⟩ := hget
        simpa using (Prod.mk.inj hget).2
      obtain ⟨hbefore, hafter⟩ := List.append_inj hsplit (by simpa using hindex.symm)
      exact ⟨hbefore.symm, (List.cons.inj hafter).2.symm⟩
    obtain ⟨rfl, rfl⟩ := hlength
    refine ⟨top, htop, fun other hother k hk => ?_⟩
    obtain hother | hother := List.mem_append.1 hother
    · obtain ⟨i, hi⟩ := List.getElem?_of_mem hother
      exact hless (other, i) (List.mem_append_left _ (List.mem_zipIdx_iff_getElem?.2 hi)) k hk
    · obtain ⟨i, hi⟩ := List.getElem?_of_mem hother
      refine hless (other, before.length + 1 + i) (List.mem_append_right _ ?_) k hk
      exact List.mem_zipIdx_iff_le_and_getElem?_sub.2 ⟨by simp, by simpa using hi⟩
  · rintro ⟨top, htop, hless⟩
    refine ⟨_, _, top, rfl, htop, fun e he k hk => ?_⟩
    refine hless e.1 ?_ k hk
    obtain he | he := List.mem_append.1 he
    · exact List.mem_append_left _ (List.fst_mem_of_mem_zipIdx he)
    · exact List.mem_append_right _ (List.fst_mem_of_mem_zipIdx he)

/-- **One choice or failure for two registries**: the same parser, or an error with the same code
that says the same of the same parsers. -/
inductive SameOutcome (parsers parsers' : List ParserProbe) :
    Except ParseError (ℕ × ParserSelectionTrace) → Except ParseError (ℕ × ParserSelectionTrace) →
      Prop
  | chosen {parser : ParserProbe} {index index' : ℕ} {trace trace' : ParserSelectionTrace}
      (h : parsers[index]? = some parser) (h' : parsers'[index']? = some parser)
      (candidates : trace.candidates.Perm trace'.candidates) :
      SameOutcome parsers parsers' (.ok (index, trace)) (.ok (index', trace'))
  | unsupported : SameOutcome parsers parsers' (.error unsupported) (.error unsupported)
  | ambiguous {ids ids' : List String} (h : ids.Perm ids') :
      SameOutcome parsers parsers' (.error (ambiguous ids)) (.error (ambiguous ids'))

theorem sameOutcome_of_perm {input : ParserInput} {parsers parsers' : List ParserProbe}
    (hauto : input.configuredParserId = none) (hcalm : Calm input parsers)
    (hperm : parsers.Perm parsers') :
    SameOutcome parsers parsers' (select parsers input) (select parsers' input) := by
  have hcalm' : Calm input parsers' := fun parser hparser =>
    hcalm parser (hperm.mem_iff.2 hparser)
  have hfst (parsers : List ParserProbe) : (leadersIn input parsers).map Prod.fst =
      Leader.scan (fun parser => (candidateIn input parser).key) parsers := by
    rw [leadersIn, ← Leader.scan_map (fun parser => (candidateIn input parser).key) Prod.fst,
      List.zipIdx_map_fst]
  have hleaders : ((leadersIn input parsers).map Prod.fst).Perm
      ((leadersIn input parsers').map Prod.fst) := by
    rw [hfst, hfst]
    exact Leader.scan_perm hperm
  have hmem : ∀ e ∈ leadersIn input parsers, parsers[e.2]? = some e.1 := fun e => mem_leadersIn
  have hmem' : ∀ e ∈ leadersIn input parsers', parsers'[e.2]? = some e.1 :=
    fun e => mem_leadersIn
  have hlength := hleaders.length_eq
  have hids : ∀ leaders : List (ParserProbe × ℕ),
      (leaders.map fun e => e.1.id) = (leaders.map Prod.fst).map ParserProbe.id := fun leaders => by
    rw [List.map_map]
    rfl
  rw [select_eq_leaders hauto hcalm, select_eq_leaders hauto hcalm']
  match leadersIn input parsers, leadersIn input parsers', hleaders, hlength, hmem, hmem' with
  | [], [], _, _, _, _ => exact .unsupported
  | [(parser, index)], [(parser', index')], hleaders, _, hmem, hmem' =>
    obtain rfl : parser = parser' := List.singleton_perm_singleton.1 hleaders
    exact .chosen (hmem _ List.mem_cons_self) (hmem' _ List.mem_cons_self) (hperm.map _)
  | _ :: _ :: _, _ :: _ :: _, hleaders, _, _, _ =>
    refine .ambiguous ?_
    rw [hids, hids]
    exact hleaders.map _

/-- **The choice of a parser is the unique maximum, in whatever order parsers are registered.** -/
theorem select_unique_maximum (input : ParserInput) (parsers : List ParserProbe)
    (hauto : input.configuredParserId = none) (hcalm : Calm input parsers) :
    (∀ before parser after, parsers = before ++ parser :: after →
      ((∃ trace, select parsers input = .ok (before.length, trace)) ↔
        Best input before parser after)) ∧
    ((¬ ∃ before parser after, parsers = before ++ parser :: after ∧
        Best input before parser after) →
      ∃ e, select parsers input = .error e ∧ e.code = "CER-PARSE-NO-MATCH") ∧
    ∀ parsers', parsers.Perm parsers' →
      SameOutcome parsers parsers' (select parsers input) (select parsers' input) := by
  have hmem : ∀ e ∈ leadersIn input parsers, parsers[e.2]? = some e.1 := fun e => mem_leadersIn
  refine ⟨?_, fun hnone => ?_, fun parsers' => sameOutcome_of_perm hauto hcalm⟩
  · rintro before parser after rfl
    rw [← leadersIn_eq_singleton, select_eq_leaders hauto hcalm]
    match leadersIn input (before ++ parser :: after), hmem with
    | [], _ => exact iff_of_false (fun ⟨_, h⟩ => nomatch h) fun h => nomatch h
    | [(parser', index)], hmem =>
      constructor
      · rintro ⟨trace, h⟩
        obtain rfl := (Prod.mk.inj (Except.ok.inj h)).1
        have hget := hmem _ List.mem_cons_self
        rw [List.getElem?_append_right le_rfl, Nat.sub_self] at hget
        rw [Option.some.inj hget]
      · intro h
        obtain ⟨rfl, rfl⟩ := Prod.mk.inj (List.cons.inj h).1
        exact ⟨_, rfl⟩
    | _ :: _ :: _, _ => exact iff_of_false (fun ⟨_, h⟩ => nomatch h) fun h => nomatch h
  · rw [select_eq_leaders hauto hcalm]
    match hleaders : leadersIn input parsers, hmem with
    | [], _ => exact ⟨_, rfl, rfl⟩
    | [(parser, index)], hmem =>
      have hparser : parsers[index]? = some parser := hmem _ List.mem_cons_self
      obtain ⟨hlt, hget⟩ := List.getElem?_eq_some_iff.1 hparser
      have hsplit : parsers = parsers.take index ++ parser :: parsers.drop (index + 1) := by
        rw [← hget]
        simp
      refine absurd ⟨_, _, _, hsplit, leadersIn_eq_singleton.1 ?_⟩ hnone
      rw [← hsplit, List.length_take_of_le hlt.le, hleaders]
    | _ :: _ :: _, _ => exact ⟨_, rfl, rfl⟩

/-- A parser that is as confident whatever the input. -/
def constantProbe (id : String) (tier : ParserTier) (confidence : ℕ) : ParserProbe :=
  ⟨id, "1", tier, fun _ => some confidence⟩

/-- Two parsers that tie. -/
def tiedParsers : List ParserProbe :=
  [constantProbe "test/a" .generic 50, constantProbe "test/b" .generic 50]

/-- A parser of a higher tier. -/
def higherParser : ParserProbe := constantProbe "test/c" .contentProtocol 40

def shortInput : ParserInput := ⟨[0x78], defaultPersisted, none⟩

/-- Two parsers tie, and a third one beats them. -/
theorem select_unique_maximum_tied :
    (∃ trace, select (tiedParsers ++ [higherParser]) shortInput = .ok (2, trace)) ∧
      SameOutcome (tiedParsers ++ [higherParser]) ([higherParser] ++ tiedParsers)
        (select (tiedParsers ++ [higherParser]) shortInput)
        (select ([higherParser] ++ tiedParsers) shortInput) := by
  have hcalm : Calm shortInput (tiedParsers ++ [higherParser]) := by
    intro parser hparser
    simp only [tiedParsers, List.cons_append, List.nil_append, List.mem_cons, List.not_mem_nil,
      or_false] at hparser
    rcases hparser with rfl | rfl | rfl <;> rfl
  have hbest : Best shortInput tiedParsers higherParser [] := by
    refine ⟨show (40 : ℕ) ≠ 0 by decide, fun other hother _ => ?_⟩
    have hlt : toLex (ParserTier.generic.rank, 50) < toLex (ParserTier.contentProtocol.rank, 40) :=
      Prod.Lex.lt_iff.2 (.inl (by decide))
    simp only [tiedParsers, List.append_nil, List.mem_cons, List.not_mem_nil, or_false] at hother
    rcases hother with rfl | rfl
    · exact hlt
    · exact hlt
  obtain ⟨hselect, -, hperm⟩ :=
    select_unique_maximum shortInput (tiedParsers ++ [higherParser]) rfl hcalm
  exact ⟨(hselect tiedParsers higherParser [] rfl).2 hbest, hperm _ List.perm_append_comm⟩

end Normalizer

end Cerbero
