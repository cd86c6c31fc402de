import Cerbero.Detection.MatchPromise
import Cerbero.Detection.MvpBatch
import Cerbero.Detection.SequenceFirst

/-!
# Detection/MvpSequence — account compromise, and the order of events within a millisecond

The order key of `MvpSequencePolicy` is the time of a Signal cut to milliseconds, and then its
identifier.  Between milliseconds this is the order of time; within one it is the order in which
identifiers were generated, which follows the identifiers of the events.  So the inputs of a match
are in the order of time exactly if those of one millisecond are
(**`respectsTime_iff`**), and they need not be (`exists_not_respectsTime`).
-/

namespace Cerbero

namespace Detection

open Text

/-! ## The order of time -/

/-- One Signal was first observed no later than another, at full precision. -/
def ObservedLe (a b : Signal) : Prop :=
  ∀ t ∈ a.firstObservedAt, ∀ u ∈ b.firstObservedAt, timestampLe t u

/-- **The inputs of a match, in stage order, are in the order of time.** -/
def RespectsTime (signals : List Signal) (m : SequenceCorrelationMatch) : Prop :=
  ∀ inputs : List Signal, (∀ s ∈ inputs, s ∈ signals) →
    inputs.map Signal.signalId = m.inputSignalIds → inputs.Pairwise ObservedLe

/-- Whole milliseconds never run against time. -/
theorem timestampLe_of_wholeMillis_lt {field : String} {t u : Timestamp}
    (ht : validateTimestamp field t = .ok ()) (hu : validateTimestamp field u = .ok ())
    (h : wholeMillis t < wholeMillis u) : timestampLe t u := by
  simp only [validateTimestamp, check_bind_eq_ok, rejectIf_eq_ok, Bool.not_eq_false',
    Bool.and_eq_true, decide_eq_true_iff] at ht hu
  have hmax : protoTimestampMaxNanos = 999999999 := rfl
  rw [wholeMillis, wholeMillis, Int.tdiv_eq_ediv_of_nonneg ht.2.1,
    Int.tdiv_eq_ediv_of_nonneg hu.2.1] at h
  rw [timestampLe, Bool.or_eq_true, Bool.and_eq_true, decide_eq_true_iff, decide_eq_true_iff,
    beq_iff_eq]
  omega

/-- The time of an accepted Signal is one. -/
theorem validateTimestamp_of_validateSignal {signal : Signal} (h : validateSignal signal = .ok ())
    {t : Timestamp} (ht : t ∈ signal.firstObservedAt) :
    validateTimestamp "first_observed_at" t = .ok () := by
  rw [validateSignal, check_bind_eq_ok, check_bind_eq_ok] at h
  obtain ⟨-, htimes, -⟩ := h
  rw [validateSignalTimes, ht] at htimes
  cases hlast : signal.lastObservedAt with
  | none =>
    rw [hlast] at htimes
    cases htimes
  | some last =>
    rw [hlast] at htimes
    exact (check_bind_eq_ok.1 htimes).1

theorem sequenceTimeMillis_eq_some {signal : Signal} {millis : ℤ} :
    sequenceTimeMillis signal = some millis ↔
      ∃ t ∈ signal.firstObservedAt, timestampToMillisChecked t = .ok millis := by
  rw [sequenceTimeMillis, Option.bind_eq_some_iff]
  refine exists_congr fun t => and_congr_right fun _ => ?_
  cases timestampToMillisChecked t <;> simp [Except.toOption]

theorem timestampToMillisChecked_eq_ok {t : Timestamp} {millis : ℤ}
    (h : timestampToMillisChecked t = .ok millis) : wholeMillis t = millis := by
  unfold timestampToMillisChecked at h
  split at h
  · exact Except.ok.inj h
  · exact nomatch h

/-- Accepted Signals of different milliseconds are in the order of time. -/
theorem observedLe_of_millis_lt {a b : Signal} (ha : validateSignal a = .ok ())
    (hb : validateSignal b = .ok ()) {ta tb : ℤ} (hta : sequenceTimeMillis a = some ta)
    (htb : sequenceTimeMillis b = some tb) (hlt : ta < tb) : ObservedLe a b := by
  intro t ht u hu
  obtain ⟨t', ht', hta⟩ := sequenceTimeMillis_eq_some.1 hta
  obtain ⟨u', hu', htb⟩ := sequenceTimeMillis_eq_some.1 htb
  obtain rfl := Option.some.inj (ht'.symm.trans ht)
  obtain rfl := Option.some.inj (hu'.symm.trans hu)
  refine timestampLe_of_wholeMillis_lt (validateTimestamp_of_validateSignal ha ht)
    (validateTimestamp_of_validateSignal hb hu) ?_
  rw [timestampToMillisChecked_eq_ok hta, timestampToMillisChecked_eq_ok htb]
  exact hlt

/-! ## The order of a sequence -/

section

variable {α β : Type} {R : α → β → Prop} {S : β → β → Prop}

theorem pairwise_of_forall₂ {l : List α} {l' : List β} (h : List.Forall₂ R l l') :
    l'.Pairwise S → l.Pairwise fun a b => ∃ x y, R a x ∧ R b y ∧ S x y := by
  induction h with
  | nil => exact fun _ => .nil
  | cons hab hall ih =>
    intro hpairwise
    obtain ⟨hhead, htail⟩ := List.pairwise_cons.1 hpairwise
    refine List.pairwise_cons.2 ⟨fun a' ha' => ?_, ih htail⟩
    obtain ⟨y, hy, hay⟩ := (forall₂_mem hall).1 a' ha'
    exact ⟨_, y, hab, hay, hhead y hy⟩

end

section

variable {users : SortedMap String String} {signals : List Signal} {executionMode : ExecutionMode}
  {plan : CompiledSequenceCorrelationPlan String String MvpSequenceOrdering}

theorem timeConsistent_mvpSequencePolicy :
    TimeConsistent plan (mvpSequencePolicy users) signals := by
  refine timeConsistent_of_lexKey fun s k t hk ht => ?_
  obtain ⟨millis, hmillis, rfl⟩ := Option.map_eq_some_iff.1 (Except.ok.inj hk)
  exact Option.some.inj (hmillis.symm.trans (Except.ok.inj ht))

/-- The Signals of a sequence, pair by pair: milliseconds do not decrease. -/
theorem IsSequence.millis_le {key : String ×ₗ String} {inputs : List Signal}
    {orderKeys : List (ℤ ×ₗ String)} {times : List ℤ}
    (h : IsSequence plan (mvpSequencePolicy users) signals key inputs orderKeys times) :
    inputs.Pairwise fun a b => ∃ ta tb, sequenceTimeMillis a = some ta ∧
      sequenceTimeMillis b = some tb ∧ ta ≤ tb := by
  refine (pairwise_of_forall₂ h.order h.increasing).imp fun {a b} ⟨ka, kb, hka, hkb, hlt⟩ => ?_
  obtain ⟨ta, hta, rfl⟩ := Option.map_eq_some_iff.1 (Except.ok.inj hka)
  obtain ⟨tb, htb, rfl⟩ := Option.map_eq_some_iff.1 (Except.ok.inj hkb)
  refine ⟨ta, tb, hta, htb, ?_⟩
  obtain hlt | ⟨heq, -⟩ := Prod.Lex.le_iff.1 hlt.le
  · exact hlt.le
  · exact heq.le

/-- Lists of Signals with the same identifiers are equal. -/
theorem eq_of_map_signalId (hcoh : ∀ a ∈ signals, ∀ b ∈ signals, a.signalId = b.signalId → a = b) :
    ∀ {l l' : List Signal}, (∀ s ∈ l, s ∈ signals) → (∀ s ∈ l', s ∈ signals) →
      l.map Signal.signalId = l'.map Signal.signalId → l = l'
  | [], [], _, _, _ => rfl
  | [], _ :: _, _, _, h | _ :: _, [], _, _, h => nomatch h
  | a :: l, b :: l', hl, hl', h => by
      obtain ⟨hhead, htail⟩ := List.cons_eq_cons.1 h
      rw [hcoh a (hl a List.mem_cons_self) b (hl' b List.mem_cons_self) hhead,
        eq_of_map_signalId hcoh (fun s hs => hl s (List.mem_cons_of_mem _ hs))
          (fun s hs => hl' s (List.mem_cons_of_mem _ hs)) htail]

end

/-! ## When matches respect time -/

section

variable {lib : BatchLibraries} {request : MvpBatchRequest} {events : List BatchEvent}
  {signals : List Signal} {found : List SequenceCorrelationMatch}

variable (lib) in
/-- **Identifiers follow time within a millisecond**, as far as first sequences go: of two Signals
of one millisecond in the first sequence of a tenant and user, the one that comes first was observed
first. -/
def MillisecondsInOrder (events : List BatchEvent) (signals : List Signal) : Prop :=
  ∀ plan users, compileSequenceRule lib.sha256LowerHex = .ok plan →
    userByEventId events = .ok users → ∀ key inputs orderKeys times,
      FirstSequence plan (mvpSequencePolicy users) signals key inputs orderKeys times →
        inputs.Pairwise fun a b => sequenceTimeMillis a = sequenceTimeMillis b → ObservedLe a b

/-- **When the matches of a batch respect time.** -/
theorem respectsTime_iff (h : sequenceMatches lib request events signals = .ok found) :
    (∀ m ∈ found, RespectsTime signals m) ↔ MillisecondsInOrder lib events signals := by
  obtain ⟨plan, hplan, h⟩ := bind_eq_ok.1 h
  obtain ⟨users, husers, h⟩ := bind_eq_ok.1 h
  have heval := mapError_eq_ok.1 h
  obtain ⟨-, unique, -, hunique, -⟩ := evaluateSequenceSignals_eq_ok.1 heval
  have hcoh := agree_of_validateUniqueSignals hunique
  have hvalid : ∀ s ∈ signals, validateSignal s = .ok () := fun s hs =>
    (admitted_of_uniqueSignals hunique s hs).1
  have hcons : TimeConsistent plan (mvpSequencePolicy users) signals :=
    timeConsistent_mvpSequencePolicy
  constructor
  · intro hall plan' users' hplan' husers' key inputs orderKeys times hfirst
    obtain rfl := Except.ok.inj (hplan.symm.trans hplan')
    obtain rfl := Except.ok.inj (husers.symm.trans husers')
    obtain ⟨keys, -, hkeys, hmatches⟩ := evaluateSequence_first hcons heval
    have hkey : key ∈ keys := (hkeys key).2 ⟨inputs, orderKeys, times, hfirst.isSequence⟩
    obtain ⟨m, hm, -, inputs', _, _, _, _, hfirst', hmatch⟩ := (forall₂_mem hmatches).1 key hkey
    obtain ⟨rfl, -, -⟩ := hfirst'.eq hcoh hfirst
    refine List.Pairwise.imp ?_
      (hall m hm inputs hfirst.isSequence.mem hmatch.inputSignalIds_eq.symm)
    exact fun hle _ => hle
  · intro horder m hm inputs' hmem hids
    obtain ⟨-, key, inputs, orderKeys, times, _, _, hfirst, hmatch⟩ :=
      exists_first_of_mem hcons heval hm
    obtain rfl : inputs' = inputs := eq_of_map_signalId hcoh hmem hfirst.isSequence.mem
      (hids.trans hmatch.inputSignalIds_eq)
    have hpairs := (horder plan users hplan husers key _ _ _ hfirst).and hfirst.isSequence.millis_le
    refine List.Pairwise.imp_of_mem ?_ hpairs
    rintro a b ha hb ⟨hsame, ta, tb, hta, htb, hle⟩
    obtain heq | hlt := hle.eq_or_lt
    · exact hsame (by rw [hta, htb, heq])
    · exact observedLe_of_millis_lt (hvalid a (hmem a ha)) (hvalid b (hmem b hb)) hta htb hlt

end

/-! ## Two logons in one millisecond -/

/-- A row of a logon or of an escalation of one user. -/
def sampleRow (normalizedEventId : String) (seconds nanos : ℤ) (ocsfEventJson : String) :
    StoredNormalizedRow where
  tenantId := "01890a5d-ac96-774b-bcce-b302099a8057"
  normalizedEventId := normalizedEventId
  rawEventId := "01890a5d-ac96-774b-bcce-b302099a8102"
  eventTimePresent := 1
  eventTimeSeconds := seconds
  eventTimeNanos := nanos
  normalizedAtSeconds := 1789000002
  normalizedAtNanos := 0
  ocsfVersion := "1.9.0"
  classUid := 3002
  categoryUid := 3
  activityId := some 1
  severity := some 2
  parserId := "linux/sshd"
  parserVersion := "1"
  normalizationStatus := .success
  normalizedHashAlgorithm := "sha256"
  normalizedHash := "hash"
  pipelineVersion := "normalizer-v1"
  ocsfEventJson := ocsfEventJson

/-- A success at 100 microseconds, a failure at 900, and an escalation a second later; the failure
has the smaller identifier. -/
def sampleRows : List StoredNormalizedRow :=
  [sampleRow "01890a5d-ac96-774b-bcce-b302099a8202" 1789000000 100000 "success",
    sampleRow "01890a5d-ac96-774b-bcce-b302099a8201" 1789000000 900000 "failure",
    sampleRow "01890a5d-ac96-774b-bcce-b302099a8203" 1789000001 0 "escalation"]

/-- The OCSF event of a row of the sample. -/
def sampleOcsf (members : List (String × Json)) : Json :=
  .object (members ++ [("user", .object [("name", .string "root")])])

def sampleBatchLibraries : BatchLibraries where
  fromStr text :=
    if text = "failure" then
      some (sampleOcsf [("activity_name", .string "Logon"), ("status", .string "Failure")])
    else if text = "success" then
      some (sampleOcsf [("activity_name", .string "Logon"), ("status", .string "Success")])
    else some (sampleOcsf [("activity_name", .string "Privilege Escalation")])
  f64Bits _ := none
  sha256LowerHex _ := "hash"

def sampleRequest : MvpBatchRequest where
  tenantId := "01890a5d-ac96-774b-bcce-b302099a8057"
  executionMode := .live
  startMillis := 1789000000000
  endMillis := 1789000002000
  maxEvents := 100
  evaluatedAt := ⟨1789000003, 0⟩
  createdAt := ⟨1789000003, 0⟩

/-- Answers over an empty repository; identifiers are generated in order. -/
def sampleAnswers : (o : BatchOp) → ℕ → o.Response × ℕ
  | .queryRows _ _ _ _ _, n => (.ok sampleRows, n)
  | .nowV7, n => ("01890a5d-ac96-774b-bcce-b302099a830" ++ toString n, n + 1)
  | .persistSignal signal, n => (.ok signal, n)
  | .persistFinding finding, n => (.ok finding, n)

/-- The batch of the sample, its durable Signals and their matches. -/
def sampleCompromise : Except RuntimeError
    (List BatchEvent × List Signal × List SequenceCorrelationMatch) := do
  let events ← loadRows sampleBatchLibraries sampleRows
  let rules ← eventRules sampleBatchLibraries.sha256LowerHex
  let signals ← ((eventSignals sampleRequest rules events).run.run sampleAnswers 0).1
  let found ← sequenceMatches sampleBatchLibraries sampleRequest events signals
  return (events, signals, found)

/-- The Signals of the sample. -/
def sampleSignalIds : List String :=
  ["01890a5d-ac96-774b-bcce-b302099a8300", "01890a5d-ac96-774b-bcce-b302099a8301",
    "01890a5d-ac96-774b-bcce-b302099a8302"]

theorem sampleCompromise_eq : sampleCompromise.map (fun (_, signals, found) =>
      (signals.map Signal.signalId, signals.map Signal.firstObservedAt,
        found.map SequenceCorrelationMatch.inputSignalIds)) =
    .ok (sampleSignalIds, [some ⟨1789000000, 900000⟩, some ⟨1789000000, 100000⟩,
      some ⟨1789000001, 0⟩], [sampleSignalIds]) := by
  decide +kernel

/-- The sample has one match; its first input was observed after its second. -/
theorem exists_sampleCompromise : ∃ events rules signals m,
    loadRows sampleBatchLibraries sampleRows = .ok events ∧
    eventRules sampleBatchLibraries.sha256LowerHex = .ok rules ∧
    ((eventSignals sampleRequest rules events).run.run sampleAnswers 0).1 = .ok signals ∧
    sequenceMatches sampleBatchLibraries sampleRequest events signals = .ok [m] ∧
    signals.map Signal.signalId = m.inputSignalIds ∧
    signals.map Signal.firstObservedAt = [some ⟨1789000000, 900000⟩,
      some ⟨1789000000, 100000⟩, some ⟨1789000001, 0⟩] := by
  obtain ⟨made, hcompromise, hproj⟩ := exceptMap_eq_ok.1 sampleCompromise_eq
  obtain ⟨events, hevents, h⟩ := bind_eq_ok.1 hcompromise
  obtain ⟨rules, hrules, h⟩ := bind_eq_ok.1 h
  obtain ⟨signals, hsignals, h⟩ := bind_eq_ok.1 h
  obtain ⟨found, hfound, h⟩ := bind_eq_ok.1 h
  obtain rfl := Except.ok.inj h
  obtain ⟨hids, hproj⟩ := Prod.mk.inj hproj
  obtain ⟨htimes, hmatches⟩ := Prod.mk.inj hproj
  obtain ⟨m, rfl, hm⟩ := List.map_eq_singleton_iff.1 hmatches
  exact ⟨events, rules, signals, m, hevents, hrules, hsignals, hfound, hids.trans hm.symm, htimes⟩

theorem not_pairwise_observedLe {signals : List Signal} {t u : Timestamp}
    {times : List (Option Timestamp)} (hlt : timestampLe t u = false)
    (h : signals.map Signal.firstObservedAt = some t :: some u :: times) :
    ¬ signals.Pairwise ObservedLe := by
  intro hpairwise
  match signals, h, hpairwise with
  | [_], h, _ => exact nomatch (List.cons_eq_cons.1 h).2
  | a :: b :: signals, h, hpairwise =>
    obtain ⟨ha, h⟩ := List.cons_eq_cons.1 h
    obtain ⟨hb, -⟩ := List.cons_eq_cons.1 h
    have hle := (List.pairwise_cons.1 hpairwise).1 b List.mem_cons_self t ha u hb
    rw [hlt] at hle
    exact nomatch hle

theorem respectsTime_iff_sample : ∃ events signals found,
    sequenceMatches sampleBatchLibraries sampleRequest events signals = .ok found ∧ found ≠ [] ∧
    ((∀ m ∈ found, RespectsTime signals m) ↔
      MillisecondsInOrder sampleBatchLibraries events signals) := by
  obtain ⟨events, -, signals, m, -, -, -, hfound, -⟩ := exists_sampleCompromise
  exact ⟨events, signals, [m], hfound, List.cons_ne_nil _ _, respectsTime_iff hfound⟩

/-- **A match that puts the failure first**, of a batch in which the success came first. -/
theorem exists_not_respectsTime : ∃ events rules signals found m,
    loadRows sampleBatchLibraries sampleRows = .ok events ∧
    eventRules sampleBatchLibraries.sha256LowerHex = .ok rules ∧
    ((eventSignals sampleRequest rules events).run.run sampleAnswers 0).1 = .ok signals ∧
    sequenceMatches sampleBatchLibraries sampleRequest events signals = .ok found ∧
    m ∈ found ∧ ¬ RespectsTime signals m := by
  obtain ⟨events, rules, signals, m, hevents, hrules, hsignals, hfound, hids, htimes⟩ :=
    exists_sampleCompromise
  have hnot : ¬ RespectsTime signals m := by
    intro hrespects
    exact not_pairwise_observedLe (by decide) htimes (hrespects signals (fun _ hs => hs) hids)
  exact ⟨events, rules, signals, [m], m, hevents, hrules, hsignals, hfound, List.mem_cons_self,
    hnot⟩

end Detection

end Cerbero
