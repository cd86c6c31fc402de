import Mathlib.Data.Set.Function
import Cerbero.Detection.Repository
import Cerbero.Lib.Separated

/-!
# Detection/LogicalKey — which texts keep logical identities apart

The parts of a key are joined with `|` and not escaped.  Identifiers cannot contain it, but the rule
version and the relations of a Signal, and the rule and configuration texts of a Finding, are free.
The keys of Signals keep different detections apart exactly as long as the relations do without `|`:
the rule version is the only free text before them, so it can be found from the end
(`signalIdentity_iff`).  Those of Findings do as long as all their free texts do without it
(`findingIdentity_iff`).
-/

namespace Cerbero

namespace Detection

open Text Separated

/-! ## Texts without a bar -/

theorem bar_not_mem_uuid {field value : String} (h : validateUuidV7 field value = .ok ()) :
    '|' ∉ value.toList :=
  not_mem_of_validateUuidV7 h (by decide) (by decide)

theorem colon_not_mem_uuid {field value : String} (h : validateUuidV7 field value = .ok ()) :
    ':' ∉ value.toList :=
  not_mem_of_validateUuidV7 h (by decide) (by decide)

theorem bar_not_mem_ruleId {value : String} (h : isNumberedId ruleIdPrefix value ruleIdDigits) :
    '|' ∉ value.toList := by
  intro hmem
  have hbyte : '|'.toUInt8 ∈ bytes value := mem_bytes_of_mem (by decide) hmem
  simp only [isNumberedId, Bool.and_eq_true] at h
  obtain ⟨⟨hhead, -⟩, hdigits⟩ := h
  obtain ⟨tail, htail⟩ := List.isPrefixOf_iff_prefix.1 hhead
  rw [← htail, List.drop_left, List.all_eq_true] at hdigits
  rw [← htail, List.mem_append] at hbyte
  rcases hbyte with hbyte | hbyte
  · revert hbyte
    decide
  · have := hdigits _ hbyte
    revert this
    decide

theorem bar_not_mem_toString (n : ℕ) : '|' ∉ (toString n).toList := by
  intro h
  rw [Nat.toString_eq_repr, Nat.toList_repr] at h
  exact absurd (Nat.isDigit_of_mem_toDigits (by decide) (by decide) h) (by decide)

/-- Small wire numbers are written without separators, and differently. -/
theorem isMember_three {n : ℤ} (h : isMember 1 3 n) : n = 1 ∨ n = 2 ∨ n = 3 := by
  simp only [isMember, Bool.and_eq_true, decide_eq_true_eq] at h
  omega

theorem separator_not_mem_member {n : ℤ} (h : isMember 1 3 n) :
    '|' ∉ (toString n).toList ∧ ':' ∉ (toString n).toList := by
  rcases isMember_three h with rfl | rfl | rfl <;> decide

theorem member_eq_of_toString {n m : ℤ} (hn : isMember 1 3 n) (hm : isMember 1 3 m)
    (h : (toString n).toList = (toString m).toList) : n = m := by
  rcases isMember_three hn with rfl | rfl | rfl <;> rcases isMember_three hm with rfl | rfl | rfl <;>
    first | rfl | exact absurd h (by decide)

/-! ## Keys as lists of fields -/

/-- The characters of one input of a Signal in its key, without the bar. -/
def inputField (input : SignalInput) : List Char :=
  (toString input.ordinal).toList ++ ':' :: ((toString input.inputType).toList ++
    ':' :: (input.inputId.toList ++ ':' :: input.relation.toList))

/-- The fields of the key of a Signal up to its rule version. -/
def signalFront (signal : Signal) : List (List Char) :=
  [signal.tenantId.toList, signal.ruleId.toList, signal.ruleVersion.toList]

/-- The fields of the key of a Signal after its rule version. -/
def signalBack (signal : Signal) : List (List Char) :=
  (toString signal.ruleType).toList :: (toString signal.executionMode).toList ::
    signal.inputs.map inputField

theorem toList_foldl_append {α : Type} (f : α → String) :
    ∀ (l : List α) (s : String),
      (l.foldl (fun value a => value ++ f a) s).toList = s.toList ++ l.flatMap fun a => (f a).toList
  | [], s => by simp
  | a :: l, s => by
      rw [List.foldl_cons, toList_foldl_append f l, String.toList_append, List.flatMap_cons,
        List.append_assoc]

/-- A key is its fields, each after a bar. -/
theorem bar_cons_signalKeyText (signal : Signal) :
    '|' :: (signalKeyText signal).toList =
      joinAfter '|' (signalFront signal) ++ joinAfter '|' (signalBack signal) := by
  have hinputs : (signal.inputs.flatMap fun input => (signalInputKeyText input).toList) =
      joinAfter '|' (signal.inputs.map inputField) := by
    rw [joinAfter, List.flatMap_map]
    refine List.flatMap_congr fun input _ => ?_
    simp [signalInputKeyText, inputField]
  rw [signalKeyText, toList_foldl_append, hinputs, signalFront, signalBack]
  simp

/-- The fields of the key of a Finding. -/
def findingFields (finding : Finding) (provenance : FindingCorrelationProvenance) :
    List (List Char) :=
  [finding.tenantId.toList, provenance.correlationRuleId.toList,
    provenance.correlationRuleVersion.toList, (toString finding.executionMode).toList,
    provenance.configurationHash.toList] ++ provenance.inputIds.map String.toList

theorem bar_cons_findingKeyText (finding : Finding) (provenance : FindingCorrelationProvenance) :
    '|' :: (findingKeyText finding provenance).toList =
      joinAfter '|' (findingFields finding provenance) := by
  have hfold : findingKeyText finding provenance =
      provenance.inputIds.foldl (fun value inputId => value ++ ("|" ++ inputId))
        (finding.tenantId ++ "|" ++ provenance.correlationRuleId ++ "|" ++
          provenance.correlationRuleVersion ++ "|" ++ toString finding.executionMode ++ "|" ++
          provenance.configurationHash) := by
    rw [findingKeyText]
    simp only [String.append_assoc]
  have hids : (provenance.inputIds.flatMap fun inputId => ("|" ++ inputId).toList) =
      joinAfter '|' (provenance.inputIds.map String.toList) := by
    rw [joinAfter, List.flatMap_map]
    refine List.flatMap_congr fun inputId _ => ?_
    simp
  rw [hfold, toList_foldl_append, hids, findingFields, joinAfter_append]
  simp

/-! ## Signals -/

/-- The identity of an input of a Signal. -/
def inputIdentity (input : SignalInput) : ℕ × ℤ × String × String :=
  (input.ordinal, input.inputType, input.inputId, input.relation)

/-- **Two Signals are the same detection.** -/
structure SameDetection (a b : Signal) : Prop where
  tenantId : a.tenantId = b.tenantId
  ruleId : a.ruleId = b.ruleId
  ruleVersion : a.ruleVersion = b.ruleVersion
  ruleType : a.ruleType = b.ruleType
  executionMode : a.executionMode = b.executionMode
  inputs : a.inputs.map inputIdentity = b.inputs.map inputIdentity

/-- The relations of a Signal are written with the characters of `C`. -/
def RelationsOver (C : Set Char) (signal : Signal) : Prop :=
  ∀ input ∈ signal.inputs, ∀ c ∈ input.relation.toList, c ∈ C

theorem bar_not_mem_inputField {signalId : String} {index : ℕ} {input : SignalInput}
    (h : input.Accepted signalId index) (hrel : '|' ∉ input.relation.toList) :
    '|' ∉ inputField input := by
  have hord := bar_not_mem_toString input.ordinal
  have htype := (separator_not_mem_member h.inputType_mem).1
  have hid := bar_not_mem_uuid h.inputId_uuid
  simp only [inputField, List.mem_append, List.mem_cons, not_or]
  exact ⟨hord, by decide, htype, by decide, hid, by decide, hrel⟩

/-- The fields after the rule version do without bars if the relations do. -/
theorem bar_not_mem_signalBack {C : Set Char} {signal : Signal} (h : signal.Accepted)
    (hC : '|' ∉ C) (hover : RelationsOver C signal) : ∀ f ∈ signalBack signal, '|' ∉ f := by
  intro f hf
  rw [signalBack, List.mem_cons, List.mem_cons, List.mem_map] at hf
  rcases hf with rfl | rfl | ⟨input, hinput, rfl⟩
  · exact (separator_not_mem_member h.ruleType_mem).1
  · exact (separator_not_mem_member h.executionMode_mem).1
  · obtain ⟨i, hi⟩ := List.mem_iff_getElem?.1 hinput
    exact bar_not_mem_inputField (h.inputs_accepted i input hi)
      fun hmem => hC (hover input hinput _ hmem)

/-- An input has colons in its field. -/
theorem colon_mem_of_mem_inputFields {inputs : List SignalInput} {f : List Char}
    (h : f ∈ inputs.map inputField) : ':' ∈ f := by
  obtain ⟨input, -, rfl⟩ := List.mem_map.1 h
  simp [inputField]

/-- The field of an accepted input determines it: its ordinal is its position, and the next two
parts end at their colon. -/
theorem inputIdentity_eq {signalId signalId' : String} {index : ℕ} {input input' : SignalInput}
    (h : input.Accepted signalId index) (h' : input'.Accepted signalId' index)
    (heq : inputField input = inputField input') : inputIdentity input = inputIdentity input' := by
  have hord : input.ordinal = input'.ordinal := h.ordinal_eq.trans h'.ordinal_eq.symm
  rw [inputField, inputField, hord] at heq
  have hrest := (List.cons.inj (List.append_cancel_left heq)).2
  obtain ⟨htype, hrest⟩ := append_cons_inj (separator_not_mem_member h.inputType_mem).2
    (separator_not_mem_member h'.inputType_mem).2 hrest
  obtain ⟨hid, hrel⟩ := append_cons_inj (colon_not_mem_uuid h.inputId_uuid)
    (colon_not_mem_uuid h'.inputId_uuid) hrest
  rw [inputIdentity, inputIdentity, hord,
    member_eq_of_toString h.inputType_mem h'.inputType_mem htype, String.toList_inj.1 hid,
    String.toList_inj.1 hrel]

theorem inputs_identity_eq {signalId signalId' : String} :
    ∀ {inputs inputs' : List SignalInput} {k : ℕ},
      (∀ (i : ℕ) (x : SignalInput), inputs[i]? = some x → x.Accepted signalId (k + i)) →
      (∀ (i : ℕ) (x : SignalInput), inputs'[i]? = some x → x.Accepted signalId' (k + i)) →
      inputs.map inputField = inputs'.map inputField →
        inputs.map inputIdentity = inputs'.map inputIdentity
  | [], [], _, _, _, _ => rfl
  | [], _ :: _, _, _, _, h => by simp at h
  | _ :: _, [], _, _, _, h => by simp at h
  | x :: xs, y :: ys, k, hx, hy, h => by
      rw [List.map_cons, List.map_cons] at h ⊢
      obtain ⟨hhead, htail⟩ := List.cons.inj h
      rw [inputIdentity_eq (hx 0 x rfl) (hy 0 y rfl) hhead,
        inputs_identity_eq (k := k + 1)
          (fun i z hz => by
            rw [show k + 1 + i = k + (i + 1) by omega]
            exact hx (i + 1) z (by simpa using hz))
          (fun i z hz => by
            rw [show k + 1 + i = k + (i + 1) by omega]
            exact hy (i + 1) z (by simpa using hz)) htail]

/-- The fields after the rule version are found from the end.  If the other key had more of them, the
execution mode would stand where an input does, and an input has colons. -/
theorem signalBack_eq {a b : Signal} {front front' : List Char} (ha : a.Accepted)
    (hfa : ∀ f ∈ signalBack a, '|' ∉ f) (hfb : ∀ f ∈ signalBack b, '|' ∉ f)
    (hlength : (signalBack a).length ≤ (signalBack b).length)
    (h : front ++ joinAfter '|' (signalBack a) = front' ++ joinAfter '|' (signalBack b)) :
    signalBack a = signalBack b ∧ front = front' := by
  obtain ⟨more, hback, hfront⟩ := append_joinAfter_suffix hfa hfb hlength h
  cases more with
  | nil => exact ⟨hback.symm, by simpa using hfront⟩
  | cons x more =>
    have hinput : (toString a.executionMode).toList ∈ b.inputs.map inputField := by
      have htail := (List.cons.inj hback).2
      cases more with
      | nil =>
        have hinputs := (List.cons.inj htail).2
        rw [hinputs]
        exact List.mem_cons_self
      | cons y more =>
        have hinputs := (List.cons.inj htail).2
        rw [hinputs]
        exact List.mem_append_right _ (List.mem_cons_of_mem _ List.mem_cons_self)
    exact absurd (colon_mem_of_mem_inputFields hinput)
      (separator_not_mem_member ha.executionMode_mem).2

/-- Before the rule version there are identifiers only. -/
theorem signalFront_eq {a b : Signal} (ha : a.Accepted) (hb : b.Accepted)
    (h : joinAfter '|' (signalFront a) = joinAfter '|' (signalFront b)) :
    a.tenantId = b.tenantId ∧ a.ruleId = b.ruleId ∧ a.ruleVersion = b.ruleVersion := by
  simp only [signalFront, joinAfter_cons, joinAfter_nil, List.append_nil] at h
  obtain ⟨htenant, hrest⟩ := append_cons_inj (bar_not_mem_uuid ha.tenantId_uuid)
    (bar_not_mem_uuid hb.tenantId_uuid) (List.cons.inj h).2
  obtain ⟨hrule, hversion⟩ := append_cons_inj (bar_not_mem_ruleId ha.ruleId_numbered)
    (bar_not_mem_ruleId hb.ruleId_numbered) hrest
  exact ⟨String.toList_inj.1 htenant, String.toList_inj.1 hrule, String.toList_inj.1 hversion⟩

/-- **Equal keys, same detection**, if the fields after the rule version do without bars. -/
theorem sameDetection_of_signalKeyText {a b : Signal} (ha : a.Accepted) (hb : b.Accepted)
    (hfa : ∀ f ∈ signalBack a, '|' ∉ f) (hfb : ∀ f ∈ signalBack b, '|' ∉ f)
    (h : signalKeyText a = signalKeyText b) : SameDetection a b := by
  have hjoin : joinAfter '|' (signalFront a) ++ joinAfter '|' (signalBack a) =
      joinAfter '|' (signalFront b) ++ joinAfter '|' (signalBack b) := by
    rw [← bar_cons_signalKeyText, ← bar_cons_signalKeyText, h]
  have hparts : signalBack a = signalBack b ∧
      joinAfter '|' (signalFront a) = joinAfter '|' (signalFront b) := by
    obtain hlength | hlength := le_total (signalBack a).length (signalBack b).length
    · exact signalBack_eq ha hfa hfb hlength hjoin
    · obtain ⟨hback, hfront⟩ := signalBack_eq hb hfb hfa hlength hjoin.symm
      exact ⟨hback.symm, hfront.symm⟩
  obtain ⟨hback, hfront⟩ := hparts
  obtain ⟨htenant, hrule, hversion⟩ := signalFront_eq ha hb hfront
  simp only [signalBack, List.cons.injEq] at hback
  obtain ⟨htype, hmode, hinputs⟩ := hback
  exact
    { tenantId := htenant
      ruleId := hrule
      ruleVersion := hversion
      ruleType := member_eq_of_toString ha.ruleType_mem hb.ruleType_mem htype
      executionMode := member_eq_of_toString ha.executionMode_mem hb.executionMode_mem hmode
      inputs := inputs_identity_eq (k := 0) (by simpa using ha.inputs_accepted)
        (by simpa using hb.inputs_accepted) hinputs }

/-- **The keys of Signals with relations over `C` keep different detections apart**, whatever their
rule versions are. -/
def SignalKeysSeparate (C : Set Char) : Prop :=
  ∀ a b : Signal, validateSignal a = .ok () → validateSignal b = .ok () → RelationsOver C a →
    RelationsOver C b → signalKeyText a = signalKeyText b → SameDetection a b

/-- **No Signal with relations over `C` is dropped for a different one**: in any run of calls on the
empty tables, with no collision of SHA-256 among the key texts of the run, what a call returns is the
detection it was called with. -/
def SignalsNeverDropped (C : Set Char) : Prop :=
  ∀ (repository : AnalyticalRepository) (calls : List (String × Signal)),
    (∀ call ∈ calls, RelationsOver C call.2) →
    Set.InjOn repository.sha256LowerHex {h | ∃ call ∈ calls, h = bytes (signalKeyText call.2)} →
      List.Forall₂ (fun call answer => ∀ stored, answer = .ok stored → SameDetection stored call.2)
        calls (runCalls (persistSignal repository) .empty calls)

/-- The rows of a run hold Signals of the run, under their keys. -/
def SignalRowsFrom (repository : AnalyticalRepository) (calls : List (String × Signal))
    (store : AnalyticalStore) : Prop :=
  ∀ key row, store.signals.get? key = some row → ∃ call ∈ calls,
    validateSignal call.2 = .ok () ∧ key = signalLogicalKey repository call.2 ∧
      row.payload = repository.signalWire.encode call.2

/-- Separate keys drop nothing. -/
theorem signalsNeverDropped_of_separate {C : Set Char} (h : SignalKeysSeparate C) :
    SignalsNeverDropped C := by
  intro repository calls hover hinj
  have hempty : SignalRowsFrom repository calls .empty := fun key row hrow => by
    simp [AnalyticalStore.empty] at hrow
  refine forall₂_runCalls (SignalRowsFrom repository calls) SameDetection
    (fun messageId signal hcall store store' stored hinv hpersist => ?_) hempty
  obtain ⟨hvalid, ⟨row, hrow, hdecode⟩, hrows⟩ := persistSignal_eq_ok hpersist
  have hinv' : SignalRowsFrom repository calls store' := by
    intro key row' hrow'
    rcases hrows key row' hrow' with hold | ⟨hkey, hpayload⟩
    · exact hinv key row' hold
    · exact ⟨(messageId, signal), hcall, hvalid, hkey, hpayload⟩
  refine ⟨hinv', ?_⟩
  obtain ⟨call, hmem, hcvalid, hckey, hcpayload⟩ := hinv' _ row hrow
  rw [hcpayload, repository.signalWire.decode_encode, Option.some.injEq] at hdecode
  subst hdecode
  have htext : signalKeyText signal = signalKeyText call.2 :=
    bytes_injective (hinj ⟨_, hcall, rfl⟩ ⟨_, hmem, rfl⟩ hckey)
  exact h _ _ hcvalid hvalid (hover call hmem) (hover _ hcall) htext.symm

/-- A Signal of a correlation with given inputs. -/
def barSignal (inputs : List SignalInput) : Signal where
  signalId := "00000000-0000-7000-8000-000000000000"
  tenantId := "00000000-0000-7000-8000-000000000000"
  ruleId := "CER-DET-000001"
  ruleVersion := "1"
  ruleType := 3
  severity := "high"
  confidence := none
  status := 1
  firstObservedAt := none
  lastObservedAt := none
  createdAt := some ⟨0, 0⟩
  executionMode := 1
  sourceCount := 1
  eventCount := 1
  summary := "logon"
  provenance := some ⟨some ⟨0, 0⟩, 1⟩
  inputs := inputs

/-- Two inputs. -/
def twoInputs : List SignalInput :=
  [⟨"00000000-0000-7000-8000-000000000000", 1, "00000000-0000-7000-8000-000000000001", "0", 0⟩,
    ⟨"00000000-0000-7000-8000-000000000000", 1, "00000000-0000-7000-8000-000000000002", "0", 1⟩]

/-- One input, whose relation spells the second one. -/
def oneInput : List SignalInput :=
  [⟨"00000000-0000-7000-8000-000000000000", 1, "00000000-0000-7000-8000-000000000001",
    "0|1:1:00000000-0000-7000-8000-000000000002:0", 0⟩]

/-- **A relation with a bar can spell another input.** -/
theorem barSignal_collision :
    validateSignal (barSignal twoInputs) = .ok () ∧ validateSignal (barSignal oneInput) = .ok () ∧
      signalKeyText (barSignal twoInputs) = signalKeyText (barSignal oneInput) := by
  decide +kernel

theorem not_sameDetection_barSignal :
    ¬ SameDetection (barSignal twoInputs) (barSignal oneInput) := fun h =>
  absurd h.inputs (by decide)

/-- **Logical keys of Signals keep different detections apart, and `persist_signal` drops none,
exactly if `|` is not among the characters of relations**, for any alphabet that has the characters
identifiers and ordinals are written with.  Rule versions are any texts. -/
theorem signalIdentity_iff (C : Set Char) (hC : ∀ c : Char, c.isDigit ∨ c = '-' ∨ c = ':' → c ∈ C) :
    SignalKeysSeparate C ∧ SignalsNeverDropped C ↔ '|' ∉ C := by
  constructor
  · rintro ⟨hsep, -⟩ hbar
    have hchars : ∀ c : Char, (c.isDigit || c == '-' || c == ':' || c == '|') → c ∈ C := by
      intro c hc
      simp only [Bool.or_eq_true, beq_iff_eq] at hc
      rcases hc with ((hc | hc) | hc) | rfl
      · exact hC c (Or.inl hc)
      · exact hC c (Or.inr (Or.inl hc))
      · exact hC c (Or.inr (Or.inr hc))
      · exact hbar
    have hover : ∀ inputs : List SignalInput,
        (inputs.all fun input => input.relation.toList.all fun c =>
          c.isDigit || c == '-' || c == ':' || c == '|') →
        RelationsOver C (barSignal inputs) :=
      fun inputs hall input hinput c hc =>
        hchars c (List.all_eq_true.1 (List.all_eq_true.1 hall input hinput) c hc)
    obtain ⟨hv, hv', hkey⟩ := barSignal_collision
    exact not_sameDetection_barSignal (hsep _ _ hv hv' (hover _ (by decide)) (hover _ (by decide))
      hkey)
  · intro hbar
    have hsep : SignalKeysSeparate C := fun a b ha hb hoa hob hkey => by
      have ha' := accepted_of_validateSignal ha
      have hb' := accepted_of_validateSignal hb
      exact sameDetection_of_signalKeyText ha' hb' (bar_not_mem_signalBack ha' hbar hoa)
        (bar_not_mem_signalBack hb' hbar hob) hkey
    exact ⟨hsep, signalsNeverDropped_of_separate hsep⟩

theorem signalIdentity_without_bar :
    SignalKeysSeparate {c | c ≠ '|'} ∧ SignalsNeverDropped {c | c ≠ '|'} := by
  refine (signalIdentity_iff {c | c ≠ '|'} ?_).2 (by simp)
  rintro c hc rfl
  revert hc
  decide

/-- Over all texts, two Signals share a key. -/
theorem not_signalKeysSeparate_univ : ¬ SignalKeysSeparate Set.univ := fun h =>
  not_sameDetection_barSignal (h _ _ barSignal_collision.1 barSignal_collision.2.1
    (fun _ _ _ _ => trivial) (fun _ _ _ _ => trivial) barSignal_collision.2.2)

/-! ## Findings -/

/-- **Two correlation Findings are the same correlation.** -/
structure SameCorrelation (a : Finding) (p : FindingCorrelationProvenance) (b : Finding)
    (q : FindingCorrelationProvenance) : Prop where
  tenantId : a.tenantId = b.tenantId
  correlationRuleId : p.correlationRuleId = q.correlationRuleId
  correlationRuleVersion : p.correlationRuleVersion = q.correlationRuleVersion
  executionMode : a.executionMode = b.executionMode
  configurationHash : p.configurationHash = q.configurationHash
  inputIds : p.inputIds = q.inputIds

/-- The free texts of a provenance are written with the characters of `C`. -/
def ProvenanceTextsOver (C : Set Char) (p : FindingCorrelationProvenance) : Prop :=
  (∀ c ∈ p.correlationRuleId.toList, c ∈ C) ∧ (∀ c ∈ p.correlationRuleVersion.toList, c ∈ C) ∧
    ∀ c ∈ p.configurationHash.toList, c ∈ C

theorem bar_not_mem_findingFields {C : Set Char} {finding : Finding}
    {p : FindingCorrelationProvenance} (h : finding.Accepted p) (hC : '|' ∉ C)
    (hover : ProvenanceTextsOver C p) : ∀ f ∈ findingFields finding p, '|' ∉ f := by
  intro f hf
  rw [findingFields, List.mem_append, List.mem_map] at hf
  rcases hf with hf | ⟨inputId, hid, rfl⟩
  · simp only [List.mem_cons, List.not_mem_nil, or_false] at hf
    rcases hf with rfl | rfl | rfl | rfl | rfl
    · exact bar_not_mem_uuid h.tenantId_uuid
    · exact fun hmem => hC (hover.1 _ hmem)
    · exact fun hmem => hC (hover.2.1 _ hmem)
    · exact (separator_not_mem_member h.executionMode_mem).1
    · exact fun hmem => hC (hover.2.2 _ hmem)
  · exact bar_not_mem_uuid (h.inputIds_uuid inputId hid)

/-- **Equal keys, same correlation**, if the fields do without bars. -/
theorem sameCorrelation_of_findingKeyText {a b : Finding} {p q : FindingCorrelationProvenance}
    (ha : a.Accepted p) (hb : b.Accepted q) (hfa : ∀ f ∈ findingFields a p, '|' ∉ f)
    (hfb : ∀ f ∈ findingFields b q, '|' ∉ f) (h : findingKeyText a p = findingKeyText b q) :
    SameCorrelation a p b q := by
  have hjoin : joinAfter '|' (findingFields a p) = joinAfter '|' (findingFields b q) := by
    rw [← bar_cons_findingKeyText, ← bar_cons_findingKeyText, h]
  have hfields := joinAfter_injective hfa hfb hjoin
  simp only [findingFields, List.cons_append, List.nil_append, List.cons.injEq] at hfields
  obtain ⟨htenant, hrule, hversion, hmode, hhash, hids⟩ := hfields
  exact
    { tenantId := String.toList_inj.1 htenant
      correlationRuleId := String.toList_inj.1 hrule
      correlationRuleVersion := String.toList_inj.1 hversion
      executionMode := member_eq_of_toString ha.executionMode_mem hb.executionMode_mem hmode
      configurationHash := String.toList_inj.1 hhash
      inputIds := List.map_injective_iff.2 (fun _ _ => String.toList_inj.1) hids }

/-- **The keys of correlation Findings with texts over `C` keep different correlations apart.** -/
def FindingKeysSeparate (C : Set Char) : Prop :=
  ∀ (a b : Finding) (p q : FindingCorrelationProvenance), validateFinding a = .ok () →
    validateFinding b = .ok () → a.correlationProvenance = some p →
    b.correlationProvenance = some q → ProvenanceTextsOver C p → ProvenanceTextsOver C q →
    findingKeyText a p = findingKeyText b q → SameCorrelation a p b q

/-- **No Finding with texts over `C` is dropped for a different one**, in any run of calls on the
empty tables without a collision of SHA-256 among the key texts of the run. -/
def FindingsNeverDropped (C : Set Char) : Prop :=
  ∀ (repository : AnalyticalRepository) (calls : List (String × Finding)),
    (∀ call ∈ calls, ∀ p, call.2.correlationProvenance = some p → ProvenanceTextsOver C p) →
    Set.InjOn repository.sha256LowerHex {h | ∃ call ∈ calls, ∃ p,
      call.2.correlationProvenance = some p ∧ h = bytes (findingKeyText call.2 p)} →
      List.Forall₂ (fun call answer => ∀ stored, answer = .ok stored →
        ∃ p q, stored.correlationProvenance = some p ∧ call.2.correlationProvenance = some q ∧
          SameCorrelation stored p call.2 q)
        calls (runCalls (persistFinding repository) .empty calls)

/-- The rows of a run hold Findings of the run, under their keys. -/
def FindingRowsFrom (repository : AnalyticalRepository) (calls : List (String × Finding))
    (store : AnalyticalStore) : Prop :=
  ∀ key row, store.findings.get? key = some row → ∃ call ∈ calls,
    validateFinding call.2 = .ok () ∧ findingLogicalKey repository call.2 = .ok key ∧
      row.payload = repository.findingWire.encode call.2

theorem findingLogicalKey_eq_ok {repository : AnalyticalRepository} {finding : Finding}
    {key : String} (h : findingLogicalKey repository finding = .ok key) :
    ∃ p, finding.correlationProvenance = some p ∧
      key = repository.sha256LowerHex (bytes (findingKeyText finding p)) := by
  rw [findingLogicalKey] at h
  cases hp : finding.correlationProvenance with
  | none => simp [hp] at h
  | some p =>
    simp only [hp, Except.ok.injEq] at h
    exact ⟨p, rfl, h.symm⟩

/-- Separate keys drop nothing. -/
theorem findingsNeverDropped_of_separate {C : Set Char} (h : FindingKeysSeparate C) :
    FindingsNeverDropped C := by
  intro repository calls hover hinj
  have hempty : FindingRowsFrom repository calls .empty := fun key row hrow => by
    simp [AnalyticalStore.empty] at hrow
  refine forall₂_runCalls (FindingRowsFrom repository calls)
    (fun stored finding => ∃ p q, stored.correlationProvenance = some p ∧
      finding.correlationProvenance = some q ∧ SameCorrelation stored p finding q)
    (fun messageId finding hcall store store' stored hinv hpersist => ?_) hempty
  obtain ⟨hvalid, key, hkey, ⟨row, hrow, hdecode⟩, hrows⟩ := persistFinding_eq_ok hpersist
  have hinv' : FindingRowsFrom repository calls store' := by
    intro key' row' hrow'
    rcases hrows key' row' hrow' with hold | ⟨rfl, hpayload⟩
    · exact hinv key' row' hold
    · exact ⟨(messageId, finding), hcall, hvalid, hkey, hpayload⟩
  refine ⟨hinv', ?_⟩
  obtain ⟨call, hmem, hcvalid, hckey, hcpayload⟩ := hinv' _ row hrow
  rw [hcpayload, repository.findingWire.decode_encode, Option.some.injEq] at hdecode
  subst hdecode
  obtain ⟨p, hp, hpkey⟩ := findingLogicalKey_eq_ok hckey
  obtain ⟨q, hq, hqkey⟩ := findingLogicalKey_eq_ok hkey
  have htext : findingKeyText call.2 p = findingKeyText finding q :=
    bytes_injective (hinj ⟨call, hmem, p, hp, rfl⟩ ⟨_, hcall, q, hq, rfl⟩
      (hpkey.symm.trans hqkey))
  exact ⟨p, q, hp, hq, h _ _ _ _ hcvalid hvalid hp hq (hover call hmem p hp)
    (hover _ hcall q hq) htext⟩

/-- A provenance with given rule texts. -/
def barProvenance (ruleId ruleVersion : String) : FindingCorrelationProvenance where
  correlationRuleId := ruleId
  correlationRuleVersion := ruleVersion
  windowStart := some ⟨0, 0⟩
  windowEnd := some ⟨0, 0⟩
  inputIds := ["00000000-0000-7000-8000-000000000001"]
  outputFindingId := "00000000-0000-7000-8000-000000000000"
  executionBackend := 1
  executionMode := 1
  configurationHash := "|"

/-- A correlation Finding with given rule texts. -/
def barFinding (ruleId ruleVersion : String) : Finding where
  findingId := "00000000-0000-7000-8000-000000000000"
  tenantId := "00000000-0000-7000-8000-000000000000"
  findingType := 3
  status := 1
  severity := "high"
  confidence := none
  title := "logon"
  description := "logon"
  firstSeen := none
  lastSeen := none
  createdAt := some ⟨0, 0⟩
  updatedAt := some ⟨0, 0⟩
  primaryRuleId := none
  primaryRuleVersion := none
  correlationRuleId := some ruleId
  correlationRuleVersion := some ruleVersion
  disposition := 1
  metadata := none
  executionMode := 1
  inputs := [⟨"00000000-0000-7000-8000-000000000000", "SIGNAL",
    "00000000-0000-7000-8000-000000000001", "stage"⟩]
  correlationProvenance := some (barProvenance ruleId ruleVersion)

/-- **A rule identifier with a bar can take a bar from the rule version.** -/
theorem barFinding_collision :
    validateFinding (barFinding "|" "||") = .ok () ∧ validateFinding (barFinding "||" "|") = .ok () ∧
      findingKeyText (barFinding "|" "||") (barProvenance "|" "||") =
        findingKeyText (barFinding "||" "|") (barProvenance "||" "|") := by
  decide +kernel

theorem not_sameCorrelation_barFinding :
    ¬ SameCorrelation (barFinding "|" "||") (barProvenance "|" "||") (barFinding "||" "|")
      (barProvenance "||" "|") := fun h => absurd h.correlationRuleId (by decide)

/-- **Logical keys of Findings keep different correlations apart, and `persist_finding` drops none,
exactly if `|` is not among the characters of the rule identifier, the rule version and the
configuration hash.** -/
theorem findingIdentity_iff (C : Set Char) :
    FindingKeysSeparate C ∧ FindingsNeverDropped C ↔ '|' ∉ C := by
  constructor
  · rintro ⟨hsep, -⟩ hbar
    obtain ⟨hv, hv', hkey⟩ := barFinding_collision
    refine not_sameCorrelation_barFinding (hsep _ _ _ _ hv hv' rfl rfl ⟨?_, ?_, ?_⟩ ⟨?_, ?_, ?_⟩
      hkey) <;>
      · intro c hc
        obtain rfl : c = '|' := by simpa [barProvenance] using hc
        exact hbar
  · intro hbar
    have hsep : FindingKeysSeparate C := fun a b p q ha hb hp hq hop hoq hkey => by
      have ha' := accepted_of_validateFinding hp ha
      have hb' := accepted_of_validateFinding hq hb
      exact sameCorrelation_of_findingKeyText ha' hb' (bar_not_mem_findingFields ha' hbar hop)
        (bar_not_mem_findingFields hb' hbar hoq) hkey
    exact ⟨hsep, findingsNeverDropped_of_separate hsep⟩

/-- Over all texts, two Findings share a key. -/
theorem not_findingKeysSeparate_univ : ¬ FindingKeysSeparate Set.univ := fun h =>
  not_sameCorrelation_barFinding (h _ _ _ _ barFinding_collision.1 barFinding_collision.2.1 rfl rfl
    ⟨by simp, by simp, by simp⟩ ⟨by simp, by simp, by simp⟩ barFinding_collision.2.2)

end Detection

end Cerbero
