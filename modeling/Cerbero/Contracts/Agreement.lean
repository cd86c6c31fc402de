import Cerbero.Contracts.Finding
import Cerbero.Contracts.Validation

/-!
# Contracts/Agreement — both languages accept the same messages

The Go validators of `Signal` and `Finding`, written from their own source over Go's pointers, maps
and slices, and **`validators_agree`**: for each of the five contracts the two validators accept the
same messages.  The order of the checks differs, and so do the texts; what is rejected does not.
-/

namespace Cerbero

namespace Validation

open Text

/-! ## Text -/

/-- `unicode.IsSpace`: its own list for Latin-1, the `White_Space` table for the rest. -/
def isSpace (c : Char) : Bool :=
  let n := c.toNat
  if n ≤ 0xff then
    n == 0x09 || n == 0x0a || n == 0x0b || n == 0x0c || n == 0x0d || n == 0x20 || n == 0x85 ||
      n == 0xa0
  else n == 0x1680 || (0x2000 ≤ n && n ≤ 0x200a) || (0x2028 ≤ n && n ≤ 0x2029) || n == 0x202f ||
    n == 0x205f || n == 0x3000

/-- `requireSignalText` and `requireFindingText`: `strings.TrimSpace` leaves something. -/
def text (field value : String) : Check := rejectIf (value.toList.all isSpace) field "is required"

/-- A text that may be absent. -/
def optionalText (field : String) : Option String → Check
  | none => .ok ()
  | some value => text field value

/-- `validateDetectionRuleID`.  A rune that is not ASCII is no digit, and neither is its first
byte. -/
def detectionRuleId (value : String) : Check := do
  rejectIf (!(bytes ruleIdPrefix).isPrefixOf (bytes value) ||
    (bytes value).length != (bytes ruleIdPrefix).length + 6) "rule_id"
      "must match CER-DET-XXXXXX with exactly six ASCII digits"
  rejectIf (((bytes value).drop (bytes ruleIdPrefix).length).any fun value =>
    value < 0x30 || 0x39 < value) "rule_id"
      "must match CER-DET-XXXXXX with exactly six ASCII digits"

/-! ## Signals -/

/-- `validateSignalInput`: the input has to be there, name its Signal, stand at its position and say
by which relation it contributed. -/
def signalInput (signalId : String) (expectedOrdinal : ℕ) : Option SignalInput → Check
  | none => .error ⟨"inputs", "must not contain nil entries"⟩
  | some input => do
    rejectIf (input.signalId != signalId) "inputs.signal_id"
      "must equal the containing Signal.signal_id"
    rejectIf (input.inputType < 1 || 3 < input.inputType) "inputs.input_type"
      "must be NORMALIZED_EVENT, SIGNAL, or ENTITY"
    uuidV7 "inputs.input_id" input.inputId
    text "inputs.relation" input.relation
    rejectIf (input.ordinal != expectedOrdinal) "inputs.ordinal"
      "must equal its zero-based input position"

/-- The loop over the inputs: `seen` holds the keys and `normalizedEventInputs` the count so far. -/
def signalInputs (signalId : String) : ℕ → List (ℤ × String) → ℕ → List SignalInput →
    Except ContractViolation ℕ
  | _, _, normalizedEventInputs, [] => .ok normalizedEventInputs
  | index, seen, normalizedEventInputs, input :: inputs => do
    rejectIf (UInt32.size ≤ index) "inputs.ordinal" "input list exceeds uint32 ordinal capacity"
    signalInput signalId (index % UInt32.size) (some input)
    rejectIf (seen.contains (input.inputType, input.inputId)) "inputs"
      "must not contain duplicate input_type/input_id pairs"
    signalInputs signalId (index + 1) ((input.inputType, input.inputId) :: seen)
      (if input.inputType == 1 then normalizedEventInputs + 1 else normalizedEventInputs) inputs

/-- The two times of an observation. -/
def observedTimes (signal : Signal) : Check :=
  match signal.firstObservedAt, signal.lastObservedAt with
  | none, none => .ok ()
  | some first, some last => do
    timestamp "first_observed_at" (some first)
    timestamp "last_observed_at" (some last)
    rejectIf (last.seconds < first.seconds ||
      first.seconds == last.seconds && last.nanos < first.nanos) "first_observed_at"
        "must be less than or equal to last_observed_at"
  | _, _ => .error ⟨"first_observed_at",
      "first_observed_at and last_observed_at must both be present or both be absent"⟩

/-- The provenance of a Signal. -/
def signalProvenance : Option SignalProvenance → Check
  | none => .error ⟨"provenance", "is required"⟩
  | some provenance => do
    timestamp "provenance.evaluated_at" provenance.evaluatedAt
    rejectIf (provenance.executionBackend < 1 || 2 < provenance.executionBackend)
      "provenance.execution_backend" "must be CLICKHOUSE or STREAM"

/-- The counts each rule type asks for. -/
def signalRuleCounts (signal : Signal) (normalizedEventInputs : ℕ) : Check :=
  if signal.ruleType = 1 then do
    rejectIf (normalizedEventInputs != 1 || signal.eventCount != 1) "event_count"
      "EVENT Signals require exactly one NORMALIZED_EVENT input and event_count = 1"
    rejectIf (signal.eventCount < signal.sourceCount) "source_count"
      "cannot exceed event_count for EVENT Signals"
  else if signal.ruleType = 2 then do
    rejectIf (normalizedEventInputs == 0 || normalizedEventInputs != signal.eventCount)
      "event_count" "THRESHOLD Signals require one input per contributing NormalizedEvent"
    rejectIf (signal.eventCount < signal.sourceCount) "source_count"
      "cannot exceed event_count for THRESHOLD Signals"
  else .ok ()

/-- **`Signal`**: the identity of a Signal, its times, its inputs one by one and, where it is told,
its source count. -/
def signal : Option Signal → Check
  | none => .error ⟨"signal", "is required"⟩
  | some signal => do
    uuidV7 "signal_id" signal.signalId
    uuidV7 "tenant_id" signal.tenantId
    detectionRuleId signal.ruleId
    text "rule_version" signal.ruleVersion
    rejectIf (signal.ruleType < 1 || 3 < signal.ruleType) "rule_type"
      "must be EVENT, THRESHOLD, or CORRELATION"
    text "severity" signal.severity
    optionalText "confidence" signal.confidence
    rejectIf (signal.status < 1 || 4 < signal.status) "status"
      "must be ACTIVE, SUPPRESSED, PROMOTED, or INVALIDATED"
    observedTimes signal
    timestamp "created_at" signal.createdAt
    rejectIf (signal.executionMode < 1 || 3 < signal.executionMode) "execution_mode"
      "must distinguish LIVE, REPLAY, or TEST"
    rejectIf (signal.sourceCount == 0) "source_count" "must be greater than zero"
    rejectIf (signal.eventCount == 0) "event_count" "must be greater than zero"
    text "summary" signal.summary
    signalProvenance signal.provenance
    rejectIf signal.inputs.isEmpty "inputs" "must preserve at least one contributing object"
    let normalizedEventInputs ← signalInputs signal.signalId 0 [] 0 signal.inputs
    signalRuleCounts signal normalizedEventInputs

/-! ## Findings -/

/-- `timestampLE`. -/
def timestampLE (left right : Timestamp) : Bool :=
  if left.seconds != right.seconds then left.seconds < right.seconds else left.nanos ≤ right.nanos

/-- `validateFindingPair`: two texts of which both are there or neither is, as the type and the
identifier of a source are. -/
def findingPair (firstField : String) (first : Option String) (secondField : String)
    (second : Option String) : Check :=
  match first, second with
  | none, none => .ok ()
  | some first, some second => do
    text firstField first
    text secondField second
  | _, _ => .error ⟨firstField,
      firstField ++ " and " ++ secondField ++ " must both be present or both be absent"⟩

/-- `validateFindingInput`: the input has to be there, name its Finding and be told by its type and
identifier. -/
def findingInput (findingId : String) : Option FindingInput → Check
  | none => .error ⟨"inputs", "must not contain nil entries"⟩
  | some input => do
    rejectIf (input.findingId != findingId) "inputs.finding_id"
      "must equal the containing Finding.finding_id"
    text "inputs.input_type" input.inputType
    uuidV7 "inputs.input_id" input.inputId
    text "inputs.relation" input.relation

/-- The loop over the inputs; it collects `findingInputIDs`. -/
def findingInputs (findingId : String) : List (String × String × String) → List String →
    List FindingInput → Except ContractViolation (List String)
  | _, findingInputIds, [] => .ok findingInputIds
  | exactRelations, findingInputIds, input :: inputs => do
    findingInput findingId (some input)
    rejectIf (exactRelations.contains (input.inputType, input.inputId, input.relation)) "inputs"
      "must not contain duplicate input_type/input_id/relation entries"
    findingInputs findingId ((input.inputType, input.inputId, input.relation) :: exactRelations)
      (input.inputId :: findingInputIds) inputs

/-- The loop over the identities of a correlation. -/
def provenanceInputIds (findingInputIds : List String) : List String → List String → Check
  | _, [] => .ok ()
  | seen, inputId :: inputIds => do
    uuidV7 "correlation_provenance.input_ids" inputId
    rejectIf (seen.contains inputId) "correlation_provenance.input_ids"
      "must not contain duplicate object identities"
    rejectIf (!findingInputIds.contains inputId) "correlation_provenance.input_ids"
      "every correlation input_id must be backed by Finding.inputs"
    provenanceInputIds findingInputIds (inputId :: seen) inputIds

/-- `GetSeconds` and `GetNanos` of a timestamp that may be nil. -/
def timestampOrZero (value : Option Timestamp) : Timestamp := value.getD ⟨0, 0⟩

/-- `validateFindingCorrelationProvenance`. -/
def findingCorrelationProvenance (finding : Finding) (provenance : FindingCorrelationProvenance)
    (findingInputIds : List String) : Check := do
  rejectIf finding.correlationRuleId.isNone "correlation_rule_id"
    "is required for CORRELATION Findings"
  rejectIf finding.correlationRuleVersion.isNone "correlation_rule_version"
    "is required for CORRELATION Findings"
  rejectIf (provenance.correlationRuleId != finding.correlationRuleId.getD "")
    "correlation_provenance.correlation_rule_id" "must equal Finding.correlation_rule_id"
  rejectIf (provenance.correlationRuleVersion != finding.correlationRuleVersion.getD "")
    "correlation_provenance.correlation_rule_version" "must equal Finding.correlation_rule_version"
  timestamp "correlation_provenance.window_start" provenance.windowStart
  timestamp "correlation_provenance.window_end" provenance.windowEnd
  rejectIf (!timestampLE (timestampOrZero provenance.windowStart)
    (timestampOrZero provenance.windowEnd)) "correlation_provenance.window_start"
      "must be less than or equal to window_end"
  rejectIf provenance.inputIds.isEmpty "correlation_provenance.input_ids"
    "must preserve at least one contributing object identity"
  provenanceInputIds findingInputIds [] provenance.inputIds
  rejectIf (provenance.outputFindingId != finding.findingId)
    "correlation_provenance.output_finding_id" "must equal Finding.finding_id"
  rejectIf (provenance.executionBackend < 1 || 2 < provenance.executionBackend)
    "correlation_provenance.execution_backend" "must be CLICKHOUSE or STREAM"
  rejectIf (provenance.executionMode != finding.executionMode)
    "correlation_provenance.execution_mode" "must equal Finding.execution_mode"
  text "correlation_provenance.configuration_hash" provenance.configurationHash

/-- The two times of a Finding. -/
def seenTimes (finding : Finding) : Check :=
  match finding.firstSeen, finding.lastSeen with
  | none, none => .ok ()
  | some first, some last => do
    timestamp "first_seen" (some first)
    timestamp "last_seen" (some last)
    rejectIf (!timestampLE first last) "first_seen" "must be less than or equal to last_seen"
  | _, _ => .error ⟨"first_seen",
      "first_seen and last_seen must both be present or both be absent"⟩

/-- The switch over the type of a Finding. -/
def findingProvenance (finding : Finding) (findingInputIds : List String) : Check :=
  if finding.findingType = 1 ∨ finding.findingType = 2 then do
    rejectIf (finding.primaryRuleId.isNone || finding.primaryRuleVersion.isNone) "primary_rule_id"
      "DETECTION and THRESHOLD Findings require primary rule identity/version"
    rejectIf finding.correlationProvenance.isSome "correlation_provenance"
      "is only valid for CORRELATION Findings"
  else if finding.findingType = 3 then
    match finding.correlationProvenance with
    | none => .error ⟨"correlation_provenance", "is required for CORRELATION Findings"⟩
    | some provenance => findingCorrelationProvenance finding provenance findingInputIds
  else if finding.findingType = 4 then
    rejectIf finding.correlationProvenance.isSome "correlation_provenance"
      "is only valid for CORRELATION Findings"
  else .ok ()

/-- **`Finding`**: the identity of a Finding, its texts, its enumerations, its times, its inputs and
the provenance its type asks for. -/
def finding : Option Finding → Check
  | none => .error ⟨"finding", "is required"⟩
  | some finding => do
    uuidV7 "finding_id" finding.findingId
    uuidV7 "tenant_id" finding.tenantId
    rejectIf (finding.findingType < 1 || 4 < finding.findingType) "finding_type"
      "must be DETECTION, THRESHOLD, CORRELATION, or ANALYTICAL"
    rejectIf (finding.status < 1 || 5 < finding.status) "status"
      "must be OPEN, ACKNOWLEDGED, SUPPRESSED, RESOLVED, or INVALIDATED"
    text "severity" finding.severity
    optionalText "confidence" finding.confidence
    text "title" finding.title
    text "description" finding.description
    seenTimes finding
    timestamp "created_at" finding.createdAt
    timestamp "updated_at" finding.updatedAt
    findingPair "primary_rule_id" finding.primaryRuleId "primary_rule_version"
      finding.primaryRuleVersion
    findingPair "correlation_rule_id" finding.correlationRuleId "correlation_rule_version"
      finding.correlationRuleVersion
    rejectIf (finding.disposition < 1 || 6 < finding.disposition) "disposition"
      ("must be UNDETERMINED, TRUE_POSITIVE, BENIGN_TRUE_POSITIVE, FALSE_POSITIVE, DUPLICATE, " ++
        "or TEST_ACTIVITY")
    rejectIf (finding.executionMode < 1 || 3 < finding.executionMode) "execution_mode"
      "must distinguish LIVE, REPLAY, or TEST"
    rejectIf finding.inputs.isEmpty "inputs" "must preserve at least one contributing object"
    let findingInputIds ← findingInputs finding.findingId [] [] finding.inputs
    findingProvenance finding findingInputIds

/-! ## Field by field -/

theorem isSpace_eq (c : Char) : isSpace c = isWhitespace c := by
  rw [Bool.eq_iff_iff]
  simp only [isSpace, isWhitespace]
  split
  · simp only [Bool.or_eq_true, Bool.and_eq_true, beq_iff_eq, decide_eq_true_eq]
    omega
  · simp only [Bool.or_eq_true, Bool.and_eq_true, beq_iff_eq, decide_eq_true_eq]
    omega

@[simp] theorem text_iff {field value : String} :
    text field value = .ok () ↔ requireText field value = .ok () := by
  have hspace : isSpace = isWhitespace := funext isSpace_eq
  rw [text, requireText, isBlank, hspace]

@[simp] theorem outside_eq_false {low high number : ℤ} :
    (decide (number < low) || decide (high < number)) = false ↔
      (!isMember low high number) = false := by
  simp only [isMember, Bool.or_eq_false_iff, decide_eq_false_iff_not, Bool.not_eq_false',
    Bool.and_eq_true, decide_eq_true_eq]
  omega

@[simp] theorem timestamp_some_iff {field : String} {value : Timestamp} :
    timestamp field (some value) = .ok () ↔ validateTimestamp field value = .ok () := by
  simp only [timestamp, validateTimestamp, check_bind_eq_ok, rejectIf_eq_ok,
    Bool.or_eq_false_iff, decide_eq_false_iff_not, Bool.not_eq_false', Bool.and_eq_true,
    decide_eq_true_eq]
  omega

@[simp] theorem timestamp_iff {field : String} {value : Option Timestamp} :
    timestamp field value = .ok () ↔ validateRequiredTimestamp field value = .ok () := by
  match value with
  | none => simp [timestamp, validateRequiredTimestamp]
  | some value => rw [timestamp_some_iff, validateRequiredTimestamp]

@[simp] theorem optionalTimestamp_iff {field : String} {value : Option Timestamp} :
    optionalTimestamp field value = .ok () ↔ validateOptionalTimestamp field value = .ok () := by
  match value with
  | none => rfl
  | some value => rw [optionalTimestamp, timestamp_some_iff, validateOptionalTimestamp]

theorem sha256Metadata_iff {algorithmField hashField algorithm hash : String} :
    sha256Metadata algorithmField hashField algorithm hash = .ok () ↔
      validateSha256Metadata algorithmField hashField algorithm hash = .ok () := by
  simp only [sha256Metadata, validateSha256Metadata, check_bind_eq_ok, rejectIf_eq_ok,
    isAsciiDigit, Bool.or_eq_false_iff, List.any_eq_false, Bool.not_eq_true', Bool.not_eq_false',
    List.all_eq_true, not_and_or, Bool.not_eq_false, Bool.or_eq_true]

theorem timestampLE_eq (left right : Timestamp) :
    timestampLE left right = timestampLe left right := by
  rw [Bool.eq_iff_iff]
  simp only [timestampLE, timestampLe]
  split
  · rename_i hne
    simp only [bne_iff_ne] at hne
    simp only [Bool.or_eq_true, Bool.and_eq_true, beq_iff_eq, decide_eq_true_eq]
    omega
  · rename_i heq
    simp only [bne_iff_ne, ne_eq, not_not] at heq
    simp only [Bool.or_eq_true, Bool.and_eq_true, beq_iff_eq, decide_eq_true_eq]
    omega

theorem detectionRuleId_iff {value : String} :
    detectionRuleId value = .ok () ↔ validateDetectionRuleId value = .ok () := by
  have hdigit : (fun b : UInt8 => (decide (b < 0x30) || decide (0x39 < b))) =
      fun b => !isAsciiDigit b := by
    funext b
    rw [Bool.eq_iff_iff]
    simp only [isAsciiDigit, Bool.or_eq_true, decide_eq_true_eq, Bool.not_eq_true',
      Bool.and_eq_false_iff, decide_eq_false_iff_not, UInt8.lt_iff_toNat_lt,
      UInt8.le_iff_toNat_le]
    omega
  simp only [detectionRuleId, validateDetectionRuleId, isNumberedId, check_bind_eq_ok,
    rejectIf_eq_ok, hdigit, Bool.or_eq_false_iff, Bool.not_eq_false', bne_eq_false_iff_eq,
    Bool.and_eq_true, beq_iff_eq, List.any_eq_false, Bool.not_eq_true, List.all_eq_true,
    List.length_drop, ruleIdDigits]
  constructor
  · rintro ⟨⟨hstart, hlength⟩, hdigits⟩
    exact ⟨⟨hstart, by omega⟩, hdigits⟩
  · rintro ⟨⟨hstart, hlength⟩, hdigits⟩
    exact ⟨⟨hstart, by omega⟩, hdigits⟩

/-! ## Signals -/

theorem signalInput_iff {signalId : String} {index : ℕ} {input : SignalInput} :
    (rejectIf (UInt32.size ≤ index) "inputs.ordinal"
        "input list exceeds uint32 ordinal capacity" = .ok () ∧
      signalInput signalId (index % UInt32.size) (some input) = .ok ()) ↔
      validateSignalInput signalId input index = .ok () := by
  simp only [signalInput, validateSignalInput, check_bind_eq_ok, rejectIf_eq_ok, outside_eq_false,
    uuidV7_eq, text_iff]
  constructor
  · rintro ⟨hsize, hid, htype, huuid, htext, hordinal⟩
    rw [Nat.mod_eq_of_lt (by simpa using hsize)] at hordinal
    exact ⟨hid, htype, huuid, htext, hsize, hordinal⟩
  · rintro ⟨hid, htype, huuid, htext, hsize, hordinal⟩
    rw [Nat.mod_eq_of_lt (by simpa using hsize)]
    exact ⟨hsize, hid, htype, huuid, htext, hordinal⟩

/-- The loops agree at every state they can be in. -/
theorem signalInputs_iff {signalId : String} : ∀ {inputs : List SignalInput} {index : ℕ}
    {seen : List (ℤ × String)} {n total : ℕ},
    signalInputs signalId index seen n inputs = .ok total ↔
      ∃ count, checkSignalInputs signalId index seen inputs = .ok count ∧ total = n + count
  | [], index, seen, n, total => by
      simp [signalInputs, checkSignalInputs, eq_comm]
  | input :: inputs, index, seen, n, total => by
      have hcount : (if input.inputType == 1 then n + 1 else n) =
          n + if input.inputType == 1 then 1 else 0 := by
        split <;> rfl
      rw [signalInputs, checkSignalInputs, check_bind_eq_ok, check_bind_eq_ok, check_bind_eq_ok,
        hcount, signalInputs_iff, ← and_assoc, signalInput_iff]
      constructor
      · rintro ⟨hinput, hseen, count, hrest, rfl⟩
        refine ⟨_, ?_, (Nat.add_assoc _ _ _)⟩
        rw [check_bind_eq_ok, check_bind_eq_ok]
        exact ⟨hinput, hseen, by rw [hrest]; rfl⟩
      · rintro ⟨count, h, rfl⟩
        rw [check_bind_eq_ok, check_bind_eq_ok] at h
        obtain ⟨hinput, hseen, h⟩ := h
        obtain ⟨rest, hrest, hcount⟩ := bind_eq_ok.1 h
        obtain rfl := Except.ok.inj hcount
        exact ⟨hinput, hseen, rest, hrest, (Nat.add_assoc _ _ _).symm⟩

theorem observedTimes_iff {signal : Signal} :
    (observedTimes signal = .ok () ∧ timestamp "created_at" signal.createdAt = .ok ()) ↔
      validateSignalTimes signal = .ok () := by
  have hlater : ∀ first last : Timestamp, (decide (last.seconds < first.seconds) ||
      first.seconds == last.seconds && decide (last.nanos < first.nanos)) =
        !timestampLe first last := by
    intro first last
    rw [Bool.eq_iff_iff]
    simp only [timestampLe, Bool.or_eq_true, Bool.and_eq_true, beq_iff_eq, decide_eq_true_eq,
      Bool.not_eq_true', Bool.or_eq_false_iff, Bool.and_eq_false_iff, decide_eq_false_iff_not,
      beq_eq_false_iff_ne]
    omega
  unfold observedTimes validateSignalTimes
  match signal.firstObservedAt, signal.lastObservedAt with
  | none, none => simp
  | some first, some last =>
    simp only [check_bind_eq_ok, rejectIf_eq_ok, hlater, timestamp_iff, validateRequiredTimestamp,
      and_assoc]
  | none, some _ => simp
  | some _, none => simp

theorem signalProvenance_iff {signal : Signal} :
    signalProvenance signal.provenance = .ok () ↔ validateSignalProvenance signal = .ok () := by
  unfold validateSignalProvenance
  match signal.provenance with
  | none => simp [signalProvenance]
  | some provenance =>
    simp only [signalProvenance, check_bind_eq_ok, rejectIf_eq_ok, timestamp_iff, outside_eq_false]

theorem signalRuleCounts_iff {signal : Signal} {n : ℕ} (htype : isMember 1 3 signal.ruleType) :
    signalRuleCounts signal n = .ok () ↔ validateSignalRuleCounts signal n = .ok () := by
  have hcases : signal.ruleType = 1 ∨ signal.ruleType = 2 ∨ signal.ruleType = 3 := by
    simp only [isMember, Bool.and_eq_true, decide_eq_true_eq] at htype
    omega
  unfold signalRuleCounts validateSignalRuleCounts
  obtain h | h | h := hcases
  · simp [h]
  · simp [h]
  · simp only [h]
    exact Iff.rfl

theorem signalIdentityCheck_iff {s : Signal} : validateSignalIdentity s = .ok () ↔
    uuidV7 "signal_id" s.signalId = .ok () ∧ uuidV7 "tenant_id" s.tenantId = .ok () ∧
      detectionRuleId s.ruleId = .ok () ∧ text "rule_version" s.ruleVersion = .ok () ∧
      (!isMember 1 3 s.ruleType) = false ∧ text "severity" s.severity = .ok () ∧
      optionalText "confidence" s.confidence = .ok () ∧ (!isMember 1 4 s.status) = false ∧
      (!isMember 1 3 s.executionMode) = false := by
  unfold validateSignalIdentity
  match s.confidence with
  | none =>
    simp only [check_bind_eq_ok, rejectIf_eq_ok, uuidV7_eq, text_iff, detectionRuleId_iff,
      optionalText]
  | some confidence =>
    simp only [check_bind_eq_ok, rejectIf_eq_ok, uuidV7_eq, text_iff, detectionRuleId_iff,
      optionalText]

/-- The same Signals are accepted; the execution mode is checked earlier in Rust. -/
theorem signal_iff {s : Signal} : signal (some s) = .ok () ↔ validateSignal s = .ok () := by
  simp only [signal, validateSignal, validateSignalCounts, validateSignalInputs, check_bind_eq_ok,
    rejectIf_eq_ok, outside_eq_false, signalIdentityCheck_iff, ← observedTimes_iff,
    ← signalProvenance_iff, text_iff]
  constructor
  · rintro ⟨hid, htenant, hrule, hversion, htype, hseverity, hconfidence, hstatus, htimes, hcreated,
      hmode, hsource, hevent, hsummary, hprovenance, hinputs, hrest⟩
    obtain ⟨total, htotal, hcounts⟩ := bind_eq_ok.1 hrest
    obtain ⟨count, hcount, rfl⟩ := signalInputs_iff.1 htotal
    refine ⟨⟨hid, htenant, hrule, hversion, htype, hseverity, hconfidence, hstatus, hmode⟩,
      ⟨htimes, hcreated⟩, ⟨hsource, hevent, hsummary⟩, hprovenance, ?_⟩
    rw [Nat.zero_add, signalRuleCounts_iff (by simpa using htype)] at hcounts
    exact bind_eq_ok.2 ⟨count, check_bind_eq_ok.2 ⟨rejectIf_eq_ok.2 hinputs, hcount⟩, hcounts⟩
  · rintro ⟨⟨hid, htenant, hrule, hversion, htype, hseverity, hconfidence, hstatus, hmode⟩,
      ⟨htimes, hcreated⟩, ⟨hsource, hevent, hsummary⟩, hprovenance, hrest⟩
    obtain ⟨count, hcount, hcounts⟩ := bind_eq_ok.1 hrest
    obtain ⟨hinputs, hcount⟩ := check_bind_eq_ok.1 hcount
    rw [← signalRuleCounts_iff (by simpa using htype)] at hcounts
    refine ⟨hid, htenant, hrule, hversion, htype, hseverity, hconfidence, hstatus, htimes, hcreated,
      hmode, hsource, hevent, hsummary, hprovenance, rejectIf_eq_ok.1 hinputs, ?_⟩
    exact bind_eq_ok.2 ⟨count, signalInputs_iff.2 ⟨count, hcount, (Nat.zero_add _).symm⟩, hcounts⟩

/-! ## Findings -/

theorem findingPair_iff {firstField secondField : String} {first second : Option String} :
    findingPair firstField first secondField second = .ok () ↔
      validateOptionalPair firstField first secondField second = .ok () := by
  match first, second with
  | none, none => simp [findingPair, validateOptionalPair]
  | some first, some second =>
    simp only [findingPair, validateOptionalPair, check_bind_eq_ok, text_iff]
  | none, some _ => simp [findingPair, validateOptionalPair]
  | some _, none => simp [findingPair, validateOptionalPair]

theorem findingInput_iff {findingId : String} {input : FindingInput} :
    findingInput findingId (some input) = .ok () ↔
      validateFindingInput findingId input = .ok () := by
  simp only [findingInput, validateFindingInput, check_bind_eq_ok, rejectIf_eq_ok, uuidV7_eq,
    text_iff]

/-- The loops agree at every state they can be in. -/
theorem findingInputs_iff {findingId : String} : ∀ {inputs : List FindingInput}
    {relations : List (String × String × String)} {ids all : List String},
    findingInputs findingId relations ids inputs = .ok all ↔
      checkFindingInputs findingId relations inputs = .ok () ∧
        all = (inputs.map FindingInput.inputId).reverse ++ ids
  | [], relations, ids, all => by
      simp [findingInputs, checkFindingInputs, eq_comm]
  | input :: inputs, relations, ids, all => by
      rw [findingInputs, checkFindingInputs, check_bind_eq_ok, check_bind_eq_ok, check_bind_eq_ok,
        check_bind_eq_ok, findingInput_iff, findingInputs_iff, List.map_cons, List.reverse_cons,
        List.append_assoc, List.singleton_append, and_assoc, and_assoc]

/-- Only the set of the identities matters. -/
theorem provenanceInputIds_iff {ids ids' : List String} (hids : ∀ id, id ∈ ids ↔ id ∈ ids') :
    ∀ {inputIds seen : List String}, provenanceInputIds ids seen inputIds = .ok () ↔
      checkProvenanceIds ids' seen inputIds = .ok ()
  | [], _ => by simp [provenanceInputIds, checkProvenanceIds]
  | inputId :: inputIds, seen => by
      have hcontains : ids.contains inputId = ids'.contains inputId := by
        rw [Bool.eq_iff_iff, List.contains_iff_mem, List.contains_iff_mem, hids]
      simp only [provenanceInputIds, checkProvenanceIds, check_bind_eq_ok, uuidV7_eq, hcontains,
        provenanceInputIds_iff hids]

theorem seenTimes_iff {f : Finding} : seenTimes f = .ok () ↔ validateSeenPair f = .ok () := by
  unfold seenTimes validateSeenPair
  match f.firstSeen, f.lastSeen with
  | none, none => exact Iff.rfl
  | some first, some last =>
    simp only [check_bind_eq_ok, rejectIf_eq_ok, timestampLE_eq, timestamp_iff,
      validateRequiredTimestamp]
  | none, some _ => exact Iff.rfl
  | some _, none => exact Iff.rfl

theorem findingCorrelationProvenance_iff {f : Finding} {provenance : FindingCorrelationProvenance}
    {ids : List String} (hids : ∀ id, id ∈ ids ↔ id ∈ f.inputs.map FindingInput.inputId) :
    findingCorrelationProvenance f provenance ids = .ok () ↔
      validateCorrelationProvenance f provenance = .ok () := by
  have hrule : (f.correlationRuleId.isNone = false ∧ f.correlationRuleVersion.isNone = false ∧
      (provenance.correlationRuleId != f.correlationRuleId.getD "") = false ∧
      (provenance.correlationRuleVersion != f.correlationRuleVersion.getD "") = false) ↔
      validateProvenanceRule f provenance = .ok () := by
    unfold validateProvenanceRule
    match f.correlationRuleId, f.correlationRuleVersion with
    | none, _ => simp
    | some _, none => simp
    | some _, some _ => simp
  have hwindow : (validateRequiredTimestamp "correlation_provenance.window_start"
        provenance.windowStart = .ok () ∧
      validateRequiredTimestamp "correlation_provenance.window_end" provenance.windowEnd = .ok () ∧
      (!timestampLE (timestampOrZero provenance.windowStart)
        (timestampOrZero provenance.windowEnd)) = false) ↔
      validateProvenanceWindow provenance = .ok () := by
    unfold validateProvenanceWindow
    match provenance.windowStart, provenance.windowEnd with
    | none, _ => simp [validateRequiredTimestamp]
    | some _, none => simp [validateRequiredTimestamp]
    | some _, some _ =>
      simp only [check_bind_eq_ok, rejectIf_eq_ok, timestampLE_eq, validateRequiredTimestamp,
        timestampOrZero, Option.getD_some]
  simp only [findingCorrelationProvenance, validateCorrelationProvenance, check_bind_eq_ok,
    rejectIf_eq_ok, timestamp_iff, provenanceInputIds_iff hids, outside_eq_false, text_iff,
    ← hrule, ← hwindow, and_assoc]

theorem findingProvenance_iff {f : Finding} {ids : List String}
    (hids : ∀ id, id ∈ ids ↔ id ∈ f.inputs.map FindingInput.inputId)
    (htype : isMember 1 4 f.findingType) :
    findingProvenance f ids = .ok () ↔ validateTypeSpecificProvenance f = .ok () := by
  have hcases : f.findingType = 1 ∨ f.findingType = 2 ∨ f.findingType = 3 ∨ f.findingType = 4 := by
    simp only [isMember, Bool.and_eq_true, decide_eq_true_eq] at htype
    omega
  unfold findingProvenance validateTypeSpecificProvenance
  obtain h | h | h | h := hcases
  · simp [h]
  · simp [h]
  · match f.correlationProvenance with
    | none => simp [h]
    | some provenance => simp [h, findingCorrelationProvenance_iff hids]
  · simp [h]

/-- What Rust checks before the inputs of a Finding, in the terms of the Go checks. -/
theorem findingHead_iff {f : Finding} : validateFinding f = .ok () ↔
    uuidV7 "finding_id" f.findingId = .ok () ∧ uuidV7 "tenant_id" f.tenantId = .ok () ∧
      (!isMember 1 4 f.findingType) = false ∧ (!isMember 1 5 f.status) = false ∧
      text "severity" f.severity = .ok () ∧ optionalText "confidence" f.confidence = .ok () ∧
      text "title" f.title = .ok () ∧ text "description" f.description = .ok () ∧
      seenTimes f = .ok () ∧ (timestamp "created_at" f.createdAt = .ok () ∧
        timestamp "updated_at" f.updatedAt = .ok ()) ∧
      findingPair "primary_rule_id" f.primaryRuleId "primary_rule_version"
        f.primaryRuleVersion = .ok () ∧
      findingPair "correlation_rule_id" f.correlationRuleId "correlation_rule_version"
        f.correlationRuleVersion = .ok () ∧
      (!isMember 1 6 f.disposition) = false ∧ (!isMember 1 3 f.executionMode) = false ∧
      validateInputs f = .ok () ∧ validateTypeSpecificProvenance f = .ok () := by
  unfold validateFinding validateRequiredTimes
  match f.confidence with
  | none =>
    simp only [check_bind_eq_ok, rejectIf_eq_ok, uuidV7_eq, text_iff, timestamp_iff, seenTimes_iff,
      findingPair_iff, optionalText]
  | some confidence =>
    simp only [check_bind_eq_ok, rejectIf_eq_ok, uuidV7_eq, text_iff, timestamp_iff, seenTimes_iff,
      findingPair_iff, optionalText]

/-- The same Findings are accepted. -/
theorem finding_iff {f : Finding} : finding (some f) = .ok () ↔ validateFinding f = .ok () := by
  have hids : ∀ id, id ∈ (f.inputs.map FindingInput.inputId).reverse ++ [] ↔
      id ∈ f.inputs.map FindingInput.inputId := by
    simp
  simp only [finding, findingHead_iff, validateInputs, check_bind_eq_ok, rejectIf_eq_ok,
    outside_eq_false]
  constructor
  · rintro ⟨hid, htenant, htype, hstatus, hseverity, hconfidence, htitle, hdescription, hseen,
      hcreated, hupdated, hprimary, hcorrelation, hdisposition, hmode, hinputs, hrest⟩
    obtain ⟨ids, hids', hprovenance⟩ := bind_eq_ok.1 hrest
    obtain ⟨hloop, rfl⟩ := findingInputs_iff.1 hids'
    rw [findingProvenance_iff hids (by simpa using htype)] at hprovenance
    exact ⟨hid, htenant, htype, hstatus, hseverity, hconfidence, htitle, hdescription, hseen,
      ⟨hcreated, hupdated⟩, hprimary, hcorrelation, hdisposition, hmode, ⟨hinputs, hloop⟩,
      hprovenance⟩
  · rintro ⟨hid, htenant, htype, hstatus, hseverity, hconfidence, htitle, hdescription, hseen,
      ⟨hcreated, hupdated⟩, hprimary, hcorrelation, hdisposition, hmode, ⟨hinputs, hloop⟩,
      hprovenance⟩
    rw [← findingProvenance_iff hids (by simpa using htype)] at hprovenance
    exact ⟨hid, htenant, htype, hstatus, hseverity, hconfidence, htitle, hdescription, hseen,
      hcreated, hupdated, hprimary, hcorrelation, hdisposition, hmode, hinputs,
      bind_eq_ok.2 ⟨_, findingInputs_iff.2 ⟨hloop, rfl⟩, hprovenance⟩⟩

/-! ## Envelopes and raw evidence -/

theorem envelope_iff {e : CerberoEnvelope} :
    envelope (some e) = .ok () ↔ validateEnvelope e = .ok () := by
  match hproducer : e.producer with
  | none =>
    simp only [envelope, validateEnvelope, hproducer, check_bind_eq_ok, rejectIf_eq_ok, uuidV7_eq,
      timestamp_iff, requireNonEmpty]
  | some producer =>
    simp only [envelope, validateEnvelope, hproducer, check_bind_eq_ok, rejectIf_eq_ok, uuidV7_eq,
      timestamp_iff, requireNonEmpty]

theorem rawEvent_iff (sha256LowerHex : List UInt8 → String) {e : RawEvent} :
    rawEvent sha256LowerHex e = .ok () ↔ validateRawEvent sha256LowerHex e = .ok () := by
  simp only [rawEvent, validateRawEvent, sha256, validateSha256, check_bind_eq_ok, rejectIf_eq_ok,
    uuidV7_eq, timestamp_iff, optionalTimestamp_iff, sha256Metadata_iff]

theorem rawEventPersisted_iff {e : RawEventPersisted} :
    rawEventPersisted e = .ok () ↔ validateRawEventPersisted e = .ok () := by
  simp only [rawEventPersisted, validateRawEventPersisted, check_bind_eq_ok, rejectIf_eq_ok,
    uuidV7_eq, timestamp_iff, optionalTimestamp_iff, sha256Metadata_iff]

end Validation

open Validation in
/-- **The validators agree**: each message is accepted by both or by neither. -/
theorem validators_agree (sha256LowerHex : List UInt8 → String) :
    (∀ s : Signal, validateSignal s = .ok () ↔ signal (some s) = .ok ()) ∧
    (∀ f : Finding, validateFinding f = .ok () ↔ finding (some f) = .ok ()) ∧
    (∀ e : CerberoEnvelope, validateEnvelope e = .ok () ↔ envelope (some e) = .ok ()) ∧
    (∀ e : RawEvent,
      validateRawEvent sha256LowerHex e = .ok () ↔ rawEvent sha256LowerHex e = .ok ()) ∧
    ∀ e : RawEventPersisted,
      validateRawEventPersisted e = .ok () ↔ rawEventPersisted e = .ok () :=
  ⟨fun _ => signal_iff.symm, fun _ => finding_iff.symm, fun _ => envelope_iff.symm,
    fun _ => (rawEvent_iff sha256LowerHex).symm, fun _ => rawEventPersisted_iff.symm⟩

end Cerbero
