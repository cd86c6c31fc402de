import Cerbero.Contracts.Basic

/-!
# Contracts/Signal — the canonical Signal and its validator

Enumerations are carried as their wire numbers, as the generated message has them; the validator
decides which numbers are members.
-/

namespace Cerbero

open Text

/-- `SignalProvenance`. -/
structure SignalProvenance where
  evaluatedAt : Option Timestamp
  executionBackend : ℤ
  deriving DecidableEq, Repr

/-- `SignalInput`: an event that a Signal rests on, with its position among the inputs. -/
structure SignalInput where
  signalId : String
  inputType : ℤ
  inputId : String
  relation : String
  ordinal : ℕ
  deriving DecidableEq, Repr

/-- `Signal`: what a rule has seen, with the events it saw it in and the plan it saw it by. -/
structure Signal where
  signalId : String
  tenantId : String
  ruleId : String
  ruleVersion : String
  ruleType : ℤ
  severity : String
  confidence : Option String
  status : ℤ
  firstObservedAt : Option Timestamp
  lastObservedAt : Option Timestamp
  createdAt : Option Timestamp
  executionMode : ℤ
  sourceCount : ℕ
  eventCount : ℕ
  summary : String
  provenance : Option SignalProvenance
  inputs : List SignalInput
  deriving DecidableEq, Repr

/-! ## Field checks -/

/-- `require_text`. -/
def requireText (field value : String) : Check := rejectIf (isBlank value) field "is required"

def ruleIdPrefix : String := "CER-DET-"

def ruleIdDigits : ℕ := 6

/-- The text `strip_prefix` leaves is `digits` ASCII digits long. -/
def isNumberedId (head value : String) (digits : ℕ) : Bool :=
  (bytes head).isPrefixOf (bytes value) &&
    ((bytes value).drop (bytes head).length).length == digits &&
    ((bytes value).drop (bytes head).length).all isAsciiDigit

/-- `validate_detection_rule_id`. -/
def validateDetectionRuleId (value : String) : Check :=
  rejectIf (!isNumberedId ruleIdPrefix value ruleIdDigits) "rule_id"
    "must match CER-DET-XXXXXX with exactly six ASCII digits"

/-- `timestamp_le`: seconds first, then nanoseconds. -/
def timestampLe (left right : Timestamp) : Bool :=
  left.seconds < right.seconds || left.seconds == right.seconds && left.nanos ≤ right.nanos

/-- The wire number is one of `low` to `high`. -/
def isMember (low high number : ℤ) : Bool := low ≤ number && number ≤ high

/-! ## The validator -/

/-- `validate_signal_input`: the input names its Signal, and its ordinal is its position from zero
on. -/
def validateSignalInput (signalId : String) (input : SignalInput) (expectedOrdinal : ℕ) :
    Check := do
  rejectIf (input.signalId != signalId) "inputs.signal_id"
    "must equal the containing Signal.signal_id"
  rejectIf (!isMember 1 3 input.inputType) "inputs.input_type"
    "must be NORMALIZED_EVENT, SIGNAL, or ENTITY"
  validateUuidV7 "inputs.input_id" input.inputId
  requireText "inputs.relation" input.relation
  rejectIf (UInt32.size ≤ expectedOrdinal) "inputs.ordinal"
    "input list exceeds uint32 ordinal capacity"
  rejectIf (input.ordinal != expectedOrdinal) "inputs.ordinal"
    ("must equal zero-based input position " ++ toString expectedOrdinal)

/-- `validate_signal_identity`: the identifiers of the Signal, its tenant and its rule, and the
enumerations and texts that describe it. -/
def validateSignalIdentity (signal : Signal) : Check := do
  validateUuidV7 "signal_id" signal.signalId
  validateUuidV7 "tenant_id" signal.tenantId
  validateDetectionRuleId signal.ruleId
  requireText "rule_version" signal.ruleVersion
  rejectIf (!isMember 1 3 signal.ruleType) "rule_type" "must be EVENT, THRESHOLD, or CORRELATION"
  requireText "severity" signal.severity
  match signal.confidence with
  | some confidence => requireText "confidence" confidence
  | none => .ok ()
  rejectIf (!isMember 1 4 signal.status) "status"
    "must be ACTIVE, SUPPRESSED, PROMOTED, or INVALIDATED"
  rejectIf (!isMember 1 3 signal.executionMode) "execution_mode"
    "must distinguish LIVE, REPLAY, or TEST"

/-- `validate_signal_times`: the times of the events come together and in order, and there is a
creation time. -/
def validateSignalTimes (signal : Signal) : Check := do
  match signal.firstObservedAt, signal.lastObservedAt with
  | none, none => .ok ()
  | some first, some last =>
    validateTimestamp "first_observed_at" first
    validateTimestamp "last_observed_at" last
    rejectIf (!timestampLe first last) "first_observed_at"
      "must be less than or equal to last_observed_at"
  | _, _ => .error ⟨"first_observed_at",
      "first_observed_at and last_observed_at must both be present or both be absent"⟩
  validateRequiredTimestamp "created_at" signal.createdAt

/-- `validate_signal_counts`. -/
def validateSignalCounts (signal : Signal) : Check := do
  rejectIf (signal.sourceCount == 0) "source_count" "must be greater than zero"
  rejectIf (signal.eventCount == 0) "event_count" "must be greater than zero"
  requireText "summary" signal.summary

/-- `validate_signal_provenance`: there is one, with an evaluation time and one of the two backends.
-/
def validateSignalProvenance (signal : Signal) : Check :=
  match signal.provenance with
  | none => .error ⟨"provenance", "is required"⟩
  | some provenance => do
    validateRequiredTimestamp "provenance.evaluated_at" provenance.evaluatedAt
    rejectIf (!isMember 1 2 provenance.executionBackend) "provenance.execution_backend"
      "must be CLICKHOUSE or STREAM"

/-- The loop of `validate_signal_inputs`: `index` inputs were checked, `unique` holds their
identities.  It returns the number of normalized events among the rest. -/
def checkSignalInputs (signalId : String) : ℕ → List (ℤ × String) → List SignalInput →
    Except ContractViolation ℕ
  | _, _, [] => .ok 0
  | index, unique, input :: inputs => do
    validateSignalInput signalId input index
    rejectIf (unique.contains (input.inputType, input.inputId)) "inputs"
      "must not contain duplicate input_type/input_id pairs"
    let count ← checkSignalInputs signalId (index + 1) ((input.inputType, input.inputId) :: unique)
      inputs
    return (if input.inputType == 1 then 1 else 0) + count

/-- `validate_signal_inputs`. -/
def validateSignalInputs (signal : Signal) : Except ContractViolation ℕ := do
  rejectIf signal.inputs.isEmpty "inputs" "must preserve at least one contributing object"
  checkSignalInputs signal.signalId 0 [] signal.inputs

/-- `validate_signal_rule_counts`; the rule type was checked before. -/
def validateSignalRuleCounts (signal : Signal) (normalizedEventInputs : ℕ) : Check := do
  if signal.ruleType = 3 then return
  if signal.ruleType = 1 then
    rejectIf (normalizedEventInputs != 1 || signal.eventCount != 1) "event_count"
      "EVENT Signals require exactly one NORMALIZED_EVENT input and event_count = 1"
  else
    rejectIf (normalizedEventInputs == 0 || normalizedEventInputs != signal.eventCount)
      "event_count" "THRESHOLD Signals require one input per contributing NormalizedEvent"
  rejectIf (signal.eventCount < signal.sourceCount) "source_count"
    "cannot exceed event_count for EVENT or THRESHOLD Signals"

/-- **`validate_signal`**: identity, times, provenance and inputs, the first failure being the
error. -/
def validateSignal (signal : Signal) : Check := do
  validateSignalIdentity signal
  validateSignalTimes signal
  validateSignalCounts signal
  validateSignalProvenance signal
  let normalizedEventInputs ← validateSignalInputs signal
  validateSignalRuleCounts signal normalizedEventInputs

/-! ## What an accepted Signal satisfies -/

/-- The checks of one accepted input that its place in a key depends on. -/
structure SignalInput.Accepted (signalId : String) (index : ℕ) (input : SignalInput) : Prop where
  signalId_eq : input.signalId = signalId
  inputType_mem : isMember 1 3 input.inputType
  inputId_uuid : validateUuidV7 "inputs.input_id" input.inputId = .ok ()
  relation_text : isBlank input.relation = false
  ordinal_eq : input.ordinal = index

theorem accepted_of_validateSignalInput {signalId : String} {input : SignalInput} {index : ℕ}
    (h : validateSignalInput signalId input index = .ok ()) : input.Accepted signalId index := by
  simp only [validateSignalInput, requireText, check_bind_eq_ok, rejectIf_eq_ok] at h
  obtain ⟨hid, htype, huuid, htext, -, hordinal⟩ := h
  exact
    { signalId_eq := by simpa using hid
      inputType_mem := by simpa using htype
      inputId_uuid := huuid
      relation_text := htext
      ordinal_eq := by simpa using hordinal }

theorem accepted_of_checkSignalInputs {signalId : String} :
    ∀ {inputs : List SignalInput} {index : ℕ} {unique : List (ℤ × String)} {count : ℕ},
      checkSignalInputs signalId index unique inputs = .ok count →
        ∀ (i : ℕ) (input : SignalInput), inputs[i]? = some input →
          input.Accepted signalId (index + i)
  | [], _, _, _, _, i, input, hi => by simp at hi
  | x :: inputs, index, unique, count, h, i, input, hi => by
      rw [checkSignalInputs, check_bind_eq_ok, check_bind_eq_ok] at h
      obtain ⟨hx, -, h⟩ := h
      obtain ⟨rest, hrest, -⟩ := bind_eq_ok.1 h
      cases i with
      | zero =>
        obtain rfl : x = input := by simpa using hi
        exact accepted_of_validateSignalInput hx
      | succ i =>
        have := accepted_of_checkSignalInputs hrest i input (by simpa using hi)
        rwa [show index + (i + 1) = index + 1 + i by omega]

/-- The checks of an accepted Signal that its identity depends on. -/
structure Signal.Accepted (signal : Signal) : Prop where
  tenantId_uuid : validateUuidV7 "tenant_id" signal.tenantId = .ok ()
  ruleId_numbered : isNumberedId ruleIdPrefix signal.ruleId ruleIdDigits
  ruleType_mem : isMember 1 3 signal.ruleType
  executionMode_mem : isMember 1 3 signal.executionMode
  inputs_ne_nil : signal.inputs ≠ []
  inputs_accepted : ∀ (i : ℕ) (input : SignalInput), signal.inputs[i]? = some input →
    input.Accepted signal.signalId i

/-- **An accepted Signal passed its identity and input checks.** -/
theorem accepted_of_validateSignal {signal : Signal} (h : validateSignal signal = .ok ()) :
    signal.Accepted := by
  simp only [validateSignal, check_bind_eq_ok] at h
  obtain ⟨hidentity, -, -, -, h⟩ := h
  obtain ⟨count, hinputs, -⟩ := bind_eq_ok.1 h
  simp only [validateSignalIdentity, validateDetectionRuleId, check_bind_eq_ok,
    rejectIf_eq_ok] at hidentity
  obtain ⟨-, htenant, hrule, -, htype, -, hrest⟩ := hidentity
  have hmode : isMember 1 3 signal.executionMode := by
    cases hc : signal.confidence <;> simp_all
  rw [validateSignalInputs, check_bind_eq_ok, rejectIf_eq_ok] at hinputs
  exact
    { tenantId_uuid := htenant
      ruleId_numbered := by simpa using hrule
      ruleType_mem := by simpa using htype
      executionMode_mem := hmode
      inputs_ne_nil := by simpa using hinputs.1
      inputs_accepted := fun i input hi => by
        simpa using accepted_of_checkSignalInputs hinputs.2 i input hi }

end Cerbero
