import Mathlib.Data.String.Basic
import Mathlib.Data.List.Forall2
import Cerbero.Contracts.Envelope
import Cerbero.Contracts.Finding
import Cerbero.Lib.SortedMap

/-!
# Detection/Repository — storing Signals and Findings once per logical identity

An analytical object is stored under the SHA-256 of a text made of its identity fields
(`signalKeyText`, `findingKeyText`).  If the key is taken, nothing is written and the object already
stored under it is returned.  A failed call leaves the tables as they were: each call is one
transaction.
-/

namespace Cerbero

namespace Detection

/-! ## Logical keys -/

/-- One input of a Signal in its key: `|{ordinal}:{input_type}:{input_id}:{relation}`. -/
def signalInputKeyText (input : SignalInput) : String :=
  "|" ++ toString input.ordinal ++ ":" ++ toString input.inputType ++ ":" ++ input.inputId ++ ":" ++
    input.relation

/-- The string `signal_logical_key` hashes. -/
def signalKeyText (signal : Signal) : String :=
  signal.inputs.foldl (fun value input => value ++ signalInputKeyText input)
    (signal.tenantId ++ "|" ++ signal.ruleId ++ "|" ++ signal.ruleVersion ++ "|" ++
      toString signal.ruleType ++ "|" ++ toString signal.executionMode)

/-- The string `finding_logical_key` hashes. -/
def findingKeyText (finding : Finding) (provenance : FindingCorrelationProvenance) : String :=
  provenance.inputIds.foldl (fun value inputId => value ++ "|" ++ inputId)
    (finding.tenantId ++ "|" ++ provenance.correlationRuleId ++ "|" ++
      provenance.correlationRuleVersion ++ "|" ++ toString finding.executionMode ++ "|" ++
      provenance.configurationHash)

/-- `RuntimeError`. -/
structure RuntimeError where
  message : String
  deriving DecidableEq, Repr

/-- `PostgresAnalyticalRepository`, with the functions it links against. -/
structure AnalyticalRepository where
  componentVersion : String
  instanceId : String
  sha256LowerHex : List UInt8 → String
  signalWire : Wire Signal
  findingWire : Wire Finding

/-- `signal_logical_key`. -/
def signalLogicalKey (repository : AnalyticalRepository) (signal : Signal) : String :=
  repository.sha256LowerHex (Text.bytes (signalKeyText signal))

/-- `finding_logical_key`: the digest of the tenant, the rule, the mode, the configuration and the
inputs a correlation was found by. -/
def findingLogicalKey (repository : AnalyticalRepository) (finding : Finding) :
    Except RuntimeError String :=
  match finding.correlationProvenance with
  | none => .error ⟨"correlation provenance is required"⟩
  | some provenance =>
    .ok (repository.sha256LowerHex (Text.bytes (findingKeyText finding provenance)))

/-! ## Tables -/

/-- A row of `detection.signals` or `investigation.findings`, under its logical key. -/
structure AnalyticalRow where
  objectId : String
  tenantId : String
  createdAt : Timestamp
  payload : List UInt8
  deriving DecidableEq, Repr

/-- A row of `system.outbox`. -/
structure OutboxRow where
  subject : String
  envelope : CerberoEnvelope
  deriving DecidableEq, Repr

/-- The tables of the analytical runtime. -/
structure AnalyticalStore where
  signals : SortedMap String AnalyticalRow
  signalInputs : List (String × SignalInput)
  findings : SortedMap String AnalyticalRow
  findingInputs : List (String × FindingInput)
  findingProvenance : List (String × FindingCorrelationProvenance)
  outbox : List OutboxRow

/-- The tables before the first call. -/
def AnalyticalStore.empty : AnalyticalStore :=
  ⟨SortedMap.empty, [], SortedMap.empty, [], [], []⟩

/-- `INSERT … ON CONFLICT (logical_key) DO NOTHING`, with the identifier as primary key: whether a
row was inserted, and the table after it. -/
def insertOnce (table : SortedMap String AnalyticalRow) (logicalKey : String)
    (row : AnalyticalRow) : Except RuntimeError (Bool × SortedMap String AnalyticalRow) :=
  match table.get? logicalKey with
  | some _ => .ok (false, table)
  | none =>
    if table.toList.any fun entry => entry.2.objectId == row.objectId then
      .error ⟨"duplicate key value violates unique constraint"⟩
    else .ok (true, table.insert logicalKey row)

/-! ## Calls -/

/-- `runtime_error` around a contract violation. -/
def runtimeError (violation : ContractViolation) : RuntimeError :=
  ⟨violation.field ++ ": " ++ violation.reason⟩

/-- `timestamp_parts`. -/
def timestampParts (value : Option Timestamp) (field : String) : Except RuntimeError Timestamp :=
  match value with
  | none => .error ⟨field ++ " is required"⟩
  | some timestamp => .ok timestamp

/-- `EnvelopeSpec`. -/
structure EnvelopeSpec where
  messageType : String
  payloadSchema : String
  typeUrl : String

/-- `envelope`; the message identifier is the generated one. -/
def envelope (repository : AnalyticalRepository) (messageId : String) (spec : EnvelopeSpec)
    (tenantId : String) (emittedAt : Option Timestamp) (value : List UInt8) :
    Except RuntimeError CerberoEnvelope := do
  let envelope : CerberoEnvelope :=
    { contractVersion := "1"
      messageId := messageId
      messageType := spec.messageType
      tenantId := tenantId
      producer := some ⟨"cerbero-detection-runtime", repository.componentVersion,
        repository.instanceId⟩
      emittedAt := emittedAt
      traceId := ""
      causationId := ""
      correlationId := ""
      payloadSchema := spec.payloadSchema
      payload := some ⟨spec.typeUrl, value⟩ }
  (validateEnvelope envelope).mapError runtimeError
  return envelope

/-- The read-back of a stored object. -/
def readBack {M : Type} (wire : Wire M) (table : SortedMap String AnalyticalRow)
    (logicalKey : String) : Except RuntimeError M :=
  match table.get? logicalKey with
  | none => .error ⟨"query returned an unexpected number of rows"⟩
  | some row =>
    match wire.decode row.payload with
    | none => .error ⟨"failed to decode Protobuf message"⟩
    | some object => .ok object

/-- The rows of `detection.signal_inputs`; an ordinal has to fit an `i32`. -/
def signalInputRows (signal : Signal) : Except RuntimeError (List (String × SignalInput)) :=
  if signal.inputs.any fun input => 2 ^ 31 ≤ input.ordinal then
    .error ⟨"out of range integral type conversion attempted"⟩
  else .ok (signal.inputs.map fun input => (uuidText signal.signalId, input))

/-- `persist_signal`, one transaction: a valid Signal is inserted under its logical key, with its
inputs and the message in the outbox; if the key is taken, what is stored there is returned. -/
def persistSignal (repository : AnalyticalRepository) (messageId : String)
    (store : AnalyticalStore) (signal : Signal) :
    Except RuntimeError (AnalyticalStore × Signal) := do
  (validateSignal signal).mapError runtimeError
  let logicalKey := signalLogicalKey repository signal
  let payload := repository.signalWire.encode signal
  let createdAt ← timestampParts signal.createdAt "signal.created_at"
  let (inserted, signals) ← insertOnce store.signals logicalKey
    ⟨uuidText signal.signalId, uuidText signal.tenantId, createdAt, payload⟩
  if inserted then
    let inputs ← signalInputRows signal
    let message ← envelope repository messageId
      ⟨"SignalCreated", "cerbero.signal.v1", "type.googleapis.com/cerbero.contracts.v1.Signal"⟩
      signal.tenantId signal.createdAt payload
    let stored ← readBack repository.signalWire signals logicalKey
    return ({ store with
      signals := signals
      signalInputs := store.signalInputs ++ inputs
      outbox := store.outbox ++ [⟨"cerbero.v1.signal.created", message⟩] }, stored)
  else
    return (store, ← readBack repository.signalWire signals logicalKey)

/-- `persist_finding`, one transaction: the same of a Finding, with its inputs and its provenance.
-/
def persistFinding (repository : AnalyticalRepository) (messageId : String)
    (store : AnalyticalStore) (finding : Finding) :
    Except RuntimeError (AnalyticalStore × Finding) := do
  (validateFinding finding).mapError runtimeError
  let logicalKey ← findingLogicalKey repository finding
  let payload := repository.findingWire.encode finding
  let createdAt ← timestampParts finding.createdAt "finding.created_at"
  let (inserted, findings) ← insertOnce store.findings logicalKey
    ⟨uuidText finding.findingId, uuidText finding.tenantId, createdAt, payload⟩
  if inserted then
    let message ← envelope repository messageId
      ⟨"FindingCreated", "cerbero.finding.v1", "type.googleapis.com/cerbero.contracts.v1.Finding"⟩
      finding.tenantId finding.createdAt payload
    let stored ← readBack repository.findingWire findings logicalKey
    return ({ store with
      findings := findings
      findingInputs := store.findingInputs ++
        finding.inputs.map fun input => (uuidText finding.findingId, input)
      findingProvenance := store.findingProvenance ++
        finding.correlationProvenance.toList.map fun p => (uuidText finding.findingId, p)
      outbox := store.outbox ++ [⟨"cerbero.v1.finding.created", message⟩] }, stored)
  else
    return (store, ← readBack repository.findingWire findings logicalKey)

/-! ## Runs -/

section

variable {M : Type}

/-- The tables after a call: a failed call changes nothing. -/
def afterCall (store : AnalyticalStore) : Except RuntimeError (AnalyticalStore × M) → AnalyticalStore
  | .ok (store', _) => store'
  | .error _ => store

/-- The answers to a list of calls, made one after the other with their message identifiers. -/
def runCalls (persist : String → AnalyticalStore → M → Except RuntimeError (AnalyticalStore × M)) :
    AnalyticalStore → List (String × M) → List (Except RuntimeError M)
  | _, [] => []
  | store, (messageId, object) :: calls =>
    (persist messageId store object).map Prod.snd ::
      runCalls persist (afterCall store (persist messageId store object)) calls

/-- **A run keeps what every call keeps**: if each call preserves `Inv` and relates its answer to its
object, so does the run. -/
theorem forall₂_runCalls
    {persist : String → AnalyticalStore → M → Except RuntimeError (AnalyticalStore × M)}
    (Inv : AnalyticalStore → Prop) (R : M → M → Prop) :
    ∀ {calls : List (String × M)} {store : AnalyticalStore},
      (∀ messageId object, (messageId, object) ∈ calls → ∀ store store' stored, Inv store →
        persist messageId store object = .ok (store', stored) → Inv store' ∧ R stored object) →
      Inv store →
        List.Forall₂ (fun call answer => ∀ stored, answer = .ok stored → R stored call.2) calls
          (runCalls persist store calls)
  | [], _, _, _ => .nil
  | (messageId, object) :: calls, store, hstep, hinv => by
      have hstep' := fun m o hm => hstep m o (List.mem_cons_of_mem _ hm)
      have hhere := hstep messageId object List.mem_cons_self store
      rw [runCalls]
      cases hcall : persist messageId store object with
      | error e =>
        exact .cons (fun stored h => by simp [Except.map] at h) (forall₂_runCalls Inv R hstep' hinv)
      | ok r =>
        obtain ⟨store', answer⟩ := r
        obtain ⟨hinv', hR⟩ := hhere store' answer hinv hcall
        refine .cons (fun stored h => ?_) (forall₂_runCalls Inv R hstep' hinv')
        obtain rfl : answer = stored := by simpa [Except.map] using h
        exact hR

end

/-! ## What a call does -/

/-- An insertion adds at most its own row. -/
theorem insertOnce_eq_ok {table table' : SortedMap String AnalyticalRow} {logicalKey : String}
    {row : AnalyticalRow} {inserted : Bool}
    (h : insertOnce table logicalKey row = .ok (inserted, table')) :
    (inserted = false → table' = table) ∧
      ∀ key row', table'.get? key = some row' →
        table.get? key = some row' ∨ (key = logicalKey ∧ row' = row) := by
  rw [insertOnce] at h
  split at h
  · obtain ⟨rfl, rfl⟩ := Prod.mk.inj (Except.ok.inj h)
    exact ⟨fun _ => rfl, fun key row' hrow => Or.inl hrow⟩
  · split_ifs at h
    obtain ⟨rfl, rfl⟩ := Prod.mk.inj (Except.ok.inj h)
    refine ⟨fun hfalse => by simp at hfalse, fun key row' hrow => ?_⟩
    rw [SortedMap.get?_insert] at hrow
    split_ifs at hrow with hkey
    · exact Or.inr ⟨hkey, (Option.some.inj hrow).symm⟩
    · exact Or.inl hrow

/-- What is read back is what a row holds. -/
theorem readBack_eq_ok {M : Type} {wire : Wire M} {table : SortedMap String AnalyticalRow}
    {logicalKey : String} {object : M} (h : readBack wire table logicalKey = .ok object) :
    ∃ row, table.get? logicalKey = some row ∧ wire.decode row.payload = some object := by
  rw [readBack] at h
  cases hget : table.get? logicalKey with
  | none => simp [hget] at h
  | some row =>
    cases hdecode : wire.decode row.payload with
    | none => simp [hget, hdecode] at h
    | some object' =>
      simp only [hget, hdecode, Except.ok.injEq] at h
      exact ⟨row, rfl, h ▸ hdecode⟩

/-- **What `persist_signal` writes and returns**: at most one row, under the key of the Signal, and
the object stored under that key. -/
theorem persistSignal_eq_ok {repository : AnalyticalRepository} {messageId : String}
    {store store' : AnalyticalStore} {signal stored : Signal}
    (h : persistSignal repository messageId store signal = .ok (store', stored)) :
    validateSignal signal = .ok () ∧
      (∃ row, store'.signals.get? (signalLogicalKey repository signal) = some row ∧
        repository.signalWire.decode row.payload = some stored) ∧
      ∀ key row, store'.signals.get? key = some row → store.signals.get? key = some row ∨
        (key = signalLogicalKey repository signal ∧
          row.payload = repository.signalWire.encode signal) := by
  rw [persistSignal, check_bind_eq_ok, mapError_eq_ok] at h
  obtain ⟨hvalid, h⟩ := h
  obtain ⟨createdAt, -, h⟩ := bind_eq_ok.1 h
  obtain ⟨⟨inserted, signals⟩, hinsert, h⟩ := bind_eq_ok.1 h
  obtain ⟨hsame, hrows⟩ := insertOnce_eq_ok hinsert
  have hrows' : ∀ key row, signals.get? key = some row → store.signals.get? key = some row ∨
      (key = signalLogicalKey repository signal ∧
        row.payload = repository.signalWire.encode signal) := fun key row hrow =>
    (hrows key row hrow).imp_right fun ⟨hkey, hrow⟩ => ⟨hkey, by rw [hrow]⟩
  cases inserted with
  | false =>
    obtain ⟨object, hread, h⟩ := bind_eq_ok.1 h
    obtain ⟨rfl, rfl⟩ := Prod.mk.inj (Except.ok.inj h)
    refine ⟨hvalid, ?_, fun key row hrow => Or.inl hrow⟩
    rw [← hsame rfl]
    exact readBack_eq_ok hread
  | true =>
    obtain ⟨inputs, -, h⟩ := bind_eq_ok.1 h
    obtain ⟨message, -, h⟩ := bind_eq_ok.1 h
    obtain ⟨object, hread, h⟩ := bind_eq_ok.1 h
    obtain ⟨rfl, rfl⟩ := Prod.mk.inj (Except.ok.inj h)
    exact ⟨hvalid, readBack_eq_ok hread, hrows'⟩

/-- **What `persist_finding` writes and returns.** -/
theorem persistFinding_eq_ok {repository : AnalyticalRepository} {messageId : String}
    {store store' : AnalyticalStore} {finding stored : Finding}
    (h : persistFinding repository messageId store finding = .ok (store', stored)) :
    validateFinding finding = .ok () ∧
      ∃ logicalKey, findingLogicalKey repository finding = .ok logicalKey ∧
        (∃ row, store'.findings.get? logicalKey = some row ∧
          repository.findingWire.decode row.payload = some stored) ∧
        ∀ key row, store'.findings.get? key = some row → store.findings.get? key = some row ∨
          (key = logicalKey ∧ row.payload = repository.findingWire.encode finding) := by
  rw [persistFinding, check_bind_eq_ok, mapError_eq_ok] at h
  obtain ⟨hvalid, h⟩ := h
  obtain ⟨logicalKey, hkey, h⟩ := bind_eq_ok.1 h
  obtain ⟨createdAt, -, h⟩ := bind_eq_ok.1 h
  obtain ⟨⟨inserted, findings⟩, hinsert, h⟩ := bind_eq_ok.1 h
  obtain ⟨hsame, hrows⟩ := insertOnce_eq_ok hinsert
  have hrows' : ∀ key row, findings.get? key = some row → store.findings.get? key = some row ∨
      (key = logicalKey ∧ row.payload = repository.findingWire.encode finding) :=
    fun key row hrow => (hrows key row hrow).imp_right fun ⟨hkey, hrow⟩ => ⟨hkey, by rw [hrow]⟩
  refine ⟨hvalid, logicalKey, hkey, ?_⟩
  cases inserted with
  | false =>
    obtain ⟨object, hread, h⟩ := bind_eq_ok.1 h
    obtain ⟨rfl, rfl⟩ := Prod.mk.inj (Except.ok.inj h)
    refine ⟨?_, fun key row hrow => Or.inl hrow⟩
    rw [← hsame rfl]
    exact readBack_eq_ok hread
  | true =>
    obtain ⟨message, -, h⟩ := bind_eq_ok.1 h
    obtain ⟨object, hread, h⟩ := bind_eq_ok.1 h
    obtain ⟨rfl, rfl⟩ := Prod.mk.inj (Except.ok.inj h)
    exact ⟨readBack_eq_ok hread, hrows'⟩

end Detection

end Cerbero
