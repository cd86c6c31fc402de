import Cerbero.Lib.Message
import Cerbero.Lib.RowLock

/-!
# Worker/Replay — replaying dead letters of the normalizer

`services/cerbero-worker`: which dead letters are replayed (`dlq_replay_policy.go`), the reservation
of an attempt (`replay_state_postgres.go`), the message that is published (`replay_handoff.go`) and
the handling of one delivery (`replay_runtime.go`).  A reservation is a transaction on the row of its
lifecycle and on that lifecycle's ledger of attempts.
-/

namespace Cerbero

namespace Worker

open Text

/-! ## Which dead letters are replayed -/

/-- `normalizationDeadLetter`: what the worker reads of a dead letter. -/
structure NormalizationDeadLetter where
  schemaVersion : String
  dlqRecordId : String
  originalMessageId : Option String
  originalSubject : String
  originalPayloadSha256 : String
  retryable : Bool
  streamSequence : Option UInt64
  replayRootDlqRecordId : Option String
  deriving DecidableEq, Repr

def normalizationDlqSchema : String := "cerbero.normalization_dlq.v1"

def rawPersistedSubject : String := "cerbero.v1.raw.persisted"

def replayExecutionMode : String := "REPLAY"

/-- `replayEligibilityReason`: why a dead letter is replayed or not. -/
inductive ReplayReason
  | eligible
  | disabled
  | invalidRecord
  | unsupportedOrigin
  | permanentFailure
  | sourceUnavailable
  | budgetExhausted
  deriving DecidableEq, Repr

/-- `replayPolicy`. -/
structure ReplayPolicy where
  maxAutomaticAttempts : UInt32
  deriving DecidableEq, Repr

/-- `replayDecision`: whether a dead letter is replayed, where its source is, and the budget it
falls under. -/
structure ReplayDecision where
  eligible : Bool := false
  reason : ReplayReason := .invalidRecord
  maxAttempts : UInt32
  lifecycleKey : String := ""
  replayRootDlqRecordId : String := ""
  sourceDlqRecordId : String
  sourceStreamSequence : UInt64 := 0
  sourcePayloadSha256 : String := ""
  deriving DecidableEq, Repr

/-- `strings.TrimSpace`. -/
def trimSpace (s : String) : String := String.ofList (trim s.toList)

def isLowerHexSha256 (value : String) : Bool :=
  (bytes value).length == 64 &&
    value.toList.all fun ch => ('0' ≤ ch && ch ≤ '9') || ('a' ≤ ch && ch ≤ 'f')

def replayLifecycleKey (replayRootDlqRecordId : String) : String :=
  "normalization-replay:v1:dlq:" ++ replayRootDlqRecordId

/-- The root of a dead letter, if it has one. -/
def replayRoot (letter : NormalizationDeadLetter) : Option String :=
  match letter.replayRootDlqRecordId with
  | none => some (trimSpace letter.dlqRecordId)
  | some root => if trimSpace root = "" then none else some (trimSpace root)

def evaluateNormalizationReplay (letter : NormalizationDeadLetter) (policy : ReplayPolicy) :
    ReplayDecision :=
  let decision : ReplayDecision :=
    { maxAttempts := policy.maxAutomaticAttempts, sourceDlqRecordId := letter.dlqRecordId }
  if policy.maxAutomaticAttempts = 0 then { decision with reason := .disabled }
  else if letter.schemaVersion ≠ normalizationDlqSchema ∨ isBlank letter.dlqRecordId ∨
      isLowerHexSha256 letter.originalPayloadSha256 = false then decision
  else if letter.originalSubject ≠ rawPersistedSubject then
    { decision with reason := .unsupportedOrigin }
  else match letter.streamSequence with
    | none => { decision with reason := .sourceUnavailable }
    | some sequence =>
      if sequence = 0 then { decision with reason := .sourceUnavailable }
      else match replayRoot letter with
        | none => decision
        | some root =>
          { decision with
            lifecycleKey := replayLifecycleKey root
            replayRootDlqRecordId := root
            sourceStreamSequence := sequence
            sourcePayloadSha256 := letter.originalPayloadSha256
            eligible := letter.retryable
            reason := if letter.retryable then .eligible else .permanentFailure }

/-! ## Reservations -/

/-- `replayReservationRequest`: an attempt that is asked for, under the lifecycle of its root. -/
structure ReservationRequest where
  lifecycleKey : String
  replayRootDlqRecordId : String
  sourceDlqRecordId : String
  sourceStreamSequence : UInt64
  maxAttempts : UInt32
  deriving DecidableEq, Repr

/-- `replayReservation`: the attempt that was granted, or that none was. -/
structure Reservation where
  reserved : Bool
  attempt : UInt32
  maxAttempts : UInt32
  lifecycleKey : String
  replayRootDlqRecordId : String
  deriving DecidableEq, Repr

/-- What a reservation fails with: `errReplayStateConflict`, or any other error. -/
inductive ReserveError
  | conflict
  | invalid (reason : String)
  | database (reason : String)
  deriving DecidableEq, Repr

def validateReplayReservationRequest (request : ReservationRequest) : Except String Unit :=
  if isBlank request.replayRootDlqRecordId then .error "replay root DLQ record id is required"
  else if request.lifecycleKey ≠ replayLifecycleKey request.replayRootDlqRecordId then
    .error "replay lifecycle key does not match replay root"
  else if isBlank request.sourceDlqRecordId then .error "source DLQ record id is required"
  else if request.sourceStreamSequence = 0 then .error "source stream sequence must be positive"
  else if request.maxAttempts = 0 then .error "replay max attempts must be positive"
  else .ok ()

def replayReservationRequestFromDecision (decision : ReplayDecision) :
    Except String ReservationRequest :=
  if decision.eligible = false then .error "replay decision is not eligible"
  else
    let request : ReservationRequest := ⟨decision.lifecycleKey, decision.replayRootDlqRecordId,
      decision.sourceDlqRecordId, decision.sourceStreamSequence, decision.maxAttempts⟩
    (validateReplayReservationRequest request).map fun _ => request

/-! ## Tables -/

/-- The columns of `system.normalization_dlq_replay_state`. -/
structure ReplayColumns where
  lifecycleKey : String
  replayRootDlqRecordId : String
  consumedAttempts : ℤ
  maxAttempts : ℤ
  lastSourceDlqRecordId : String
  lastSourceStreamSequence : ℕ
  deriving DecidableEq, Repr

/-- `char_length(text) > 0 AND octet_length(text) <= n`. -/
def fits (n : ℕ) (text : String) : Bool := text ≠ "" && (bytes text).length ≤ n

/-- The check a state breaks, if any.  The check on the times of reservations is left out: a
transaction may fail at any point. -/
def ReplayColumns.violation (columns : ReplayColumns) : Option String :=
  if fits 256 columns.lifecycleKey = false then
    some "normalization_dlq_replay_state_lifecycle_key_check"
  else if fits 128 columns.replayRootDlqRecordId = false then
    some "normalization_dlq_replay_state_root_check"
  else if fits 128 columns.lastSourceDlqRecordId = false then
    some "normalization_dlq_replay_state_source_record_check"
  else if columns.consumedAttempts < 0 then some "normalization_dlq_replay_state_consumed_check"
  else if columns.maxAttempts < 1 ∨ 4294967295 < columns.maxAttempts then
    some "normalization_dlq_replay_state_max_check"
  else if columns.maxAttempts < columns.consumedAttempts then
    some "normalization_dlq_replay_state_budget_check"
  else if columns.lastSourceStreamSequence < 1 ∨
      18446744073709551615 < columns.lastSourceStreamSequence then
    some "normalization_dlq_replay_state_stream_sequence_check"
  else none

/-- A stored state. -/
structure ReplayState extends ReplayColumns where
  checked : toReplayColumns.violation = none

/-- Store a state. -/
def ReplayColumns.store (columns : ReplayColumns) : Except ReserveError ReplayState :=
  match h : columns.violation with
  | none => .ok ⟨columns, h⟩
  | some check => .error (.database check)

/-- A row of `system.normalization_dlq_replay_attempt`. -/
structure LedgerRow where
  sourceDlqRecordId : String
  attempt : ℤ
  sourceStreamSequence : ℕ
  deriving DecidableEq, Repr

/-- What the tables hold of one lifecycle; the ledger in the order it was written. -/
structure Lifecycle where
  state : Option ReplayState
  ledger : List LedgerRow

/-- `length(btrim(text))`. -/
def btrimLength (text : String) : ℕ :=
  ((text.toList.dropWhile (· == ' ')).reverse.dropWhile (· == ' ')).length

/-- The constraint a new row of the ledger breaks, if any. -/
def ledgerViolation (key : String) (ledger : List LedgerRow) (row : LedgerRow) : Option String :=
  if btrimLength key < 1 ∨ 512 < btrimLength key then
    some "normalization_dlq_replay_attempt_lifecycle_key_ck"
  else if btrimLength row.sourceDlqRecordId < 1 ∨ 256 < btrimLength row.sourceDlqRecordId then
    some "normalization_dlq_replay_attempt_source_dlq_record_id_ck"
  else if row.attempt < 1 ∨ 4294967295 < row.attempt then
    some "normalization_dlq_replay_attempt_attempt_ck"
  else if row.sourceStreamSequence < 1 ∨ 18446744073709551615 < row.sourceStreamSequence then
    some "normalization_dlq_replay_attempt_source_stream_sequence_ck"
  else if ledger.any fun entry => entry.sourceDlqRecordId == row.sourceDlqRecordId then
    some "normalization_dlq_replay_attempt_pkey"
  else if ledger.any fun entry => entry.attempt == row.attempt then
    some "normalization_dlq_replay_attempt_lifecycle_key_attempt_key"
  else none

/-! ## The transaction -/

/-- The state of a lifecycle: `INSERT ... ON CONFLICT DO NOTHING`, then `SELECT ... FOR UPDATE`. -/
def initialState (request : ReservationRequest) (lifecycle : Lifecycle) :
    Except ReserveError ReplayState :=
  match lifecycle.state with
  | some state => .ok state
  | none => ReplayColumns.store ⟨request.lifecycleKey, request.replayRootDlqRecordId, 0,
      request.maxAttempts.toNat, request.sourceDlqRecordId, request.sourceStreamSequence.toNat⟩

/-- The answer to a request. -/
def reservationFor (request : ReservationRequest) (reserved : Bool) (attempt : ℤ) : Reservation :=
  ⟨reserved, UInt32.ofNat attempt.toNat, request.maxAttempts, request.lifecycleKey,
    request.replayRootDlqRecordId⟩

/-- The attempt a source has already. -/
def LedgerRow.reuse (entry : LedgerRow) (request : ReservationRequest) (state : ReplayState) :
    Except ReserveError Reservation :=
  if entry.sourceStreamSequence ≠ request.sourceStreamSequence.toNat ∨ entry.attempt ≤ 0 ∨
      state.maxAttempts < entry.attempt ∨ state.consumedAttempts < entry.attempt then
    .error .conflict
  else .ok (reservationFor request true entry.attempt)

/-- The rows a new attempt writes. -/
def nextAttempt (request : ReservationRequest) (state : ReplayState) (ledger : List LedgerRow) :
    Except ReserveError (ReplayState × LedgerRow) := do
  let state' ← ReplayColumns.store { state.toReplayColumns with
    consumedAttempts := state.consumedAttempts + 1
    lastSourceDlqRecordId := request.sourceDlqRecordId
    lastSourceStreamSequence := request.sourceStreamSequence.toNat }
  let entry : LedgerRow := ⟨request.sourceDlqRecordId, state'.consumedAttempts,
    request.sourceStreamSequence.toNat⟩
  match ledgerViolation request.lifecycleKey ledger entry with
  | some check => .error (.database check)
  | none => return (state', entry)

/-- **The transaction of `reserveAttempt`**: only a new attempt is committed. -/
def reserve (request : ReservationRequest) (lifecycle : Lifecycle) :
    Decision Lifecycle (Except ReserveError Reservation) :=
  match initialState request lifecycle with
  | .error e => .rollback (.error e)
  | .ok state =>
    if state.replayRootDlqRecordId ≠ request.replayRootDlqRecordId ∨
        state.maxAttempts ≠ request.maxAttempts.toNat then .rollback (.error .conflict)
    else if state.consumedAttempts < 0 ∨ state.maxAttempts < state.consumedAttempts then
      .rollback (.error .conflict)
    else match lifecycle.ledger.find? fun entry =>
        entry.sourceDlqRecordId == request.sourceDlqRecordId with
      | some entry => .rollback (entry.reuse request state)
      | none =>
        if state.maxAttempts ≤ state.consumedAttempts then
          .rollback (.ok (reservationFor request false state.consumedAttempts))
        else match nextAttempt request state lifecycle.ledger with
          | .error e => .rollback (.error e)
          | .ok (state', entry) => .commit ⟨some state', lifecycle.ledger ++ [entry]⟩
              (.ok (reservationFor request true entry.attempt))

/-! ## The handoff -/

/-- A message of the raw stream. -/
structure RawMessage where
  sequence : UInt64
  subject : String
  requestId : String
  data : List UInt8
  deriving DecidableEq, Repr

/-- A replay message, with its headers. -/
structure ReplayMessage where
  requestId : Option String
  messageId : String
  executionMode : String
  replayRootDlqRecordId : String
  attempt : String
  sourceDlqRecordId : String
  sourceStreamSequence : String
  data : List UInt8
  deriving DecidableEq, Repr

def replayNatsMessageId (replayRootDlqRecordId : String) (attempt : ℕ) : String :=
  "normalization-replay:v1:" ++ replayRootDlqRecordId ++ ":" ++ toString attempt

section

variable (sha256LowerHex : List UInt8 → String)

/-- `validateReplaySourceBeforeReservation`: the message that was found is the one of the dead
letter, by its place, its subject and its digest. -/
def validateReplaySource (source : RawMessage) (decision : ReplayDecision) : Except String Unit :=
  if source.sequence ≠ decision.sourceStreamSequence then
    .error ("raw replay source sequence = " ++ toString source.sequence.toNat ++ ", want " ++
      toString decision.sourceStreamSequence.toNat)
  else if source.subject ≠ rawPersistedSubject then
    .error ("raw replay source subject = " ++ quote (bytes source.subject) ++ ", want " ++
      quote (bytes rawPersistedSubject))
  else if sha256LowerHex source.data ≠ decision.sourcePayloadSha256 then
    .error "raw replay source payload SHA-256 does not match DLQ record"
  else .ok ()

def buildSelectiveReplayMessage (source : RawMessage) (decision : ReplayDecision)
    (reservation : Reservation) : Except String ReplayMessage := do
  if decision.eligible = false then .error "replay decision is not eligible"
  if reservation.reserved = false then .error "replay attempt was not reserved"
  if reservation.lifecycleKey ≠ decision.lifecycleKey ∨
      reservation.replayRootDlqRecordId ≠ decision.replayRootDlqRecordId ∨
      reservation.maxAttempts ≠ decision.maxAttempts then
    .error "replay reservation does not match replay decision"
  if reservation.attempt = 0 ∨ reservation.maxAttempts < reservation.attempt then
    .error "reserved replay attempt is outside captured budget"
  validateReplaySource sha256LowerHex source decision
  return {
    requestId := if source.requestId = "" then none else some source.requestId
    messageId := replayNatsMessageId decision.replayRootDlqRecordId reservation.attempt.toNat
    executionMode := replayExecutionMode
    replayRootDlqRecordId := decision.replayRootDlqRecordId
    attempt := toString reservation.attempt.toNat
    sourceDlqRecordId := decision.sourceDlqRecordId
    sourceStreamSequence := toString decision.sourceStreamSequence.toNat
    data := source.data }

/-! ## One delivery -/

/-- What `getSource` finds; `nothing` is a null message without an error. -/
inductive SourceReply
  | found (source : RawMessage)
  | nothing
  | notFound
  | failed

/-- `jetstream.PubAck`. -/
structure PubAck where
  stream : String
  sequence : UInt64
  deriving DecidableEq, Repr

/-- The operations of a worker besides its transactions. -/
inductive Effect
  | getSource (sequence : UInt64)
  | publish (message : ReplayMessage)
  | doubleAck
  | nakWithDelay

/-- What an operation answers; `publish` answers nothing if it fails. -/
@[reducible] def Effect.Response : Effect → Type
  | getSource _ => SourceReply
  | publish _ => Option PubAck
  | doubleAck => Bool
  | nakWithDelay => Bool

/-- What an operation does to the messages published so far.  A publication that fails may have
reached the stream. -/
def Effect.Outcome : (o : Effect) → List ReplayMessage → o.Response → List ReplayMessage → Prop
  | getSource _, sent, _, sent' => sent' = sent
  | publish message, sent, reply, sent' =>
      sent' = sent ++ [message] ∨ reply = none ∧ sent' = sent
  | doubleAck, sent, _, sent' => sent' = sent
  | nakWithDelay, sent, _, sent' => sent' = sent

/-- The worker's service: lifecycles by their key, and the messages published so far. -/
@[reducible] def replayService : Service String Lifecycle (List ReplayMessage) where
  Call := ReservationRequest
  Result := Except ReserveError Reservation
  key := ReservationRequest.lifecycleKey
  body := reserve
  effects := ⟨Effect, Effect.Response⟩
  EffectOutcome := Effect.Outcome

def reserveAttempt (request : ReservationRequest) :
    Prog replayService.interface (Except ReserveError Reservation) :=
  match validateReplayReservationRequest request with
  | .error reason => return .error (.invalid reason)
  | .ok () => do
    match ← @Prog.call replayService.interface (.transact request) with
    | none => return .error (.database "transaction")
    | some result => return result

/-- `ack`; what the server says of a failed acknowledgement is left out of the error. -/
def ack : Prog replayService.interface (Except String Unit) := do
  if ← @Prog.call replayService.interface (.effect .doubleAck) then return .ok ()
  else return .error "ack normalization DLQ message"

/-- `nak` after a stage of the handling. -/
def nak (stage : String) : Prog replayService.interface (Except String Unit) := do
  if ← @Prog.call replayService.interface (.effect .nakWithDelay) then return .ok ()
  else return .error ("NAK normalization DLQ message after " ++ stage)

/-- Publish the replay of a reserved attempt. -/
def handOff (source : RawMessage) (decision : ReplayDecision) (reservation : Reservation) :
    Prog replayService.interface (Except String Unit) :=
  match buildSelectiveReplayMessage sha256LowerHex source decision reservation with
  | .error _ => ack
  | .ok message => do
    match ← @Prog.call replayService.interface (.effect (.publish message)) with
    | none => nak "publish selective replay"
    | some pubAck =>
      if pubAck.stream ≠ "CERBERO_RAW" ∨ pubAck.sequence = 0 then
        nak "validate selective replay PubAck"
      else ack

/-- Check the source, reserve an attempt and publish its replay. -/
def replaySource (source : RawMessage) (decision : ReplayDecision) :
    Prog replayService.interface (Except String Unit) :=
  match validateReplaySource sha256LowerHex source decision with
  | .error _ => ack
  | .ok () =>
    match replayReservationRequestFromDecision decision with
    | .error _ => ack
    | .ok request => do
      match ← reserveAttempt request with
      | .error .conflict => ack
      | .error _ => nak "reserve replay attempt"
      | .ok reservation =>
        if reservation.reserved = false then ack
        else handOff sha256LowerHex source decision reservation

/-- A delivery: the policy of the worker that got it, and what `json.Unmarshal` makes of it. -/
structure Delivery where
  policy : ReplayPolicy
  letter : Option NormalizationDeadLetter

/-- **`handle`**: one delivery of a dead letter. -/
def handle (delivery : Delivery) : Prog replayService.interface (Except String Unit) :=
  match delivery.letter with
  | none => ack
  | some letter =>
    let decision := evaluateNormalizationReplay letter delivery.policy
    if decision.eligible = false then ack
    else do
      match ← @Prog.call replayService.interface
        (.effect (.getSource decision.sourceStreamSequence)) with
      | .notFound => ack
      | .failed => nak "raw source lookup"
      | .nothing => ack
      | .found source => replaySource sha256LowerHex source decision

end

end Worker

end Cerbero
