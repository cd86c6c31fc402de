import Cerbero.Lib.Serial
import Cerbero.Normalizer.DeadLetter

/-!
# Normalizer/Delivery — one delivery of a message

`handle_message` of `runtime.rs` with the two ways it fails: a failure is recorded and the message
comes back later, or its dead letter is published and the message is terminated.  What is decided is
decided from the stored row, at each delivery anew.
-/

namespace Cerbero

namespace Normalizer

open Text
open Prog (attempt checked)

/-! ## Configuration -/

/-- `ReplayInput`. -/
inductive ReplayInput
  | historical
  | selective
  deriving DecidableEq, Repr

/-- `normalizer_consumer_name`: live, historical replay, selective replay and test each have a
consumer of their own. -/
def normalizerConsumerName : ExecutionMode → ReplayInput → Outcome String
  | .live, _ => .ok "normalizer"
  | .replay, .historical => .ok "normalizer-replay"
  | .replay, .selective => .ok "normalizer-replay-selective"
  | .test, _ => .ok "normalizer-test"
  | .unspecified, _ => .error
      ⟨"CER-NORM-EXECUTION-MODE", "execution mode must be LIVE, REPLAY, or TEST", false⟩

/-- The parts of `RuntimeConfig` that a delivery uses. -/
structure DeliveryConfig extends RuntimeConfig where
  replayInput : ReplayInput
  retryMinDelay : ℕ
  retryMaxDelay : ℕ
  retryBudget : UInt32

/-- What a delivery reads: what the server says about it, the clock, and generators. -/
structure DeliveryReadings where
  delivered : ℤ
  consumerSequence : ℕ
  occurredAt : ℤ
  dlqRecordId : String
  core : Readings

/-! ## Delays -/

/-- `retry_delay`, in nanoseconds. -/
def retryDelay (deliveries : ℤ) (shortest longest : ℕ) : ℕ :=
  min (shortest * 2 ^ (max 0 (min (deliveries - 1) 20)).toNat) longest

/-- The value of a hexadecimal digit. -/
def hexDigit (ch : Char) : Option ℕ :=
  if ch.isDigit then some (ch.toNat - '0'.toNat)
  else if 'a' ≤ ch ∧ ch ≤ 'f' then some (ch.toNat - 'a'.toNat + 10)
  else if 'A' ≤ ch ∧ ch ≤ 'F' then some (ch.toNat - 'A'.toNat + 10)
  else none

/-- `u64::from_str_radix(_, 16)` on up to sixteen digits. -/
def fromHex (digits : List Char) : Option ℕ :=
  if digits = [] then none
  else digits.foldl (fun value ch => value.bind fun n => (hexDigit ch).map (16 * n + ·)) (some 0)

/-- `retry_delay_with_jitter`, in nanoseconds. -/
def retryDelayWithJitter (lib : Libraries) (deliveries : ℤ) (shortest longest : ℕ)
    (seed : String) : ℕ :=
  let digest := lib.sha256LowerHex (bytes (seed ++ ":" ++ toString deliveries))
  let sample := (fromHex (digest.toList.take 16)).getD 0
  let nanos := retryDelay deliveries shortest longest * (80 + sample % 41) / 100
  min (max (min nanos 18446744073709551615) shortest) longest

/-- `SystemTime::checked_add` of a delay in nanoseconds to a time in microseconds. -/
def checkedAdd (time : ℤ) (delay : ℕ) : Option ℤ :=
  let later := time + delay / 1000
  if later ≤ 9223372036854775807999999 then some later else none

/-! ## Operations -/

/-- The operations of a delivery. -/
inductive DeliveryOp
  | load (key : String × String)
  | upsert (failure : RetryFailure)
  | clear (key : String × String)
  /-- An operation of `process_message`. -/
  | process (o : RuntimeOp)
  /-- Reading the raw bytes to name the parser of a dead letter. -/
  | readRaw (persisted : RawEventPersisted)
  | publishDlq (letter : NormalizationDeadLetter)
  | doubleAck
  | term
  | nak (delay : ℕ)

/-- What an operation answers. -/
@[reducible] def DeliveryOp.Response : DeliveryOp → Type
  | .load _ => Outcome (Option RetryRow)
  | .upsert _ => Outcome (Option RetryRow)
  | .clear _ => Outcome Unit
  | .process o => o.Response
  | .readRaw _ => Outcome (List UInt8)
  | .publishDlq _ => Outcome Unit
  | .doubleAck => Outcome Unit
  | .term => Outcome Unit
  | .nak _ => Outcome Unit

/-- The interface of a delivery. -/
@[reducible] def deliveryInterface : Interface := ⟨DeliveryOp, DeliveryOp.Response⟩

/-- A program of a delivery that may fail. -/
abbrev DeliveryTask := ExceptT NormalizerError (Prog deliveryInterface)

/-- Perform one operation. -/
abbrev perform (o : DeliveryOp) : Prog deliveryInterface o.Response :=
  @Prog.call deliveryInterface o

/-! ## The retry state -/

/-- `load`. -/
def loadState (key : String × String) : DeliveryTask (Option RetryState) := do
  checked (validateKey key.1 key.2)
  match ← attempt (perform (.load key)) with
  | none => return none
  | some row => return some (← checked (rowToState row))

/-- `record_failure`: a valid failure is added to the state of its message; without a row in return
the state says why. -/
def recordFailure (failure : RetryFailure) : DeliveryTask RetryState := do
  checked (validateFailure failure)
  match ← attempt (perform (.upsert failure)) with
  | some row => checked (rowToState row)
  | none =>
    match ← loadState (failure.consumerName, failure.messageKey) with
    | none => throw (postgresError
        "retry-state upsert returned no row and no durable state exists")
    | some state =>
      if state.isolationRequired then throw (retryStateError
        "cannot record another processing failure after isolation became required")
      else throw (postgresError "retry-state upsert returned no row for an active lifecycle")

/-- `clear`. -/
def clearState (key : String × String) : DeliveryTask Unit := do
  checked (validateKey key.1 key.2)
  attempt (perform (.clear key))

/-! ## Failures -/

section

variable (lib : Libraries) (codecs : Codecs) (core : NormalizerCore) (config : DeliveryConfig)
  (message : RawMessage) (readings : DeliveryReadings)

/-- The number of deliveries so far. -/
def deliveries : ℤ := if message.streamSequence.isSome then max readings.delivered 1 else 1

/-- The delay until the next delivery. -/
def delay : ℕ := retryDelayWithJitter lib (deliveries message readings) config.retryMinDelay
  config.retryMaxDelay (deliveryIdentity lib message)

/-- `best_effort_parser_identity`: the parser that would be selected, if the message can still be
decoded and its bytes read. -/
def bestEffortParserIdentity : Prog deliveryInterface (Option (String × String)) :=
  match decodeRawPersisted codecs message with
  | .error _ => return none
  | .ok incoming => do
    match ← perform (.readRaw incoming.persisted) with
    | .error _ => return none
    | .ok raw =>
      match select (core.parsers.map Parser.toParserProbe) ⟨raw, incoming.persisted, none⟩ with
      | .error _ => return none
      | .ok (_, trace) => return some (trace.selectedParserId, trace.selectedParserVersion)

/-- The dead letter of a stored failure. -/
def letterFor (state : RetryState) (parserIdentity : Option (String × String)) :
    NormalizationDeadLetter :=
  deadLetterOf lib codecs message state.consumerName
    ⟨state.lastErrorCode, state.lastErrorMessage, state.lastErrorRetryable,
      (deliveries message readings).toNat, state.firstFailureAt, state.lastFailureAt⟩
    parserIdentity (message.streamSequence.map fun _ => readings.consumerSequence)
    readings.dlqRecordId

/-- **`handle_isolation`**: publish the dead letter, then terminate the message and forget its
state; if it cannot be published the message comes back later. -/
def handleIsolation (state : RetryState) : DeliveryTask Unit := do
  let parserIdentity ← ExceptT.lift (bestEffortParserIdentity codecs core message)
  match ← ExceptT.lift (perform (.publishDlq
    (letterFor lib codecs message readings state parserIdentity))) with
  | .ok () =>
    attempt (perform .term)
    clearState (state.consumerName, state.messageKey)
  | .error _ => attempt (perform (.nak (delay lib config message readings)))

/-- **`handle_processing_failure`**: the failure is recorded first, and the recorded state decides
between another attempt and isolation. -/
def handleProcessingFailure (consumerName : String) (messageId : Option String)
    (error : NormalizerError) : DeliveryTask Unit := do
  let nextRetryAt ← checked ((checkedAdd readings.occurredAt
    (delay lib config message readings)).elim
      (.error ⟨"CER-NORM-RETRY-STATE-TIME", "normalizer retry time overflow", false⟩) .ok)
  let state ← recordFailure {
    consumerName := consumerName
    messageKey := deliveryIdentity lib message
    messageId := messageId
    occurredAt := readings.occurredAt
    retryBudget := config.retryBudget
    deliveryAttempt := deliveries message readings
    errorCode := error.code
    errorMessage := error.message
    errorRetryable := error.retryable
    nextRetryAt := nextRetryAt }
  if state.isolationRequired then handleIsolation lib codecs core config message readings state
  else attempt (perform (.nak (delay lib config message readings)))

/-! ## One delivery -/

/-- `process_message`, among the operations of a delivery. -/
def processing (incoming : IncomingRawPersisted) : Prog deliveryInterface (Outcome Unit) :=
  @Prog.embed runtimeInterface deliveryInterface _ DeliveryOp.process (fun _ r => r)
    (processMessage lib core config.toRuntimeConfig readings.core incoming).run

/-- `parse_message_id`. -/
def parseMessageId (value : String) : Outcome String :=
  (codecs.parseUuid value).mapError fun reason => ⟨"CER-NORM-RETRY-STATE-IDENTITY",
    "validated message_id could not be parsed as UUID: " ++ reason, false⟩

/-- The part of `handle_message` that follows when the stored state does not require isolation. -/
def deliver (consumerName : String) : DeliveryTask Unit :=
  match decodeRawPersisted codecs message with
  | .error error =>
    handleProcessingFailure lib codecs core config message readings consumerName none error
  | .ok incoming => do
    let messageId ← checked (parseMessageId codecs incoming.envelope.messageId)
    match ← ExceptT.lift (processing lib core config readings incoming) with
    | .ok () =>
      clearState (consumerName, deliveryIdentity lib message)
      attempt (perform .doubleAck)
    | .error error =>
      handleProcessingFailure lib codecs core config message readings consumerName
        (some messageId) error

/-- **`handle_message`**: a message whose isolation is due is isolated without being processed
again. -/
def handleMessage : DeliveryTask Unit := do
  let consumerName ← checked (normalizerConsumerName core.executionMode config.replayInput)
  let state ← loadState (consumerName, deliveryIdentity lib message)
  match state.filter RetryState.isolationRequired with
  | some state => handleIsolation lib codecs core config message readings state
  | none => deliver lib codecs core config message readings consumerName

end

/-! ## The world of a delivery -/

/-- A write the table of retry states took. -/
inductive RetryWrite
  | recorded (failure : RetryFailure)
  | cleared (key : String × String)

/-- The warehouse, the retry states with their writes so far, the dead letters the stream took, and
what became of the message. -/
structure Station where
  warehouse : Warehouse
  retry : String × String → Option RetryRow
  writes : List RetryWrite
  deadLetters : List NormalizationDeadLetter
  doubleAcked : Bool
  terminated : Bool

namespace Station

/-- Record a failure. -/
def record (w : Station) (failure : RetryFailure) (row : RetryRow) : Station :=
  { w with
    retry := Function.update w.retry failure.key (some row)
    writes := w.writes ++ [.recorded failure] }

/-- Delete a row. -/
def clear (w : Station) (key : String × String) : Station :=
  { w with
    retry := Function.update w.retry key none
    writes := w.writes ++ [.cleared key] }

/-- An operation that reports success only if it was done, and may be done and report a failure. -/
def Done (w done : Station) (r : Outcome Unit) (w' : Station) : Prop :=
  w' = done ∨ w' = w ∧ ∃ e, r = .error e

/-- **The outcomes of an operation.** -/
def Outcomes : (o : DeliveryOp) → Station → o.Response → Station → Prop
  | .load key, w, r, w' => w' = w ∧ (r = .ok (w.retry key) ∨ ∃ e, r = .error e)
  | .upsert failure, w, r, w' =>
    match upsert failure (w.retry failure.key) with
    | .ok (some row) => w' = w.record failure row ∧ (r = .ok (some row) ∨ ∃ e, r = .error e) ∨
        w' = w ∧ ∃ e, r = .error e
    | .ok none => w' = w ∧ (r = .ok none ∨ ∃ e, r = .error e)
    | .error _ => w' = w ∧ ∃ e, r = .error e
  | .clear key, w, r, w' => Done w (w.clear key) r w'
  | .process o, w, r, w' => ∃ raw warehouse, Warehouse.Outcomes raw o w.warehouse r warehouse ∧
      w' = { w with warehouse := warehouse }
  | .readRaw _, w, _, w' => w' = w
  | .publishDlq letter, w, r, w' =>
    Done w { w with deadLetters := w.deadLetters ++ [letter] } r w'
  | .doubleAck, w, r, w' => Done w { w with doubleAcked := true } r w'
  | .term, w, r, w' => Done w { w with terminated := true } r w'
  | .nak _, w, _, w' => w' = w

end Station

/-- What may differ from one delivery to the next: also the normalizer and its configuration. -/
structure DeliveryInput where
  core : NormalizerCore
  config : DeliveryConfig
  readings : DeliveryReadings

/-- The call of a delivery. -/
def deliveryProgram (lib : Libraries) (codecs : Codecs) (message : RawMessage)
    (input : DeliveryInput) : Prog deliveryInterface (Outcome Unit) :=
  (handleMessage lib codecs input.core input.config message input.readings).run

end Normalizer

end Cerbero
