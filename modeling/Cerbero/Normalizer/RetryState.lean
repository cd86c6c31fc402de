import Cerbero.Lib.Text
import Cerbero.Normalizer.Mapping

/-!
# Normalizer/RetryState — the failures of a delivery, as they are stored

`retry_state.rs` and `retry_state_postgres.rs`: one row of `system.normalizer_retry_state` for each
consumer and message, written by one statement (`upsert`) and deleted once the message is done.
Times are in microseconds, as the table keeps them.
-/

namespace Cerbero

namespace Normalizer

open Text

/-! ## States -/

/-- `RetryFailure`: one failure of one delivery. -/
structure RetryFailure where
  consumerName : String
  messageKey : String
  messageId : Option String
  occurredAt : ℤ
  retryBudget : UInt32
  deliveryAttempt : ℤ
  errorCode : String
  errorMessage : String
  errorRetryable : Bool
  nextRetryAt : ℤ
  deriving DecidableEq, Repr

/-- The primary key of the row of a failure. -/
def RetryFailure.key (failure : RetryFailure) : String × String :=
  (failure.consumerName, failure.messageKey)

/-- `RetryState`: what is remembered of a message between its deliveries. -/
structure RetryState where
  consumerName : String
  messageKey : String
  messageId : Option String
  firstFailureAt : ℤ
  lastFailureAt : ℤ
  failureCount : UInt32
  retryBudget : UInt32
  lastDeliveryAttempt : ℤ
  lastErrorCode : String
  lastErrorMessage : String
  lastErrorRetryable : Bool
  nextRetryAt : Option ℤ
  deriving DecidableEq, Repr

def RetryState.exhausted (state : RetryState) : Bool := state.retryBudget ≤ state.failureCount

def RetryState.isolationRequired (state : RetryState) : Bool :=
  state.exhausted || !state.lastErrorRetryable

/-- `retry_state_error`. -/
def retryStateError (message : String) : NormalizerError := ⟨"CER-NORM-RETRY-STATE", message, false⟩

/-- `postgres_error`. -/
def postgresError (message : String) : NormalizerError :=
  ⟨"CER-NORM-RETRY-STATE-POSTGRES", message, true⟩

def nilUuid : String := "00000000-0000-0000-0000-000000000000"

def validateKey (consumerName messageKey : String) : Outcome Unit :=
  if isBlank consumerName then .error (retryStateError "retry consumer name is required")
  else if isBlank messageKey then .error (retryStateError "retry message key is required")
  else if 256 < (bytes messageKey).length then
    .error (retryStateError "retry message key exceeds 256 bytes")
  else .ok ()

def validateFailure (failure : RetryFailure) : Outcome Unit := do
  validateKey failure.consumerName failure.messageKey
  if failure.messageId = some nilUuid then
    .error (retryStateError "retry message_id must not be the nil UUID when present")
  if failure.retryBudget = 0 then
    .error (retryStateError "retry budget must be greater than zero")
  if failure.deliveryAttempt < 1 then
    .error (retryStateError "delivery attempt must be greater than zero")
  if isBlank failure.errorCode then .error (retryStateError "retry error code is required")
  if failure.nextRetryAt < failure.occurredAt then
    .error (retryStateError "next retry time must not precede failure time")

/-- The part of `validate_state` about the next retry. -/
def validateNextRetry (state : RetryState) : Outcome Unit :=
  match state.isolationRequired, state.nextRetryAt with
  | true, some _ =>
    .error (retryStateError "isolating retry state must not have a next retry time")
  | false, none => .error (retryStateError "active retry state requires a next retry time")
  | false, some nextRetryAt =>
    if nextRetryAt < state.lastFailureAt then
      .error (retryStateError "next retry time must not precede last failure time")
    else .ok ()
  | true, none => .ok ()

def validateState (state : RetryState) : Outcome Unit := do
  validateKey state.consumerName state.messageKey
  if state.messageId = some nilUuid then
    .error (retryStateError "stored retry message_id must not be the nil UUID when present")
  if state.failureCount = 0 then
    .error (retryStateError "retry failure count must be greater than zero")
  if state.retryBudget = 0 then .error (retryStateError "retry budget must be greater than zero")
  if state.retryBudget < state.failureCount then
    .error (retryStateError "retry failure count exceeds captured retry budget")
  if state.lastDeliveryAttempt < 1 then
    .error (retryStateError "delivery attempt must be greater than zero")
  if isBlank state.lastErrorCode then .error (retryStateError "retry error code is required")
  if state.lastFailureAt < state.firstFailureAt then
    .error (retryStateError "last failure time must not precede first failure time")
  validateNextRetry state

/-! ## Rows -/

/-- The columns of `system.normalizer_retry_state`. -/
structure RetryColumns where
  consumerName : String
  messageKey : String
  messageId : Option String
  firstFailureAt : ℤ
  lastFailureAt : ℤ
  failureCount : ℤ
  retryBudget : ℤ
  lastDeliveryAttempt : ℤ
  lastErrorCode : String
  lastErrorRetryable : Bool
  lastErrorMessage : String
  nextRetryAt : Option ℤ
  deriving DecidableEq, Repr

/-- The columns say that the message has to be isolated. -/
def RetryColumns.isolationRequired (columns : RetryColumns) : Bool :=
  columns.retryBudget ≤ columns.failureCount || !columns.lastErrorRetryable

/-- The check a row breaks, if any. -/
def RetryColumns.violation (columns : RetryColumns) : Option String :=
  if columns.consumerName = "" then some "normalizer_retry_state_consumer_name_check"
  else if columns.messageKey = "" ∨ 256 < (bytes columns.messageKey).length then
    some "normalizer_retry_state_message_key_check"
  else if columns.failureCount < 1 then some "normalizer_retry_state_failure_count_check"
  else if columns.retryBudget < 1 then some "normalizer_retry_state_retry_budget_check"
  else if columns.lastDeliveryAttempt < 1 then
    some "normalizer_retry_state_delivery_attempt_check"
  else if columns.lastErrorCode = "" then some "normalizer_retry_state_error_code_check"
  else if columns.retryBudget < columns.failureCount then
    some "normalizer_retry_state_budget_check"
  else if columns.lastFailureAt < columns.firstFailureAt then
    some "normalizer_retry_state_failure_time_check"
  else if columns.nextRetryAt.any (· < columns.lastFailureAt) then
    some "normalizer_retry_state_next_retry_time_check"
  else if columns.isolationRequired = columns.nextRetryAt.isSome then
    some "normalizer_retry_state_lifecycle_check"
  else none

/-- A stored row. -/
structure RetryRow extends RetryColumns where
  checked : toRetryColumns.violation = none

/-- Store a row. -/
def RetryColumns.store (columns : RetryColumns) : Outcome RetryRow :=
  match h : columns.violation with
  | none => .ok ⟨columns, h⟩
  | some check => .error (postgresError check)

/-- `u32_from_bigint`. -/
def u32FromBigint (value : ℤ) (field : String) : Outcome UInt32 :=
  if 0 ≤ value ∧ value ≤ 4294967295 then .ok (UInt32.ofNat value.toNat)
  else .error (retryStateError ("stored " ++ field ++ " is outside the u32 range"))

/-- `row_to_state`: a row is read back only if its numbers and times are in range and consistent. -/
def rowToState (row : RetryRow) : Outcome RetryState := do
  let failureCount ← u32FromBigint row.failureCount "failure_count"
  let retryBudget ← u32FromBigint row.retryBudget "retry_budget"
  let state : RetryState := ⟨row.consumerName, row.messageKey, row.messageId, row.firstFailureAt,
    row.lastFailureAt, failureCount, retryBudget, row.lastDeliveryAttempt, row.lastErrorCode,
    row.lastErrorMessage, row.lastErrorRetryable, row.nextRetryAt⟩
  validateState state
  return state

/-! ## The statement -/

/-- The row of a first failure. -/
def firstFailure (failure : RetryFailure) : RetryColumns where
  consumerName := failure.consumerName
  messageKey := failure.messageKey
  messageId := failure.messageId
  firstFailureAt := failure.occurredAt
  lastFailureAt := failure.occurredAt
  failureCount := 1
  retryBudget := failure.retryBudget.toNat
  lastDeliveryAttempt := failure.deliveryAttempt
  lastErrorCode := failure.errorCode
  lastErrorRetryable := failure.errorRetryable
  lastErrorMessage := failure.errorMessage
  nextRetryAt := if failure.errorRetryable = false ∨ failure.retryBudget.toNat ≤ 1 then none
    else some failure.nextRetryAt

/-- The row after one more failure. -/
def nextFailure (failure : RetryFailure) (row : RetryRow) : RetryColumns :=
  { row.toRetryColumns with
    messageId := row.messageId <|> failure.messageId
    lastFailureAt := max row.lastFailureAt failure.occurredAt
    failureCount := row.failureCount + 1
    lastDeliveryAttempt := failure.deliveryAttempt
    lastErrorCode := failure.errorCode
    lastErrorRetryable := failure.errorRetryable
    lastErrorMessage := failure.errorMessage
    nextRetryAt := if failure.errorRetryable = false ∨ row.retryBudget ≤ row.failureCount + 1 then
        none
      else some (max (max row.lastFailureAt failure.occurredAt) failure.nextRetryAt) }

/-- **`RETRY_STATE_UPSERT`**: the row it returns, or none if the stored one is not to be changed. -/
def upsert (failure : RetryFailure) : Option RetryRow → Outcome (Option RetryRow)
  | none => (firstFailure failure).store.map some
  | some row =>
    if row.failureCount < row.retryBudget ∧ row.lastErrorRetryable then
      (nextFailure failure row).store.map some
    else .ok none

end Normalizer

end Cerbero
