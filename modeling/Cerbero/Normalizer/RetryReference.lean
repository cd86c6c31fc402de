import Cerbero.Normalizer.RetrySafety

/-!
# Normalizer/RetryReference — the transition the tests state, and the row of a state

`advance_retry_state` of `retry_state.rs` over times of any unit.  A state is the row it is read
from (`rowToState_eq_ok`), its next state is the row the statement writes (`columns_nextState`,
`columns_firstState`), and a change of unit that keeps the order of times goes through
(`mapTimes_nextState`).
-/

namespace Cerbero

namespace Normalizer

open Text

/-! ## The reference -/

/-- `u32::saturating_add(1)`. -/
def saturatingSucc (n : UInt32) : UInt32 := if n = 4294967295 then n else n + 1

/-- The state after a first failure. -/
def firstState (failure : RetryFailure) : RetryState where
  consumerName := failure.consumerName
  messageKey := failure.messageKey
  messageId := failure.messageId
  firstFailureAt := failure.occurredAt
  lastFailureAt := failure.occurredAt
  failureCount := 1
  retryBudget := failure.retryBudget
  lastDeliveryAttempt := failure.deliveryAttempt
  lastErrorCode := failure.errorCode
  lastErrorMessage := failure.errorMessage
  lastErrorRetryable := failure.errorRetryable
  nextRetryAt := if failure.errorRetryable && 1 < failure.retryBudget then some failure.nextRetryAt
    else none

/-- The state after one more failure. -/
def nextState (existing : RetryState) (failure : RetryFailure) : RetryState :=
  let failureCount := saturatingSucc existing.failureCount
  let lastFailureAt := max existing.lastFailureAt failure.occurredAt
  { consumerName := existing.consumerName
    messageKey := existing.messageKey
    messageId := existing.messageId <|> failure.messageId
    firstFailureAt := existing.firstFailureAt
    lastFailureAt := lastFailureAt
    failureCount := failureCount
    retryBudget := existing.retryBudget
    lastDeliveryAttempt := failure.deliveryAttempt
    lastErrorCode := failure.errorCode
    lastErrorMessage := failure.errorMessage
    lastErrorRetryable := failure.errorRetryable
    nextRetryAt := if !failure.errorRetryable || existing.retryBudget ≤ failureCount then none
      else some (max lastFailureAt failure.nextRetryAt) }

/-- A failure names another message than the state does. -/
def Contradicts (stored named : Option String) : Prop :=
  ∃ a ∈ stored, ∃ b ∈ named, a ≠ b

instance (stored named : Option String) : Decidable (Contradicts stored named) :=
  match stored, named with
  | some a, some b => decidable_of_iff (a ≠ b) (by simp [Contradicts])
  | none, _ => isFalse (by simp [Contradicts])
  | some _, none => isFalse (by simp [Contradicts])

/-- **`advance_retry_state`**: the state after one more failure: the first failure stays, the last
one is new, and isolation is due once the error is permanent or the budget is spent. -/
def advanceRetryState (existing : Option RetryState) (failure : RetryFailure) :
    Outcome RetryState := do
  validateFailure failure
  match existing with
  | some existing =>
    validateState existing
    if existing.consumerName ≠ failure.consumerName ∨ existing.messageKey ≠ failure.messageKey then
      throw (retryStateError "retry failure key differs from existing lifecycle")
    if existing.isolationRequired then throw (retryStateError
      "cannot record another processing failure after isolation became required")
    if Contradicts existing.messageId failure.messageId then throw (retryStateError
      "retry message_id changed within one delivery lifecycle")
    if existing.retryBudget < saturatingSucc existing.failureCount then throw (retryStateError
      "cannot record another processing failure after retry budget exhaustion")
    validateState (nextState existing failure)
    return nextState existing failure
  | none =>
    validateState (firstState failure)
    return firstState failure

/-! ## Valid failures and states -/

theorem validateFailure_eq_ok {failure : RetryFailure} :
    validateFailure failure = .ok () ↔
      validateKey failure.consumerName failure.messageKey = .ok () ∧
      failure.messageId ≠ some nilUuid ∧ failure.retryBudget ≠ 0 ∧ 1 ≤ failure.deliveryAttempt ∧
      isBlank failure.errorCode = false ∧ failure.occurredAt ≤ failure.nextRetryAt := by
  rw [validateFailure, check_bind_eq_ok]
  refine and_congr_right fun _ => ?_
  split_ifs <;> simp_all [bind, Except.bind, pure, Except.pure]

theorem validateNextRetry_eq_ok {state : RetryState} :
    validateNextRetry state = .ok () ↔ (state.isolationRequired = true ↔ state.nextRetryAt = none) ∧
      ∀ t ∈ state.nextRetryAt, state.lastFailureAt ≤ t := by
  unfold validateNextRetry
  match state.isolationRequired, state.nextRetryAt with
  | true, some t => simp
  | true, none => simp
  | false, none => simp
  | false, some t =>
    show (if t < state.lastFailureAt then _ else _) = _ ↔ _
    split_ifs with h
    · simp [h]
    · simpa using h

theorem validateState_eq_ok {state : RetryState} :
    validateState state = .ok () ↔
      validateKey state.consumerName state.messageKey = .ok () ∧
      state.messageId ≠ some nilUuid ∧ state.failureCount ≠ 0 ∧ state.retryBudget ≠ 0 ∧
      state.failureCount ≤ state.retryBudget ∧ 1 ≤ state.lastDeliveryAttempt ∧
      isBlank state.lastErrorCode = false ∧ state.firstFailureAt ≤ state.lastFailureAt ∧
      (state.isolationRequired = true ↔ state.nextRetryAt = none) ∧
      ∀ t ∈ state.nextRetryAt, state.lastFailureAt ≤ t := by
  rw [← validateNextRetry_eq_ok, validateState, check_bind_eq_ok]
  refine and_congr_right fun _ => ?_
  split_ifs <;> simp_all [bind, Except.bind]

/-! ## Other units -/

/-- The failure with its times in another unit. -/
def RetryFailure.mapTimes (f : ℤ → ℤ) (failure : RetryFailure) : RetryFailure :=
  { failure with
    occurredAt := f failure.occurredAt
    nextRetryAt := f failure.nextRetryAt }

/-- The state with its times in another unit. -/
def RetryState.mapTimes (f : ℤ → ℤ) (state : RetryState) : RetryState :=
  { state with
    firstFailureAt := f state.firstFailureAt
    lastFailureAt := f state.lastFailureAt
    nextRetryAt := state.nextRetryAt.map f }

section

variable {f : ℤ → ℤ} (hf : ∀ a b, a ≤ b → f a ≤ f b)

include hf

theorem validateFailure_mapTimes {failure : RetryFailure}
    (h : validateFailure failure = .ok ()) : validateFailure (failure.mapTimes f) = .ok () := by
  rw [validateFailure_eq_ok] at h ⊢
  obtain ⟨hkey, hid, hbudget, hattempt, hcode, htimes⟩ := h
  exact ⟨hkey, hid, hbudget, hattempt, hcode, hf _ _ htimes⟩

theorem validateState_mapTimes {state : RetryState} (h : validateState state = .ok ()) :
    validateState (state.mapTimes f) = .ok () := by
  rw [validateState_eq_ok] at h ⊢
  obtain ⟨hkey, hid, hcount, hbudget, hle, hattempt, hcode, htimes, hnext, hlater⟩ := h
  refine ⟨hkey, hid, hcount, hbudget, hle, hattempt, hcode, hf _ _ htimes, ?_, fun t ht => ?_⟩
  · rw [RetryState.mapTimes, Option.map_eq_none_iff]
    exact hnext
  · obtain ⟨t', ht', rfl⟩ := Option.map_eq_some_iff.1 ht
    exact hf _ _ (hlater t' ht')

/-- **A transition does not depend on the unit of the times.** -/
theorem mapTimes_nextState (existing : RetryState) (failure : RetryFailure) :
    (nextState existing failure).mapTimes f =
      nextState (existing.mapTimes f) (failure.mapTimes f) := by
  have hmax : ∀ a b, f (max a b) = max (f a) (f b) := by
    intro a b
    obtain h | h := le_total a b
    · rw [max_eq_right h, max_eq_right (hf _ _ h)]
    · rw [max_eq_left h, max_eq_left (hf _ _ h)]
  simp only [nextState, RetryState.mapTimes, RetryFailure.mapTimes, hmax, apply_ite (Option.map f),
    Option.map_none, Option.map_some]
  rfl

end

theorem mapTimes_firstState (f : ℤ → ℤ) (failure : RetryFailure) :
    (firstState failure).mapTimes f = firstState (failure.mapTimes f) := by
  simp only [firstState, RetryState.mapTimes, RetryFailure.mapTimes, apply_ite (Option.map f),
    Option.map_none, Option.map_some]
  rfl

/-! ## The row of a state -/

/-- The columns a state is read from. -/
def RetryState.columns (state : RetryState) : RetryColumns where
  consumerName := state.consumerName
  messageKey := state.messageKey
  messageId := state.messageId
  firstFailureAt := state.firstFailureAt
  lastFailureAt := state.lastFailureAt
  failureCount := state.failureCount.toNat
  retryBudget := state.retryBudget.toNat
  lastDeliveryAttempt := state.lastDeliveryAttempt
  lastErrorCode := state.lastErrorCode
  lastErrorRetryable := state.lastErrorRetryable
  lastErrorMessage := state.lastErrorMessage
  nextRetryAt := state.nextRetryAt

theorem u32FromBigint_eq_ok {value : ℤ} {field : String} {n : UInt32} :
    u32FromBigint value field = .ok n ↔ value = n.toNat := by
  unfold u32FromBigint
  have hlt := n.toNat_lt
  split_ifs with h
  · rw [Except.ok.injEq, ← UInt32.toNat_inj, UInt32.toNat_ofNat']
    omega
  · exact ⟨fun h => (nomatch h), fun heq => by omega⟩

/-- **A state is the row it is read from.** -/
theorem rowToState_eq_ok {row : RetryRow} {state : RetryState} :
    rowToState row = .ok state ↔ row.toRetryColumns = state.columns ∧
      validateState state = .ok () := by
  rw [rowToState, bind_eq_ok]
  simp only [bind_eq_ok, u32FromBigint_eq_ok]
  constructor
  · rintro ⟨count, hcount, budget, hbudget, ⟨⟩, hvalid, h⟩
    obtain rfl := Except.ok.inj h
    refine ⟨?_, hvalid⟩
    rw [RetryState.columns, ← hcount, ← hbudget]
  · rintro ⟨hrow, hvalid⟩
    refine ⟨state.failureCount, congrArg RetryColumns.failureCount hrow, state.retryBudget,
      congrArg RetryColumns.retryBudget hrow, ?_⟩
    rw [hrow]
    exact ⟨(), hvalid, rfl⟩

theorem isolationRequired_columns (state : RetryState) :
    state.columns.isolationRequired = state.isolationRequired := by
  rw [RetryColumns.isolationRequired, RetryState.isolationRequired, RetryState.exhausted]
  congr 1
  exact decide_eq_decide.2 (by rw [UInt32.le_iff_toNat_le]; exact Int.ofNat_le)

theorem validateKey_eq_ok {consumerName messageKey : String} :
    validateKey consumerName messageKey = .ok () ↔ isBlank consumerName = false ∧
      isBlank messageKey = false ∧ (bytes messageKey).length ≤ 256 := by
  unfold validateKey
  split_ifs <;> simp_all

theorem ne_empty_of_isBlank {value : String} (h : isBlank value = false) : value ≠ "" := by
  rintro rfl
  exact nomatch h

theorem toNat_pos {n : UInt32} (h : n ≠ 0) : 0 < n.toNat :=
  Nat.pos_of_ne_zero fun hzero => h (UInt32.toNat_inj.1 hzero)

/-- **A valid state can be stored.** -/
theorem violation_columns {state : RetryState} (h : validateState state = .ok ()) :
    state.columns.violation = none := by
  rw [validateState_eq_ok, validateKey_eq_ok, UInt32.le_iff_toNat_le,
    ← isolationRequired_columns] at h
  obtain ⟨⟨hconsumer, hkey, hlen⟩, -, hcount, hbudget, hle, hattempt, hcode, htimes, hnext,
    hlater⟩ := h
  have hcount : 0 < state.failureCount.toNat := toNat_pos hcount
  have hbudget : 0 < state.retryBudget.toNat := toNat_pos hbudget
  have hlate : state.nextRetryAt.any (· < state.lastFailureAt) = false := by
    match hn : state.nextRetryAt with
    | none => rfl
    | some t => exact decide_eq_false (not_lt.2 (hlater t hn))
  have hlifecycle : state.columns.isolationRequired ≠ state.nextRetryAt.isSome := by
    intro heq
    match hn : state.nextRetryAt with
    | none =>
      rw [hn] at heq
      exact Bool.noConfusion (heq.symm.trans (hnext.2 hn))
    | some t =>
      rw [hn] at heq
      exact nomatch hn.symm.trans (hnext.1 heq)
  have hnumbers : ¬ state.columns.failureCount < 1 ∧ ¬ state.columns.retryBudget < 1 ∧
      ¬ state.columns.retryBudget < state.columns.failureCount := by
    simp only [RetryState.columns]
    omega
  rw [RetryColumns.violation,
    if_neg (show ¬ state.columns.consumerName = "" from ne_empty_of_isBlank hconsumer),
    if_neg (show ¬ (state.columns.messageKey = "" ∨ 256 < (bytes state.columns.messageKey).length)
      from not_or.2 ⟨ne_empty_of_isBlank hkey, not_lt.2 hlen⟩),
    if_neg hnumbers.1, if_neg hnumbers.2.1,
    if_neg (show ¬ state.columns.lastDeliveryAttempt < 1 from not_lt.2 hattempt),
    if_neg (show ¬ state.columns.lastErrorCode = "" from ne_empty_of_isBlank hcode),
    if_neg hnumbers.2.2,
    if_neg (show ¬ state.columns.lastFailureAt < state.columns.firstFailureAt from
      not_lt.2 htimes),
    if_neg (show ¬ state.columns.nextRetryAt.any (· < state.columns.lastFailureAt) = true from
      fun hany => Bool.noConfusion (hlate.symm.trans hany)),
    if_neg (show ¬ state.columns.isolationRequired = state.columns.nextRetryAt.isSome from
      hlifecycle)]

/-! ## Transitions -/

/-- A state that does not require isolation has failures left. -/
theorem lt_of_isolationRequired {state : RetryState} (h : state.isolationRequired = false) :
    state.failureCount.toNat < state.retryBudget.toNat ∧ state.lastErrorRetryable = true := by
  rw [RetryState.isolationRequired, RetryState.exhausted, Bool.or_eq_false_iff,
    decide_eq_false_iff_not, UInt32.le_iff_toNat_le, Bool.not_eq_false'] at h
  exact ⟨not_le.1 h.1, h.2⟩

/-- The count goes up by one. -/
theorem toNat_saturatingSucc {n m : UInt32} (h : n.toNat < m.toNat) :
    (saturatingSucc n).toNat = n.toNat + 1 := by
  have hm := m.toNat_lt
  have hn : n ≠ 4294967295 := by
    rintro rfl
    exact absurd h (by simp; omega)
  rw [saturatingSucc, if_neg hn, UInt32.toNat_add, UInt32.toNat_one]
  omega

/-- **The row the statement writes is the row of the next state.** -/
theorem columns_nextState {row : RetryRow} {state : RetryState} (failure : RetryFailure)
    (hrow : row.toRetryColumns = state.columns) (hactive : state.isolationRequired = false) :
    (nextState state failure).columns = nextFailure failure row := by
  obtain ⟨hlt, -⟩ := lt_of_isolationRequired hactive
  have hcount := toNat_saturatingSucc hlt
  have hexhausted : state.retryBudget ≤ saturatingSucc state.failureCount ↔
      (state.retryBudget.toNat : ℤ) ≤ state.failureCount.toNat + 1 := by
    rw [UInt32.le_iff_toNat_le, hcount]
    omega
  rw [nextFailure, hrow]
  simp only [nextState, RetryState.columns, hcount, Bool.or_eq_true, Bool.not_eq_true',
    decide_eq_true_eq, hexhausted]
  rfl

theorem isolationRequired_firstState (failure : RetryFailure) :
    (firstState failure).isolationRequired =
      (decide (failure.retryBudget ≤ 1) || !failure.errorRetryable) := rfl

/-- A first failure is retried unless it has to be isolated. -/
theorem nextRetryAt_firstState (failure : RetryFailure) :
    (firstState failure).nextRetryAt = if (firstState failure).isolationRequired then none
      else some failure.nextRetryAt := by
  rw [isolationRequired_firstState, firstState]
  match failure.errorRetryable with
  | true =>
    simp only [Bool.true_and, Bool.not_true, Bool.or_false, decide_eq_true_eq, ← UInt32.not_le, ite_not]
  | false => simp only [Bool.false_and, Bool.not_false, Bool.or_true, if_true, Bool.false_eq_true,
      if_false]

/-- So is a further one. -/
theorem nextRetryAt_nextState (existing : RetryState) (failure : RetryFailure) :
    (nextState existing failure).nextRetryAt =
      if (nextState existing failure).isolationRequired then none
      else some (max (max existing.lastFailureAt failure.occurredAt) failure.nextRetryAt) := by
  have hiso : (nextState existing failure).isolationRequired = (!failure.errorRetryable ||
      decide (existing.retryBudget ≤ saturatingSucc existing.failureCount)) := Bool.or_comm _ _
  rw [hiso]
  rfl

/-- The next retry of such a state is valid. -/
theorem nextRetry_of_eq {state : RetryState} {t : ℤ}
    (h : state.nextRetryAt = if state.isolationRequired then none else some t)
    (hle : state.lastFailureAt ≤ t) : (state.isolationRequired = true ↔ state.nextRetryAt = none) ∧
      ∀ t ∈ state.nextRetryAt, state.lastFailureAt ≤ t := by
  rw [h]
  match state.isolationRequired with
  | true => simp
  | false => simpa using hle

/-- **The row of a first failure is the row of its state.** -/
theorem columns_firstState (failure : RetryFailure) :
    (firstState failure).columns = firstFailure failure := by
  have hnext : (firstState failure).nextRetryAt = (firstFailure failure).nextRetryAt := by
    have hbudget : failure.retryBudget ≤ 1 ↔ failure.retryBudget.toNat ≤ 1 := by
      rw [UInt32.le_iff_toNat_le]
      rfl
    rw [nextRetryAt_firstState, isolationRequired_firstState, firstFailure]
    simp only [Bool.or_eq_true, Bool.not_eq_true', decide_eq_true_eq, hbudget]
    exact if_congr or_comm rfl rfl
  rw [RetryState.columns, hnext]
  rfl

/-- **A transition ends in a valid state.** -/
theorem validateState_nextState {state : RetryState} {failure : RetryFailure}
    (hstate : validateState state = .ok ()) (hfailure : validateFailure failure = .ok ())
    (hactive : state.isolationRequired = false) :
    validateState (nextState state failure) = .ok () := by
  obtain ⟨hlt, -⟩ := lt_of_isolationRequired hactive
  have hcount := toNat_saturatingSucc hlt
  rw [validateState_eq_ok] at hstate ⊢
  rw [validateFailure_eq_ok] at hfailure
  obtain ⟨hkey, hid, -, hbudget, -, -, -, htimes, -, -⟩ := hstate
  obtain ⟨-, hid', -, hattempt, hcode, -⟩ := hfailure
  refine ⟨hkey, ?_, ?_, hbudget, ?_, hattempt, hcode, htimes.trans (le_max_left _ _),
    nextRetry_of_eq (nextRetryAt_nextState state failure) (le_max_left _ _)⟩
  · show (state.messageId <|> failure.messageId) ≠ some nilUuid
    match hm : state.messageId with
    | none => exact hid'
    | some a => exact fun heq => hid (hm.trans heq)
  · intro hzero
    rw [← UInt32.toNat_inj] at hzero
    exact absurd (hcount.symm.trans hzero) (Nat.succ_ne_zero _)
  · rw [UInt32.le_iff_toNat_le]
    exact hcount.trans_le hlt

theorem validateState_firstState {failure : RetryFailure}
    (hfailure : validateFailure failure = .ok ()) :
    validateState (firstState failure) = .ok () := by
  rw [validateFailure_eq_ok] at hfailure
  obtain ⟨hkey, hid, hbudget, hattempt, hcode, htimes⟩ := hfailure
  rw [validateState_eq_ok]
  refine ⟨hkey, hid, show (1 : UInt32) ≠ 0 by decide, hbudget, ?_, hattempt, hcode, le_rfl,
    nextRetry_of_eq (nextRetryAt_firstState failure) htimes⟩
  rw [UInt32.le_iff_toNat_le]
  exact toNat_pos hbudget

end Normalizer

end Cerbero
