import Cerbero.Normalizer.RetryReference

/-!
# Normalizer/RetryRefinement — the statement against the reference

`record_failure` runs its one statement, and a follow-up load if that changed nothing, over a table
of retry states.  It is compared with `advance_retry_state` on the state of the row: they succeed
together and end in the same state, unless the failure names another message than the row
(**`refined_iff`**).  The reference refuses such a failure, the statement does not look.
-/

namespace Cerbero

namespace Normalizer

open Text

/-! ## The database -/

/-- **How a failure becomes the parameters of a statement.**  The client library turns a
`SystemTime` into microseconds and back and keeps the order of times; PostgreSQL takes the
parameters or refuses them, as it does a text with a NUL character or a time outside of
`timestamptz`. -/
structure StatementBinding where
  toMicros : ℤ → ℤ
  ofMicros : ℤ → ℤ
  takes : RetryFailure → Bool
  toMicros_le : ∀ a b, a ≤ b → toMicros a ≤ toMicros b
  ofMicros_le : ∀ a b, a ≤ b → ofMicros a ≤ ofMicros b
  toMicros_ofMicros : ∀ t, toMicros (ofMicros t) = t

/-- `system.normalizer_retry_state`, by its primary key. -/
abbrev RetryTable := String × String → Option RetryRow

/-- The database at work: `RETRY_STATE_UPSERT`, `RETRY_STATE_SELECT` and the deletion; what a
delivery does elsewhere leaves the table as it is. -/
def StatementBinding.answer (binding : StatementBinding) :
    (o : DeliveryOp) → RetryTable → o.Response × RetryTable
  | .load key, table => (.ok (table key), table)
  | .upsert failure, table =>
    if binding.takes failure then
      match upsert (failure.mapTimes binding.toMicros) (table failure.key) with
      | .ok (some row) => (.ok (some row), Function.update table failure.key (some row))
      | response => (response, table)
    else (.error (postgresError "record retry failure"), table)
  | .clear key, table => (.ok (), Function.update table key none)
  | .process o, table => ((Warehouse.effect [] o ⟨SortedMap.empty, []⟩).1, table)
  | .readRaw _, table => (.ok [], table)
  | .publishDlq _, table => (.ok (), table)
  | .doubleAck, table => (.ok (), table)
  | .term, table => (.ok (), table)
  | .nak _, table => (.ok (), table)

/-- `record_failure` on a table. -/
def StatementBinding.record (binding : StatementBinding) (table : RetryTable)
    (failure : RetryFailure) : Outcome RetryState × RetryTable :=
  (recordFailure failure).run.run binding.answer table

/-- The stored state of a key, in the unit of `SystemTime`. -/
def StatementBinding.stored (binding : StatementBinding) (table : RetryTable)
    (key : String × String) : Option RetryState :=
  (table key).bind fun row => match rowToState row with
    | .ok state => some (state.mapTimes binding.ofMicros)
    | .error _ => none

/-! ## The statement -/

theorem exists_store {columns : RetryColumns} (h : columns.violation = none) :
    ∃ row : RetryRow, columns.store = .ok row ∧ row.toRetryColumns = columns := by
  refine ⟨⟨columns, h⟩, ?_, rfl⟩
  unfold RetryColumns.store
  split
  · rfl
  · rename_i check hcheck
    exact nomatch h.symm.trans hcheck

/-- **A first failure is stored as its state.**  PostgreSQL checks the row it would insert before it
looks for a conflict, so this also says that the checks never stop an update. -/
theorem upsert_first {failure : RetryFailure} (h : validateFailure failure = .ok ()) :
    ∃ row, upsert failure none = .ok (some row) ∧ rowToState row = .ok (firstState failure) := by
  have hvalid := validateState_firstState h
  obtain ⟨row, hstore, hrow⟩ := exists_store (violation_columns hvalid)
  refine ⟨row, ?_, rowToState_eq_ok.2 ⟨hrow, hvalid⟩⟩
  rw [upsert, ← columns_firstState, hstore]
  rfl

/-- The row says whether to isolate, as its state does. -/
theorem where_iff {row : RetryRow} : (row.failureCount < row.retryBudget ∧ row.lastErrorRetryable) ↔
    row.isolationRequired = false := by
  rw [RetryColumns.isolationRequired, Bool.or_eq_false_iff, decide_eq_false_iff_not, not_le,
    Bool.not_eq_false']

/-- **A further failure is stored as the next state.** -/
theorem upsert_next {failure : RetryFailure} {row : RetryRow} {state : RetryState}
    (h : validateFailure failure = .ok ()) (hstate : rowToState row = .ok state)
    (hactive : state.isolationRequired = false) :
    ∃ row', upsert failure (some row) = .ok (some row') ∧
      rowToState row' = .ok (nextState state failure) := by
  obtain ⟨hrow, hstateValid⟩ := rowToState_eq_ok.1 hstate
  have hvalid := validateState_nextState hstateValid h hactive
  obtain ⟨row', hstore, hrow'⟩ := exists_store (violation_columns hvalid)
  refine ⟨row', ?_, rowToState_eq_ok.2 ⟨hrow', hvalid⟩⟩
  rw [upsert, if_pos (where_iff.2 ((isolationRequired_of_rowToState hstate).symm.trans hactive)),
    ← columns_nextState failure hrow hactive, hstore]
  rfl

theorem upsert_isolated {failure : RetryFailure} {row : RetryRow}
    (h : row.isolationRequired = true) : upsert failure (some row) = .ok none := by
  rw [upsert, if_neg fun hwhere => Bool.noConfusion (h.symm.trans (where_iff.1 hwhere))]

/-! ## Running -/

section

variable {binding : StatementBinding} {table : RetryTable} {failure : RetryFailure}

theorem run_bind_ok {α β : Type} {p : DeliveryTask α} {f : α → DeliveryTask β} {a : α}
    {t t' : RetryTable} (h : (ExceptT.run p).run binding.answer t = (.ok a, t')) :
    (ExceptT.run (p >>= f)).run binding.answer t = (ExceptT.run (f a)).run binding.answer t' := by
  rw [Prog.run_try, h]

theorem run_bind_error {α β : Type} {p : DeliveryTask α} {f : α → DeliveryTask β}
    {e : NormalizerError} {t t' : RetryTable}
    (h : (ExceptT.run p).run binding.answer t = (.error e, t')) :
    (ExceptT.run (p >>= f)).run binding.answer t = (.error e, t') := by
  rw [Prog.run_try, h]

theorem run_checked {α : Type} {x : Outcome α} {a : α} (h : x = .ok a) (t : RetryTable) :
    (ExceptT.run (Prog.checked x : DeliveryTask α)).run binding.answer t = (.ok a, t) := by
  rw [h]
  rfl

theorem run_upsert (failure : RetryFailure) (t : RetryTable) :
    (ExceptT.run (Prog.attempt (perform (.upsert failure)))).run binding.answer t =
      binding.answer (.upsert failure) t := rfl

theorem run_load (key : String × String) (t : RetryTable) :
    (ExceptT.run (Prog.attempt (perform (.load key)))).run binding.answer t = (.ok (t key), t) :=
  rfl

/-- A row the statement returns is the result. -/
theorem record_of_row (h : validateFailure failure = .ok ()) {row : RetryRow}
    {table' : RetryTable}
    (hanswer : binding.answer (.upsert failure) table = (.ok (some row), table')) :
    binding.record table failure = (rowToState row, table') := by
  rw [StatementBinding.record, recordFailure]
  refine (run_bind_ok (run_checked h table)).trans ?_
  exact (run_bind_ok ((run_upsert failure table).trans hanswer)).trans rfl

/-- An error of the statement is the result. -/
theorem record_of_error (h : validateFailure failure = .ok ()) {e : NormalizerError}
    (hanswer : binding.answer (.upsert failure) table = (.error e, table)) :
    binding.record table failure = (.error e, table) := by
  rw [StatementBinding.record, recordFailure]
  refine (run_bind_ok (run_checked h table)).trans ?_
  exact run_bind_error ((run_upsert failure table).trans hanswer)

/-- A row that has to be isolated is left alone, and read. -/
theorem record_of_isolated (h : validateFailure failure = .ok ())
    (hanswer : binding.answer (.upsert failure) table = (.ok none, table)) {row : RetryRow}
    {state : RetryState} (hrow : table failure.key = some row)
    (hstate : rowToState row = .ok state) (hisolated : state.isolationRequired = true) :
    binding.record table failure = (.error (retryStateError
      "cannot record another processing failure after isolation became required"), table) := by
  have hkey := (validateFailure_eq_ok.1 h).1
  have hload : (ExceptT.run (loadState failure.key)).run binding.answer table =
      (.ok (some state), table) := by
    rw [loadState]
    refine (run_bind_ok (run_checked hkey table)).trans ?_
    refine (run_bind_ok (run_load failure.key table)).trans ?_
    rw [hrow]
    exact (run_bind_ok (run_checked hstate table)).trans rfl
  rw [StatementBinding.record, recordFailure]
  refine (run_bind_ok (run_checked h table)).trans ?_
  refine (run_bind_ok ((run_upsert failure table).trans hanswer)).trans ?_
  refine (run_bind_ok hload).trans ?_
  dsimp only
  rw [if_pos hisolated]
  rfl

end

/-! ## The reference -/

theorem advanceRetryState_none {failure : RetryFailure} (h : validateFailure failure = .ok ()) :
    advanceRetryState none failure = .ok (firstState failure) := by
  rw [advanceRetryState, h, ok_bind, validateState_firstState h]
  rfl

/-- What the reference does with a state of the failure's key. -/
theorem advanceRetryState_some {failure : RetryFailure} {existing : RetryState}
    (h : validateFailure failure = .ok ()) (hstate : validateState existing = .ok ())
    (hkey : existing.consumerName = failure.consumerName ∧
      existing.messageKey = failure.messageKey) :
    advanceRetryState (some existing) failure =
      if existing.isolationRequired then .error (retryStateError
        "cannot record another processing failure after isolation became required")
      else if Contradicts existing.messageId failure.messageId then .error (retryStateError
        "retry message_id changed within one delivery lifecycle")
      else .ok (nextState existing failure) := by
  rw [advanceRetryState, h, ok_bind]
  dsimp only
  rw [hstate, ok_bind, if_neg (not_or.2 ⟨not_not.2 hkey.1, not_not.2 hkey.2⟩)]
  by_cases hisolated : existing.isolationRequired = true
  · rw [if_pos hisolated, if_pos hisolated]
    rfl
  · have hactive : existing.isolationRequired = false := by simpa using hisolated
    have hlt := (lt_of_isolationRequired hactive).1
    have hnext : ¬ existing.retryBudget < saturatingSucc existing.failureCount := by
      rw [UInt32.lt_iff_toNat_lt, toNat_saturatingSucc hlt]
      omega
    rw [if_neg hisolated, if_neg hisolated, if_neg hnext, validateState_nextState hstate h hactive]
    split_ifs
    · rfl
    · rfl

/-! ## Refinement -/

/-- **A table in order**: every row is under its own key and reads as a valid state. -/
structure RetryTable.Sound (table : RetryTable) : Prop where
  keyed : ∀ key row, table key = some row → (row.consumerName, row.messageKey) = key
  readable : ∀ key row, table key = some row → ∃ state, rowToState row = .ok state

/-- **`record_failure` does what `advance_retry_state` says**: they succeed together, with one state
at the precision of the table, which is valid and stored; a failure changes nothing. -/
structure StatementBinding.Refines (binding : StatementBinding) (table : RetryTable)
    (failure : RetryFailure) : Prop where
  succeeds_iff : (∃ state, (binding.record table failure).1 = .ok state) ↔
    ∃ state, advanceRetryState (binding.stored table failure.key) failure = .ok state
  same_state : ∀ state state', (binding.record table failure).1 = .ok state →
    advanceRetryState (binding.stored table failure.key) failure = .ok state' →
      state = state'.mapTimes binding.toMicros
  valid : ∀ state, (binding.record table failure).1 = .ok state → validateState state = .ok ()
  reference_valid : ∀ state,
    advanceRetryState (binding.stored table failure.key) failure = .ok state →
      validateState state = .ok ()
  stored : ∀ state, (binding.record table failure).1 = .ok state →
    ∃ row, rowToState row = .ok state ∧
      (binding.record table failure).2 = Function.update table failure.key (some row)
  unchanged : ∀ e, (binding.record table failure).1 = .error e →
    (binding.record table failure).2 = table

/-- **When they agree**: PostgreSQL takes a first failure; and unless the row has to be isolated, it
takes exactly the failures that do not contradict the row. -/
def StatementBinding.Agrees (binding : StatementBinding) (table : RetryTable)
    (failure : RetryFailure) : Prop :=
  match table failure.key with
  | none => binding.takes failure
  | some row => row.isolationRequired ∨
    (binding.takes failure ↔ ¬ Contradicts row.messageId failure.messageId)

section

variable {binding : StatementBinding} {table : RetryTable} {failure : RetryFailure}

theorem refines_of_fail {e e' : NormalizerError}
    (hrecord : binding.record table failure = (.error e, table))
    (hreference : advanceRetryState (binding.stored table failure.key) failure = .error e') :
    binding.Refines table failure where
  succeeds_iff := by simp [hrecord, hreference]
  same_state := by simp [hrecord]
  valid := by simp [hrecord]
  reference_valid := by simp [hreference]
  stored := by simp [hrecord]
  unchanged := by simp [hrecord]

theorem refines_of_ok {row : RetryRow} {state state' : RetryState}
    (hrecord : binding.record table failure =
      (rowToState row, Function.update table failure.key (some row)))
    (hrow : rowToState row = .ok state)
    (hreference : advanceRetryState (binding.stored table failure.key) failure = .ok state')
    (hsame : state = state'.mapTimes binding.toMicros) (hvalid : validateState state' = .ok ()) :
    binding.Refines table failure where
  succeeds_iff := by simp [hrecord, hrow, hreference]
  same_state := by
    intro s s' hs hs'
    rw [hrecord, hrow] at hs
    rw [hreference] at hs'
    obtain rfl := Except.ok.inj hs
    obtain rfl := Except.ok.inj hs'
    exact hsame
  valid := by
    intro s hs
    rw [hrecord, hrow] at hs
    obtain rfl := Except.ok.inj hs
    exact (rowToState_eq_ok.1 hrow).2
  reference_valid := by
    intro s hs
    rw [hreference] at hs
    obtain rfl := Except.ok.inj hs
    exact hvalid
  stored := by
    intro s hs
    rw [hrecord] at hs ⊢
    exact ⟨row, hs, rfl⟩
  unchanged := by
    intro e he
    rw [hrecord, hrow] at he
    exact nomatch he

end

section

variable {binding : StatementBinding} {table : RetryTable} {failure : RetryFailure}

theorem mapTimes_mapTimes {f g : ℤ → ℤ} (h : ∀ t, f (g t) = t) (state : RetryState) :
    (state.mapTimes g).mapTimes f = state := by
  obtain ⟨_, _, _, _, _, _, _, _, _, _, _, next⟩ := state
  match next with
  | none => simp [RetryState.mapTimes, h]
  | some t => simp [RetryState.mapTimes, h]

theorem answer_upsert (htakes : binding.takes failure) (table : RetryTable) :
    binding.answer (.upsert failure) table =
      match upsert (failure.mapTimes binding.toMicros) (table failure.key) with
      | .ok (some row) => (.ok (some row), Function.update table failure.key (some row))
      | response => (response, table) := by
  rw [StatementBinding.answer, if_pos htakes]

theorem answer_upsert_refused (htakes : ¬ binding.takes failure) (table : RetryTable) :
    binding.answer (.upsert failure) table =
      (.error (postgresError "record retry failure"), table) := by
  rw [StatementBinding.answer, if_neg htakes]

/-- A first failure. -/
theorem refines_first (hfailure : validateFailure failure = .ok ())
    (hrow : table failure.key = none) :
    binding.Refines table failure ↔ binding.takes failure := by
  have hreference : advanceRetryState (binding.stored table failure.key) failure =
      .ok (firstState failure) := by
    rw [StatementBinding.stored, hrow]
    exact advanceRetryState_none hfailure
  by_cases htakes : binding.takes failure = true
  · obtain ⟨row, hupsert, hstate⟩ :=
      upsert_first (validateFailure_mapTimes binding.toMicros_le hfailure)
    have hanswer := answer_upsert htakes table
    rw [hrow, hupsert] at hanswer
    exact iff_of_true (refines_of_ok (record_of_row hfailure hanswer) hstate hreference
      (mapTimes_firstState _ _).symm (validateState_firstState hfailure)) htakes
  · refine iff_of_false (fun h => ?_) htakes
    obtain ⟨state, hstate⟩ := h.succeeds_iff.2 ⟨_, hreference⟩
    rw [record_of_error hfailure (answer_upsert_refused htakes table)] at hstate
    exact nomatch hstate

/-- A further failure. -/
theorem refines_next (hsound : table.Sound) (hfailure : validateFailure failure = .ok ())
    {row : RetryRow} (hrow : table failure.key = some row) :
    binding.Refines table failure ↔ row.isolationRequired ∨
      (binding.takes failure ↔ ¬ Contradicts row.messageId failure.messageId) := by
  obtain ⟨state, hstate⟩ := hsound.readable _ _ hrow
  obtain ⟨hcolumns, hvalid⟩ := rowToState_eq_ok.1 hstate
  have hiso := isolationRequired_of_rowToState hstate
  have hstored : binding.stored table failure.key = some (state.mapTimes binding.ofMicros) := by
    rw [StatementBinding.stored, hrow, Option.bind_some, hstate]
  have hkey : state.consumerName = failure.consumerName ∧ state.messageKey = failure.messageKey := by
    have := hsound.keyed _ _ hrow
    rw [hcolumns] at this
    exact Prod.mk.inj this
  have hid : row.messageId = state.messageId := congrArg RetryColumns.messageId hcolumns
  have hreference := advanceRetryState_some hfailure
    (validateState_mapTimes binding.ofMicros_le hvalid) hkey
  rw [← hstored] at hreference
  rw [hid, ← hiso]
  by_cases hisolated : state.isolationRequired = true
  · -- the row is left alone, and the reference refuses
    refine iff_of_true ?_ (.inl hisolated)
    have hrefused := hreference.trans (if_pos hisolated)
    by_cases htakes : binding.takes failure = true
    · have hanswer := answer_upsert htakes table
      rw [hrow, upsert_isolated (hiso.symm.trans hisolated)] at hanswer
      exact refines_of_fail (record_of_isolated hfailure hanswer hrow hstate hisolated) hrefused
    · exact refines_of_fail (record_of_error hfailure (answer_upsert_refused htakes table)) hrefused
  · have hactive : state.isolationRequired = false := by simpa using hisolated
    have hreference := hreference.trans (if_neg hisolated)
    rw [or_iff_right hisolated]
    have hrefused := fun h : ¬ binding.takes failure => record_of_error hfailure (answer_upsert_refused h table)
    by_cases htakes : binding.takes failure = true
    · -- the statement goes through, whatever the message
      obtain ⟨row', hupsert, hnext⟩ :=
        upsert_next (validateFailure_mapTimes binding.toMicros_le hfailure) hstate hactive
      have hanswer := answer_upsert htakes table
      rw [hrow, hupsert] at hanswer
      have hrecord := record_of_row hfailure hanswer
      by_cases hnamed : Contradicts state.messageId failure.messageId
      · refine iff_of_false (fun h => ?_) fun h => h.1 htakes hnamed
        obtain ⟨s, hs⟩ := h.succeeds_iff.1 ⟨_, (congrArg Prod.fst hrecord).trans hnext⟩
        exact nomatch hs.symm.trans (hreference.trans (if_pos hnamed))
      · refine iff_of_true ?_ (iff_of_true htakes hnamed)
        refine refines_of_ok hrecord hnext (hreference.trans (if_neg hnamed)) ?_
          (validateState_nextState (validateState_mapTimes binding.ofMicros_le hvalid) hfailure
            hactive)
        rw [mapTimes_nextState binding.toMicros_le, mapTimes_mapTimes binding.toMicros_ofMicros]
    · by_cases hnamed : Contradicts state.messageId failure.messageId
      · exact iff_of_true (refines_of_fail (hrefused htakes) (hreference.trans (if_pos hnamed)))
          (iff_of_false htakes (not_not.2 hnamed))
      · refine iff_of_false (fun h => ?_) fun h => htakes (h.2 hnamed)
        obtain ⟨s, hs⟩ := h.succeeds_iff.2 ⟨_, hreference.trans (if_neg hnamed)⟩
        exact nomatch hs.symm.trans (congrArg Prod.fst (hrefused htakes))

end

/-- **The statement refines the reference exactly if they agree on the failure.** -/
theorem refines_iff (binding : StatementBinding) {table : RetryTable} {failure : RetryFailure}
    (hsound : table.Sound) (hfailure : validateFailure failure = .ok ()) :
    binding.Refines table failure ↔ binding.Agrees table failure := by
  rw [StatementBinding.Agrees]
  match hrow : table failure.key with
  | none => exact refines_first hfailure hrow
  | some row => exact refines_next hsound hfailure hrow

/-! ## Another message under one key -/

/-- A binding that cuts nanoseconds off, as it is done from the year 2000 on, and takes every text
without NUL. -/
def sampleBinding : StatementBinding where
  toMicros t := t / 1000
  ofMicros t := t * 1000
  takes failure := !(failure.consumerName ++ failure.messageKey ++ failure.errorCode ++
    failure.errorMessage).toList.any (· == Char.ofNat 0)
  toMicros_le a b h := by omega
  ofMicros_le a b h := by omega
  toMicros_ofMicros t := by omega

/-- The state after the first of three failures that a message may have. -/
def sampleRetryState : RetryState where
  consumerName := "normalizer"
  messageKey := "stream:41"
  messageId := some "01890a5d-ac96-774b-bcce-b302099a8001"
  firstFailureAt := 1789000001000000
  lastFailureAt := 1789000001000000
  failureCount := 1
  retryBudget := 3
  lastDeliveryAttempt := 1
  lastErrorCode := "CER-NORM-TEST"
  lastErrorMessage := "failed"
  lastErrorRetryable := true
  nextRetryAt := some 1789000002000000

theorem validateState_sampleRetryState : validateState sampleRetryState = .ok () := by
  decide

/-- The table that holds it. -/
def sampleTable : RetryTable :=
  Function.update (fun _ => none) ("normalizer", "stream:41")
    (some ⟨sampleRetryState.columns, violation_columns validateState_sampleRetryState⟩)

theorem sound_sampleTable : sampleTable.Sound where
  keyed key row h := by
    rw [sampleTable, Function.update_apply] at h
    split_ifs at h with hkey
    obtain rfl := Option.some.inj h
    exact hkey.symm
  readable key row h := by
    rw [sampleTable, Function.update_apply] at h
    split_ifs at h
    obtain rfl := Option.some.inj h
    exact ⟨sampleRetryState, rowToState_eq_ok.2 ⟨rfl, validateState_sampleRetryState⟩⟩

/-- The next failure under the key, of a message with the given identifier. -/
def sampleFailure (messageId : String) : RetryFailure where
  consumerName := "normalizer"
  messageKey := "stream:41"
  messageId := some messageId
  occurredAt := 1789000003000000999
  retryBudget := 3
  deliveryAttempt := 2
  errorCode := "CER-NORM-TEST"
  errorMessage := "failed again"
  errorRetryable := true
  nextRetryAt := 1789000004000000999

theorem sampleTable_apply (messageId : String) : sampleTable (sampleFailure messageId).key =
    some ⟨sampleRetryState.columns, violation_columns validateState_sampleRetryState⟩ :=
  Function.update_self ..

/-- The message fails again, and they agree. -/
theorem refines_iff_sampleFailure :
    sampleBinding.Refines sampleTable (sampleFailure "01890a5d-ac96-774b-bcce-b302099a8001") := by
  refine (refines_iff sampleBinding sound_sampleTable (by decide)).2 ?_
  rw [StatementBinding.Agrees, sampleTable_apply]
  exact .inr (by decide)

/-- **A failure of another message is counted for the first one**: the reference refuses it, the
statement records it. -/
theorem not_refines_sampleFailure :
    validateFailure (sampleFailure "01890a5d-ac96-774b-bcce-b302099a8002") = .ok () ∧
    (∃ state, (sampleBinding.record sampleTable
      (sampleFailure "01890a5d-ac96-774b-bcce-b302099a8002")).1 = .ok state ∧
      state.failureCount = 2 ∧
      state.messageId = some "01890a5d-ac96-774b-bcce-b302099a8001") ∧
    advanceRetryState (sampleBinding.stored sampleTable ("normalizer", "stream:41"))
      (sampleFailure "01890a5d-ac96-774b-bcce-b302099a8002") =
        .error (retryStateError "retry message_id changed within one delivery lifecycle") ∧
    ¬ sampleBinding.Refines sampleTable (sampleFailure "01890a5d-ac96-774b-bcce-b302099a8002") := by
  have hreference : advanceRetryState
      (sampleBinding.stored sampleTable ("normalizer", "stream:41"))
      (sampleFailure "01890a5d-ac96-774b-bcce-b302099a8002") =
        .error (retryStateError "retry message_id changed within one delivery lifecycle") := by
    decide
  obtain ⟨state, hstate, hcount, hid⟩ : ∃ state, (sampleBinding.record sampleTable
      (sampleFailure "01890a5d-ac96-774b-bcce-b302099a8002")).1 = .ok state ∧
      state.failureCount = 2 ∧
      state.messageId = some "01890a5d-ac96-774b-bcce-b302099a8001" :=
    ⟨nextState sampleRetryState
      ((sampleFailure "01890a5d-ac96-774b-bcce-b302099a8002").mapTimes sampleBinding.toMicros),
      by decide, by decide, by decide⟩
  refine ⟨by decide, ⟨state, hstate, hcount, hid⟩, hreference, fun h => ?_⟩
  obtain ⟨state', hstate'⟩ := h.succeeds_iff.1 ⟨state, hstate⟩
  exact nomatch hstate'.symm.trans hreference

end Normalizer

end Cerbero
