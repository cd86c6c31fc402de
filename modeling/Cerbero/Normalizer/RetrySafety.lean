import Cerbero.Normalizer.Delivery
import Cerbero.Normalizer.Rederivation

/-!
# Normalizer/RetrySafety — what becomes of a message

Deliveries of one message, one after the other, each given up at any point.  A message is done only
when its event is stored and announced, or when its dead letter is stored (`StationInv`), its retry
state is what the failures since the last clearing make of it, and a message that has to be isolated
is not processed: **`retrySafety`**.
-/

namespace Cerbero

namespace Normalizer

open Text
open Prog (attempt checked)
open Machine (OnOk onOk_true)
open Serial (Safe safe_imp safe_bind safe_try safe_lift safe_checked_bind)

/-! ## One processing -/

/-- The outcomes of an operation, whatever the Raw Store holds. -/
def RuntimeOutcome (o : RuntimeOp) (w : Warehouse) (r : o.Response) (w' : Warehouse) : Prop :=
  ∃ raw, Warehouse.Outcomes raw o w r w'

/-- **The event of a message is stored, and announced.** -/
def Accepted (incoming : IncomingRawPersisted) (w : Warehouse) : Prop :=
  ∃ row, w.rows.get? row.logicalKey = some row ∧ row.rawEventId = incoming.persisted.eventId ∧
    (row, incoming.requestId) ∈ w.published

/-- A program of a worker, on its own. -/
abbrev SafeAlone {α : Type} (Q : α → Warehouse → Prop) (p : Task α) (w : Warehouse) : Prop :=
  Safe RuntimeOutcome (fun _ => True) (fun _ _ => True) (OnOk Q) p.run w

theorem safeAlone_readRaw (persisted : RawEventPersisted) (w : Warehouse) :
    SafeAlone (fun _ _ => True) (attempt (request (.readRaw persisted))) w :=
  ⟨trivial, trivial, fun _ _ _ => ⟨trivial, onOk_true _ _⟩⟩

theorem safeAlone_findRow (key : String) (w : Warehouse) :
    SafeAlone (fun found w' => w'.rows.get? key = found) (attempt (request (.findRow key))) w := by
  refine ⟨trivial, trivial, fun r w' ⟨raw, ho⟩ => ⟨trivial, ?_⟩⟩
  obtain ho | ⟨⟨e, rfl, -⟩, -⟩ := ho
  · obtain ⟨rfl, rfl⟩ := Prod.mk.inj ho
    rfl
  · trivial

theorem safeAlone_insertRow (row : StoredNormalization) (w : Warehouse) :
    SafeAlone (fun _ _ => True) (attempt (request (.insertRow row))) w :=
  ⟨trivial, trivial, fun _ _ _ => ⟨trivial, onOk_true _ _⟩⟩

/-- An announcement that is accepted. -/
theorem safeAlone_publishNormalized {incoming : IncomingRawPersisted} {row : StoredNormalization}
    {w : Warehouse} (hrow : w.rows.get? row.logicalKey = some row)
    (hraw : row.rawEventId = incoming.persisted.eventId) :
    SafeAlone (fun _ w' => Accepted incoming w')
      (attempt (request (.publishNormalized row incoming.requestId))) w := by
  refine ⟨trivial, trivial, fun r w' ⟨raw, ho⟩ => ⟨trivial, ?_⟩⟩
  obtain ho | ⟨⟨e, rfl, -⟩, -⟩ := ho
  · obtain ⟨rfl, rfl⟩ := Prod.mk.inj ho
    exact ⟨row, hrow, hraw, List.mem_append_right _ (List.mem_singleton_self _)⟩
  · trivial

theorem safeAlone_findByLogicalKey (key : String) (w : Warehouse) :
    SafeAlone (fun found w' => w'.rows.get? key = found) (findByLogicalKey key) w :=
  safe_checked_bind trivial fun _ _ => safeAlone_findRow key w

theorem safeAlone_insertAndReadBack (row : StoredNormalization) (w : Warehouse) :
    SafeAlone (fun stored w' => w'.rows.get? row.logicalKey = some stored)
      (insertAndReadBack row) w := by
  refine safe_checked_bind trivial fun _ _ => ?_
  refine safe_try (safeAlone_insertRow row w) fun _ w' _ _ => ?_
  refine safe_try (safeAlone_findByLogicalKey row.logicalKey w') fun found w' _ hfound => ?_
  match found with
  | some stored => exact ⟨trivial, hfound⟩
  | none => exact ⟨trivial, trivial⟩

/-- A row that passes the comparison with an identity. -/
theorem validateExistingIdentity_eq_ok {row : StoredNormalization} {rawEventId : String}
    {identity : DerivationIdentity}
    (h : validateExistingIdentity row rawEventId identity = .ok ()) :
    row.logicalKey = identity.logicalKey ∧ row.rawEventId = rawEventId := by
  have hmatches := refuseIf_eq_ok.1 h
  simp only [Bool.not_eq_eq_eq_not, Bool.not_false, Bool.and_eq_true, beq_iff_eq] at hmatches
  tauto

/-- The key of a candidate is that of its plan. -/
theorem logicalKey_of_fromPlan {config : RuntimeConfig} {plan : NormalizationPlan}
    {ingestTime : Timestamp} {incoming : CerberoEnvelope} {publicationMessageId : String}
    {row : StoredNormalization}
    (h : fromPlan config plan ingestTime incoming publicationMessageId = .ok row) :
    row.logicalKey = plan.logicalKey := by
  unfold fromPlan at h
  split at h
  · exact nomatch h
  · split at h
    · exact nomatch h
    · obtain rfl := Except.ok.inj h
      rfl

section

variable {lib : Libraries} {core : NormalizerCore} {config : RuntimeConfig} {readings : Readings}
  {incoming : IncomingRawPersisted}

theorem rawEventId_of_normalize {envelope : CerberoEnvelope} {persisted : RawEventPersisted}
    {raw : List UInt8} {plan : NormalizationPlan}
    (h : normalize lib core readings envelope persisted raw = .ok plan) :
    plan.normalizedEvent.rawEventId = persisted.eventId := by
  obtain ⟨-, parsed, -, hbuild⟩ := normalize_eq_ok h
  obtain ⟨-, _, _, _, _, -, -, -, hplan⟩ := buildNormalizationPlan_eq_ok hbuild
  exact hplan.rawEventId

theorem safeAlone_normalizeAndStore (identity : DerivationIdentity) (raw : List UInt8)
    (w : Warehouse) : SafeAlone (fun _ w' => Accepted incoming w')
      (normalizeAndStore lib core config readings incoming identity raw) w := by
  refine safe_checked_bind trivial fun plan hplan => ?_
  refine safe_checked_bind trivial fun _ _ => ?_
  refine safe_checked_bind trivial fun ingestTime _ => ?_
  refine safe_checked_bind trivial fun candidate hcandidate => ?_
  refine safe_try (safeAlone_insertAndReadBack candidate w) fun stored w' _ hstored => ?_
  refine safe_checked_bind trivial fun _ hvalid => ?_
  obtain ⟨hidentity, -⟩ := check_bind_eq_ok.1 hvalid
  obtain ⟨hkey, hraw⟩ := validateExistingIdentity_eq_ok hidentity
  refine safeAlone_publishNormalized ?_ (hraw.trans (rawEventId_of_normalize hplan))
  rw [hkey, ← hstored, logicalKey_of_fromPlan hcandidate]
  rfl

theorem safeAlone_processRaw (raw : List UInt8) (w : Warehouse) :
    SafeAlone (fun _ w' => Accepted incoming w') (processRaw lib core config readings incoming raw)
      w := by
  unfold processRaw
  split
  · split
    · exact ⟨trivial, trivial⟩
    · exact ⟨trivial, trivial⟩
  · rename_i identity _
    refine safe_try (safeAlone_findByLogicalKey identity.logicalKey w)
      fun found w' _ hfound => ?_
    match found with
    | some existing =>
      refine safe_checked_bind trivial fun _ hvalid => ?_
      obtain ⟨hkey, hraw⟩ := validateExistingIdentity_eq_ok hvalid
      exact safeAlone_publishNormalized (hkey ▸ hfound) hraw
    | none => exact safeAlone_normalizeAndStore identity raw w'

/-- **A message that is processed is stored and announced.** -/
theorem safeAlone_processMessage (w : Warehouse) :
    SafeAlone (fun _ w' => Accepted incoming w')
      (processMessage lib core config readings incoming) w :=
  safe_try (safeAlone_readRaw incoming.persisted w) fun raw w' _ _ => safeAlone_processRaw raw w'

end

/-! ## What is kept -/

/-- The failures since the last clearing, after one more write. -/
def lifecycleStep (key : String × String) (failures : List RetryFailure) :
    RetryWrite → List RetryFailure
  | .recorded failure => if failure.key = key then failures ++ [failure] else failures
  | .cleared k => if k = key then [] else failures

/-- The failures recorded under a key since it was last cleared. -/
def sinceCleared (key : String × String) (writes : List RetryWrite) : List RetryFailure :=
  writes.foldl (lifecycleStep key) []

theorem sinceCleared_concat (key : String × String) (writes : List RetryWrite)
    (write : RetryWrite) : sinceCleared key (writes ++ [write]) =
      lifecycleStep key (sinceCleared key writes) write :=
  List.foldl_concat ..

/-- **A row is what the failures since the last clearing make of it**: the budget and the time of
the first of them, and how many they are. -/
def LifecycleOf (failures : List RetryFailure) : Option RetryRow → Prop
  | none => failures = []
  | some row => ∃ first rest, failures = first :: rest ∧
      row.retryBudget = first.retryBudget.toNat ∧ row.firstFailureAt = first.occurredAt ∧
      row.failureCount = failures.length ∧ row.failureCount ≤ row.retryBudget

/-- **The invariant** of the deliveries of a message. -/
structure StationInv (lib : Libraries) (codecs : Codecs) (message : RawMessage) (w : Station) :
    Prop where
  lifecycle : ∀ key, LifecycleOf (sinceCleared key w.writes) (w.retry key)
  acked : w.doubleAcked = true → ∃ incoming, decodeRawPersisted codecs message = .ok incoming ∧
    Accepted incoming w.warehouse
  terminated : w.terminated = true → ∃ letter ∈ w.deadLetters,
    ∃ consumer failure parserIdentity consumerSequence dlqRecordId,
      letter = deadLetterOf lib codecs message consumer failure parserIdentity consumerSequence
        dlqRecordId

/-- The row under a key, if any, does not require isolation. -/
def Retryable (key : String × String) (w : Station) : Prop :=
  ∀ row, w.retry key = some row → row.isolationRequired = false

/-- Processing is for messages that do not have to be isolated. -/
def Permitted (lib : Libraries) (message : RawMessage) (input : DeliveryInput) :
    DeliveryOp → Station → Prop
  | .process _, w => ∀ consumer,
      normalizerConsumerName input.core.executionMode input.config.replayInput = .ok consumer →
        Retryable (consumer, deliveryIdentity lib message) w
  | _, _ => True

/-! ## Rows -/

theorem store_eq_ok {columns : RetryColumns} {row : RetryRow} (h : columns.store = .ok row) :
    row.toRetryColumns = columns := by
  unfold RetryColumns.store at h
  split at h
  · obtain rfl := Except.ok.inj h
    rfl
  · exact nomatch h

/-- What the checks say about the numbers of a row. -/
theorem RetryRow.numbers (row : RetryRow) :
    1 ≤ row.failureCount ∧ row.failureCount ≤ row.retryBudget := by
  have h := row.checked
  simp only [RetryColumns.violation, ite_eq_iff, reduceCtorEq, and_false, false_or] at h
  obtain ⟨-, -, hcount, -, -, -, hbudget, -⟩ := h
  exact ⟨not_lt.1 hcount, not_lt.1 hbudget⟩

/-- **What the statement writes.** -/
theorem upsert_eq_ok {failure : RetryFailure} {row : RetryRow} :
    ∀ {stored : Option RetryRow}, upsert failure stored = .ok (some row) →
      stored = none ∧ row.toRetryColumns = firstFailure failure ∨
        ∃ before, stored = some before ∧ row.toRetryColumns = nextFailure failure before
  | none, h => by
      unfold upsert at h
      match hstore : (firstFailure failure).store, h with
      | .ok row', h =>
        obtain rfl := Option.some.inj (Except.ok.inj h)
        exact .inl ⟨rfl, store_eq_ok hstore⟩
  | some before, h => by
      unfold upsert at h
      dsimp only at h
      split at h
      · match hstore : (nextFailure failure before).store, h with
        | .ok row', h =>
          obtain rfl := Option.some.inj (Except.ok.inj h)
          exact .inr ⟨before, rfl, store_eq_ok hstore⟩
      · exact nomatch h

/-- A first failure starts a lifecycle, a further one continues it. -/
theorem lifecycleOf_upsert {failure : RetryFailure} {failures : List RetryFailure}
    {stored : Option RetryRow} {row : RetryRow} (hlife : LifecycleOf failures stored)
    (h : upsert failure stored = .ok (some row)) :
    LifecycleOf (failures ++ [failure]) (some row) := by
  obtain ⟨rfl, hrow⟩ | ⟨before, rfl, hrow⟩ := upsert_eq_ok h
  · obtain rfl := hlife
    refine ⟨failure, [], rfl, ?_, ?_, ?_, row.numbers.2⟩
    all_goals
      rw [hrow]
      rfl
  · obtain ⟨first, rest, rfl, hbudget, hfirst, hcount, -⟩ := hlife
    refine ⟨first, rest ++ [failure], rfl, ?_, ?_, ?_, row.numbers.2⟩
    · rw [hrow]
      exact hbudget
    · rw [hrow]
      exact hfirst
    · rw [hrow, List.length_append]
      exact (congrArg (· + 1) hcount).trans (by push_cast; rfl)

/-- What is read says whether the message has to be isolated, as the row does. -/
theorem isolationRequired_of_rowToState {row : RetryRow} {state : RetryState}
    (h : rowToState row = .ok state) : state.isolationRequired = row.isolationRequired := by
  obtain ⟨count, hcount, h⟩ := bind_eq_ok.1 h
  obtain ⟨budget, hbudget, h⟩ := bind_eq_ok.1 h
  obtain ⟨-, h⟩ := check_bind_eq_ok.1 h
  obtain rfl := Except.ok.inj h
  have hle : (budget ≤ count) ↔ row.retryBudget ≤ row.failureCount := by
    unfold u32FromBigint at hcount hbudget
    split_ifs at hcount hbudget with hc hb
    obtain rfl := Except.ok.inj hcount
    obtain rfl := Except.ok.inj hbudget
    rw [UInt32.le_iff_toNat_le, UInt32.toNat_ofNat', UInt32.toNat_ofNat']
    omega
  show (decide (budget ≤ count) || !row.lastErrorRetryable) = _
  rw [decide_eq_decide.2 hle]
  rfl

/-! ## Operations -/

/-- What is stored and announced stays so. -/
theorem accepted_of_outcome {incoming : IncomingRawPersisted} {o : RuntimeOp} {w w' : Warehouse}
    {r : o.Response} (ho : RuntimeOutcome o w r w') (h : Accepted incoming w) :
    Accepted incoming w' := by
  obtain ⟨raw, ho⟩ := ho
  have hw' : w' = w ∨ w' = (Warehouse.effect raw o w).2 := by
    obtain ho | ⟨-, ho⟩ := ho
    · exact .inr (congrArg Prod.snd ho)
    · exact ho
  obtain rfl | rfl := hw'
  · exact h
  · obtain ⟨row, hrow, hraw, hpub⟩ := h
    match o with
    | .readRaw _ => exact ⟨row, hrow, hraw, hpub⟩
    | .findRow _ => exact ⟨row, hrow, hraw, hpub⟩
    | .insertRow _ => exact ⟨row, Warehouse.get?_keep hrow, hraw, hpub⟩
    | .publishNormalized _ _ => exact ⟨row, hrow, hraw, List.mem_append_left _ hpub⟩

section

variable {lib : Libraries} {codecs : Codecs} {message : RawMessage} {w : Station}

theorem stationInv_warehouse {warehouse : Warehouse} (hw : StationInv lib codecs message w)
    (h : ∀ incoming, Accepted incoming w.warehouse → Accepted incoming warehouse) :
    StationInv lib codecs message { w with warehouse := warehouse } :=
  { hw with
    acked := fun hacked =>
      let ⟨incoming, hdecode, haccepted⟩ := hw.acked hacked
      ⟨incoming, hdecode, h incoming haccepted⟩ }

theorem stationInv_record {failure : RetryFailure} {row : RetryRow}
    (hw : StationInv lib codecs message w)
    (h : upsert failure (w.retry failure.key) = .ok (some row)) :
    StationInv lib codecs message (w.record failure row) :=
  { hw with
    lifecycle := fun key => by
      show LifecycleOf (sinceCleared key (w.writes ++ [_])) (Function.update w.retry _ _ key)
      rw [sinceCleared_concat, lifecycleStep]
      split
      · rename_i hkey
        obtain rfl := hkey
        rw [Function.update_self]
        exact lifecycleOf_upsert (hw.lifecycle _) h
      · rename_i hkey
        rw [Function.update_of_ne (Ne.symm hkey)]
        exact hw.lifecycle key }

theorem stationInv_clear (hw : StationInv lib codecs message w) (k : String × String) :
    StationInv lib codecs message (w.clear k) :=
  { hw with
    lifecycle := fun key => by
      show LifecycleOf (sinceCleared key (w.writes ++ [_])) (Function.update w.retry _ _ key)
      rw [sinceCleared_concat, lifecycleStep]
      split
      · rename_i hkey
        obtain rfl := hkey
        rw [Function.update_self]
        rfl
      · rename_i hkey
        rw [Function.update_of_ne (Ne.symm hkey)]
        exact hw.lifecycle key }

theorem stationInv_letter (hw : StationInv lib codecs message w)
    (letter : NormalizationDeadLetter) :
    StationInv lib codecs message { w with deadLetters := w.deadLetters ++ [letter] } :=
  { hw with
    terminated := fun h =>
      let ⟨found, hfound, hof⟩ := hw.terminated h
      ⟨found, List.mem_append_left _ hfound, hof⟩ }

/-! ## One delivery -/

variable {input : DeliveryInput}

/-- A program of a delivery. -/
abbrev SafeDelivery {α : Type} (lib : Libraries) (codecs : Codecs) (message : RawMessage)
    (input : DeliveryInput) (Q : α → Station → Prop) (p : DeliveryTask α) (w : Station) : Prop :=
  Safe Station.Outcomes (StationInv lib codecs message) (Permitted lib message input) (OnOk Q)
    p.run w

theorem safe_load (hw : StationInv lib codecs message w) (key : String × String) :
    SafeDelivery lib codecs message input (fun found w' => w'.retry key = found)
      (attempt (perform (.load key))) w := by
  refine ⟨hw, trivial, ?_⟩
  rintro r _ ⟨rfl, rfl | ⟨e, rfl⟩⟩
  · exact ⟨hw, rfl⟩
  · exact ⟨hw, trivial⟩

/-- What is loaded is what the row says. -/
theorem safe_loadState (hw : StationInv lib codecs message w) (key : String × String) :
    SafeDelivery lib codecs message input (fun state w' => ∀ row, w'.retry key = some row →
      ∃ found, state = some found ∧ found.isolationRequired = row.isolationRequired)
      (loadState key) w := by
  refine safe_checked_bind hw fun _ _ => ?_
  refine safe_try (safe_load hw key) fun found w' hw' hfound => ?_
  match found with
  | none => exact ⟨hw', fun row hrow => nomatch hfound.symm.trans hrow⟩
  | some row =>
    refine safe_checked_bind hw' fun state hstate => ⟨hw', fun row' hrow' => ⟨state, rfl, ?_⟩⟩
    obtain rfl := Option.some.inj (hfound.symm.trans hrow')
    exact isolationRequired_of_rowToState hstate

theorem safe_upsert (hw : StationInv lib codecs message w) (failure : RetryFailure) :
    SafeDelivery lib codecs message input (fun _ _ => True)
      (attempt (perform (.upsert failure))) w := by
  refine ⟨hw, trivial, fun r w' ho => ?_⟩
  suffices hw' : StationInv lib codecs message w' from ⟨hw', onOk_true _ _⟩
  simp only [Station.Outcomes] at ho
  split at ho
  · rename_i row hrow
    obtain ⟨rfl, -⟩ | ⟨rfl, -⟩ := ho
    · exact stationInv_record hw hrow
    · exact hw
  · exact ho.1 ▸ hw
  · exact ho.1 ▸ hw

theorem safe_recordFailure (hw : StationInv lib codecs message w) (failure : RetryFailure) :
    SafeDelivery lib codecs message input (fun _ _ => True) (recordFailure failure) w := by
  refine safe_checked_bind hw fun _ _ => ?_
  refine safe_try (safe_upsert hw failure) fun found w' hw' _ => ?_
  match found with
  | some row => exact ⟨hw', onOk_true _ _⟩
  | none =>
    refine safe_try (safe_loadState hw' _) fun state w' hw' _ => ?_
    match state with
    | none => exact ⟨hw', trivial⟩
    | some state =>
      dsimp only
      split
      · exact ⟨hw', trivial⟩
      · exact ⟨hw', trivial⟩

/-- An operation that is done or fails. -/
theorem post_of_done {done w' : Station} {r : Outcome Unit} {Q : Unit → Station → Prop}
    (h : Station.Done w done r w') (hw : StationInv lib codecs message w)
    (hdone : StationInv lib codecs message done) (hq : Q () done) :
    StationInv lib codecs message w' ∧ OnOk Q r w' := by
  obtain rfl | ⟨rfl, e, rfl⟩ := h
  · match r with
    | .ok () => exact ⟨hdone, hq⟩
    | .error _ => exact ⟨hdone, trivial⟩
  · exact ⟨hw, trivial⟩

theorem safe_clearState (hw : StationInv lib codecs message w) (key : String × String) :
    SafeDelivery lib codecs message input (fun _ w' => w'.warehouse = w.warehouse)
      (clearState key) w :=
  safe_checked_bind hw fun _ _ =>
    ⟨hw, trivial, fun _ _ ho => post_of_done ho hw (stationInv_clear hw key) rfl⟩

theorem safe_nak (hw : StationInv lib codecs message w) (delay : ℕ) :
    SafeDelivery lib codecs message input (fun _ _ => True) (attempt (perform (.nak delay))) w := by
  refine ⟨hw, trivial, fun r w' ho => ?_⟩
  obtain rfl : w' = w := ho
  exact ⟨hw, onOk_true _ _⟩

theorem safe_doubleAck {incoming : IncomingRawPersisted} (hw : StationInv lib codecs message w)
    (hdecode : decodeRawPersisted codecs message = .ok incoming)
    (haccepted : Accepted incoming w.warehouse) :
    SafeDelivery lib codecs message input (fun _ _ => True) (attempt (perform .doubleAck)) w :=
  ⟨hw, trivial, fun _ _ ho =>
    post_of_done ho hw { hw with acked := fun _ => ⟨incoming, hdecode, haccepted⟩ } trivial⟩

theorem safe_term {state : RetryState} {readings : DeliveryReadings}
    {parserIdentity : Option (String × String)} (hw : StationInv lib codecs message w)
    (hletter : letterFor lib codecs message readings state parserIdentity ∈ w.deadLetters) :
    SafeDelivery lib codecs message input (fun _ _ => True) (attempt (perform .term)) w :=
  ⟨hw, trivial, fun _ _ ho =>
    post_of_done ho hw { hw with terminated := fun _ => ⟨_, hletter, _, _, _, _, _, rfl⟩ } trivial⟩

/-- Naming the parser changes nothing. -/
theorem safe_bestEffortParserIdentity (core : NormalizerCore)
    (hw : StationInv lib codecs message w) :
    Safe Station.Outcomes (StationInv lib codecs message) (Permitted lib message input)
      (fun _ _ => True) (bestEffortParserIdentity codecs core message) w := by
  unfold bestEffortParserIdentity
  split
  · exact ⟨hw, trivial⟩
  · refine safe_bind (Q := fun _ _ => True)
      ⟨hw, trivial, fun _ _ ho => ⟨(ho : _ = w) ▸ hw, trivial⟩⟩ fun r w' hw' _ => ?_
    match r with
    | .error _ => exact ⟨hw', trivial⟩
    | .ok raw =>
      dsimp only
      split
      · exact ⟨hw', trivial⟩
      · exact ⟨hw', trivial⟩

section

variable (core : NormalizerCore) (config : DeliveryConfig) (readings : DeliveryReadings)

/-- **The message is terminated once its dead letter is there.** -/
theorem safe_handleIsolation (hw : StationInv lib codecs message w) (state : RetryState) :
    SafeDelivery lib codecs message input (fun _ _ => True)
      (handleIsolation lib codecs core config message readings state) w := by
  refine safe_try (safe_lift (safe_bestEffortParserIdentity core hw))
    fun parserIdentity w' hw' _ => ?_
  refine safe_try (safe_lift (Q := OnOk fun _ w' =>
    letterFor lib codecs message readings state parserIdentity ∈ w'.deadLetters)
    ⟨hw', trivial, fun _ _ ho => post_of_done ho hw' (stationInv_letter hw' _)
      (List.mem_append_right _ (List.mem_singleton_self _))⟩) fun r w'' hw'' hr => ?_
  match r with
  | .ok () =>
    refine safe_try (safe_term hw'' hr) fun _ w hw _ => ?_
    exact safe_imp (fun _ _ _ _ => onOk_true _ _) (safe_clearState hw _)
  | .error _ => exact safe_nak hw'' _

theorem safe_handleProcessingFailure (hw : StationInv lib codecs message w)
    (consumerName : String) (messageId : Option String) (error : NormalizerError) :
    SafeDelivery lib codecs message input (fun _ _ => True)
      (handleProcessingFailure lib codecs core config message readings consumerName messageId error)
      w := by
  refine safe_checked_bind hw fun nextRetryAt _ => ?_
  refine safe_try (safe_recordFailure hw _) fun state w' hw' _ => ?_
  split
  · exact safe_handleIsolation core config readings hw' state
  · exact safe_nak hw' _

end

/-- **Processing, where it is permitted.** -/
theorem safe_embed {α : Type} {Q : α → Warehouse → Prop} {consumer : String}
    (hconsumer :
      normalizerConsumerName input.core.executionMode input.config.replayInput = .ok consumer) :
    ∀ {p : Prog runtimeInterface α} {w : Station}, StationInv lib codecs message w →
      Retryable (consumer, deliveryIdentity lib message) w →
      Safe RuntimeOutcome (fun _ => True) (fun _ _ => True) Q p w.warehouse →
      Safe Station.Outcomes (StationInv lib codecs message) (Permitted lib message input)
        (fun a w' => Q a w'.warehouse)
        (@Prog.embed runtimeInterface deliveryInterface _ DeliveryOp.process (fun _ r => r) p) w
  | .pure _, _, hw, _, h => ⟨hw, h.2⟩
  | .perform o next, w, hw, hretry, h => by
      refine ⟨hw, ?_, ?_⟩
      · intro name hname
        obtain rfl := Except.ok.inj (hconsumer.symm.trans hname)
        exact hretry
      · rintro r _ ⟨raw, warehouse, ho, rfl⟩
        refine safe_embed hconsumer (stationInv_warehouse hw fun incoming =>
          accepted_of_outcome ⟨raw, ho⟩) hretry (h.2.2 r warehouse ⟨raw, ho⟩)

theorem safe_deliver {consumer : String} (hw : StationInv lib codecs message w)
    (hconsumer :
      normalizerConsumerName input.core.executionMode input.config.replayInput = .ok consumer)
    (hretry : Retryable (consumer, deliveryIdentity lib message) w) :
    SafeDelivery lib codecs message input (fun _ _ => True)
      (deliver lib codecs input.core input.config message input.readings consumer) w := by
  unfold deliver
  split
  · exact safe_handleProcessingFailure _ _ _ hw _ _ _
  · rename_i incoming hdecode
    refine safe_checked_bind hw fun messageId _ => ?_
    refine safe_try (safe_lift (safe_embed hconsumer hw hretry
      (safeAlone_processMessage w.warehouse))) fun r w' hw' hr => ?_
    match r with
    | .ok () =>
      refine safe_try (safe_clearState hw' _) fun _ w'' hw'' hsame => ?_
      exact safe_doubleAck hw'' hdecode (hsame ▸ hr)
    | .error _ => exact safe_handleProcessingFailure _ _ _ hw' _ _ _

/-- **One delivery.** -/
theorem safe_handleMessage (hw : StationInv lib codecs message w) :
    SafeDelivery lib codecs message input (fun _ _ => True)
      (handleMessage lib codecs input.core input.config message input.readings) w := by
  refine safe_checked_bind hw fun consumer hconsumer => ?_
  refine safe_try (safe_loadState hw _) fun state w' hw' hstate => ?_
  split
  · exact safe_handleIsolation _ _ _ hw' _
  · rename_i hnone
    refine safe_deliver hw' hconsumer fun row hrow => ?_
    obtain ⟨found, rfl, hfound⟩ := hstate row hrow
    rw [← hfound]
    simpa [Option.filter] using hnone

end

/-! ## Every run -/

/-- Nothing has happened to the message yet. -/
structure Station.Fresh (w : Station) : Prop where
  retry : ∀ key, w.retry key = none
  writes : w.writes = []
  doubleAcked : w.doubleAcked = false
  terminated : w.terminated = false

theorem stationInv_of_fresh {lib : Libraries} {codecs : Codecs} {message : RawMessage}
    {w : Station} (h : w.Fresh) : StationInv lib codecs message w where
  lifecycle key := by
    rw [h.retry, h.writes]
    rfl
  acked hacked := nomatch h.doubleAcked.symm.trans hacked
  terminated hterminated := nomatch h.terminated.symm.trans hterminated

/-- **Every run of deliveries** keeps the invariant, and processes the message only where its retry
state does not require isolation. -/
theorem retrySafety {lib : Libraries} {codecs : Codecs} {message : RawMessage} {w : Station}
    (hw : w.Fresh) {s : Serial.State deliveryInterface Station DeliveryInput (Outcome Unit)}
    (hs : Serial.Reachable (deliveryProgram lib codecs message) Station.Outcomes w s) :
    StationInv lib codecs message s.shared ∧
      ∀ input o next, s.call = some (input, .perform (.process o) next) → ∀ consumer,
        normalizerConsumerName input.core.executionMode input.config.replayInput = .ok consumer →
        Retryable (consumer, deliveryIdentity lib message) s.shared := by
  have hkept : Serial.Kept Station.Outcomes (StationInv lib codecs message) (Permitted lib message)
      (fun _ => OnOk fun _ _ => True) s :=
    Serial.safe_of_reachable _ _ (fun _ _ hinv => safe_handleMessage hinv)
      (stationInv_of_fresh hw) hs
  exact ⟨hkept.1, fun input o next hcall => (hkept.2 input _ hcall).2.1⟩

/-! ### A message that cannot be decoded -/

/-- What an operation does when nothing is wrong; `raw` is what the Raw Store holds. -/
def Station.effect (raw : List UInt8) : (o : DeliveryOp) → Station → o.Response × Station
  | .load key, w => (.ok (w.retry key), w)
  | .upsert failure, w =>
    match upsert failure (w.retry failure.key) with
    | .ok (some row) => (.ok (some row), w.record failure row)
    | .ok none => (.ok none, w)
    | .error e => (.error e, w)
  | .clear key, w => (.ok (), w.clear key)
  | .process o, w => ((Warehouse.effect raw o w.warehouse).1,
      { w with warehouse := (Warehouse.effect raw o w.warehouse).2 })
  | .readRaw _, w => (.ok raw, w)
  | .publishDlq letter, w => (.ok (), { w with deadLetters := w.deadLetters ++ [letter] })
  | .doubleAck, w => (.ok (), { w with doubleAcked := true })
  | .term, w => (.ok (), { w with terminated := true })
  | .nak _, w => (.ok (), w)

theorem outcomes_effect (raw : List UInt8) : ∀ (o : DeliveryOp) (w : Station),
    Station.Outcomes o w (Station.effect raw o w).1 (Station.effect raw o w).2
  | .load _, _ => ⟨rfl, .inl rfl⟩
  | .upsert failure, w => by
      simp only [Station.Outcomes, Station.effect]
      obtain e | _ | _ := upsert failure (w.retry failure.key)
      · exact ⟨rfl, e, rfl⟩
      · exact ⟨rfl, .inl rfl⟩
      · exact .inl ⟨rfl, .inl rfl⟩
  | .clear _, _ => .inl rfl
  | .process _, _ => ⟨raw, _, .inl rfl, rfl⟩
  | .readRaw _, _ => rfl
  | .publishDlq _, _ => .inl rfl
  | .doubleAck, _ => .inl rfl
  | .term, _ => .inl rfl
  | .nak _, _ => rfl

/-- The same, while the stream of the dead letters takes none. -/
def Station.stalled (raw : List UInt8) : (o : DeliveryOp) → Station → o.Response × Station
  | .publishDlq _, w => (.error ⟨"CER-NORM-DLQ-PUBLISH-ACK",
      "unexpected normalization DLQ PubAck stream= sequence=0", true⟩, w)
  | o, w => Station.effect raw o w

theorem outcomes_stalled (raw : List UInt8) (o : DeliveryOp) (w : Station) :
    Station.Outcomes o w (Station.stalled raw o w).1 (Station.stalled raw o w).2 := by
  cases o with
  | publishDlq letter => exact .inr ⟨rfl, _, rfl⟩
  | _ => exact outcomes_effect raw _ w

/-- A message with one byte that is no tag. -/
def undecodable : RawMessage := ⟨"cerbero.v1.raw.persisted", [0], some 7, none, none, none, none⟩

/-- `prost` and `uuid` on that message. -/
def undecodableCodecs : Codecs where
  decodeEnvelope _ := .error "failed to decode Protobuf message: invalid tag value: 0"
  decodePersisted _ := .error "failed to decode Protobuf message: invalid tag value: 0"
  parseUuid _ := .error "invalid length: expected length 32 for simple format, found 0"

/-- SHA-256 on what a delivery of that message digests. -/
def undecodableLibraries : Libraries where
  sha256LowerHex data := if data = [0] then
      "6e340b9cffb37a989ca544e6bb780a2c78901d3fb33738768511a30617afa01d"
    else "dc073b579fc9e0a2d54c7c22534a19398f4c40d035a15d6168c094e37e0eb427"
  f64Bits _ := none
  isLowerHex_sha256 data := by
    split
    all_goals decide +kernel

/-- A delivery of the message. -/
def undecodableInput (delivered : ℤ) : DeliveryInput where
  core := sampleCore
  config := ⟨⟨"1", "normalizer-1"⟩, .historical, 1000000000, 60000000000, 5⟩
  readings := ⟨delivered, 7, 1789000002000000, "01995000-0000-7000-8000-000000000020",
    sampleReadings ⟨1789000002, 0⟩⟩

def emptyStation : Station := ⟨⟨.ofList [], []⟩, fun _ => none, [], [], false, false⟩

/-- What a delivery of the message leaves. -/
def undecodableDelivered (handler : (o : DeliveryOp) → Station → o.Response × Station)
    (delivered : ℤ) (w : Station) : Station :=
  ((deliveryProgram undecodableLibraries undecodableCodecs undecodable
    (undecodableInput delivered)).run handler w).2

/-- The first delivery, whose dead letter is not taken. -/
def stalledStation : Station := undecodableDelivered (Station.stalled []) 1 emptyStation

/-- The second one, which finds what the first one recorded. -/
def settledStation : Station := undecodableDelivered (Station.effect []) 2 stalledStation

/-- The message has to be isolated after the first delivery, and is terminated by the second one,
with its dead letter stored. -/
theorem retrySafety_undecodable : stalledStation.deadLetters = [] ∧
    stalledStation.terminated = false ∧ stalledStation.writes.length = 1 ∧
    StationInv undecodableLibraries undecodableCodecs undecodable stalledStation ∧
    settledStation.terminated = true ∧ settledStation.writes.length = 2 ∧
    settledStation.deadLetters.map NormalizationDeadLetter.errorCode =
      ["CER-NORM-ENVELOPE-DECODE"] ∧
    StationInv undecodableLibraries undecodableCodecs undecodable settledStation := by
  have hstart : Serial.Reachable (deliveryProgram undecodableLibraries undecodableCodecs undecodable)
      Station.Outcomes emptyStation ⟨emptyStation, some (undecodableInput 1, _)⟩ :=
    .single (.start emptyStation (undecodableInput 1))
  have hfirst := Serial.reachable_run (outcomes_stalled []) (undecodableInput 1) _ _ hstart
  have hagain := (hfirst.tail (.stop _ _ _)).tail (.start _ (undecodableInput 2))
  have hsecond := Serial.reachable_run (outcomes_effect []) (undecodableInput 2) _ _ hagain
  have hfresh : emptyStation.Fresh := ⟨fun _ => rfl, rfl, rfl, rfl⟩
  exact ⟨by decide +kernel, by decide +kernel, by decide +kernel, (retrySafety hfresh hfirst).1,
    by decide +kernel, by decide +kernel, by decide +kernel, (retrySafety hfresh hsecond).1⟩

end Normalizer

end Cerbero
