import Mathlib.Logic.Relation
import Cerbero.Preserver.Metadata

/-!
# Preserver/CommitCalls — `CommitPreservation`, statement by statement

Any number of transactions of one message at isolation level READ COMMITTED: a statement sees the
committed rows and those of its own transaction, an `INSERT` waits for a transaction that holds its
key, and a transaction that ends without a commit leaves nothing.  A statement may fail at any time,
a call may be given up, and the reply to a commit may be lost; a publication may be marked published
meanwhile.

A call that runs alone computes `commitPreservation` (**`runs_alone`**).
-/

namespace Cerbero

namespace Preserver

open Text

/-! ## A call -/

/-- The statement a call runs next, or what it has returned. -/
inductive CommitPhase
  | finding
  | insertingRawObject
  | verifyingRawObject
  | insertingOutbox
  | verifyingOutbox
  | insertingProcessed
  | loadingWinner
  | committing
  | done (result : Fallible Record)

/-- **A call under way**, with the rows its transaction has inserted. -/
structure CommitCall where
  record : Record
  phase : CommitPhase
  rawObject : Option RawObject
  outbox : Option OutboxRow
  processed : Option ProcessedRow

namespace CommitCall

def eventKey (call : CommitCall) : String := uuidText call.record.eventId

def publicationKey (call : CommitCall) : String := uuidText call.record.publication.messageId

def messageKey (call : CommitCall) : String ×ₗ String :=
  Database.processedKey call.record.consumerName call.record.incomingMessageId

/-- **What the transaction sees**: the committed rows and its own.  A commit makes it the tables. -/
def view (db : Database) (call : CommitCall) : Database where
  rawObjects := call.rawObject.elim db.rawObjects (db.rawObjects.insert call.eventKey)
  outbox := call.outbox.elim db.outbox (db.outbox.insert call.publicationKey)
  processedMessages := call.processed.elim db.processedMessages
    (db.processedMessages.insert call.messageKey)

/-- The call returns, and its transaction is over. -/
def finish (call : CommitCall) (result : Fallible Record) : CommitCall :=
  ⟨call.record, .done result, none, none, none⟩

/-- The checks before the transaction. -/
def start (record : Record) : CommitCall :=
  match validateMetadataRecord record with
  | .error e => ⟨record, .done (.error e), none, none, none⟩
  | .ok () => ⟨record, .finding, none, none, none⟩

/-- `findMetadataRecord`, before anything is inserted. -/
def find (db : Database) (call : CommitCall) : CommitCall :=
  match (call.view db).findMetadataRecord call.record.consumerName
      call.record.incomingMessageId with
  | some existing => call.finish (.ok existing)
  | none => { call with phase := .insertingRawObject }

/-- The comparison in `ensureRawObject`. -/
def verifyRawObject (db : Database) (call : CommitCall) : CommitCall :=
  match (call.view db).rawObjects.get? call.eventKey with
  | none => call.finish (.error "verify raw locator: sql: no rows in result set")
  | some actual =>
    if actual = call.record.rawObject then { call with phase := .insertingOutbox }
    else call.finish (.error ("raw preservation metadata conflict: event_id " ++
      call.record.eventId ++ " maps to different raw locator metadata"))

/-- The comparison in `ensureOutboxPublication`. -/
def verifyOutbox (db : Database) (call : CommitCall) : CommitCall :=
  match (call.view db).outbox.get? call.publicationKey with
  | none => call.finish (.error "verify outbox publication: sql: no rows in result set")
  | some row =>
    if row.publishedAt.isSome ∨
        Database.publication call.publicationKey row ≠ call.record.publication then
      call.finish (.error ("raw preservation metadata conflict: message_id " ++
        call.record.publication.messageId ++
        " maps to different or already-published outbox state"))
    else { call with phase := .insertingProcessed }

/-- `findMetadataRecord`, after the insert of the processed message found a winner. -/
def loadWinner (db : Database) (call : CommitCall) : CommitCall :=
  match (call.view db).findMetadataRecord call.record.consumerName
      call.record.incomingMessageId with
  | some existing => call.finish (.ok existing)
  | none => call.finish (.error "processed-message conflict without a visible winner")

/-- The call has not returned. -/
def Running (call : CommitCall) : Prop := ∀ result, call.phase ≠ .done result

/-! The keys a transaction holds. -/

def rawObjectKey (call : CommitCall) : Option String := call.rawObject.map fun _ => call.eventKey

def outboxKey (call : CommitCall) : Option String := call.outbox.map fun _ => call.publicationKey

def processedKey (call : CommitCall) : Option (String ×ₗ String) :=
  call.processed.map fun _ => call.messageKey

end CommitCall

/-! ## Runs -/

/-- The committed rows and the calls. -/
structure CommitState where
  committed : Database
  calls : ℕ → Option CommitCall

/-- No other transaction holds a key. -/
def NotHeld {K : Type} (s : CommitState) (i : ℕ) (key : CommitCall → Option K) (k : K) : Prop :=
  ∀ j, j ≠ i → (s.calls j).bind key ≠ some k

/-- Another processed message has the publication. -/
def Database.PublicationUsed (db : Database) (publicationMessageId : String) : Prop :=
  ∃ e ∈ db.processedMessages.toList, e.2.publicationMessageId = publicationMessageId

section

variable (consumerName messageId : String)

/-- A record for one message of a consumer. -/
abbrev Contender :=
  { record : Record // record.consumerName = consumerName ∧
    uuidText record.incomingMessageId = uuidText messageId }

/-- Call `i` goes on as `call`. -/
def CommitState.move (s : CommitState) (i : ℕ) (call : CommitCall) : CommitState :=
  { s with calls := Function.update s.calls i (some call) }

/-- **One statement of one transaction**, or something that happens to it. -/
inductive CommitStep : CommitState → CommitState → Prop
  | start (s : CommitState) (i : ℕ) (contender : Contender consumerName messageId)
      (hi : s.calls i = none) : CommitStep s (s.move i (.start contender.1))
  | find (s : CommitState) (i : ℕ) (call : CommitCall) (hi : s.calls i = some call)
      (hphase : call.phase = .finding) : CommitStep s (s.move i (call.find s.committed))
  /-- `INSERT INTO system.raw_objects ... ON CONFLICT DO NOTHING` -/
  | insertRawObject (s : CommitState) (i : ℕ) (call : CommitCall) (hi : s.calls i = some call)
      (hphase : call.phase = .insertingRawObject)
      (hnone : s.committed.rawObjects.get? call.eventKey = none)
      (hfree : NotHeld s i CommitCall.rawObjectKey call.eventKey) :
      CommitStep s (s.move i
        { call with phase := .verifyingRawObject, rawObject := some call.record.rawObject })
  | skipRawObject (s : CommitState) (i : ℕ) (call : CommitCall) (hi : s.calls i = some call)
      (hphase : call.phase = .insertingRawObject)
      (hsome : (s.committed.rawObjects.get? call.eventKey).isSome) :
      CommitStep s (s.move i { call with phase := .verifyingRawObject })
  | verifyRawObject (s : CommitState) (i : ℕ) (call : CommitCall) (hi : s.calls i = some call)
      (hphase : call.phase = .verifyingRawObject) :
      CommitStep s (s.move i (call.verifyRawObject s.committed))
  /-- `INSERT INTO system.outbox ... ON CONFLICT DO NOTHING` -/
  | insertOutbox (s : CommitState) (i : ℕ) (call : CommitCall) (hi : s.calls i = some call)
      (hphase : call.phase = .insertingOutbox)
      (hnone : s.committed.outbox.get? call.publicationKey = none)
      (hfree : NotHeld s i CommitCall.outboxKey call.publicationKey) :
      CommitStep s (s.move i { call with
        phase := .verifyingOutbox
        outbox := some (Database.outboxRow call.record.publication) })
  | skipOutbox (s : CommitState) (i : ℕ) (call : CommitCall) (hi : s.calls i = some call)
      (hphase : call.phase = .insertingOutbox)
      (hsome : (s.committed.outbox.get? call.publicationKey).isSome) :
      CommitStep s (s.move i { call with phase := .verifyingOutbox })
  | verifyOutbox (s : CommitState) (i : ℕ) (call : CommitCall) (hi : s.calls i = some call)
      (hphase : call.phase = .verifyingOutbox) :
      CommitStep s (s.move i (call.verifyOutbox s.committed))
  /-- `INSERT INTO system.processed_messages ... ON CONFLICT DO NOTHING` -/
  | insertProcessed (s : CommitState) (i : ℕ) (call : CommitCall) (hi : s.calls i = some call)
      (hphase : call.phase = .insertingProcessed)
      (hnone : s.committed.processedMessages.get? call.messageKey = none)
      (hfree : NotHeld s i CommitCall.processedKey call.messageKey)
      (hunused : ¬ s.committed.PublicationUsed call.publicationKey) :
      CommitStep s (s.move i { call with
        phase := .committing
        processed := some (Database.processedRow call.record) })
  | skipProcessed (s : CommitState) (i : ℕ) (call : CommitCall) (hi : s.calls i = some call)
      (hphase : call.phase = .insertingProcessed)
      (hsome : (s.committed.processedMessages.get? call.messageKey).isSome) :
      CommitStep s (s.move i { call with phase := .loadingWinner })
  | loadWinner (s : CommitState) (i : ℕ) (call : CommitCall) (hi : s.calls i = some call)
      (hphase : call.phase = .loadingWinner) :
      CommitStep s (s.move i (call.loadWinner s.committed))
  /-- `COMMIT`, with its reply or without it. -/
  | commit (s : CommitState) (i : ℕ) (call : CommitCall) (result : Fallible Record)
      (hi : s.calls i = some call) (hphase : call.phase = .committing)
      (hresult : result = .ok call.record ∨ ∃ e, result = .error e) :
      CommitStep s ⟨call.view s.committed, Function.update s.calls i (some (call.finish result))⟩
  /-- A statement fails, also for the key of a publication, a deadlock or a lost connection. -/
  | fail (s : CommitState) (i : ℕ) (call : CommitCall) (e : String) (hi : s.calls i = some call)
      (hrunning : call.Running) : CommitStep s (s.move i (call.finish (.error e)))
  | stop (s : CommitState) (i : ℕ) (call : CommitCall) (hi : s.calls i = some call)
      (hrunning : call.Running) : CommitStep s { s with calls := Function.update s.calls i none }
  /-- `MarkPublished` of the message. -/
  | publish (s : CommitState) (now : Timestamp) :
      CommitStep s { s with committed := (s.committed.markPublished now consumerName messageId).2 }

/-- The states a run reaches. -/
def CommitReachable (db : Database) : CommitState → Prop :=
  Relation.ReflTransGen (CommitStep consumerName messageId) ⟨db, fun _ => none⟩

end

/-! ## A call alone -/

namespace Database

/-- The foreign keys of `system.processed_messages`. -/
def Linked (db : Database) : Prop :=
  ∀ k row, db.processedMessages.get? k = some row →
    (db.rawObjects.get? row.eventId).isSome ∧ (db.outbox.get? row.publicationMessageId).isSome

theorem linked_empty : empty.Linked := fun _ _ h => nomatch h

/-- The record of a message that has a row. -/
theorem Linked.exists_find {db : Database} (h : db.Linked) {consumerName messageId : String}
    {row : ProcessedRow} (hrow : db.processed consumerName messageId = some row) :
    ∃ found, db.findMetadataRecord consumerName messageId = some found ∧
      found.eventId = row.eventId ∧ found.publication.messageId = row.publicationMessageId := by
  obtain ⟨hobject, houtbox⟩ := h _ _ hrow
  obtain ⟨object, hobject⟩ := Option.isSome_iff_exists.1 hobject
  obtain ⟨outbox, houtbox⟩ := Option.isSome_iff_exists.1 houtbox
  exact ⟨_, findMetadataRecord_eq_some.2 ⟨row, object, outbox, hrow, hobject, houtbox, rfl⟩,
    rfl, rfl⟩

end Database

section

variable {consumerName messageId : String} {s : CommitState} {i : ℕ} {call : CommitCall}

theorem CommitCall.view_eq_self {db : Database} (hrawObject : call.rawObject = none)
    (houtbox : call.outbox = none) (hprocessed : call.processed = none) : call.view db = db := by
  simp [view, hrawObject, houtbox, hprocessed]

theorem move_move (s : CommitState) (i : ℕ) (call call' : CommitCall) :
    (s.move i call).move i call' = s.move i call' := by
  simp only [CommitState.move, Function.update_idem]

theorem calls_move (s : CommitState) (i : ℕ) (call : CommitCall) :
    (s.move i call).calls i = some call := Function.update_self i _ _

/-- No other call holds a key. -/
def Unopposed (s : CommitState) (i : ℕ) : Prop :=
  ∀ j call, j ≠ i → s.calls j = some call →
    call.rawObject = none ∧ call.outbox = none ∧ call.processed = none

theorem Unopposed.notHeld (h : Unopposed s i) {K : Type} {key : CommitCall → Option K}
    (hkey : ∀ call : CommitCall, call.rawObject = none → call.outbox = none →
      call.processed = none → key call = none) (k : K) : NotHeld (s.move i call) i key k := by
  intro j hj hheld
  have hcalls : (s.move i call).calls j = s.calls j := Function.update_of_ne hj _ _
  rw [hcalls] at hheld
  obtain ⟨other, hother, hk⟩ := Option.bind_eq_some_iff.1 hheld
  obtain ⟨hrawObject, houtbox, hprocessed⟩ := h j other hj hother
  exact nomatch (hkey other hrawObject houtbox hprocessed).symm.trans hk

section

variable (consumerName messageId s i)

/-- Call `i` goes on alone from `call`, and its transaction ends with `outcome`. -/
def Ends (call : CommitCall) (outcome : Fallible Database) : Prop :=
  Relation.ReflTransGen (CommitStep consumerName messageId) (s.move i call)
    (match outcome with
    | .error e => s.move i (call.finish (.error e))
    | .ok db => ⟨db, Function.update s.calls i (some (call.finish (.ok call.record)))⟩)

end

theorem Ends.head {call' : CommitCall} {outcome : Fallible Database}
    (hstep : CommitStep consumerName messageId (s.move i call) ((s.move i call).move i call'))
    (hrecord : call'.record = call.record) (h : Ends consumerName messageId s i call' outcome) :
    Ends consumerName messageId s i call outcome := by
  rw [move_move] at hstep
  unfold Ends CommitCall.finish at h ⊢
  rw [hrecord] at h
  exact .head hstep h

theorem ends_of_finish {e : String}
    (hstep : CommitStep consumerName messageId (s.move i call)
      ((s.move i call).move i (call.finish (.error e)))) :
    Ends consumerName messageId s i call (.error e) := by
  rw [move_move] at hstep
  exact .single hstep

theorem ends_committing (hphase : call.phase = .committing) :
    Ends consumerName messageId s i call (.ok (call.view s.committed)) := by
  have hstep : CommitStep consumerName messageId (s.move i call) _ :=
    .commit (s.move i call) i call _ (calls_move s i call) hphase (.inl rfl)
  rw [CommitState.move, Function.update_idem] at hstep
  exact .single hstep

theorem ends_insertingProcessed (hs : Unopposed s i) (hphase : call.phase = .insertingProcessed)
    (hprocessed : call.processed = none)
    (hnone : s.committed.processed call.record.consumerName call.record.incomingMessageId = none) :
    Ends consumerName messageId s i call
      ((call.view s.committed).insertProcessed call.record) := by
  have hview : (call.view s.committed).processedMessages = s.committed.processedMessages := by
    simp [CommitCall.view, hprocessed]
  unfold Database.insertProcessed
  rw [Database.processed, hview]
  rw [Database.processed] at hnone
  rw [hnone, if_neg (by simp)]
  split
  · refine ends_of_finish (.fail _ i call _ (calls_move s i call) fun result hdone => ?_)
    cases hphase.symm.trans hdone
  · rename_i hunused
    have hunused' : ¬ s.committed.PublicationUsed call.publicationKey := by
      simpa [Database.PublicationUsed, CommitCall.publicationKey] using hunused
    refine .head (.insertProcessed _ i call (calls_move s i call) hphase hnone
      (hs.notHeld (fun _ _ _ hp => by simp [CommitCall.processedKey, hp]) _) hunused') rfl ?_
    have hends : Ends consumerName messageId s i
        { call with
          phase := .committing
          processed := some (Database.processedRow call.record) } _ := ends_committing rfl
    exact hends

theorem insert_of_get? {K V : Type} [LinearOrder K] {m : SortedMap K V} {k : K} {v : V}
    (h : m.get? k = some v) : m.insert k v = m := by
  refine SortedMap.ext_get? fun k' => ?_
  rw [SortedMap.get?_insert]
  split
  · rename_i hk
    rw [hk, h]
  · rfl

theorem ends_verifyingOutbox (hs : Unopposed s i) (hphase : call.phase = .verifyingOutbox)
    (hprocessed : call.processed = none) {row : OutboxRow}
    (hrow : (call.view s.committed).outbox.get? call.publicationKey = some row)
    (hnone : s.committed.processed call.record.consumerName call.record.incomingMessageId = none) :
    Ends consumerName messageId s i call
      ((call.view s.committed).ensureOutboxPublication call.record.publication >>= fun db =>
        db.insertProcessed call.record) := by
  have hstep : CommitStep consumerName messageId (s.move i call)
      ((s.move i call).move i (call.verifyOutbox s.committed)) :=
    .verifyOutbox (s.move i call) i call (calls_move s i call) hphase
  have hkey : uuidText call.record.publication.messageId = call.publicationKey := rfl
  simp only [CommitCall.verifyOutbox, hrow] at hstep
  simp only [Database.ensureOutboxPublication, hkey, hrow, Option.getD_some]
  by_cases hconflict : row.publishedAt.isSome ∨
      Database.publication call.publicationKey row ≠ call.record.publication
  · rw [if_pos hconflict] at hstep ⊢
    exact ends_of_finish hstep
  · rw [if_neg hconflict] at hstep
    rw [if_neg hconflict, ok_bind, insert_of_get? hrow]
    have hends : Ends consumerName messageId s i { call with phase := .insertingProcessed } _ :=
      ends_insertingProcessed hs rfl hprocessed hnone
    exact .head hstep rfl hends

theorem ends_insertingOutbox (hs : Unopposed s i) (hphase : call.phase = .insertingOutbox)
    (houtbox : call.outbox = none) (hprocessed : call.processed = none)
    (hnone : s.committed.processed call.record.consumerName call.record.incomingMessageId = none) :
    Ends consumerName messageId s i call
      ((call.view s.committed).ensureOutboxPublication call.record.publication >>= fun db =>
        db.insertProcessed call.record) := by
  have hview : (call.view s.committed).outbox = s.committed.outbox := by
    simp [CommitCall.view, houtbox]
  match hrow : s.committed.outbox.get? call.publicationKey with
  | some row =>
    refine .head (.skipOutbox _ i call (calls_move s i call) hphase
      (Option.isSome_iff_exists.2 ⟨row, hrow⟩)) rfl ?_
    have hends : Ends consumerName messageId s i { call with phase := .verifyingOutbox } _ :=
      ends_verifyingOutbox hs rfl hprocessed (hview ▸ hrow) hnone
    exact hends
  | none =>
    refine .head (.insertOutbox _ i call (calls_move s i call) hphase hrow
      (hs.notHeld (fun _ _ ho _ => by simp [CommitCall.outboxKey, ho]) _)) rfl ?_
    have hends : Ends consumerName messageId s i
        { call with
          phase := .verifyingOutbox
          outbox := some (Database.outboxRow call.record.publication) } _ :=
      ends_verifyingOutbox hs rfl hprocessed (SortedMap.get?_insert_self _ _ _) hnone
    -- the row it would insert is the one it has inserted
    have heq : Database.ensureOutboxPublication (CommitCall.view s.committed
        { call with
          phase := .verifyingOutbox
          outbox := some (Database.outboxRow call.record.publication) }) call.record.publication =
        (call.view s.committed).ensureOutboxPublication call.record.publication := by
      simp only [CommitCall.publicationKey] at hrow
      simp only [Database.ensureOutboxPublication, hview, hrow, Option.getD_none]
      simp [CommitCall.view, CommitCall.publicationKey, insert_of_get?]
      rfl
    rw [← heq]
    exact hends

theorem ends_verifyingRawObject (hs : Unopposed s i) (hphase : call.phase = .verifyingRawObject)
    (houtbox : call.outbox = none) (hprocessed : call.processed = none) {actual : RawObject}
    (hactual : (call.view s.committed).rawObjects.get? call.eventKey = some actual)
    (hnone : s.committed.processed call.record.consumerName call.record.incomingMessageId = none) :
    Ends consumerName messageId s i call ((call.view s.committed).preserve call.record) := by
  have hstep : CommitStep consumerName messageId (s.move i call)
      ((s.move i call).move i (call.verifyRawObject s.committed)) :=
    .verifyRawObject (s.move i call) i call (calls_move s i call) hphase
  have hkey : uuidText call.record.eventId = call.eventKey := rfl
  simp only [CommitCall.verifyRawObject, hactual] at hstep
  simp only [Database.preserve, Database.ensureRawObject, hkey, hactual]
  by_cases heq : actual = call.record.rawObject
  · rw [if_pos heq] at hstep
    rw [if_pos heq, ok_bind]
    have hends : Ends consumerName messageId s i { call with phase := .insertingOutbox } _ :=
      ends_insertingOutbox hs rfl houtbox hprocessed hnone
    exact .head hstep rfl hends
  · rw [if_neg heq] at hstep ⊢
    exact ends_of_finish hstep

theorem ends_insertingRawObject (hs : Unopposed s i) (hphase : call.phase = .insertingRawObject)
    (hrawObject : call.rawObject = none) (houtbox : call.outbox = none)
    (hprocessed : call.processed = none)
    (hnone : s.committed.processed call.record.consumerName call.record.incomingMessageId = none) :
    Ends consumerName messageId s i call ((call.view s.committed).preserve call.record) := by
  have hview : (call.view s.committed).rawObjects = s.committed.rawObjects := by
    simp [CommitCall.view, hrawObject]
  match hobject : s.committed.rawObjects.get? call.eventKey with
  | some object =>
    refine .head (.skipRawObject _ i call (calls_move s i call) hphase
      (Option.isSome_iff_exists.2 ⟨object, hobject⟩)) rfl ?_
    have hends : Ends consumerName messageId s i { call with phase := .verifyingRawObject } _ :=
      ends_verifyingRawObject hs rfl houtbox hprocessed (hview ▸ hobject) hnone
    exact hends
  | none =>
    refine .head (.insertRawObject _ i call (calls_move s i call) hphase hobject
      (hs.notHeld (fun _ hr _ _ => by simp [CommitCall.rawObjectKey, hr]) _)) rfl ?_
    have hends : Ends consumerName messageId s i
        { call with
          phase := .verifyingRawObject
          rawObject := some call.record.rawObject } _ :=
      ends_verifyingRawObject hs rfl houtbox hprocessed (SortedMap.get?_insert_self _ _ _) hnone
    have heq : Database.ensureRawObject (CommitCall.view s.committed
        { call with
          phase := .verifyingRawObject
          rawObject := some call.record.rawObject }) call.record =
        (call.view s.committed).ensureRawObject call.record := by
      simp only [CommitCall.eventKey] at hobject
      simp only [Database.ensureRawObject, hview, hobject]
      simp [CommitCall.view, CommitCall.eventKey]
      exact ⟨rfl, rfl⟩
    rw [Database.preserve, ← heq]
    exact hends

/-- **A call alone computes `commitPreservation`.** -/
theorem runs_alone (hs : Unopposed s i) (hi : s.calls i = none) (hlinked : s.committed.Linked)
    (contender : Contender consumerName messageId) :
    Relation.ReflTransGen (CommitStep consumerName messageId) s
      ⟨(s.committed.commitPreservation contender.1).2, Function.update s.calls i (some
        ⟨contender.1, .done (s.committed.commitPreservation contender.1).1, none, none, none⟩)⟩ := by
  obtain ⟨record, hrecord⟩ := contender
  have hstart : CommitStep consumerName messageId s (s.move i (.start record)) :=
    .start s i ⟨record, hrecord⟩ hi
  unfold Database.commitPreservation
  dsimp only
  match hvalid : validateMetadataRecord record with
  | .error e =>
    rw [CommitCall.start, hvalid] at hstart
    exact .single hstart
  | .ok () =>
    rw [CommitCall.start, hvalid] at hstart
    refine .head hstart ?_
    have hfind : CommitStep consumerName messageId
        (s.move i ⟨record, .finding, none, none, none⟩)
        ((s.move i ⟨record, .finding, none, none, none⟩).move i
          (.find s.committed ⟨record, .finding, none, none, none⟩)) :=
      .find _ i _ (calls_move s i _) rfl
    have hview : CommitCall.view s.committed ⟨record, .finding, none, none, none⟩ = s.committed :=
      rfl
    dsimp only
    match hfound : s.committed.findMetadataRecord record.consumerName
        record.incomingMessageId with
    | some existing =>
      have hcall : CommitCall.find s.committed ⟨record, .finding, none, none, none⟩ =
          ⟨record, .done (.ok existing), none, none, none⟩ := by
        simp only [CommitCall.find, hview, hfound, CommitCall.finish]
      rw [move_move, hcall] at hfind
      exact .single hfind
    | none =>
      have hcall : CommitCall.find s.committed ⟨record, .finding, none, none, none⟩ =
          ⟨record, .insertingRawObject, none, none, none⟩ := by
        simp only [CommitCall.find, hview, hfound]
      have hnone : s.committed.processed record.consumerName record.incomingMessageId = none := by
        match hrow : s.committed.processed record.consumerName record.incomingMessageId with
        | none => rfl
        | some row =>
          obtain ⟨found, hsome, -⟩ := hlinked.exists_find hrow
          exact nomatch hfound.symm.trans hsome
      have hends : Ends consumerName messageId s i ⟨record, .insertingRawObject, none, none, none⟩
          (s.committed.preserve record) := ends_insertingRawObject hs rfl rfl rfl rfl hnone
      rw [move_move, hcall] at hfind
      refine .head hfind ?_
      match hpreserve : s.committed.preserve record with
      | .error e =>
        rw [hpreserve] at hends
        exact hends
      | .ok db =>
        rw [hpreserve] at hends
        exact hends

end

end Preserver

end Cerbero
