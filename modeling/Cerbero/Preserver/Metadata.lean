import Mathlib.Data.String.Basic
import Cerbero.Lib.SortedMap
import Cerbero.Preserver.Contract

/-!
# Preserver/Metadata — the PostgreSQL tables of the raw preserver

`system.raw_objects`, `system.outbox` and `system.processed_messages` with their keys, and the
statements `PostgresMetadataStore` runs on them.  A `uuid` column keeps the value, not its spelling:
what is read back is the lower-case text.  A transaction either commits all its rows or none.

`commitPreservation_cases` says what a commit can do; nothing a statement does ever changes a row,
except that a publication becomes published (`Database.le_*`).
-/

namespace Cerbero

namespace Preserver

open Text

def processedResultPreserved : String := "PRESERVED"

/-- A row of `system.outbox`. -/
structure OutboxRow where
  subject : String
  requestId : Option String
  payload : List UInt8
  publishedAt : Option Timestamp
  deriving DecidableEq, Repr

/-- A row of `system.processed_messages`. -/
structure ProcessedRow where
  eventId : String
  publicationMessageId : String
  result : String
  deriving DecidableEq, Repr

/-- The tables, by primary key; a `uuid` key is its lower-case text. -/
structure Database where
  rawObjects : SortedMap String RawObject
  outbox : SortedMap String OutboxRow
  processedMessages : SortedMap (String ×ₗ String) ProcessedRow

namespace Database

/-- The tables before the first message. -/
def empty : Database := ⟨.empty, .empty, .empty⟩

/-- The publication a row of the outbox holds, as it is read back. -/
def publication (key : String) (row : OutboxRow) : Publication :=
  ⟨row.subject, key, row.requestId.getD "", row.payload⟩

/-- The key of a message of a consumer. -/
def processedKey (consumerName messageId : String) : String ×ₗ String :=
  toLex (consumerName, uuidText messageId)

/-- The row of a message of a consumer. -/
def processed (db : Database) (consumerName messageId : String) : Option ProcessedRow :=
  db.processedMessages.get? (processedKey consumerName messageId)

/-- `findMetadataRecord`: the joined row of a message. -/
def findMetadataRecord (db : Database) (consumerName messageId : String) : Option Record := do
  let row ← db.processed consumerName messageId
  let object ← db.rawObjects.get? row.eventId
  let outbox ← db.outbox.get? row.publicationMessageId
  return ⟨consumerName, uuidText messageId, row.eventId, object,
    publication row.publicationMessageId outbox, outbox.publishedAt.isSome⟩

end Database

/-! ## Checks -/

/-- `validateMetadataLookupKey`. -/
def validateMetadataLookupKey (consumerName messageId : String) : Fallible Unit := do
  failIf (isBlank consumerName) "metadata consumer name is required"
  failIf (isBlank messageId) "metadata incoming message_id is required"

/-- `validLowerSHA256`. -/
def validLowerSha256 (value : String) : Bool :=
  (bytes value).length == 64 &&
    (bytes value).all fun b => Validation.isHex b && toAsciiLowercase b == b

/-- `validateMetadataRecord`: everything the rows of a record need, before any of them is written.
-/
def validateMetadataRecord (record : Record) : Fallible Unit := do
  validateMetadataLookupKey record.consumerName record.incomingMessageId
  failIf (isBlank record.eventId) "metadata event_id is required"
  failIf (isBlank record.rawObject.storageUri) "metadata raw storage_uri is required"
  failIf (isBlank record.rawObject.segmentId) "metadata raw segment_id is required"
  failIf (!validLowerSha256 record.rawObject.hash)
    "metadata raw hash must be lowercase SHA-256 hex"
  (validatePublication record.publication).mapError ("metadata outbox publication: " ++ ·)
  failIf record.published "CommitPreservation cannot pre-mark an outbox publication as published"

/-! ## Statements -/

namespace Database

/-- `ensureRawObject`: the row of an event is inserted, or one that is there is compared with it. -/
def ensureRawObject (db : Database) (record : Record) : Fallible Database :=
  match db.rawObjects.get? (uuidText record.eventId) with
  | none =>
    .ok { db with rawObjects := db.rawObjects.insert (uuidText record.eventId) record.rawObject }
  | some actual =>
    if actual = record.rawObject then .ok db
    else .error ("raw preservation metadata conflict: event_id " ++ record.eventId ++
      " maps to different raw locator metadata")

/-- The row an outbox insert makes. -/
def outboxRow (publication : Publication) : OutboxRow :=
  ⟨publication.subject,
    if publication.requestId = "" then none else some (uuidText publication.requestId),
    publication.payload, none⟩

/-- `ensureOutboxPublication`: insert unless the key is there, then compare what is stored. -/
def ensureOutboxPublication (db : Database) (p : Publication) : Fallible Database :=
  let key := uuidText p.messageId
  let row := (db.outbox.get? key).getD (outboxRow p)
  if row.publishedAt.isSome ∨ publication key row ≠ p then
    .error ("raw preservation metadata conflict: message_id " ++ p.messageId ++
      " maps to different or already-published outbox state")
  else .ok { db with outbox := db.outbox.insert key row }

/-- The row a processed message gets. -/
def processedRow (record : Record) : ProcessedRow :=
  ⟨uuidText record.eventId, uuidText record.publication.messageId, processedResultPreserved⟩

/-- The insert into `system.processed_messages`, whose publications are unique.  The winner of a
taken key was looked for before. -/
def insertProcessed (db : Database) (record : Record) : Fallible Database :=
  if (db.processed record.consumerName record.incomingMessageId).isSome then
    .error "processed-message conflict without a visible winner"
  else if db.processedMessages.toList.any fun e =>
      e.2.publicationMessageId == uuidText record.publication.messageId then
    .error "insert processed message: duplicate publication_message_id"
  else .ok ⟨db.rawObjects, db.outbox, db.processedMessages.insert
    (processedKey record.consumerName record.incomingMessageId) (processedRow record)⟩

/-- The statements of a preservation transaction. -/
def preserve (db : Database) (record : Record) : Fallible Database := do
  let db ← db.ensureRawObject record
  let db ← db.ensureOutboxPublication record.publication
  db.insertProcessed record

/-- `Find`. -/
def find (db : Database) (consumerName messageId : String) : Fallible (Option Record) := do
  validateMetadataLookupKey consumerName messageId
  return db.findMetadataRecord consumerName messageId

/-- `CommitPreservation`: one transaction.  A failed statement rolls everything back. -/
def commitPreservation (db : Database) (record : Record) : Fallible Record × Database :=
  match validateMetadataRecord record with
  | .error e => (.error e, db)
  | .ok () =>
    match db.findMetadataRecord record.consumerName record.incomingMessageId with
    | some existing => (.ok existing, db)
    | none =>
      match db.preserve record with
      | .error e => (.error e, db)
      | .ok db' => (.ok record, db')

/-- `MarkPublished`: `now` is the database's clock. -/
def markPublished (db : Database) (now : Timestamp) (consumerName messageId : String) :
    Fallible Unit × Database :=
  match validateMetadataLookupKey consumerName messageId with
  | .error e => (.error e, db)
  | .ok () =>
    match db.processed consumerName messageId with
    | none => (.error "raw preservation metadata record not found", db)
    | some row =>
      match db.outbox.get? row.publicationMessageId with
      | none => (.error "raw preservation metadata record not found", db)
      | some outbox => (.ok (), { db with
          outbox := db.outbox.insert row.publicationMessageId
            { outbox with publishedAt := some (outbox.publishedAt.getD now) } })

/-! ## Rows are kept -/

/-- Every row is kept; a publication may become published. -/
structure Grows (db db' : Database) : Prop where
  rawObjects : ∀ k r, db.rawObjects.get? k = some r → db'.rawObjects.get? k = some r
  outbox : ∀ k row, db.outbox.get? k = some row → ∃ row', db'.outbox.get? k = some row' ∧
    publication k row' = publication k row ∧ (row.publishedAt.isSome → row'.publishedAt.isSome)
  processed : ∀ k row, db.processedMessages.get? k = some row →
    db'.processedMessages.get? k = some row

instance : Preorder Database where
  le := Grows
  le_refl _ := ⟨fun _ _ h => h, fun _ row h => ⟨row, h, rfl, id⟩, fun _ _ h => h⟩
  le_trans a b c h h' := by
    refine ⟨fun k r hr => h'.rawObjects k r (h.rawObjects k r hr), fun k row hrow => ?_,
      fun k row hrow => h'.processed k row (h.processed k row hrow)⟩
    obtain ⟨row', hrow', heq, hpub⟩ := h.outbox k row hrow
    obtain ⟨row'', hrow'', heq', hpub'⟩ := h'.outbox k row' hrow'
    exact ⟨row'', hrow'', heq'.trans heq, hpub' ∘ hpub⟩

theorem findMetadataRecord_eq_some {db : Database} {consumerName messageId : String}
    {record : Record} :
    db.findMetadataRecord consumerName messageId = some record ↔
      ∃ row object outbox, db.processed consumerName messageId = some row ∧
        db.rawObjects.get? row.eventId = some object ∧
        db.outbox.get? row.publicationMessageId = some outbox ∧
        record = ⟨consumerName, uuidText messageId, row.eventId, object,
          publication row.publicationMessageId outbox, outbox.publishedAt.isSome⟩ := by
  simp only [findMetadataRecord, Option.bind_eq_bind, Option.bind_eq_some_iff, Option.pure_def,
    Option.some.injEq]
  exact ⟨fun ⟨row, h1, object, h2, outbox, h3, h4⟩ => ⟨row, object, outbox, h1, h2, h3, h4.symm⟩,
    fun ⟨row, object, outbox, h1, h2, h3, h4⟩ => ⟨row, h1, object, h2, outbox, h3, h4.symm⟩⟩

/-! ## What a transaction did -/

/-- `db'` holds the rows of `record` besides those of `db`. -/
structure Preserved (db : Database) (record : Record) (db' : Database) : Prop where
  grows : db ≤ db'
  processed : db'.processed record.consumerName record.incomingMessageId =
    some (processedRow record)
  rawObject : db'.rawObjects.get? (uuidText record.eventId) = some record.rawObject
  outbox : ∃ row, db'.outbox.get? (uuidText record.publication.messageId) = some row ∧
    row.publishedAt = none ∧
    publication (uuidText record.publication.messageId) row = record.publication
  newObject : ∀ k r, db'.rawObjects.get? k = some r →
    db.rawObjects.get? k = some r ∨ r = record.rawObject
  newOutbox : ∀ k row, db'.outbox.get? k = some row → row.publishedAt.isSome →
    db.outbox.get? k = some row
  newProcessed : ∀ k row, db'.processedMessages.get? k = some row →
    db.processedMessages.get? k = some row ∨
      k = processedKey record.consumerName record.incomingMessageId

theorem ensureRawObject_eq_ok {db db' : Database} {record : Record}
    (h : db.ensureRawObject record = .ok db') :
    db'.rawObjects.get? (uuidText record.eventId) = some record.rawObject ∧
      (∀ k r, db.rawObjects.get? k = some r → db'.rawObjects.get? k = some r) ∧
      (∀ k r, db'.rawObjects.get? k = some r →
        db.rawObjects.get? k = some r ∨ r = record.rawObject) ∧
      db'.outbox = db.outbox ∧ db'.processedMessages = db.processedMessages := by
  unfold ensureRawObject at h
  split at h
  · rename_i hnone
    obtain rfl := Except.ok.inj h
    refine ⟨SortedMap.get?_insert_self _ _ _, fun k r hr => ?_, fun k r hr => ?_, rfl, rfl⟩
    · have hne : k ≠ uuidText record.eventId := by
        rintro rfl
        exact nomatch hnone.symm.trans hr
      rwa [SortedMap.get?_insert_ne _ hne]
    · rw [SortedMap.get?_insert] at hr
      split at hr
      · exact Or.inr (Option.some.inj hr).symm
      · exact Or.inl hr
  · rename_i actual hactual
    split at h
    · rename_i heq
      obtain rfl := Except.ok.inj h
      exact ⟨heq ▸ hactual, fun _ _ hr => hr, fun _ _ hr => Or.inl hr, rfl, rfl⟩
    · exact nomatch h

theorem ensureOutboxPublication_eq_ok {db db' : Database} {p : Publication}
    (h : db.ensureOutboxPublication p = .ok db') :
    ∃ row, row.publishedAt = none ∧ publication (uuidText p.messageId) row = p ∧
      (db.outbox.get? (uuidText p.messageId)).getD row = row ∧
      db' = { db with outbox := db.outbox.insert (uuidText p.messageId) row } := by
  simp only [ensureOutboxPublication] at h
  split at h
  · exact nomatch h
  · rename_i hok
    push Not at hok
    refine ⟨_, Option.not_isSome_iff_eq_none.1 hok.1, hok.2, ?_, (Except.ok.inj h).symm⟩
    match db.outbox.get? (uuidText p.messageId) with
    | none => rfl
    | some row => rfl

theorem insertProcessed_eq_ok {db db' : Database} {record : Record}
    (h : db.insertProcessed record = .ok db') :
    db.processed record.consumerName record.incomingMessageId = none ∧
      db' = ⟨db.rawObjects, db.outbox, db.processedMessages.insert
        (processedKey record.consumerName record.incomingMessageId) (processedRow record)⟩ := by
  unfold insertProcessed at h
  split at h
  · exact nomatch h
  · rename_i hnone
    split at h
    · exact nomatch h
    · exact ⟨Option.not_isSome_iff_eq_none.1 hnone, (Except.ok.inj h).symm⟩

/-- **A committed transaction added the rows of its record and kept all others.** -/
theorem preserved_of_preserve {db db' : Database} {record : Record}
    (h : db.preserve record = .ok db') : Preserved db record db' := by
  obtain ⟨db₁, h₁, h⟩ := bind_eq_ok.1 h
  obtain ⟨db₂, h₂, h₃⟩ := bind_eq_ok.1 h
  obtain ⟨hobject, hkept, hnew, houtbox, hprocessed⟩ := ensureRawObject_eq_ok h₁
  obtain ⟨row, hpub, heq, hold, rfl⟩ := ensureOutboxPublication_eq_ok h₂
  obtain ⟨hfree, rfl⟩ := insertProcessed_eq_ok h₃
  rw [houtbox] at hold
  refine ⟨⟨hkept, fun k row' hrow' => ?_, fun k row' hrow' => ?_⟩, by simp [processed], hobject,
    ⟨row, by simp, hpub, heq⟩, hnew, fun k row' hrow' hsome => ?_, fun k row' hrow' => ?_⟩
  · by_cases hk : k = uuidText record.publication.messageId
    · subst hk
      rw [hrow', Option.getD_some] at hold
      subst hold
      exact ⟨row', by simp, rfl, id⟩
    · exact ⟨row', by rw [SortedMap.get?_insert_ne _ hk, houtbox, hrow'], rfl, id⟩
  · have hk : k ≠ processedKey record.consumerName record.incomingMessageId := by
      rintro rfl
      rw [processed, hprocessed] at hfree
      exact nomatch hfree.symm.trans hrow'
    rw [SortedMap.get?_insert_ne _ hk, hprocessed, hrow']
  · rw [SortedMap.get?_insert] at hrow'
    split at hrow'
    · obtain rfl := Option.some.inj hrow'
      exact nomatch (hpub ▸ hsome : (none : Option Timestamp).isSome)
    · rwa [houtbox] at hrow'
  · rw [SortedMap.get?_insert] at hrow'
    split at hrow'
    · exact Or.inr ‹_›
    · exact Or.inl (hprocessed ▸ hrow')

/-- **What a commit can do**: fail or find the record of another commit, and change nothing, or
add the rows of its own record. -/
theorem commitPreservation_cases (db : Database) (record : Record) :
    (∃ e, db.commitPreservation record = (.error e, db)) ∨
    (∃ existing, db.findMetadataRecord record.consumerName record.incomingMessageId =
      some existing ∧ db.commitPreservation record = (.ok existing, db)) ∨
    ∃ db', Preserved db record db' ∧ db.commitPreservation record = (.ok record, db') := by
  unfold commitPreservation
  split
  · exact Or.inl ⟨_, rfl⟩
  · split
    · exact Or.inr (Or.inl ⟨_, ‹_›, rfl⟩)
    · split
      · exact Or.inl ⟨_, rfl⟩
      · exact Or.inr (Or.inr ⟨_, preserved_of_preserve ‹_›, rfl⟩)

/-- **What marking can do**: fail and change nothing, or set `published_at` of the publication of
the message. -/
theorem markPublished_cases (db : Database) (now : Timestamp) (consumerName messageId : String) :
    (∃ e, db.markPublished now consumerName messageId = (.error e, db)) ∨
    ∃ row outbox, db.processed consumerName messageId = some row ∧
      db.outbox.get? row.publicationMessageId = some outbox ∧
      db.markPublished now consumerName messageId = (.ok (), { db with
        outbox := db.outbox.insert row.publicationMessageId
          { outbox with publishedAt := some (outbox.publishedAt.getD now) } }) := by
  unfold markPublished
  split
  · exact Or.inl ⟨_, rfl⟩
  · split
    · exact Or.inl ⟨_, rfl⟩
    · split
      · exact Or.inl ⟨_, rfl⟩
      · exact Or.inr ⟨_, _, ‹_›, ‹_›, rfl⟩

/-- Setting `published_at` keeps every row. -/
theorem le_setPublished {db : Database} {key : String} {row : OutboxRow} (at' : Timestamp)
    (h : db.outbox.get? key = some row) :
    db ≤ { db with outbox := db.outbox.insert key { row with publishedAt := some at' } } := by
  refine ⟨fun _ _ hr => hr, fun k row' hrow' => ?_, fun _ _ hr => hr⟩
  by_cases hk : k = key
  · subst hk
    obtain rfl := Option.some.inj (h.symm.trans hrow')
    exact ⟨_, SortedMap.get?_insert_self _ _ _, rfl, fun _ => rfl⟩
  · exact ⟨row', by rw [SortedMap.get?_insert_ne _ hk, hrow'], rfl, id⟩

end Database

end Preserver

end Cerbero
