import Cerbero.Preserver.Core

/-!
# Preserver/Invariant — what holds between the stores at any moment

The three stores share no transaction.  `Safe` is what every operation keeps between them: a raw
file holds a delivered payload, a raw object's file is durable, a processed message has its object
and its publication, a published publication is in the stream, and whatever was sent for a message
is the publication of its row.  `Allowed` is what an operation needs for that; **`safe_of_outcome`**
covers every outcome, failures included.
-/

namespace Cerbero

namespace Preserver

open FileTree

/-! ## Growth -/

namespace World

/-- Files, rows, accepted and sent publications are kept. -/
structure Grows (w w' : World) : Prop where
  files : w.files ≤ w'.files
  db : w.db ≤ w'.db
  stream : ∀ p ∈ w.stream, p ∈ w'.stream
  sent : ∀ p ∈ w.sent, p ∈ w'.sent

instance : Preorder World where
  le := Grows
  le_refl w := ⟨le_refl w.files, le_refl w.db, fun _ h => h, fun _ h => h⟩
  le_trans _ _ _ h h' := ⟨le_trans h.files h'.files, le_trans h.db h'.db,
    fun p hp => h'.stream p (h.stream p hp), fun p hp => h'.sent p (h.sent p hp)⟩

/-- A step that only grows the database grows the world. -/
theorem le_of_db {w : World} {db : Database} (h : w.db ≤ db) : w ≤ { w with db := db } :=
  ⟨le_refl w.files, h, fun _ h => h, fun _ h => h⟩

/-- The rows of a message and what they hold. -/
def Rows (w : World) (consumerName messageId : String) (object : RawObject)
    (publication : Publication) (published : Bool) : Prop :=
  ∃ row outbox, w.db.processed consumerName messageId = some row ∧
    w.db.rawObjects.get? row.eventId = some object ∧
    w.db.outbox.get? row.publicationMessageId = some outbox ∧
    Database.publication row.publicationMessageId outbox = publication ∧
    (published → outbox.publishedAt.isSome)

/-- What the rows of a message say stays true in every later world. -/
theorem Rows.mono {w w' : World} (h : w ≤ w') {consumerName messageId : String}
    {object : RawObject} {publication : Publication} {published : Bool}
    (hw : w.Rows consumerName messageId object publication published) :
    w'.Rows consumerName messageId object publication published := by
  obtain ⟨row, outbox, hrow, hobject, houtbox, heq, hpub⟩ := hw
  obtain ⟨outbox', houtbox', heq', hpub'⟩ := h.db.outbox _ _ houtbox
  exact ⟨row, outbox', h.db.processed _ _ hrow, h.db.rawObjects _ _ hobject, houtbox',
    heq'.trans heq, hpub' ∘ hpub⟩

/-- A message has one publication. -/
theorem Rows.unique {w : World} {consumerName messageId messageId' : String}
    {object object' : RawObject} {publication publication' : Publication} {b b' : Bool}
    (h : w.Rows consumerName messageId object publication b)
    (h' : w.Rows consumerName messageId' object' publication' b')
    (hid : uuidText messageId = uuidText messageId') : publication = publication' := by
  obtain ⟨row, outbox, hrow, -, houtbox, rfl, -⟩ := h
  obtain ⟨row', outbox', hrow', -, houtbox', rfl, -⟩ := h'
  have hkey : w.db.processed consumerName messageId = w.db.processed consumerName messageId' := by
    simp only [Database.processed, Database.processedKey, hid]
  obtain rfl := Option.some.inj (hrow.symm.trans (hkey.trans hrow'))
  obtain rfl := Option.some.inj (houtbox.symm.trans houtbox')
  rfl

end World

/-! ## The invariant -/

section

variable (codec : Codec) (payloads : Set (List UInt8))

/-- **The file of a raw object is durable**, and holds a delivered payload of its hash and
length. -/
def Stored (w : World) (object : RawObject) : Prop :=
  ∃ dir contents, object.storageUri = storageUri (dir ++ [filesystemRawDataFilename]) ∧
    w.files.Durable (dir ++ [filesystemRawDataFilename]) (.file contents) ∧
    contents ∈ payloads ∧ codec.sha256LowerHex contents = object.hash ∧
    contents.length = object.length

/-- **What holds between the stores.** -/
structure Safe (w : World) : Prop where
  rawFile : ∀ dir contents disk, w.files (dir ++ [filesystemRawDataFilename]) =
    some ⟨.file contents, disk⟩ → contents ∈ payloads
  object : ∀ k object, w.db.rawObjects.get? k = some object → Stored codec payloads w object
  joined : ∀ k row, w.db.processedMessages.get? k = some row →
    (∃ object, w.db.rawObjects.get? row.eventId = some object) ∧
      ∃ outbox, w.db.outbox.get? row.publicationMessageId = some outbox
  published : ∀ k outbox, w.db.outbox.get? k = some outbox → outbox.publishedAt.isSome →
    Database.publication k outbox ∈ w.stream
  sent : ∀ consumerName messageId publication,
    ((consumerName, messageId), publication) ∈ w.sent →
      ∃ object, w.Rows consumerName messageId object publication false

/-- What an operation needs to keep `Safe`. -/
def Allowed (w : World) : Op → Prop
  | .link path contents => ∀ dir, path = dir ++ [filesystemRawDataFilename] → contents ∈ payloads
  | .commitPreservation record => Stored codec payloads w record.rawObject
  | .publishMsg consumerName messageId publication =>
    ∃ object, w.Rows consumerName messageId object publication false
  | .markPublished consumerName messageId => ∃ object publication,
    w.Rows consumerName messageId object publication false ∧ publication ∈ w.stream
  | _ => True

variable {codec payloads}

/-- What is stored durably is stored in every later tree of files. -/
theorem Stored.mono {w w' : World} (h : w.files ≤ w'.files) {object : RawObject}
    (hw : Stored codec payloads w object) : Stored codec payloads w' object := by
  obtain ⟨dir, contents, huri, hdurable, hrest⟩ := hw
  exact ⟨dir, contents, huri, hdurable.mono h, hrest⟩

/-- Nothing is stored and nothing is referenced: the empty world is safe. -/
theorem safe_empty : Safe codec payloads .empty where
  rawFile _ _ _ h := nomatch h
  object _ _ h := nomatch h
  joined _ _ h := nomatch h
  published _ _ h := nomatch h
  sent _ _ _ h := nomatch h

/-! ## Files -/

/-- Only the files of the world change, and they grow. -/
theorem safe_of_files {w : World} (hw : Safe codec payloads w)
    {files : FileTree String (List UInt8)} (hle : w.files ≤ files)
    (hraw : ∀ dir contents disk, files (dir ++ [filesystemRawDataFilename]) =
      some ⟨.file contents, disk⟩ → contents ∈ payloads) :
    Safe codec payloads { w with files := files } ∧ w ≤ { w with files := files } :=
  ⟨⟨hraw, fun k object h => (hw.object k object h).mono hle, hw.joined, hw.published,
      hw.sent⟩,
    ⟨hle, le_rfl, fun _ h => h, fun _ h => h⟩⟩

/-- **A new entry keeps the world safe** if a raw file among the new ones holds a payload of the
run. -/
theorem safe_create {w : World} (hw : Safe codec payloads w) {path : Path}
    {node : FileNode (List UInt8)} (hnone : w.files path = none)
    (hnode : ∀ dir contents, path = dir ++ [filesystemRawDataFilename] → node = .file contents →
      contents ∈ payloads) :
    Safe codec payloads { w with files := w.files.create path node } ∧
      w ≤ { w with files := w.files.create path node } := by
  refine safe_of_files hw (le_create hnone) fun dir contents disk h => ?_
  unfold create at h
  split at h
  · exact hnode dir contents (by simp [*]) (by simpa using congrArg FileEntry.node (Option.some.inj h))
  · exact hw.rawFile dir contents disk h

/-- A sync only makes entries durable. -/
theorem safe_sync {w : World} (hw : Safe codec payloads w) (path : Path) :
    Safe codec payloads { w with files := w.files.sync path } ∧
      w ≤ { w with files := w.files.sync path } := by
  refine safe_of_files hw (le_sync _ _) fun dir contents disk h => ?_
  obtain ⟨e, he, heq⟩ := Option.map_eq_some_iff.1 h
  obtain ⟨node, disk'⟩ := e
  obtain rfl : node = .file contents := congrArg FileEntry.node heq
  exact hw.rawFile dir contents disk' he

/-- A directory is no raw file, so making one keeps the world safe whatever its path. -/
theorem safe_makeDirectory {w : World} (hw : Safe codec payloads w) (path : Path) :
    Safe codec payloads { w with files := (makeDirectory w.files path).2 } ∧
      w ≤ { w with files := (makeDirectory w.files path).2 } := by
  unfold makeDirectory
  split
  · exact ⟨hw, le_rfl⟩
  · exact ⟨hw, le_rfl⟩
  · split
    · exact safe_create hw ‹_› fun _ _ _ h => nomatch h
    · exact ⟨hw, le_rfl⟩

/-- A link writes the contents it is given, or nothing if the name is taken. -/
theorem safe_link {w : World} (hw : Safe codec payloads w) {path : Path} {contents : List UInt8}
    (hallowed : ∀ dir, path = dir ++ [filesystemRawDataFilename] → contents ∈ payloads) :
    Safe codec payloads { w with files := (link w.files path contents).2 } ∧
      w ≤ { w with files := (link w.files path contents).2 } := by
  unfold link
  split
  · exact ⟨hw, le_rfl⟩
  · split
    · refine safe_create hw ‹_› fun dir _ hpath h => ?_
      obtain rfl := FileNode.file.inj h
      exact hallowed dir hpath
    · exact ⟨hw, le_rfl⟩

/-! ## Rows -/

/-- **A commit keeps the world safe if its object is stored durably**: this is where the order of
the raw store before the database counts. -/
theorem safe_commitPreservation {w : World} (hw : Safe codec payloads w) {record : Record}
    (hstored : Stored codec payloads w record.rawObject) :
    Safe codec payloads { w with db := (w.db.commitPreservation record).2 } ∧
      w ≤ { w with db := (w.db.commitPreservation record).2 } := by
  obtain ⟨e, h⟩ | ⟨existing, -, h⟩ | ⟨db, hdb, h⟩ := w.db.commitPreservation_cases record
  · rw [h]
    exact ⟨hw, le_rfl⟩
  · rw [h]
    exact ⟨hw, le_rfl⟩
  · rw [h]
    have hle := World.le_of_db hdb.grows
    refine ⟨⟨hw.rawFile, fun k object hk => ?_, fun k row hk => ?_, fun k outbox hk hsome => ?_,
      fun c m p hp => (hw.sent c m p hp).imp fun _ hr => hr.mono hle⟩, hle⟩
    · obtain hold | rfl := hdb.newObject k object hk
      · exact hw.object k object hold
      · exact hstored
    · obtain hold | rfl := hdb.newProcessed k row hk
      · obtain ⟨⟨object, hobject⟩, outbox, houtbox⟩ := hw.joined k row hold
        obtain ⟨outbox', houtbox', -⟩ := hdb.grows.outbox _ _ houtbox
        exact ⟨⟨object, hdb.grows.rawObjects _ _ hobject⟩, outbox', houtbox'⟩
      · obtain rfl := Option.some.inj (hdb.processed.symm.trans hk)
        obtain ⟨outbox, houtbox, -⟩ := hdb.outbox
        exact ⟨⟨_, hdb.rawObject⟩, outbox, houtbox⟩
    · exact hw.published k outbox (hdb.newOutbox k outbox hk hsome) hsome

/-- A publication is marked only after the stream has accepted it. -/
theorem safe_markPublished {w : World} (hw : Safe codec payloads w) (now : Timestamp)
    {consumerName messageId : String} {object : RawObject} {p : Publication}
    (hrows : w.Rows consumerName messageId object p false) (haccepted : p ∈ w.stream) :
    Safe codec payloads { w with db := (w.db.markPublished now consumerName messageId).2 } ∧
      w ≤ { w with db := (w.db.markPublished now consumerName messageId).2 } := by
  obtain ⟨e, h⟩ | ⟨row, outbox, hrow, houtbox, h⟩ :=
    w.db.markPublished_cases now consumerName messageId
  · rw [h]
    exact ⟨hw, le_rfl⟩
  · rw [h]
    have hle := Database.le_setPublished (outbox.publishedAt.getD now) houtbox
    have hle' := World.le_of_db hle
    obtain ⟨row', outbox', hrow', -, houtbox', heq, -⟩ := hrows
    obtain rfl := Option.some.inj (hrow.symm.trans hrow')
    obtain rfl := Option.some.inj (houtbox.symm.trans houtbox')
    refine ⟨⟨hw.rawFile, hw.object, fun k row' hk => ?_, fun k outbox' hk hsome => ?_,
      fun c m p hp => (hw.sent c m p hp).imp fun _ hr => hr.mono hle'⟩, hle'⟩
    · obtain ⟨hobject, o, ho⟩ := hw.joined k row' hk
      obtain ⟨o', ho', -⟩ := hle.outbox _ _ ho
      exact ⟨hobject, o', ho'⟩
    · rw [SortedMap.get?_insert] at hk
      split at hk
      · rename_i hkey
        obtain rfl := Option.some.inj hk
        subst hkey
        exact heq ▸ haccepted
      · exact hw.published k outbox' hk hsome

/-! ## Publications -/

/-- A publication is sent only with its rows committed. -/
theorem safe_send {w : World} (hw : Safe codec payloads w) {consumerName messageId : String}
    {object : RawObject} {p : Publication}
    (hrows : w.Rows consumerName messageId object p false) :
    Safe codec payloads (w.send consumerName messageId p) ∧ w ≤ w.send consumerName messageId p := by
  refine ⟨⟨hw.rawFile, hw.object, hw.joined, hw.published, fun c m q hq => ?_⟩,
    ⟨le_rfl, le_rfl, fun _ h => h, fun _ h => List.mem_append_left _ h⟩⟩
  obtain hold | hnew := List.mem_append.1 hq
  · exact hw.sent c m q hold
  · obtain ⟨⟨rfl, rfl⟩, rfl⟩ : (c = consumerName ∧ m = messageId) ∧ q = p := by simpa using hnew
    exact ⟨object, hrows⟩

/-- What the stream accepts stays in it, and no row says anything about a publication that is merely
there. -/
theorem safe_accept {w : World} (hw : Safe codec payloads w) (p : Publication) :
    Safe codec payloads (w.accept p) ∧ w ≤ w.accept p :=
  ⟨⟨hw.rawFile, hw.object, hw.joined,
      fun k outbox hk hsome => List.mem_append_left _ (hw.published k outbox hk hsome), hw.sent⟩,
    ⟨le_rfl, le_rfl, fun _ h => List.mem_append_left _ h, fun _ h => h⟩⟩

/-! ## Operations -/

/-- **Every allowed operation keeps the world safe and lets it grow**, one lemma above for each
operation. -/
theorem safe_of_effect {w : World} (hw : Safe codec payloads w) (env : Environment) :
    ∀ {o : Op}, Allowed codec payloads w o →
      Safe codec payloads (w.effect env o).2 ∧ w ≤ (w.effect env o).2
  | .makeDirectory path, _ => safe_makeDirectory hw path
  | .syncDirectory path, _ => safe_sync hw path
  | .lstat _, _ => ⟨hw, le_rfl⟩
  | .link _ _, h => safe_link hw h
  | .readFile _, _ => ⟨hw, le_rfl⟩
  | .timeNow, _ => ⟨hw, le_rfl⟩
  | .clockNow, _ => ⟨hw, le_rfl⟩
  | .newId, _ => ⟨hw, le_rfl⟩
  | .find _ _, _ => ⟨hw, le_rfl⟩
  | .commitPreservation _, h => safe_commitPreservation hw h
  | .publishMsg c m p, ⟨_, h⟩ => by
      obtain ⟨hsafe, hle⟩ := safe_send hw h
      obtain ⟨hsafe', hle'⟩ := safe_accept hsafe p
      exact ⟨hsafe', le_trans hle hle'⟩
  | .markPublished _ _, ⟨_, _, hrows, h⟩ => safe_markPublished hw env.databaseNow hrows h

/-- **Every outcome of an allowed operation keeps the stores safe and only adds to them.** -/
theorem safe_of_outcome {w w' : World} (hw : Safe codec payloads w) {o : Op} {r : o.Response}
    (hallowed : Allowed codec payloads w o) (h : World.Outcome o w r w') :
    Safe codec payloads w' ∧ w ≤ w' := by
  obtain ⟨env, heq | ⟨-, rfl | rfl | ⟨c, m, p, rfl, rfl⟩⟩⟩ := h
  · obtain ⟨-, rfl⟩ := Prod.mk.inj heq
    exact safe_of_effect hw env hallowed
  · exact ⟨hw, le_rfl⟩
  · exact safe_of_effect hw env hallowed
  · obtain ⟨_, hrows⟩ := hallowed
    exact safe_send hw hrows

/-- **A crash keeps the stores safe.** -/
theorem safe_of_crash {w w' : World} (hw : Safe codec payloads w) (h : World.Crash w w') :
    Safe codec payloads w' := by
  obtain ⟨files, hcrash, rfl⟩ := h
  refine ⟨fun dir contents disk hfile => ?_, fun k object hk => ?_, hw.joined, hw.published,
    hw.sent⟩
  · obtain ⟨⟨node, disk'⟩, he, hnode⟩ := hcrash.visible _ _ hfile
    obtain rfl : FileNode.file contents = node := hnode
    exact hw.rawFile dir contents disk' he
  · obtain ⟨dir, contents, huri, hdurable, hrest⟩ := hw.object k object hk
    exact ⟨dir, contents, huri, hcrash.durable _ _ hdurable, hrest⟩

end

end Preserver

end Cerbero
