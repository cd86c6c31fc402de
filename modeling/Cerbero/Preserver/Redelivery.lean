import Cerbero.Preserver.Core
import Cerbero.Preserver.RawStoreRun

/-!
# Preserver/Redelivery — the same delivery again

`process` alone, with healthy dependencies, on a state that holds nothing against the delivery.

* `run_process_fresh` — the first attempt commits, publishes and acknowledges, in the spelling of
  the delivery.
* `run_process_found` — every later one reads the record back, in the spelling of the database, and
  compares it with the delivery.

So redelivery is idempotent exactly if the two spellings agree (**`idempotent_iff`**).
-/

namespace Cerbero

namespace Preserver

open Text

/-! ## Path components -/

theorem component_eq_ok {name value : String} (hne : value ≠ "")
    (h : ∀ c ∈ value.toList, c ≠ '.' ∧ c ≠ '/' ∧ c ≠ '\\' ∧ c ≠ '\x00') :
    validateFilesystemPathComponent name value = .ok () := by
  have hdots : ∀ text : String, '.' ∈ text.toList → value ≠ text := by
    rintro _ hdot rfl
    exact (h '.' hdot).1 rfl
  simp only [validateFilesystemPathComponent, check_bind_eq_ok, failIf_eq_ok, Bool.or_eq_false_iff,
    beq_eq_false_iff_ne, List.any_eq_false, Bool.not_eq_true]
  exact ⟨hne, ⟨hdots "." (by decide), hdots ".." (by decide)⟩,
    fun c hc => ⟨⟨(h c hc).2.1, (h c hc).2.2.1⟩, (h c hc).2.2.2⟩⟩

theorem component_name {name name' value : String}
    (h : validateFilesystemPathComponent name value = .ok ()) :
    validateFilesystemPathComponent name' value = .ok () := by
  simp only [validateFilesystemPathComponent, check_bind_eq_ok, failIf_eq_ok] at h ⊢
  exact h

/-- A number is written with digits. -/
theorem isDigit_of_mem_padded {width : ℕ} {n : ℤ} {c : Char} (hc : c ∈ (padded width n).toList) :
    c.isDigit := by
  simp only [padded, String.toList_ofList, List.mem_append, List.mem_replicate] at hc
  obtain ⟨-, rfl⟩ | hc := hc
  · rfl
  · exact Nat.isDigit_of_mem_toDigits (by decide) (by decide) hc

/-- A number is a safe component. -/
theorem component_padded (name : String) (width : ℕ) (n : ℤ) :
    validateFilesystemPathComponent name (padded width n) = .ok () := by
  refine component_eq_ok (fun hempty => ?_) fun c hc => ?_
  · have hnil : (padded width n).toList = [] := by rw [hempty]; rfl
    simp only [padded, String.toList_ofList, List.append_eq_nil_iff] at hnil
    exact Nat.toDigits_ne_nil hnil.2
  · have := isDigit_of_mem_padded hc
    refine ⟨?_, ?_, ?_, ?_⟩ <;> rintro rfl <;> exact nomatch this

theorem ne_empty_of_uuidV7 {field value : String} (h : Validation.uuidV7 field value = .ok ()) :
    value ≠ "" := by
  rintro rfl
  exact nomatch h

theorem isBlank_of_uuidV7 {field value : String} (h : Validation.uuidV7 field value = .ok ()) :
    isBlank value = false := by
  rw [Validation.uuidV7_eq] at h
  exact isBlank_of_validateUuidV7 h

/-- An accepted UUID is a safe component. -/
theorem component_of_uuidV7 {field value : String} (name : String)
    (h : Validation.uuidV7 field value = .ok ()) :
    validateFilesystemPathComponent name value = .ok () := by
  refine component_eq_ok (ne_empty_of_uuidV7 h) fun c hc => ?_
  rw [Validation.uuidV7_eq] at h
  refine ⟨?_, ?_, ?_, ?_⟩ <;> rintro rfl <;>
    exact not_mem_of_validateUuidV7 h (by decide) (by decide) hc

theorem component_of_mem_segmentPath {evidence : RawEvidence} {field : String}
    (htenant : validateFilesystemPathComponent "tenant_id" evidence.tenantId = .ok ())
    (hid : Validation.uuidV7 field evidence.eventId = .ok ()) {part : String}
    (hpart : part ∈ segmentPath evidence) :
    validateFilesystemPathComponent "path component" part = .ok () := by
  simp only [segmentPath, hourPath, List.cons_append, List.nil_append, List.mem_cons,
    List.not_mem_nil, or_false] at hpart
  obtain rfl | rfl | rfl | rfl | rfl | rfl := hpart
  · exact component_name htenant
  · exact component_padded _ _ _
  · exact component_padded _ _ _
  · exact component_padded _ _ _
  · exact component_padded _ _ _
  · exact component_of_uuidV7 _ hid

theorem isBlank_storageUri (path : Path) : isBlank (storageUri path) = false := by
  refine isBlank_eq_false (c := 'r') ?_ (by decide)
  rw [storageUri, String.toList_append]
  exact List.mem_append_left _ (by decide)

/-- What the outbox reads back is what was published if both identifiers are in lower case. -/
theorem publication_outboxRow (p : Publication) :
    Database.publication (uuidText p.messageId) (Database.outboxRow p) = p ↔
      uuidText p.messageId = p.messageId ∧ uuidText p.requestId = p.requestId := by
  obtain ⟨subject, messageId, requestId, payload⟩ := p
  have hrequest : (if requestId = "" then none else some (uuidText requestId)).getD "" =
      uuidText requestId := by
    split
    · rename_i hempty
      rw [hempty]
      rfl
    · rfl
  simp [Database.publication, Database.outboxRow, hrequest]

/-! ## Runs -/

section

variable {codec : Codec} {core : Core} {delivery : Delivery} {envelope : CerberoEnvelope}
  {event : RawEvent} {env : Environment} {w : World}

/-- What an accepted delivery goes on with. -/
theorem run_process_of_find {found : Option Record}
    (haccepted : validateDelivery codec delivery = .ok (envelope, event))
    (hfind : w.db.find core.consumerName envelope.messageId = .ok found) :
    (process codec core delivery).run (World.effect env) w =
      (match found with
      | some record => finish core envelope event ⟨.retry, envelope.messageId, event.eventId⟩ record
      | none => preserveNew codec core delivery envelope event
          ⟨.retry, envelope.messageId, event.eventId⟩).run (World.effect env) w := by
  have hrun : (perform (.find core.consumerName envelope.messageId)).run (World.effect env) w =
    (.ok found, w) := congrArg (·, w) hfind
  rw [process, haccepted]
  simp only [Prog.run_bind, hrun]
  match found with
  | some _ => rfl
  | none => rfl

/-- A publication both checks accept is published. -/
theorem run_publish {p : Publication} (hvalid : validatePublication p = .ok ())
    (consumerName messageId : String) :
    (publish consumerName messageId p).run.run (World.effect env) w =
      (.ok (), (w.send consumerName messageId p).accept p) := by
  simp only [validatePublication, check_bind_eq_ok, failIf_eq_ok, wrapCheck_eq_ok,
    checkOptionalId_eq_ok] at hvalid
  obtain ⟨hsubject, hid, hrequest, hpayload⟩ := hvalid
  have hvalid' : validateRawPersistedPublication p = .ok () := by
    simp only [validateRawPersistedPublication, check_bind_eq_ok, failIf_eq_ok, wrapCheck_eq_ok,
      checkOptionalId_eq_ok]
    exact ⟨hsubject, Validation.uuidV7_field hid, fun hne => Validation.uuidV7_field (hrequest hne),
      hpayload⟩
  rw [publish, Prog.run_try, hvalid']
  rfl

/-- A record that matches and was not published is published and marked. -/
theorem run_finish_unpublished {result : Result} {record : Record} {db : Database}
    (hmatches : Matches core.consumerName envelope event record)
    (hunpublished : record.published = false)
    (hmark : w.db.markPublished env.databaseNow core.consumerName record.incomingMessageId =
      (.ok (), db)) :
    (finish core envelope event result record).run (World.effect env) w =
      (({ result with disposition := .ack }, none),
        { (w.send core.consumerName record.incomingMessageId record.publication).accept
            record.publication with db := db }) := by
  have hrun : (perform (.markPublished core.consumerName record.incomingMessageId)).run
      (World.effect env) ((w.send core.consumerName record.incomingMessageId
        record.publication).accept record.publication) =
      (.ok (), { (w.send core.consumerName record.incomingMessageId
        record.publication).accept record.publication with db := db }) :=
    congrArg (fun x : Fallible Unit × Database => (x.1,
      { (w.send core.consumerName record.incomingMessageId record.publication).accept
        record.publication with db := x.2 })) hmark
  rw [finish, validateExistingRecord_eq_ok.2 hmatches]
  simp only [hunpublished, publishAndMark, hmatches.publication, Bool.false_eq_true, if_false,
    Prog.run_bind, run_publish hmatches.publication]
  rw [hrun]
  rfl

/-- A record that was published is acknowledged if it matches, and isolated if it does not. -/
theorem run_finish_published {result : Result} {record : Record}
    (hpublished : record.published) :
    (Matches core.consumerName envelope event record →
      (finish core envelope event result record).run (World.effect env) w =
        (({ result with disposition := .ack }, none), w)) ∧
    (¬ Matches core.consumerName envelope event record →
      ((finish core envelope event result record).run (World.effect env) w).1.1.disposition =
        .isolate) := by
  rw [← validateExistingRecord_eq_ok, finish]
  match validateExistingRecord core.consumerName envelope event record with
  | .ok () => exact ⟨fun _ => by simp [hpublished], fun hbad => absurd rfl hbad⟩
  | .error e => exact ⟨fun hbad => (nomatch hbad), fun _ => rfl⟩

end

/-! ## A first delivery -/

/-- The object of an event. -/
abbrev objectOf (event : RawEvent) : RawObject := rawObjectOf (evidenceOf event)

/-- **Nothing is against the delivery**: it is accepted, it passes the check of the path and those
of the builder, the libraries write and read a manifest, and neither the Raw Store nor a table holds
something else under one of its keys. -/
structure Fresh (codec : Codec) (core : Core) (delivery : Delivery) (envelope : CerberoEnvelope)
    (event : RawEvent) (env : Environment) (id : String) (w : World) : Prop where
  accepted : validateDelivery codec delivery = .ok (envelope, event)
  component : validateFilesystemPathComponent "tenant_id" event.tenantId = .ok ()
  persisted : Validation.rawEventPersisted
    (persistedOf event (objectOf event) env.clockNow) = .ok ()
  consumerName : isBlank core.consumerName = false
  newId : env.newId = .ok id
  newIdValid : Validation.uuidV7 "raw_persisted.message_id" id = .ok ()
  newIdText : uuidText id = id
  timeNow : isZeroTime env.timeNow = false
  manifest : codec.unmarshalManifest (codec.marshalManifest
    (newManifest (evidenceOf event) env.timeNow)) =
      some (newManifest (evidenceOf event) env.timeNow)
  manifestLast : (codec.marshalManifest
    (newManifest (evidenceOf event) env.timeNow)).getLast? ≠ some lineFeed
  segment : SegmentReady codec (evidenceOf event) w.files.node
  noProcessed : w.db.processed core.consumerName envelope.messageId = none
  noOutbox : w.db.outbox.get? id = none
  noOther : ∀ e ∈ w.db.processedMessages.toList, e.2.publicationMessageId ≠ id
  rawObject : w.db.rawObjects.get? (uuidText event.eventId) = none ∨
    w.db.rawObjects.get? (uuidText event.eventId) = some (objectOf event)

/-- **The delivery gets as far as the transaction.** -/
structure Built (codec : Codec) (core : Core) (delivery : Delivery) (envelope : CerberoEnvelope)
    (event : RawEvent) (env : Environment) (id : String) (w : World) : Prop where
  accepted : validateDelivery codec delivery = .ok (envelope, event)
  component : validateFilesystemPathComponent "tenant_id" event.tenantId = .ok ()
  persisted : Validation.rawEventPersisted
    (persistedOf event (objectOf event) env.clockNow) = .ok ()
  consumerName : isBlank core.consumerName = false
  newId : env.newId = .ok id
  newIdValid : Validation.uuidV7 "raw_persisted.message_id" id = .ok ()
  segment : SegmentTakes codec (evidenceOf event) env.timeNow w.files.node

/-- **The delivery can be preserved**, which is all that a first attempt needs. -/
structure Ready (codec : Codec) (core : Core) (delivery : Delivery) (envelope : CerberoEnvelope)
    (event : RawEvent) (env : Environment) (id : String) (w : World) : Prop
    extends Built codec core delivery envelope event env id w where
  newIdText : uuidText id = id
  noProcessed : w.db.processed core.consumerName envelope.messageId = none
  noOutbox : w.db.outbox.get? id = none
  noOther : ∀ e ∈ w.db.processedMessages.toList, e.2.publicationMessageId ≠ id
  rawObject : w.db.rawObjects.get? (uuidText event.eventId) = none ∨
    w.db.rawObjects.get? (uuidText event.eventId) = some (objectOf event)

/-- The publication of a first delivery. -/
def publicationOf (core : Core) (delivery : Delivery) (envelope : CerberoEnvelope)
    (event : RawEvent) (id : String) (now : Timestamp) : Publication :=
  ⟨rawPersistedSubject, id, delivery.requestId, Protobuf.marshalEnvelope
    (envelopeOf core envelope (persistedOf event (objectOf event) now) id now)⟩

namespace Fresh

/-- The record of a first delivery. -/
abbrev record (core : Core) (delivery : Delivery) (envelope : CerberoEnvelope) (event : RawEvent)
    (env : Environment) (id : String) : Record :=
  recordOf core envelope event (objectOf event)
    (publicationOf core delivery envelope event id env.clockNow)

/-- The record a redelivery finds: that of the first delivery, as the database spells it. -/
def stored (core : Core) (delivery : Delivery) (envelope : CerberoEnvelope) (event : RawEvent)
    (env : Environment) (id : String) : Record :=
  { record core delivery envelope event env id with
    incomingMessageId := uuidText envelope.messageId
    eventId := uuidText event.eventId
    published := true }

theorem ready {codec : Codec} {core : Core} {delivery : Delivery} {envelope : CerberoEnvelope}
    {event : RawEvent} {env : Environment} {id : String} {w : World}
    (h : Fresh codec core delivery envelope event env id w) :
    Ready codec core delivery envelope event env id w :=
  { h with segment := h.segment.takes (validate_newManifest h.manifest h.manifestLast h.timeNow) }

end Fresh

namespace Built

open Fresh (record)

variable {codec : Codec} {core : Core} {delivery : Delivery} {envelope : CerberoEnvelope}
  {event : RawEvent} {env : Environment} {id : String} {w : World}

section

variable (h : Built codec core delivery envelope event env id w)

include h

theorem admitted : Admitted codec delivery envelope event :=
  admitted_of_validateDelivery h.accepted

theorem messageId : Validation.uuidV7 "message_id" envelope.messageId = .ok () := by
  have := h.admitted.envelopeValid
  simp only [Validation.envelope, check_bind_eq_ok] at this
  exact this.2.1

/-- What the event's own check says. -/
theorem eventChecks : Validation.uuidV7 "event_id" event.eventId = .ok () ∧
    Validation.timestamp "ingest_time" event.ingestTime = .ok () ∧
    event.rawSize = event.rawPayload.length ∧
    Validation.sha256Metadata "raw_hash_algorithm" "raw_hash" event.rawHashAlgorithm
      event.rawHash = .ok () ∧
    codec.sha256LowerHex event.rawPayload = event.rawHash := by
  have := h.admitted.eventValid
  simp only [Validation.rawEvent, Validation.sha256, check_bind_eq_ok, rejectIf_eq_ok,
    bne_eq_false_iff_eq] at this
  exact ⟨this.1, this.2.2.1, this.2.2.2⟩

theorem eventId : Validation.uuidV7 "event_id" event.eventId = .ok () := h.eventChecks.1

theorem fits : Fits codec (evidenceOf event) (evidenceOf event).bytes :=
  ⟨h.eventChecks.2.2.1.symm, h.eventChecks.2.2.2.2⟩

/-- The Raw Store takes the evidence, unless it came in at the zero instant. -/
theorem validateFilesystemRawEvidence_eq_ok :
    validateFilesystemRawEvidence codec (evidenceOf event) = .ok () ↔
      isZeroTime (evidenceOf event).ingestTime = false := by
  obtain ⟨hid, -, hsize, hmeta, hhash⟩ := h.eventChecks
  have hid' : Validation.uuidV7 "raw_store.event_id" event.eventId = .ok () :=
    Validation.uuidV7_field hid
  have halgorithm := (Validation.lowerHex_of_sha256Metadata hmeta).1
  simp only [validateFilesystemRawEvidence, evidenceOf, check_bind_eq_ok, wrapCheck_eq_ok,
    failIf_eq_ok, h.component, hid', halgorithm, hsize, hhash]
  simp

theorem succeeds (hzero : isZeroTime (evidenceOf event).ingestTime = false) :
    Succeeds env (ensureDurable codec (evidenceOf event)) w (objectOf event) := by
  have htenant : validateFilesystemPathComponent "tenant_id" (evidenceOf event).tenantId =
    .ok () := h.component
  have hid : Validation.uuidV7 "event_id" (evidenceOf event).eventId = .ok () := h.eventId
  exact succeeds_ensureDurable (h.validateFilesystemRawEvidence_eq_ok.2 hzero)
    (fun _ hpart => component_of_mem_segmentPath htenant hid hpart) h.fits h.segment

theorem validateRawObject_objectOf : validateRawObject event (objectOf event) = .ok () := by
  have huri : (objectOf event).storageUri ≠ "" := fun heq => by
    have := isBlank_storageUri (rawPath (evidenceOf event))
    rw [show storageUri (rawPath (evidenceOf event)) = "" from heq] at this
    exact nomatch this
  have hid : (objectOf event).segmentId ≠ "" := ne_empty_of_uuidV7 h.eventId
  simp only [validateRawObject, check_bind_eq_ok, failIf_eq_ok, beq_eq_false_iff_ne,
    bne_eq_false_iff_eq]
  exact ⟨huri, hid, rfl, rfl⟩

theorem requestId {field : String} : checkOptionalId field delivery.requestId = .ok () :=
  checkOptionalId_eq_ok.2 fun hne => Validation.uuidV7_field (h.admitted.requestId hne)

theorem validateBuilderInput_eq_ok :
    validateBuilderInput codec envelope event (objectOf event) delivery.requestId = .ok () := by
  simp only [validateBuilderInput, check_bind_eq_ok, wrapCheck_eq_ok, failIf_eq_ok,
    bne_eq_false_iff_eq, mapError_eq_ok]
  exact ⟨h.admitted.envelopeValid, h.admitted.messageType, h.admitted.payloadSchema,
    h.admitted.eventValid, h.admitted.tenant_eq.symm, h.validateRawObject_objectOf, h.requestId⟩

theorem persistedAt : Validation.timestamp "persisted_at" (some env.clockNow) = .ok () := by
  have := h.persisted
  simp only [Validation.rawEventPersisted, check_bind_eq_ok] at this
  exact this.2.2.2.2.2.2.2.2.1

theorem envelope_envelopeOf (persisted : RawEventPersisted) :
    Validation.envelope (some (envelopeOf core envelope persisted id env.clockNow)) = .ok () := by
  simp only [Validation.envelope, envelopeOf, check_bind_eq_ok, rejectIf_eq_ok,
    Validation.requireNonEmpty_eq_ok, bne_eq_false_iff_eq]
  exact ⟨trivial, Validation.uuidV7_field h.newIdValid, by decide,
    by decide, core.componentVersion_ne, Validation.timestamp_field h.persistedAt, by decide,
    rfl⟩

/-- **The builder makes the publication.** -/
theorem leaves_build (w' : World) : Leaves env (build codec core envelope event (objectOf event)
    delivery.requestId) w' (publicationOf core delivery envelope event id env.clockNow)
      w'.files.node := by
  have henvelope := h.envelope_envelopeOf (persistedOf event (objectOf event) env.clockNow)
  refine (leaves_checked h.validateBuilderInput_eq_ok).bind fun files₁ h₁ => ?_
  refine (leaves_newId h.newId).withContext.bind fun files₂ h₂ => ?_
  refine (leaves_checked (wrapCheck_eq_ok.2 h.newIdValid)).bind fun files₃ h₃ => ?_
  refine leaves_clockNow.bind fun files₄ h₄ => ?_
  refine (leaves_checked (wrapCheck_eq_ok.2 h.persistedAt)).bind fun files₅ h₅ => ?_
  refine (leaves_checked (wrapCheck_eq_ok.2 h.persisted)).bind fun files₆ h₆ => ?_
  refine (leaves_checked (wrapCheck_eq_ok.2 henvelope)).bind fun files₇ h₇ => ?_
  rw [← h₁, ← h₂, ← h₃, ← h₄, ← h₅, ← h₆, ← h₇]
  exact leaves_return _

/-! ### The transaction -/

theorem validatePublication_publicationOf :
    validatePublication (publicationOf core delivery envelope event id env.clockNow) = .ok () := by
  simp only [validatePublication, publicationOf, check_bind_eq_ok, wrapCheck_eq_ok, failIf_eq_ok,
    bne_eq_false_iff_eq, List.isEmpty_eq_false_iff]
  exact ⟨trivial, h.newIdValid, h.requestId, Protobuf.marshalEnvelope_ne_nil (by simp [envelopeOf])⟩

theorem validateMetadataLookupKey_eq_ok :
    validateMetadataLookupKey core.consumerName envelope.messageId = .ok () := by
  simp only [validateMetadataLookupKey, check_bind_eq_ok, failIf_eq_ok]
  exact ⟨h.consumerName, isBlank_of_uuidV7 h.messageId⟩

theorem validateMetadataRecord_record :
    validateMetadataRecord (record core delivery envelope event env id) = .ok () := by
  have hid : isBlank event.eventId = false := isBlank_of_uuidV7 h.eventId
  obtain ⟨-, hlength, hhex⟩ := Validation.lowerHex_of_sha256Metadata h.eventChecks.2.2.2.1
  have hhash : validLowerSha256 event.rawHash := by
    simp only [validLowerSha256, Bool.and_eq_true, beq_iff_eq, List.all_eq_true]
    exact ⟨hlength, hhex⟩
  simp only [validateMetadataRecord, record, recordOf, check_bind_eq_ok, failIf_eq_ok,
    mapError_eq_ok, Bool.not_eq_false']
  exact ⟨h.validateMetadataLookupKey_eq_ok, hid, isBlank_storageUri _, hid, hhash,
    h.validatePublication_publicationOf, trivial⟩

/-- The attempt up to the transaction. -/
theorem run_preserveNew (hzero : isZeroTime (evidenceOf event).ingestTime = false)
    {committed : Fallible Record} {db : Database}
    (hcommit : w.db.commitPreservation (record core delivery envelope event env id) =
      (committed, db)) (result : Result) : ∃ files,
      (preserveNew codec core delivery envelope event result).run (World.effect env) w =
        (match committed with
          | .error e => return (result, some ("commit preservation metadata/outbox: " ++ e))
          | .ok committed => finish core envelope event result committed : Program _).run
          (World.effect env) { w with files := files, db := db } := by
  obtain ⟨-, files, hstored, -⟩ := h.succeeds hzero
  obtain ⟨files', hbuilt, -⟩ := h.leaves_build { w with files := files }
  have hrun : (perform (.commitPreservation (record core delivery envelope event env id))).run
      (World.effect env) { w with files := files' } =
        (committed, { w with files := files', db := db }) :=
    congrArg (fun x : Fallible Record × Database => (x.1, { w with files := files', db := x.2 }))
      hcommit
  refine ⟨files', ?_⟩
  rw [preserveNew, Prog.run_bind, hstored]
  simp only [h.validateRawObject_objectOf, Prog.run_bind, hbuilt,
    h.validatePublication_publicationOf]
  rw [hrun]
  match committed with
  | .ok _ => rfl
  | .error _ => rfl

end

end Built

namespace Ready

open Fresh (record stored)

variable {codec : Codec} {core : Core} {delivery : Delivery} {envelope : CerberoEnvelope}
  {event : RawEvent} {env : Environment} {id : String} {w : World}

section

variable (h : Ready codec core delivery envelope event env id w)

include h

theorem findMetadataRecord_eq_none :
    w.db.findMetadataRecord core.consumerName envelope.messageId = none := by
  rw [Database.findMetadataRecord, h.noProcessed]
  rfl

theorem find_eq_none : w.db.find core.consumerName envelope.messageId = .ok none := by
  rw [Database.find, h.validateMetadataLookupKey_eq_ok, h.findMetadataRecord_eq_none]
  rfl

theorem exists_ensureRawObject : ∃ db, w.db.ensureRawObject
    (record core delivery envelope event env id) = .ok db := by
  unfold Database.ensureRawObject
  obtain hnone | hsome := h.rawObject
  · simp only [record, recordOf, hnone]
    exact ⟨_, rfl⟩
  · simp only [record, recordOf, hsome, if_true]
    exact ⟨_, rfl⟩

/-- The publication is taken exactly if the request identifier is spelled as it is read back. -/
theorem ensureOutboxPublication_eq {db : Database} (hdb : db.outbox = w.db.outbox) :
    if uuidText delivery.requestId = delivery.requestId then
      ∃ row, db.ensureOutboxPublication
        (publicationOf core delivery envelope event id env.clockNow) =
          .ok { db with outbox := db.outbox.insert id row }
    else ∃ e, db.ensureOutboxPublication
      (publicationOf core delivery envelope event id env.clockNow) = .error e := by
  have hid : uuidText (publicationOf core delivery envelope event id env.clockNow).messageId =
    id := h.newIdText
  have hread := publication_outboxRow (publicationOf core delivery envelope event id env.clockNow)
  rw [hid] at hread
  have hcanonical : Database.publication id (Database.outboxRow
      (publicationOf core delivery envelope event id env.clockNow)) =
        publicationOf core delivery envelope event id env.clockNow ↔
      uuidText delivery.requestId = delivery.requestId := hread.trans (and_iff_right rfl)
  simp only [Database.ensureOutboxPublication, hid, hdb, h.noOutbox, Option.getD_none]
  split
  · rename_i hrequest
    refine ⟨_, if_neg (not_or.2 ⟨Bool.false_ne_true, ?_⟩)⟩
    exact not_not.2 (hcanonical.2 hrequest)
  · rename_i hrequest
    exact ⟨_, if_pos (Or.inr (mt hcanonical.1 hrequest))⟩

theorem exists_insertProcessed (db : Database)
    (hdb : db.processedMessages = w.db.processedMessages) :
    ∃ db', db.insertProcessed (record core delivery envelope event env id) = .ok db' := by
  have hfree : db.processed core.consumerName envelope.messageId = none := by
    rw [Database.processed, hdb]
    exact h.noProcessed
  have hother : (db.processedMessages.toList.any fun e => e.2.publicationMessageId == id) =
      false := by
    simp only [hdb, List.any_eq_false, beq_iff_eq]
    exact h.noOther
  refine ⟨_, (if_neg ?_).trans (if_neg ?_)⟩
  · simp [record, recordOf, hfree]
  · simp only [record, recordOf, publicationOf, h.newIdText, hother]
    exact Bool.false_ne_true

/-- **The transaction commits exactly if the request identifier is spelled as it is read back.** -/
theorem preserve_record :
    if uuidText delivery.requestId = delivery.requestId then
      ∃ db, w.db.preserve (record core delivery envelope event env id) = .ok db
    else ∃ e, w.db.preserve (record core delivery envelope event env id) = .error e := by
  obtain ⟨db₁, h₁⟩ := h.exists_ensureRawObject
  obtain ⟨-, -, -, houtbox, hprocessed⟩ := Database.ensureRawObject_eq_ok h₁
  have h₂ := h.ensureOutboxPublication_eq houtbox
  split at h₂
  · rename_i hrequest
    obtain ⟨row, h₂⟩ := h₂
    obtain ⟨db₃, h₃⟩ := h.exists_insertProcessed { db₁ with outbox := db₁.outbox.insert id row }
      hprocessed
    rw [if_pos hrequest]
    exact ⟨db₃, bind_eq_ok.2 ⟨db₁, h₁, bind_eq_ok.2 ⟨_, h₂, h₃⟩⟩⟩
  · rename_i hrequest
    obtain ⟨e, h₂⟩ := h₂
    rw [if_neg hrequest, Database.preserve, h₁]
    refine ⟨e, ?_⟩
    show (db₁.ensureOutboxPublication
      (publicationOf core delivery envelope event id env.clockNow) >>= _) = _
    rw [h₂]
    rfl

/-! ### The first attempt -/

/-- A new message is preserved, since no record of it is found. -/
theorem run_process : (process codec core delivery).run (World.effect env) w =
    (preserveNew codec core delivery envelope event
      ⟨.retry, envelope.messageId, event.eventId⟩).run (World.effect env) w :=
  run_process_of_find h.accepted h.find_eq_none

/-- Evidence of the zero instant is never stored. -/
theorem run_process_of_isZeroTime (hzero : isZeroTime (evidenceOf event).ingestTime) :
    ((process codec core delivery).run (World.effect env) w).1.1.disposition = .retry := by
  have hbad : validateFilesystemRawEvidence codec (evidenceOf event) ≠ .ok () := by
    rw [ne_eq, h.validateFilesystemRawEvidence_eq_ok, hzero]
    exact Bool.noConfusion
  obtain ⟨e, he⟩ : ∃ e, validateFilesystemRawEvidence codec (evidenceOf event) = .error e := by
    match validateFilesystemRawEvidence codec (evidenceOf event), hbad with
    | .error e, _ => exact ⟨e, rfl⟩
  have hrun : (ensureDurable codec (evidenceOf event)).run.run (World.effect env) w =
      (.error e, w) := by
    rw [ensureDurable, Prog.run_try, he]
    rfl
  rw [h.run_process, preserveNew, Prog.run_bind, hrun]
  rfl

/-- The commit writes all rows of the record or none of them. -/
theorem commitPreservation_record {x : Fallible Database}
    (hx : w.db.preserve (record core delivery envelope event env id) = x) :
    w.db.commitPreservation (record core delivery envelope event env id) =
      match x with
      | .error e => (.error e, w.db)
      | .ok db => (.ok (record core delivery envelope event env id), db) := by
  have hnone : w.db.findMetadataRecord (record core delivery envelope event env id).consumerName
    (record core delivery envelope event env id).incomingMessageId = none :=
      h.findMetadataRecord_eq_none
  simp only [Database.commitPreservation, h.validateMetadataRecord_record, hnone, hx]
  match x with
  | .ok _ => rfl
  | .error _ => rfl

/-- A request identifier that is read back in another spelling conflicts with itself. -/
theorem run_process_of_requestId (hzero : isZeroTime (evidenceOf event).ingestTime = false)
    (hrequest : uuidText delivery.requestId ≠ delivery.requestId) :
    ((process codec core delivery).run (World.effect env) w).1.1.disposition = .retry := by
  have hpreserve := h.preserve_record
  rw [if_neg hrequest] at hpreserve
  obtain ⟨e, he⟩ := hpreserve
  obtain ⟨files, hrun⟩ := h.run_preserveNew hzero (h.commitPreservation_record he)
    ⟨.retry, envelope.messageId, event.eventId⟩
  rw [h.run_process, hrun]
  rfl

theorem matches_record : Matches core.consumerName envelope event
    (record core delivery envelope event env id) :=
  ⟨rfl, rfl, rfl, rfl, h.validateRawObject_objectOf, h.validatePublication_publicationOf⟩

/-- **The first attempt is acknowledged**, and leaves a record to be found. -/
theorem run_process_fresh (hzero : isZeroTime (evidenceOf event).ingestTime = false)
    (hrequest : uuidText delivery.requestId = delivery.requestId) :
    ((process codec core delivery).run (World.effect env) w).1.1.disposition = .ack ∧
      ((process codec core delivery).run (World.effect env) w).2.db.find core.consumerName
        envelope.messageId = .ok (some (stored core delivery envelope event env id)) := by
  have hpreserve := h.preserve_record
  rw [if_pos hrequest] at hpreserve
  obtain ⟨db, hdb⟩ := hpreserve
  obtain ⟨files, hrun⟩ := h.run_preserveNew hzero (h.commitPreservation_record hdb)
    ⟨.retry, envelope.messageId, event.eventId⟩
  obtain ⟨-, hprocessed, hobject, ⟨row, houtbox, hpublished, hpublication⟩, -⟩ :=
    Database.preserved_of_preserve hdb
  have hmark : db.markPublished env.databaseNow core.consumerName envelope.messageId =
      (.ok (), { db with
        outbox := db.outbox.insert (uuidText id)
          { row with publishedAt := some (row.publishedAt.getD env.databaseNow) } }) := by
    have hrow : db.processed core.consumerName envelope.messageId =
      some (Database.processedRow (record core delivery envelope event env id)) := hprocessed
    simp only [Database.markPublished, h.validateMetadataLookupKey_eq_ok, hrow]
    simp only [Database.processedRow, record, recordOf, publicationOf] at houtbox ⊢
    simp only [houtbox]
  rw [h.run_process, hrun, run_finish_unpublished h.matches_record rfl hmark]
  refine ⟨rfl, ?_⟩
  simp only [Database.find, h.validateMetadataLookupKey_eq_ok]
  refine congrArg Except.ok (Database.findMetadataRecord_eq_some.2
    ⟨_, _, _, hprocessed, hobject, SortedMap.get?_insert_self _ _ _, ?_⟩)
  show _ = Record.mk _ _ _ _ (Database.publication (uuidText id) row) true
  rw [show Database.publication (uuidText id) row =
    publicationOf core delivery envelope event id env.clockNow from hpublication]
  rfl

/-- **The record that is read back is the one of the message exactly if both identifiers are written
as the database writes them.** -/
theorem matches_stored : Matches core.consumerName envelope event
    (stored core delivery envelope event env id) ↔
      uuidText envelope.messageId = envelope.messageId ∧ uuidText event.eventId = event.eventId :=
  ⟨fun hmatches => ⟨hmatches.messageId, hmatches.eventId⟩, fun ⟨hmessage, hevent⟩ =>
    ⟨rfl, hmessage, hevent, rfl, h.validateRawObject_objectOf,
      h.validatePublication_publicationOf⟩⟩

/-- **A later attempt reads the record back**: it is acknowledged and changes nothing if the two
identifiers are spelled as they are read back, and isolated otherwise. -/
theorem run_process_found {w' : World} (env' : Environment)
    (hfind : w'.db.find core.consumerName envelope.messageId =
      .ok (some (stored core delivery envelope event env id))) :
    if uuidText envelope.messageId = envelope.messageId ∧ uuidText event.eventId = event.eventId
    then (process codec core delivery).run (World.effect env') w' =
      ((⟨.ack, envelope.messageId, event.eventId⟩, none), w')
    else ((process codec core delivery).run (World.effect env') w').1.1.disposition =
      .isolate := by
  rw [run_process_of_find h.accepted hfind]
  split
  · exact (run_finish_published rfl).1 (h.matches_stored.2 ‹_›)
  · exact (run_finish_published rfl).2 (mt h.matches_stored.1 ‹_›)

end

end Ready

/-! ## Redelivery -/

section

variable (codec : Codec) (core : Core) (delivery : Delivery)

/-- The world after more attempts at a delivery, each with its own clocks and identifiers. -/
def redelivered (w : World) : List Environment → World
  | [] => w
  | env :: envs =>
    redelivered ((process codec core delivery).run (World.effect env) w).2 envs

/-- **Idempotence**: the first attempt is acknowledged, and so is every later one, which adds no row
and no publication. -/
def Idempotent (env : Environment) (w : World) : Prop :=
  let first := (process codec core delivery).run (World.effect env) w
  first.1.1.disposition = .ack ∧ ∀ envs env',
    let later := (process codec core delivery).run (World.effect env')
      (redelivered codec core delivery first.2 envs)
    later.1.1.disposition = .ack ∧ later.2.db = first.2.db ∧ later.2.stream = first.2.stream ∧
      later.2.sent = first.2.sent

end

/-- **The spelling of a delivery is that of the database**, and it did not come in at the zero
instant. -/
structure AsReadBack (delivery : Delivery) (envelope : CerberoEnvelope) (event : RawEvent) :
    Prop where
  messageId : uuidText envelope.messageId = envelope.messageId
  eventId : uuidText event.eventId = event.eventId
  requestId : uuidText delivery.requestId = delivery.requestId
  ingestTime : isZeroTime (event.ingestTime.getD ⟨0, 0⟩) = false

section

variable {codec : Codec} {core : Core} {delivery : Delivery} {envelope : CerberoEnvelope}
  {event : RawEvent} {env : Environment} {id : String} {w : World}

/-- Attempts that change nothing. -/
theorem redelivered_eq {w : World}
    (hsame : ∀ env, ((process codec core delivery).run (World.effect env) w).2 = w) :
    ∀ envs, redelivered codec core delivery w envs = w
  | [] => rfl
  | env :: envs => by rw [redelivered, hsame, redelivered_eq hsame envs]

/-- **A message that is read back as it was written is preserved once**: a second delivery finds the
record and writes nothing. -/
theorem Fresh.idempotent (h : Fresh codec core delivery envelope event env id w)
    (hread : AsReadBack delivery envelope event) : Idempotent codec core delivery env w := by
  obtain ⟨hack, hfind⟩ := h.ready.run_process_fresh hread.ingestTime hread.requestId
  have hlater := fun env' => h.ready.run_process_found env' hfind
  simp only [if_pos (And.intro hread.messageId hread.eventId)] at hlater
  refine ⟨hack, fun envs env' => ?_⟩
  rw [redelivered_eq fun env' => by rw [hlater env']]
  simp only [hlater, and_self]

/-- The converse: else the second delivery is isolated as a conflict with the record of the first.
-/
theorem Fresh.asReadBack (h : Fresh codec core delivery envelope event env id w)
    (hidem : Idempotent codec core delivery env w) : AsReadBack delivery envelope event := by
  obtain ⟨hack, hlater⟩ := hidem
  by_cases hzero : isZeroTime (evidenceOf event).ingestTime
  · exact nomatch (h.ready.run_process_of_isZeroTime hzero).symm.trans hack
  rw [Bool.not_eq_true] at hzero
  by_cases hrequest : uuidText delivery.requestId = delivery.requestId
  · have hfound := h.ready.run_process_found env (h.ready.run_process_fresh hzero hrequest).2
    split at hfound
    · rename_i hids
      exact ⟨hids.1, hids.2, hrequest, hzero⟩
    · exact nomatch hfound.symm.trans (hlater [] env).1
  · exact nomatch (h.ready.run_process_of_requestId hzero hrequest).symm.trans hack

/-- **Redelivery is idempotent exactly if the delivery is spelled as it is read back.** -/
theorem idempotent_iff (h : Fresh codec core delivery envelope event env id w) :
    Idempotent codec core delivery env w ↔ AsReadBack delivery envelope event :=
  ⟨h.asReadBack, h.idempotent⟩

end

/-! ## The sample delivery -/

theorem segmentReady_empty (codec : Codec) (evidence : RawEvidence) :
    SegmentReady codec evidence World.empty.files.node :=
  ⟨fun _ _ _ => Or.inl rfl, Or.inl rfl, Or.inl ⟨rfl, rfl⟩⟩

/-- Nothing is against the sample in a fresh deployment. -/
theorem fresh_sample {messageId : String}
    (haccepted : validateDelivery sampleCodec (sampleDelivery messageId) =
      .ok (sampleEnvelope messageId, sampleEvent)) :
    Fresh sampleCodec sampleCore (sampleDelivery messageId) (sampleEnvelope messageId) sampleEvent
      sampleEnvironment "01890a5d-ac96-774b-bcce-b302099a8002" World.empty where
  accepted := haccepted
  component := by decide +kernel
  persisted := by decide +kernel
  consumerName := by decide +kernel
  newId := rfl
  newIdValid := by decide +kernel
  newIdText := by decide +kernel
  timeNow := by decide +kernel
  manifest := by decide +kernel
  manifestLast := by decide +kernel
  segment := segmentReady_empty _ _
  noProcessed := rfl
  noOutbox := rfl
  noOther := by simp [World.empty, Database.empty, SortedMap.empty]
  rawObject := Or.inl rfl

def lowerMessageId : String := "01890a5d-ac96-774b-bcce-b302099a8001"

def upperMessageId : String := "01890A5D-AC96-774B-BCCE-B302099A8001"

theorem idempotent_sampleDelivery :
    Idempotent sampleCodec sampleCore (sampleDelivery lowerMessageId) sampleEnvironment
      World.empty :=
  (idempotent_iff (fresh_sample (by decide +kernel))).2
    ⟨by decide +kernel, by decide +kernel, by decide +kernel, by decide +kernel⟩

/-- A message that is named in upper case is accepted, acknowledged once and isolated when it comes
again. -/
theorem not_idempotent_sampleDelivery :
    Fresh sampleCodec sampleCore (sampleDelivery upperMessageId) (sampleEnvelope upperMessageId)
      sampleEvent sampleEnvironment "01890a5d-ac96-774b-bcce-b302099a8002" World.empty ∧
    ¬ Idempotent sampleCodec sampleCore (sampleDelivery upperMessageId) sampleEnvironment
      World.empty := by
  have haccepted : validateDelivery sampleCodec (sampleDelivery upperMessageId) =
    .ok (sampleEnvelope upperMessageId, sampleEvent) := by decide +kernel
  have hfresh := fresh_sample haccepted
  refine ⟨hfresh, fun hidem => ?_⟩
  have hread := (hfresh.asReadBack hidem).messageId
  exact absurd hread (by decide +kernel)

end Preserver

end Cerbero
