import Cerbero.Preserver.RawStoreExact

/-!
# Preserver/Disposition — which deliveries are retried although nothing failed

`Core.Process` alone, with a disk, a database and a publisher that all answer.  A delivery is then
acknowledged or isolated exactly if it is rejected, or has a record, or can be preserved
(**`settles_iff`**): a delivery that passes its own checks and fails one further in is retried, and
will be again.
-/

namespace Cerbero

namespace Preserver

open Text
open Prog (attempt checked)

/-- **The delivery is acknowledged or isolated.** -/
def Settles (codec : Codec) (core : Core) (delivery : Delivery) (env : Environment)
    (w : World) : Prop :=
  let result := ((process codec core delivery).run (World.effect env) w).1.1
  result.disposition = .ack ∨ result.disposition = .isolate

/-- The clock and the generator of identifiers do what they are for. -/
structure Supplied (env : Environment) (id : String) (w : World) : Prop where
  newId : env.newId = .ok id
  newIdValid : Validation.uuidV7 "raw_persisted.message_id" id = .ok ()
  newIdText : uuidText id = id
  clockNow : Validation.timestamp "persisted_at" (some env.clockNow) = .ok ()
  noOutbox : w.db.outbox.get? id = none
  noOther : ∀ e ∈ w.db.processedMessages.toList, e.2.publicationMessageId ≠ id

/-- **Nothing is against the preservation of an accepted event**: the checks made after it was
accepted, and what the stores hold under its keys. -/
structure Preservable (codec : Codec) (core : Core) (delivery : Delivery)
    (envelope : CerberoEnvelope) (event : RawEvent) (now : Timestamp) (w : World) : Prop where
  component : validateFilesystemPathComponent "tenant_id" event.tenantId = .ok ()
  ingestTime : isZeroTime (event.ingestTime.getD ⟨0, 0⟩) = false
  sourceId : event.sourceId ≠ ""
  pipelineVersion : event.pipelineVersion ≠ ""
  requestId : uuidText delivery.requestId = delivery.requestId
  segment : SegmentTakes codec (evidenceOf event) now w.files.node
  noProcessed : w.db.processed core.consumerName envelope.messageId = none
  rawObject : w.db.rawObjects.get? (uuidText event.eventId) = none ∨
    w.db.rawObjects.get? (uuidText event.eventId) = some (objectOf event)

variable {codec : Codec} {core : Core} {delivery : Delivery} {envelope : CerberoEnvelope}
  {event : RawEvent} {env : Environment} {id : String} {w : World}

/-! ## What an accepted event still lacks -/

/-- The locator of an event passes the checks on it. -/
theorem objectOf_ne_empty (hid : Validation.uuidV7 "event_id" event.eventId = .ok ()) :
    (objectOf event).storageUri ≠ "" ∧ (objectOf event).segmentId ≠ "" := by
  refine ⟨fun heq => ?_, ne_empty_of_uuidV7 hid⟩
  have hblank := isBlank_storageUri (rawPath (evidenceOf event))
  rw [show storageUri (rawPath (evidenceOf event)) = "" from heq] at hblank
  exact nomatch hblank

/-- **Of an accepted event the builder asks for a source and a pipeline.** -/
theorem rawEventPersisted_iff (hadmitted : Admitted codec delivery envelope event)
    (hnow : Validation.timestamp "persisted_at" (some env.clockNow) = .ok ()) :
    Validation.rawEventPersisted (persistedOf event (objectOf event) env.clockNow) = .ok () ↔
      event.sourceId ≠ "" ∧ event.pipelineVersion ≠ "" := by
  have hvalid := hadmitted.eventValid
  simp only [Validation.rawEvent, Validation.sha256, check_bind_eq_ok] at hvalid
  obtain ⟨hid, heventTime, hingest, -, hmeta, -⟩ := hvalid
  obtain ⟨huri, hsegment⟩ := objectOf_ne_empty hid
  have hlength : rejectIf ((objectOf event).length != event.rawSize) "length"
      "must equal raw_size" = .ok () := rejectIf_eq_ok.2 (bne_self_eq_false _)
  simp only [Validation.rawEventPersisted, persistedOf, check_bind_eq_ok,
    Validation.requireNonEmpty_eq_ok]
  constructor
  · rintro ⟨-, -, hsource, hpipeline, -⟩
    exact ⟨hsource, hpipeline⟩
  · rintro ⟨hsource, hpipeline⟩
    exact ⟨hid, hadmitted.tenant, hsource, hpipeline, huri, hsegment, heventTime, hingest, hnow,
      hmeta, hlength⟩

theorem Preservable.ready (haccepted : validateDelivery codec delivery = .ok (envelope, event))
    (hconsumer : isBlank core.consumerName = false) (hsupplied : Supplied env id w)
    (h : Preservable codec core delivery envelope event env.timeNow w) :
    Ready codec core delivery envelope event env id w where
  accepted := haccepted
  component := h.component
  persisted := (rawEventPersisted_iff (admitted_of_validateDelivery haccepted)
    hsupplied.clockNow).2 ⟨h.sourceId, h.pipelineVersion⟩
  consumerName := hconsumer
  newId := hsupplied.newId
  newIdValid := hsupplied.newIdValid
  segment := h.segment
  newIdText := hsupplied.newIdText
  noProcessed := h.noProcessed
  noOutbox := hsupplied.noOutbox
  noOther := hsupplied.noOther
  rawObject := h.rawObject

/-! ## A record that is there -/

/-- **A record that was found settles the delivery.** -/
theorem run_finish_found {record : Record} (result : Result)
    (hconsumer : isBlank core.consumerName = false)
    (hmessage : Validation.uuidV7 "message_id" envelope.messageId = .ok ())
    (hrecord : w.db.findMetadataRecord core.consumerName envelope.messageId = some record) :
    ((finish core envelope event result record).run (World.effect env) w).1.1.disposition = .ack ∨
      ((finish core envelope event result record).run (World.effect env) w).1.1.disposition =
        .isolate := by
  by_cases hmatches : Matches core.consumerName envelope event record
  · cases hpublished : record.published with
    | true =>
      rw [(run_finish_published hpublished).1 hmatches]
      exact .inl rfl
    | false =>
      obtain ⟨row, object, outbox, hrow, -, houtbox, -⟩ :=
        Database.findMetadataRecord_eq_some.1 hrecord
      have hkey : validateMetadataLookupKey core.consumerName envelope.messageId = .ok () := by
        simp only [validateMetadataLookupKey, check_bind_eq_ok, failIf_eq_ok]
        exact ⟨hconsumer, isBlank_of_uuidV7 hmessage⟩
      have hmark : ∃ db, w.db.markPublished env.databaseNow core.consumerName
          record.incomingMessageId = (.ok (), db) := by
        rw [hmatches.messageId]
        simp only [Database.markPublished, hkey, hrow, houtbox]
        exact ⟨_, rfl⟩
      obtain ⟨db, hmark⟩ := hmark
      rw [run_finish_unpublished hmatches hpublished hmark]
      exact .inl rfl
  · have hinvalid : validateExistingRecord core.consumerName envelope event record ≠ .ok () :=
      fun h => hmatches (validateExistingRecord_eq_ok.1 h)
    cases hcheck : validateExistingRecord core.consumerName envelope event record with
    | ok => exact absurd hcheck hinvalid
    | error e =>
      rw [finish, hcheck]
      exact .inr rfl

/-! ## A message without a record -/

/-- Without the bytes in the Raw Store the message is retried. -/
theorem completes_of_run_preserveNew {result : Result} (hretry : result.disposition = .retry)
    (h : ((preserveNew codec core delivery envelope event result).run
      (World.effect env) w).1.1.disposition ≠ .retry) :
    Completes env (ensureDurable codec (evidenceOf event)) w := by
  match hrun : (ensureDurable codec (evidenceOf event)).run.run (World.effect env) w with
  | (.ok object, w') => exact ⟨object, w', hrun⟩
  | (.error e, w') =>
    rw [preserveNew, Prog.run_bind, hrun] at h
    exact absurd hretry h

/-- Without a publication the message is retried. -/
theorem completes_build_of_run_preserveNew {result : Result} (hretry : result.disposition = .retry)
    {w' : World} (hvalid : validateRawObject event (objectOf event) = .ok ())
    (hstored : (ensureDurable codec (evidenceOf event)).run.run (World.effect env) w =
      (.ok (objectOf event), w'))
    (h : ((preserveNew codec core delivery envelope event result).run
      (World.effect env) w).1.1.disposition ≠ .retry) :
    Completes env (build codec core envelope event (objectOf event) delivery.requestId) w' := by
  match hrun : (build codec core envelope event (objectOf event) delivery.requestId).run.run
      (World.effect env) w' with
  | (.ok publication, w'') => exact ⟨publication, w'', hrun⟩
  | (.error e, w'') =>
    rw [preserveNew, Prog.run_bind, hstored] at h
    simp only [hvalid, Prog.run_bind, hrun] at h
    exact absurd hretry h

/-- A publication was built of an event that passes the check of its payload. -/
theorem rawEventPersisted_of_completes_build {object : RawObject} {requestId : String}
    (h : Completes env (build codec core envelope event object requestId) w) :
    Validation.rawEventPersisted (persistedOf event object env.clockNow) = .ok () := by
  obtain ⟨_, -, h⟩ := completes_checked_bind h
  obtain ⟨newId, _, hnewId⟩ := completes_withContext.1 h.first
  have hid : env.newId = .ok newId := (Prod.mk.inj hnewId).1
  obtain ⟨_, -, h⟩ := (leaves_newId hid).withContext.completes_bind h
  obtain ⟨_, -, h⟩ := completes_checked_bind h
  obtain ⟨_, -, h⟩ := leaves_clockNow.completes_bind h
  obtain ⟨_, -, h⟩ := completes_checked_bind h
  obtain ⟨_, hpersisted, -⟩ := completes_checked_bind h
  exact wrapCheck_eq_ok.1 hpersisted

/-- **A transaction that commits found its keys free.** -/
theorem Built.free_of_commit (hbuilt : Built codec core delivery envelope event env id w)
    (hsupplied : Supplied env id w)
    (hnone : w.db.findMetadataRecord core.consumerName envelope.messageId = none)
    {committed : Record} {db : Database}
    (h : w.db.commitPreservation (Fresh.record core delivery envelope event env id) =
      (.ok committed, db)) :
    uuidText delivery.requestId = delivery.requestId ∧
      w.db.processed core.consumerName envelope.messageId = none ∧
      (w.db.rawObjects.get? (uuidText event.eventId) = none ∨
        w.db.rawObjects.get? (uuidText event.eventId) = some (objectOf event)) := by
  have hnone' : w.db.findMetadataRecord
      (Fresh.record core delivery envelope event env id).consumerName
      (Fresh.record core delivery envelope event env id).incomingMessageId = none := hnone
  rw [Database.commitPreservation, hbuilt.validateMetadataRecord_record] at h
  simp only [hnone'] at h
  cases hpreserve : w.db.preserve (Fresh.record core delivery envelope event env id) with
  | error e =>
    rw [hpreserve] at h
    cases h
  | ok db' =>
    obtain ⟨db₁, h₁, hpreserve⟩ := bind_eq_ok.1 hpreserve
    obtain ⟨db₂, h₂, h₃⟩ := bind_eq_ok.1 hpreserve
    obtain ⟨-, -, -, houtbox, hprocessed⟩ := Database.ensureRawObject_eq_ok h₁
    obtain ⟨row, -, hrow, hold, rfl⟩ := Database.ensureOutboxPublication_eq_ok h₂
    obtain ⟨hfree, -⟩ := Database.insertProcessed_eq_ok h₃
    refine ⟨?_, ?_, ?_⟩
    · have hid : uuidText (publicationOf core delivery envelope event id env.clockNow).messageId =
          id := hsupplied.newIdText
      have hkey : db₁.outbox.get? (uuidText
          (Fresh.record core delivery envelope event env id).publication.messageId) = none := by
        rw [houtbox]
        show w.db.outbox.get? (uuidText id) = none
        rw [hsupplied.newIdText]
        exact hsupplied.noOutbox
      simp only [Database.ensureOutboxPublication, hkey, Option.getD_none] at h₂
      split at h₂
      · cases h₂
      · rename_i hok
        push Not at hok
        exact ((publication_outboxRow _).1 hok.2).2
    · rw [Database.processed, hprocessed] at hfree
      exact hfree
    · unfold Database.ensureRawObject at h₁
      split at h₁
      · exact .inl ‹_›
      · rename_i actual hactual
        split at h₁
        · rename_i heq
          exact .inr (hactual.trans (congrArg some heq))
        · cases h₁

/-! ## Exactly -/

/-- A message that is not retried can be preserved. -/
theorem preservable_of_run_preserveNew
    (haccepted : validateDelivery codec delivery = .ok (envelope, event))
    (hconsumer : isBlank core.consumerName = false) (hsupplied : Supplied env id w)
    (hnone : w.db.findMetadataRecord core.consumerName envelope.messageId = none)
    (h : ((preserveNew codec core delivery envelope event
      ⟨.retry, envelope.messageId, event.eventId⟩).run (World.effect env) w).1.1.disposition ≠
        .retry) :
    Preservable codec core delivery envelope event env.timeNow w := by
  have hadmitted := admitted_of_validateDelivery haccepted
  obtain ⟨hevidence, htakes⟩ :=
    completes_ensureDurable_iff.1 (completes_of_run_preserveNew rfl h)
  have hchecks := hevidence
  simp only [validateFilesystemRawEvidence, check_bind_eq_ok, failIf_eq_ok, wrapCheck_eq_ok,
    bne_eq_false_iff_eq] at hchecks
  obtain ⟨hcomponent, hid, hzero, -, hsize, hhash⟩ := hchecks
  have hvalid : validateRawObject event (objectOf event) = .ok () := by
    obtain ⟨huri, hsegment⟩ := objectOf_ne_empty (Validation.uuidV7_field hid)
    simp only [validateRawObject, check_bind_eq_ok, failIf_eq_ok, beq_eq_false_iff_ne,
      bne_eq_false_iff_eq]
    exact ⟨huri, hsegment, rfl, rfl⟩
  obtain ⟨nodes, files, hstored, -⟩ : Succeeds env (ensureDurable codec (evidenceOf event)) w
      (objectOf event) := succeeds_ensureDurable hevidence
    (fun _ hpart => component_of_mem_segmentPath hcomponent hid hpart) ⟨hsize.symm, hhash.symm⟩
    htakes
  have hpersisted := rawEventPersisted_of_completes_build
    (completes_build_of_run_preserveNew rfl hvalid hstored h)
  have hbuilt : Built codec core delivery envelope event env id w :=
    ⟨haccepted, hcomponent, hpersisted, hconsumer, hsupplied.newId, hsupplied.newIdValid, htakes⟩
  obtain ⟨hsource, hpipeline⟩ := (rawEventPersisted_iff hadmitted hsupplied.clockNow).1 hpersisted
  match hcommit : w.db.commitPreservation (Fresh.record core delivery envelope event env id) with
  | (.error e, db) =>
    obtain ⟨files', hrun⟩ := hbuilt.run_preserveNew hzero hcommit
      ⟨.retry, envelope.messageId, event.eventId⟩
    rw [hrun] at h
    exact absurd rfl h
  | (.ok committed, db) =>
    obtain ⟨hrequest, hprocessed, hobject⟩ := hbuilt.free_of_commit hsupplied hnone hcommit
    exact ⟨hcomponent, hzero, hsource, hpipeline, hrequest, htakes, hprocessed, hobject⟩

/-- **Exactly the deliveries that are rejected, have a record or can be preserved are settled.** -/
theorem settles_iff (codec : Codec) (core : Core) (delivery : Delivery) (env : Environment)
    (id : String) (w : World) (hsupplied : Supplied env id w) :
    Settles codec core delivery env w ↔
      ∀ envelope event, validateDelivery codec delivery = .ok (envelope, event) →
        isBlank core.consumerName = false ∧
          ((w.db.findMetadataRecord core.consumerName envelope.messageId).isSome ∨
            Preservable codec core delivery envelope event env.timeNow w) := by
  cases haccepted : validateDelivery codec delivery with
  | error e =>
    refine iff_of_true ?_ fun _ _ h => (by cases h)
    rw [Settles, process, haccepted]
    exact .inr rfl
  | ok accepted =>
    obtain ⟨envelope, event⟩ := accepted
    have hmessage : Validation.uuidV7 "message_id" envelope.messageId = .ok () := by
      have henvelope := (admitted_of_validateDelivery haccepted).envelopeValid
      simp only [Validation.envelope, check_bind_eq_ok] at henvelope
      exact henvelope.2.1
    have hunique : ∀ P : CerberoEnvelope → RawEvent → Prop, (∀ envelope' event',
        (Except.ok (envelope, event) : Fallible (CerberoEnvelope × RawEvent)) =
          .ok (envelope', event') → P envelope' event') ↔ P envelope event := by
      intro P
      refine ⟨fun h => h _ _ rfl, fun h envelope' event' heq => ?_⟩
      obtain ⟨rfl, rfl⟩ := Prod.mk.inj (Except.ok.inj heq)
      exact h
    rw [hunique fun envelope event => _ ∧ _]
    cases hconsumer : isBlank core.consumerName with
    | true =>
      refine iff_of_false ?_ fun h => (by cases h.1)
      have hfind : ∃ e, w.db.find core.consumerName envelope.messageId = .error e := by
        simp only [Database.find, validateMetadataLookupKey, hconsumer]
        exact ⟨_, rfl⟩
      obtain ⟨e, hfind⟩ := hfind
      have hretry : ((process codec core delivery).run (World.effect env) w).1.1.disposition =
          .retry := by
        have hrun : (perform (.find core.consumerName envelope.messageId)).run (World.effect env) w =
            (.error e, w) := congrArg (·, w) hfind
        simp only [process, haccepted, Prog.run_bind, hrun]
        rfl
      rw [Settles, hretry]
      simp
    | false =>
      have hkey : validateMetadataLookupKey core.consumerName envelope.messageId = .ok () := by
        simp only [validateMetadataLookupKey, check_bind_eq_ok, failIf_eq_ok]
        exact ⟨hconsumer, isBlank_of_uuidV7 hmessage⟩
      have hfind : w.db.find core.consumerName envelope.messageId =
          .ok (w.db.findMetadataRecord core.consumerName envelope.messageId) := by
        rw [Database.find, hkey]
        rfl
      cases hfound : w.db.findMetadataRecord core.consumerName envelope.messageId with
      | some record =>
        rw [hfound] at hfind
        refine iff_of_true ?_ ⟨rfl, .inl rfl⟩
        rw [Settles, run_process_of_find haccepted hfind]
        exact run_finish_found _ hconsumer hmessage hfound
      | none =>
        rw [hfound] at hfind
        constructor
        · intro hsettles
          rw [Settles, run_process_of_find haccepted hfind] at hsettles
          refine ⟨rfl, .inr (preservable_of_run_preserveNew haccepted hconsumer hsupplied hfound
            fun hretry => ?_)⟩
          obtain hack | hisolate := hsettles
          · cases hack.symm.trans hretry
          · cases hisolate.symm.trans hretry
        · rintro ⟨-, hsome | hpreservable⟩
          · cases hsome
          · exact .inl ((hpreservable.ready haccepted hconsumer hsupplied).run_process_fresh
              hpreservable.ingestTime hpreservable.requestId).1

/-! ## Two deliveries -/

theorem supplied_sample :
    Supplied sampleEnvironment "01890a5d-ac96-774b-bcce-b302099a8002" World.empty where
  newId := rfl
  newIdValid := by decide +kernel
  newIdText := by decide +kernel
  clockNow := by decide +kernel
  noOutbox := rfl
  noOther := by simp [World.empty, Database.empty, SortedMap.empty]

/-- The sample delivery is settled. -/
theorem settles_sampleDelivery :
    Settles sampleCodec sampleCore (sampleDelivery lowerMessageId) sampleEnvironment
      World.empty := by
  have haccepted : validateDelivery sampleCodec (sampleDelivery lowerMessageId) =
    .ok (sampleEnvelope lowerMessageId, sampleEvent) := by decide +kernel
  refine (settles_iff _ _ _ _ _ _ supplied_sample).2 fun envelope event h => ?_
  obtain ⟨rfl, rfl⟩ := Prod.mk.inj (Except.ok.inj (haccepted.symm.trans h))
  refine ⟨by decide +kernel, .inr ⟨by decide +kernel, by decide +kernel, by decide, by decide,
    by decide +kernel, ?_, rfl, .inl rfl⟩⟩
  exact (segmentReady_empty _ _).takes (by decide +kernel)

/-- An event of a tenant whose name is no path component. -/
def unsafeEvent : RawEvent := { sampleEvent with tenantId := "tenant/a" }

/-- The libraries on its bytes. -/
def unsafeCodec : Codec :=
  { sampleCodec with
    unmarshalRawEvent := fun data =>
      if data = Protobuf.marshalRawEvent unsafeEvent then some unsafeEvent else none }

/-- Its delivery. -/
def unsafeDelivery : Delivery :=
  ⟨some { sampleEnvelope lowerMessageId with
    tenantId := "tenant/a"
    payload := some ⟨"type.googleapis.com/cerbero.contracts.v1.RawEvent",
      Protobuf.marshalRawEvent unsafeEvent⟩ }, ""⟩

/-- It passes its checks, nothing fails, and it is retried. -/
theorem not_settles_unsafeDelivery :
    Supplied sampleEnvironment "01890a5d-ac96-774b-bcce-b302099a8002" World.empty ∧
      (validateDelivery unsafeCodec unsafeDelivery).isOk ∧
      ¬ Settles unsafeCodec sampleCore unsafeDelivery sampleEnvironment World.empty := by
  refine ⟨supplied_sample, by decide +kernel, fun hsettles => ?_⟩
  have hretry : ((process unsafeCodec sampleCore unsafeDelivery).run
      (World.effect sampleEnvironment) World.empty).1.1.disposition = .retry := by decide +kernel
  rw [Settles, hretry] at hsettles
  exact absurd hsettles (by decide)

end Preserver

end Cerbero
