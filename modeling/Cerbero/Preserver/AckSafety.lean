import Mathlib.Data.Set.Function
import Cerbero.Preserver.RawStoreSafety

/-!
# Preserver/AckSafety — an acknowledged delivery is preserved, whatever happens in between

Any number of `Core.Process` calls run at a time, each of their operations may fail before or after
its effect, calls are given up, the host crashes, messages are delivered again.  **`ackSafety`**: a
call that returns ACK does so in a state where the exact bytes are durable, the message's rows are
committed, and its publication is accepted and marked; and all that is ever sent for a message is
one publication.  A message that `RawConsumer` acknowledges is one of those calls
(`acknowledged_of_reachable`).

The proof follows `Process`: each of its parts is given the guarantee it keeps under the
interference of all other calls (`Machine.Holds`).
-/

namespace Cerbero

namespace Preserver

open Machine
open Prog (attempt checked)

variable {codec : Codec} {payloads : Set (List UInt8)} {w : World}

/-! ## Metadata under interference -/

/-- A record tells what the rows of its message hold. -/
def Recorded (consumerName messageId : String) (record : Record) (w : World) : Prop :=
  w.Rows consumerName messageId record.rawObject record.publication record.published

theorem guarantees_find (consumerName messageId : String) :
    Guarantees codec payloads (OnOk fun found t => ∀ record, found = some record →
      Recorded consumerName messageId record t) (perform (.find consumerName messageId)) w := by
  refine guarantees_perform (fun _ _ _ => trivial) (fun env t u _ _ hle _ => ?_) ?_
  · match hr : t.db.find consumerName messageId with
    | .error e =>
      rw [show (t.effect env (.find consumerName messageId)).1 = .error e from hr]
      trivial
    | .ok found =>
      rw [show (t.effect env (.find consumerName messageId)).1 = .ok found from hr]
      rintro record rfl
      obtain ⟨-, hr⟩ := check_bind_eq_ok.1 hr
      obtain ⟨row, object, outbox, hrow, hobject, houtbox, rfl⟩ :=
        Database.findMetadataRecord_eq_some.1 (Except.ok.inj hr)
      exact World.Rows.mono hle ⟨row, outbox, hrow, hobject, houtbox, rfl, id⟩
  · rintro _ _ ⟨_, rfl⟩
    trivial

/-- The rows a commit answers for are in the tables. -/
theorem recorded_of_commitPreservation {record committed : Record} {db : Database}
    (hnew : record.published = false)
    (h : w.db.commitPreservation record = (.ok committed, db)) :
    Recorded record.consumerName record.incomingMessageId committed { w with db := db } := by
  obtain ⟨e, h'⟩ | ⟨existing, hfind, h'⟩ | ⟨db', hdb, h'⟩ := w.db.commitPreservation_cases record
  · exact nomatch (Prod.mk.inj (h.symm.trans h')).1
  · obtain ⟨hc, rfl⟩ := Prod.mk.inj (h.symm.trans h')
    obtain rfl := Except.ok.inj hc
    obtain ⟨row, object, outbox, hrow, hobject, houtbox, rfl⟩ :=
      Database.findMetadataRecord_eq_some.1 hfind
    exact ⟨row, outbox, hrow, hobject, houtbox, rfl, id⟩
  · obtain ⟨hc, rfl⟩ := Prod.mk.inj (h.symm.trans h')
    obtain rfl := Except.ok.inj hc
    obtain ⟨outbox, houtbox, -, heq⟩ := hdb.outbox
    exact ⟨_, outbox, hdb.processed, hdb.rawObject, houtbox, heq, by simp [hnew]⟩

theorem guarantees_commitPreservation {record : Record} (hnew : record.published = false)
    (hstored : Stored codec payloads w record.rawObject) :
    Guarantees codec payloads (OnOk fun committed t =>
      Recorded record.consumerName record.incomingMessageId committed t)
      (perform (.commitPreservation record)) w := by
  refine guarantees_perform (fun _ hwt _ => hstored.mono hwt.files)
    (fun env t u _ _ hle _ => ?_) ?_
  · match hr : t.db.commitPreservation record with
    | (.error e, db) =>
      rw [show (t.effect env (.commitPreservation record)).1 = .error e from congrArg Prod.fst hr]
      trivial
    | (.ok committed, db) =>
      rw [show (t.effect env (.commitPreservation record)).1 = .ok committed from
        congrArg Prod.fst hr]
      refine World.Rows.mono hle ?_
      rw [show (t.effect env (.commitPreservation record)).2 = { t with db := db } from
        congrArg (fun p => { t with db := p.2 }) hr]
      exact recorded_of_commitPreservation hnew hr
  · rintro _ _ ⟨_, rfl⟩
    trivial

/-! ## Publishing under interference -/

/-- An acknowledgement that is not a failure comes with an accepted publication. -/
theorem guarantees_publishMsg {consumerName messageId : String} {object : RawObject}
    {p : Publication} (hrows : w.Rows consumerName messageId object p false) :
    Guarantees codec payloads (OnOk fun ack t => validateAck ack = .ok () → p ∈ t.stream)
      (perform (.publishMsg consumerName messageId p)) w := by
  refine guarantees_perform (fun _ hwt _ => ⟨object, hrows.mono hwt⟩)
    (fun env t u _ _ hle _ _ => hle.stream _ (by simp [World.effect, World.accept])) ?_
  intro r u hfailed
  match r, hfailed with
  | .error _, _ => trivial
  | .ok none, _ => exact fun h => nomatch h
  | .ok (some ack), hfailed =>
    intro h
    simp only [validateAck, check_bind_eq_ok, failIf_eq_ok, bne_eq_false_iff_eq,
      beq_eq_false_iff_ne] at h
    obtain hstream | hsequence := hfailed ack rfl
    · exact absurd h.1 hstream
    · exact absurd hsequence h.2

theorem guarantees_publish {consumerName messageId : String} {object : RawObject}
    {p : Publication} (hrows : w.Rows consumerName messageId object p false) :
    Guarantees codec payloads (OnOk fun _ t => p ∈ t.stream)
      (publish consumerName messageId p).run w := by
  refine holds_try (guarantees_checked _) fun _ t hwt _ _ => ?_
  refine holds_try (guarantees_withContext (guarantees_publishMsg (hrows.mono hwt)))
    fun ack t' _ _ hack => ?_
  exact guarantees_of_checked fun _ hok u hu hsafe => hack u hu hsafe hok

theorem guarantees_markPublished {consumerName messageId : String} {object : RawObject}
    {p : Publication} (hrows : w.Rows consumerName messageId object p false)
    (haccepted : p ∈ w.stream) :
    Guarantees codec payloads (OnOk fun _ t => t.Rows consumerName messageId object p true)
      (perform (.markPublished consumerName messageId)) w := by
  refine guarantees_perform
    (fun _ hwt _ => ⟨object, p, hrows.mono hwt, hwt.stream _ haccepted⟩)
    (fun env t u hwt _ hle _ => ?_) ?_
  · obtain ⟨e, h⟩ | ⟨row, outbox, hrow, houtbox, h⟩ :=
      t.db.markPublished_cases env.databaseNow consumerName messageId
    · rw [show (t.effect env (.markPublished consumerName messageId)).1 = .error e from
        congrArg Prod.fst h]
      trivial
    · rw [show (t.effect env (.markPublished consumerName messageId)).1 = .ok () from
        congrArg Prod.fst h]
      obtain ⟨row', outbox', hrow', hobject, houtbox', heq, -⟩ := hrows.mono hwt
      obtain rfl := Option.some.inj (hrow.symm.trans hrow')
      obtain rfl := Option.some.inj (houtbox.symm.trans houtbox')
      refine World.Rows.mono hle ?_
      rw [show (t.effect env (.markPublished consumerName messageId)).2 = { t with db := _ } from
        congrArg (fun p => { t with db := p.2 }) h]
      exact ⟨row, _, hrow, hobject, SortedMap.get?_insert_self _ _ _, heq, fun _ => rfl⟩
  · rintro _ _ ⟨_, rfl⟩
    trivial

/-! ## Acknowledgement -/

/-- **A delivery that may be acknowledged**: its exact bytes are durable under the locator of its
committed rows, and its publication is accepted and marked. -/
def AckEligible (consumerName : String) (envelope : CerberoEnvelope) (event : RawEvent)
    (w : World) : Prop :=
  ∃ row object outbox path, w.db.processed consumerName envelope.messageId = some row ∧
    w.db.rawObjects.get? row.eventId = some object ∧ object.storageUri = storageUri path ∧
    w.files.Durable path (.file event.rawPayload) ∧
    w.db.outbox.get? row.publicationMessageId = some outbox ∧ outbox.publishedAt.isSome ∧
    Database.publication row.publicationMessageId outbox ∈ w.stream

/-- An admitted event carries the digest of its payload. -/
theorem sha256_of_rawEvent {event : RawEvent}
    (h : Validation.rawEvent codec.sha256LowerHex event = .ok ()) :
    codec.sha256LowerHex event.rawPayload = event.rawHash := by
  simp only [Validation.rawEvent, Validation.sha256, check_bind_eq_ok, rejectIf_eq_ok,
    bne_eq_false_iff_eq] at h
  exact h.2.2.2.2.2

theorem ackEligible_of_rows (hinj : Set.InjOn codec.sha256LowerHex payloads)
    {consumerName : String} {envelope : CerberoEnvelope} {event : RawEvent} {object : RawObject}
    {p : Publication} (hw : Safe codec payloads w)
    (hrows : w.Rows consumerName envelope.messageId object p true)
    (hpayload : event.rawPayload ∈ payloads)
    (hsha : codec.sha256LowerHex event.rawPayload = event.rawHash)
    (hhash : object.hash = event.rawHash) : AckEligible consumerName envelope event w := by
  obtain ⟨row, outbox, hrow, hobject, houtbox, -, hpub⟩ := hrows
  obtain ⟨dir, contents, huri, hdurable, hmem, hcontents, -⟩ := hw.object _ _ hobject
  obtain rfl : contents = event.rawPayload :=
    hinj hmem hpayload (hcontents.trans (hhash.trans hsha.symm))
  exact ⟨row, object, outbox, _, hrow, hobject, huri, hdurable, houtbox, hpub rfl,
    hw.published _ _ houtbox (hpub rfl)⟩

/-! ## Processing under interference -/

/-- What an outcome of processing promises. -/
def AckSafe (core : Core) (envelope : CerberoEnvelope) (event : RawEvent)
    (outcome : ProcessOutcome) (w : World) : Prop :=
  outcome.1.disposition = .ack → AckEligible core.consumerName envelope event w

/-- An outcome that is no acknowledgement promises nothing. -/
theorem guarantees_noAck {core : Core} {envelope : CerberoEnvelope} {event : RawEvent}
    {outcome : ProcessOutcome} (h : outcome.1.disposition ≠ .ack) :
    Guarantees codec payloads (AckSafe core envelope event) (pure outcome) w :=
  fun _ _ _ hack => absurd hack h

theorem guarantees_build (core : Core) (incoming : CerberoEnvelope) (event : RawEvent)
    (object : RawObject) (requestId : String) :
    Guarantees codec payloads (OnOk fun _ _ => True)
      (build codec core incoming event object requestId).run w := by
  have hid : ∀ {w}, Guarantees codec payloads (OnOk fun _ _ => True) (perform .newId) w := by
    refine guarantees_perform (fun _ _ _ => trivial) (fun env _ _ _ _ _ _ => ?_) ?_
    · match (World.effect env .newId _).1 with
      | .ok _ => trivial
      | .error _ => trivial
    · rintro _ _ ⟨_, rfl⟩
      trivial
  have hclock : ∀ {w}, Guarantees codec payloads (fun _ _ => True) (perform .clockNow) w :=
    guarantees_perform (fun _ _ _ => trivial) (fun _ _ _ _ _ _ _ => trivial) fun _ _ _ => trivial
  refine holds_try (guarantees_checked _) fun _ _ _ _ _ => ?_
  refine holds_try (guarantees_withContext hid) fun _ _ _ _ _ => ?_
  refine holds_try (guarantees_checked _) fun _ _ _ _ _ => ?_
  refine holds_try (holds_bind hclock fun _ _ _ _ _ =>
    guarantees_return fun _ _ _ => trivial) fun _ _ _ _ _ => ?_
  refine holds_try (guarantees_checked _) fun _ _ _ _ _ => ?_
  refine holds_try (guarantees_checked _) fun _ _ _ _ _ => ?_
  refine holds_try (guarantees_checked _) fun _ _ _ _ _ => ?_
  exact guarantees_return fun _ _ _ => trivial

section

variable {core : Core} {envelope : CerberoEnvelope} {event : RawEvent} {result : Result}
  (hinj : Set.InjOn codec.sha256LowerHex payloads) (hpayload : event.rawPayload ∈ payloads)
  (hsha : codec.sha256LowerHex event.rawPayload = event.rawHash)
  (hresult : result.disposition = .retry)

include hinj hpayload hsha hresult

theorem guarantees_publishAndMark {record : Record} (hrows : Recorded core.consumerName
    envelope.messageId record w) (hmatches : Matches core.consumerName envelope event record) :
    Guarantees codec payloads (AckSafe core envelope event)
      (publishAndMark core result record) w := by
  obtain ⟨row, outbox, hrow, hobject, houtbox, heq, -⟩ := hrows
  have hrows : w.Rows core.consumerName record.incomingMessageId record.rawObject
      record.publication false :=
    ⟨row, outbox, hmatches.messageId ▸ hrow, hobject, houtbox, heq, by simp⟩
  unfold publishAndMark
  split
  · exact guarantees_noAck (by simp)
  · refine holds_bind (guarantees_publish hrows) fun r t hwt ht haccepted => ?_
    match r with
    | .error _ => exact guarantees_noAck (by simp [hresult])
    | .ok () =>
      refine holds_bind (guarantees_markPublished (hrows.mono hwt) (haccepted.now ht))
        fun r' t' htt' ht' hmarked => ?_
      match r' with
      | .error _ => exact guarantees_noAck (by simp [hresult])
      | .ok () =>
        exact fun u hu hsafe _ => ackEligible_of_rows hinj hsafe
          (hmatches.messageId ▸ hmarked u hu hsafe) hpayload hsha hmatches.hash

theorem guarantees_finish {record : Record}
    (hrows : Recorded core.consumerName envelope.messageId record w) :
    Guarantees codec payloads (AckSafe core envelope event)
      (finish core envelope event result record) w := by
  unfold finish
  split
  · exact guarantees_noAck (by simp)
  · rename_i hok
    have hmatches := validateExistingRecord_eq_ok.1 hok
    split
    · rename_i hpublished
      have hrows : w.Rows core.consumerName envelope.messageId record.rawObject
          record.publication true := hpublished ▸ hrows
      exact fun u hu hsafe _ =>
        ackEligible_of_rows hinj hsafe (hrows.mono hu) hpayload hsha hmatches.hash
    · exact guarantees_publishAndMark hinj hpayload hsha hresult hrows hmatches

theorem guarantees_preserveNew (delivery : Delivery) :
    Guarantees codec payloads (AckSafe core envelope event)
      (preserveNew codec core delivery envelope event result) w := by
  have hretry : result.disposition ≠ .ack := by simp [hresult]
  refine holds_bind (guarantees_ensureDurable hpayload) fun r t _ ht hstored => ?_
  match r with
  | .error _ => exact guarantees_noAck hretry
  | .ok object =>
    dsimp only
    split
    · exact guarantees_noAck (by simp)
    · refine holds_bind (guarantees_build _ _ _ _ _) fun r' t' htt' ht' _ => ?_
      match r' with
      | .error _ => exact guarantees_noAck hretry
      | .ok publication =>
        dsimp only
        split
        · exact guarantees_noAck (by simp)
        · refine holds_bind (guarantees_commitPreservation rfl (hstored t' htt' ht'))
            fun r'' t'' _ ht'' hcommitted => ?_
          match r'' with
          | .error _ => exact guarantees_noAck hretry
          | .ok committed =>
            exact guarantees_finish hinj hpayload hsha hresult (hcommitted.now ht'')

end

/-- **`Process` acknowledges only what is preserved**, whatever other calls do. -/
theorem guarantees_process (hinj : Set.InjOn codec.sha256LowerHex payloads) {core : Core}
    {delivery : Delivery}
    (hpayload : ∀ envelope event, validateDelivery codec delivery = .ok (envelope, event) →
      event.rawPayload ∈ payloads) :
    Guarantees codec payloads (fun outcome t => outcome.1.disposition = .ack →
      ∃ envelope event, validateDelivery codec delivery = .ok (envelope, event) ∧
        AckEligible core.consumerName envelope event t) (process codec core delivery) w := by
  unfold process
  split
  · exact fun _ _ _ hack => nomatch hack
  · rename_i envelope event hvalid
    have hadmitted := admitted_of_validateDelivery hvalid
    have hsha := sha256_of_rawEvent hadmitted.eventValid
    have hmem := hpayload envelope event hvalid
    refine holds_imp (fun _ _ (hsafe : AckSafe core envelope event _ _) hack =>
      ⟨envelope, event, hvalid, hsafe hack⟩) ?_
    refine holds_bind (guarantees_find core.consumerName envelope.messageId)
      fun r t _ ht hfound => ?_
    match r with
    | .error _ => exact guarantees_noAck (by simp)
    | .ok (some record) => exact guarantees_finish hinj hmem hsha rfl (hfound.now ht record rfl)
    | .ok none => exact guarantees_preserveNew hinj hmem hsha rfl delivery

/-- Only an ACK without error is acknowledged. -/
theorem ack_of_transportAction : ∀ {outcome : ProcessOutcome},
    transportAction outcome = .doubleAck → outcome.1.disposition = .ack
  | (⟨.ack, _, _⟩, _), _ => rfl
  | (⟨.retry, _, _⟩, _), h => nomatch h
  | (⟨.isolate, _, _⟩, _), h => nomatch h
  | (⟨.unspecified, _, _⟩, _), h => nomatch h

/-- The delivery that is read from a message. -/
def ReadFrom (codec : Codec) (message : RawMessage) (delivery : Delivery) : Prop :=
  message.subject = rawReceivedSubject ∧ ∃ envelope,
    codec.unmarshalEnvelope message.data = some envelope ∧
      delivery = ⟨some envelope, message.requestId.getD ""⟩

/-- What an acknowledgement of a message says. -/
def Acknowledged (codec : Codec) (core : Core) (message : RawMessage) (action : TransportAction)
    (w : World) : Prop :=
  action = .doubleAck → ∃ delivery envelope event, ReadFrom codec message delivery ∧
    validateDelivery codec delivery = .ok (envelope, event) ∧
      AckEligible core.consumerName envelope event w

/-- **`RawConsumer` acknowledges only what is preserved.** -/
theorem guarantees_handle (hinj : Set.InjOn codec.sha256LowerHex payloads) {core : Core}
    {message : RawMessage}
    (hpayload : ∀ delivery envelope event, ReadFrom codec message delivery →
      validateDelivery codec delivery = .ok (envelope, event) → event.rawPayload ∈ payloads) :
    Guarantees codec payloads (Acknowledged codec core message) (handle codec core message) w := by
  unfold handle
  split
  · exact fun _ _ _ h => nomatch h
  · rename_i hsubject
    split
    · exact fun _ _ _ h => nomatch h
    · rename_i incoming hincoming
      have hread : ReadFrom codec message ⟨some incoming, message.requestId.getD ""⟩ :=
        ⟨not_not.1 hsubject, incoming, hincoming, rfl⟩
      refine holds_bind (guarantees_process hinj fun envelope event h =>
        hpayload _ envelope event hread h) fun outcome t _ _ hsafe => ?_
      refine fun u hu hu' hack => ?_
      obtain ⟨envelope, event, hvalid, heligible⟩ :=
        hsafe u hu hu' (ack_of_transportAction hack)
      exact ⟨_, envelope, event, hread, hvalid, heligible⟩

/-! ## Whole runs -/

/-- The payloads of the deliveries that are understood. -/
def payloadsOf (codec : Codec) (deliveries : Set Delivery) : Set (List UInt8) :=
  {payload | ∃ delivery ∈ deliveries, ∃ envelope event,
    validateDelivery codec delivery = .ok (envelope, event) ∧ event.rawPayload = payload}

/-- **The raw preserver at work**: any number of `Process` calls, for any consumer, on any of the
deliveries, over the same stores. -/
def preserver (codec : Codec) (deliveries : Set Delivery) :
    Machine dependencies World (Core × deliveries) ProcessOutcome where
  program l := process codec l.1 l.2
  Outcome := World.Outcome
  Crash := World.Crash

/-- **A call that is left alone is a run of the preserver.** -/
theorem exists_reachable_process (env : Environment) {deliveries : Set Delivery} (core : Core)
    {delivery : Delivery} (hmem : delivery ∈ deliveries) (w : World) :
    ∃ calls, (preserver codec deliveries).Reachable w
        ⟨((process codec core delivery).run (World.effect env) w).2, calls⟩ ∧
      calls 0 = some ((core, ⟨delivery, hmem⟩),
        .pure ((process codec core delivery).run (World.effect env) w).1) := by
  exact Machine.exists_reachable_run (M := preserver codec deliveries) (h := World.effect env)
    (fun _ _ => ⟨env, Or.inl rfl⟩) (l := (core, ⟨delivery, hmem⟩)) rfl

/-- The promise of a `Process` call to its caller. -/
def Promised (codec : Codec) (deliveries : Set Delivery) (l : Core × deliveries)
    (outcome : ProcessOutcome) (w : World) : Prop :=
  outcome.1.disposition = .ack →
    ∃ envelope event, validateDelivery codec l.2 = .ok (envelope, event) ∧
      AckEligible l.1.consumerName envelope event w

theorem kept_preserver {deliveries : Set Delivery}
    (hinj : Set.InjOn codec.sha256LowerHex (payloadsOf codec deliveries))
    {s : State dependencies World (Core × deliveries) ProcessOutcome}
    (hs : (preserver codec deliveries).Reachable .empty s) :
    Kept (preserver codec deliveries) (Safe codec (payloadsOf codec deliveries))
      (Promised codec deliveries) s :=
  holds_of_reachable (Safe codec (payloadsOf codec deliveries)) (Promised codec deliveries)
    (fun l _ _ => guarantees_process hinj fun _ _ h => ⟨l.2, l.2.2, _, _, h, rfl⟩)
    (fun _ _ hg hcrash => safe_of_crash hg hcrash) safe_empty hs

/-- **ACK safety of the raw preserver.**  In every reachable state, a call that returned ACK finds
its delivery preserved and published, and all publications sent for a message of a consumer are the
same. -/
theorem ackSafety {codec : Codec} {deliveries : Set Delivery}
    (hinj : Set.InjOn codec.sha256LowerHex (payloadsOf codec deliveries))
    {s : State dependencies World (Core × deliveries) ProcessOutcome}
    (hs : (preserver codec deliveries).Reachable .empty s) :
    (∀ i core delivery outcome, s.calls i = some ((core, delivery), .pure outcome) →
      outcome.1.disposition = .ack →
        ∃ envelope event, validateDelivery codec delivery = .ok (envelope, event) ∧
          AckEligible core.consumerName envelope event s.shared) ∧
    ∀ consumerName messageId messageId' p p',
      ((consumerName, messageId), p) ∈ s.shared.sent →
      ((consumerName, messageId'), p') ∈ s.shared.sent → uuidText messageId = uuidText messageId' →
        p.messageId = p'.messageId ∧ p.payload = p'.payload := by
  obtain ⟨hsafe, hcalls⟩ := kept_preserver hinj hs
  refine ⟨fun i core delivery outcome hi hack => ?_, fun c m m' p p' hp hp' hid => ?_⟩
  · exact Always.now (hcalls i _ _ hi) hsafe hack
  · obtain ⟨object, hrows⟩ := hsafe.sent c m p hp
    obtain ⟨object', hrows'⟩ := hsafe.sent c m' p' hp'
    obtain rfl := hrows.unique hrows' hid
    exact ⟨rfl, rfl⟩

/-- **The consumers at work**: any number of `Handle` calls on any of the messages. -/
def consumer (codec : Codec) (messages : Set RawMessage) :
    Machine dependencies World (Core × messages) TransportAction where
  program l := handle codec l.1 l.2
  Outcome := World.Outcome
  Crash := World.Crash

/-- **ACK safety of the consumers.**  Whatever the interleaving of the calls, their failures and the
crashes, a message that is acknowledged holds a delivery that is preserved and published. -/
theorem acknowledged_of_reachable {messages : Set RawMessage}
    (hinj : Set.InjOn codec.sha256LowerHex
      (payloadsOf codec {delivery | ∃ message ∈ messages, ReadFrom codec message delivery}))
    {s : State dependencies World (Core × messages) TransportAction}
    (hs : (consumer codec messages).Reachable .empty s) {i : ℕ} {core : Core} {message : messages}
    {action : TransportAction} (hi : s.calls i = some ((core, message), .pure action)) :
    Acknowledged codec core message action s.shared := by
  obtain ⟨hsafe, hcalls⟩ := holds_of_reachable (M := consumer codec messages) (Safe codec _)
    (fun l => Acknowledged codec l.1 l.2)
    (fun l _ _ => guarantees_handle hinj fun delivery _ _ hread h =>
      ⟨delivery, ⟨l.2, l.2.2, hread⟩, _, _, h, rfl⟩)
    (fun _ _ hg hcrash => safe_of_crash hg hcrash) safe_empty hs
  exact Always.now (hcalls i _ _ hi) hsafe

/-- The sample delivery, processed without interruption, is acknowledged and preserved. -/
theorem ackSafety_sampleDelivery :
    ∃ s, (preserver sampleCodec {sampleDelivery "01890a5d-ac96-774b-bcce-b302099a8001"}).Reachable
        .empty s ∧
      (∃ l outcome, s.calls 0 = some (l, .pure outcome) ∧ outcome.1.disposition = .ack) ∧
      ∃ envelope event, validateDelivery sampleCodec
          (sampleDelivery "01890a5d-ac96-774b-bcce-b302099a8001") = .ok (envelope, event) ∧
        AckEligible "raw-preserver" envelope event s.shared := by
  have hinj : Set.InjOn sampleCodec.sha256LowerHex (payloadsOf sampleCodec
      {sampleDelivery "01890a5d-ac96-774b-bcce-b302099a8001"}) := by
    rintro a ⟨_, rfl, _, _, ha, rfl⟩ b ⟨_, rfl, _, _, hb, rfl⟩ -
    obtain ⟨-, rfl⟩ := Prod.mk.inj (Except.ok.inj (ha.symm.trans hb))
    rfl
  obtain ⟨calls, hreach, hcall⟩ := exists_reachable_process sampleEnvironment sampleCore
    (Set.mem_singleton (sampleDelivery "01890a5d-ac96-774b-bcce-b302099a8001")) .empty
  have hack : ((process sampleCodec sampleCore
      (sampleDelivery "01890a5d-ac96-774b-bcce-b302099a8001")).run
        (World.effect sampleEnvironment) .empty).1.1.disposition = .ack := by decide +kernel
  generalize (process sampleCodec sampleCore
    (sampleDelivery "01890a5d-ac96-774b-bcce-b302099a8001")).run (World.effect sampleEnvironment)
      .empty = r at hreach hcall hack
  have := (ackSafety hinj hreach).1 0 _ _ _ hcall hack
  refine ⟨_, hreach, ⟨_, _, hcall, hack⟩, ?_⟩
  exact this

end Preserver

end Cerbero
