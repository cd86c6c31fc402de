import Mathlib
import Cerbero.Lib.UniqueKey
import Cerbero.Preserver.CommitCalls

/-!
# Preserver/CommitRace — one of the calls for a message wins

However the transactions of `CommitPreservation` for one message interleave, every call that returns
a record returns that of the one processed message, and nothing of the other calls is left
(**`one_winner`**).  A transaction holds the keys of the rows it has inserted, so no other one has
committed them; a row that is committed stays, and so does what a call has learned from it.
-/

namespace Cerbero

namespace Preserver

open Text

/-! ## Records, up to the spelling of a `uuid` and the published flag -/

theorem uuidText_uuidText (value : String) : uuidText (uuidText value) = uuidText value := by
  simp [uuidText, Function.comp_def]

/-- A record without the spelling of its ids and without its published flag. -/
def Record.core (record : Record) : Record :=
  { record with
    incomingMessageId := uuidText record.incomingMessageId
    eventId := uuidText record.eventId
    published := false }

namespace Database

/-- A message is found under every spelling of its id. -/
theorem findMetadataRecord_congr (db : Database) (consumerName : String)
    {messageId messageId' : String} (h : uuidText messageId = uuidText messageId') :
    db.findMetadataRecord consumerName messageId =
      db.findMetadataRecord consumerName messageId' := by
  simp only [findMetadataRecord, processed, processedKey, h]

/-- **A record that is found is found for ever.** -/
theorem findMetadataRecord_mono {db db' : Database} (h : db ≤ db')
    {consumerName messageId : String} {found : Record}
    (hfound : db.findMetadataRecord consumerName messageId = some found) :
    ∃ found', db'.findMetadataRecord consumerName messageId = some found' ∧
      found.core = found'.core := by
  obtain ⟨row, object, outbox, hrow, hobject, houtbox, rfl⟩ := findMetadataRecord_eq_some.1 hfound
  obtain ⟨outbox', houtbox', hpublication, -⟩ := h.outbox _ _ houtbox
  refine ⟨_, findMetadataRecord_eq_some.2 ⟨row, object, outbox', h.processed _ _ hrow,
    h.rawObjects _ _ hobject, houtbox', rfl⟩, ?_⟩
  simp only [Record.core, hpublication]

end Database

/-! ## What holds of a call -/

namespace CommitCall

/-- The raw object of the record is the stored one, or the transaction's own. -/
def RawObjectStored (db : Database) (call : CommitCall) : Prop :=
  call.rawObject = some call.record.rawObject ∨
    db.rawObjects.get? call.eventKey = some call.record.rawObject

/-- The publication of the record is the stored one, or the transaction's own. -/
def PublicationStored (db : Database) (call : CommitCall) : Prop :=
  ∃ row, Database.publication call.publicationKey row = call.record.publication ∧
    (call.outbox = some row ∨ db.outbox.get? call.publicationKey = some row)

section

variable (consumerName messageId : String)

/-- `r` is the record of the message. -/
def IsWinner (db : Database) (r : Record) : Prop :=
  ∃ found, db.findMetadataRecord consumerName messageId = some found ∧ r.core = found.core

/-- What a call knows at each statement. -/
def Knows (db : Database) (call : CommitCall) : CommitPhase → Prop
  | .finding => call.rawObject = none ∧ call.outbox = none ∧ call.processed = none
  | .insertingRawObject => call.rawObject = none ∧ call.outbox = none ∧ call.processed = none
  | .verifyingRawObject => call.outbox = none ∧ call.processed = none
  | .insertingOutbox => call.RawObjectStored db ∧ call.outbox = none ∧ call.processed = none
  | .verifyingOutbox => call.RawObjectStored db ∧ call.processed = none
  | .insertingProcessed =>
    call.RawObjectStored db ∧ call.PublicationStored db ∧ call.processed = none
  | .loadingWinner => call.processed = none
  | .committing => call.RawObjectStored db ∧ call.PublicationStored db ∧
    call.processed = some (Database.processedRow call.record)
  | .done result => ∀ r, result = .ok r → IsWinner consumerName messageId db r

/-- **The invariant of a call.** -/
structure Inv (db : Database) (call : CommitCall) : Prop where
  sameConsumer : call.record.consumerName = consumerName
  sameMessage : uuidText call.record.incomingMessageId = uuidText messageId
  knows : call.Knows consumerName messageId db call.phase

variable {consumerName messageId} {db db' : Database} {call : CommitCall}

theorem IsWinner.mono (h : db ≤ db') {r : Record} (hr : IsWinner consumerName messageId db r) :
    IsWinner consumerName messageId db' r := by
  obtain ⟨found, hfound, hcore⟩ := hr
  obtain ⟨found', hfound', hcore'⟩ := Database.findMetadataRecord_mono h hfound
  exact ⟨found', hfound', hcore.trans hcore'⟩

theorem RawObjectStored.mono (h : db ≤ db') (hr : call.RawObjectStored db) :
    call.RawObjectStored db' :=
  hr.imp_right (h.rawObjects _ _)

theorem PublicationStored.mono (h : db ≤ db') (hp : call.PublicationStored db) :
    call.PublicationStored db' := by
  obtain ⟨row, heq, hown | hstored⟩ := hp
  · exact ⟨row, heq, .inl hown⟩
  · obtain ⟨row', hrow', heq', -⟩ := h.outbox _ _ hstored
    exact ⟨row', heq'.trans heq, .inr hrow'⟩

/-- What a call knows stays true while others commit. -/
theorem Knows.mono (h : db ≤ db') : ∀ {phase : CommitPhase},
    call.Knows consumerName messageId db phase → call.Knows consumerName messageId db' phase
  | .finding, hk => hk
  | .insertingRawObject, hk => hk
  | .verifyingRawObject, hk => hk
  | .insertingOutbox, hk => ⟨hk.1.mono h, hk.2⟩
  | .verifyingOutbox, hk => ⟨hk.1.mono h, hk.2⟩
  | .insertingProcessed, hk => ⟨hk.1.mono h, hk.2.1.mono h, hk.2.2⟩
  | .loadingWinner, hk => hk
  | .committing, hk => ⟨hk.1.mono h, hk.2.1.mono h, hk.2.2⟩
  | .done _, hk => fun r hr => (hk r hr).mono h

theorem Inv.mono (h : db ≤ db') (hcall : call.Inv consumerName messageId db) :
    call.Inv consumerName messageId db' :=
  ⟨hcall.sameConsumer, hcall.sameMessage, hcall.knows.mono h⟩

theorem Inv.messageKey (h : call.Inv consumerName messageId db) :
    call.messageKey = Database.processedKey consumerName messageId := by
  rw [CommitCall.messageKey, Database.processedKey, h.sameConsumer, h.sameMessage,
    Database.processedKey]

theorem Inv.findMetadataRecord (h : call.Inv consumerName messageId db) (db' : Database) :
    db'.findMetadataRecord call.record.consumerName call.record.incomingMessageId =
      db'.findMetadataRecord consumerName messageId := by
  rw [h.sameConsumer, db'.findMetadataRecord_congr consumerName h.sameMessage]

/-- A call that returns an error knows nothing. -/
theorem Inv.finish_error (h : call.Inv consumerName messageId db) (e : String) :
    (call.finish (.error e)).Inv consumerName messageId db :=
  ⟨h.sameConsumer, h.sameMessage, fun _ hr => nomatch hr⟩

theorem Inv.finish_ok (h : call.Inv consumerName messageId db) {r : Record}
    (hr : IsWinner consumerName messageId db r) :
    (call.finish (.ok r)).Inv consumerName messageId db :=
  ⟨h.sameConsumer, h.sameMessage, fun _ hr' => Except.ok.inj hr' ▸ hr⟩

/-! ## The view of a call -/

/-- No key of the transaction has a committed row. -/
structure Fresh (db : Database) (call : CommitCall) : Prop where
  rawObject : ∀ k, call.rawObjectKey = some k → db.rawObjects.get? k = none
  outbox : ∀ k, call.outboxKey = some k → db.outbox.get? k = none
  processed : ∀ k, call.processedKey = some k → db.processedMessages.get? k = none

end

/-- A new row does not change the others. -/
theorem get?_elim_of_eq_some {K V : Type} [LinearOrder K] {m : SortedMap K V} {k k' : K}
    {o : Option V} {v : V} (hfresh : ∀ k', o.map (fun _ => k) = some k' → m.get? k' = none)
    (h : m.get? k' = some v) : (o.elim m (m.insert k)).get? k' = some v := by
  match o, hfresh with
  | none, _ => exact h
  | some _, hfresh =>
    have hne : k' ≠ k := by
      rintro rfl
      exact nomatch (hfresh _ rfl).symm.trans h
    exact (SortedMap.get?_insert_ne _ hne _).trans h

/-- A row of a table with one more row is a row of the table, or at the new key. -/
theorem get?_elim_cases {K V : Type} [LinearOrder K] {m : SortedMap K V} {k k' : K} {o : Option V}
    {v : V} (h : (o.elim m (m.insert k)).get? k' = some v) :
    m.get? k' = some v ∨ o = some v ∧ k' = k := by
  match o with
  | none => exact .inl h
  | some w =>
    rw [Option.elim_some, SortedMap.get?_insert] at h
    split at h
    · exact .inr ⟨h, ‹_›⟩
    · exact .inl h

variable {db : Database} {call : CommitCall}

/-- **The view of a transaction has every committed row.** -/
theorem Fresh.le_view (h : call.Fresh db) : db ≤ call.view db :=
  ⟨fun _ _ hr => get?_elim_of_eq_some h.rawObject hr,
    fun _ row hrow => ⟨row, get?_elim_of_eq_some h.outbox hrow, rfl, id⟩,
    fun _ _ hrow => get?_elim_of_eq_some h.processed hrow⟩

theorem RawObjectStored.view (h : call.Fresh db) (hr : call.RawObjectStored db) :
    (call.view db).rawObjects.get? call.eventKey = some call.record.rawObject := by
  obtain hown | hstored := hr
  · simp [CommitCall.view, hown]
  · exact h.le_view.rawObjects _ _ hstored

theorem PublicationStored.view (h : call.Fresh db) (hp : call.PublicationStored db) :
    ∃ row, (call.view db).outbox.get? call.publicationKey = some row ∧
      Database.publication call.publicationKey row = call.record.publication := by
  obtain ⟨row, heq, hown | hstored⟩ := hp
  · exact ⟨row, by simp [CommitCall.view, hown], heq⟩
  · obtain ⟨row', hrow', heq', -⟩ := h.le_view.outbox _ _ hstored
    exact ⟨row', hrow', heq'.trans heq⟩

/-- What the check of the raw object establishes. -/
theorem rawObjectStored_of_view
    (h : (call.view db).rawObjects.get? call.eventKey = some call.record.rawObject) :
    call.RawObjectStored db := by
  obtain hstored | ⟨hown, -⟩ := get?_elim_cases h
  · exact .inr hstored
  · exact .inl hown

/-- What the check of the publication establishes. -/
theorem publicationStored_of_view {row : OutboxRow}
    (h : (call.view db).outbox.get? call.publicationKey = some row)
    (heq : Database.publication call.publicationKey row = call.record.publication) :
    call.PublicationStored db := by
  obtain hstored | ⟨hown, -⟩ := get?_elim_cases h
  · exact ⟨row, heq, .inr hstored⟩
  · exact ⟨row, heq, .inl hown⟩

variable {consumerName messageId : String}

/-! ## Statements keep the invariant of their call -/

theorem inv_start (db : Database) (contender : Contender consumerName messageId) :
    (start contender.1).Inv consumerName messageId db := by
  unfold start
  split
  · exact ⟨contender.2.1, contender.2.2, fun _ hr => nomatch hr⟩
  · exact ⟨contender.2.1, contender.2.2, rfl, rfl, rfl⟩

theorem Inv.find (h : call.Inv consumerName messageId db) (hphase : call.phase = .finding) :
    (call.find db).Inv consumerName messageId db := by
  obtain ⟨hrawObject, houtbox, hprocessed⟩ : call.Knows consumerName messageId db .finding :=
    hphase ▸ h.knows
  unfold CommitCall.find
  rw [view_eq_self hrawObject houtbox hprocessed, h.findMetadataRecord]
  split
  · rename_i existing hexisting
    exact h.finish_ok ⟨existing, hexisting, rfl⟩
  · exact ⟨h.sameConsumer, h.sameMessage, hrawObject, houtbox, hprocessed⟩

theorem Inv.insertRawObject (h : call.Inv consumerName messageId db)
    (hphase : call.phase = .insertingRawObject) (object : Option RawObject) :
    Inv consumerName messageId db
      { call with phase := .verifyingRawObject, rawObject := object } := by
  obtain ⟨-, houtbox, hprocessed⟩ : call.Knows consumerName messageId db .insertingRawObject :=
    hphase ▸ h.knows
  exact ⟨h.sameConsumer, h.sameMessage, houtbox, hprocessed⟩

theorem Inv.verifyRawObject (h : call.Inv consumerName messageId db)
    (hphase : call.phase = .verifyingRawObject) :
    (call.verifyRawObject db).Inv consumerName messageId db := by
  obtain ⟨houtbox, hprocessed⟩ : call.Knows consumerName messageId db .verifyingRawObject :=
    hphase ▸ h.knows
  unfold CommitCall.verifyRawObject
  split
  · exact h.finish_error _
  · rename_i actual hactual
    split
    · rename_i heq
      exact ⟨h.sameConsumer, h.sameMessage, rawObjectStored_of_view (heq ▸ hactual), houtbox,
        hprocessed⟩
    · exact h.finish_error _

theorem Inv.insertOutbox (h : call.Inv consumerName messageId db)
    (hphase : call.phase = .insertingOutbox) (row : Option OutboxRow) :
    Inv consumerName messageId db { call with phase := .verifyingOutbox, outbox := row } := by
  obtain ⟨hstored, -, hprocessed⟩ : call.Knows consumerName messageId db .insertingOutbox :=
    hphase ▸ h.knows
  exact ⟨h.sameConsumer, h.sameMessage, hstored, hprocessed⟩

theorem Inv.verifyOutbox (h : call.Inv consumerName messageId db)
    (hphase : call.phase = .verifyingOutbox) :
    (call.verifyOutbox db).Inv consumerName messageId db := by
  obtain ⟨hstored, hprocessed⟩ : call.Knows consumerName messageId db .verifyingOutbox :=
    hphase ▸ h.knows
  unfold CommitCall.verifyOutbox
  split
  · exact h.finish_error _
  · rename_i row hrow
    split
    · exact h.finish_error _
    · rename_i hok
      push Not at hok
      exact ⟨h.sameConsumer, h.sameMessage, hstored, publicationStored_of_view hrow hok.2,
        hprocessed⟩

theorem Inv.insertProcessed (h : call.Inv consumerName messageId db)
    (hphase : call.phase = .insertingProcessed) :
    Inv consumerName messageId db { call with
      phase := .committing
      processed := some (Database.processedRow call.record) } := by
  obtain ⟨hstored, hpublication, -⟩ :
      call.Knows consumerName messageId db .insertingProcessed := hphase ▸ h.knows
  exact ⟨h.sameConsumer, h.sameMessage, hstored, hpublication, rfl⟩

theorem Inv.skipProcessed (h : call.Inv consumerName messageId db)
    (hphase : call.phase = .insertingProcessed) :
    Inv consumerName messageId db { call with phase := .loadingWinner } := by
  obtain ⟨-, -, hprocessed⟩ : call.Knows consumerName messageId db .insertingProcessed :=
    hphase ▸ h.knows
  exact ⟨h.sameConsumer, h.sameMessage, hprocessed⟩

/-- **The loser finds the winner**: its own rows are not those of the committed message. -/
theorem Inv.loadWinner (h : call.Inv consumerName messageId db)
    (hphase : call.phase = .loadingWinner) (hlinked : db.Linked) (hfresh : call.Fresh db) :
    (call.loadWinner db).Inv consumerName messageId db := by
  have hprocessed : call.processed = none :=
    (hphase ▸ h.knows : call.Knows consumerName messageId db .loadingWinner)
  unfold CommitCall.loadWinner
  rw [h.findMetadataRecord]
  split
  · rename_i existing hexisting
    obtain ⟨row, _, _, hrow, -⟩ := Database.findMetadataRecord_eq_some.1 hexisting
    have hrow' : db.processed consumerName messageId = some row := by
      rwa [Database.processed, CommitCall.view, hprocessed] at hrow
    obtain ⟨found, hfound, -⟩ := hlinked.exists_find hrow'
    obtain ⟨found', hfound', hcore⟩ := Database.findMetadataRecord_mono hfresh.le_view hfound
    obtain rfl := Option.some.inj (hexisting.symm.trans hfound')
    exact h.finish_ok ⟨found, hfound, hcore.symm⟩
  · exact h.finish_error _

/-- **The winner finds its own record.** -/
theorem Inv.isWinner (h : call.Inv consumerName messageId db)
    (hphase : call.phase = .committing) (hfresh : call.Fresh db) :
    IsWinner consumerName messageId (call.view db) call.record := by
  obtain ⟨hstored, hpublication, hprocessed⟩ :
      call.Knows consumerName messageId db .committing := hphase ▸ h.knows
  obtain ⟨row, hrow, heq⟩ := hpublication.view hfresh
  have hmessage : (call.view db).processed consumerName messageId =
      some (Database.processedRow call.record) := by
    rw [Database.processed, ← h.messageKey, CommitCall.view, hprocessed, Option.elim_some,
      SortedMap.get?_insert_self]
  have hfound := Database.findMetadataRecord_eq_some.2
    ⟨_, call.record.rawObject, row, hmessage, hstored.view hfresh, hrow, rfl⟩
  refine ⟨_, hfound, ?_⟩
  change _ = Record.core ⟨_, _, _, _, Database.publication call.publicationKey row, _⟩
  rw [heq]
  simp only [Record.core, Database.processedRow, uuidText_uuidText, h.sameConsumer, h.sameMessage]

end CommitCall

/-! ## What holds of a state -/

section

variable (consumerName messageId : String)

/-- **What was added to `db`**: rows of the message, none if it was there. -/
structure AddsOne (db db' : Database) : Prop where
  rawObjects : ∀ k object, db'.rawObjects.get? k = some object →
    db.rawObjects.get? k = some object ∨ db.processed consumerName messageId = none ∧
      ∃ row, db'.processed consumerName messageId = some row ∧ k = row.eventId
  outbox : ∀ k, (db'.outbox.get? k).isSome →
    (db.outbox.get? k).isSome ∨ db.processed consumerName messageId = none ∧
      ∃ row, db'.processed consumerName messageId = some row ∧ k = row.publicationMessageId
  processed : ∀ k row, db'.processedMessages.get? k = some row →
    db.processedMessages.get? k = some row ∨ k = Database.processedKey consumerName messageId

/-- **The invariant.** -/
structure CommitInv (db : Database) (s : CommitState) : Prop where
  grows : db ≤ s.committed
  linked : s.committed.Linked
  addsOne : AddsOne consumerName messageId db s.committed
  rawObject : Exclusive (fun i => (s.calls i).bind CommitCall.rawObjectKey)
    fun k => (s.committed.rawObjects.get? k).isSome
  outbox : Exclusive (fun i => (s.calls i).bind CommitCall.outboxKey)
    fun k => (s.committed.outbox.get? k).isSome
  processed : Exclusive (fun i => (s.calls i).bind CommitCall.processedKey)
    fun k => (s.committed.processedMessages.get? k).isSome
  calls : ∀ i call, s.calls i = some call → call.Inv consumerName messageId s.committed

end

variable {consumerName messageId : String} {db : Database} {s : CommitState} {i : ℕ}
  {call call' : CommitCall}

theorem commitInv_init (hdb : db.Linked) :
    CommitInv consumerName messageId db ⟨db, fun _ => none⟩ where
  grows := le_refl db
  linked := hdb
  addsOne := ⟨fun _ _ h => .inl h, fun _ h => .inl h, fun _ _ h => .inl h⟩
  rawObject := exclusive_none
  outbox := exclusive_none
  processed := exclusive_none
  calls _ _ h := nomatch h

theorem CommitInv.fresh (h : CommitInv consumerName messageId db s) (hi : s.calls i = some call) :
    call.Fresh s.committed := by
  have hheld : ∀ {K : Type} (key : CommitCall → Option K) k, key call = some k →
      (s.calls i).bind key = some k := by
    intro K key k hk
    rw [hi, Option.bind_some, hk]
  exact ⟨fun k hk => Option.not_isSome_iff_eq_none.1 (h.rawObject.fresh i k (hheld _ k hk)),
    fun k hk => Option.not_isSome_iff_eq_none.1 (h.outbox.fresh i k (hheld _ k hk)),
    fun k hk => Option.not_isSome_iff_eq_none.1 (h.processed.fresh i k (hheld _ k hk))⟩

/-- The keys of the other calls stay. -/
theorem bind_update_of_ne {K : Type} (key : CommitCall → Option K) (o : Option CommitCall) (j : ℕ)
    (hj : j ≠ i) : (Function.update s.calls i o j).bind key = (s.calls j).bind key := by
  rw [Function.update_of_ne hj]

/-- A call after the move of call `i`. -/
theorem update_calls_cases {o : Option CommitCall} {j : ℕ}
    (hj : Function.update s.calls i o j = some call) :
    j = i ∧ o = some call ∨ s.calls j = some call := by
  by_cases hji : j = i
  · subst hji
    exact .inl ⟨rfl, (Function.update_self j o s.calls).symm.trans hj⟩
  · exact .inr ((Function.update_of_ne hji o s.calls).symm.trans hj)

/-- What a call may hold after its move: what it held, or a key that is free. -/
def MayHold {K : Type} (s : CommitState) (i : ℕ) (key : CommitCall → Option K) (taken : K → Prop)
    (o : Option CommitCall) : Prop :=
  ∀ k, o.bind key = some k → (s.calls i).bind key = some k ∨ ¬ taken k ∧ NotHeld s i key k

theorem exclusive_move {K : Type} {key : CommitCall → Option K} {taken : K → Prop}
    {o : Option CommitCall} (h : Exclusive (fun i => (s.calls i).bind key) taken)
    (hmay : MayHold s i key taken o) :
    Exclusive (fun j => (Function.update s.calls i o j).bind key) taken := by
  refine h.update (i := i) (bind_update_of_ne key o) (fun k hk => ?_) fun k hk => .inl hk
  rw [Function.update_self] at hk
  obtain hheld | hfree := hmay k hk
  · exact ⟨h.fresh i k hheld, fun j hj hj' => hj (h.unique j i k hj' hheld)⟩
  · exact hfree

/-- **A call moves and commits nothing.** -/
theorem CommitInv.move {o : Option CommitCall} (h : CommitInv consumerName messageId db s)
    (hrawObject : MayHold s i CommitCall.rawObjectKey
      (fun k => (s.committed.rawObjects.get? k).isSome) o)
    (houtbox : MayHold s i CommitCall.outboxKey (fun k => (s.committed.outbox.get? k).isSome) o)
    (hprocessed : MayHold s i CommitCall.processedKey
      (fun k => (s.committed.processedMessages.get? k).isSome) o)
    (hcall : ∀ call, o = some call → call.Inv consumerName messageId s.committed) :
    CommitInv consumerName messageId db { s with calls := Function.update s.calls i o } where
  grows := h.grows
  linked := h.linked
  addsOne := h.addsOne
  rawObject := exclusive_move h.rawObject hrawObject
  outbox := exclusive_move h.outbox houtbox
  processed := exclusive_move h.processed hprocessed
  calls j call hj := by
    obtain ⟨-, ho⟩ | hj := update_calls_cases hj
    · exact hcall call ho
    · exact h.calls j call hj

/-- A call takes a free key. -/
theorem mayHold_of_free {K : Type} {key : CommitCall → Option K} {k : K} {taken : K → Prop}
    (htaken : ¬ taken k) (hfree : NotHeld s i key k) (hk : key call = some k) :
    MayHold s i key taken (some call) := by
  intro k' hk'
  obtain rfl := Option.some.inj (hk.symm.trans hk')
  exact .inr ⟨htaken, hfree⟩

/-- A call keeps its key. -/
theorem mayHold_of_keeps {K : Type} {key : CommitCall → Option K} {taken : K → Prop}
    (hi : s.calls i = some call) (hkey : key call' = key call) :
    MayHold s i key taken (some call') := by
  intro k hk
  rw [hi, Option.bind_some, ← hkey]
  exact .inl hk

/-- A call that starts holds no key. -/
theorem start_holdsNothing (record : Record) : (CommitCall.start record).rawObjectKey = none ∧
    (CommitCall.start record).outboxKey = none ∧ (CommitCall.start record).processedKey = none := by
  unfold CommitCall.start
  split
  · exact ⟨rfl, rfl, rfl⟩
  · exact ⟨rfl, rfl, rfl⟩

/-- **A call that inserts nothing**: it returns, or goes on to another statement. -/
def Goes (call call' : CommitCall) : Prop :=
  (∃ result, call' = call.finish result) ∨ ∃ phase, call' = { call with phase := phase }

theorem CommitInv.goes (h : CommitInv consumerName messageId db s) (hi : s.calls i = some call)
    (hgoes : Goes call call') (hcall : call'.Inv consumerName messageId s.committed) :
    CommitInv consumerName messageId db (s.move i call') := by
  obtain ⟨result, rfl⟩ | ⟨phase, rfl⟩ := hgoes
  · refine h.move (fun _ hk => nomatch hk) (fun _ hk => nomatch hk) (fun _ hk => nomatch hk) ?_
    rintro _ ⟨⟩
    exact hcall
  · refine h.move (mayHold_of_keeps hi rfl) (mayHold_of_keeps hi rfl) (mayHold_of_keeps hi rfl) ?_
    rintro _ ⟨⟩
    exact hcall

theorem goes_find (db : Database) (call : CommitCall) : Goes call (call.find db) := by
  unfold CommitCall.find
  split
  · exact .inl ⟨_, rfl⟩
  · exact .inr ⟨_, rfl⟩

theorem goes_verifyRawObject (db : Database) (call : CommitCall) :
    Goes call (call.verifyRawObject db) := by
  unfold CommitCall.verifyRawObject
  split
  · exact .inl ⟨_, rfl⟩
  · split
    · exact .inr ⟨_, rfl⟩
    · exact .inl ⟨_, rfl⟩

theorem goes_verifyOutbox (db : Database) (call : CommitCall) :
    Goes call (call.verifyOutbox db) := by
  unfold CommitCall.verifyOutbox
  split
  · exact .inl ⟨_, rfl⟩
  · split
    · exact .inl ⟨_, rfl⟩
    · exact .inr ⟨_, rfl⟩

theorem goes_loadWinner (db : Database) (call : CommitCall) : Goes call (call.loadWinner db) := by
  unfold CommitCall.loadWinner
  split
  · exact .inl ⟨_, rfl⟩
  · exact .inl ⟨_, rfl⟩

/-! ## A commit -/

/-- The rows a commit adds are those of its message. -/
theorem addsOne_view (h : CommitInv consumerName messageId db s) (hi : s.calls i = some call)
    (hphase : call.phase = .committing) :
    AddsOne consumerName messageId db (call.view s.committed) := by
  have hcall := h.calls i call hi
  obtain ⟨-, -, hprocessed⟩ :
      call.Knows consumerName messageId s.committed .committing := hphase ▸ hcall.knows
  have hkey : call.processedKey = some (Database.processedKey consumerName messageId) := by
    rw [CommitCall.processedKey, hprocessed, Option.map_some, hcall.messageKey]
  have hnone : s.committed.processed consumerName messageId = none :=
    (h.fresh hi).processed _ hkey
  have hdb : db.processed consumerName messageId = none := by
    cases hrow : db.processed consumerName messageId with
    | none => rfl
    | some row => cases hnone.symm.trans (h.grows.processed _ _ hrow)
  have hmessage : (call.view s.committed).processed consumerName messageId =
      some (Database.processedRow call.record) := by
    rw [Database.processed, ← hcall.messageKey, CommitCall.view, hprocessed, Option.elim_some,
      SortedMap.get?_insert_self]
  refine ⟨fun k object hobject => ?_, fun k hk => ?_, fun k row hrow => ?_⟩
  · obtain hold | ⟨-, rfl⟩ := CommitCall.get?_elim_cases hobject
    · obtain hdbobject | ⟨-, row, hrow, -⟩ := h.addsOne.rawObjects k object hold
      · exact .inl hdbobject
      · cases hnone.symm.trans hrow
    · exact .inr ⟨hdb, _, hmessage, rfl⟩
  · obtain ⟨outbox, houtbox⟩ := Option.isSome_iff_exists.1 hk
    obtain hold | ⟨-, rfl⟩ := CommitCall.get?_elim_cases houtbox
    · obtain hdboutbox | ⟨-, row, hrow, -⟩ :=
        h.addsOne.outbox k (Option.isSome_iff_exists.2 ⟨_, hold⟩)
      · exact .inl hdboutbox
      · cases hnone.symm.trans hrow
    · exact .inr ⟨hdb, _, hmessage, rfl⟩
  · obtain hold | ⟨-, rfl⟩ := CommitCall.get?_elim_cases hrow
    · exact h.addsOne.processed k row hold
    · exact .inr hcall.messageKey

/-- The foreign keys of the committed message. -/
theorem linked_view (h : CommitInv consumerName messageId db s) (hi : s.calls i = some call)
    (hphase : call.phase = .committing) : (call.view s.committed).Linked := by
  have hfresh := h.fresh hi
  obtain ⟨hstored, hpublication, hprocessed⟩ :
      call.Knows consumerName messageId s.committed .committing :=
    hphase ▸ (h.calls i call hi).knows
  intro k row hrow
  obtain hold | ⟨hown, rfl⟩ := CommitCall.get?_elim_cases hrow
  · obtain ⟨hobject, houtbox⟩ := h.linked k row hold
    obtain ⟨object, hobject⟩ := Option.isSome_iff_exists.1 hobject
    obtain ⟨outbox, houtbox⟩ := Option.isSome_iff_exists.1 houtbox
    obtain ⟨outbox', houtbox', -⟩ := hfresh.le_view.outbox _ _ houtbox
    exact ⟨Option.isSome_iff_exists.2 ⟨_, hfresh.le_view.rawObjects _ _ hobject⟩,
      Option.isSome_iff_exists.2 ⟨_, houtbox'⟩⟩
  · obtain rfl := Option.some.inj (hprocessed.symm.trans hown)
    obtain ⟨outbox, houtbox, -⟩ := hpublication.view hfresh
    exact ⟨Option.isSome_iff_exists.2 ⟨_, hstored.view hfresh⟩,
      Option.isSome_iff_exists.2 ⟨_, houtbox⟩⟩

/-- A table gets the row of the call, which no longer holds its key. -/
theorem exclusive_commit {K V : Type} [LinearOrder K] {key : CommitCall → Option K}
    {m : SortedMap K V} {k : K} {o : Option V} {result : Fallible Record}
    (h : Exclusive (fun i => (s.calls i).bind key) fun k => (m.get? k).isSome)
    (hi : s.calls i = some call) (hkey : key call = o.map fun _ => k)
    (hdone : key (call.finish result) = none) :
    Exclusive (fun j => (Function.update s.calls i (some (call.finish result)) j).bind key)
      fun k' => ((o.elim m (m.insert k)).get? k').isSome := by
  refine h.update (i := i) (bind_update_of_ne key _) (fun k' hk' => ?_) fun k' hk' => ?_
  · rw [Function.update_self, Option.bind_some, hdone] at hk'
    exact nomatch hk'
  · obtain ⟨v, hv⟩ := Option.isSome_iff_exists.1 hk'
    obtain hold | ⟨hown, rfl⟩ := CommitCall.get?_elim_cases hv
    · exact .inl (Option.isSome_iff_exists.2 ⟨v, hold⟩)
    · rw [hi, Option.bind_some, hkey, hown]
      exact .inr rfl

theorem CommitInv.commit {result : Fallible Record} (h : CommitInv consumerName messageId db s)
    (hi : s.calls i = some call) (hphase : call.phase = .committing)
    (hresult : result = .ok call.record ∨ ∃ e, result = .error e) :
    CommitInv consumerName messageId db
      ⟨call.view s.committed, Function.update s.calls i (some (call.finish result))⟩ where
  grows := h.grows.trans (h.fresh hi).le_view
  linked := linked_view h hi hphase
  addsOne := addsOne_view h hi hphase
  rawObject := exclusive_commit h.rawObject hi rfl rfl
  outbox := exclusive_commit h.outbox hi rfl rfl
  processed := exclusive_commit h.processed hi rfl rfl
  calls j call' hj := by
    have hle := (h.fresh hi).le_view
    obtain ⟨rfl, ho⟩ | hj := update_calls_cases hj
    · obtain rfl := Option.some.inj ho
      have hcall := (h.calls j call hi).mono hle
      obtain rfl | ⟨e, rfl⟩ := hresult
      · exact hcall.finish_ok ((h.calls j call hi).isWinner hphase (h.fresh hi))
      · exact hcall.finish_error e
    · exact (h.calls j call' hj).mono hle

/-! ## A publication -/

theorem CommitInv.publish (h : CommitInv consumerName messageId db s) (now : Timestamp) :
    CommitInv consumerName messageId db
      { s with committed := (s.committed.markPublished now consumerName messageId).2 } := by
  obtain ⟨e, hmark⟩ | ⟨row, outbox, hrow, houtbox, hmark⟩ :=
    Database.markPublished_cases s.committed now consumerName messageId
  · rw [hmark]
    exact h
  · rw [hmark]
    have hle := Database.le_setPublished (outbox.publishedAt.getD now) houtbox
    have hkeys : ∀ k, ((s.committed.outbox.insert row.publicationMessageId
        { outbox with publishedAt := some (outbox.publishedAt.getD now) }).get? k).isSome →
        (s.committed.outbox.get? k).isSome := by
      intro k hk
      rw [SortedMap.get?_insert] at hk
      split at hk
      · rename_i heq
        rw [heq, houtbox]
        rfl
      · exact hk
    refine ⟨h.grows.trans hle, fun k row' hrow' => ?_, ?_, h.rawObject, ?_, h.processed,
      fun j call hj => (h.calls j call hj).mono hle⟩
    · obtain ⟨hobject, houtbox'⟩ := h.linked k row' hrow'
      obtain ⟨outbox', houtbox'⟩ := Option.isSome_iff_exists.1 houtbox'
      obtain ⟨outbox'', houtbox'', -⟩ := hle.outbox _ _ houtbox'
      exact ⟨hobject, Option.isSome_iff_exists.2 ⟨_, houtbox''⟩⟩
    · exact ⟨h.addsOne.rawObjects, fun k hk => h.addsOne.outbox k (hkeys k hk),
        h.addsOne.processed⟩
    · exact ⟨fun i k hk htaken => h.outbox.fresh i k hk (hkeys k htaken), h.outbox.unique⟩

/-! ## Runs -/

theorem CommitInv.step {s' : CommitState} (h : CommitInv consumerName messageId db s)
    (hstep : CommitStep consumerName messageId s s') : CommitInv consumerName messageId db s' := by
  have hcall : ∀ {i call}, s.calls i = some call → call.Inv consumerName messageId s.committed :=
    fun hi => h.calls _ _ hi
  have hself : ∀ {call' : CommitCall}, call'.Inv consumerName messageId s.committed →
      ∀ call, some call' = some call → call.Inv consumerName messageId s.committed :=
    fun hinv _ heq => Option.some.inj heq ▸ hinv
  cases hstep with
  | start i contender hi =>
    obtain ⟨hrawObject, houtbox, hprocessed⟩ := start_holdsNothing contender.1
    exact h.move (fun _ hk => by cases hrawObject.symm.trans hk)
      (fun _ hk => by cases houtbox.symm.trans hk) (fun _ hk => by cases hprocessed.symm.trans hk)
      (hself (CommitCall.inv_start _ contender))
  | find i call hi hphase => exact h.goes hi (goes_find _ _) ((hcall hi).find hphase)
  | insertRawObject i call hi hphase hnone hfree =>
    exact h.move (mayHold_of_free (by simp [hnone]) hfree rfl) (mayHold_of_keeps hi rfl)
      (mayHold_of_keeps hi rfl) (hself ((hcall hi).insertRawObject hphase _))
  | skipRawObject i call hi hphase hsome =>
    exact h.goes hi (.inr ⟨_, rfl⟩) ((hcall hi).insertRawObject hphase _)
  | verifyRawObject i call hi hphase =>
    exact h.goes hi (goes_verifyRawObject _ _) ((hcall hi).verifyRawObject hphase)
  | insertOutbox i call hi hphase hnone hfree =>
    exact h.move (mayHold_of_keeps hi rfl) (mayHold_of_free (by simp [hnone]) hfree rfl)
      (mayHold_of_keeps hi rfl) (hself ((hcall hi).insertOutbox hphase _))
  | skipOutbox i call hi hphase hsome =>
    exact h.goes hi (.inr ⟨_, rfl⟩) ((hcall hi).insertOutbox hphase _)
  | verifyOutbox i call hi hphase =>
    exact h.goes hi (goes_verifyOutbox _ _) ((hcall hi).verifyOutbox hphase)
  | insertProcessed i call hi hphase hnone hfree hunused =>
    exact h.move (mayHold_of_keeps hi rfl) (mayHold_of_keeps hi rfl)
      (mayHold_of_free (by simp [hnone]) hfree rfl) (hself ((hcall hi).insertProcessed hphase))
  | skipProcessed i call hi hphase hsome =>
    exact h.goes hi (.inr ⟨_, rfl⟩) ((hcall hi).skipProcessed hphase)
  | loadWinner i call hi hphase =>
    exact h.goes hi (goes_loadWinner _ _) ((hcall hi).loadWinner hphase h.linked (h.fresh hi))
  | commit i call result hi hphase hresult => exact h.commit hi hphase hresult
  | fail i call e hi hrunning => exact h.goes hi (.inl ⟨_, rfl⟩) ((hcall hi).finish_error e)
  | stop i call hi hrunning =>
    exact h.move (fun _ hk => by cases hk) (fun _ hk => by cases hk) (fun _ hk => by cases hk)
      fun _ heq => by cases heq
  | publish now => exact h.publish now

theorem commitInv_of_reachable (hdb : db.Linked) (h : CommitReachable consumerName messageId db s) :
    CommitInv consumerName messageId db s := by
  induction h with
  | refl => exact commitInv_init hdb
  | tail _ hstep ih => exact ih.step hstep

/-- **One winner**: however the calls for a message interleave, its row has its raw object and its
publication, every call that returned a record returned the one of this row, and no other raw
object, publication or processed message was added. -/
theorem one_winner (hdb : db.Linked) (h : CommitReachable consumerName messageId db s) :
    (∀ i call r, s.calls i = some call → call.phase = .done (.ok r) →
      ∃ winner, s.committed.findMetadataRecord consumerName messageId = some winner ∧
        r.core = winner.core) ∧
    (∀ row, s.committed.processed consumerName messageId = some row →
      ∃ winner, s.committed.findMetadataRecord consumerName messageId = some winner ∧
        winner.eventId = row.eventId ∧
        winner.publication.messageId = row.publicationMessageId) ∧
    AddsOne consumerName messageId db s.committed := by
  have hinv := commitInv_of_reachable hdb h
  refine ⟨fun i call r hi hphase => ?_, fun row hrow => hinv.linked.exists_find hrow,
    hinv.addsOne⟩
  have hknows : call.Knows consumerName messageId s.committed (.done (.ok r)) :=
    hphase ▸ (hinv.calls i call hi).knows
  exact hknows r rfl

/-! ## Two calls -/

/-- A candidate for one message. -/
def sampleRecord (publicationMessageId : String) : Record where
  consumerName := "raw-preserver"
  incomingMessageId := "01890a5d-ac96-774b-bcce-b302099a8001"
  eventId := "01890a5d-ac96-774b-bcce-b302099a8057"
  rawObject := ⟨"file:///raw/segment.raw", "segment-1", 0, 1,
    "ca978112ca1bbdcafac231b39a23dc4da786eff8147c4e72b9807785afee48bb"⟩
  publication := ⟨rawPersistedSubject, publicationMessageId, "", [0x61]⟩
  published := false

def sampleFirst : Record := sampleRecord "01890a5d-ac96-774b-bcce-b302099a8002"

def sampleSecond : Record := sampleRecord "01890a5d-ac96-774b-bcce-b302099a8003"

/-- The first candidate has returned. -/
def sampleState : CommitState :=
  ⟨(Database.empty.commitPreservation sampleFirst).2, Function.update (fun _ => none) 0
    (some ⟨sampleFirst, .done (.ok sampleFirst), none, none, none⟩)⟩

theorem reachable_sampleState :
    CommitReachable "raw-preserver" "01890a5d-ac96-774b-bcce-b302099a8001" .empty sampleState := by
  have hrun := runs_alone (s := ⟨.empty, fun _ => none⟩) (i := 0) (fun _ _ _ h => nomatch h) rfl
    Database.linked_empty (⟨sampleFirst, rfl, rfl⟩ :
      Contender "raw-preserver" "01890a5d-ac96-774b-bcce-b302099a8001")
  have hresult : (Database.empty.commitPreservation sampleFirst).1 = .ok sampleFirst := by
    decide +kernel
  rw [hresult] at hrun
  exact hrun

theorem unopposed_sampleState : Unopposed sampleState 1 := by
  intro j call _ hj
  obtain ⟨-, hcall⟩ | hnone := update_calls_cases (s := ⟨.empty, fun _ => none⟩) hj
  · obtain rfl := Option.some.inj hcall
    exact ⟨rfl, rfl, rfl⟩
  · exact nomatch hnone

/-- The second candidate returns the record of the first. -/
theorem one_winner_sample : ∃ s : CommitState,
    CommitReachable "raw-preserver" "01890a5d-ac96-774b-bcce-b302099a8001" .empty s ∧
    s.calls 1 = some ⟨sampleSecond, .done (.ok sampleFirst), none, none, none⟩ ∧
    ∃ winner, s.committed.findMetadataRecord "raw-preserver"
        "01890a5d-ac96-774b-bcce-b302099a8001" = some winner ∧
      sampleFirst.core = winner.core := by
  have hlinked := (commitInv_of_reachable Database.linked_empty reachable_sampleState).linked
  have hrun := runs_alone unopposed_sampleState rfl hlinked (⟨sampleSecond, rfl, rfl⟩ :
    Contender "raw-preserver" "01890a5d-ac96-774b-bcce-b302099a8001")
  have hresult : (sampleState.committed.commitPreservation sampleSecond).1 = .ok sampleFirst := by
    decide +kernel
  rw [hresult] at hrun
  have hreach := reachable_sampleState.trans hrun
  have hcall : Function.update sampleState.calls 1
      (some ⟨sampleSecond, .done (.ok sampleFirst), none, none, none⟩) 1 =
        some ⟨sampleSecond, .done (.ok sampleFirst), none, none, none⟩ := Function.update_self _ _ _
  exact ⟨_, hreach, hcall, (one_winner Database.linked_empty hreach).1 1 _ _ hcall rfl⟩

end Preserver

end Cerbero
