import Cerbero.Lib.Fallible
import Cerbero.Operational.Service

/-!
# Operational/History — every change of an object is audited

A transaction that commits on an object moves it one version up, from the version its caller
expected, and writes one audit event with the states before and after (`Audited`).  The changes of
an object are a chain of such steps (`History`), whatever else is going on: `history_of_reachable`.
-/

namespace Cerbero

namespace Operational

open Text

/-! ## What a transaction changes -/

def Record.version : Record → ℤ
  | incident row => row.version
  | caseFile row => row.version

def Record.tenantId : Record → String
  | incident row => row.tenantId
  | caseFile row => row.tenantId

def Record.kind : Record → ObjectKind
  | incident _ => .incident
  | caseFile _ => .caseFile

/-- The view a mutation reads. -/
def Record.state : Record → AuditState
  | incident row => .incident row.view
  | caseFile row => .caseFile row.view

/-- An incident that is `INVALIDATED`. -/
def Record.Invalidated : Record → Prop
  | incident row => row.status = .invalidated
  | caseFile _ => False

/-- Both records are of one kind, and the status is the same or one transition away. -/
def Record.Follows : Record → Record → Prop
  | incident row, incident row' =>
      row'.status = row.status ∨ incidentTransitionAllowed row.status row'.status
  | caseFile row, caseFile row' =>
      row'.status = row.status ∨ caseTransitionAllowed row.status row'.status
  | _, _ => False

/-- A recorded state has the status and the version of a record. -/
def AuditState.Shows : AuditState → Record → Prop
  | incident view, .incident row => view.status = row.status ∧ view.version = row.version
  | caseFile view, .caseFile row => view.status = row.status ∧ view.version = row.version
  | _, _ => False

/-- The version a call expects. -/
def Call.expectedVersion : Call → Option ℤ
  | updateIncident _ _ patch => some patch.expectedVersion
  | updateCase _ _ patch => some patch.expectedVersion
  | createCase _ _ _ _ => none

/-- **An audited change**: from the version the call expects to the next one, recorded in an event
that names the object and both states. -/
structure Audited (call : Call) (record record' : Record) (event : AuditEvent) : Prop where
  expected : call.expectedVersion = some record.version
  target : record.kind = call.key.kind ∧ record.tenantId = call.tenantId
  version : record'.version = record.version + 1
  follows : record.Follows record'
  tenant : record'.tenantId = record.tenantId
  before : event.before = some record.state
  after : ∃ state, event.after = some state ∧ state.Shows record'
  object : event.objectId = call.key.id ∧ event.tenantId = call.tenantId

/-! ## Mutations, inverted -/

theorem nextStatus_eq_ok {σ : Type} [DecidableEq σ] {parse : String → Option σ}
    {allowed : σ → σ → Bool} {object : String} {before status : σ} {patch : Option String}
    (h : nextStatus parse allowed object before patch = .ok status) :
    status = before ∨ allowed before status = true := by
  obtain ⟨status', -, h⟩ := bind_eq_ok.1 h
  split at h
  · exact nomatch h
  · rename_i hnot
    obtain rfl := Except.ok.inj h
    by_contra hne
    push Not at hne
    exact hnot ⟨hne.1, by simpa using hne.2⟩

section

variable {lib : Uuids}

theorem changeIncident_eq_ok {before after : IncidentView} {patch : IncidentPatch}
    (h : changeIncident lib before patch = .ok after) :
    before.version = patch.expectedVersion ∧ after.version = nextVersion before.version ∧
      (after.status = before.status ∨ incidentTransitionAllowed before.status after.status) := by
  unfold changeIncident at h
  obtain ⟨hversion, h⟩ := guard_eq_ok.1 h
  obtain ⟨status, hstatus, h⟩ := bind_eq_ok.1 h
  obtain ⟨title, -, h⟩ := bind_eq_ok.1 h
  obtain ⟨owner, -, h⟩ := bind_eq_ok.1 h
  obtain rfl := Except.ok.inj h
  exact ⟨not_not.1 hversion, rfl, nextStatus_eq_ok hstatus⟩

theorem updateIncidentRow_eq_ok {databaseNow : Timestamp} {row row' : IncidentRow}
    {after : IncidentView} (h : updateIncidentRow lib databaseNow row after = .ok row') :
    row'.status = after.status ∧ row'.version = after.version ∧ row'.tenantId = row.tenantId := by
  obtain ⟨owner, -, h⟩ := bind_eq_ok.1 h
  dsimp only at h
  split at h
  · obtain rfl := Except.ok.inj h
    exact ⟨rfl, rfl, rfl⟩
  · exact nomatch h

theorem patchCase_eq_ok {before after : CaseView} {patch : CasePatch}
    (h : patchCase lib before patch = .ok after) : ∃ status priority title owner disposition,
      nextStatus caseStatusOf caseTransitionAllowed "case" before.status patch.status =
        .ok status ∧
      nextOwner lib before.ownerUserId patch.ownerUserId = .ok owner ∧
      nextNamed caseDispositionOf "unsupported case disposition" before.disposition
        patch.disposition = .ok disposition ∧
      after = { before with
        status := status
        priority := priority
        title := title
        description := patch.description.getD before.description
        ownerUserId := owner
        disposition := disposition
        closureReason := patch.closureReason.getD before.closureReason } := by
  obtain ⟨status, hstatus, h⟩ := bind_eq_ok.1 h
  obtain ⟨priority, -, h⟩ := bind_eq_ok.1 h
  obtain ⟨title, -, h⟩ := bind_eq_ok.1 h
  obtain ⟨owner, howner, h⟩ := bind_eq_ok.1 h
  obtain ⟨disposition, hdisposition, h⟩ := bind_eq_ok.1 h
  exact ⟨status, priority, title, owner, disposition, hstatus, howner, hdisposition,
    (Except.ok.inj h).symm⟩

/-- A case is closed with a disposition and a reason, or left as it is. -/
theorem closeCase_eq_ok {now : Timestamp} {before after after' : CaseView}
    (h : closeCase now before after = .ok after') :
    ((after.status = .closed ∧ before.status ≠ .closed) ∧ after.disposition ≠ .undetermined ∧
      isBlank after.closureReason = false ∧ after' = { after with closedAt := some now }) ∨
    (¬ (after.status = .closed ∧ before.status ≠ .closed) ∧ after' = after) := by
  unfold closeCase at h
  split at h
  · rename_i hcloses
    split at h
    · exact nomatch h
    · rename_i hgiven
      push Not at hgiven
      exact .inl ⟨hcloses, hgiven.1, by simpa using hgiven.2, (Except.ok.inj h).symm⟩
  · rename_i hkeeps
    exact .inr ⟨hkeeps, (Except.ok.inj h).symm⟩

/-- A case is reopened, or left as it is. -/
theorem reopenCase_eq_ok {reopenReason : String} {before after after' : CaseView}
    (h : reopenCase reopenReason before after = .ok after') :
    ((before.status = .closed ∧ after.status = .investigating) ∧
      after' =
        { after with closedAt := none, disposition := .undetermined, closureReason := "" }) ∨
    (¬ (before.status = .closed ∧ after.status = .investigating) ∧ after' = after) := by
  unfold reopenCase at h
  split at h
  · rename_i hreopens
    split at h
    · exact nomatch h
    · exact .inl ⟨hreopens, (Except.ok.inj h).symm⟩
  · rename_i hkeeps
    exact .inr ⟨hkeeps, (Except.ok.inj h).symm⟩

/-- The parts of a change to a case. -/
theorem changeCase_eq_ok {now : Timestamp} {before after : CaseView} {patch : CasePatch}
    (h : changeCase lib now before patch = .ok after) : before.version = patch.expectedVersion ∧
      ∃ patched closed reopened, patchCase lib before patch = .ok patched ∧
        closeCase now before patched = .ok closed ∧
        reopenCase patch.reopenReason before closed = .ok reopened ∧
        after = { reopened with version := nextVersion before.version } := by
  unfold changeCase at h
  obtain ⟨hversion, h⟩ := guard_eq_ok.1 h
  obtain ⟨patched, hpatched, h⟩ := bind_eq_ok.1 h
  obtain ⟨closed, hclosed, h⟩ := bind_eq_ok.1 h
  obtain ⟨reopened, hreopened, h⟩ := bind_eq_ok.1 h
  exact ⟨not_not.1 hversion, patched, closed, reopened, hpatched, hclosed, hreopened,
    (Except.ok.inj h).symm⟩

/-- Closing and reopening leave the status a patch asks for. -/
theorem status_of_changeCase {now : Timestamp} {before patched closed reopened : CaseView}
    {reopenReason : String} (hclosed : closeCase now before patched = .ok closed)
    (hreopened : reopenCase reopenReason before closed = .ok reopened) :
    reopened.status = patched.status := by
  obtain ⟨-, -, -, rfl⟩ | ⟨-, rfl⟩ := closeCase_eq_ok hclosed <;>
  obtain ⟨-, rfl⟩ | ⟨-, rfl⟩ := reopenCase_eq_ok hreopened <;> rfl

theorem changeCase_steps {now : Timestamp} {before after : CaseView} {patch : CasePatch}
    (h : changeCase lib now before patch = .ok after) :
    before.version = patch.expectedVersion ∧ after.version = nextVersion before.version ∧
      (after.status = before.status ∨ caseTransitionAllowed before.status after.status) := by
  obtain ⟨hversion, patched, closed, reopened, hpatched, hclosed, hreopened, rfl⟩ :=
    changeCase_eq_ok h
  have hsame := status_of_changeCase hclosed hreopened
  obtain ⟨status, priority, title, owner, disposition, hstatus, -, -, rfl⟩ :=
    patchCase_eq_ok hpatched
  exact ⟨hversion, rfl, hsame ▸ nextStatus_eq_ok hstatus⟩

theorem updateCaseRow_eq_ok {databaseNow : Timestamp} {row row' : CaseRow} {after : CaseView}
    (h : updateCaseRow lib databaseNow row after = .ok row') :
    ∃ owner, storeOwner lib after.ownerUserId = .ok owner ∧
      row'.toCaseColumns = caseColumns databaseNow row after owner := by
  obtain ⟨owner, howner, h⟩ := bind_eq_ok.1 h
  split at h
  · obtain rfl := Except.ok.inj h
    exact ⟨owner, howner, rfl⟩
  · exact nomatch h

theorem incident?_eq_some {stored : Stored} {tenantId : String} {row : IncidentRow}
    (h : stored.incident? tenantId = some row) :
    stored.record = some (.incident row) ∧ row.tenantId = tenantId := by
  unfold Stored.incident? at h
  split at h
  · rename_i found hrecord
    split at h
    · rename_i htenant
      obtain rfl := Option.some.inj h
      exact ⟨hrecord, htenant⟩
    · exact nomatch h
  · exact nomatch h

theorem case?_eq_some {stored : Stored} {tenantId : String} {row : CaseRow}
    (h : stored.case? tenantId = some row) :
    stored.record = some (.caseFile row) ∧ row.tenantId = tenantId := by
  unfold Stored.case? at h
  split at h
  · rename_i found hrecord
    split at h
    · rename_i htenant
      obtain rfl := Option.some.inj h
      exact ⟨hrecord, htenant⟩
    · exact nomatch h
  · exact nomatch h

/-- What is looked up has to be there. -/
theorem elim_notFound_eq_ok {α : Type} {found : Option α} {a : α}
    (h : found.elim (.error .notFound) .ok = (.ok a : Mutation α)) : found = some a := by
  match found with
  | none => exact nomatch h
  | some b => exact congrArg some (Except.ok.inj h)

/-- The parts of `updateCase` on a case that is there. -/
theorem mutateCase_eq_ok {identity : Identity} {readings : Readings} {patch : CasePatch}
    {stored : Stored} {record : Record} {event : AuditEvent}
    (h : mutateCase lib identity readings patch stored = .ok (record, event)) :
    ∃ row after row', stored.record = some (.caseFile row) ∧ row.tenantId = identity.tenantId ∧
      changeCase lib readings.now row.view patch = .ok after ∧
      updateCaseRow lib readings.databaseNow row after = .ok row' ∧ record = .caseFile row' ∧
      event = insertAudit identity readings (caseAuditType row.view after) "case"
        (caseAuditReason patch row.view after) (some (.caseFile row.view))
        (some (.caseFile after)) := by
  obtain ⟨row, hrow, h⟩ := bind_eq_ok.1 h
  obtain ⟨after, hafter, h⟩ := bind_eq_ok.1 h
  obtain ⟨row', hrow', h⟩ := bind_eq_ok.1 h
  obtain ⟨rfl, rfl⟩ := Prod.mk.inj (Except.ok.inj h)
  obtain ⟨hfound, htenant⟩ := case?_eq_some (elim_notFound_eq_ok hrow)
  exact ⟨row, after, row', hfound, htenant, hafter, hrow', rfl, rfl⟩

/-- A row whose version is a `bigint` was written with the next version. -/
theorem IncidentRow.version_eq {row row' : IncidentRow}
    (h : row'.version = nextVersion row.version) : row'.version = row.version + 1 :=
  h.trans (nextVersion_eq row.version_pos (h ▸ row'.version_pos.1))

theorem CaseRow.version_eq {row row' : CaseRow} (h : row'.version = nextVersion row.version) :
    row'.version = row.version + 1 :=
  h.trans (nextVersion_eq row.version_pos (h ▸ row'.version_pos.1))

theorem audited_of_mutateIncident {identity : Identity} {readings : Readings}
    {patch : IncidentPatch} {stored : Stored} {record record' : Record} {event : AuditEvent}
    (hrecord : stored.record = some record)
    (h : mutateIncident lib identity readings patch stored = .ok (record', event)) :
    Audited (.updateIncident identity readings patch) record record' event := by
  obtain ⟨row, hrow, h⟩ := bind_eq_ok.1 h
  obtain ⟨after, hafter, h⟩ := bind_eq_ok.1 h
  obtain ⟨row', hrow', h⟩ := bind_eq_ok.1 h
  obtain ⟨rfl, rfl⟩ := Prod.mk.inj (Except.ok.inj h)
  obtain ⟨hfound, htenant⟩ := incident?_eq_some (elim_notFound_eq_ok hrow)
  obtain rfl : record = .incident row := Option.some.inj (hrecord.symm.trans hfound)
  obtain ⟨hexpected, hversion, hstatus⟩ := changeIncident_eq_ok hafter
  obtain ⟨hstatus', hversion', htenant'⟩ := updateIncidentRow_eq_ok hrow'
  exact
    { expected := congrArg some hexpected.symm
      target := ⟨rfl, htenant⟩
      version := IncidentRow.version_eq (hversion'.trans hversion)
      follows := by
        change row'.status = row.status ∨ _
        rw [hstatus']
        exact hstatus
      tenant := htenant'
      before := rfl
      after := ⟨_, rfl, hstatus'.symm, hversion'.symm⟩
      object := ⟨rfl, rfl⟩ }

theorem audited_of_mutateCase {identity : Identity} {readings : Readings} {patch : CasePatch}
    {stored : Stored} {record record' : Record} {event : AuditEvent}
    (hrecord : stored.record = some record)
    (h : mutateCase lib identity readings patch stored = .ok (record', event)) :
    Audited (.updateCase identity readings patch) record record' event := by
  obtain ⟨row, after, row', hfound, htenant, hafter, hrow', rfl, rfl⟩ := mutateCase_eq_ok h
  obtain rfl : record = .caseFile row := Option.some.inj (hrecord.symm.trans hfound)
  obtain ⟨hexpected, hversion, hstatus⟩ := changeCase_steps hafter
  obtain ⟨owner, -, hcolumns⟩ := updateCaseRow_eq_ok hrow'
  have hstatus' : row'.status = after.status := congrArg CaseColumns.status hcolumns
  have hversion' : row'.version = after.version := congrArg CaseColumns.version hcolumns
  exact
    { expected := congrArg some hexpected.symm
      target := ⟨rfl, htenant⟩
      version := CaseRow.version_eq (hversion'.trans hversion)
      follows := by
        change row'.status = row.status ∨ _
        rw [hstatus']
        exact hstatus
      tenant := by
        change row'.tenantId = row.tenantId
        rw [hcolumns]
        rfl
      before := rfl
      after := ⟨_, rfl, hstatus'.symm, hversion'.symm⟩
      object := ⟨rfl, rfl⟩ }

/-- A case that is there is not created again. -/
theorem insertCase_ne_ok {identity : Identity} {readings : Readings} {new : NewCase}
    {links : Option IncidentLinks} {stored : Stored} {record : Record} {result : Record × AuditEvent}
    (hrecord : stored.record = some record) :
    insertCase lib identity readings new links stored ≠ .ok result := by
  intro h
  unfold insertCase at h
  obtain ⟨-, h⟩ := guard_eq_ok.1 h
  obtain ⟨owner, -, h⟩ := bind_eq_ok.1 h
  obtain ⟨hnone, -⟩ := guard_eq_ok.1 h
  exact hnone (by rw [hrecord]; rfl)

/-- **A transaction that commits on an object is an audited change of it.** -/
theorem audited_of_mutate {stored : Stored} {record record' : Record} {event : AuditEvent}
    (hrecord : stored.record = some record) : ∀ {call : Call},
    mutate lib call stored = .ok (record', event) → Audited call record record' event
  | .updateIncident _ _ _, h => audited_of_mutateIncident hrecord h
  | .updateCase _ _ _, h => audited_of_mutateCase hrecord h
  | .createCase _ _ _ _, h => absurd h (insertCase_ne_ok hrecord)

end

/-! ## Histories -/

/-- **A chain of audited changes**: the calls that made them and the events they wrote. -/
inductive History : Record → List Call → List AuditEvent → Record → Prop
  | nil (record : Record) : History record [] [] record
  | snoc {record record' record'' : Record} {calls : List Call} {events : List AuditEvent}
      {call : Call} {event : AuditEvent} (h : History record calls events record')
      (hstep : Audited call record' record'' event) :
      History record (calls ++ [call]) (events ++ [event]) record''

namespace History

variable {record record' record'' : Record} {calls calls' : List Call}
  {events events' : List AuditEvent}

theorem trans (h : History record calls events record') :
    ∀ {calls' : List Call} {events' : List AuditEvent} {record'' : Record},
      History record' calls' events' record'' →
      History record (calls ++ calls') (events ++ events') record''
  | _, _, _, .nil _ => by simpa using h
  | _, _, _, .snoc h' hstep => by
      rw [← List.append_assoc, ← List.append_assoc]
      exact .snoc (trans h h') hstep

theorem version_eq : ∀ {calls : List Call} {events : List AuditEvent} {record' : Record},
    History record calls events record' →
      record'.version = record.version + calls.length ∧ events.length = calls.length
  | _, _, _, .nil _ => by simp
  | _, _, _, .snoc h hstep => by
      obtain ⟨hversion, hlength⟩ := version_eq h
      simp only [List.length_append, List.length_singleton]
      exact ⟨by rw [hstep.version, hversion]; omega, by omega⟩

/-- The version a recorded state has. -/
theorem version_of_shows : ∀ {state : AuditState} {record : Record}, state.Shows record →
    state.version = some record.version
  | .incident _, .incident _, h => congrArg some h.2
  | .caseFile _, .caseFile _, h => congrArg some h.2
  | .incident _, .caseFile _, h => h.elim
  | .caseFile _, .incident _, h => h.elim
  | .created _, .incident _, h => h.elim
  | .created _, .caseFile _, h => h.elim

/-- **The events of an object have consecutive versions.** -/
theorem events_consecutive : ∀ {calls : List Call} {events : List AuditEvent} {record' : Record},
    History record calls events record' → ∀ (j : ℕ) (event : AuditEvent),
      events[j]? = some event →
      event.before.bind AuditState.version = some (record.version + j) ∧
      event.after.bind AuditState.version = some (record.version + j + 1) := by
  intro calls events record' h
  induction h with
  | nil => simp
  | @snoc last _ _ events _ _ h hstep ih =>
    intro j event hj
    obtain ⟨hversion, hlength⟩ := version_eq h
    obtain hlt | rfl | hgt := lt_trichotomy j events.length
    · rw [List.getElem?_append_left hlt] at hj
      exact ih j event hj
    · obtain rfl : _ = event := by simpa using hj
      obtain ⟨state, hafter, hshows⟩ := hstep.after
      rw [hstep.before, hafter, hlength, ← hversion, ← hstep.version]
      refine ⟨?_, version_of_shows hshows⟩
      cases last with
      | incident => rfl
      | caseFile => rfl
    · rw [List.getElem?_eq_none (by simp; omega)] at hj
      cases hj

/-- Every call of a history expected a version the object had before it ended. -/
theorem expected_lt : ∀ {calls : List Call} {events : List AuditEvent} {record' : Record},
    History record calls events record' → ∀ call ∈ calls,
      ∃ version, call.expectedVersion = some version ∧ version < record'.version
  | _, _, _, .nil _, call, hcall => by simp at hcall
  | _, _, _, .snoc h hstep, call, hcall => by
      have hversion := hstep.version
      obtain hcall | hcall := List.mem_append.1 hcall
      · obtain ⟨version, hexpected, hlt⟩ := expected_lt h call hcall
        exact ⟨version, hexpected, by omega⟩
      · obtain rfl := List.mem_singleton.1 hcall
        exact ⟨_, hstep.expected, by omega⟩

/-- **Two calls that committed did not expect the same version.** -/
theorem expected_nodup : ∀ {calls : List Call} {events : List AuditEvent} {record' : Record},
    History record calls events record' → (calls.map Call.expectedVersion).Nodup
  | _, _, _, .nil _ => List.nodup_nil
  | _, _, _, .snoc h hstep => by
      rw [List.map_append, List.nodup_append]
      refine ⟨expected_nodup h, by simp, fun expected hexpected last hlast heq => ?_⟩
      obtain ⟨call, hcall, rfl⟩ := List.mem_map.1 hexpected
      obtain rfl : last = _ := by simpa using hlast
      obtain ⟨version, hversion, hlt⟩ := expected_lt h call hcall
      rw [hversion, hstep.expected] at heq
      exact absurd (Option.some.inj heq) (by omega)

/-- **An `INVALIDATED` incident stays one.** -/
theorem invalidated : ∀ {calls : List Call} {events : List AuditEvent} {record' : Record},
    History record calls events record' → record.Invalidated → record'.Invalidated
  | _, _, _, .nil _, hinv => hinv
  | _, _, _, @snoc _ last next _ _ _ _ h hstep, hinv => by
      have hlast := invalidated h hinv
      have hfollows := hstep.follows
      match last, next with
      | .incident row, .incident row' =>
        have hrow : row.status = .invalidated := hlast
        refine hfollows.elim (fun hsame => hsame.trans hrow) fun hallowed => ?_
        rw [hrow] at hallowed
        exact absurd hallowed Bool.false_ne_true
      | .incident _, .caseFile _ => exact hfollows.elim
      | .caseFile _, _ => exact hlast.elim

end History

/-! ## Runs -/

section

variable {lib : Uuids}

/-- The calls that committed on an object. -/
def callsOn (k : ObjectKey) (calls : List Call) : List Call := calls.filter fun call => call.key = k

theorem callsOn_append (k : ObjectKey) (calls calls' : List Call) :
    callsOn k (calls ++ calls') = callsOn k calls ++ callsOn k calls' := List.filter_append _ _

/-- **What came later**: more calls have committed, and every object has the history they made. -/
def Since (g g' : (service lib).Shared) : Prop :=
  ∃ calls, g'.commits = g.commits ++ calls ∧ ∀ k record, (g.rows k).record = some record →
    ∃ record' events, g'.rows k = ⟨some record', (g.rows k).audit ++ events⟩ ∧
      History record (callsOn k calls) events record'

theorem since_refl (g : (service lib).Shared) : Since g g := by
  refine ⟨[], (List.append_nil _).symm, fun k record hrecord => ⟨record, [], ?_, .nil record⟩⟩
  rw [List.append_nil, ← hrecord]

theorem since_trans {g g' g'' : (service lib).Shared} (h : Since g g') (h' : Since g' g'') :
    Since g g'' := by
  obtain ⟨calls, hcalls, hrows⟩ := h
  obtain ⟨calls', hcalls', hrows'⟩ := h'
  refine ⟨calls ++ calls', by rw [hcalls', hcalls, List.append_assoc], fun k record hrecord => ?_⟩
  obtain ⟨record', events, hrow, hhistory⟩ := hrows k record hrecord
  obtain ⟨record'', events', hrow', hhistory'⟩ := hrows' k record' (by rw [hrow])
  refine ⟨record'', events ++ events', ?_, ?_⟩
  · rw [hrow', hrow, List.append_assoc]
  · rw [callsOn_append]
    exact hhistory.trans hhistory'

instance : Preorder (service lib).Shared where
  le := Since
  le_refl := since_refl
  le_trans _ _ _ := since_trans

/-- A transaction, with what it decided on. -/
theorem transact_eq_commit {call : Call} {stored stored' : Stored} {result : Mutation Unit}
    (h : transact lib call stored = .commit stored' result) : ∃ record event,
      mutate lib call stored = .ok (record, event) ∧
      stored' = ⟨some record, stored.audit ++ [event]⟩ ∧ result = .ok () := by
  unfold transact at h
  split at h
  · rename_i record event hmutate
    cases h
    exact ⟨record, event, hmutate, rfl, rfl⟩
  · exact nomatch h

/-- A transaction that rolls back says why. -/
theorem transact_eq_rollback {call : Call} {stored : Stored} {result : Mutation Unit}
    (h : transact lib call stored = .rollback result) : ∃ e, result = .error e := by
  unfold transact at h
  split at h
  · exact nomatch h
  · cases h
    exact ⟨_, rfl⟩

theorem since_commit {g : (service lib).Shared} {call : Call} {stored : Stored}
    {result : Mutation Unit}
    (h : transact lib call (g.rows call.key) = .commit stored result) :
    Since g (g.commit call stored) := by
  obtain ⟨record', event, hmutate, rfl, -⟩ := transact_eq_commit h
  refine ⟨[call], rfl, fun k record hrecord => ?_⟩
  by_cases hk : call.key = k
  · subst hk
    refine ⟨record', [event], Function.update_self _ _ _, ?_⟩
    have honly : callsOn call.key [call] = [call] := by simp [callsOn]
    rw [honly]
    exact .snoc (.nil record) (audited_of_mutate hrecord hmutate)
  · refine ⟨record, [], ?_, ?_⟩
    · rw [List.append_nil, ← hrecord]
      exact Function.update_of_ne (Ne.symm hk) _ _
    · have hnone : callsOn k [call] = [] := by simp [callsOn, hk]
      rw [hnone]
      exact .nil record

/-! ## Reading back -/

/-- The object of a call is there. -/
def Call.Finds (call : Call) (stored : Stored) : Prop :=
  ∃ record, stored.record = some record ∧ record.kind = call.key.kind ∧
    record.tenantId = call.tenantId

theorem viewOf_of_finds {call : Call} {stored : Stored} (h : call.Finds stored) :
    ∃ state, viewOf call stored = .ok state := by
  obtain ⟨record, hrecord, hkind, htenant⟩ := h
  unfold viewOf
  rw [← hkind]
  match record with
  | .incident row =>
    refine ⟨.incident row.view, ?_⟩
    have hfound : stored.incident? call.tenantId = some row := by
      rw [Stored.incident?, hrecord]
      exact if_pos htenant
    exact congrArg (fun found : Option IncidentRow => found.elim _ _) hfound
  | .caseFile row =>
    refine ⟨.caseFile row.view, ?_⟩
    have hfound : stored.case? call.tenantId = some row := by
      rw [Stored.case?, hrecord]
      exact if_pos htenant
    exact congrArg (fun found : Option CaseRow => found.elim _ _) hfound

theorem kind_of_follows : ∀ {record record' : Record}, record.Follows record' →
    record'.kind = record.kind
  | .incident _, .incident _, _ => rfl
  | .caseFile _, .caseFile _, _ => rfl
  | .incident _, .caseFile _, h => h.elim
  | .caseFile _, .incident _, h => h.elim

theorem finds_of_history {call : Call} {record : Record} (hkind : record.kind = call.key.kind)
    (htenant : record.tenantId = call.tenantId) :
    ∀ {calls : List Call} {events : List AuditEvent} {record' : Record},
      History record calls events record' →
      record'.kind = call.key.kind ∧ record'.tenantId = call.tenantId
  | _, _, _, .nil _ => ⟨hkind, htenant⟩
  | _, _, _, .snoc h hstep => by
      obtain ⟨hkind', htenant'⟩ := finds_of_history hkind htenant h
      exact ⟨(kind_of_follows hstep.follows).trans hkind', hstep.tenant.trans htenant'⟩

theorem finds_of_since {g g' : (service lib).Shared} (hle : Since g g') {call : Call} {k : ObjectKey}
    (h : call.Finds (g.rows k)) : call.Finds (g'.rows k) := by
  obtain ⟨calls, -, hrows⟩ := hle
  obtain ⟨record, hrecord, hkind, htenant⟩ := h
  obtain ⟨record', events, hrow, hhistory⟩ := hrows k record hrecord
  exact ⟨record', by rw [hrow], finds_of_history hkind htenant hhistory⟩

/-- A new case is there. -/
theorem finds_of_insertCase {identity : Identity} {readings : Readings} {new : NewCase}
    {links : Option IncidentLinks} {stored : Stored} {record : Record} {event : AuditEvent}
    (h : insertCase lib identity readings new links stored = .ok (record, event)) :
    record.kind = .caseFile ∧ record.tenantId = identity.tenantId := by
  unfold insertCase at h
  obtain ⟨-, h⟩ := guard_eq_ok.1 h
  obtain ⟨owner, -, h⟩ := bind_eq_ok.1 h
  obtain ⟨-, h⟩ := guard_eq_ok.1 h
  dsimp only at h
  split at h
  · exact nomatch h
  · obtain ⟨rfl, -⟩ := Prod.mk.inj (Except.ok.inj h)
    exact ⟨rfl, rfl⟩

theorem finds_of_transact {call : Call} {stored stored' : Stored} {result : Mutation Unit}
    (h : transact lib call stored = .commit stored' result) : call.Finds stored' := by
  obtain ⟨record', event, hmutate, rfl, -⟩ := transact_eq_commit h
  refine ⟨record', rfl, ?_⟩
  match hrecord : stored.record with
  | some record =>
    have haudited := audited_of_mutate hrecord hmutate
    exact ⟨(kind_of_follows haudited.follows).trans haudited.target.1,
      haudited.tenant.trans haudited.target.2⟩
  | none =>
    match call with
    | .updateIncident identity readings patch =>
      obtain ⟨row, hrow, -⟩ := bind_eq_ok.1 hmutate
      have hfound := (incident?_eq_some (elim_notFound_eq_ok hrow)).1
      exact nomatch hrecord.symm.trans hfound
    | .updateCase identity readings patch =>
      obtain ⟨row, hrow, -⟩ := bind_eq_ok.1 hmutate
      have hfound := (case?_eq_some (elim_notFound_eq_ok hrow)).1
      exact nomatch hrecord.symm.trans hfound
    | .createCase identity readings new links => exact finds_of_insertCase hmutate

/-! ## Calls -/

/-- What the answer of a call says about its transaction. -/
def Answers (committed : Bool) : Mutation AuditState → Prop
  | .ok _ => committed = true
  | .error e => e.Rejects → committed = false

section

variable {Inv : (service lib).Shared → Prop}

theorem holds_readBack {call : Call} {g : (service lib).Shared} (h : call.Finds (g.rows call.key)) :
    Service.Holds Inv (fun b result _ => Answers b result) (readBack lib call) true g := by
  intro t hgt _
  obtain ⟨state, hview⟩ := viewOf_of_finds (finds_of_since hgt h)
  refine ⟨fun u _ _ => ?_, fun u _ _ hrejects => hrejects.elim⟩
  rw [show (viewOf call (t.rows call.key)) = .ok state from hview]
  rfl

/-- **A call keeps what its transaction keeps.** -/
theorem holds_handle (request : Request) (hcommit : ∀ call t stored result,
      checkRequest lib request = .ok call → Inv t →
      transact lib call (t.rows call.key) = .commit stored result → Inv (t.commit call stored))
    (g : (service lib).Shared) :
    Service.Holds Inv (fun b result _ => Answers b result) (handle lib request) false g := by
  unfold handle
  split
  · exact fun _ _ _ _ => rfl
  · rename_i call hcall
    intro t _ ht
    refine ⟨fun stored result hbody => ?_, fun result hbody => ?_, fun _ _ _ hrejects =>
      hrejects.elim⟩
    · obtain ⟨-, -, -, -, rfl⟩ := transact_eq_commit hbody
      refine ⟨hcommit call t stored _ hcall ht hbody, since_commit hbody, holds_readBack ?_,
        fun _ _ _ hrejects => hrejects.elim⟩
      have hrow : (t.commit call stored).rows call.key = stored := Function.update_self _ _ _
      rw [hrow]
      exact finds_of_transact hbody
    · obtain ⟨e, rfl⟩ := transact_eq_rollback hbody
      exact fun _ _ _ _ => rfl

end

/-! ## The history of an object -/

/-- **The history of an object between two states of the service.** -/
structure ObjectHistory (record : Record) (audit : List AuditEvent) (calls : List Call)
    (record' : Record) (audit' : List AuditEvent) : Prop where
  version : record'.version = record.version + calls.length
  events : ∃ events, audit' = audit ++ events ∧ events.length = calls.length ∧
    History record calls events record' ∧ ∀ (j : ℕ) (event : AuditEvent),
      events[j]? = some event →
      event.before.bind AuditState.version = some (record.version + j) ∧
      event.after.bind AuditState.version = some (record.version + j + 1)
  expected : (calls.map Call.expectedVersion).Nodup
  invalidated : record.Invalidated → record'.Invalidated

theorem objectHistory_of_history {record record' : Record} {calls : List Call}
    {events : List AuditEvent} (h : History record calls events record') (audit : List AuditEvent) :
    ObjectHistory record audit calls record' (audit ++ events) where
  version := h.version_eq.1
  events := ⟨events, rfl, h.version_eq.2, h, h.events_consecutive⟩
  expected := h.expected_nodup
  invalidated := h.invalidated

variable (lib) in
/-- **The audited changes between two states of a run.**  Each object went up one version with each
call that committed on it.  A call that succeeds has committed, a call that is rejected has not, and
only a call that commits changes anything. -/
structure AuditedRun (s t : (service lib).State Request (Mutation AuditState)) : Prop where
  objects : ∃ calls, t.shared.commits = s.shared.commits ++ calls ∧
    ∀ k record, (s.shared.rows k).record = some record →
      ∃ record', (t.shared.rows k).record = some record' ∧
        ObjectHistory record (s.shared.rows k).audit (callsOn k calls) record'
          (t.shared.rows k).audit
  answers : ∀ i request result committed,
    t.calls i = some ⟨request, .pure result, .idle, committed⟩ → Answers committed result
  commits : ∀ t', Service.Step (handle lib) t t' →
    ((t'.shared.rows = t.shared.rows ∧ t'.shared.commits = t.shared.commits) ∨
      ∃ i run, t'.calls i = some run ∧ run.committed = true ∧
        ∀ j, j ≠ i → t'.calls j = t.calls j) ∧
    ∀ j run, t.calls j = some run → run.committed = true →
      ∀ run', t'.calls j = some run' → run'.committed = true

/-- **Every change of an object is audited**, in every interleaving of any calls. -/
theorem audited_of_reaches {g : (service lib).Shared}
    {s t : (service lib).State Request (Mutation AuditState)}
    (hs : Service.Reachable (handle lib) g s)
    (hst : Relation.ReflTransGen (Service.Step (handle lib)) s t) : AuditedRun lib s t := by
  have hcalls (request : Request) (g : (service lib).Shared) (_ : True) :
      Service.Holds (fun _ => True) (fun b result _ => Answers b result) (handle lib request)
        false g :=
    holds_handle request (fun _ _ _ _ _ _ _ => trivial) g
  have hkept := Service.holds_of_reachable (fun _ => True) (fun _ b result _ => Answers b result)
    hcalls trivial hs
  obtain ⟨hkept', hle⟩ := hkept.reaches hcalls hst
  refine ⟨?_, fun i request result committed hi => hkept'.calls i _ hi t.shared le_rfl trivial,
    fun t' hstep => ⟨hstep.rows_eq_or_committed, hstep.committed_stays⟩⟩
  obtain ⟨calls, hcalls, hrows⟩ := hle
  refine ⟨calls, hcalls, fun k record hrecord => ?_⟩
  obtain ⟨record', events, hrow, hhistory⟩ := hrows k record hrecord
  refine ⟨record', by rw [hrow], ?_⟩
  rw [hrow]
  exact objectHistory_of_history hhistory _

/-! ## The life of a case -/

variable (lib) in
/-- **A case and its changes**, from its creation on; each patch meets a condition on the case it is
applied to. -/
inductive CaseRun (meets : Readings → CaseView → CasePatch → Prop) : Stored → Prop
  | create (identity : Identity) (readings : Readings) (input : CaseCreate)
      (links : Option IncidentLinks) {new : NewCase} {record : Record} {event : AuditEvent}
      (hnew : checkNewCase lib input = .ok new)
      (hcall : insertCase lib identity readings new links ⟨none, []⟩ = .ok (record, event)) :
      CaseRun meets ⟨some record, [event]⟩
  | update (identity : Identity) (readings : Readings) (patch : CasePatch) {stored : Stored}
      {record : Record} {event : AuditEvent} (h : CaseRun meets stored)
      (hmeets : ∀ row, stored.record = some (.caseFile row) → meets readings row.view patch)
      (hcall : mutateCase lib identity readings patch stored = .ok (record, event)) :
      CaseRun meets ⟨some record, stored.audit ++ [event]⟩

end

/-! ### A run -/

/-- Libraries that know no UUID: the run below has none. -/
def noUuids : Uuids where
  parse _ := none
  cast _ := none
  version _ := 0
  parse_cast h := nomatch h
  cast_cast h := nomatch h

/-- A new incident. -/
def openIncident : IncidentRow where
  incidentId := "0197a000-0000-7000-8000-000000000001"
  tenantId := "0197a000-0000-7000-8000-0000000000aa"
  status := .opened
  severity := "HIGH"
  confidence := none
  title := "Brute force"
  description := ""
  firstSeen := ⟨0, 0⟩
  lastSeen := ⟨0, 0⟩
  createdAt := ⟨0, 0⟩
  updatedAt := ⟨0, 0⟩
  correlationReason := none
  correlationRuleId := none
  correlationRuleVersion := none
  windowStart := none
  windowEnd := none
  ownerUserId := none
  disposition := none
  version := 1
  findingIds := []
  checked := rfl

/-- The incident, alone in the tables. -/
def openTables : (service noUuids).Shared where
  rows k :=
    ⟨if k = ⟨.incident, openIncident.incidentId⟩ then some (.incident openIncident) else none, []⟩
  commits := []
  ext := ()

/-- A request to triage it. -/
def triage : Request :=
  .updateIncident ⟨openIncident.tenantId, openIncident.incidentId, "analyst", "request"⟩
    ⟨⟨0, 0⟩, ⟨1, 0⟩, "0197a000-0000-7000-8000-0000000000bb"⟩
    ⟨1, some "TRIAGED", none, none, none, none, "triage"⟩

/-- Two calls are to triage the incident, from one version.  The second one waits for the lock, finds
another version and is rejected; the first one has committed, and reads back what it wrote. -/
theorem audited_of_reaches_triage :
    ∃ t row, AuditedRun noUuids ⟨openTables, fun _ => none, fun _ => none⟩ t ∧
      t.shared.commits.length = 1 ∧
      t.shared.rows ⟨.incident, openIncident.incidentId⟩ = row ∧
      row.record.map Record.version = some 2 ∧ row.audit.length = 1 ∧
      (∃ view, t.calls 0 = some ⟨triage, .pure (.ok view), .idle, true⟩) ∧
      t.calls 1 = some ⟨triage, .pure (.error .conflict), .idle, false⟩ := by
  let s : (service noUuids).State Request (Mutation AuditState) :=
    ⟨openTables, fun _ => none, fun _ => none⟩
  have hrun : Relation.ReflTransGen (Service.Step (handle noUuids)) s _ :=
    .single (.start s 0 triage rfl)
  replace hrun := hrun.tail (.start _ 1 triage rfl)
  replace hrun := hrun.tail (.open _ 0 triage _ _ false rfl)
  replace hrun := hrun.tail (.open _ 1 triage _ _ false rfl)
  replace hrun := hrun.tail (.lock _ 0 triage _ _ false rfl rfl)
  replace hrun := hrun.tail (.write _ 0 triage _ _ false _ _ _ rfl rfl)
  replace hrun := hrun.tail (.commit _ 0 triage _ _ false _ _ _ rfl (.inl rfl))
  replace hrun := hrun.tail (.lock _ 1 triage _ _ false rfl rfl)
  replace hrun := hrun.tail (.rollback _ 1 triage _ _ false _ _ rfl rfl)
  replace hrun := hrun.tail (.read _ 0 triage _ _ _ true rfl (.inr rfl))
  exact ⟨_, _, audited_of_reaches .refl hrun, rfl, rfl, rfl, rfl, ⟨_, rfl⟩, rfl⟩

end Operational

end Cerbero
