import Mathlib.Data.List.Chain
import Cerbero.Operational.ClosedCase

/-!
# Operational/AuditChain — where the audit trail of a case chains

An audit event records the case as the call computed it, the next one the case as it was stored.
They agree where storing changes nothing: an owner in the text PostgreSQL prints, and a closing time
of whole microseconds (`Canonical`).  `auditChain_of_caseRun` is the trail of a whole case.
-/

namespace Cerbero

namespace Operational

open Text

/-- Two recorded states of a case agree. -/
structure CaseView.Agrees (after before : CaseView) : Prop where
  status : after.status = before.status
  priority : after.priority = before.priority
  title : after.title = before.title
  description : after.description = before.description
  ownerUserId : after.ownerUserId = before.ownerUserId
  disposition : after.disposition = before.disposition
  closureReason : after.closureReason = before.closureReason
  closedAt : after.closedAt = before.closedAt
  version : after.version = before.version

/-- What one event says the case became is what the next one says it was. -/
def Chains (event event' : AuditEvent) : Prop :=
  ∀ after before, event.after = some (.caseFile after) → event'.before = some (.caseFile before) →
    after.Agrees before

section

variable (lib : Uuids)

/-- An owner that is stored as it is given. -/
def CanonicalOwner (owner : String) : Prop := owner = "" ∨ lib.cast owner = some owner

/-- **A canonical call**: the owner it gives is empty or in the text PostgreSQL prints, and it closes
a case at a whole microsecond. -/
def Canonical (readings : Readings) (view : CaseView) (patch : CasePatch) : Prop :=
  (∀ owner, patch.ownerUserId = some owner → CanonicalOwner lib owner) ∧
  (view.status ≠ .closed → patch.status = some "CLOSED" →
    toMicroseconds readings.now = readings.now)

/-- What storing has made of a row. -/
structure CaseRow.Canonical (row : CaseRow) : Prop where
  owner : ∀ owner, row.ownerUserId = some owner → lib.cast owner = some owner ∧ owner ≠ ""
  closedAt : row.closedAt.map toMicroseconds = row.closedAt

end

/-! ## Storing -/

section

variable {lib : Uuids}

@[simp] theorem toMicroseconds_toMicroseconds (time : Timestamp) :
    toMicroseconds (toMicroseconds time) = toMicroseconds time := by
  unfold toMicroseconds
  congr 1
  change time.nanos / 1000 * 1000 / 1000 * 1000 = time.nanos / 1000 * 1000
  omega

/-- An owner that is stored is canonical. -/
theorem storeOwner_eq_ok {owner : String} {stored : Option String}
    (h : storeOwner lib owner = .ok stored) :
    (owner = "" ∧ stored = none) ∨
      (owner ≠ "" ∧ ∃ value, lib.cast owner = some value ∧ stored = some value) := by
  unfold storeOwner nullIf at h
  by_cases hempty : owner = ""
  · rw [if_pos hempty] at h
    exact .inl ⟨hempty, (Except.ok.inj h).symm⟩
  · rw [if_neg hempty] at h
    refine .inr ⟨hempty, ?_⟩
    match hcast : lib.cast owner with
    | none =>
      simp only [hcast] at h
      exact nomatch h
    | some value =>
      simp only [hcast] at h
      exact ⟨value, rfl, (Except.ok.inj h).symm⟩

/-- The text of an owner survives storing exactly if it is canonical. -/
theorem stored_owner_eq_iff {owner : String} {stored : Option String}
    (h : storeOwner lib owner = .ok stored) :
    owner = stored.getD "" ↔ CanonicalOwner lib owner := by
  obtain ⟨rfl, rfl⟩ | ⟨hne, value, hcast, rfl⟩ := storeOwner_eq_ok h
  · exact iff_of_true rfl (.inl rfl)
  · refine ⟨fun heq => .inr ?_, ?_⟩
    · rw [hcast, heq]
      rfl
    · rintro (rfl | hcanonical)
      · exact absurd rfl hne
      · exact Option.some.inj (hcanonical.symm.trans hcast)

theorem canonicalOwner_of_row {row : CaseRow} (h : row.Canonical lib) :
    CanonicalOwner lib row.view.ownerUserId := by
  change CanonicalOwner lib (row.ownerUserId.getD "")
  match howner : row.ownerUserId with
  | none => exact .inl rfl
  | some owner => exact .inr (h.owner owner howner).1

theorem nextOwner_eq_ok {before owner : String} {patch : Option String}
    (h : nextOwner lib before patch = .ok owner) : owner = patch.getD before := by
  match patch with
  | none => exact (Except.ok.inj h).symm
  | some given =>
    simp only [nextOwner] at h
    split at h
    · exact (Except.ok.inj h).symm
    · exact nomatch h

/-! ## One change -/

section

variable {now : Timestamp} {before after : CaseView} {patch : CasePatch}

/-- A closing time survives storing exactly if it is a whole microsecond. -/
theorem closedAt_eq_iff (hbefore : before.closedAt.map toMicroseconds = before.closedAt)
    (h : changeCase lib now before patch = .ok after) :
    after.closedAt.map toMicroseconds = after.closedAt ↔
      (before.status ≠ .closed → patch.status = some "CLOSED" → toMicroseconds now = now) := by
  obtain ⟨-, patched, closed, reopened, hpatched, hclose, hreopen, rfl⟩ := changeCase_eq_ok h
  obtain ⟨status, priority, title, owner, disposition, hstatus, -, -, rfl⟩ :=
    patchCase_eq_ok hpatched
  have hnames := status_closed_iff hstatus
  obtain ⟨⟨heq, hopen⟩, -, -, rfl⟩ | ⟨hkeeps, rfl⟩ := closeCase_eq_ok hclose
  · obtain ⟨⟨hclosed, -⟩, -⟩ | ⟨-, rfl⟩ := reopenCase_eq_ok hreopen
    · exact absurd hclosed hopen
    have hpatch : patch.status = some "CLOSED" :=
      (hnames.1 heq).resolve_right fun hkept => hopen hkept.2
    simp [hopen, hpatch]
  · have hvacuous : before.status ≠ .closed → patch.status = some "CLOSED" →
        toMicroseconds now = now :=
      fun hopen hpatch => absurd ⟨hnames.2 (.inl hpatch), hopen⟩ hkeeps
    obtain ⟨-, rfl⟩ | ⟨-, rfl⟩ := reopenCase_eq_ok hreopen
    · exact iff_of_true rfl hvacuous
    · exact iff_of_true hbefore hvacuous

theorem owner_of_changeCase (h : changeCase lib now before patch = .ok after) :
    after.ownerUserId = patch.ownerUserId.getD before.ownerUserId := by
  obtain ⟨-, patched, closed, reopened, hpatched, hclose, hreopen, rfl⟩ := changeCase_eq_ok h
  obtain ⟨status, priority, title, owner, disposition, -, howner, -, rfl⟩ :=
    patchCase_eq_ok hpatched
  rw [← nextOwner_eq_ok howner]
  obtain ⟨-, -, -, rfl⟩ | ⟨-, rfl⟩ := closeCase_eq_ok hclose <;>
  obtain ⟨-, rfl⟩ | ⟨-, rfl⟩ := reopenCase_eq_ok hreopen <;> rfl

/-- A canonical owner: the one given, or else the one that was there. -/
theorem canonicalOwner_iff (hbefore : CanonicalOwner lib before.ownerUserId)
    (h : changeCase lib now before patch = .ok after) :
    CanonicalOwner lib after.ownerUserId ↔
      ∀ owner, patch.ownerUserId = some owner → CanonicalOwner lib owner := by
  rw [owner_of_changeCase h]
  cases patch.ownerUserId with
  | none => simpa using hbefore
  | some given => simp

end

/-- **What a call records is what it stores, exactly if the call is canonical.** -/
theorem agrees_iff {readings : Readings} {row row' : CaseRow} {patch : CasePatch}
    {after : CaseView} (hrow : row.Canonical lib)
    (h : changeCase lib readings.now row.view patch = .ok after)
    (hrow' : updateCaseRow lib readings.databaseNow row after = .ok row') :
    after.Agrees row'.view ↔ Canonical lib readings row.view patch := by
  obtain ⟨owner, howner, hcolumns⟩ := updateCaseRow_eq_ok hrow'
  have hownerUserId : row'.view.ownerUserId = owner.getD "" :=
    congrArg (fun columns => columns.ownerUserId.getD "") hcolumns
  have hclosedAt : row'.view.closedAt = after.closedAt.map toMicroseconds :=
    congrArg CaseColumns.closedAt hcolumns
  have howners := (stored_owner_eq_iff howner).trans
    (canonicalOwner_iff (canonicalOwner_of_row hrow) h)
  have htimes := closedAt_eq_iff hrow.closedAt h
  constructor
  · intro hagrees
    exact ⟨howners.1 (hagrees.ownerUserId.trans hownerUserId),
      htimes.1 (hclosedAt.symm.trans hagrees.closedAt.symm)⟩
  · intro hcanonical
    exact
      { status := (congrArg CaseColumns.status hcolumns).symm
        priority := (congrArg CaseColumns.priority hcolumns).symm
        title := (congrArg CaseColumns.title hcolumns).symm
        description := (congrArg CaseColumns.description hcolumns).symm
        ownerUserId := (howners.2 hcanonical.1).trans hownerUserId.symm
        disposition := (congrArg CaseColumns.disposition hcolumns).symm
        closureReason := (closureReason_stored hcolumns).symm
        closedAt := (htimes.2 hcanonical.2).symm.trans hclosedAt.symm
        version := (congrArg CaseColumns.version hcolumns).symm }

/-- A stored row is canonical. -/
theorem canonical_stored {databaseNow : Timestamp} {row row' : CaseRow} {after : CaseView}
    (h : updateCaseRow lib databaseNow row after = .ok row') : row'.Canonical lib := by
  obtain ⟨owner, howner, hcolumns⟩ := updateCaseRow_eq_ok h
  have hclosedAt : row'.closedAt = after.closedAt.map toMicroseconds :=
    congrArg CaseColumns.closedAt hcolumns
  have hownerUserId : row'.ownerUserId = owner := congrArg CaseColumns.ownerUserId hcolumns
  refine ⟨fun value hvalue => ?_, ?_⟩
  · obtain ⟨-, rfl⟩ | ⟨-, stored, hcast, rfl⟩ := storeOwner_eq_ok howner
    · exact nomatch hvalue.symm.trans hownerUserId
    · obtain rfl := Option.some.inj (hvalue.symm.trans hownerUserId)
      exact lib.cast_cast hcast
  · rw [hclosedAt, Option.map_map]
    congr 1
    funext time
    exact toMicroseconds_toMicroseconds time

/-- **A canonical call that records a new owner stores a new owner.** -/
theorem owner_ne_of_ownerChanged {row row' : CaseRow} {after : CaseView}
    (hagrees : after.Agrees row'.view)
    (htype : caseAuditType row.view after = .caseOwnerChanged) :
    row'.ownerUserId ≠ row.ownerUserId := by
  intro hsame
  have hne : row.view.ownerUserId ≠ after.ownerUserId := by
    intro heq
    have hupdated : caseAuditType row.view after ≠ .caseOwnerChanged := by
      unfold caseAuditType
      simp only [heq, ne_eq, not_true, if_false]
      split_ifs <;> exact fun h => nomatch h
    exact hupdated htype
  refine hne ?_
  rw [hagrees.ownerUserId]
  exact congrArg (Option.getD · "") hsame.symm

/-! ## The life of a case -/

/-- An event that fits the last one of a trail. -/
theorem isChain_append_event {audit : List AuditEvent} {event : AuditEvent}
    (h : audit.IsChain Chains) (hlast : ∀ last ∈ audit.getLast?, Chains last event) :
    (audit ++ [event]).IsChain Chains :=
  List.isChain_append.2 ⟨h, .singleton _, by simpa using hlast⟩

/-- The trail of a case chains, and its last event agrees with what is stored. -/
structure ChainKept (lib : Uuids) (stored : Stored) (row : CaseRow) : Prop where
  record : stored.record = some (.caseFile row)
  canonical : row.Canonical lib
  chain : stored.audit.IsChain Chains
  last : ∀ event ∈ stored.audit.getLast?, ∀ after, event.after = some (.caseFile after) →
    after.Agrees row.view

theorem chainKept_insertCase {identity : Identity} {readings : Readings} {new : NewCase}
    {links : Option IncidentLinks} {stored : Stored} {record : Record} {event : AuditEvent}
    (h : insertCase lib identity readings new links stored = .ok (record, event)) :
    ∃ row, ChainKept lib ⟨some record, [event]⟩ row := by
  unfold insertCase at h
  obtain ⟨-, h⟩ := guard_eq_ok.1 h
  obtain ⟨owner, howner, h⟩ := bind_eq_ok.1 h
  obtain ⟨-, h⟩ := guard_eq_ok.1 h
  dsimp only at h
  split at h
  · exact nomatch h
  · obtain ⟨rfl, rfl⟩ := Prod.mk.inj (Except.ok.inj h)
    refine ⟨_, rfl, ⟨fun value hvalue => ?_, rfl⟩, .singleton _, ?_⟩
    · obtain ⟨-, rfl⟩ | ⟨-, stored, hcast, rfl⟩ := storeOwner_eq_ok howner
      · exact nomatch hvalue
      · obtain rfl := Option.some.inj hvalue
        exact lib.cast_cast hcast
    · intro event hevent after hafter
      obtain rfl := Option.some.inj hevent
      exact nomatch hafter

/-- A canonical call keeps the trail. -/
theorem chainKept_mutateCase {identity : Identity} {readings : Readings} {patch : CasePatch}
    {stored : Stored} {row : CaseRow} {record : Record} {event : AuditEvent}
    (hkept : ChainKept lib stored row) (hcanonical : Canonical lib readings row.view patch)
    (h : mutateCase lib identity readings patch stored = .ok (record, event)) :
    ∃ row', ChainKept lib ⟨some record, stored.audit ++ [event]⟩ row' := by
  obtain ⟨found, after, row', hfound, -, hafter, hrow', rfl, rfl⟩ := mutateCase_eq_ok h
  obtain rfl : row = found :=
    Record.caseFile.inj (Option.some.inj (hkept.record.symm.trans hfound))
  have hagrees := (agrees_iff hkept.canonical hafter hrow').2 hcanonical
  refine ⟨row', rfl, canonical_stored hrow', ?_, ?_⟩
  · refine isChain_append_event hkept.chain fun last hlast after' before hafter' hbefore => ?_
    obtain rfl := AuditState.caseFile.inj (Option.some.inj hbefore)
    exact hkept.last last hlast after' hafter'
  · intro event hevent after' hafter'
    obtain rfl : _ = event := by simpa using hevent
    obtain rfl := AuditState.caseFile.inj (Option.some.inj hafter')
    exact hagrees

theorem chainKept_of_caseRun {stored : Stored} (h : CaseRun lib (Canonical lib) stored) :
    ∃ row, ChainKept lib stored row := by
  induction h with
  | create _ _ _ _ _ hcall => exact chainKept_insertCase hcall
  | update _ _ _ _ hmeets hcall ih =>
    obtain ⟨row, hkept⟩ := ih
    exact chainKept_mutateCase hkept (hmeets row hkept.record) hcall

/-- **The audit trail of a case whose calls are canonical chains**, and a canonical call writes
`case.owner_changed` only if the stored owner changes; a call that is not canonical records another
case than it stores. -/
theorem auditChain_of_caseRun {stored : Stored} (h : CaseRun lib (Canonical lib) stored) :
    stored.audit.IsChain Chains ∧ ∃ row, stored.record = some (.caseFile row) ∧
      ∀ identity readings patch record event,
        mutateCase lib identity readings patch stored = .ok (record, event) →
        ∃ row' after, record = .caseFile row' ∧ event.after = some (.caseFile after) ∧
          (after.Agrees row'.view ↔ Canonical lib readings row.view patch) ∧
          (Canonical lib readings row.view patch → event.type = .caseOwnerChanged →
            row'.ownerUserId ≠ row.ownerUserId) := by
  obtain ⟨row, hkept⟩ := chainKept_of_caseRun h
  refine ⟨hkept.chain, row, hkept.record, fun identity readings patch record event hcall => ?_⟩
  obtain ⟨found, after, row', hfound, -, hafter, hrow', rfl, rfl⟩ := mutateCase_eq_ok hcall
  obtain rfl : row = found :=
    Record.caseFile.inj (Option.some.inj (hkept.record.symm.trans hfound))
  have hagrees := agrees_iff hkept.canonical hafter hrow'
  exact ⟨row', after, rfl, rfl, hagrees, fun hcanonical =>
    owner_ne_of_ownerChanged (hagrees.2 hcanonical)⟩

end

/-! ### An owner in upper case -/

/-- The trail of the closed case chains. -/
theorem auditChain_of_caseRun_closedRow : ∃ audit,
    CaseRun noUuids (Canonical noUuids) ⟨some (.caseFile closedRow), audit⟩ ∧
      audit.IsChain Chains := by
  obtain ⟨audit, hrun⟩ := caseRun_closedRow (Canonical noUuids) fun _ patch _ hnone =>
    ⟨fun owner howner => (by cases hnone.symm.trans howner), fun _ _ => rfl⟩
  exact ⟨audit, hrun, (auditChain_of_caseRun hrun).1⟩

def upperOwner : String := "0197A000-0000-7000-8000-0000000000DD"

def lowerOwner : String := "0197a000-0000-7000-8000-0000000000dd"

/-- Libraries that know one UUID, in both cases. -/
def oneUuid : Uuids where
  parse s := if s = upperOwner ∨ s = lowerOwner then some lowerOwner else none
  cast s := if s = upperOwner ∨ s = lowerOwner then some lowerOwner else none
  version _ := 7
  parse_cast h h' := Option.some.inj (h.symm.trans h')
  cast_cast h := by
    split at h
    · obtain rfl := Option.some.inj h
      exact ⟨rfl, by decide⟩
    · exact nomatch h

/-- A patch of the owner alone. -/
def ownerPatch (version : ℤ) (owner : String) : CasePatch :=
  ⟨version, none, none, none, none, some owner, none, none, "", ""⟩

/-- **A trail that does not chain**: an owner given in upper case is recorded so and stored in lower
case, and a call that gives the stored owner in upper case writes `case.owner_changed`. -/
theorem not_auditChain_of_caseRun :
    (∃ stored, CaseRun oneUuid (fun _ _ _ => True) stored ∧ ¬ stored.audit.IsChain Chains) ∧
    ∃ stored row row' event, CaseRun oneUuid (fun _ _ _ => True) stored ∧
      stored.record = some (.caseFile row) ∧
      mutateCase oneUuid sampleIdentity sampleReadings (ownerPatch 2 upperOwner) stored =
        .ok (.caseFile row', event) ∧
      event.type = .caseOwnerChanged ∧ row'.ownerUserId = row.ownerUserId := by
  have h₁ : CaseRun oneUuid (fun _ _ _ => True) _ :=
    .create sampleIdentity sampleReadings sampleInput none rfl rfl
  have h₂ := h₁.update sampleIdentity sampleReadings (ownerPatch 1 lowerOwner)
    (fun _ _ => trivial) rfl
  have h₃ := h₂.update sampleIdentity sampleReadings (ownerPatch 2 upperOwner)
    (fun _ _ => trivial) rfl
  have h₄ := h₃.update sampleIdentity sampleReadings (statusPatch 3 "TRIAGE")
    (fun _ _ => trivial) rfl
  refine ⟨⟨_, h₄, fun hchain => ?_⟩, _, _, _, _, h₂, rfl, rfl, rfl, rfl⟩
  have hlink := (List.isChain_iff_getElem.1 hchain) 2 (by decide)
  exact absurd (hlink _ _ rfl rfl).ownerUserId (by decide)

end Operational

end Cerbero
