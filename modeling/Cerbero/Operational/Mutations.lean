import Cerbero.Lib.RowLock
import Cerbero.Operational.Records

/-!
# Operational/Mutations — changes to incidents and cases

`updateIncident`, `updateCase` and `createCase` of `services/cerbero-api/operational.go`.  Each of
them is one transaction on the row of its object and on the audit log; a mutation checks the patch
against the view it read, writes the row and records the views before and after.
-/

namespace Cerbero

namespace Operational

open Text

/-! ## Errors -/

/-- What a mutation fails with: `errOperationalInvalid` with a reason, `errOperationalConflict`,
`pgx.ErrNoRows`, or an error of the database. -/
inductive OperationalError
  | invalid (reason : String)
  | conflict
  | notFound
  | database (reason : String)
  deriving DecidableEq, Repr

/-- An error that rejects the request. -/
def OperationalError.Rejects : OperationalError → Prop
  | invalid _ => True
  | conflict => True
  | notFound => True
  | database _ => False

/-- The outcome of a mutation. -/
abbrev Mutation := Except OperationalError

/-! ## Patches -/

/-- `incidentPatch`: the fields a client may change, each of them optional, and the version it has
seen. -/
structure IncidentPatch where
  expectedVersion : ℤ
  status : Option String
  title : Option String
  description : Option String
  ownerUserId : Option String
  disposition : Option String
  reason : String
  deriving DecidableEq, Repr

/-- `casePatch`: as of an incident, with what closing and reopening ask for. -/
structure CasePatch where
  expectedVersion : ℤ
  status : Option String
  priority : Option String
  title : Option String
  description : Option String
  ownerUserId : Option String
  disposition : Option String
  closureReason : Option String
  reason : String
  reopenReason : String
  deriving DecidableEq, Repr

/-- The value of a field that a patch may set to one of a list of names. -/
def nextNamed {σ : Type} (parse : String → Option σ) (unsupported : String) (before : σ) :
    Option String → Mutation σ
  | none => .ok before
  | some text => (parse text).elim (.error (.invalid unsupported)) .ok

/-- The status a patch asks for. -/
def nextStatus {σ : Type} [DecidableEq σ] (parse : String → Option σ) (allowed : σ → σ → Bool)
    (object : String) (before : σ) (patch : Option String) : Mutation σ := do
  let status ← nextNamed parse ("unsupported " ++ object ++ " status") before patch
  if status ≠ before ∧ allowed before status = false then
    .error (.invalid ("invalid " ++ object ++ " state transition"))
  else return status

/-- The title a patch asks for. -/
def nextTitle (before : String) : Option String → Mutation String
  | none => .ok before
  | some title => if isBlank title then .error (.invalid "title must not be empty") else .ok title

/-- `int64` addition of one. -/
def nextVersion (version : ℤ) : ℤ := (version + 1).bmod 18446744073709551616

theorem nextVersion_eq {version : ℤ} (h : 1 ≤ version ∧ version ≤ maxBigint)
    (h' : 1 ≤ nextVersion version) : nextVersion version = version + 1 := by
  unfold nextVersion maxBigint at *
  rw [Int.bmod_def] at h' ⊢
  split at h' <;> omega

section

variable (lib : Uuids)

/-- An owner that is a UUIDv7 or empty. -/
def validOwner (owner : String) : Bool :=
  owner == "" || (lib.parse owner).any fun value => lib.version value == 7

/-- The owner a patch asks for. -/
def nextOwner (before : String) : Option String → Mutation String
  | none => .ok before
  | some owner => if validOwner lib owner then .ok owner
      else .error (.invalid "owner_user_id must be UUIDv7 or empty")

/-! ## Incidents -/

/-- The part of `updateIncident` between reading and writing the row. -/
def changeIncident (before : IncidentView) (patch : IncidentPatch) : Mutation IncidentView := do
  if before.version ≠ patch.expectedVersion then .error .conflict
  let status ← nextStatus incidentStatusOf incidentTransitionAllowed "incident" before.status
    patch.status
  let title ← nextTitle before.title patch.title
  let owner ← nextOwner lib before.ownerUserId patch.ownerUserId
  return { before with
    status := status
    title := title
    description := patch.description.getD before.description
    ownerUserId := owner
    disposition := patch.disposition.getD before.disposition
    version := nextVersion before.version }

/-- `NULLIF($n, '')`. -/
def nullIf (value : String) : Option String := if value = "" then none else some value

/-- `NULLIF($n, '')::uuid`. -/
def storeOwner (owner : String) : Mutation (Option String) :=
  match nullIf owner with
  | none => .ok none
  | some owner => (lib.cast owner).elim
      (.error (.database "invalid input syntax for type uuid")) fun value => .ok (some value)

/-- The `UPDATE` of `updateIncident`. -/
def updateIncidentRow (databaseNow : Timestamp) (row : IncidentRow) (after : IncidentView) :
    Mutation IncidentRow := do
  let owner ← storeOwner lib after.ownerUserId
  let columns : IncidentColumns := { row.toIncidentColumns with
    status := after.status
    title := after.title
    description := after.description
    ownerUserId := owner
    disposition := nullIf after.disposition
    updatedAt := databaseNow
    version := after.version }
  match h : columns.violation with
  | none => return ⟨columns, h⟩
  | some check => .error (.database check)

/-! ## Cases -/

/-- The rules for closing a case. -/
def closeCase (now : Timestamp) (before after : CaseView) : Mutation CaseView :=
  if after.status = .closed ∧ before.status ≠ .closed then
    if after.disposition = .undetermined ∨ isBlank after.closureReason then
      .error (.invalid "closing a Case requires disposition and closure_reason")
    else .ok { after with closedAt := some now }
  else .ok after

/-- The rules for reopening a case. -/
def reopenCase (reopenReason : String) (before after : CaseView) : Mutation CaseView :=
  if before.status = .closed ∧ after.status = .investigating then
    if isBlank reopenReason then .error (.invalid "reopening a Case requires reopen_reason")
    else .ok { after with closedAt := none, disposition := .undetermined, closureReason := "" }
  else .ok after

/-- The case with the fields of a patch. -/
def patchCase (before : CaseView) (patch : CasePatch) : Mutation CaseView := do
  let status ← nextStatus caseStatusOf caseTransitionAllowed "case" before.status patch.status
  let priority ← nextNamed casePriorityOf "unsupported case priority" before.priority
    patch.priority
  let title ← nextTitle before.title patch.title
  let owner ← nextOwner lib before.ownerUserId patch.ownerUserId
  let disposition ← nextNamed caseDispositionOf "unsupported case disposition" before.disposition
    patch.disposition
  return { before with
    status := status
    priority := priority
    title := title
    description := patch.description.getD before.description
    ownerUserId := owner
    disposition := disposition
    closureReason := patch.closureReason.getD before.closureReason }

/-- The part of `updateCase` between reading and writing the row. -/
def changeCase (now : Timestamp) (before : CaseView) (patch : CasePatch) : Mutation CaseView := do
  if before.version ≠ patch.expectedVersion then .error .conflict
  let after ← patchCase lib before patch
  let after ← closeCase now before after
  let after ← reopenCase patch.reopenReason before after
  return { after with version := nextVersion before.version }

/-- A `timestamptz` has microseconds. -/
def toMicroseconds (time : Timestamp) : Timestamp := ⟨time.seconds, time.nanos / 1000 * 1000⟩

/-- The columns the `UPDATE` of `updateCase` asks for. -/
def caseColumns (databaseNow : Timestamp) (row : CaseRow) (after : CaseView)
    (owner : Option String) : CaseColumns :=
  { row.toCaseColumns with
    status := after.status
    priority := after.priority
    title := after.title
    description := after.description
    ownerUserId := owner
    disposition := after.disposition
    closureReason := nullIf after.closureReason
    closedAt := after.closedAt.map toMicroseconds
    updatedAt := databaseNow
    version := after.version }

/-- The `UPDATE` of `updateCase`. -/
def updateCaseRow (databaseNow : Timestamp) (row : CaseRow) (after : CaseView) :
    Mutation CaseRow := do
  let owner ← storeOwner lib after.ownerUserId
  match h : (caseColumns databaseNow row after owner).violation with
  | none => return ⟨caseColumns databaseNow row after owner, h⟩
  | some check => .error (.database check)

end

/-! ## Audit events -/

/-- The types of audit events; the columns `event_type` and `action` are two texts of the type. -/
inductive AuditType
  | incidentUpdated
  | incidentStatusChanged
  | caseCreated
  | caseUpdated
  | caseReopened
  | caseClosed
  | caseStatusChanged
  | caseOwnerChanged
  deriving DecidableEq, Repr

/-- What `createCase` records of the case it made. -/
structure CaseCreated where
  caseId : String
  caseNumber : String
  status : CaseStatus
  priority : CasePriority
  title : String
  incidentId : Option String
  createdBy : String
  expectedVersion : ℤ
  deriving DecidableEq, Repr

/-- A recorded state. -/
inductive AuditState
  | incident (view : IncidentView)
  | caseFile (view : CaseView)
  | created (state : CaseCreated)
  deriving DecidableEq, Repr

/-- The version in a recorded state. -/
def AuditState.version : AuditState → Option ℤ
  | incident view => some view.version
  | caseFile view => some view.version
  | created _ => none

/-- A row of `audit.events`. -/
structure AuditEvent where
  auditEventId : String
  tenantId : String
  type : AuditType
  actorId : String
  objectType : String
  objectId : String
  requestId : String
  reason : Option String
  before : Option AuditState
  after : Option AuditState
  deriving DecidableEq, Repr

/-- Whose request it is, and on which object. -/
structure Identity where
  tenantId : String
  objectId : String
  actorId : String
  requestId : String

/-- What a mutation reads from clocks and generators. -/
structure Readings where
  now : Timestamp
  databaseNow : Timestamp
  auditId : String

/-- `insertAuditTx`: the record of one change, with the state of the object before it and after it.
-/
def insertAudit (identity : Identity) (readings : Readings) (type : AuditType)
    (objectType reason : String) (before after : Option AuditState) : AuditEvent where
  auditEventId := readings.auditId
  tenantId := identity.tenantId
  type := type
  actorId := identity.actorId
  objectType := objectType
  objectId := identity.objectId
  requestId := identity.requestId
  reason := nullIf reason
  before := before
  after := after

/-- The type of the event of a changed incident. -/
def incidentAuditType (before after : IncidentView) : AuditType :=
  if after.status ≠ before.status then .incidentStatusChanged else .incidentUpdated

/-- The type of the event of a changed case. -/
def caseAuditType (before after : CaseView) : AuditType :=
  if before.status = .closed ∧ after.status = .investigating then .caseReopened
  else if before.status ≠ .closed ∧ after.status = .closed then .caseClosed
  else if before.status ≠ after.status then .caseStatusChanged
  else if before.ownerUserId ≠ after.ownerUserId then .caseOwnerChanged
  else .caseUpdated

/-- The reason of the event of a changed case. -/
def caseAuditReason (patch : CasePatch) (before after : CaseView) : String :=
  match caseAuditType before after with
  | .caseReopened => patch.reopenReason
  | .caseClosed => if patch.reason = "" then after.closureReason else patch.reason
  | _ => patch.reason

end Operational

end Cerbero
