import Cerbero.Operational.Mutations

/-!
# Operational/Service — the mutations as transactions

One row of the service is an object together with its audit events: that is what a mutation locks
and writes.  A call checks its request, runs its transaction and reads the object back.
-/

namespace Cerbero

namespace Operational

open Text

/-! ## Rows -/

/-- A stored object. -/
inductive Record
  | incident (row : IncidentRow)
  | caseFile (row : CaseRow)

/-- An object, if there is one, and its audit events in the order they were written. -/
structure Stored where
  record : Option Record
  audit : List AuditEvent

/-- The tables objects are in. -/
inductive ObjectKind
  | incident
  | caseFile
  deriving DecidableEq, Repr

/-- The primary key of an object. -/
structure ObjectKey where
  kind : ObjectKind
  id : String
  deriving DecidableEq, Repr

/-- What `SELECT ... FOR UPDATE` finds of an incident. -/
def Stored.incident? (stored : Stored) (tenantId : String) : Option IncidentRow :=
  match stored.record with
  | some (.incident row) => if row.tenantId = tenantId then some row else none
  | _ => none

/-- What `SELECT ... FOR UPDATE` finds of a case. -/
def Stored.case? (stored : Stored) (tenantId : String) : Option CaseRow :=
  match stored.record with
  | some (.caseFile row) => if row.tenantId = tenantId then some row else none
  | _ => none

/-! ## Creating a case -/

/-- `caseCreate`: what a client sends to open a case. -/
structure CaseCreate where
  title : String
  description : String
  priority : String
  ownerUserId : Option String
  incidentId : Option String
  deriving DecidableEq, Repr

/-- What the statements of `createCase` find of the incident a case comes from. -/
structure IncidentLinks where
  findingIds : List String
  entityIds : List String

/-- A checked request for a case. -/
structure NewCase where
  title : String
  description : String
  priority : CasePriority
  owner : String
  incidentId : Option String
  givenIncidentId : Option String

/-- `"CASE-"` and the first twelve digits of the identifier in upper case. -/
def caseNumber (caseId : String) : String :=
  "CASE-" ++ String.ofList (((caseId.toList.filter (· ≠ '-')).take 12).map Char.toUpper)

/-- The row `createCase` inserts. -/
def newCaseColumns (identity : Identity) (readings : Readings) (new : NewCase)
    (links : Option IncidentLinks) (owner : Option String) : CaseColumns where
  caseId := identity.objectId
  tenantId := identity.tenantId
  caseNumber := caseNumber identity.objectId
  status := .opened
  priority := new.priority
  title := new.title
  description := new.description
  ownerUserId := owner
  createdBy := identity.actorId
  createdAt := readings.databaseNow
  updatedAt := readings.databaseNow
  closedAt := none
  disposition := .undetermined
  closureReason := none
  version := 1
  incidentIds := new.incidentId.toList
  findingIds := (links.map IncidentLinks.findingIds).getD []
  entityIds := (links.map IncidentLinks.entityIds).getD []

/-- The state `createCase` records. -/
def caseCreated (identity : Identity) (new : NewCase) : CaseCreated where
  caseId := identity.objectId
  caseNumber := caseNumber identity.objectId
  status := .opened
  priority := new.priority
  title := new.title
  incidentId := new.givenIncidentId
  createdBy := identity.actorId
  expectedVersion := 1

/-! ## Transactions -/

/-- The transactions of the service. -/
inductive Call
  | updateIncident (identity : Identity) (readings : Readings) (patch : IncidentPatch)
  | updateCase (identity : Identity) (readings : Readings) (patch : CasePatch)
  | createCase (identity : Identity) (readings : Readings) (new : NewCase)
      (links : Option IncidentLinks)

def Call.key : Call → ObjectKey
  | updateIncident identity _ _ => ⟨.incident, identity.objectId⟩
  | updateCase identity _ _ => ⟨.caseFile, identity.objectId⟩
  | createCase identity _ _ _ => ⟨.caseFile, identity.objectId⟩

section

variable (lib : Uuids)

/-- The row and the audit event of `updateIncident`. -/
def mutateIncident (identity : Identity) (readings : Readings) (patch : IncidentPatch)
    (stored : Stored) : Mutation (Record × AuditEvent) := do
  let row ← (stored.incident? identity.tenantId).elim (.error .notFound) .ok
  let after ← changeIncident lib row.view patch
  let row' ← updateIncidentRow lib readings.databaseNow row after
  return (.incident row', insertAudit identity readings (incidentAuditType row.view after)
    "incident" patch.reason (some (.incident row.view)) (some (.incident after)))

/-- The row and the audit event of `updateCase`. -/
def mutateCase (identity : Identity) (readings : Readings) (patch : CasePatch)
    (stored : Stored) : Mutation (Record × AuditEvent) := do
  let row ← (stored.case? identity.tenantId).elim (.error .notFound) .ok
  let after ← changeCase lib readings.now row.view patch
  let row' ← updateCaseRow lib readings.databaseNow row after
  return (.caseFile row', insertAudit identity readings (caseAuditType row.view after) "case"
    (caseAuditReason patch row.view after) (some (.caseFile row.view)) (some (.caseFile after)))

/-- The row and the audit event of `createCase`. -/
def insertCase (identity : Identity) (readings : Readings) (new : NewCase)
    (links : Option IncidentLinks) (stored : Stored) : Mutation (Record × AuditEvent) := do
  if new.incidentId.isSome ∧ links.isNone then .error .notFound
  let owner ← storeOwner lib new.owner
  if stored.record.isSome then .error (.database "cases_pkey")
  match h : (newCaseColumns identity readings new links owner).violation with
  | some check => .error (.database check)
  | none => return (.caseFile ⟨newCaseColumns identity readings new links owner, h⟩,
      insertAudit identity readings .caseCreated "case" "" none
        (some (.created (caseCreated identity new))))

/-- The row and the audit event of a transaction. -/
def mutate : Call → Stored → Mutation (Record × AuditEvent)
  | .updateIncident identity readings patch => mutateIncident lib identity readings patch
  | .updateCase identity readings patch => mutateCase lib identity readings patch
  | .createCase identity readings new links => insertCase lib identity readings new links

/-- **The body of a transaction**: commit the row with its audit event, or roll back. -/
def transact (call : Call) (stored : Stored) : Decision Stored (Mutation Unit) :=
  match mutate lib call stored with
  | .ok (record, event) => .commit ⟨some record, stored.audit ++ [event]⟩ (.ok ())
  | .error e => .rollback (.error e)

/-- The service: it has no other operations. -/
@[reducible] def service : Service ObjectKey Stored Unit where
  Call := Call
  Result := Mutation Unit
  key := Call.key
  body := transact lib
  effects := ⟨Empty, Empty.elim⟩
  EffectOutcome o := o.elim

/-! ## Calls -/

/-- A request to the service. -/
inductive Request
  | updateIncident (identity : Identity) (readings : Readings) (patch : IncidentPatch)
  | updateCase (identity : Identity) (readings : Readings) (patch : CasePatch)
  | createCase (identity : Identity) (readings : Readings) (input : CaseCreate)
      (links : Option IncidentLinks)

/-- The checks of `createCase` before its transaction. -/
def checkNewCase (input : CaseCreate) : Mutation NewCase := do
  if isBlank input.title then .error (.invalid "title is required")
  let priority ← (casePriorityOf input.priority).elim
    (.error (.invalid "unsupported case priority")) .ok
  let owner := input.ownerUserId.getD ""
  if validOwner lib owner = false then
    .error (.invalid "owner_user_id must be UUIDv7 or empty")
  match input.incidentId with
  | none => return ⟨input.title, input.description, priority, owner, none, none⟩
  | some given =>
    match (lib.parse given).filter fun value => lib.version value == 7 with
    | none => .error (.invalid "incident_id must be UUIDv7")
    | some incidentId =>
      return ⟨input.title, input.description, priority, owner, some incidentId, some given⟩

/-- The checks of a request before its transaction. -/
def checkRequest : Request → Mutation Call
  | .updateIncident identity readings patch =>
    if patch.expectedVersion < 1 then .error (.invalid "expected_version must be >= 1")
    else .ok (.updateIncident identity readings patch)
  | .updateCase identity readings patch =>
    if patch.expectedVersion < 1 then .error (.invalid "expected_version must be >= 1")
    else .ok (.updateCase identity readings patch)
  | .createCase identity readings input links => do
    return .createCase identity readings (← checkNewCase lib input) links

/-- The tenant of a transaction. -/
def Call.tenantId : Call → String
  | updateIncident identity _ _ => identity.tenantId
  | updateCase identity _ _ => identity.tenantId
  | createCase identity _ _ _ => identity.tenantId

/-- `getIncident` and `getCase` on the row they find. -/
def viewOf (call : Call) (stored : Stored) : Mutation AuditState :=
  match call.key.kind with
  | .incident => (stored.incident? call.tenantId).elim (.error .notFound)
      fun row => .ok (.incident row.view)
  | .caseFile => (stored.case? call.tenantId).elim (.error .notFound)
      fun row => .ok (.caseFile row.view)

/-- Read the object back. -/
def readBack (call : Call) : Prog (service lib).interface (Mutation AuditState) := do
  match ← @Prog.call (service lib).interface (.read call.key) with
  | none => return .error (.database "read back")
  | some stored => return viewOf call stored

/-- **A call of the service.** -/
def handle (request : Request) : Prog (service lib).interface (Mutation AuditState) :=
  match checkRequest lib request with
  | .error e => return .error e
  | .ok call => do
    match ← @Prog.call (service lib).interface (.transact call) with
    | none => return .error (.database "transaction")
    | some (.error e) => return .error e
    | some (.ok ()) => readBack lib call

end

end Operational

end Cerbero
