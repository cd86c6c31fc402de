import Cerbero.Lib.KeysetGrowth
import Cerbero.Lib.UuidV7
import Cerbero.Operational.Mutations
import Cerbero.Search.Cursor
import Cerbero.Search.Request

/-!
# Api/Lists — the lists of the API

`apiServer.list`, `listIncidents`, `listCases` and `listAudit` of `services/cerbero-api` with their
statements.  A page ends with the cursor of its last row, the next page starts after it, and the nil
UUID stands for no cursor.  `uuid.Parse` and `payloadJSON` are parameters.
-/

namespace Cerbero

namespace Api

open Text Keyset Operational
open Search (GoString atoi rawUrlEncoding)

/-! ## Tables -/

/-- `uuid.UUID`, in the order in which PostgreSQL compares them. -/
abbrev Uuid := Uuid128

/-- A row of a table whose primary key is a UUID.  The services generate UUIDv7, or check for them,
so none is the nil UUID. -/
structure Row (α : Type) where
  id : Uuid
  tenantId : Uuid
  value : α
  id_ne_nil : id ≠ 0

/-- A table. -/
structure Table (α : Type) where
  rows : List (Row α)
  primaryKey : (rows.map Row.id).Nodup

/-- The rows of a tenant that are kept. -/
def Table.kept {α : Type} (table : Table α) (tenantId : Uuid) (keep : α → Bool) : List (Row α) :=
  table.rows.filter fun row => row.tenantId == tenantId && keep row.value

/-- The statement of a list: `WHERE tenant_id = ... AND (... = nil OR id > ...) ORDER BY id LIMIT`. -/
def Table.select {α : Type} (table : Table α) (tenantId : Uuid) (keep : α → Bool) (limit : ℕ)
    (after : Uuid) : List (Row α) :=
  (orderBy Row.id ((table.kept tenantId keep).filter fun row =>
    after == 0 || decide (after < row.id))).take limit

/-- The tables that are listed. -/
structure Store where
  signals : Table GoString
  findings : Table GoString
  incidents : Table IncidentView
  cases : Table CaseView
  audit : Table AuditEvent

/-- The kinds of analytical objects. -/
inductive AnalyticalKind
  | signals
  | findings
  deriving DecidableEq, Repr

/-- `tableFor`. -/
def Store.tableFor (store : Store) : AnalyticalKind → Table GoString
  | .signals => store.signals
  | .findings => store.findings

/-- The filter of `listAudit`. -/
def keepAudit (objectType objectId : String) (event : AuditEvent) : Bool :=
  (objectType == "" || event.objectType == objectType) &&
    (objectId == "" || event.objectId == objectId)

/-! ## Requests and pages -/

/-- `http.Error`. -/
structure HttpError where
  text : String
  status : ℕ
  deriving DecidableEq, Repr

/-- The lists. -/
inductive Listing
  | analytical (kind : AnalyticalKind)
  | incidents
  | cases
  | audit (objectType objectId : String)
  deriving DecidableEq, Repr

/-- An item of a page. -/
inductive Item
  | object (json : GoString)
  | incident (view : IncidentView)
  | caseFile (view : CaseView)
  | audit (event : AuditEvent)

/-- A page: its items with their identifiers, and `next_cursor`. -/
structure Page where
  items : List (Item × Uuid)
  nextCursor : GoString

/-- The limit of a request. -/
def limitOf (limit : GoString) : Except HttpError ℕ :=
  if limit = [] then .ok 50
  else match atoi limit with
    | some value =>
      if 1 ≤ value ∧ value ≤ 200 then .ok value.toNat else .error ⟨"limit must be 1..200", 400⟩
    | none => .error ⟨"limit must be 1..200", 400⟩

/-- The cursor of a row. -/
def encodeCursor (id : Uuid) : GoString :=
  Base64.encode rawUrlEncoding (bytes (canonicalText id))

/-- The end of a page, if there are more rows than asked for. -/
def cutPage {β : Type} (rows : List (β × Uuid)) (limit : ℕ) : List (β × Uuid) × GoString :=
  if limit < rows.length then
    (rows.take limit, ((rows.take limit).getLast?.map fun last => encodeCursor last.2).getD [])
  else (rows, [])

/-! ## Handlers -/

/-- What the API takes from its libraries: `uuid.Parse` and `payloadJSON`. -/
structure Server where
  uuidParse : GoString → Option Uuid
  payloadJson : AnalyticalKind → GoString → Option GoString

section

variable (server : Server)

/-- `decodeCursor`. -/
def Server.decodeCursor (raw : GoString) : Option Uuid :=
  if raw = [] then some 0
  else (Base64.decode rawUrlEncoding false
    (raw.filter fun b => b ≠ 0x0a ∧ b ≠ 0x0d)).bind server.uuidParse

/-- `operationalListParams`; `list` begins with the same checks. -/
def Server.listParams (limit cursor : GoString) : Except HttpError (ℕ × Uuid) := do
  let limit ← limitOf limit
  let after ← (server.decodeCursor cursor).elim (.error ⟨"invalid cursor", 400⟩) .ok
  return (limit, after)

/-- The end of `scanIncident` and `scanCase`: the identifier is read from its text. -/
def Server.scan {α : Type} (row : Row α) : Except HttpError (α × Uuid) :=
  (server.uuidParse (bytes (canonicalText row.id))).elim
    (.error ⟨"operational query failed", 500⟩) fun id => .ok (row.value, id)

/-- The item of a payload. -/
def Server.payloadItem (kind : AnalyticalKind) (row : GoString × Uuid) :
    Except HttpError (Item × Uuid) :=
  (server.payloadJson kind row.1).elim (.error ⟨"invalid stored object", 500⟩) fun json =>
    .ok (.object json, row.2)

/-- `apiServer.list` with `postgresStore.list`. -/
def Server.list (kind : AnalyticalKind) (store : Store) (tenantId : Uuid) (limit cursor : GoString) :
    Except HttpError Page := do
  let (limit, after) ← server.listParams limit cursor
  let rows := (store.tableFor kind).select tenantId (fun _ => true) (limit + 1) after
  let (rows, next) := cutPage (rows.map fun row => (row.value, row.id)) limit
  let items ← rows.mapM (server.payloadItem kind)
  return ⟨items, next⟩

/-- `writeOperationalPage`. -/
def writeOperationalPage {β : Type} (item : β → Item) (rows : List (β × Uuid)) (limit : ℕ) : Page :=
  let (rows, next) := cutPage rows limit
  ⟨rows.map fun row => (item row.1, row.2), next⟩

/-- `listIncidents`. -/
def Server.listIncidents (store : Store) (tenantId : Uuid) (limit cursor : GoString) :
    Except HttpError Page := do
  let (limit, after) ← server.listParams limit cursor
  let rows ← (store.incidents.select tenantId (fun _ => true) (limit + 1) after).mapM server.scan
  return writeOperationalPage .incident rows limit

/-- `listCases`. -/
def Server.listCases (store : Store) (tenantId : Uuid) (limit cursor : GoString) :
    Except HttpError Page := do
  let (limit, after) ← server.listParams limit cursor
  let rows ← (store.cases.select tenantId (fun _ => true) (limit + 1) after).mapM server.scan
  return writeOperationalPage .caseFile rows limit

/-- `listAudit`: the audit records of the tenant, of one type of object or of one object where the
client asks for it. -/
def Server.listAudit (objectType objectId : String) (store : Store) (tenantId : Uuid)
    (limit cursor : GoString) : Except HttpError Page := do
  let (limit, after) ← server.listParams limit cursor
  if objectId ≠ "" ∧ objectType = "" then .error ⟨"object_id requires object_type", 400⟩
  let rows := store.audit.select tenantId (keepAudit objectType objectId) (limit + 1) after
  return writeOperationalPage .audit (rows.map fun row => (row.value, row.id)) limit

/-- A page of a list. -/
def Server.page : Listing → Store → Uuid → GoString → GoString → Except HttpError Page
  | .analytical kind => server.list kind
  | .incidents => server.listIncidents
  | .cases => server.listCases
  | .audit objectType objectId => server.listAudit objectType objectId

/-- **Following `next_cursor`** from a cursor on, each request finding the tables as they are then:
the items with their identifiers, and whether a page had no next cursor. -/
def Server.follow (listing : Listing) (tenantId : Uuid) :
    GoString → List (Store × GoString) → Except HttpError (List (Item × Uuid) × Bool)
  | _, [] => .ok ([], false)
  | cursor, (store, limit) :: requests => do
    let page ← server.page listing store tenantId limit cursor
    if page.nextCursor = [] then return (page.items, true)
    else
      let (items, done) ← Server.follow listing tenantId page.nextCursor requests
      return (page.items ++ items, done)

end

end Api

end Cerbero
