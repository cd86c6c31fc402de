import Cerbero.Contracts.Basic
import Cerbero.Lib.Text

/-!
# Operational/Records — incidents, cases and their tables

The rows of `investigation.incidents` and `investigation.cases` with the checks of migration
`000007_operational_investigation.sql`, and the views `services/cerbero-api/operational.go` reads
from them.  A row that breaks a check cannot be stored, so a stored row carries the proof that it
breaks none.  Checks on columns no statement of the service writes are left out.
-/

namespace Cerbero

namespace Operational

open Text

/-! ## Enumerations -/

/-- The value with a given text. -/
def named {α : Type} (all : List α) (text : α → String) (value : String) : Option α :=
  all.find? fun a => text a == value

/-- The status of an incident. -/
inductive IncidentStatus
  | opened
  | triaged
  | investigating
  | contained
  | resolved
  | closed
  | invalidated
  deriving DecidableEq, Repr

def IncidentStatus.text : IncidentStatus → String
  | opened => "OPEN"
  | triaged => "TRIAGED"
  | investigating => "INVESTIGATING"
  | contained => "CONTAINED"
  | resolved => "RESOLVED"
  | closed => "CLOSED"
  | invalidated => "INVALIDATED"

/-- `validIncidentStatus`. -/
def incidentStatusOf : String → Option IncidentStatus :=
  named [.opened, .triaged, .investigating, .contained, .resolved, .closed, .invalidated]
    IncidentStatus.text

/-- `incidentTransitionAllowed`: the states an incident may move to from each state; an invalidated
one stays as it is. -/
def incidentTransitionAllowed : IncidentStatus → IncidentStatus → Bool
  | .opened, next => [IncidentStatus.triaged, .invalidated].contains next
  | .triaged, next => [IncidentStatus.investigating, .resolved, .invalidated].contains next
  | .investigating, next => [IncidentStatus.contained, .resolved, .invalidated].contains next
  | .contained, next => [IncidentStatus.resolved].contains next
  | .resolved, next => [IncidentStatus.closed, .investigating].contains next
  | .closed, next => [IncidentStatus.investigating].contains next
  | .invalidated, _ => false

/-- The status of a case. -/
inductive CaseStatus
  | opened
  | triage
  | investigating
  | onHold
  | response
  | resolved
  | closed
  deriving DecidableEq, Repr

def CaseStatus.text : CaseStatus → String
  | opened => "OPEN"
  | triage => "TRIAGE"
  | investigating => "INVESTIGATING"
  | onHold => "ON_HOLD"
  | response => "RESPONSE"
  | resolved => "RESOLVED"
  | closed => "CLOSED"

/-- `validCaseStatus`. -/
def caseStatusOf : String → Option CaseStatus :=
  named [.opened, .triage, .investigating, .onHold, .response, .resolved, .closed] CaseStatus.text

/-- `caseTransitionAllowed`: the states a case may move to from each state; a closed one can be
investigated again. -/
def caseTransitionAllowed : CaseStatus → CaseStatus → Bool
  | .opened, next => [CaseStatus.triage].contains next
  | .triage, next => [CaseStatus.investigating, .onHold, .resolved].contains next
  | .investigating, next => [CaseStatus.onHold, .response, .resolved].contains next
  | .onHold, next => [CaseStatus.triage, .investigating, .response].contains next
  | .response, next => [CaseStatus.onHold, .resolved].contains next
  | .resolved, next => [CaseStatus.closed, .investigating].contains next
  | .closed, next => [CaseStatus.investigating].contains next

inductive CasePriority
  | p1Critical
  | p2High
  | p3Medium
  | p4Low
  deriving DecidableEq, Repr

def CasePriority.text : CasePriority → String
  | p1Critical => "P1_CRITICAL"
  | p2High => "P2_HIGH"
  | p3Medium => "P3_MEDIUM"
  | p4Low => "P4_LOW"

/-- `validCasePriority`. -/
def casePriorityOf : String → Option CasePriority :=
  named [.p1Critical, .p2High, .p3Medium, .p4Low] CasePriority.text

inductive CaseDisposition
  | undetermined
  | confirmedIncident
  | benignActivity
  | falsePositive
  | duplicate
  | test
  | other
  deriving DecidableEq, Repr

def CaseDisposition.text : CaseDisposition → String
  | undetermined => "UNDETERMINED"
  | confirmedIncident => "CONFIRMED_INCIDENT"
  | benignActivity => "BENIGN_ACTIVITY"
  | falsePositive => "FALSE_POSITIVE"
  | duplicate => "DUPLICATE"
  | test => "TEST"
  | other => "OTHER"

/-- `validCaseDisposition`. -/
def caseDispositionOf : String → Option CaseDisposition :=
  named [.undetermined, .confirmedIncident, .benignActivity, .falsePositive, .duplicate, .test,
    .other] CaseDisposition.text

/-! ## Views -/

/-- `incidentView`: an incident as the API shows it. -/
structure IncidentView where
  incidentId : String
  tenantId : String
  status : IncidentStatus
  severity : String
  confidence : String
  title : String
  description : String
  firstSeen : Timestamp
  lastSeen : Timestamp
  createdAt : Timestamp
  updatedAt : Timestamp
  correlationReason : String
  correlationRuleId : String
  correlationRuleVersion : String
  windowStart : Option Timestamp
  windowEnd : Option Timestamp
  ownerUserId : String
  disposition : String
  version : ℤ
  findingIds : List String
  deriving DecidableEq, Repr

/-- `caseView`: a case as the API shows it. -/
structure CaseView where
  caseId : String
  tenantId : String
  caseNumber : String
  status : CaseStatus
  priority : CasePriority
  title : String
  description : String
  ownerUserId : String
  createdBy : String
  createdAt : Timestamp
  updatedAt : Timestamp
  closedAt : Option Timestamp
  disposition : CaseDisposition
  closureReason : String
  version : ℤ
  incidentIds : List String
  findingIds : List String
  entityIds : List String
  deriving DecidableEq, Repr

/-! ## Rows -/

/-- The largest value of a `bigint`. -/
def maxBigint : ℤ := 9223372036854775807

/-- The columns of `investigation.incidents`. -/
structure IncidentColumns where
  incidentId : String
  tenantId : String
  status : IncidentStatus
  severity : String
  confidence : Option String
  title : String
  description : String
  firstSeen : Timestamp
  lastSeen : Timestamp
  createdAt : Timestamp
  updatedAt : Timestamp
  correlationReason : Option String
  correlationRuleId : Option String
  correlationRuleVersion : Option String
  windowStart : Option Timestamp
  windowEnd : Option Timestamp
  ownerUserId : Option String
  disposition : Option String
  version : ℤ
  findingIds : List String
  deriving DecidableEq, Repr

/-- The check an incident breaks, if any. -/
def IncidentColumns.violation (columns : IncidentColumns) : Option String :=
  if columns.title = "" then some "incidents_title_check"
  else if columns.version < 1 ∨ maxBigint < columns.version then some "incidents_version_check"
  else none

/-- A stored incident. -/
structure IncidentRow extends IncidentColumns where
  checked : toIncidentColumns.violation = none

/-- `incidentSelect`. -/
def IncidentRow.view (row : IncidentRow) : IncidentView where
  incidentId := row.incidentId
  tenantId := row.tenantId
  status := row.status
  severity := row.severity
  confidence := row.confidence.getD ""
  title := row.title
  description := row.description
  firstSeen := row.firstSeen
  lastSeen := row.lastSeen
  createdAt := row.createdAt
  updatedAt := row.updatedAt
  correlationReason := row.correlationReason.getD ""
  correlationRuleId := row.correlationRuleId.getD ""
  correlationRuleVersion := row.correlationRuleVersion.getD ""
  windowStart := row.windowStart
  windowEnd := row.windowEnd
  ownerUserId := row.ownerUserId.getD ""
  disposition := row.disposition.getD ""
  version := row.version
  findingIds := row.findingIds

/-- The columns of `investigation.cases`, and the relations of a case. -/
structure CaseColumns where
  caseId : String
  tenantId : String
  caseNumber : String
  status : CaseStatus
  priority : CasePriority
  title : String
  description : String
  ownerUserId : Option String
  createdBy : String
  createdAt : Timestamp
  updatedAt : Timestamp
  closedAt : Option Timestamp
  disposition : CaseDisposition
  closureReason : Option String
  version : ℤ
  incidentIds : List String
  findingIds : List String
  entityIds : List String
  deriving DecidableEq, Repr

/-- `investigation_cases_closed_invariant`. -/
def CaseColumns.closedInvariant (columns : CaseColumns) : Prop :=
  columns.status ≠ .closed ∨ columns.disposition ≠ .undetermined ∧
    columns.closureReason.isSome ∧ columns.closureReason ≠ some "" ∧ columns.closedAt.isSome

instance (columns : CaseColumns) : Decidable columns.closedInvariant :=
  inferInstanceAs (Decidable (_ ∨ _))

/-- The check a case breaks, if any. -/
def CaseColumns.violation (columns : CaseColumns) : Option String :=
  if columns.title = "" then some "cases_title_check"
  else if columns.version < 1 ∨ maxBigint < columns.version then some "cases_version_check"
  else if ¬ columns.closedInvariant then some "investigation_cases_closed_invariant"
  else none

/-- A stored case. -/
structure CaseRow extends CaseColumns where
  checked : toCaseColumns.violation = none

/-- `caseSelect`. -/
def CaseRow.view (row : CaseRow) : CaseView where
  caseId := row.caseId
  tenantId := row.tenantId
  caseNumber := row.caseNumber
  status := row.status
  priority := row.priority
  title := row.title
  description := row.description
  ownerUserId := row.ownerUserId.getD ""
  createdBy := row.createdBy
  createdAt := row.createdAt
  updatedAt := row.updatedAt
  closedAt := row.closedAt
  disposition := row.disposition
  closureReason := row.closureReason.getD ""
  version := row.version
  incidentIds := row.incidentIds
  findingIds := row.findingIds
  entityIds := row.entityIds

theorem IncidentRow.version_pos (row : IncidentRow) :
    1 ≤ row.version ∧ row.version ≤ maxBigint := by
  have h := row.checked
  unfold IncidentColumns.violation at h
  split at h
  · exact nomatch h
  · split at h
    · exact nomatch h
    · rename_i hversion
      omega

theorem CaseRow.version_pos (row : CaseRow) : 1 ≤ row.version ∧ row.version ≤ maxBigint := by
  have h := row.checked
  unfold CaseColumns.violation at h
  split at h
  · exact nomatch h
  · split at h
    · exact nomatch h
    · rename_i hversion
      omega

/-! ## UUIDs -/

/-- What the service takes from its libraries about UUIDs, each value being the text PostgreSQL
prints for it: `uuid.Parse`, the cast of a text to `uuid`, and the version. -/
structure Uuids where
  parse : String → Option String
  cast : String → Option String
  version : String → ℕ
  parse_cast : ∀ {s u v}, parse s = some u → cast s = some v → u = v
  cast_cast : ∀ {s u}, cast s = some u → cast u = some u ∧ u ≠ ""

end Operational

end Cerbero
