import Cerbero.Search.Request

/-!
# Search/Store — one page of a search

`clickHouseSearchStore.search` with `queryRows` and `eventViewFromRow`.  What ClickHouse answers a
statement, `json.Unmarshal` of a row and `json.Valid` are parameters; why a row could not be read is
left out of its error.
-/

namespace Cerbero

namespace Search

open Text

/-! ## Rows and views -/

/-- `clickHouseEventRow`: a row as ClickHouse prints it. -/
structure EventRow where
  normalizedEventId : String
  rawEventId : String
  tenantId : String
  eventTimePresent : UInt8
  eventTimeSeconds : Int64
  eventTimeNanos : Int32
  ingestTimeSeconds : Int64
  ingestTimeNanos : Int32
  ocsfVersion : String
  classUid : UInt32
  categoryUid : UInt32
  activityId : Option UInt32
  severity : Option UInt32
  parserId : String
  parserVersion : String
  mappingId : String
  mappingVersion : String
  normalizedHash : String
  executionMode : Int32
  ocsfEventJson : String
  deriving DecidableEq

/-- `eventView`: an event as the API shows it. -/
structure EventView where
  normalizedEventId : String
  rawEventId : String
  tenantId : String
  eventTime : GoString
  ingestTime : GoString
  ocsfVersion : String
  classUid : UInt32
  categoryUid : UInt32
  activityId : Option UInt32
  severityId : Option UInt32
  parserId : String
  parserVersion : String
  mappingId : String
  mappingVersion : String
  normalizedHash : String
  executionMode : Int32
  ocsfEvent : String
  deriving DecidableEq

/-- `searchPage`. -/
structure SearchPage where
  items : List EventView
  nextCursor : GoString
  truncated : Bool
  deriving DecidableEq

/-- `time.Unix`. -/
def instantOfUnix (seconds nanos : ℤ) : Instant where
  seconds := seconds + nanos / 1000000000
  nanos := (nanos % 1000000000).toNat
  nanos_lt := by omega

section

-- the version of a text that `uuid.Parse` takes, and `json.Valid`
variable (uuidVersion : GoString → Option ℕ) (jsonValid : String → Bool)

/-- `eventViewFromRow`: the row's identifier and its JSON are checked before the event is shown. -/
def eventViewFromRow (row : EventRow) : Except String EventView :=
  if uuidVersion (bytes row.normalizedEventId) ≠ some 7 then
    .error "stored normalized_event_id is not UUIDv7"
  else if jsonValid row.ocsfEventJson = false then .error "stored OCSF event is not valid JSON"
  else .ok
    { row with
      eventTime := if row.eventTimePresent = 1 then
          formatRfc3339Nano (instantOfUnix row.eventTimeSeconds.toInt row.eventTimeNanos.toInt)
        else []
      ingestTime :=
        formatRfc3339Nano (instantOfUnix row.ingestTimeSeconds.toInt row.ingestTimeNanos.toInt)
      severityId := row.severity
      ocsfEvent := row.ocsfEventJson }

/-- The views of rows. -/
def eventViews : List EventRow → Except String (List EventView)
  | [] => .ok []
  | row :: rows => do
    let item ← eventViewFromRow uuidVersion jsonValid row
    let items ← eventViews rows
    return item :: items

end

/-! ## Reading rows -/

/-- The largest response that is read. -/
def maxResponse : ℕ := 8 * 2 ^ 20

/-- The size a line has to stay below. -/
def maxLine : ℕ := 2 * 2 ^ 20

/-- A line without the carriage return at its end. -/
def dropCarriageReturn (line : GoString) : GoString :=
  if line.getLast? = some 0x0d then line.dropLast else line

/-- The texts between line breaks; after the last one only a text that is not empty. -/
def scanLines : GoString → List GoString
  | [] => []
  | b :: rest =>
    if b = 0x0a then [] :: scanLines rest
    else match scanLines rest with
      | [] => [[b]]
      | line :: lines => (b :: line) :: lines

section

-- `json.Unmarshal` into a row, and what ClickHouse answers a statement and its parameters
variable (unmarshalRow : GoString → Option EventRow)
  (answer : String → Values → Except String GoString)

/-- The loop over the lines of a response. -/
def readRows : List GoString → Except String (List EventRow)
  | [] => .ok []
  | line :: lines =>
    if maxLine ≤ line.length then .error "read ClickHouse event rows: token too long"
    else match unmarshalRow (dropCarriageReturn line) with
      | none => .error "decode ClickHouse event row"
      | some row => (readRows lines).map (row :: ·)

/-- `queryRows`. -/
def queryRows (statement : String) (parameters : Values) : Except String (List EventRow) := do
  let body ← answer statement parameters
  readRows unmarshalRow (scanLines (body.take maxResponse))

end

/-! ## A page -/

/-- What a store is made of. -/
structure Store where
  database : String
  uuidVersion : GoString → Option ℕ
  jsonValid : String → Bool
  unmarshalRow : GoString → Option EventRow
  answer : String → Values → Except String GoString

/-- The cursor after a row. -/
def cursorOf (prepared : PreparedSearch) (row : EventRow) : SearchCursor where
  seconds := row.eventTimeSeconds.toInt
  nanos := row.eventTimeNanos.toInt
  eventId := row.normalizedEventId
  direction := prepared.direction.text
  fingerprint := prepared.fingerprint

/-- **`clickHouseSearchStore.search`**: one event more than the limit is asked for, which says
whether there is another page. -/
def Store.search (store : Store) (tenantId : GoString) (prepared : PreparedSearch) :
    Except String SearchPage := do
  let (condition, values) ← compileExpression store.uuidVersion prepared.expression
  let parameters := searchParameters values tenantId prepared.fromTime prepared.toTime
    (prepared.cursor.map fun cursor => (cursor.seconds, cursor.nanos, bytes cursor.eventId))
  let limit := prepared.request.limit.toNat
  let statement := searchStatement store.database condition prepared.cursor.isSome
    prepared.direction limit
  let rows ← queryRows store.unmarshalRow store.answer statement parameters
  let truncated := decide (limit < rows.length)
  let rows := rows.take limit
  let items ← eventViews store.uuidVersion store.jsonValid rows
  let next := if truncated then
      (rows.getLast?.map fun last => encodeSearchCursor (cursorOf prepared last)).getD []
    else []
  return ⟨items, next, truncated⟩

/-- `listEvents`, at an instant. -/
def listEvents (sha256 : GoString → GoString) (store : Store) (tenantId : GoString)
    (now : Instant) (values : EventsQuery) : Except String SearchPage := do
  let input ← searchRequestFromQuery now values
  let prepared ← prepareSearch sha256 store.uuidVersion input
  store.search tenantId prepared

end Search

end Cerbero
