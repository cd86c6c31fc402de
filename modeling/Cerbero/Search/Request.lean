import Cerbero.Search.Cursor
import Cerbero.Search.Time

/-!
# Search/Request — from a request to a prepared search

`searchRequestFromQuery`, `prepareSearch` and `searchFingerprint`.  A Go string is a list of bytes,
valid or not; SHA-256 and `uuid.Parse` are parameters.
-/

namespace Cerbero

namespace Search

open Text

/-! ## Requests -/

/-- `searchSort`. -/
structure SearchSort where
  field : GoString
  direction : GoString
  deriving DecidableEq, Repr

/-- `searchRequest`: the parameters of a search as the client has sent them. -/
structure SearchRequest where
  query : GoString
  fromText : GoString
  toText : GoString
  cursor : GoString
  limit : ℤ
  sort : List SearchSort
  deriving DecidableEq, Repr

/-- `preparedSearch`, with times as seconds and nanoseconds. -/
structure PreparedSearch where
  request : SearchRequest
  expression : Option QueryExpression
  fromTime : ℤ × ℤ
  toTime : ℤ × ℤ
  direction : Direction
  fingerprint : String
  cursor : Option SearchCursor
  deriving DecidableEq, Repr

def defaultSearchLimit : ℤ := 50

def maxSearchLimit : ℤ := 200

/-- `maxSearchRange`, in nanoseconds. -/
def maxSearchRange : ℤ := 24 * 3600 * 1000000000

/-- Nanoseconds since the epoch. -/
def unixNanos (time : ℤ × ℤ) : ℤ := time.1 * 1000000000 + time.2

/-! ## Fingerprints -/

/-- `json.Marshal` of the bytes of a string: what is not UTF-8 becomes the replacement character. -/
def marshalBytes : ℕ → GoString → GoString
  | _, [] => []
  | skip + 1, _ :: rest => marshalBytes skip rest
  | 0, b :: rest =>
    if b < 0x80 then
      bytes (String.ofList (Json.escapeAlso Json.htmlSpecial (Char.ofNat b.toNat))) ++
        marshalBytes 0 rest
    else match multibyteRune (b :: rest) with
      | some [0xe2, 0x80, 0xa8] => bytes "\\u2028" ++ marshalBytes 2 rest
      | some [0xe2, 0x80, 0xa9] => bytes "\\u2029" ++ marshalBytes 2 rest
      | some rune => rune ++ marshalBytes (rune.length - 1) rest
      | none => bytes "\\ufffd" ++ marshalBytes 0 rest

/-- A Go string as a JSON string. -/
def marshalString (value : GoString) : GoString := 0x22 :: (marshalBytes 0 value ++ [0x22])

/-- The sort of a request. -/
def marshalSort (sort : SearchSort) : GoString :=
  bytes "\x7b\"field\":" ++ marshalString sort.field ++ bytes ",\"direction\":" ++
    marshalString sort.direction ++ bytes "\x7d"

/-- What a fingerprint is taken of. -/
def canonicalRequest (input : SearchRequest) : GoString :=
  bytes "\x7b\"query\":" ++ marshalString (trimSpace input.query) ++
    bytes ",\"time_range\":\x7b\"from\":" ++ marshalString input.fromText ++ bytes ",\"to\":" ++
    marshalString input.toText ++ bytes "\x7d,\"sort\":[" ++
    (bytes ",").intercalate (input.sort.map marshalSort) ++ bytes "]\x7d"

/-- `hex.EncodeToString`. -/
def hexEncode (value : GoString) : String :=
  String.ofList (value.flatMap fun b =>
    [Json.lowerHexDigit (b.toNat / 16), Json.lowerHexDigit (b.toNat % 16)])

section

-- SHA-256, and the version of a text that `uuid.Parse` takes
variable (sha256 : GoString → GoString) (uuidVersion : GoString → Option ℕ)

/-- `searchFingerprint`. -/
def searchFingerprint (input : SearchRequest) : String :=
  hexEncode (sha256 (canonicalRequest input))

/-! ## Preparation -/

/-- The time range of a request. -/
def prepareRange (input : SearchRequest) : Except String ((ℤ × ℤ) × (ℤ × ℤ)) := do
  if trimSpace input.fromText = [] ∨ trimSpace input.toText = [] then
    .error "time_range.from and time_range.to are required"
  let fromTime ← (parseRfc3339Nano input.fromText).elim
    (.error "time_range.from must be RFC3339") .ok
  let toTime ← (parseRfc3339Nano input.toText).elim (.error "time_range.to must be RFC3339") .ok
  if unixNanos toTime ≤ unixNanos fromTime then
    .error "time_range.from must be before time_range.to"
  if maxSearchRange < unixNanos toTime - unixNanos fromTime then
    .error "time range exceeds the 24h MVP search policy"
  return (fromTime, toTime)

/-- The limit of a request. -/
def prepareLimit (limit : ℤ) : Except String ℤ :=
  let limit := if limit = 0 then defaultSearchLimit else limit
  if limit < 1 ∨ maxSearchLimit < limit then .error "limit must be 1..200" else .ok limit

/-- The direction a text stands for. -/
def directionOf (text : GoString) : Option Direction :=
  if text.map toAsciiLowercase = bytes "asc" then some .asc
  else if text.map toAsciiLowercase = bytes "desc" then some .desc
  else none

/-- The one sort of a request. -/
def prepareSort (sort : List SearchSort) : Except String Direction :=
  match if sort = [] then [⟨bytes "event_time", bytes "desc"⟩] else sort with
  | [only] =>
    if only.field ≠ bytes "event_time" then
      .error "Step 32 v1 supports sorting only by event_time"
    else (directionOf only.direction).elim (.error "sort direction must be asc or desc") .ok
  | _ => .error "Step 32 v1 supports sorting only by event_time"

/-- The cursor of a request, which has to be one of the same search. -/
def prepareCursor (raw : GoString) (fingerprint : String) (direction : Direction) :
    Except String (Option SearchCursor) :=
  if raw = [] then .ok none
  else match decodeSearchCursor uuidVersion raw with
    | .error _ => .error "invalid cursor"
    | .ok cursor =>
      if cursor.fingerprint ≠ fingerprint ∨ cursor.direction ≠ direction.text then
        .error "cursor does not belong to this query"
      else .ok (some cursor)

/-- **`prepareSearch`**: the range, the limit, the order, the query and the cursor are checked in
this turn; the query is compiled to find out whether it does, and the cursor has to belong to it. -/
def prepareSearch (input : SearchRequest) : Except String PreparedSearch := do
  let (fromTime, toTime) ← prepareRange input
  let limit ← prepareLimit input.limit
  let direction ← prepareSort input.sort
  let input := { input with
    limit := limit
    sort := [⟨bytes "event_time", bytes direction.text⟩] }
  let expression ← parseQuery (trimSpace input.query)
  let _ ← compileExpression uuidVersion expression
  let fingerprint := searchFingerprint sha256 input
  let cursor ← prepareCursor uuidVersion input.cursor fingerprint direction
  return ⟨input, expression, fromTime, toTime, direction, fingerprint, cursor⟩

end

/-! ## `GET /api/v1/events` -/

/-- The parameters of `GET /api/v1/events`, empty if they are not given. -/
structure EventsQuery where
  query : GoString := []
  fromText : GoString := []
  toText : GoString := []
  limit : GoString := []
  sort : GoString := []
  cursor : GoString := []
  deriving DecidableEq, Repr

/-- `strconv.Atoi`. -/
def atoi (text : GoString) : Option ℤ :=
  let negative := text.head? = some 0x2d
  let digits := if negative ∨ text.head? = some 0x2b then text.tail else text
  let value : ℤ := digits.foldl (fun n b => n * 10 + ((b.toNat : ℤ) - 0x30)) 0
  let value := if negative then -value else value
  if digits ≠ [] ∧ digits.all isAsciiDigit ∧ -2 ^ 63 ≤ value ∧ value ≤ 2 ^ 63 - 1 then some value
  else none

/-- The time range of the parameters: by default the last 15 minutes. -/
def rangeFromQuery (now : Instant) (values : EventsQuery) : Except String (GoString × GoString) :=
  if values.fromText = [] ∧ values.toText = [] then
    .ok (formatRfc3339Nano (now.addSeconds (-900)), formatRfc3339Nano now)
  else if values.fromText = [] ∨ values.toText = [] then
    .error "from and to must be provided together"
  else .ok (values.fromText, values.toText)

/-- The limit of the parameters. -/
def limitFromQuery (values : EventsQuery) : Except String ℤ :=
  if values.limit = [] then .ok defaultSearchLimit
  else (atoi values.limit).elim (.error "limit must be an integer") .ok

/-- **`searchRequestFromQuery`**, at an instant. -/
def searchRequestFromQuery (now : Instant) (values : EventsQuery) :
    Except String SearchRequest := do
  let (fromText, toText) ← rangeFromQuery now values
  let limit ← limitFromQuery values
  let direction := if values.sort = [] then bytes "desc" else values.sort
  return ⟨values.query, fromText, toText, values.cursor, limit, [⟨bytes "event_time", direction⟩]⟩

end Search

end Cerbero
