import Cerbero.Ingest.Export
import Cerbero.Lib.Message
import Cerbero.Normalizer.ParserFormats

/-!
# Normalizer/Journald — the parser of canonical journal entries

`JournaldCanonicalParser` and the limits it shares with the parser of any JSON.  `serde_json` is a
parameter (`fromSlice`): the value of a document, or that there is none.  What `serde_json` and
`base64` say of bytes they refuse stands at the end of two messages of the source and is left out
of them here.
-/

namespace Cerbero

namespace Normalizer

open Text

/-! ## Limits -/

/-- `ParserLimits`: what a parser refuses to look at. -/
structure ParserLimits where
  maxInputBytes : ℕ
  maxDepth : ℕ
  maxFields : ℕ
  maxStringBytes : ℕ
  maxCollectionLength : ℕ
  deriving DecidableEq, Repr

/-- `JSON_LIMITS`, of every parser that reads JSON. -/
def jsonLimits : ParserLimits where
  maxInputBytes := 1048576
  maxDepth := 64
  maxFields := 8192
  maxStringBytes := 262144
  maxCollectionLength := 4096

/-- `limit_exceeded`. -/
def limitExceeded (message : String) : ParseError := permanent "CER-PARSE-LIMIT-EXCEEDED" message

/-- `invalid_timestamp`. -/
def invalidTimestamp (message : String) : ParseError :=
  permanent "CER-PARSE-INVALID-TIMESTAMP" message

/-- `ensure_input_limit`. -/
def ensureInputLimit (raw : List UInt8) (limits : ParserLimits) : Except ParseError Unit :=
  if limits.maxInputBytes < raw.length then
    .error (limitExceeded ("parser input exceeds " ++ toString limits.maxInputBytes ++ " bytes"))
  else .ok ()

/-- `usize::saturating_add`. -/
def saturatingAdd (a b : ℕ) : ℕ := min (a + b) (UInt64.size - 1)

theorem saturatingAdd_eq {a b : ℕ} (h : a + b < UInt64.size) : saturatingAdd a b = a + b :=
  Nat.min_eq_left (Nat.le_sub_one_of_lt h)

section

variable (limits : ParserLimits)

/-- A value that is not nested too deep. -/
def checkDepth (depth count : ℕ) : Except ParseError ℕ :=
  if limits.maxDepth < depth then
    .error (limitExceeded ("JSON nesting depth exceeds " ++ toString limits.maxDepth))
  else .ok count

mutual

/-- `visit`, with the fields counted so far. -/
def visit (depth : ℕ) : Json → ℕ → Except ParseError ℕ
  | .null, count => checkDepth limits depth count
  | .bool _, count => checkDepth limits depth count
  | .number text, count => do
    let count ← checkDepth limits depth count
    if limits.maxStringBytes < (bytes text).length then
      .error (limitExceeded "JSON number representation is too large")
    else .ok count
  | .string text, count => do
    let count ← checkDepth limits depth count
    if limits.maxStringBytes < (bytes text).length then
      .error (limitExceeded ("JSON string exceeds " ++ toString limits.maxStringBytes ++ " bytes"))
    else .ok count
  | .array values, count => do
    let count ← checkDepth limits depth count
    if limits.maxCollectionLength < values.length then
      .error (limitExceeded ("JSON array exceeds " ++ toString limits.maxCollectionLength ++
        " elements"))
    else visitValues (depth + 1) values count
  | .object members, count => do
    let count ← checkDepth limits depth count
    if limits.maxCollectionLength < members.length then
      .error (limitExceeded ("JSON object exceeds " ++ toString limits.maxCollectionLength ++
        " fields"))
    else if limits.maxFields < saturatingAdd count members.length then
      .error (limitExceeded ("JSON field count exceeds " ++ toString limits.maxFields))
    else visitMembers (depth + 1) members (saturatingAdd count members.length)

def visitValues (depth : ℕ) : List Json → ℕ → Except ParseError ℕ
  | [], count => .ok count
  | value :: values, count => do visitValues depth values (← visit depth value count)

def visitMembers (depth : ℕ) : List (String × Json) → ℕ → Except ParseError ℕ
  | [], count => .ok count
  | member :: members, count => do visitMembers depth members (← visitMember depth member count)

def visitMember (depth : ℕ) : String × Json → ℕ → Except ParseError ℕ
  | (key, value), count =>
    if limits.maxStringBytes < (bytes key).length then
      .error (limitExceeded "JSON object key is too large")
    else visit depth value count

end

/-- `validate_json_tree`. -/
def validateJsonTree (value : Json) : Except ParseError Unit := do
  let _ ← visit limits 0 value 0
  .ok ()

end

/-! ## Parts of a document -/

/-- `Value::as_object`. -/
def asObject : Json → Option (List (String × Json))
  | .object members => some members
  | _ => none

/-- `Value::as_array`. -/
def asArray : Json → Option (List Json)
  | .array values => some values
  | _ => none

/-- `Value::as_str`. -/
def asString : Json → Option String
  | .string text => some text
  | _ => none

/-- `Value::as_u64`. -/
def asU64 : Json → Option ℕ
  | .number text => parseUnsigned (UInt64.size - 1) text.toList
  | _ => none

/-- `ensure_journald_keys`. -/
def ensureJournaldKeys (members : List (String × Json)) (allowed : List String) :
    Except ParseError Unit :=
  (members.find? fun member => member.1 ∉ allowed).elim (.ok ()) fun member =>
    .error (malformed ("unexpected journald canonical member " ++ debug member.1))

/-- `required_json_string`. -/
def requiredJsonString (members : List (String × Json)) (field : String) :
    Except ParseError String :=
  ((SortedMap.find field members).bind asString).elim
    (.error (malformed ("journald field " ++ field ++ " must be a string"))) .ok

/-- `valid_journal_field_name`. -/
def validJournalFieldName (value : String) : Bool :=
  value ≠ "" && (bytes value).length ≤ 64 &&
    (bytes value).all fun b => b == 0x5f || (0x41 ≤ b && b ≤ 0x5a) || isAsciiDigit b

/-- `base64::engine::general_purpose::STANDARD`. -/
def standardDecode (text : String) : Option (List UInt8) :=
  Base64.decodePadded Journald.stdEncoding '=' text.toList

/-- The value of a field in its encoding. -/
def decodeJournaldValue (limits : ParserLimits) (encoding rawValue : String) :
    Except ParseError ParsedValue :=
  if encoding = "utf8" then .ok (.string rawValue)
  else if encoding = "base64" then
    match standardDecode rawValue with
    | none => .error (malformed "invalid journald base64 value")
    | some decoded =>
      if limits.maxStringBytes < decoded.length then
        .error (limitExceeded ("decoded journald field exceeds " ++
          toString limits.maxStringBytes ++ " bytes"))
      else .ok (.bytes decoded)
  else .error (malformed
    ("journald field encoding must be utf8 or base64, got " ++ debug encoding))

/-- A field that holds a time. -/
def isJournaldTimestamp (name encoding : String) : Bool :=
  (name == "__REALTIME_TIMESTAMP" || name == "_SOURCE_REALTIME_TIMESTAMP") && encoding == "utf8"

/-- The text of an epoch in microseconds. -/
def isEpochText (text : String) : Bool := text ≠ "" && (bytes text).all isAsciiDigit

/-- The candidate of a field that holds a time. -/
def journaldTimestamp (name encoding rawValue : String) :
    Except ParseError (Option TimestampCandidate) :=
  if isJournaldTimestamp name encoding then
    if isEpochText rawValue then
      .ok (some {
        value := rawValue
        sourceField := name
        timezoneAssumption := none
        precision := "microsecond"
        confidence := "high" })
    else .error (invalidTimestamp ("journald " ++ name ++ " must be Unix epoch microseconds"))
  else .ok none

/-- `parse_journald_field`: an object with a name, an encoding and a value, decoded, and a time
candidate if the name is one of a time. -/
def parseJournaldField (limits : ParserLimits) (field : Json) :
    Except ParseError (ParsedValue × Option TimestampCandidate) := do
  let object ← (asObject field).elim
    (.error (malformed "each journald field must be an object")) .ok
  ensureJournaldKeys object ["name", "encoding", "value"]
  let name ← requiredJsonString object "name"
  if validJournalFieldName name = false then
    .error (malformed ("invalid journald field name " ++ debug name))
  let encoding ← requiredJsonString object "encoding"
  let rawValue ← requiredJsonString object "value"
  let parsedValue ← decodeJournaldValue limits encoding rawValue
  let candidate ← journaldTimestamp name encoding rawValue
  return (.ofEntries [("name", .string name), ("encoding", .string encoding),
    ("value", parsedValue)], candidate)

/-- The value of `cursor`. -/
def parseJournaldCursor : Option Json → Except ParseError ParsedValue
  | none => .ok .null
  | some .null => .ok .null
  | some (.string value) => .ok (.string value)
  | some _ => .error (malformed "journald cursor must be a string or null")

/-! ## The parser -/

/-- The members of a document. -/
def journaldMembers : List String := ["cerbero_journald_version", "cursor", "fields"]

/-- **`JournaldCanonicalParser::parse`.** -/
def parseJournald (fromSlice : List UInt8 → Option Json) (input : ParserInput) :
    Except ParseError ParsedEvent := do
  ensureInputLimit input.raw jsonLimits
  let value ← (fromSlice input.raw).elim
    (.error (malformed "invalid journald canonical JSON")) .ok
  validateJsonTree jsonLimits value
  let root ← (asObject value).elim
    (.error (malformed "journald canonical representation must be a JSON object")) .ok
  ensureJournaldKeys root journaldMembers
  let version ← ((SortedMap.find "cerbero_journald_version" root).bind asU64).elim
    (.error (malformed "cerbero_journald_version must be an unsigned integer")) .ok
  if version ≠ 1 then
    .error (permanent "CER-PARSE-UNSUPPORTED-VERSION"
      ("unsupported journald canonical version " ++ toString version))
  let cursor ← parseJournaldCursor (SortedMap.find "cursor" root)
  let fields ← ((SortedMap.find "fields" root).bind asArray).elim
    (.error (malformed "journald canonical fields must be an array")) .ok
  let parsed ← fields.mapM (parseJournaldField jsonLimits)
  return {
    parserId := journaldCanonicalParserId
    parserVersion := "1"
    sourceEventType := "journald.entry"
    fields := .ofEntries [("cursor", cursor), ("journal_fields", .array (parsed.map Prod.fst))]
    timestampCandidates := parsed.filterMap Prod.snd
    warnings := []
    status := .success
    selection := none }

/-- `JournaldCanonicalParser`. -/
def journaldCanonicalParser (fromSlice : List UInt8 → Option Json) : Parser :=
  ⟨journaldCanonical, fun input => some (parseJournald fromSlice input)⟩

/-- A decoder that reads documents by the standard, each object in the order of its keys. -/
def readDocument (raw : List UInt8) : Option Json := do
  let text ← fromUtf8 raw
  let value ← Json.read text.toList
  return value.canonicalize

end Normalizer

end Cerbero
