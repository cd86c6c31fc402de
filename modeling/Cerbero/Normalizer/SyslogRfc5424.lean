import Cerbero.Lib.ByteIndex
import Cerbero.Normalizer.Journald

/-!
# Normalizer/SyslogRfc5424 — the parser of RFC 5424 lines

`SyslogRfc5424Parser` with every slice it takes: a slice within a character or past the end is a
panic (`Panicking`).  The RFC 3339 parser of the `time` crate and the texts the standard library
puts into messages are parameters (`Rfc5424Library`).
-/

namespace Cerbero

namespace Normalizer

open Text Panicking

def syslogRfc5424ParserVersion : String := "1"

/-- `SYSLOG_LIMITS`, of the two syslog parsers. -/
def syslogLimits : ParserLimits where
  maxInputBytes := 65536
  maxDepth := 8
  maxFields := 128
  maxStringBytes := 65536
  maxCollectionLength := 128

/-- What the parser takes from libraries: `OffsetDateTime::parse` with `Rfc3339` and the text of its
error, `{:?}` of a text, and the text of the error of `from_utf8`. -/
structure Rfc5424Library where
  parseRfc3339 : List Char → Except String Unit
  debugText : List Char → String
  utf8Error : List UInt8 → String

/-- A part that may be missing. -/
def require {α : Type} (part : Option α) (message : String) : Panicking ParseError α :=
  attempt (part.elim (.error (malformed message)) .ok)

/-! ## The header -/

/-- `parse_pri_prefix` with its slices. -/
def slicedPriPrefix (text : List Char) : Panicking ParseError (ℕ × List Char) := do
  let rest ← require (stripPrefix ['<'] text) "syslog PRI must start with '<'"
  let stop ← require (findChar '>' rest) "syslog PRI is missing '>'"
  let (priText, _) ← orPanic (splitAtByte stop rest)
  if priText = [] ∨ 3 < (encode priText).length ∨ priText.all Char.isDigit = false then
    attempt (.error (malformed "syslog PRI must contain 1-3 decimal digits"))
  else
    let pri ← require (parseUnsigned (UInt16.size - 1) priText) "syslog PRI is not a valid integer"
    if 191 < pri then
      attempt (.error (malformed "syslog PRI must be between 0 and 191"))
    else
      let (_, rest) ← orPanic (splitAtByte (stop + 1) rest)
      return (pri, rest)

/-- `take_token`. -/
def takeToken (input : List Char) (name : String) : Except ParseError (List Char × List Char) := do
  let (token, rest) ← (splitOnce [' '] input).elim
    (.error (malformed ("RFC5424 " ++ name ++ " is missing"))) .ok
  if token = [] then .error (malformed ("RFC5424 " ++ name ++ " is empty"))
  else return (token, rest)

/-! ## Structured data -/

/-- The state of the loop over the bytes of one element. -/
structure ElementScan where
  index : ℕ
  inQuotes : Bool
  escaped : Bool
  closed : Bool
  deriving DecidableEq, Repr

/-- The inner loop of `split_structured_data`, over the bytes from `index` on. -/
def scanElement : List UInt8 → ElementScan → ElementScan
  | [], scan => scan
  | byte :: rest, scan =>
    if scan.inQuotes then
      if scan.escaped then scanElement rest ⟨scan.index + 1, true, false, scan.closed⟩
      else if byte = 0x5c then scanElement rest ⟨scan.index + 1, true, true, scan.closed⟩
      else if byte = 0x22 then scanElement rest ⟨scan.index + 1, false, false, scan.closed⟩
      else scanElement rest ⟨scan.index + 1, true, false, scan.closed⟩
    else if byte = 0x22 then scanElement rest ⟨scan.index + 1, true, scan.escaped, scan.closed⟩
    else if byte = 0x5d then ⟨scan.index + 1, false, scan.escaped, true⟩
    else scanElement rest ⟨scan.index + 1, false, scan.escaped, scan.closed⟩

theorem le_index_scanElement (input : List UInt8) (scan : ElementScan) :
    scan.index ≤ (scanElement input scan).index := by
  induction input generalizing scan with
  | nil => exact le_rfl
  | cons byte rest ih =>
    rw [scanElement]
    split_ifs
    all_goals first | exact Nat.le_succ _ | exact (Nat.le_succ _).trans (ih ⟨_, _, _, _⟩)

/-- The outer loop of `split_structured_data`: the index after the last element. -/
def scanElements (input : List UInt8) (index : ℕ) : Except ParseError ℕ :=
  if hopen : input[index]? = some 0x5b then
    let scan := scanElement (input.drop (index + 1)) ⟨index + 1, false, false, false⟩
    if !scan.closed || scan.inQuotes || scan.escaped then
      .error (malformed "RFC5424 STRUCTURED-DATA is not balanced")
    else scanElements input scan.index
  else .ok index
termination_by input.length - index
decreasing_by
  have hlt := (List.getElem?_eq_some_iff.1 hopen).1
  have hle := le_index_scanElement (input.drop (index + 1)) ⟨index + 1, false, false, false⟩
  dsimp only at hle
  omega

/-- **`split_structured_data`**: the structured data and the message. -/
def splitStructuredData (input : List Char) : Panicking ParseError (List Char × List Char) :=
  match stripPrefix ['-'] input with
  | some rest =>
    if rest = [] then return (['-'], [])
    else match stripPrefix [' '] rest with
      | some message => return (['-'], message)
      | none => attempt (.error
          (malformed "RFC5424 NILVALUE structured data must be followed by a space"))
  | none =>
    if input.head? ≠ some '[' then
      attempt (.error (malformed "RFC5424 STRUCTURED-DATA must be '-' or start with '['"))
    else do
      let index ← attempt (scanElements (encode input) 0)
      let (structuredData, rest) ← orPanic (splitAtByte index input)
      if rest = [] then return (structuredData, [])
      else match stripPrefix [' '] rest with
        | some message => return (structuredData, message)
        | none => attempt (.error (malformed "RFC5424 STRUCTURED-DATA must be followed by a space"))

/-! ## The event -/

/-- `SyslogFieldSet`: the parts of a syslog line, of which most may be missing. -/
structure SyslogFieldSet where
  pri : ℕ
  version : Option ℕ
  timestamp : ParsedValue
  hostname : ParsedValue
  appName : ParsedValue
  procid : ParsedValue
  msgid : ParsedValue
  structuredData : ParsedValue
  message : List Char

/-- `syslog_fields`: the parts as the fields of an event, with null for what is missing. -/
def syslogFields (fields : SyslogFieldSet) : ParsedValue :=
  .ofEntries [
    ("pri", .number (toString fields.pri)),
    ("facility", .number (toString (fields.pri / 8))),
    ("severity", .number (toString (fields.pri % 8))),
    ("version", fields.version.elim .null fun value => .number (toString value)),
    ("timestamp", fields.timestamp),
    ("hostname", fields.hostname),
    ("app_name", fields.appName),
    ("procid", fields.procid),
    ("msgid", fields.msgid),
    ("structured_data", fields.structuredData),
    ("message", .string (String.ofList fields.message))]

/-- `token_value`. -/
def tokenValue (value : List Char) : ParsedValue :=
  if value = ['-'] then .null else .string (String.ofList value)

/-- What a time says about when the event happened. -/
def rfc5424Time (library : Rfc5424Library) (timestamp : List Char) :
    Except ParseError (List TimestampCandidate × List String × ParsingStatus) :=
  if timestamp = ['-'] then
    .ok ([], ["RFC5424 TIMESTAMP is NILVALUE; event_time candidate unavailable"], .partially)
  else match library.parseRfc3339 timestamp with
    | .error error => .error (invalidTimestamp
        ("invalid RFC5424 TIMESTAMP " ++ library.debugText timestamp ++ ": " ++ error))
    | .ok () => .ok ([⟨String.ofList timestamp, "timestamp", none, "rfc3339", "high"⟩], [], .success)

/-- **`parse_rfc5424`**: the header token by token, the structured data and the message. -/
def parseRfc5424 (library : Rfc5424Library) (text : List Char) :
    Panicking ParseError ParsedEvent := do
  let (pri, rest) ← slicedPriPrefix text
  let (versionText, rest) ← attempt (takeToken rest "VERSION")
  let version ← require (parseUnsigned (UInt16.size - 1) versionText)
    "RFC5424 VERSION must be an unsigned integer"
  if version ≠ 1 then
    attempt (.error (permanent "CER-PARSE-UNSUPPORTED-VERSION"
      ("unsupported RFC5424 VERSION " ++ toString version)))
  else
    let (timestamp, rest) ← attempt (takeToken rest "TIMESTAMP")
    let (hostname, rest) ← attempt (takeToken rest "HOSTNAME")
    let (appName, rest) ← attempt (takeToken rest "APP-NAME")
    let (procid, rest) ← attempt (takeToken rest "PROCID")
    let (msgid, rest) ← attempt (takeToken rest "MSGID")
    let (structuredData, message) ← splitStructuredData rest
    let (timestampCandidates, warnings, status) ← attempt (rfc5424Time library timestamp)
    return {
      parserId := syslogRfc5424ParserId
      parserVersion := syslogRfc5424ParserVersion
      sourceEventType := "syslog.rfc5424"
      fields := syslogFields {
        pri := pri
        version := some version
        timestamp := tokenValue timestamp
        hostname := tokenValue hostname
        appName := tokenValue appName
        procid := tokenValue procid
        msgid := tokenValue msgid
        structuredData :=
          if structuredData = ['-'] then .null else .string (String.ofList structuredData)
        message := message }
      timestampCandidates := timestampCandidates
      warnings := warnings
      status := status
      selection := none }

/-- `SyslogRfc5424Parser::parse`: the limits, UTF-8, and the line without the bytes that end it. -/
def parseSyslogRfc5424 (library : Rfc5424Library) (input : ParserInput) :
    Panicking ParseError ParsedEvent := do
  attempt (ensureInputLimit input.raw syslogLimits)
  match fromUtf8 input.raw with
  | none => attempt (.error (malformed
      ("RFC5424 input must be UTF-8: " ++ library.utf8Error input.raw)))
  | some text => parseRfc5424 library (trimLineEnd text.toList)

/-- `SyslogRfc5424Parser`. -/
def syslogRfc5424Parser (library : Rfc5424Library) : Parser where
  toParserProbe := syslogRfc5424
  parse input := (parseSyslogRfc5424 library input).run

end Normalizer

end Cerbero
