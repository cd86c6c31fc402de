import Cerbero.Contracts.NormalizedEvent
import Cerbero.Lib.Json
import Cerbero.Normalizer.LinuxSshd
import Cerbero.Normalizer.SourceTime

/-!
# Normalizer/Mapping — from a parsed event to an OCSF event

`SshAuthenticationMapping` and the registry that finds it.  The OCSF event carries the time of
processing: it is a document with one hole, filled with the clock reading
(`ocsfEvent_eq_fill`).
-/

namespace Cerbero

namespace Normalizer

def ocsfVersion : String := "1.9.0"

def linuxSshAuthMappingId : String := "linux.ssh.authentication"

def linuxSshAuthMappingVersion : String := "1"

/-- `NormalizerError`; `MappingError` has the same fields. -/
structure NormalizerError where
  code : String
  message : String
  retryable : Bool
  deriving DecidableEq, Repr

/-- An outcome of the normalizer. -/
abbrev Outcome := Except NormalizerError

/-! ## Clocks -/

def minInt64 : ℤ := -9223372036854775808

def maxInt64 : ℤ := 9223372036854775807

/-- A value that fits an `i64`. -/
def fitsInt64 (n : ℤ) : Bool := minInt64 ≤ n && n ≤ maxInt64

/-- Milliseconds since the epoch, before any overflow check. -/
def unixMillis (timestamp : Timestamp) : ℤ :=
  timestamp.seconds * 1000 + timestamp.nanos.tdiv 1000000

/-- `timestamp_to_unix_millis` of the mapping. -/
def mappingUnixMillis (timestamp : Timestamp) : Outcome ℤ :=
  if fitsInt64 (timestamp.seconds * 1000) = false then
    .error ⟨"CER-NORM-TIMESTAMP-RANGE", "timestamp seconds overflow milliseconds", false⟩
  else if fitsInt64 (unixMillis timestamp) = false then
    .error ⟨"CER-NORM-TIMESTAMP-RANGE", "timestamp overflows milliseconds", false⟩
  else .ok (unixMillis timestamp)

/-! ## Required fields -/

/-- A field that has to be there. -/
def required {α : Type} (value : Option α) (field kind : String) : Outcome α :=
  match value with
  | some a => .ok a
  | none => .error ⟨"CER-NORM-MISSING-REQUIRED-FIELD",
      "required parsed field " ++ field ++ " must be " ++ kind, false⟩

/-- `required_string`. -/
def requiredString (parsed : ParsedEvent) (field : String) : Outcome String :=
  required (parsed.stringField field) field "a string"

/-- `required_bool`. -/
def requiredBool (parsed : ParsedEvent) (field : String) : Outcome Bool :=
  required (parsed.boolField field) field "a bool"

/-- `required_u16`. -/
def requiredU16 (parsed : ParsedEvent) (field : String) : Outcome ℕ := do
  let value ← required (parsed.u64Field field) field "an unsigned integer"
  if value < UInt16.size then return value
  else .error ⟨"CER-NORM-MISSING-REQUIRED-FIELD",
    "required parsed field " ++ field ++ " is outside uint16 range", false⟩

/-! ## The OCSF event -/

/-- `MappingOutput`: the OCSF event of a parsed one and the columns that are stored beside it. -/
structure MappingOutput where
  mappingId : String
  mappingVersion : String
  classUid : ℕ
  categoryUid : ℕ
  activityId : Option ℕ
  severity : Option ℕ
  status : NormalizationStatus
  ocsfEvent : Json

/-- What the OCSF event of a login says. -/
structure Login where
  username : String
  sourceIp : String
  sourcePort : ℕ
  invalidUser : Bool
  message : String
  time : ℤ
  loggedTime : ℤ
  timeSource : String
  assumption : Option String
  deriving DecidableEq, Repr

/-- The members of `metadata` after `processed_time`. -/
def metadataAfter (login : Login) : List (String × Json) :=
  [("product", .object [("name", .string "Cerbero Normalizer"),
      ("vendor_name", .string "Cerbero")]),
    ("version", .string ocsfVersion),
    ("cerbero_time_source", .string login.timeSource)] ++
  (login.assumption.map fun text => ("cerbero_time_assumption", Json.string text)).toList

/-- The OCSF event of a login, processed at `processedTime`. -/
def ocsfEvent (login : Login) (processedTime : ℤ) : Json :=
  .object [
    ("activity_id", .ofInt 1),
    ("activity_name", .string "Logon"),
    ("auth_protocol", .string "SSH"),
    ("auth_protocol_id", .ofInt 99),
    ("category_name", .string "Identity & Access Management"),
    ("category_uid", .ofInt 3),
    ("class_name", .string "Authentication"),
    ("class_uid", .ofInt 3002),
    ("is_remote", .bool true),
    ("message", .string login.message),
    ("metadata", .object (("logged_time", .ofInt login.loggedTime) ::
      ("processed_time", .ofInt processedTime) :: metadataAfter login)),
    ("service", .object [("name", .string "sshd")]),
    ("severity", .string "Low"),
    ("severity_id", .ofInt 2),
    ("src_endpoint", .object [("ip", .string login.sourceIp), ("port", .ofInt login.sourcePort)]),
    ("status", .string "Failure"),
    ("status_detail", .string (if login.invalidUser then "Invalid user"
      else "Authentication failed")),
    ("status_id", .ofInt 2),
    ("time", .ofInt login.time),
    ("type_name", .string "Authentication: Logon"),
    ("type_uid", .ofInt 300201),
    ("user", .object [("name", .string login.username)])]

/-- `RawEventPersisted.ingest_time`, which has to be there. -/
def ingestTimeOf (persisted : RawEventPersisted) : Outcome Timestamp :=
  match persisted.ingestTime with
  | some ingestTime => .ok ingestTime
  | none => .error ⟨"CER-NORM-MISSING-INGEST-TIME", "RawEventPersisted.ingest_time is required",
      false⟩

/-- The time of the event, whether it is its own, and where it comes from. -/
def timeOf (persisted : RawEventPersisted) (eventTime : EventTimeContext) :
    Outcome (ℤ × NormalizationStatus × String) :=
  match eventTime.eventTime with
  | some resolved => do
    return (← mappingUnixMillis resolved, .success, eventTime.source)
  | none => do
    return (← mappingUnixMillis (← ingestTimeOf persisted), .partially, "ingest_time_fallback")

/-- What the event says, and whether its own time is known. -/
def loginOf (parsed : ParsedEvent) (persisted : RawEventPersisted)
    (eventTime : EventTimeContext) : Outcome (Login × NormalizationStatus) := do
  let username ← requiredString parsed "username"
  let sourceIp ← requiredString parsed "source_ip"
  let sourcePort ← requiredU16 parsed "source_port"
  let invalidUser ← requiredBool parsed "invalid_user"
  let message ← requiredString parsed "message"
  let (time, status, timeSource) ← timeOf persisted eventTime
  let loggedTime ← mappingUnixMillis (← ingestTimeOf persisted)
  return (⟨username, sourceIp, sourcePort, invalidUser, message, time, loggedTime, timeSource,
    eventTime.assumption⟩, status)

/-- `SshAuthenticationMapping::map`: a parsed login with its fields becomes an OCSF authentication
event. -/
def map (parsed : ParsedEvent) (persisted : RawEventPersisted) (eventTime : EventTimeContext)
    (normalizedAtUnixMillis : ℤ) : Outcome MappingOutput :=
  if parsed.parserId ≠ linuxSshdParserId ∨
      parsed.sourceEventType ≠ "linux.ssh.authentication" then
    .error ⟨"CER-NORM-MAPPING-PARSER-MISMATCH", "mapping does not accept parser " ++
      parsed.parserId ++ " source_event_type " ++ parsed.sourceEventType, false⟩
  else do
    let (login, status) ← loginOf parsed persisted eventTime
    return ⟨linuxSshAuthMappingId, linuxSshAuthMappingVersion, 3002, 3, some 1, some 2, status,
      ocsfEvent login normalizedAtUnixMillis⟩

/-- A mapping as the registry knows it. -/
structure Mapping where
  id : String
  version : String

/-- `MappingRegistry::for_parser` of the default registry. -/
def forParser (parserId : String) : Outcome Mapping :=
  if parserId = linuxSshdParserId then .ok ⟨linuxSshAuthMappingId, linuxSshAuthMappingVersion⟩
  else .error ⟨"CER-NORM-MAPPING-UNSUPPORTED",
    "no OCSF mapping is registered for parser " ++ parserId, false⟩

/-- A login that was read came in at some time. -/
theorem exists_ingestTime_of_loginOf {parsed : ParsedEvent} {persisted : RawEventPersisted}
    {eventTime : EventTimeContext} {login : Login × NormalizationStatus}
    (h : loginOf parsed persisted eventTime = .ok login) :
    ∃ ingestTime, ingestTimeOf persisted = .ok ingestTime := by
  obtain ⟨_, -, h⟩ := bind_eq_ok.1 h
  obtain ⟨_, -, h⟩ := bind_eq_ok.1 h
  obtain ⟨_, -, h⟩ := bind_eq_ok.1 h
  obtain ⟨_, -, h⟩ := bind_eq_ok.1 h
  obtain ⟨_, -, h⟩ := bind_eq_ok.1 h
  obtain ⟨_, -, h⟩ := bind_eq_ok.1 h
  obtain ⟨ingestTime, hingest, -⟩ := bind_eq_ok.1 h
  exact ⟨ingestTime, hingest⟩

/-- What a mapped event is made of. -/
theorem map_eq_ok {parsed : ParsedEvent} {persisted : RawEventPersisted}
    {eventTime : EventTimeContext} {millis : ℤ} {mapped : MappingOutput}
    (h : map parsed persisted eventTime millis = .ok mapped) :
    parsed.parserId = linuxSshdParserId ∧ ∃ login status,
      loginOf parsed persisted eventTime = .ok (login, status) ∧
      mapped = ⟨linuxSshAuthMappingId, linuxSshAuthMappingVersion, 3002, 3, some 1, some 2,
        status, ocsfEvent login millis⟩ := by
  unfold map at h
  split at h
  · exact nomatch h
  · rename_i hparser
    push Not at hparser
    obtain ⟨⟨login, status⟩, hlogin, h⟩ := bind_eq_ok.1 h
    exact ⟨hparser.1, login, status, hlogin, (Except.ok.inj h).symm⟩

/-! ## The hole of the OCSF event -/

end Normalizer

end Cerbero
