import Cerbero.Lib.Calendar
import Cerbero.Normalizer.Parser

/-!
# Normalizer/SourceTime — the time of an event

`crates/cerbero-normalizer/src/source_time.rs`: the time the source gave, or the year-less time of
an RFC 3164 header read under the policy of its source.  The local time of ingestion is taken to be
one the `time` crate can represent.
-/

namespace Cerbero

namespace Normalizer

open Text Calendar

def syslogRfc3164ParserId : String := "cerbero.parser.syslog.rfc3164"

/-- `SourceTimePolicy`: a fixed offset in seconds, and its text. -/
structure SourceTimePolicy where
  offset : ℤ
  offsetText : String
  deriving DecidableEq, Repr

/-- `SourceTimePolicy::canonical`. -/
def SourceTimePolicy.canonical (policy : SourceTimePolicy) : String :=
  "fixed_utc_offset=" ++ policy.offsetText ++ ";rfc3164_year=nearest_ingest_year"

/-- `SourceTimePolicyRegistry`, by source. -/
abbrev SourceTimePolicyRegistry := SortedMap String SourceTimePolicy

/-- `EventTimeContext`. -/
structure EventTimeContext where
  eventTime : Option Timestamp
  source : String
  assumption : Option String
  deriving DecidableEq, Repr

/-- `EventTimeContext::unresolved`. -/
def unresolved : EventTimeContext := ⟨none, "ingest_time_fallback", none⟩

/-- `EventTimeContext::from_persisted`. -/
def fromPersisted (persisted : RawEventPersisted) : EventTimeContext :=
  match persisted.eventTime with
  | some eventTime => ⟨some eventTime, "event_time", none⟩
  | none => unresolved

/-- An outcome with the text of a `SourceTimeError`. -/
abbrev SourceTime := Except String

/-! ## Year-less times -/

/-- The months as RFC 3164 writes them. -/
def monthNames : List String :=
  ["Jan", "Feb", "Mar", "Apr", "May", "Jun", "Jul", "Aug", "Sep", "Oct", "Nov", "Dec"]

/-- `parse_component_bytes`. -/
def parseComponentBytes (value : List UInt8) (name : String) : SourceTime ℕ :=
  match fromUtf8 value >>= fun text => parseUnsigned (UInt8.size - 1) (trim text.toList) with
  | some n => .ok n
  | none => .error ("invalid RFC3164 " ++ name)

/-- A month, a day and a time of day. -/
structure YearlessTime where
  month : ℕ
  day : ℕ
  hour : ℕ
  minute : ℕ
  second : ℕ
  deriving DecidableEq, Repr

/-- `parse_rfc3164_components`: the parts of a time without a year. -/
def parseRfc3164Components (value : String) : SourceTime YearlessTime := do
  let value := bytes value
  if value.length ≠ 15 then .error "RFC3164 candidate must match 'Mmm dd HH:MM:SS'"
  let month ← match monthNames.findIdx? fun name => bytes name == value.take 3 with
    | some index => .ok (index + 1)
    | none => .error "invalid RFC3164 month"
  let day ← parseComponentBytes ((value.drop 4).take 2) "day"
  let hour ← parseComponentBytes ((value.drop 7).take 2) "hour"
  let minute ← parseComponentBytes ((value.drop 10).take 2) "minute"
  let second ← parseComponentBytes ((value.drop 13).take 2) "second"
  return ⟨month, day, hour, minute, second⟩

def minUnixTimestamp : ℤ := -377705116800

def maxUnixTimestamp : ℤ := 253402300799

/-- The instant of a year-less time in a year: none if the date is not in the calendar, an error if
the time of day is not one. -/
def instantIn (year : ℤ) (time : YearlessTime) (policy : SourceTimePolicy) :
    SourceTime (Option ℤ) :=
  if year < -9999 ∨ 9999 < year ∨ isCivilDate year time.month time.day = false then .ok none
  else if 23 < time.hour ∨ 59 < time.minute ∨ 59 < time.second then
    .error "invalid RFC3164 time: component out of range"
  else .ok (some (dayNumber year time.month time.day * 86400 + time.hour * 3600 +
    time.minute * 60 + time.second - policy.offset))

/-- The loop of `resolve_rfc3164_nearest_year`: the nearest instant so far. -/
def nearestYear (ingest : ℤ) (time : YearlessTime) (policy : SourceTimePolicy) :
    List ℤ → Option ℤ → SourceTime (Option ℤ)
  | [], best => .ok best
  | year :: years, best => do
    match ← instantIn year time policy with
    | none => nearestYear ingest time policy years best
    | some instant =>
      if best.all fun current => (instant - ingest).natAbs < (current - ingest).natAbs then
        nearestYear ingest time policy years (some instant)
      else nearestYear ingest time policy years best

/-- `resolve_rfc3164_nearest_year`: of the years before, of and after the ingest the one whose time
is nearest to it. -/
def resolveRfc3164NearestYear (value : String) (ingest : Timestamp) (policy : SourceTimePolicy) :
    SourceTime Timestamp := do
  let time ← parseRfc3164Components value
  if ingest.seconds < minUnixTimestamp ∨ maxUnixTimestamp < ingest.seconds then
    .error "invalid ingest_time: timestamp out of range"
  let baseYear := (civilDate ((ingest.seconds + policy.offset) / 86400)).1
  match ← nearestYear ingest.seconds time policy [baseYear - 1, baseYear, baseYear + 1] none with
  | some instant => return ⟨instant, 0⟩
  | none => .error "RFC3164 timestamp cannot be resolved under the source time policy"

/-- `SourceTimePolicyRegistry::resolve`: the event's own time if it has one; else, for a line of RFC
3164, the time of its candidate under the policy of its source; else none. -/
def resolve (policies : SourceTimePolicyRegistry) (persisted : RawEventPersisted)
    (parsed : ParsedEvent) : SourceTime EventTimeContext :=
  if persisted.eventTime.isSome then .ok (fromPersisted persisted)
  else if parsed.parserId ≠ syslogRfc3164ParserId then .ok unresolved
  else match policies.get? persisted.sourceId, parsed.timestampCandidates.find? fun candidate =>
      candidate.precision == "second_without_year_or_timezone", persisted.ingestTime with
    | some policy, some candidate, some ingestTime => do
      let eventTime ← resolveRfc3164NearestYear candidate.value ingestTime policy
      return ⟨some eventTime, "source_time_policy",
        some (policy.canonical ++ ";candidate=" ++ candidate.sourceField)⟩
    | _, _, _ => .ok unresolved

end Normalizer

end Cerbero
