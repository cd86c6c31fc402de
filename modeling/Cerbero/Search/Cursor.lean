import Cerbero.Lib.Base64
import Cerbero.Lib.JsonText
import Cerbero.Search.Compile

/-!
# Search/Cursor — opaque cursors

`encodeSearchCursor` and `decodeSearchCursor`: a JSON object in base64.  A cursor of an event with a
UUIDv7 is read back (**`decodeSearchCursor_encodeSearchCursor`**).
-/

namespace Cerbero

namespace Search

open Text Json

/-- `searchCursor`: the last event of a page, and the fingerprint of the query it belongs to. -/
structure SearchCursor where
  seconds : ℤ
  nanos : ℤ
  eventId : String
  direction : String
  fingerprint : String
  deriving DecidableEq, Repr

/-- The symbols of `base64.RawURLEncoding`. -/
def rawUrlSymbols : GoString :=
  bytes "ABCDEFGHIJKLMNOPQRSTUVWXYZabcdefghijklmnopqrstuvwxyz0123456789-_"

/-- `base64.RawURLEncoding`. -/
def rawUrlEncoding : Base64.Alphabet UInt8 where
  symbol n := rawUrlSymbols.getD n 0
  index b := if b ∈ rawUrlSymbols then some (rawUrlSymbols.idxOf b) else none
  index_symbol := by decide +kernel

/-! ## Encoding -/

/-- The members of a cursor. -/
def SearchCursor.json (cursor : SearchCursor) : Json :=
  .object [("seconds", ofInt cursor.seconds), ("nanos", ofInt cursor.nanos),
    ("event_id", .string cursor.eventId), ("direction", .string cursor.direction),
    ("fingerprint", .string cursor.fingerprint)]

/-- `json.Marshal`. -/
def marshal (value : Json) : GoString :=
  bytes (String.ofList (write (escapeAlso htmlSpecial) value))

/-- `encodeSearchCursor`. -/
def encodeSearchCursor (cursor : SearchCursor) : GoString :=
  Base64.encode rawUrlEncoding (marshal cursor.json)

/-! ## Decoding -/

/-- The case `encoding/json` ignores in the names of members. -/
def foldChar (ch : Char) : Char :=
  if ch = '\u017f' then 's' else if ch = '\u212a' then 'k' else ch.toLower

/-- The field a name stands for. -/
def fieldNamed (field name : String) : Bool := name.toList.map foldChar == field.toList

/-- A whole number of a type that goes from `least` to `largest`; `null` leaves the field alone. -/
def decodeInt (least largest : ℤ) (current : ℤ) : Json → Except String ℤ
  | .null => .ok current
  | .number text =>
    match wholeNumber text with
    | some n => if least ≤ n ∧ n ≤ largest then .ok n else .error "number out of range"
    | none => .error "cannot unmarshal number"
  | _ => .error "cannot unmarshal value"

/-- A text; `null` leaves the field alone. -/
def decodeString (current : String) : Json → Except String String
  | .null => .ok current
  | .string text => .ok text
  | _ => .error "cannot unmarshal value"

/-- One member of a cursor.  Other names are refused. -/
def decodeMember (cursor : SearchCursor) : String × Json → Except String SearchCursor
  | (name, value) =>
    if fieldNamed "seconds" name then
      (decodeInt (-2 ^ 63) (2 ^ 63 - 1) cursor.seconds value).map fun n =>
        { cursor with seconds := n }
    else if fieldNamed "nanos" name then
      (decodeInt (-2 ^ 31) (2 ^ 31 - 1) cursor.nanos value).map fun n => { cursor with nanos := n }
    else if fieldNamed "event_id" name then
      (decodeString cursor.eventId value).map fun text => { cursor with eventId := text }
    else if fieldNamed "direction" name then
      (decodeString cursor.direction value).map fun text => { cursor with direction := text }
    else if fieldNamed "fingerprint" name then
      (decodeString cursor.fingerprint value).map fun text => { cursor with fingerprint := text }
    else .error "unknown field"

/-- The members of a cursor, one after the other. -/
def decodeMembers : SearchCursor → List (String × Json) → Except String SearchCursor
  | cursor, [] => .ok cursor
  | cursor, member :: members => do
    let cursor ← decodeMember cursor member
    decodeMembers cursor members

/-- `Decode` of a value. -/
def decodeCursorJson : Json → Except String SearchCursor
  | .null => .ok ⟨0, 0, "", "", ""⟩
  | .object members => decodeMembers ⟨0, 0, "", "", ""⟩ members
  | _ => .error "cannot unmarshal value"

section

-- the version of a text that `uuid.Parse` takes
variable (uuidVersion : GoString → Option ℕ)

/-- `decodeSearchCursor`.  Bytes that are not UTF-8 are refused here, where `encoding/json` reads U+FFFD
for them within a string; a cursor that was encoded has none. -/
def decodeSearchCursor (raw : GoString) : Except String SearchCursor :=
  match Base64.decode rawUrlEncoding false (raw.filter fun b => b ≠ 0x0a ∧ b ≠ 0x0d) with
  | none => .error "illegal base64 data"
  | some decoded =>
    match (fromUtf8 decoded).bind fun text => readValue text.toList.length text.toList with
    | none => .error "invalid JSON"
    | some (value, _) => do
      let cursor ← decodeCursorJson value
      if uuidVersion (bytes cursor.eventId) ≠ some 7 ∨ cursor.fingerprint = "" then
        .error "invalid cursor payload"
      return cursor

/-! ## Round trip -/

/-- The numbers of a cursor are of their types. -/
structure SearchCursor.Typed (cursor : SearchCursor) : Prop where
  seconds_least : -2 ^ 63 ≤ cursor.seconds
  seconds_largest : cursor.seconds ≤ 2 ^ 63 - 1
  nanos_least : -2 ^ 31 ≤ cursor.nanos
  nanos_largest : cursor.nanos ≤ 2 ^ 31 - 1

theorem wellFormed_json (cursor : SearchCursor) : WellFormed cursor.json := by
  simp only [SearchCursor.json, WellFormed, WellFormedMembers, WellFormedMember, wellFormed_ofInt,
    and_self]

section

variable (cursor : SearchCursor) (value : Json)

theorem decodeMember_seconds : decodeMember cursor ("seconds", value) =
    (decodeInt (-2 ^ 63) (2 ^ 63 - 1) cursor.seconds value).map fun n =>
      { cursor with seconds := n } := by
  rw [decodeMember, if_pos (by decide)]

theorem decodeMember_nanos : decodeMember cursor ("nanos", value) =
    (decodeInt (-2 ^ 31) (2 ^ 31 - 1) cursor.nanos value).map fun n =>
      { cursor with nanos := n } := by
  rw [decodeMember, if_neg (by decide), if_pos (by decide)]

theorem decodeMember_eventId : decodeMember cursor ("event_id", value) =
    (decodeString cursor.eventId value).map fun text => { cursor with eventId := text } := by
  rw [decodeMember, if_neg (by decide), if_neg (by decide),
    if_pos (by decide)]

theorem decodeMember_direction : decodeMember cursor ("direction", value) =
    (decodeString cursor.direction value).map fun text => { cursor with direction := text } := by
  rw [decodeMember, if_neg (by decide), if_neg (by decide),
    if_neg (by decide), if_pos (by decide)]

theorem decodeMember_fingerprint : decodeMember cursor ("fingerprint", value) =
    (decodeString cursor.fingerprint value).map fun text =>
      { cursor with fingerprint := text } := by
  rw [decodeMember, if_neg (by decide), if_neg (by decide),
    if_neg (by decide), if_neg (by decide), if_pos (by decide)]

end

theorem decodeInt_ofInt {least largest n : ℤ} (current : ℤ) (hleast : least ≤ n)
    (hlargest : n ≤ largest) : decodeInt least largest current (ofInt n) = .ok n := by
  simp only [ofInt, decodeInt, wholeNumber_toString]
  rw [if_pos ⟨hleast, hlargest⟩]

theorem decodeCursorJson_json {cursor : SearchCursor} (h : cursor.Typed) :
    decodeCursorJson cursor.json = .ok cursor := by
  simp only [SearchCursor.json, decodeCursorJson, decodeMembers, decodeMember_seconds,
    decodeMember_nanos, decodeMember_eventId, decodeMember_direction, decodeMember_fingerprint,
    decodeInt_ofInt _ h.seconds_least h.seconds_largest,
    decodeInt_ofInt _ h.nanos_least h.nanos_largest, decodeString]
  rfl

theorem encode_ne_lineBreak {data : GoString} {b : UInt8}
    (h : b ∈ Base64.encode rawUrlEncoding data) : b ≠ 0x0a ∧ b ≠ 0x0d := by
  have hindex := Base64.isSome_index_of_mem_encode rawUrlEncoding b h
  constructor
  all_goals
    rintro rfl
    exact absurd hindex (by decide +kernel)

variable {uuidVersion} in
/-- **A cursor is read back.** -/
theorem decodeSearchCursor_encodeSearchCursor {cursor : SearchCursor} (htyped : cursor.Typed)
    (hid : uuidVersion (bytes cursor.eventId) = some 7) (hfingerprint : cursor.fingerprint ≠ "") :
    decodeSearchCursor uuidVersion (encodeSearchCursor cursor) = .ok cursor := by
  have hkeep : (encodeSearchCursor cursor).filter (fun b => b ≠ 0x0a ∧ b ≠ 0x0d) =
      encodeSearchCursor cursor :=
    List.filter_eq_self.2 fun b hmem => decide_eq_true (encode_ne_lineBreak hmem)
  have hread : readValue (write (escapeAlso htmlSpecial) cursor.json).length
      (write (escapeAlso htmlSpecial) cursor.json) = some (cursor.json, []) := by
    have hends : Ends [] := fun _ hnone => nomatch hnone
    have hall := readValue_write escaping_html (wellFormed_json cursor) hends le_rfl
    rwa [List.append_nil] at hall
  rw [decodeSearchCursor, hkeep, encodeSearchCursor, Base64.decode_encode]
  simp only [marshal, fromUtf8_bytes, Option.bind_some, String.toList_ofList, hread,
    decodeCursorJson_json htyped]
  have hvalid : ¬ (uuidVersion (bytes cursor.eventId) ≠ some 7 ∨ cursor.fingerprint = "") := by
    simp [hid, hfingerprint]
  exact if_neg hvalid

end

end Search

end Cerbero
