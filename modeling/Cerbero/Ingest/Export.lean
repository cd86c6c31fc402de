import Cerbero.Lib.Base64
import Cerbero.Lib.Fallible
import Cerbero.Lib.JsonText
import Cerbero.Lib.Message

/-!
# Ingest/Export — the collector of journal export streams

`ExportCollector.Next` reads one entry of a journal export stream, field by field, and writes it as
canonical JSON.  What is left of the stream is passed along as a list of bytes; the stream ends with
`io.EOF`, which some errors wrap.  Sizes are natural numbers: an entry of `2 ^ 64` bytes, where the
counters of the source would wrap around, does not fit into memory.
-/

namespace Cerbero

namespace Journald

open Text

/-! ## Reading -/

/-- What an error of a reader wraps. -/
inductive Cause
  | eof
  | unexpectedEof
  deriving DecidableEq, Repr

/-- An error: its text, and the error it wraps.  The message of an error that wraps another one is
its text, a colon and the message of the other. -/
structure ReadError where
  text : String
  cause : Option Cause
  deriving DecidableEq, Repr

/-- An error that wraps none. -/
def failure (text : String) : ReadError := ⟨text, none⟩

/-- `io.EOF`. -/
def ioEof : ReadError := ⟨"EOF", some .eof⟩

/-- `errors.Is(err, io.EOF)`. -/
def ReadError.isEof (e : ReadError) : Bool := e.cause == some .eof

/-- The byte a line ends with. -/
def lineFeed : UInt8 := 0x0a

/-- The byte after the name of a field. -/
def equalsSign : UInt8 := 0x3d

/-- `ReadBytes('\n')`: the line with its end, whether the stream ended first, and what is left. -/
def readLine : List UInt8 → List UInt8 × Bool × List UInt8
  | [] => ([], true, [])
  | b :: rest =>
    if b = lineFeed then ([b], false, rest)
    else (b :: (readLine rest).1, (readLine rest).2)

/-- `io.ReadFull` of some bytes. -/
def readFull (n : ℕ) (data : List UInt8) : Except Cause (List UInt8 × List UInt8) :=
  if n ≤ data.length then .ok (data.take n, data.drop n)
  else if data = [] then .error .eof else .error .unexpectedEof

/-- `binary.LittleEndian.Uint64`. -/
def littleEndian : List UInt8 → ℕ
  | [] => 0
  | b :: rest => b.toNat + 256 * littleEndian rest

/-- The error of a binary value that is larger than an entry may be. -/
def valueTooLarge (maxEntryBytes length : ℕ) : ReadError :=
  failure ("journald binary field size " ++ toString length ++ " exceeds configured limit " ++
    toString maxEntryBytes)

/-- `readBinaryValue`: the value, the bytes it took and what is left. -/
def readBinaryValue (maxEntryBytes : ℕ) (data : List UInt8) :
    Except ReadError (List UInt8 × ℕ × List UInt8) := do
  let (lengthBytes, rest) ← (readFull 8 data).mapError fun cause =>
    ⟨"read journald binary length", some cause⟩
  let length := littleEndian lengthBytes
  if maxEntryBytes < length then
    .error (valueTooLarge maxEntryBytes length)
  -- `intFromUint64`
  if 2 ^ 63 ≤ length then
    .error (failure "journald field length exceeds platform integer range")
  let (value, rest) ← (readFull length rest).mapError fun cause =>
    ⟨"read journald binary value", some cause⟩
  match rest with
  | [] => .error ⟨"read journald binary terminator", some .eof⟩
  | terminator :: rest =>
    if terminator ≠ lineFeed then
      .error (failure "journald binary field must end with newline")
    else .ok (value, 8 + length + 1, rest)

/-! ## Fields -/

/-- `exportField`. -/
structure ExportField where
  name : List UInt8
  value : List UInt8
  deriving DecidableEq, Repr

/-- A byte of a field name. -/
def isNameByte (b : UInt8) : Bool :=
  b == 0x5f || 0x41 ≤ b && b ≤ 0x5a || 0x30 ≤ b && b ≤ 0x39

/-- `validateExportFieldName`. -/
def validateExportFieldName (name : List UInt8) : Except ReadError Unit :=
  if name = [] ∨ 64 < name.length then
    .error (failure "journald export field name must contain 1..64 bytes")
  else if name.all isNameByte then .ok ()
  else .error (failure ("invalid journald export field name " ++ quote name))

/-- The field that holds the cursor. -/
def cursorName : List UInt8 := bytes "__CURSOR"

/-- What `readEntry` has read so far. -/
structure EntryState where
  fields : List ExportField
  cursor : String
  total : ℕ

/-- Before the first line. -/
def EntryState.start : EntryState := ⟨[], "", 0⟩

/-- A field is added; the last cursor counts. -/
def EntryState.push (s : EntryState) (field : ExportField) (total : ℕ) : EntryState where
  fields := s.fields ++ [field]
  cursor := if field.name = cursorName then (fromUtf8 field.value).getD s.cursor else s.cursor
  total := total

/-- A turn of the loop of `readEntry` goes on or breaks. -/
inductive Turn
  | again (s : EntryState)
  | stop (s : EntryState)

/-- The line without its end. -/
def trimLine (line : List UInt8) : List UInt8 :=
  if line.getLast? = some lineFeed then line.dropLast else line

/-- The error of an entry that is too large. -/
def tooLarge (maxEntryBytes : ℕ) : ReadError :=
  failure ("journald export entry exceeds configured limit " ++ toString maxEntryBytes)

/-- After a field: the loop breaks at the end of the stream. -/
def turnAfter (eof : Bool) (s : EntryState) : Turn := if eof then .stop s else .again s

/-- The field of a line, with the bytes counted so far and what is left: a text field, or the name
of a binary one, whose value follows. -/
def readField (maxEntryBytes : ℕ) (content rest : List UInt8) (total : ℕ) :
    Except ReadError (ExportField × ℕ × List UInt8) :=
  if equalsSign ∈ content then do
    let name := content.takeWhile (· ≠ equalsSign)
    let value := content.drop (name.length + 1)
    validateExportFieldName name
    .ok (⟨name, value⟩, total, rest)
  else do
    validateExportFieldName content
    let (value, consumed, rest) ← readBinaryValue maxEntryBytes rest
    if maxEntryBytes < total + consumed then .error (tooLarge maxEntryBytes)
    .ok (⟨content, value⟩, total + consumed, rest)

/-- **One turn of the loop of `readEntry`.** -/
def readEntryTurn (maxEntryBytes : ℕ) (s : EntryState) (data : List UInt8) :
    Except ReadError (Turn × List UInt8) :=
  match readLine data with
  | ([], _, rest) => if s.fields = [] then .error ioEof else .ok (.stop s, rest)
  | (line, eof, rest) => do
    let total := s.total + line.length
    if maxEntryBytes < total then .error (tooLarge maxEntryBytes)
    let content := trimLine line
    if content = [] then
      if s.fields = [] then
        if eof then .error ioEof else .ok (.again { s with total := total }, rest)
      else .ok (.stop s, rest)
    else
      let (field, total, rest) ← readField maxEntryBytes content rest total
      .ok (turnAfter eof (s.push field total), rest)

/-! ## The loop -/

theorem length_readLine : ∀ data : List UInt8,
    (readLine data).1.length + (readLine data).2.2.length = data.length
  | [] => rfl
  | b :: rest => by
      have ih := length_readLine rest
      rw [readLine]
      split
      · simp only [List.length_cons, List.length_nil]
        omega
      · simp only [List.length_cons]
        omega

theorem readFull_eq_ok {n : ℕ} {data read rest : List UInt8}
    (h : readFull n data = .ok (read, rest)) : read ++ rest = data ∧ read.length = n := by
  unfold readFull at h
  split at h
  · obtain ⟨rfl, rfl⟩ := Prod.mk.inj (Except.ok.inj h)
    exact ⟨List.take_append_drop n data, List.length_take_of_le ‹_›⟩
  · split at h <;> exact nomatch h

theorem readFull_append (read rest : List UInt8) :
    readFull read.length (read ++ rest) = .ok (read, rest) := by
  rw [readFull, if_pos (by simp), List.take_left, List.drop_left]

theorem length_readBinaryValue {maxEntryBytes consumed : ℕ} {data value rest : List UInt8}
    (h : readBinaryValue maxEntryBytes data = .ok (value, consumed, rest)) :
    rest.length ≤ data.length := by
  simp only [readBinaryValue, bind_eq_ok, mapError_eq_ok, Prod.exists, guard_eq_ok] at h
  obtain ⟨lengthBytes, afterLength, hlength, -, -, read, afterValue, hvalue, hend⟩ := h
  obtain ⟨rfl, -⟩ := readFull_eq_ok hlength
  obtain ⟨rfl, -⟩ := readFull_eq_ok hvalue
  cases afterValue with
  | nil => cases hend
  | cons terminator left =>
    dsimp only at hend
    split at hend
    · cases hend
    · simp only [Except.ok.injEq, Prod.mk.injEq] at hend
      obtain ⟨-, -, rfl⟩ := hend
      simp only [List.length_append, List.length_cons]
      omega

theorem length_readField {maxEntryBytes total total' : ℕ} {content rest rest' : List UInt8}
    {field : ExportField}
    (h : readField maxEntryBytes content rest total = .ok (field, total', rest')) :
    rest'.length ≤ rest.length := by
  unfold readField at h
  split at h
  · simp only [check_bind_eq_ok, Except.ok.injEq, Prod.mk.injEq] at h
    obtain ⟨-, -, -, rfl⟩ := h
    exact le_rfl
  · simp only [bind_eq_ok, Prod.exists, guard_eq_ok, Except.ok.injEq, Prod.mk.injEq] at h
    obtain ⟨_, -, value, consumed, left, hvalue, -, -, -, rfl⟩ := h
    exact length_readBinaryValue hvalue

/-- A turn of which more is to come, or with the first field, has read a line. -/
theorem length_readEntryTurn {maxEntryBytes : ℕ} {s : EntryState} {data rest : List UInt8} :
    ∀ {turn : Turn}, readEntryTurn maxEntryBytes s data = .ok (turn, rest) →
      rest.length < data.length ∨ rest.length = data.length ∧ turn = .stop s ∧ s.fields ≠ [] := by
  intro turn h
  have hlength := length_readLine data
  unfold readEntryTurn at h
  match hline : readLine data, h with
  | ([], _, _), h =>
    dsimp only at h
    rw [hline] at hlength
    split at h
    · exact nomatch h
    · obtain ⟨rfl, rfl⟩ := Prod.mk.inj (Except.ok.inj h)
      exact .inr ⟨by simpa using hlength, rfl, ‹_›⟩
  | (b :: line, eof, left), h =>
    rw [hline] at hlength
    simp only [guard_eq_ok] at h
    obtain ⟨-, h⟩ := h
    have hrest : rest.length ≤ left.length := by
      split at h
      · split at h
        · split at h
          · exact nomatch h
          · exact (Prod.mk.inj (Except.ok.inj h)).2 ▸ le_rfl
        · exact (Prod.mk.inj (Except.ok.inj h)).2 ▸ le_rfl
      · simp only [bind_eq_ok, Prod.exists] at h
        obtain ⟨field, total, left', hfield, heq⟩ := h
        obtain ⟨-, rfl⟩ := Prod.mk.inj (Except.ok.inj heq)
        exact length_readField hfield
    simp only [List.length_cons] at hlength
    omega

theorem length_again {maxEntryBytes : ℕ} {s s' : EntryState} {data rest : List UInt8}
    (h : readEntryTurn maxEntryBytes s data = .ok (.again s', rest)) :
    rest.length < data.length := by
  obtain hlt | ⟨-, hstop, -⟩ := length_readEntryTurn h
  · exact hlt
  · exact nomatch hstop

/-- **The loop of `readEntry`**: the fields, the cursor, and what is left. -/
def readEntryLoop (maxEntryBytes : ℕ) (s : EntryState) (data : List UInt8) :
    Except ReadError (List ExportField × String × List UInt8) :=
  match _h : readEntryTurn maxEntryBytes s data with
  | .error e => .error e
  | .ok (.stop s, rest) => if s.fields = [] then .error ioEof else .ok (s.fields, s.cursor, rest)
  | .ok (.again s, rest) => readEntryLoop maxEntryBytes s rest
termination_by data.length
decreasing_by exact length_again _h

/-- `readEntry`. -/
def readEntry (maxEntryBytes : ℕ) (data : List UInt8) :
    Except ReadError (List ExportField × String × List UInt8) :=
  readEntryLoop maxEntryBytes .start data

/-! ## The canonical form -/

/-- The symbols of `base64.StdEncoding`. -/
def stdSymbols : List Char :=
  "ABCDEFGHIJKLMNOPQRSTUVWXYZabcdefghijklmnopqrstuvwxyz0123456789+/".toList

/-- `base64.StdEncoding`. -/
def stdEncoding : Base64.Alphabet Char where
  symbol n := stdSymbols.getD n '='
  index ch := if ch ∈ stdSymbols then some (stdSymbols.idxOf ch) else none
  index_symbol := by decide +kernel

/-- The members of a field: its value as it is where it is UTF-8, and in Base64 elsewhere. -/
def ExportField.json (field : ExportField) : Json :=
  let name := ("name", Json.string ((fromUtf8 field.name).getD ""))
  match fromUtf8 field.value with
  | some text => .object [name, ("encoding", .string "utf8"), ("value", .string text)]
  | none => .object [name, ("encoding", .string "base64"),
      ("value", .string (String.ofList (Base64.encodePadded stdEncoding '=' field.value)))]

/-- The members of `canonicalEntry`. -/
def canonicalEntry (cursor : String) (fields : List ExportField) : Json :=
  .object [("cerbero_journald_version", .ofInt 1),
    ("cursor", if cursor = "" then .null else .string cursor),
    ("fields", .array (fields.map ExportField.json))]

/-- `encodeCanonical`.  The cursor is a `String`, so valid UTF-8: `readEntry` keeps no other, and
what `json.Marshal` makes of any other is not modelled. -/
def encodeCanonical (cursor : String) (fields : List ExportField) : List UInt8 :=
  bytes (String.ofList (Json.write (Json.escapeAlso Json.htmlSpecial)
    (canonicalEntry cursor fields)))

/-! ## The collector -/

/-- `AdmissionMetadata`: what a collector is configured with about its source. -/
structure AdmissionMetadata where
  requestId : String
  tenantId : String
  sourceId : String
  sensorId : String
  remoteIdentity : String
  transport : String
  deriving DecidableEq, Repr

/-- `Transport`. -/
def transport : String := "journald"

/-- `Entry`, as a collector of canonical representations builds it. -/
structure Entry where
  source : AdmissionMetadata
  cursor : String
  rawRepresentation : List UInt8
  deriving DecidableEq, Repr

/-- `Entry.Validate`: the transport is the collector's and there is a representation. -/
def Entry.validate (entry : Entry) : Except ReadError Unit :=
  if entry.source.transport ≠ transport then
    .error (failure "journald source transport must be \"journald\"")
  else if entry.rawRepresentation = [] then
    .error (failure "journald canonical raw representation must not be empty")
  else .ok ()

/-- `ExportCollector`, without its reader. -/
structure ExportCollector where
  source : AdmissionMetadata
  maxEntryBytes : ℕ
  deriving DecidableEq, Repr

/-- `NewExportCollector`: the identity of the source has to be configured, and a limit that is not
zero. -/
def newExportCollector (source : AdmissionMetadata) (maxEntryBytes : ℕ) :
    Except ReadError ExportCollector :=
  let source := { source with transport := transport }
  if source.tenantId = "" ∨ source.sourceId = "" ∨ source.sensorId = "" ∨
      source.remoteIdentity = "" then
    .error (failure "journald source identity metadata are required")
  else if maxEntryBytes = 0 then
    .error (failure "journald max entry size must be greater than zero")
  else .ok ⟨source, maxEntryBytes⟩

/-- The error of an entry whose canonical form is larger than an entry may be. -/
def canonicalTooLarge (maxEntryBytes size : ℕ) : ReadError :=
  failure ("journald canonical entry size " ++ toString size ++ " exceeds configured limit " ++
    toString maxEntryBytes)

/-- **`Next`**: the entry and what is left of the stream. -/
def ExportCollector.next (collector : ExportCollector) (data : List UInt8) :
    Except ReadError (Entry × List UInt8) := do
  let (fields, cursor, rest) ← readEntry collector.maxEntryBytes data
  let raw := encodeCanonical cursor fields
  if collector.maxEntryBytes < raw.length then
    .error (canonicalTooLarge collector.maxEntryBytes raw.length)
  let entry : Entry := ⟨collector.source, cursor, raw⟩
  entry.validate
  .ok (entry, rest)

/-! ## A whole stream -/

/-- An entry takes up some of the stream. -/
theorem length_readEntryLoop {maxEntryBytes : ℕ} {s : EntryState} {data rest : List UInt8}
    {fields : List ExportField} {cursor : String}
    (h : readEntryLoop maxEntryBytes s data = .ok (fields, cursor, rest)) :
    rest.length < data.length ∨ rest.length = data.length ∧ s.fields ≠ [] := by
  fun_induction readEntryLoop maxEntryBytes s data with
  | case1 s data e _ => exact nomatch h
  | case2 s data s' left hturn hempty => exact nomatch h
  | case3 s data s' left hturn hne =>
    simp only [Except.ok.injEq, Prod.mk.injEq] at h
    obtain ⟨-, -, rfl⟩ := h
    exact (length_readEntryTurn hturn).imp_right fun ⟨heq, _, hfields⟩ => ⟨heq, hfields⟩
  | case4 s data s' left hturn ih =>
    have := length_again hturn
    obtain hlt | ⟨heq, -⟩ := ih h
    · exact .inl (by omega)
    · exact .inl (by omega)

theorem ExportCollector.length_next {collector : ExportCollector} {data rest : List UInt8}
    {entry : Entry} (h : collector.next data = .ok (entry, rest)) : rest.length < data.length := by
  simp only [next, bind_eq_ok, Prod.exists, guard_eq_ok, Except.ok.injEq, Prod.mk.injEq] at h
  obtain ⟨fields, cursor, left, hread, -, _, -, -, rfl⟩ := h
  obtain hlt | ⟨-, hstart⟩ := length_readEntryLoop hread
  · exact hlt
  · exact absurd rfl hstart

/-- **The entries of a stream**, and the error that ends it. -/
def ExportCollector.entries (collector : ExportCollector) (data : List UInt8) :
    List Entry × ReadError :=
  match _h : collector.next data with
  | .error e => ([], e)
  | .ok (entry, rest) => (entry :: (collector.entries rest).1, (collector.entries rest).2)
termination_by data.length
decreasing_by all_goals exact length_next _h

end Journald

end Cerbero
