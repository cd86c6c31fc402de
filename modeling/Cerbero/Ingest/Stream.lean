import Cerbero.Ingest.Export

/-!
# Ingest/Stream — streams of complete entries

A journal export stream is a sequence of entries, each a sequence of fields with an empty line after
it.  On a stream that starts with such an entry, `Next` returns the entry if it is within the limits
of the collector (**`next_entry`**), and fails with an error other than `io.EOF` if it is not
(**`refuses_next_entry`**).
-/

namespace Cerbero

namespace Journald

open Text

/-! ## The format -/

/-- A field of an entry: with its value on the same line, or after its length. -/
inductive WireField
  | text (name value : List UInt8)
  | binary (name value : List UInt8)
  deriving DecidableEq, Repr

/-- Eight bytes of a length. -/
def toLittleEndian : ℕ → ℕ → List UInt8
  | 0, _ => []
  | k + 1, n => UInt8.ofNat (n % 256) :: toLittleEndian k (n / 256)

namespace WireField

/-- The name, in either form of a field. -/
def name : WireField → List UInt8
  | .text name _ => name
  | .binary name _ => name

/-- The value, in either form of a field. -/
def value : WireField → List UInt8
  | .text _ value => value
  | .binary _ value => value

/-- What a collector makes of a field. -/
def field (f : WireField) : ExportField := ⟨f.name, f.value⟩

/-- What follows the name of a binary field. -/
def encodeValue (value : List UInt8) : List UInt8 :=
  toLittleEndian 8 value.length ++ (value ++ [lineFeed])

/-- The bytes of a field. -/
def encode : WireField → List UInt8
  | .text name value => name ++ equalsSign :: (value ++ [lineFeed])
  | .binary name value => name ++ lineFeed :: encodeValue value

/-- The fields that can be told apart in a stream. -/
def Valid : WireField → Prop
  | .text name value => equalsSign ∉ name ∧ lineFeed ∉ name ∧ lineFeed ∉ value
  | .binary name value =>
      name ≠ [] ∧ equalsSign ∉ name ∧ lineFeed ∉ name ∧ value.length < 2 ^ 64

/-- A collector takes the name of the field, and an `int` the size of its value. -/
def Accepted : WireField → Prop
  | .text name _ => validateExportFieldName name = .ok ()
  | .binary name value => validateExportFieldName name = .ok () ∧ value.length < 2 ^ 63

instance : DecidablePred Valid
  | .text _ _ => inferInstanceAs (Decidable (_ ∧ _ ∧ _))
  | .binary _ _ => inferInstanceAs (Decidable (_ ∧ _ ∧ _ ∧ _))

instance : DecidablePred Accepted
  | .text _ _ => inferInstanceAs (Decidable (_ = _))
  | .binary _ _ => inferInstanceAs (Decidable (_ ∧ _))

end WireField

/-- The bytes of some fields. -/
def encodeFields (fields : List WireField) : List UInt8 := fields.flatMap WireField.encode

/-- **The bytes of an entry**, with the empty line at its end. -/
def encodeEntry (fields : List WireField) : List UInt8 := encodeFields fields ++ [lineFeed]

/-- **The bytes of a stream.** -/
def stream (entries : List (List WireField)) : List UInt8 := entries.flatMap encodeEntry

/-- Entries that can be told apart. -/
structure ValidEntry (fields : List WireField) : Prop where
  fields_ne : fields ≠ []
  valid : ∀ f ∈ fields, f.Valid

/-- The cursor of some fields: that of the last one that holds one. -/
def cursorOf (fields : List ExportField) : String :=
  fields.foldl (fun cursor field =>
    if field.name = cursorName then (fromUtf8 field.value).getD cursor else cursor) ""

/-- The canonical form of some fields. -/
def canonicalOf (fields : List WireField) : List UInt8 :=
  encodeCanonical (cursorOf (fields.map WireField.field)) (fields.map WireField.field)

/-- The entry a collector returns for some fields. -/
def ExportCollector.entryOf (collector : ExportCollector) (fields : List WireField) : Entry :=
  ⟨collector.source, cursorOf (fields.map WireField.field), canonicalOf fields⟩

/-- An entry holds the canonical form of the fields it was read from. -/
theorem rawRepresentation_entryOf (collector : ExportCollector) (fields : List WireField) :
    (collector.entryOf fields).rawRepresentation = canonicalOf fields := rfl

/-- Fields a collector reads. -/
def FieldsTaken (maxEntryBytes : ℕ) (fields : List WireField) : Prop :=
  (∀ f ∈ fields, f.Accepted) ∧ (encodeFields fields).length ≤ maxEntryBytes

/-- **Entries a collector takes.** -/
def EntryTaken (maxEntryBytes : ℕ) (fields : List WireField) : Prop :=
  (∀ f ∈ fields, f.Accepted) ∧ (encodeEntry fields).length ≤ maxEntryBytes ∧
    (canonicalOf fields).length ≤ maxEntryBytes

instance (maxEntryBytes : ℕ) : DecidablePred (FieldsTaken maxEntryBytes) :=
  fun _ => inferInstanceAs (Decidable (_ ∧ _))

instance (maxEntryBytes : ℕ) : DecidablePred (EntryTaken maxEntryBytes) :=
  fun _ => inferInstanceAs (Decidable (_ ∧ _ ∧ _))

/-! ## Lines -/

/-- A line is read up to its line feed, and what follows is left. -/
theorem readLine_append {line : List UInt8} (h : lineFeed ∉ line) (rest : List UInt8) :
    readLine (line ++ lineFeed :: rest) = (line ++ [lineFeed], false, rest) := by
  induction line with
  | nil => rw [List.nil_append, readLine, if_pos rfl, List.nil_append]
  | cons b line ih =>
    obtain ⟨hne, hline⟩ := List.ne_and_not_mem_of_not_mem_cons h
    rw [List.cons_append, readLine, if_neg hne.symm, ih hline, List.cons_append]

/-- At the end of the stream the rest is the last line. -/
theorem readLine_cut {line : List UInt8} (h : lineFeed ∉ line) :
    readLine line = (line, true, []) := by
  induction line with
  | nil => rfl
  | cons b line ih =>
    obtain ⟨hne, hline⟩ := List.ne_and_not_mem_of_not_mem_cons h
    rw [readLine, if_neg hne.symm, ih hline]

/-- The line feed of a line is dropped. -/
theorem trimLine_append (line : List UInt8) : trimLine (line ++ [lineFeed]) = line := by
  rw [trimLine, List.getLast?_concat, if_pos rfl, List.dropLast_concat]

/-- A line without one is kept whole. -/
theorem trimLine_cut {line : List UInt8} (h : lineFeed ∉ line) : trimLine line = line :=
  if_neg fun hlast => h (List.mem_of_getLast? hlast)

/-- A length is written in a fixed number of bytes. -/
theorem length_toLittleEndian : ∀ k n, (toLittleEndian k n).length = k
  | 0, _ => rfl
  | k + 1, n => congrArg Nat.succ (length_toLittleEndian k (n / 256))

/-- **A length is read back** if its bytes are enough for it. -/
theorem littleEndian_toLittleEndian : ∀ {k n : ℕ}, n < 256 ^ k →
    littleEndian (toLittleEndian k n) = n
  | 0, n, h => by
      rw [pow_zero] at h
      rw [toLittleEndian, littleEndian]
      omega
  | k + 1, n, h => by
      have hdiv : n / 256 < 256 ^ k := by
        rw [pow_succ] at h
        exact Nat.div_lt_of_lt_mul (by rwa [mul_comm] at h)
      have hbyte : (UInt8.ofNat (n % 256)).toNat = n % 256 :=
        UInt8.toNat_ofNat_of_lt' (Nat.mod_lt n (by decide))
      rw [toLittleEndian, littleEndian, littleEndian_toLittleEndian hdiv, hbyte]
      omega

/-! ## Outcomes -/

/-- It fails, and not with `io.EOF`. -/
def Refuses {α : Type} (x : Except ReadError α) : Prop := ∃ e, x = .error e ∧ e.isEof = false

/-- It fails with an error that is `io.EOF`. -/
def ReportsEof {α : Type} (x : Except ReadError α) : Prop := ∃ e, x = .error e ∧ e.isEof = true

/-- A failure of the collector's own is never taken for the end of the stream. -/
theorem refuses_failure {α : Type} (text : String) :
    Refuses (.error (failure text) : Except ReadError α) := ⟨_, rfl, rfl⟩

/-- What is refused stays refused, whatever would follow. -/
theorem Refuses.bind {α β : Type} {x : Except ReadError α} (h : Refuses x)
    (f : α → Except ReadError β) : Refuses (x >>= f) := by
  obtain ⟨e, rfl, he⟩ := h
  exact ⟨e, rfl, he⟩

/-- An end of the stream that is reported stays reported. -/
theorem ReportsEof.bind {α β : Type} {x : Except ReadError α} (h : ReportsEof x)
    (f : α → Except ReadError β) : ReportsEof (x >>= f) := by
  obtain ⟨e, rfl, he⟩ := h
  exact ⟨e, rfl, he⟩

/-- An invalid name is refused. -/
theorem refuses_validateExportFieldName {name : List UInt8}
    (h : validateExportFieldName name ≠ .ok ()) : Refuses (validateExportFieldName name) := by
  unfold validateExportFieldName at h ⊢
  split
  · exact refuses_failure _
  · rw [if_neg ‹_›] at h
    split
    · rw [if_pos ‹_›] at h
      exact absurd rfl h
    · exact refuses_failure _

/-! ## Fields -/

section

variable {maxEntryBytes : ℕ} {s : EntryState}

variable (maxEntryBytes s) in
/-- A turn on a line that is not empty. -/
theorem readEntryTurn_content {data line rest : List UInt8} {eof : Bool}
    (hline : readLine data = (line, eof, rest)) (hcontent : trimLine line ≠ []) :
    readEntryTurn maxEntryBytes s data =
      if maxEntryBytes < s.total + line.length then .error (tooLarge maxEntryBytes)
      else readField maxEntryBytes (trimLine line) rest (s.total + line.length) >>= fun read =>
        .ok (turnAfter eof (s.push read.1 read.2.1), read.2.2) := by
  match line, hline, hcontent with
  | b :: line, hline, hcontent =>
    rw [readEntryTurn, hline]
    dsimp only
    rw [if_neg hcontent]
    split <;> rfl

/-- A text field is split at its first equals sign; the value may have more of them. -/
theorem readField_text {name : List UInt8} (h : equalsSign ∉ name) (value rest : List UInt8)
    (total : ℕ) : readField maxEntryBytes (name ++ equalsSign :: value) rest total =
      validateExportFieldName name >>= fun _ => .ok (⟨name, value⟩, total, rest) := by
  have hname : (name ++ equalsSign :: value).takeWhile (· ≠ equalsSign) = name := by
    have hbefore : ∀ b ∈ name, decide (b ≠ equalsSign) := fun b hb =>
      decide_eq_true fun heq => h (heq ▸ hb)
    rw [List.takeWhile_append_of_pos hbefore, List.takeWhile_cons_of_neg (by simp), List.append_nil]
  have hvalue : (name ++ equalsSign :: value).drop (name.length + 1) = value := by simp
  rw [readField, if_pos (by simp)]
  dsimp only
  rw [hname, hvalue]

/-- A line without an equals sign is a name, and a length and the value follow it. The bytes of the
value are counted after they were read. -/
theorem readField_binary {name : List UInt8} (h : equalsSign ∉ name) (rest : List UInt8)
    (total : ℕ) : readField maxEntryBytes name rest total =
      validateExportFieldName name >>= fun _ => readBinaryValue maxEntryBytes rest >>= fun read =>
        if maxEntryBytes < total + read.2.1 then .error (tooLarge maxEntryBytes)
        else .ok (⟨name, read.1⟩, total + read.2.1, read.2.2) := by
  rw [readField, if_neg h]
  refine bind_congr fun _ => bind_congr fun read => ?_
  dsimp only
  split <;> rfl

/-- A binary value, once its length is known. -/
theorem readBinaryValue_append {n : ℕ} (hn : n < 2 ^ 64) (rest : List UInt8) :
    readBinaryValue maxEntryBytes (toLittleEndian 8 n ++ rest) =
      if maxEntryBytes < n then
        .error (valueTooLarge maxEntryBytes n)
      else if 2 ^ 63 ≤ n then
        .error (failure "journald field length exceeds platform integer range")
      else (readFull n rest).mapError (fun cause => ⟨"read journald binary value", some cause⟩) >>=
        fun read => match read.2 with
          | [] => .error ⟨"read journald binary terminator", some .eof⟩
          | terminator :: rest =>
            if terminator ≠ lineFeed then
              .error (failure "journald binary field must end with newline")
            else .ok (read.1, 8 + n + 1, rest) := by
  have hlength : readFull 8 (toLittleEndian 8 n ++ rest) = .ok (toLittleEndian 8 n, rest) := by
    have := readFull_append (toLittleEndian 8 n) rest
    rwa [length_toLittleEndian] at this
  have hok : (Except.ok (toLittleEndian 8 n, rest) : Except Cause _).mapError
      (fun cause => (⟨"read journald binary length", some cause⟩ : ReadError)) =
      .ok (toLittleEndian 8 n, rest) := rfl
  rw [readBinaryValue, hlength, hok, ok_bind]
  dsimp only
  rw [littleEndian_toLittleEndian hn]
  split
  · rfl
  · split
    · rfl
    · rfl

/-- **A binary value is read back** if its length is within the limit and an `int`. -/
theorem readBinaryValue_encodeValue {value : List UInt8} (hsize : value.length ≤ maxEntryBytes)
    (hint : value.length < 2 ^ 63) (rest : List UInt8) :
    readBinaryValue maxEntryBytes (WireField.encodeValue value ++ rest) =
      .ok (value, 8 + value.length + 1, rest) := by
  rw [WireField.encodeValue, List.append_assoc, List.append_assoc,
    readBinaryValue_append (by omega), if_neg (by omega), if_neg (by omega), readFull_append]
  rfl

/-- A length over the limit is refused before any byte of the value is read, and one over an `int`
likewise. -/
theorem refuses_readBinaryValue {n : ℕ} (hn : n < 2 ^ 64)
    (h : maxEntryBytes < n ∨ 2 ^ 63 ≤ n) (rest : List UInt8) :
    Refuses (readBinaryValue maxEntryBytes (toLittleEndian 8 n ++ rest)) := by
  rw [readBinaryValue_append hn]
  split
  · exact refuses_failure _
  · rw [if_pos (h.resolve_left ‹_›)]
    exact refuses_failure _

/-- A binary field takes its name and a line feed, eight bytes for the length, the value and one
more line feed. -/
theorem WireField.length_encode_binary (name value : List UInt8) :
    (WireField.binary name value).encode.length = name.length + 1 + (8 + value.length + 1) := by
  simp only [encode, encodeValue, List.length_append, List.length_cons, List.length_nil,
    length_toLittleEndian]
  omega

/-- The line of a text field is the whole field. -/
theorem readLine_text {name value : List UInt8} (hname : lineFeed ∉ name)
    (hvalue : lineFeed ∉ value) (rest : List UInt8) :
    readLine ((WireField.text name value).encode ++ rest) =
      (name ++ equalsSign :: value ++ [lineFeed], false, rest) := by
  have hline : lineFeed ∉ name ++ equalsSign :: value := by
    simp only [List.mem_append, List.mem_cons, not_or]
    exact ⟨hname, by decide, hvalue⟩
  rw [← readLine_append hline]
  simp [WireField.encode]

/-- The line of a binary field is its name. -/
theorem readLine_binary {name value : List UInt8} (hname : lineFeed ∉ name) (rest : List UInt8) :
    readLine ((WireField.binary name value).encode ++ rest) =
      (name ++ [lineFeed], false, WireField.encodeValue value ++ rest) := by
  rw [← readLine_append hname]
  simp [WireField.encode]

/-- A turn on a text field. -/
theorem readEntryTurn_text {name value : List UInt8}
    (hvalid : (WireField.text name value).Valid) (rest : List UInt8) :
    readEntryTurn maxEntryBytes s ((WireField.text name value).encode ++ rest) =
      if maxEntryBytes < s.total + (WireField.text name value).encode.length then
        .error (tooLarge maxEntryBytes)
      else validateExportFieldName name >>= fun _ =>
        .ok (.again (s.push ⟨name, value⟩
          (s.total + (WireField.text name value).encode.length)), rest) := by
  obtain ⟨hequals, hname, hvalue⟩ := hvalid
  have htotal : (name ++ equalsSign :: value ++ [lineFeed]).length =
      (WireField.text name value).encode.length := by simp [WireField.encode]
  rw [readEntryTurn_content _ _ (readLine_text hname hvalue rest)
    (by rw [trimLine_append]; simp), htotal, trimLine_append, readField_text hequals, bind_assoc]
  rfl

/-- A turn on a binary field. -/
theorem readEntryTurn_binary {name value : List UInt8}
    (hvalid : (WireField.binary name value).Valid) (rest : List UInt8) :
    readEntryTurn maxEntryBytes s ((WireField.binary name value).encode ++ rest) =
      if maxEntryBytes < s.total + (name.length + 1) then .error (tooLarge maxEntryBytes)
      else validateExportFieldName name >>= fun _ =>
        readBinaryValue maxEntryBytes (WireField.encodeValue value ++ rest) >>= fun read =>
          (if maxEntryBytes < s.total + (name.length + 1) + read.2.1 then
            .error (tooLarge maxEntryBytes)
          else .ok (⟨name, read.1⟩, s.total + (name.length + 1) + read.2.1, read.2.2)) >>=
            fun read => .ok (.again (s.push read.1 read.2.1), read.2.2) := by
  obtain ⟨hne, hequals, hname, -⟩ := hvalid
  rw [readEntryTurn_content _ _ (readLine_binary hname rest) (by rwa [trimLine_append]),
    trimLine_append, readField_binary hequals, List.length_append, bind_assoc]
  simp only [bind_assoc]
  rfl

/-- **A field within the limits is read.** -/
theorem readEntryTurn_field : ∀ {f : WireField}, f.Valid → f.Accepted →
    s.total + f.encode.length ≤ maxEntryBytes → ∀ rest : List UInt8,
    readEntryTurn maxEntryBytes s (f.encode ++ rest) =
      .ok (.again (s.push f.field (s.total + f.encode.length)), rest)
  | .text name value, hvalid, haccepted, hsize, rest => by
      have hname : validateExportFieldName name = .ok () := haccepted
      rw [readEntryTurn_text hvalid, if_neg (by omega), hname, ok_bind]
      rfl
  | .binary name value, hvalid, ⟨hname, hint⟩, hsize, rest => by
      rw [WireField.length_encode_binary] at hsize ⊢
      rw [readEntryTurn_binary hvalid, if_neg (by omega), hname, ok_bind,
        readBinaryValue_encodeValue (by omega) hint, ok_bind, if_neg (by dsimp only; omega), ok_bind]
      dsimp only
      rw [Nat.add_assoc]
      rfl

/-- **A field out of the limits is refused.** -/
theorem refuses_readEntryTurn_field : ∀ {f : WireField}, f.Valid →
    ¬ (f.Accepted ∧ s.total + f.encode.length ≤ maxEntryBytes) → ∀ rest : List UInt8,
    Refuses (readEntryTurn maxEntryBytes s (f.encode ++ rest))
  | .text name value, hvalid, h, rest => by
      rw [readEntryTurn_text hvalid]
      split
      · exact refuses_failure _
      · have hname : validateExportFieldName name ≠ .ok () := fun hok =>
          h ⟨hok, Nat.le_of_not_lt ‹_›⟩
        exact (refuses_validateExportFieldName hname).bind _
  | .binary name value, hvalid, h, rest => by
      rw [WireField.length_encode_binary] at h
      rw [readEntryTurn_binary hvalid]
      split
      · exact refuses_failure _
      by_cases hok : validateExportFieldName name = .ok ()
      · rw [hok, ok_bind]
        by_cases hbinary : maxEntryBytes < value.length ∨ 2 ^ 63 ≤ value.length
        · rw [WireField.encodeValue, List.append_assoc]
          exact (refuses_readBinaryValue hvalid.2.2.2 hbinary _).bind _
        · rw [not_or, Nat.not_lt, Nat.not_le] at hbinary
          have hsize : ¬ s.total + (name.length + 1 + (8 + value.length + 1)) ≤ maxEntryBytes :=
            fun hsize => h ⟨⟨hok, hbinary.2⟩, hsize⟩
          rw [readBinaryValue_encodeValue hbinary.1 hbinary.2, ok_bind,
            if_pos (by dsimp only; omega)]
          exact (refuses_failure _).bind _
      · exact (refuses_validateExportFieldName hok).bind _

end

/-! ## Entries -/

/-- What `readEntry` knows after some fields. -/
def stateAfter (fields : List WireField) : EntryState where
  fields := fields.map WireField.field
  cursor := cursorOf (fields.map WireField.field)
  total := (encodeFields fields).length

/-- Fields are written one after the other. -/
theorem encodeFields_append (fields fields' : List WireField) :
    encodeFields (fields ++ fields') = encodeFields fields ++ encodeFields fields' :=
  List.flatMap_append

/-- The first field comes first. -/
theorem encodeFields_cons (f : WireField) (fields : List WireField) :
    encodeFields (f :: fields) = f.encode ++ encodeFields fields := List.flatMap_cons

/-- The state after one more field is the state before it with that field pushed. -/
theorem stateAfter_concat (fields : List WireField) (f : WireField) :
    stateAfter (fields ++ [f]) =
      (stateAfter fields).push f.field ((stateAfter fields).total + f.encode.length) := by
  simp [stateAfter, EntryState.push, cursorOf, encodeFields]

section

variable {maxEntryBytes : ℕ}

/-- A turn that goes on is followed by the loop in its new state. -/
theorem readEntryLoop_again {s s' : EntryState} {data rest : List UInt8}
    (h : readEntryTurn maxEntryBytes s data = .ok (.again s', rest)) :
    readEntryLoop maxEntryBytes s data = readEntryLoop maxEntryBytes s' rest := by
  rw [readEntryLoop, h]

/-- A turn that fails ends the loop with its error. -/
theorem readEntryLoop_error {s : EntryState} {data : List UInt8} {e : ReadError}
    (h : readEntryTurn maxEntryBytes s data = .error e) :
    readEntryLoop maxEntryBytes s data = .error e := by
  rw [readEntryLoop, h]

/-- A turn that stops ends the loop with the fields so far, of which there is one at least. -/
theorem readEntryLoop_stop {s s' : EntryState} {data rest : List UInt8} (hne : s'.fields ≠ [])
    (h : readEntryTurn maxEntryBytes s data = .ok (.stop s', rest)) :
    readEntryLoop maxEntryBytes s data = .ok (s'.fields, s'.cursor, rest) := by
  rw [readEntryLoop, h]
  exact if_neg hne

/-- The state after some more fields. -/
def EntryState.pushAll (s : EntryState) (fields : List WireField) : EntryState where
  fields := s.fields ++ fields.map WireField.field
  cursor := (fields.map WireField.field).foldl (fun cursor field =>
    if field.name = cursorName then (fromUtf8 field.value).getD cursor else cursor) s.cursor
  total := s.total + (encodeFields fields).length

/-- Without fields the state stays. -/
theorem EntryState.pushAll_nil (s : EntryState) : s.pushAll [] = s := by
  simp [pushAll, encodeFields]

/-- Fields are pushed in order, each with the total after it. -/
theorem EntryState.pushAll_cons (s : EntryState) (f : WireField) (fields : List WireField) :
    s.pushAll (f :: fields) = (s.push f.field (s.total + f.encode.length)).pushAll fields := by
  simp [pushAll, push, encodeFields_cons, Nat.add_assoc]

/-- More fields are pushed onto the state after the ones before. -/
theorem stateAfter_append (before fields : List WireField) :
    stateAfter (before ++ fields) = (stateAfter before).pushAll fields := by
  simp [stateAfter, EntryState.pushAll, cursorOf, encodeFields_append]

/-- **Fields are read one after the other.** -/
theorem readEntryLoop_pushAll : ∀ {fields : List WireField} (s : EntryState) (rest : List UInt8),
    (∀ f ∈ fields, f.Valid) → (∀ f ∈ fields, f.Accepted) →
    s.total + (encodeFields fields).length ≤ maxEntryBytes →
    readEntryLoop maxEntryBytes s (encodeFields fields ++ rest) =
      readEntryLoop maxEntryBytes (s.pushAll fields) rest
  | [], s, rest, _, _, _ => by rw [s.pushAll_nil]; rfl
  | f :: fields, s, rest, hvalid, haccepted, hsize => by
      rw [encodeFields_cons, List.length_append] at hsize
      have hturn := readEntryTurn_field (hvalid f List.mem_cons_self)
        (haccepted f List.mem_cons_self) (show s.total + f.encode.length ≤ maxEntryBytes by omega)
        (encodeFields fields ++ rest)
      rw [encodeFields_cons, List.append_assoc, readEntryLoop_again hturn, s.pushAll_cons]
      exact readEntryLoop_pushAll _ rest (fun f hf => hvalid f (List.mem_cons_of_mem _ hf))
        (fun f hf => haccepted f (List.mem_cons_of_mem _ hf))
        (show s.total + f.encode.length + (encodeFields fields).length ≤ maxEntryBytes by omega)

/-- **Fields that are not all accepted, or exceed the limit together, are refused** at the first one
that shows it, so nothing of the entry is returned. -/
theorem refuses_readEntryLoop_pushAll : ∀ {fields : List WireField} (s : EntryState)
    (rest : List UInt8), (∀ f ∈ fields, f.Valid) → s.total ≤ maxEntryBytes →
    ¬ ((∀ f ∈ fields, f.Accepted) ∧ s.total + (encodeFields fields).length ≤ maxEntryBytes) →
    Refuses (readEntryLoop maxEntryBytes s (encodeFields fields ++ rest))
  | [], s, _, _, hs, hnot => absurd ⟨fun _ hf => (nomatch hf), hs⟩ hnot
  | f :: fields, s, rest, hvalid, hs, hnot => by
      rw [encodeFields_cons, List.append_assoc]
      by_cases hf : f.Accepted ∧ s.total + f.encode.length ≤ maxEntryBytes
      · have hturn := readEntryTurn_field (hvalid f List.mem_cons_self) hf.1 hf.2
          (encodeFields fields ++ rest)
        rw [readEntryLoop_again hturn]
        refine refuses_readEntryLoop_pushAll _ rest
          (fun f hf => hvalid f (List.mem_cons_of_mem _ hf)) hf.2 fun hfits => hnot ⟨?_, ?_⟩
        · exact List.forall_mem_cons.2 ⟨hf.1, hfits.1⟩
        · have hsize : s.total + f.encode.length + (encodeFields fields).length ≤ maxEntryBytes :=
            hfits.2
          rw [encodeFields_cons, List.length_append]
          omega
      · obtain ⟨e, herror, he⟩ := refuses_readEntryTurn_field (hvalid f List.mem_cons_self) hf
          (encodeFields fields ++ rest)
        exact ⟨e, readEntryLoop_error herror, he⟩

/-- **Fields that are taken are read one after the other**, and the loop goes on with what follows
them. -/
theorem readEntryLoop_fields {fields : List WireField} (before : List WireField)
    (rest : List UInt8) (hvalid : ∀ f ∈ fields, f.Valid)
    (htaken : FieldsTaken maxEntryBytes (before ++ fields)) :
    readEntryLoop maxEntryBytes (stateAfter before) (encodeFields fields ++ rest) =
      readEntryLoop maxEntryBytes (stateAfter (before ++ fields)) rest := by
  have hsize : (stateAfter before).total + (encodeFields fields).length ≤ maxEntryBytes := by
    have := htaken.2
    rwa [encodeFields_append, List.length_append] at this
  rw [stateAfter_append]
  exact readEntryLoop_pushAll _ rest hvalid
    (fun f hf => htaken.1 f (List.mem_append_right _ hf)) hsize

/-- The same of fields that are not taken, after some that are. -/
theorem refuses_readEntryLoop_fields {fields : List WireField} (before : List WireField)
    (rest : List UInt8) (hvalid : ∀ f ∈ fields, f.Valid)
    (hbefore : FieldsTaken maxEntryBytes before)
    (hnot : ¬ FieldsTaken maxEntryBytes (before ++ fields)) :
    Refuses (readEntryLoop maxEntryBytes (stateAfter before) (encodeFields fields ++ rest)) := by
  refine refuses_readEntryLoop_pushAll _ rest hvalid hbefore.2 fun h => hnot ⟨?_, ?_⟩
  · exact List.forall_mem_append.2 ⟨hbefore.1, h.1⟩
  · rw [encodeFields_append, List.length_append]
    exact h.2

/-- An empty line is its line feed. -/
theorem readLine_lineFeed (rest : List UInt8) :
    readLine (lineFeed :: rest) = ([lineFeed], false, rest) :=
  readLine_append (List.not_mem_nil : lineFeed ∉ []) rest

/-- An empty line after some fields ends the entry, if there is room for it. -/
theorem readEntryLoop_lineFeed {s : EntryState} (hs : s.fields ≠ []) (rest : List UInt8) :
    readEntryLoop maxEntryBytes s (lineFeed :: rest) =
      if maxEntryBytes < s.total + 1 then .error (tooLarge maxEntryBytes)
      else .ok (s.fields, s.cursor, rest) := by
  have hturn : readEntryTurn maxEntryBytes s (lineFeed :: rest) =
      if maxEntryBytes < s.total + 1 then .error (tooLarge maxEntryBytes)
      else .ok (.stop s, rest) := by
    rw [readEntryTurn, readLine_lineFeed]
    dsimp only
    rw [show trimLine [lineFeed] = [] from rfl, if_pos rfl, if_neg hs]
    rfl
  split
  · rw [if_pos ‹_›] at hturn
    exact readEntryLoop_error hturn
  · rw [if_neg ‹_›] at hturn
    exact readEntryLoop_stop hs hturn

/-- The empty line ends an entry. -/
theorem readEntryLoop_end {fields : List WireField} (hne : fields ≠ []) (rest : List UInt8) :
    readEntryLoop maxEntryBytes (stateAfter fields) (lineFeed :: rest) =
      if maxEntryBytes < (encodeEntry fields).length then .error (tooLarge maxEntryBytes)
      else .ok (fields.map WireField.field, cursorOf (fields.map WireField.field), rest) := by
  have htotal : (encodeEntry fields).length = (stateAfter fields).total + 1 := by
    simp [encodeEntry, stateAfter]
  have hfields : (stateAfter fields).fields ≠ [] := by simpa [stateAfter] using hne
  rw [htotal]
  exact readEntryLoop_lineFeed hfields rest

/-- No fields are within every limit. -/
theorem fieldsTaken_nil : FieldsTaken maxEntryBytes [] := ⟨by simp, by simp [encodeFields]⟩

/-- **A complete entry is read, or refused.** -/
theorem readEntry_encodeEntry {fields : List WireField} (hvalid : ValidEntry fields)
    (haccepted : ∀ f ∈ fields, f.Accepted)
    (hsize : (encodeEntry fields).length ≤ maxEntryBytes) (rest : List UInt8) :
    readEntry maxEntryBytes (encodeEntry fields ++ rest) =
      .ok (fields.map WireField.field, cursorOf (fields.map WireField.field), rest) := by
  have htaken : FieldsTaken maxEntryBytes ([] ++ fields) := by
    refine ⟨haccepted, ?_⟩
    simp only [encodeEntry, List.length_append, List.length_cons] at hsize
    simp only [List.nil_append]
    omega
  rw [readEntry, encodeEntry, List.append_assoc]
  refine (readEntryLoop_fields [] _ hvalid.valid htaken).trans ?_
  rw [List.nil_append, List.singleton_append, readEntryLoop_end hvalid.fields_ne,
    if_neg (Nat.not_lt.2 hsize)]

/-- An entry with a name that is not accepted, or over the limit, is refused as a whole. -/
theorem refuses_readEntry_encodeEntry {fields : List WireField} (hvalid : ValidEntry fields)
    (h : ¬ ((∀ f ∈ fields, f.Accepted) ∧ (encodeEntry fields).length ≤ maxEntryBytes))
    (rest : List UInt8) : Refuses (readEntry maxEntryBytes (encodeEntry fields ++ rest)) := by
  rw [readEntry, encodeEntry, List.append_assoc]
  by_cases htaken : FieldsTaken maxEntryBytes ([] ++ fields)
  · have hend : maxEntryBytes < (encodeEntry fields).length := by
      by_contra hsize
      exact h ⟨htaken.1, Nat.le_of_not_lt hsize⟩
    have hloop := readEntryLoop_fields [] ([lineFeed] ++ rest) hvalid.valid htaken
    rw [List.nil_append, List.singleton_append, readEntryLoop_end hvalid.fields_ne,
      if_pos hend] at hloop
    exact ⟨_, hloop, rfl⟩
  · exact refuses_readEntryLoop_fields [] _ hvalid.valid fieldsTaken_nil htaken

end

/-! ## `Next` -/

section

variable {collector : ExportCollector}

/-- The constructor sets the transport, whatever the metadata said. -/
theorem transport_of_newExportCollector {source : AdmissionMetadata} {maxEntryBytes : ℕ}
    (h : newExportCollector source maxEntryBytes = .ok collector) :
    collector.source.transport = transport := by
  unfold newExportCollector at h
  dsimp only at h
  split at h
  · exact nomatch h
  · split at h
    · exact nomatch h
    · obtain rfl := Except.ok.inj h
      rfl

/-- The canonical form is a JSON object, so it is never empty. -/
theorem encodeCanonical_ne (cursor : String) (fields : List ExportField) :
    encodeCanonical cursor fields ≠ [] := by
  intro h
  have htext : String.ofList (Json.write (Json.escapeAlso Json.htmlSpecial)
      (canonicalEntry cursor fields)) = "" := bytes_injective h
  rw [canonicalEntry, Json.write] at htext
  exact nomatch String.ofList_injective (htext.trans String.ofList_nil.symm)

variable (hsource : collector.source.transport = transport)

include hsource

/-- What `Next` does with fields that were read. -/
theorem next_of_readEntry {data rest : List UInt8} {fields : List WireField}
    (h : readEntry collector.maxEntryBytes data =
      .ok (fields.map WireField.field, cursorOf (fields.map WireField.field), rest)) :
    collector.next data =
      if collector.maxEntryBytes < (canonicalOf fields).length then
        .error (canonicalTooLarge collector.maxEntryBytes (canonicalOf fields).length)
      else .ok (collector.entryOf fields, rest) := by
  have hvalidate : (collector.entryOf fields).validate = .ok () := by
    have hraw : (collector.entryOf fields).rawRepresentation ≠ [] := encodeCanonical_ne _ _
    have hsame : (collector.entryOf fields).source.transport = transport := hsource
    rw [Entry.validate, if_neg (not_not.2 hsame), if_neg hraw]
  rw [ExportCollector.next, h, ok_bind]
  dsimp only
  rw [← canonicalOf]
  split
  · rfl
  · show (collector.entryOf fields).validate >>= _ = _
    rw [hvalidate, ok_bind]
    rfl

/-- **A complete entry within the limits is returned.** -/
theorem next_entry {fields : List WireField} (hvalid : ValidEntry fields)
    (htaken : EntryTaken collector.maxEntryBytes fields) (rest : List UInt8) :
    collector.next (encodeEntry fields ++ rest) = .ok (collector.entryOf fields, rest) := by
  obtain ⟨haccepted, hsize, hcanonical⟩ := htaken
  rw [next_of_readEntry hsource (readEntry_encodeEntry hvalid haccepted hsize rest),
    if_neg (Nat.not_lt.2 hcanonical)]

/-- **A complete entry out of the limits is refused.** -/
theorem refuses_next_entry {fields : List WireField} (hvalid : ValidEntry fields)
    (hnot : ¬ EntryTaken collector.maxEntryBytes fields) (rest : List UInt8) :
    Refuses (collector.next (encodeEntry fields ++ rest)) := by
  by_cases h : (∀ f ∈ fields, f.Accepted) ∧
      (encodeEntry fields).length ≤ collector.maxEntryBytes
  · rw [next_of_readEntry hsource (readEntry_encodeEntry hvalid h.1 h.2 rest), if_pos (by
      by_contra hcanonical
      exact hnot ⟨h.1, h.2, Nat.le_of_not_lt hcanonical⟩)]
    exact refuses_failure _
  · exact (refuses_readEntry_encodeEntry hvalid h rest).bind _

end

end Journald

end Cerbero
