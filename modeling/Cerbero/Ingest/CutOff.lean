import Cerbero.Ingest.Stream

/-!
# Ingest/CutOff — a stream that ends in the middle of an entry

`journalctl` may die at any byte.  What a collector then returns should be entries of the whole
stream, and it should report `io.EOF` only where an entry ends (`Faithful`).  It does not: at the
end of the stream it returns the fields it has, and an error at the start of a read wraps `io.EOF`.
**`faithful_iff`** says at which bytes a stream can be cut without harm.
-/

namespace Cerbero

namespace Journald

open Text

/-! ## Cuts -/

/-- Where a stream ends within an entry: after a field, in a name or in the value of a text field,
or some bytes after the name of a binary one. -/
inductive Cut
  | between
  | inName (name : List UInt8)
  | inText (name value : List UInt8)
  | inBinary (name value : List UInt8) (n : ℕ)
  deriving DecidableEq, Repr

/-- The cuts after the name of a binary field that look like the end of the stream: before its
length, before its value and before the byte that ends it. -/
def CutReported (maxEntryBytes : ℕ) (value : List UInt8) (n : ℕ) : Prop :=
  n = 0 ∨ (n = 8 ∨ n = 8 + value.length) ∧ value.length ≤ maxEntryBytes ∧ value.length < 2 ^ 63

namespace Cut

/-- What is there of the field. -/
def bytes : Cut → List UInt8
  | .between => []
  | .inName name => name
  | .inText name value => name ++ equalsSign :: value
  | .inBinary name value n => name ++ lineFeed :: (WireField.encodeValue value).take n

/-- What is there is a part of a field. -/
def Valid : Cut → Prop
  | .between => True
  | .inName name => name ≠ [] ∧ equalsSign ∉ name ∧ lineFeed ∉ name
  | .inText name value => equalsSign ∉ name ∧ lineFeed ∉ name ∧ lineFeed ∉ value
  | .inBinary name value n =>
      (WireField.binary name value).Valid ∧ n < (WireField.encodeValue value).length

/-- **The cuts a collector takes for the end of the stream**, after some fields.  It does not in the
middle of the eight bytes of a length, in the middle of a binary value, and where what there is of
the entry is out of its limits. -/
def Reported (maxEntryBytes : ℕ) (fields : List WireField) : Cut → Prop
  | .between => (canonicalOf fields).length ≤ maxEntryBytes
  | .inName name =>
      validateExportFieldName name = .ok () ∧
        (encodeFields fields).length + name.length ≤ maxEntryBytes
  | .inText name value =>
      validateExportFieldName name = .ok () ∧
        (encodeFields fields).length + (name.length + 1 + value.length) ≤ maxEntryBytes ∧
        (canonicalOf (fields ++ [.text name value])).length ≤ maxEntryBytes
  | .inBinary name value n =>
      validateExportFieldName name = .ok () ∧
        (encodeFields fields).length + (name.length + 1) ≤ maxEntryBytes ∧
        CutReported maxEntryBytes value n

end Cut

/-- The stream ends with an entry. -/
def AtBoundary (entries : List (List WireField)) (p : List UInt8) : Prop :=
  ∃ before, before <+: entries ∧ p = stream before

/-- The stream ends after some entries, some fields of the next one, and part of a field. -/
structure CutAt (entries : List (List WireField)) (p : List UInt8)
    (before : List (List WireField)) (fields : List WireField) (cut : Cut) : Prop where
  before_le : before <+: entries
  eq : p = stream before ++ (encodeFields fields ++ cut.bytes)
  validFields : ∀ f ∈ fields, f.Valid
  validCut : cut.Valid
  started : encodeFields fields ++ cut.bytes ≠ []

/-- **A cut does no harm**: it is after an entry, or after something that is out of the limits, or
where the collector reports another error than `io.EOF`. -/
def Harmless (maxEntryBytes : ℕ) (entries : List (List WireField)) (p : List UInt8) : Prop :=
  AtBoundary entries p ∨ ∃ before fields cut, CutAt entries p before fields cut ∧
    ((∃ e ∈ before, ¬ EntryTaken maxEntryBytes e) ∨ ¬ FieldsTaken maxEntryBytes fields ∨
      ¬ cut.Reported maxEntryBytes fields)

/-- **What a cut-off stream should yield**: entries of the whole one, and `io.EOF` only where an
entry ends. -/
def Faithful (collector : ExportCollector) (entries : List (List WireField)) (p : List UInt8) :
    Prop :=
  (collector.entries p).1 <+: (collector.entries (stream entries)).1 ∧
    ((collector.entries p).2.isEof = true → AtBoundary entries p)

/-! ## Every prefix is cut somewhere -/

theorem prefix_append_cases {α : Type} {l a b : List α} (h : l <+: a ++ b) :
    l <+: a ∨ ∃ l', l = a ++ l' ∧ l' <+: b := by
  obtain hle | hle := List.prefix_or_prefix_of_prefix h (List.prefix_append a b)
  · exact .inl hle
  · obtain ⟨l', rfl⟩ := hle
    exact .inr ⟨l', rfl, (List.prefix_append_right_inj a).1 h⟩

theorem not_mem_of_prefix {α : Type} {a : α} {l l' : List α} (h : l <+: l') (ha : a ∉ l') :
    a ∉ l := fun hmem => ha (h.subset hmem)

/-- A part of a name. -/
theorem exists_cut_name {r name : List UInt8} (h : r <+: name) (hequals : equalsSign ∉ name)
    (hname : lineFeed ∉ name) : ∃ cut : Cut, cut.Valid ∧ r = cut.bytes := by
  match r, h with
  | [], _ => exact ⟨.between, trivial, rfl⟩
  | b :: r, h =>
    exact ⟨.inName (b :: r), ⟨List.cons_ne_nil _ _, not_mem_of_prefix h hequals,
      not_mem_of_prefix h hname⟩, rfl⟩

theorem exists_cut_field {r : List UInt8} : ∀ {f : WireField}, f.Valid → r <+: f.encode →
    r ≠ f.encode → ∃ cut : Cut, cut.Valid ∧ r = cut.bytes
  | .text name value, ⟨hequals, hname, hvalue⟩, h, hne => by
      obtain h | ⟨r', rfl, hr⟩ := prefix_append_cases h
      · exact exists_cut_name h hequals hname
      match r', hr with
      | [], _ => exact exists_cut_name (by rw [List.append_nil]) hequals hname
      | b :: r', hr =>
        obtain ⟨rfl, htail⟩ := List.cons_prefix_cons.1 hr
        refine ⟨.inText name r', ⟨hequals, hname, ?_⟩, rfl⟩
        obtain heq | hpart := List.prefix_concat_iff.1 htail
        · exact absurd (by rw [heq]; rfl) hne
        · exact not_mem_of_prefix hpart hvalue
  | .binary name value, hvalid, h, hne => by
      obtain ⟨-, hequals, hname, -⟩ := id hvalid
      obtain h | ⟨r', rfl, hr⟩ := prefix_append_cases h
      · exact exists_cut_name h hequals hname
      match r', hr with
      | [], _ => exact exists_cut_name (by rw [List.append_nil]) hequals hname
      | b :: r', hr =>
        obtain ⟨rfl, htail⟩ := List.cons_prefix_cons.1 hr
        refine ⟨.inBinary name value r'.length, ⟨hvalid, ?_⟩, ?_⟩
        · refine lt_of_le_of_ne htail.length_le fun hlength => hne ?_
          rw [htail.eq_of_length hlength]
          rfl
        · rw [Cut.bytes, ← List.prefix_iff_eq_take.1 htail]

/-- Every part of an entry is some fields and a part of one. -/
theorem exists_cut_entry {r : List UInt8} : ∀ {fields : List WireField},
    (∀ f ∈ fields, f.Valid) → r <+: encodeEntry fields → r ≠ encodeEntry fields →
      ∃ before cut, (∀ f ∈ before, f.Valid) ∧ Cut.Valid cut ∧
        r = encodeFields before ++ cut.bytes
  | [], _, h, hne => by
      obtain heq | h := List.prefix_concat_iff.1 h
      · exact absurd heq hne
      · exact ⟨[], .between, by simp, trivial, List.prefix_nil.1 h⟩
  | f :: fields, hvalid, h, hne => by
      have hentry : encodeEntry (f :: fields) = f.encode ++ encodeEntry fields := by
        rw [encodeEntry, encodeFields_cons, List.append_assoc]
        rfl
      rw [hentry] at h hne
      have hf := hvalid f List.mem_cons_self
      have hfields : ∀ g ∈ fields, g.Valid := fun g hg => hvalid g (List.mem_cons_of_mem _ hg)
      have hwhole : ∀ {r' : List UInt8}, r' <+: encodeEntry fields → r' ≠ encodeEntry fields →
          ∃ before cut, (∀ g ∈ before, g.Valid) ∧ Cut.Valid cut ∧
            f.encode ++ r' = encodeFields before ++ cut.bytes := by
        intro r' h' hne'
        obtain ⟨before, cut, hbefore, hcut, rfl⟩ := exists_cut_entry hfields h' hne'
        refine ⟨f :: before, cut, ?_, hcut, by rw [encodeFields_cons, List.append_assoc]⟩
        exact List.forall_mem_cons.2 ⟨hf, hbefore⟩
      obtain h | ⟨r', rfl, hr⟩ := prefix_append_cases h
      · by_cases heq : r = f.encode
        · obtain ⟨before, cut, hbefore⟩ := hwhole List.nil_prefix (by simp [encodeEntry])
          rw [List.append_nil, ← heq] at hbefore
          exact ⟨before, cut, hbefore⟩
        · obtain ⟨cut, hcut, rfl⟩ := exists_cut_field hf h heq
          exact ⟨[], cut, by simp, hcut, rfl⟩
      · exact hwhole hr fun heq => hne (by rw [heq])

/-- **Every prefix of a stream ends with an entry, or within one.** -/
theorem exists_cut {p : List UInt8} : ∀ {entries : List (List WireField)},
    (∀ e ∈ entries, ValidEntry e) → p <+: stream entries →
      AtBoundary entries p ∨ ∃ before fields cut, CutAt entries p before fields cut
  | [], _, h => .inl ⟨[], List.nil_prefix, List.prefix_nil.1 h⟩
  | e :: entries, hvalid, h => by
      have hstream : stream (e :: entries) = encodeEntry e ++ stream entries := List.flatMap_cons
      rw [hstream] at h
      have hentries : ∀ e ∈ entries, ValidEntry e := fun e he =>
        hvalid e (List.mem_cons_of_mem _ he)
      have hlater : ∀ {p' : List UInt8}, p' <+: stream entries →
          AtBoundary (e :: entries) (encodeEntry e ++ p') ∨ ∃ before fields cut,
            CutAt (e :: entries) (encodeEntry e ++ p') before fields cut := by
        intro p' h'
        obtain ⟨before, hbefore, rfl⟩ | ⟨before, fields, cut, hcut⟩ := exists_cut hentries h'
        · exact .inl ⟨e :: before, List.cons_prefix_cons.2 ⟨rfl, hbefore⟩, rfl⟩
        · refine .inr ⟨e :: before, fields, cut, ⟨List.cons_prefix_cons.2 ⟨rfl, hcut.before_le⟩, ?_,
            hcut.validFields, hcut.validCut, hcut.started⟩⟩
          rw [hcut.eq, ← List.append_assoc]
          rfl
      obtain h | ⟨p', rfl, hp⟩ := prefix_append_cases h
      · by_cases heq : p = encodeEntry e
        · have := hlater (List.nil_prefix (l := stream entries))
          rwa [List.append_nil, ← heq] at this
        · obtain ⟨fields, cut, hfields, hcut, rfl⟩ :=
            exists_cut_entry (hvalid e List.mem_cons_self).valid h heq
          by_cases hempty : encodeFields fields ++ cut.bytes = []
          · exact .inl ⟨[], List.nil_prefix, hempty⟩
          · exact .inr ⟨[], fields, cut, List.nil_prefix, rfl, hfields, hcut, hempty⟩
      · exact hlater hp

/-! ## What is read of a cut -/

section

variable {maxEntryBytes : ℕ}

/-- A read that the end of the stream cuts off. -/
theorem readFull_of_lt {n : ℕ} {data : List UInt8} (h : data.length < n) :
    readFull n data = .error (if data.length = 0 then .eof else .unexpectedEof) := by
  rw [readFull, if_neg (Nat.not_le.2 h)]
  simp only [List.length_eq_zero_iff]
  split <;> rfl

/-- Within the eight bytes of its length. -/
theorem readBinaryValue_of_lt {data : List UInt8} (h : data.length < 8) :
    readBinaryValue maxEntryBytes data = .error ⟨"read journald binary length",
      some (if data.length = 0 then .eof else .unexpectedEof)⟩ := by
  rw [readBinaryValue, readFull_of_lt h]
  rfl

/-- After its length: within its value, or before the byte that ends it. -/
theorem readBinaryValue_cut {value : List UInt8} {m : ℕ} (hm : m ≤ value.length)
    (hsize : value.length ≤ maxEntryBytes) (hint : value.length < 2 ^ 63) :
    readBinaryValue maxEntryBytes (toLittleEndian 8 value.length ++ (value ++ [lineFeed]).take m) =
      .error (if m < value.length then ⟨"read journald binary value",
          some (if m = 0 then .eof else .unexpectedEof)⟩
        else ⟨"read journald binary terminator", some .eof⟩) := by
  rw [readBinaryValue_append (by omega), if_neg (Nat.not_lt.2 hsize), if_neg (Nat.not_le.2 hint)]
  have hpart : ((value ++ [lineFeed]).take m).length = m :=
    List.length_take_of_le (by rw [List.length_append]; omega)
  split
  · rw [readFull_of_lt (by rwa [hpart]), hpart]
    rfl
  · obtain rfl : m = value.length := by omega
    have hread := readFull_append value []
    rw [List.append_nil] at hread
    rw [List.take_left, hread]
    rfl

variable (maxEntryBytes) in
/-- **A binary value that is cut off.** -/
theorem readBinaryValue_take {value : List UInt8} {n : ℕ} (hlarge : value.length < 2 ^ 64)
    (hn : n < (WireField.encodeValue value).length) :
    (CutReported maxEntryBytes value n →
      ReportsEof (readBinaryValue maxEntryBytes ((WireField.encodeValue value).take n))) ∧
    (¬ CutReported maxEntryBytes value n →
      Refuses (readBinaryValue maxEntryBytes ((WireField.encodeValue value).take n))) := by
  have hsize : (WireField.encodeValue value).length = 8 + (value.length + 1) := by
    simp only [WireField.encodeValue, List.length_append, length_toLittleEndian, List.length_cons,
      List.length_nil]
  unfold CutReported
  by_cases hlength : n < 8
  · have htake : ((WireField.encodeValue value).take n).length = n :=
      List.length_take_of_le (Nat.le_of_lt hn)
    rw [readBinaryValue_of_lt (by rwa [htake]), htake]
    by_cases hzero : n = 0
    · rw [if_pos hzero]
      exact ⟨fun _ => ⟨_, rfl, rfl⟩, fun hnot => absurd (.inl hzero) hnot⟩
    · rw [if_neg hzero]
      exact ⟨fun h => by omega, fun _ => ⟨_, rfl, rfl⟩⟩
  · obtain ⟨m, rfl⟩ := Nat.exists_eq_add_of_le (Nat.le_of_not_lt hlength)
    have htake : (WireField.encodeValue value).take (8 + m) =
        toLittleEndian 8 value.length ++ (value ++ [lineFeed]).take m := by
      rw [WireField.encodeValue, List.take_append, length_toLittleEndian, Nat.add_sub_cancel_left,
        List.take_of_length_le (by rw [length_toLittleEndian]; omega)]
    rw [htake]
    by_cases hbinary : maxEntryBytes < value.length ∨ 2 ^ 63 ≤ value.length
    · exact ⟨fun h => by omega, fun _ => refuses_readBinaryValue hlarge hbinary _⟩
    · rw [not_or, Nat.not_lt, Nat.not_le] at hbinary
      rw [readBinaryValue_cut (by omega) hbinary.1 hbinary.2]
      by_cases hvalue : m < value.length
      · rw [if_pos hvalue]
        by_cases hzero : m = 0
        · rw [if_pos hzero]
          exact ⟨fun _ => ⟨_, rfl, rfl⟩, fun hnot => absurd (by omega) hnot⟩
        · rw [if_neg hzero]
          exact ⟨fun h => by omega, fun _ => ⟨_, rfl, rfl⟩⟩
      · rw [if_neg hvalue]
        exact ⟨fun _ => ⟨_, rfl, rfl⟩, fun hnot => absurd (by omega) hnot⟩

variable (maxEntryBytes) in
/-- A line without a value that is read as the name of a binary field. -/
theorem readEntryLoop_name (s : EntryState) {data name line rest : List UInt8} {eof : Bool}
    (hline : readLine data = (line, eof, rest)) (htrim : trimLine line = name) (hne : name ≠ [])
    (hequals : equalsSign ∉ name) :
    (validateExportFieldName name = .ok () ∧ s.total + line.length ≤ maxEntryBytes ∧
        ReportsEof (readBinaryValue maxEntryBytes rest) →
      ReportsEof (readEntryLoop maxEntryBytes s data)) ∧
    (¬ (validateExportFieldName name = .ok () ∧ s.total + line.length ≤ maxEntryBytes) ∨
        Refuses (readBinaryValue maxEntryBytes rest) →
      Refuses (readEntryLoop maxEntryBytes s data)) := by
  have hturn := readEntryTurn_content maxEntryBytes s hline (by rwa [htrim])
  rw [htrim, readField_binary hequals] at hturn
  constructor
  · rintro ⟨hname, hsize, e, hread, he⟩
    rw [if_neg (Nat.not_lt.2 hsize), hname, ok_bind, hread] at hturn
    exact ⟨e, readEntryLoop_error hturn, he⟩
  · intro h
    by_cases hsize : maxEntryBytes < s.total + line.length
    · rw [if_pos hsize] at hturn
      exact ⟨_, readEntryLoop_error hturn, rfl⟩
    rw [if_neg hsize] at hturn
    by_cases hname : validateExportFieldName name = .ok ()
    · obtain hnot | ⟨e, hread, he⟩ := h
      · exact absurd ⟨hname, Nat.le_of_not_lt hsize⟩ hnot
      · rw [hname, ok_bind, hread] at hturn
        exact ⟨e, readEntryLoop_error hturn, he⟩
    · obtain ⟨e, herror, he⟩ := refuses_validateExportFieldName hname
      rw [herror] at hturn
      exact ⟨e, readEntryLoop_error hturn, he⟩

variable (maxEntryBytes) in
/-- A text field that is cut off is read as it is. -/
theorem readEntryLoop_text (fields : List WireField) {name value : List UInt8}
    (hcut : (Cut.inText name value).Valid) :
    (validateExportFieldName name = .ok () ∧
        (encodeFields fields).length + (name.length + 1 + value.length) ≤ maxEntryBytes →
      readEntryLoop maxEntryBytes (stateAfter fields) (name ++ equalsSign :: value) =
        .ok ((fields ++ [WireField.text name value]).map WireField.field,
          cursorOf ((fields ++ [WireField.text name value]).map WireField.field), [])) ∧
    (¬ (validateExportFieldName name = .ok () ∧
        (encodeFields fields).length + (name.length + 1 + value.length) ≤ maxEntryBytes) →
      Refuses (readEntryLoop maxEntryBytes (stateAfter fields) (name ++ equalsSign :: value))) := by
  obtain ⟨hequals, hname, hvalue⟩ := hcut
  have hfree : lineFeed ∉ name ++ equalsSign :: value := by
    simp only [List.mem_append, List.mem_cons, not_or]
    exact ⟨hname, by decide, hvalue⟩
  have hlength : (stateAfter fields).total + (name ++ equalsSign :: value).length =
      (encodeFields fields).length + (name.length + 1 + value.length) := by
    simp only [stateAfter, List.length_append, List.length_cons]
    omega
  have hturn := readEntryTurn_content maxEntryBytes (stateAfter fields) (readLine_cut hfree)
    (by rw [trimLine_cut hfree]; simp)
  rw [trimLine_cut hfree, readField_text hequals, hlength] at hturn
  constructor
  · rintro ⟨hok, hsize⟩
    rw [if_neg (Nat.not_lt.2 hsize), hok] at hturn
    have hstate := stateAfter_concat fields (.text name value)
    have hfields := congrArg EntryState.fields hstate
    have hcursor := congrArg EntryState.cursor hstate
    refine (readEntryLoop_stop ?_ hturn).trans ?_
    · simp [EntryState.push]
    · exact congrArg Except.ok (Prod.ext hfields.symm (Prod.ext hcursor.symm rfl))
  · intro hnot
    split at hturn
    · exact ⟨_, readEntryLoop_error hturn, rfl⟩
    · obtain ⟨e, herror, he⟩ := refuses_validateExportFieldName fun hok =>
        hnot ⟨hok, Nat.le_of_not_lt ‹_›⟩
      rw [herror] at hturn
      exact ⟨e, readEntryLoop_error hturn, he⟩

/-- A stream that ends after a field. -/
theorem readEntryLoop_between {fields : List WireField} (hne : fields ≠ []) :
    readEntryLoop maxEntryBytes (stateAfter fields) [] =
      .ok (fields.map WireField.field, cursorOf (fields.map WireField.field), []) := by
  have hfields : (stateAfter fields).fields ≠ [] := by simpa [stateAfter] using hne
  refine readEntryLoop_stop hfields ?_
  rw [readEntryTurn]
  exact if_neg hfields

end

section

variable {collector : ExportCollector} (hsource : collector.source.transport = transport)

include hsource

/-- The fields that are there are returned as an entry. -/
theorem next_returned {fields fields' : List WireField} {rest : List UInt8}
    (hvalid : ∀ f ∈ fields, f.Valid) (htaken : FieldsTaken collector.maxEntryBytes fields)
    (h : readEntryLoop collector.maxEntryBytes (stateAfter fields) rest =
      .ok (fields'.map WireField.field, cursorOf (fields'.map WireField.field), [])) :
    collector.next (encodeFields fields ++ rest) =
      if collector.maxEntryBytes < (canonicalOf fields').length then
        .error (canonicalTooLarge collector.maxEntryBytes (canonicalOf fields').length)
      else .ok (collector.entryOf fields', []) :=
  next_of_readEntry hsource ((readEntryLoop_fields [] rest hvalid htaken).trans h)

/-- **`Next` on part of an entry**: it returns what there is, or reports an error. -/
theorem next_cut {fields : List WireField} {cut : Cut} (hvalid : ∀ f ∈ fields, f.Valid)
    (htaken : FieldsTaken collector.maxEntryBytes fields) (hcut : cut.Valid)
    (hstarted : encodeFields fields ++ cut.bytes ≠ []) :
    (cut.Reported collector.maxEntryBytes fields →
      ReportsEof (collector.next (encodeFields fields ++ cut.bytes)) ∨
        ∃ entry, collector.next (encodeFields fields ++ cut.bytes) = .ok (entry, [])) ∧
    (¬ cut.Reported collector.maxEntryBytes fields →
      Refuses (collector.next (encodeFields fields ++ cut.bytes))) := by
  have hread : ∀ rest, readEntry collector.maxEntryBytes (encodeFields fields ++ rest) =
      readEntryLoop collector.maxEntryBytes (stateAfter fields) rest := fun rest =>
    readEntryLoop_fields [] rest hvalid htaken
  cases cut with
  | between =>
    have hne : fields ≠ [] := fun h => hstarted (by rw [h]; rfl)
    rw [Cut.bytes, next_returned hsource hvalid htaken (readEntryLoop_between hne)]
    refine ⟨fun h => .inr ⟨_, if_neg (Nat.not_lt.2 h)⟩, fun h => ?_⟩
    rw [if_pos (Nat.lt_of_not_le h)]
    exact refuses_failure _
  | inName name =>
    obtain ⟨hne, hequals, hname⟩ := hcut
    have hloop := readEntryLoop_name collector.maxEntryBytes (stateAfter fields)
      (readLine_cut hname) (trimLine_cut hname) hne hequals
    have hend : ReportsEof (readBinaryValue collector.maxEntryBytes []) :=
      ⟨_, readBinaryValue_of_lt (by decide), rfl⟩
    rw [Cut.bytes, ExportCollector.next, hread]
    exact ⟨fun h => .inl ((hloop.1 ⟨h.1, h.2, hend⟩).bind _), fun h => (hloop.2 (.inl h)).bind _⟩
  | inText name value =>
    have hloop := readEntryLoop_text collector.maxEntryBytes fields hcut
    constructor
    · rintro ⟨hname, hsize, hcanonical⟩
      rw [Cut.bytes, next_returned hsource hvalid htaken (hloop.1 ⟨hname, hsize⟩),
        if_neg (Nat.not_lt.2 hcanonical)]
      exact .inr ⟨_, rfl⟩
    · intro hnot
      by_cases hok : validateExportFieldName name = .ok () ∧ (encodeFields fields).length +
          (name.length + 1 + value.length) ≤ collector.maxEntryBytes
      · rw [Cut.bytes, next_returned hsource hvalid htaken (hloop.1 hok),
          if_pos (Nat.lt_of_not_le fun hcanonical => hnot ⟨hok.1, hok.2, hcanonical⟩)]
        exact refuses_failure _
      · rw [Cut.bytes, ExportCollector.next, hread]
        exact (hloop.2 hok).bind _
  | inBinary name value n =>
    obtain ⟨⟨hne, hequals, hname, hlarge⟩, hn⟩ := hcut
    have hloop := readEntryLoop_name collector.maxEntryBytes (stateAfter fields)
      (readLine_append hname ((WireField.encodeValue value).take n))
      (trimLine_append name) hne hequals
    obtain ⟨heof, hrefuses⟩ := readBinaryValue_take collector.maxEntryBytes hlarge hn
    have hlength : (stateAfter fields).total + (name ++ [lineFeed]).length =
        (encodeFields fields).length + (name.length + 1) := by
      rw [List.length_append]
      rfl
    rw [hlength] at hloop
    rw [Cut.bytes, ExportCollector.next, hread]
    constructor
    · rintro ⟨hok, hsize, hcut⟩
      exact .inl ((hloop.1 ⟨hok, hsize, heof hcut⟩).bind _)
    · intro hnot
      by_cases hok : validateExportFieldName name = .ok () ∧ (encodeFields fields).length +
          (name.length + 1) ≤ collector.maxEntryBytes
      · exact (hloop.2 (.inr (hrefuses fun hcut => hnot ⟨hok.1, hok.2, hcut⟩))).bind _
      · exact (hloop.2 (.inl hok)).bind _

omit hsource in
theorem entries_of_ok {data rest : List UInt8} {entry : Entry}
    (h : collector.next data = .ok (entry, rest)) :
    collector.entries data = (entry :: (collector.entries rest).1, (collector.entries rest).2) := by
  rw [ExportCollector.entries, h]

omit hsource in
theorem entries_of_error {data : List UInt8} {e : ReadError}
    (h : collector.next data = .error e) : collector.entries data = ([], e) := by
  rw [ExportCollector.entries, h]

omit hsource in
theorem entries_empty : collector.entries [] = ([], ioEof) := by
  have hread : readEntry collector.maxEntryBytes [] = .error ioEof := readEntryLoop_error rfl
  refine entries_of_error ?_
  rw [ExportCollector.next, hread]
  rfl

/-- Entries within the limits are returned one after the other. -/
theorem entries_stream : ∀ {before : List (List WireField)} (rest : List UInt8),
    (∀ e ∈ before, ValidEntry e) → (∀ e ∈ before, EntryTaken collector.maxEntryBytes e) →
    collector.entries (stream before ++ rest) =
      (before.map collector.entryOf ++ (collector.entries rest).1, (collector.entries rest).2)
  | [], rest, _, _ => rfl
  | e :: before, rest, hvalid, htaken => by
      obtain ⟨he, hbefore⟩ := List.forall_mem_cons.1 hvalid
      obtain ⟨hte, htbefore⟩ := List.forall_mem_cons.1 htaken
      have hstream : stream (e :: before) ++ rest = encodeEntry e ++ (stream before ++ rest) := by
        rw [← List.append_assoc]
        rfl
      rw [hstream, entries_of_ok (next_entry hsource he hte _),
        entries_stream rest hbefore htbefore]
      rfl

/-- What comes after an entry out of the limits does not matter. -/
theorem entries_refused : ∀ {before : List (List WireField)}, (∀ e ∈ before, ValidEntry e) →
    (∃ e ∈ before, ¬ EntryTaken collector.maxEntryBytes e) →
    ∃ found, ∀ rest, (collector.entries (stream before ++ rest)).1 = found ∧
      (collector.entries (stream before ++ rest)).2.isEof = false
  | [], _, hex => by simp at hex
  | e :: before, hvalid, hex => by
      obtain ⟨he, hbefore⟩ := List.forall_mem_cons.1 hvalid
      have hstream : ∀ rest, stream (e :: before) ++ rest =
          encodeEntry e ++ (stream before ++ rest) := fun rest => by
        rw [← List.append_assoc]
        rfl
      by_cases htaken : EntryTaken collector.maxEntryBytes e
      · have hlater : ∃ e ∈ before, ¬ EntryTaken collector.maxEntryBytes e := by
          obtain ⟨e', he', hnot⟩ := hex
          obtain rfl | he' := List.mem_cons.1 he'
          · exact absurd htaken hnot
          · exact ⟨e', he', hnot⟩
        obtain ⟨found, hfound⟩ := entries_refused hbefore hlater
        refine ⟨collector.entryOf e :: found, fun rest => ?_⟩
        rw [hstream, entries_of_ok (next_entry hsource he htaken _), (hfound rest).1]
        exact ⟨rfl, (hfound rest).2⟩
      · refine ⟨[], fun rest => ?_⟩
        obtain ⟨error, hnext, herror⟩ := refuses_next_entry hsource he htaken
          (stream before ++ rest)
        rw [hstream, entries_of_error hnext]
        exact ⟨rfl, herror⟩

end

/-! ## The result -/

section

variable {collector : ExportCollector} (hsource : collector.source.transport = transport)
  {entries before : List (List WireField)} (hvalid : ∀ e ∈ entries, ValidEntry e)
  (hle : before <+: entries)

include hsource hvalid hle

/-- Nothing after the entries that are there: what is returned is returned of the whole stream. -/
theorem entries_start {rest : List UInt8}
    (hrest : (collector.entries rest).1 = [] ∨ ∃ e ∈ before, ¬ EntryTaken collector.maxEntryBytes e) :
    (collector.entries (stream before ++ rest)).1 <+:
      (collector.entries (stream entries)).1 := by
  have hbefore : ∀ e ∈ before, ValidEntry e := fun e he => hvalid e (hle.subset he)
  obtain ⟨after, rfl⟩ := hle
  have hwhole : stream (before ++ after) = stream before ++ stream after := List.flatMap_append
  rw [hwhole]
  by_cases htaken : ∀ e ∈ before, EntryTaken collector.maxEntryBytes e
  · have hnone := hrest.resolve_right fun ⟨e, he, hnot⟩ => hnot (htaken e he)
    rw [entries_stream hsource rest hbefore htaken, entries_stream hsource _ hbefore htaken, hnone,
      List.append_nil]
    exact List.prefix_append _ _
  · push Not at htaken
    obtain ⟨found, hfound⟩ := entries_refused hsource hbefore htaken
    rw [(hfound rest).1, (hfound _).1]

theorem isEof_entries {rest : List UInt8} (hrest : (collector.entries rest).2.isEof = false ∨
    ∃ e ∈ before, ¬ EntryTaken collector.maxEntryBytes e) :
    (collector.entries (stream before ++ rest)).2.isEof = false := by
  have hbefore : ∀ e ∈ before, ValidEntry e := fun e he => hvalid e (hle.subset he)
  by_cases htaken : ∀ e ∈ before, EntryTaken collector.maxEntryBytes e
  · rw [entries_stream hsource rest hbefore htaken]
    exact hrest.resolve_right fun ⟨e, he, hnot⟩ => hnot (htaken e he)
  · push Not at htaken
    obtain ⟨found, hfound⟩ := entries_refused hsource hbefore htaken
    exact (hfound rest).2

end

/-- What a collector makes of part of an entry, where it is not the end of the stream. -/
theorem refuses_next_cut {collector : ExportCollector}
    (hsource : collector.source.transport = transport) {fields : List WireField} {cut : Cut}
    (hvalid : ∀ f ∈ fields, f.Valid) (hcut : cut.Valid)
    (hstarted : encodeFields fields ++ cut.bytes ≠ [])
    (h : ¬ FieldsTaken collector.maxEntryBytes fields ∨
      ¬ cut.Reported collector.maxEntryBytes fields) :
    Refuses (collector.next (encodeFields fields ++ cut.bytes)) := by
  by_cases htaken : FieldsTaken collector.maxEntryBytes fields
  · exact (next_cut hsource hvalid htaken hcut hstarted).2 (h.resolve_left (not_not.2 htaken))
  · exact (refuses_readEntryLoop_fields [] cut.bytes hvalid fieldsTaken_nil htaken).bind _

/-- **Exactly which cuts do no harm.** -/
theorem faithful_iff {collector : ExportCollector} {source : AdmissionMetadata}
    {maxEntryBytes : ℕ} (hbuilt : newExportCollector source maxEntryBytes = .ok collector)
    {entries : List (List WireField)} (hvalid : ∀ e ∈ entries, ValidEntry e) {p : List UInt8}
    (hp : p <+: stream entries) :
    Faithful collector entries p ↔ Harmless collector.maxEntryBytes entries p := by
  have hsource := transport_of_newExportCollector hbuilt
  constructor
  · rintro ⟨-, heof⟩
    obtain hboundary | ⟨before, fields, cut, hcut⟩ := exists_cut hvalid hp
    · exact .inl hboundary
    by_contra hharm
    simp only [Harmless, not_or, not_exists, not_and, not_not] at hharm
    obtain ⟨hnot, htaken, hfields, hreported⟩ :
        ¬ AtBoundary entries p ∧ (∀ e ∈ before, EntryTaken collector.maxEntryBytes e) ∧
          FieldsTaken collector.maxEntryBytes fields ∧
          cut.Reported collector.maxEntryBytes fields :=
      ⟨hharm.1, hharm.2 before fields cut hcut⟩
    refine hnot (heof ?_)
    rw [hcut.eq, entries_stream hsource _ (fun e he => hvalid e (hcut.before_le.subset he))
      htaken]
    obtain ⟨e, hnext, he⟩ | ⟨entry, hnext⟩ :=
      (next_cut hsource hcut.validFields hfields hcut.validCut hcut.started).1 hreported
    · rw [entries_of_error hnext]
      exact he
    · rw [entries_of_ok hnext, entries_empty]
      rfl
  · rintro (⟨before, hle, rfl⟩ | ⟨before, fields, cut, hcut, hsafe⟩)
    · have hnil := entries_start hsource hvalid hle (.inl (congrArg Prod.fst entries_empty))
      rw [List.append_nil] at hnil
      exact ⟨hnil, fun _ => ⟨before, hle, rfl⟩⟩
    · have hrest : ((collector.entries (encodeFields fields ++ cut.bytes)).1 = [] ∧
          (collector.entries (encodeFields fields ++ cut.bytes)).2.isEof = false) ∨
          ∃ e ∈ before, ¬ EntryTaken collector.maxEntryBytes e := by
        obtain hentry | hsafe := hsafe
        · exact .inr hentry
        · obtain ⟨e, hnext, he⟩ := refuses_next_cut hsource hcut.validFields hcut.validCut
            hcut.started hsafe
          rw [entries_of_error hnext]
          exact .inl ⟨rfl, he⟩
      rw [hcut.eq]
      refine ⟨entries_start hsource hvalid hcut.before_le (hrest.imp_left And.left),
        fun heof => ?_⟩
      rw [isEof_entries hsource hvalid hcut.before_le (hrest.imp_left And.right)] at heof
      exact nomatch heof

/-! ## A sample -/

def sampleSource : AdmissionMetadata where
  requestId := "request-a"
  tenantId := "tenant-a"
  sourceId := "source-a"
  sensorId := "sensor-a"
  remoteIdentity := "host-a"
  transport := transport

def sampleCollector : ExportCollector := ⟨sampleSource, 4096⟩

/-- The field that holds the cursor. -/
def sampleCursor : WireField := .text cursorName (Text.bytes "s=1")

/-- An entry with a cursor and a message. -/
def sampleEntry : List WireField :=
  [sampleCursor, .text (Text.bytes "MESSAGE") (Text.bytes "ok")]

theorem validEntry_sampleEntry : ValidEntry sampleEntry := ⟨by decide, by decide +kernel⟩

/-- An entry whose message has two lines. -/
def sampleBinary : List WireField :=
  [.text cursorName (Text.bytes "s=2"), .binary (Text.bytes "MESSAGE") (Text.bytes "a\nb")]

theorem validEntry_sampleBinary : ValidEntry sampleBinary := ⟨by decide, by decide +kernel⟩

/-- The stream of the sample entry, without its last three bytes. -/
def cutMessage : List UInt8 := Text.bytes "__CURSOR=s=1\nMESSAGE=o"

/-- The stream of both entries, up to the first byte of the second message. -/
def cutBinary : List UInt8 :=
  stream [sampleEntry] ++ (encodeFields [.text cursorName (Text.bytes "s=2")] ++
    (Cut.inBinary (Text.bytes "MESSAGE") (Text.bytes "a\nb") 9).bytes)

/-- What is left of the message is returned as an entry. -/
theorem not_prefix_cutMessage : ¬ (sampleCollector.entries cutMessage).1 <+:
    (sampleCollector.entries (stream [sampleEntry])).1 := by
  have hcut : cutMessage =
      encodeFields [sampleCursor] ++ (Text.bytes "MESSAGE" ++ equalsSign :: Text.bytes "o") := by
    decide +kernel
  have hvalid : (Cut.inText (Text.bytes "MESSAGE") (Text.bytes "o")).Valid :=
    ⟨by decide +kernel, by decide +kernel, by decide +kernel⟩
  have hloop := (readEntryLoop_text sampleCollector.maxEntryBytes [sampleCursor] hvalid).1
    (by decide +kernel)
  have hsource : sampleCollector.source.transport = transport := rfl
  have hpart := next_returned hsource (by decide +kernel) (by decide +kernel) hloop
  rw [if_neg (by decide +kernel), ← hcut] at hpart
  have htaken : EntryTaken sampleCollector.maxEntryBytes sampleEntry := by decide +kernel
  have hwhole := next_entry hsource validEntry_sampleEntry htaken []
  have hstream : stream [sampleEntry] = encodeEntry sampleEntry ++ [] := rfl
  rw [entries_of_ok hpart, hstream, entries_of_ok hwhole, entries_empty, List.cons_prefix_cons]
  rintro ⟨hentry, -⟩
  have hcanonical : canonicalOf
      ([sampleCursor] ++ [.text (Text.bytes "MESSAGE") (Text.bytes "o")]) ≠
        canonicalOf sampleEntry := by decide +kernel
  have hraw := congrArg Entry.rawRepresentation hentry
  rw [rawRepresentation_entryOf, rawRepresentation_entryOf] at hraw
  exact hcanonical hraw

/-- A binary value is cut. -/
theorem cutAt_cutBinary : CutAt [sampleEntry, sampleBinary] cutBinary [sampleEntry]
    [.text cursorName (Text.bytes "s=2")]
    (.inBinary (Text.bytes "MESSAGE") (Text.bytes "a\nb") 9) where
  before_le := List.prefix_append _ [sampleBinary]
  eq := rfl
  validFields := by decide +kernel
  validCut := ⟨by decide +kernel, by decide +kernel⟩
  started := by decide +kernel

/-- A cut in a binary value does no harm, and one in the value of a text field does. -/
theorem faithful_iff_sample :
    newExportCollector sampleSource 4096 = .ok sampleCollector ∧
      Faithful sampleCollector [sampleEntry, sampleBinary] cutBinary ∧
      ¬ Harmless 4096 [sampleEntry] cutMessage := by
  have hbuilt : newExportCollector sampleSource 4096 = .ok sampleCollector := rfl
  have hfirst : ∀ e ∈ [sampleEntry], ValidEntry e :=
    List.forall_mem_singleton.2 validEntry_sampleEntry
  have hboth : ∀ e ∈ [sampleEntry, sampleBinary], ValidEntry e :=
    List.forall_mem_cons.2
      ⟨validEntry_sampleEntry, List.forall_mem_singleton.2 validEntry_sampleBinary⟩
  have hreported : ¬ (Cut.inBinary (Text.bytes "MESSAGE") (Text.bytes "a\nb") 9).Reported 4096
      [.text cursorName (Text.bytes "s=2")] := by
    rintro ⟨-, -, h | ⟨h | h, -⟩⟩
    · exact absurd h (by decide)
    · exact absurd h (by decide)
    · exact absurd h (by decide +kernel)
  refine ⟨hbuilt, ?_, fun hharmless => ?_⟩
  · exact (faithful_iff hbuilt hboth (by decide +kernel)).2
      (.inr ⟨_, _, _, cutAt_cutBinary, .inr (.inr hreported)⟩)
  · exact not_prefix_cutMessage
      ((faithful_iff hbuilt hfirst (by decide +kernel)).2 hharmless).1

/-- **The last byte of a message is missing, and the rest of it is returned as an entry.** -/
theorem not_faithful_cutMessage :
    (∀ e ∈ [sampleEntry], ValidEntry e) ∧
      Text.bytes "__CURSOR=s=1\nMESSAGE=o" <+: stream [sampleEntry] ∧
      ¬ Faithful sampleCollector [sampleEntry] (Text.bytes "__CURSOR=s=1\nMESSAGE=o") :=
  ⟨fun _ he => List.mem_singleton.1 he ▸ validEntry_sampleEntry, by decide +kernel,
    fun hfaithful => not_prefix_cutMessage hfaithful.1⟩

end Journald

end Cerbero
