import Cerbero.Ingest.CutOff
import Cerbero.Normalizer.JournaldRoundTrip

/-!
# Ingest/StreamRoundTrip — a stream is read back

A stream of entries with empty lines between them is returned entry by entry, each with its fields
and its cursor, up to `io.EOF` (`ReadBack`).  The empty lines before an entry are counted as bytes
of it, so too many of them make the collector refuse an entry that is within the limits:
**`readBack_iff`** says how many it takes.
-/

namespace Cerbero

namespace Journald

open Text

/-! ## What a canonical form stands for -/

/-- The text of a member. -/
def memberText (key : String) (members : List (String × Json)) : Option String :=
  match SortedMap.find key members with
  | some (.string text) => some text
  | _ => none

/-- The field of a member of `fields`. -/
def fieldOfJson : Json → Option ExportField
  | .object members => do
    let name ← memberText "name" members
    let encoding ← memberText "encoding" members
    let value ← memberText "value" members
    let value ← if encoding = "utf8" then some (bytes value)
      else if encoding = "base64" then Normalizer.standardDecode value else none
    return ⟨bytes name, value⟩
  | _ => none

/-- The cursor and the fields of a canonical form. -/
def decodeCanonical (raw : List UInt8) : Option (String × List ExportField) := do
  let text ← fromUtf8 raw
  match ← Json.read text.toList with
  | .object members =>
    match SortedMap.find "fields" members with
    | some (.array fields) =>
      return ((memberText "cursor" members).getD "", ← fields.mapM fieldOfJson)
    | _ => none
  | _ => none

theorem fieldOfJson_json {field : ExportField}
    (h : validateExportFieldName field.name = .ok ()) : fieldOfJson field.json = some field := by
  have hname := (Normalizer.bytes_nameText h).1
  rw [Normalizer.json_eq]
  rcases Normalizer.encodingOf_cases field with ⟨hutf8, hvalue, -⟩ | ⟨hbase64, hvalue⟩
  · rw [hutf8]
    show some (⟨bytes (Normalizer.nameText field), bytes (Normalizer.valueText field)⟩ :
      ExportField) = _
    rw [hname, hvalue]
  · rw [hbase64]
    show (Normalizer.standardDecode (Normalizer.valueText field) >>= fun value =>
      some (⟨bytes (Normalizer.nameText field), value⟩ : ExportField)) = _
    rw [hvalue, hname]
    rfl

theorem mapM_fieldOfJson {fields : List ExportField}
    (h : ∀ field ∈ fields, validateExportFieldName field.name = .ok ()) :
    (fields.map ExportField.json).mapM fieldOfJson = some fields := by
  induction fields with
  | nil => rfl
  | cons field fields ih =>
    obtain ⟨hfield, hfields⟩ := List.forall_mem_cons.1 h
    rw [List.map_cons, List.mapM_cons, fieldOfJson_json hfield, ih hfields]
    rfl

/-- **A canonical form stands for the fields it was made of.** -/
theorem decodeCanonical_encodeCanonical {fields : List ExportField} (cursor : String)
    (h : ∀ field ∈ fields, validateExportFieldName field.name = .ok ()) :
    decodeCanonical (encodeCanonical cursor fields) = some (cursor, fields) := by
  have hread := Json.read_write Json.escaping_html
    (Normalizer.wellFormed_canonicalEntry cursor fields).1
  rw [decodeCanonical, encodeCanonical, fromUtf8_bytes]
  simp only [Option.bind_eq_bind, Option.bind_some, String.toList_ofList, hread]
  rw [canonicalEntry]
  show ((fields.map ExportField.json).mapM fieldOfJson >>= fun fields =>
    some ((memberText "cursor" _).getD "", fields)) = _
  rw [mapM_fieldOfJson h]
  refine congrArg some (Prod.ext ?_ rfl)
  by_cases hcursor : cursor = ""
  · rw [if_pos hcursor, hcursor]
    rfl
  · rw [if_neg hcursor]
    rfl

/-! ## Streams with empty lines -/

/-- An entry of a stream with the empty lines before it. -/
structure SpacedEntry where
  blank : ℕ
  fields : List WireField

/-- Some empty lines. -/
def blankLines (n : ℕ) : List UInt8 := List.replicate n lineFeed

/-- The bytes of an entry and of the empty lines before it. -/
def SpacedEntry.encode (entry : SpacedEntry) : List UInt8 :=
  blankLines entry.blank ++ encodeEntry entry.fields

/-- The bytes of a stream with some empty lines at its end. -/
def spacedStream (entries : List SpacedEntry) (trailing : ℕ) : List UInt8 :=
  entries.flatMap SpacedEntry.encode ++ blankLines trailing

/-- A field a stream can hold: its name is one, a value on the line of the name has no newline, and
its length is an `int`. -/
structure WireField.Written (f : WireField) : Prop where
  name : validateExportFieldName f.name = .ok ()
  text : ∀ name value, f = .text name value → lineFeed ∉ value
  length : f.value.length < 2 ^ 63

/-- An entry within the limit of a collector in both its forms. -/
structure EntryFits (maxEntryBytes : ℕ) (fields : List WireField) : Prop where
  fields_ne : fields ≠ []
  written : ∀ f ∈ fields, f.Written
  exported : (encodeEntry fields).length ≤ maxEntryBytes
  canonical : (canonicalOf fields).length ≤ maxEntryBytes

/-- The last cursor that is UTF-8. -/
def lastCursor (fields : List ExportField) : String :=
  (fields.filterMap fun field =>
    if field.name = cursorName then fromUtf8 field.value else none).getLast?.getD ""

/-- The entries are returned with their fields and their cursors, and then `io.EOF`. -/
def ReadBack (collector : ExportCollector) (entries : List SpacedEntry) (trailing : ℕ) : Prop :=
  ∃ returned, collector.entries (spacedStream entries trailing) = (returned, ioEof) ∧
    List.Forall₂ (fun (entry : SpacedEntry) (r : Entry) =>
      r.cursor = lastCursor (entry.fields.map WireField.field) ∧
        decodeCanonical r.rawRepresentation =
          some (r.cursor, entry.fields.map WireField.field)) entries returned

/-- There is room for the empty lines before each entry and at the end. -/
def BlankLinesFit (maxEntryBytes : ℕ) (entries : List SpacedEntry) (trailing : ℕ) : Prop :=
  (∀ entry ∈ entries, entry.blank + (encodeEntry entry.fields).length ≤ maxEntryBytes) ∧
    trailing ≤ maxEntryBytes

/-! ## Reading them -/

theorem cursorOf_eq_lastCursor (fields : List ExportField) :
    cursorOf fields = lastCursor fields := by
  induction fields using List.reverseRecOn with
  | nil => rfl
  | append_singleton fields field ih =>
    have hstep : cursorOf (fields ++ [field]) = if field.name = cursorName then
        (fromUtf8 field.value).getD (cursorOf fields) else cursorOf fields := by
      rw [cursorOf, List.foldl_append]
      rfl
    rw [hstep, ih]
    unfold lastCursor
    rw [List.filterMap_append]
    by_cases hname : field.name = cursorName
    · rw [if_pos hname]
      cases htext : fromUtf8 field.value with
      | none => simp [hname, htext]
      | some text => simp [hname, htext]
    · simp [hname]

namespace WireField

theorem Written.valid {f : WireField} (h : f.Written) : f.Valid ∧ f.Accepted := by
  have hname := h.name
  have hplain : f.name ≠ [] ∧ equalsSign ∉ f.name ∧ lineFeed ∉ f.name := by
    unfold validateExportFieldName at hname
    split_ifs at hname with hlength hbytes
    push Not at hlength
    have hnot (b : UInt8) (hb : isNameByte b = false) : b ∉ f.name := fun hmem => by
      rw [List.all_eq_true.1 hbytes b hmem] at hb
      exact nomatch hb
    exact ⟨hlength.1, hnot _ (by decide), hnot _ (by decide)⟩
  have hlength := h.length
  match f, h, hname, hplain, hlength with
  | .text name value, h, hname, hplain, _ =>
    exact ⟨⟨hplain.2.1, hplain.2.2, h.text name value rfl⟩, hname⟩
  | .binary name value, _, hname, hplain, hlength =>
    have hlength : value.length < 2 ^ 63 := hlength
    exact ⟨⟨hplain.1, hplain.2.1, hplain.2.2, by omega⟩, hname, hlength⟩

end WireField

section

variable {maxEntryBytes : ℕ}

/-- Before the first field there are only empty lines. -/
def afterBlank (total : ℕ) : EntryState := ⟨[], "", total⟩

/-- **Empty lines are counted.** -/
theorem readEntryLoop_blankLines {n total : ℕ} (htotal : total ≤ maxEntryBytes)
    (rest : List UInt8) :
    readEntryLoop maxEntryBytes (afterBlank total) (blankLines n ++ rest) =
      if maxEntryBytes < total + n then .error (tooLarge maxEntryBytes)
      else readEntryLoop maxEntryBytes (afterBlank (total + n)) rest := by
  induction n generalizing total with
  | zero =>
    rw [if_neg (by omega)]
    rfl
  | succ n ih =>
    have hlines : blankLines (n + 1) ++ rest = lineFeed :: (blankLines n ++ rest) := rfl
    have hturn :
        readEntryTurn maxEntryBytes (afterBlank total) (lineFeed :: (blankLines n ++ rest)) =
        if maxEntryBytes < total + 1 then .error (tooLarge maxEntryBytes)
        else .ok (.again (afterBlank (total + 1)), blankLines n ++ rest) := by
      rw [readEntryTurn, readLine_lineFeed]
      rfl
    rw [hlines]
    by_cases hroom : maxEntryBytes < total + 1
    · rw [if_pos hroom] at hturn
      rw [readEntryLoop_error hturn, if_pos (by omega)]
    · rw [if_neg hroom] at hturn
      rw [readEntryLoop_again hturn, ih (Nat.le_of_not_lt hroom), Nat.add_assoc, Nat.add_comm 1 n]

/-- **An entry is read with the empty lines before it, if there is room for both.** -/
theorem readEntry_encode {entry : SpacedEntry} (hfits : EntryFits maxEntryBytes entry.fields)
    (rest : List UInt8) :
    (entry.blank + (encodeEntry entry.fields).length ≤ maxEntryBytes →
      readEntry maxEntryBytes (entry.encode ++ rest) = .ok (entry.fields.map WireField.field,
        cursorOf (entry.fields.map WireField.field), rest)) ∧
    (¬ entry.blank + (encodeEntry entry.fields).length ≤ maxEntryBytes →
      Refuses (readEntry maxEntryBytes (entry.encode ++ rest))) := by
  have hvalid : ∀ f ∈ entry.fields, f.Valid := fun f hf => (hfits.written f hf).valid.1
  have haccepted : ∀ f ∈ entry.fields, f.Accepted := fun f hf => (hfits.written f hf).valid.2
  have hlength : (encodeEntry entry.fields).length = (encodeFields entry.fields).length + 1 := by
    rw [encodeEntry, List.length_append]
    rfl
  have hne : ((afterBlank entry.blank).pushAll entry.fields).fields ≠ [] := by
    simpa [EntryState.pushAll, afterBlank] using hfits.fields_ne
  have hsplit : entry.encode ++ rest =
      blankLines entry.blank ++ (encodeFields entry.fields ++ lineFeed :: rest) := by
    simp [SpacedEntry.encode, encodeEntry]
  have hblank := readEntryLoop_blankLines (n := entry.blank) (Nat.zero_le maxEntryBytes)
    (encodeFields entry.fields ++ lineFeed :: rest)
  have hstart : readEntry maxEntryBytes (entry.encode ++ rest) =
      readEntryLoop maxEntryBytes (afterBlank 0)
        (blankLines entry.blank ++ (encodeFields entry.fields ++ lineFeed :: rest)) := by
    rw [hsplit]
    rfl
  rw [hstart, hblank, Nat.zero_add]
  have htotal : ((afterBlank entry.blank).pushAll entry.fields).total =
      entry.blank + (encodeFields entry.fields).length := rfl
  constructor
  · intro hroom
    rw [if_neg (by omega), readEntryLoop_pushAll _ _ hvalid haccepted
      (show entry.blank + (encodeFields entry.fields).length ≤ maxEntryBytes by omega),
      readEntryLoop_lineFeed hne, htotal, if_neg (by omega)]
    rfl
  · intro hroom
    by_cases hblanks : maxEntryBytes < entry.blank
    · rw [if_pos hblanks]
      exact ⟨_, rfl, rfl⟩
    rw [if_neg hblanks]
    by_cases hfields : entry.blank + (encodeFields entry.fields).length ≤ maxEntryBytes
    · rw [readEntryLoop_pushAll _ _ hvalid haccepted hfields, readEntryLoop_lineFeed hne, htotal,
        if_pos (by omega)]
      exact ⟨_, rfl, rfl⟩
    · exact refuses_readEntryLoop_pushAll _ _ hvalid (Nat.le_of_not_lt hblanks)
        fun h => hfields h.2

/-- At the end there are only empty lines. -/
theorem readEntry_blankLines (n : ℕ) :
    (n ≤ maxEntryBytes → readEntry maxEntryBytes (blankLines n) = .error ioEof) ∧
      (¬ n ≤ maxEntryBytes → Refuses (readEntry maxEntryBytes (blankLines n))) := by
  have hblank := readEntryLoop_blankLines (n := n) (Nat.zero_le maxEntryBytes) []
  have hstart : readEntry maxEntryBytes (blankLines n) =
      readEntryLoop maxEntryBytes (afterBlank 0) (blankLines n ++ []) := by
    rw [List.append_nil]
    rfl
  rw [hstart, hblank, Nat.zero_add]
  constructor
  · intro hroom
    rw [if_neg (by omega)]
    exact readEntryLoop_error rfl
  · intro hroom
    rw [if_pos (by omega)]
    exact ⟨_, rfl, rfl⟩

end

section

variable {collector : ExportCollector} (hsource : collector.source.transport = transport)

include hsource

theorem next_encode {entry : SpacedEntry} (hfits : EntryFits collector.maxEntryBytes entry.fields)
    (rest : List UInt8) :
    (entry.blank + (encodeEntry entry.fields).length ≤ collector.maxEntryBytes →
      collector.next (entry.encode ++ rest) = .ok (collector.entryOf entry.fields, rest)) ∧
    (¬ entry.blank + (encodeEntry entry.fields).length ≤ collector.maxEntryBytes →
      Refuses (collector.next (entry.encode ++ rest))) := by
  obtain ⟨hread, hrefuse⟩ := readEntry_encode hfits rest
  refine ⟨fun hroom => ?_, fun hroom => (hrefuse hroom).bind _⟩
  rw [next_of_readEntry hsource (hread hroom), if_neg (Nat.not_lt.2 hfits.canonical)]

/-- **With room for the empty lines, every entry is returned.** -/
theorem entries_spacedStream {entries : List SpacedEntry} {trailing : ℕ}
    (hfits : ∀ entry ∈ entries, EntryFits collector.maxEntryBytes entry.fields)
    (hroom : BlankLinesFit collector.maxEntryBytes entries trailing) :
    collector.entries (spacedStream entries trailing) =
      (entries.map fun entry => collector.entryOf entry.fields, ioEof) := by
  induction entries with
  | nil =>
    have hread := (readEntry_blankLines trailing).1 hroom.2
    refine entries_of_error ?_
    show collector.next (blankLines trailing) = _
    rw [ExportCollector.next, hread]
    rfl
  | cons entry entries ih =>
    obtain ⟨hentry, hentries⟩ := List.forall_mem_cons.1 hfits
    obtain ⟨hfirst, hlater⟩ := List.forall_mem_cons.1 hroom.1
    have hstream : spacedStream (entry :: entries) trailing =
        entry.encode ++ spacedStream entries trailing := by
      simp [spacedStream]
    rw [hstream, entries_of_ok ((next_encode hsource hentry _).1 hfirst),
      ih hentries ⟨hlater, hroom.2⟩]
    rfl

/-- **Without, the stream does not end with `io.EOF`.** -/
theorem isEof_entries_spacedStream {entries : List SpacedEntry} {trailing : ℕ}
    (hfits : ∀ entry ∈ entries, EntryFits collector.maxEntryBytes entry.fields)
    (hroom : ¬ BlankLinesFit collector.maxEntryBytes entries trailing) :
    (collector.entries (spacedStream entries trailing)).2.isEof = false := by
  induction entries with
  | nil =>
    have hlong : ¬ trailing ≤ collector.maxEntryBytes := fun h =>
      hroom ⟨fun _ hentry => (nomatch hentry), h⟩
    obtain ⟨e, hread, he⟩ := (readEntry_blankLines trailing).2 hlong
    have hnext : collector.next (blankLines trailing) = .error e := by
      rw [ExportCollector.next, hread]
      rfl
    show (collector.entries (blankLines trailing)).2.isEof = false
    rw [entries_of_error hnext]
    exact he
  | cons entry entries ih =>
    obtain ⟨hentry, hentries⟩ := List.forall_mem_cons.1 hfits
    have hstream : spacedStream (entry :: entries) trailing =
        entry.encode ++ spacedStream entries trailing := by
      simp [spacedStream]
    obtain ⟨hread, hrefuse⟩ := next_encode hsource hentry (spacedStream entries trailing)
    rw [hstream]
    by_cases hfirst : entry.blank + (encodeEntry entry.fields).length ≤ collector.maxEntryBytes
    · rw [entries_of_ok (hread hfirst)]
      exact ih hentries fun h => hroom ⟨List.forall_mem_cons.2 ⟨hfirst, h.1⟩, h.2⟩
    · obtain ⟨e, hnext, he⟩ := hrefuse hfirst
      rw [entries_of_error hnext]
      exact he

omit hsource in
/-- What is returned for an entry has its cursor and its fields. -/
theorem decodeCanonical_entryOf {fields : List WireField} (hwritten : ∀ f ∈ fields, f.Written) :
    (collector.entryOf fields).cursor = lastCursor (fields.map WireField.field) ∧
      decodeCanonical (collector.entryOf fields).rawRepresentation =
        some ((collector.entryOf fields).cursor, fields.map WireField.field) := by
  refine ⟨cursorOf_eq_lastCursor _, decodeCanonical_encodeCanonical _ fun field hfield => ?_⟩
  obtain ⟨f, hf, rfl⟩ := List.mem_map.1 hfield
  exact (hwritten f hf).name

/-- **A stream is read back exactly if there is room for its empty lines.** -/
theorem readBack_iff {entries : List SpacedEntry} (trailing : ℕ)
    (hfits : ∀ entry ∈ entries, EntryFits collector.maxEntryBytes entry.fields) :
    ReadBack collector entries trailing ↔
      BlankLinesFit collector.maxEntryBytes entries trailing := by
  constructor
  · rintro ⟨returned, hentries, -⟩
    by_contra hroom
    have hend := isEof_entries_spacedStream hsource hfits hroom
    rw [hentries] at hend
    exact nomatch hend
  · intro hroom
    refine ⟨_, entries_spacedStream hsource hfits hroom, ?_⟩
    rw [List.forall₂_map_right_iff, List.forall₂_same]
    exact fun entry hentry => decodeCanonical_entryOf (hfits entry hentry).written

end

/-! ### Too many empty lines -/

/-- A collector with a small limit. -/
def smallCollector : ExportCollector where
  source := ⟨"", "t", "s", "n", "r", transport⟩
  maxEntryBytes := 128

/-- An entry of one field. -/
def oneField : List WireField := [.text (bytes "A") (bytes "b")]

theorem entryFits_oneField : EntryFits smallCollector.maxEntryBytes oneField where
  fields_ne := List.cons_ne_nil _ _
  written := by
    intro f hf
    obtain rfl := List.mem_singleton.1 hf
    refine ⟨by decide, ?_, by decide⟩
    rintro name value heq
    obtain ⟨rfl, rfl⟩ := WireField.text.inj heq
    decide
  exported := by decide
  canonical := by decide +kernel

/-- Two of them are read back, with two empty lines between them. -/
theorem readBack_iff_oneField :
    smallCollector.source.transport = transport ∧
      (∀ entry ∈ [⟨0, oneField⟩, ⟨2, oneField⟩],
        EntryFits smallCollector.maxEntryBytes (SpacedEntry.fields entry)) ∧
      ReadBack smallCollector [⟨0, oneField⟩, ⟨2, oneField⟩] 0 := by
  have hfits : ∀ entry ∈ [⟨0, oneField⟩, ⟨2, oneField⟩],
      EntryFits smallCollector.maxEntryBytes (SpacedEntry.fields entry) := by
    simp only [List.forall_mem_cons]
    exact ⟨entryFits_oneField, entryFits_oneField, fun _ hentry => nomatch hentry⟩
  refine ⟨rfl, hfits, (readBack_iff rfl 0 hfits).2 ⟨?_, by decide⟩⟩
  simp only [List.forall_mem_cons]
  exact ⟨by decide, by decide, fun _ hentry => nomatch hentry⟩

/-- They are not with a hundred and twenty-eight. -/
theorem not_readBack_blankLines :
    (∀ entry ∈ [⟨0, oneField⟩, ⟨128, oneField⟩],
      EntryFits smallCollector.maxEntryBytes (SpacedEntry.fields entry)) ∧
      ¬ ReadBack smallCollector [⟨0, oneField⟩, ⟨128, oneField⟩] 0 := by
  have hfits : ∀ entry ∈ [⟨0, oneField⟩, ⟨128, oneField⟩],
      EntryFits smallCollector.maxEntryBytes (SpacedEntry.fields entry) := by
    simp only [List.forall_mem_cons]
    exact ⟨entryFits_oneField, entryFits_oneField, fun _ hentry => nomatch hentry⟩
  have hroom : ¬ BlankLinesFit smallCollector.maxEntryBytes
      [⟨0, oneField⟩, ⟨128, oneField⟩] 0 := by
    rintro ⟨h, -⟩
    exact absurd (h ⟨128, oneField⟩ (List.mem_cons_of_mem _ List.mem_cons_self)) (by decide)
  have hend := isEof_entries_spacedStream rfl hfits hroom
  refine ⟨hfits, ?_⟩
  rintro ⟨returned, hentries, -⟩
  rw [hentries] at hend
  exact nomatch hend

end Journald

end Cerbero
