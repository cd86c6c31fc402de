import Cerbero.Lib.JsonSearch
import Cerbero.Normalizer.JournaldRoundTrip

/-!
# Normalizer/JournaldSelection — which parser gets a journal entry

The bytes the collector writes for an entry carry the marks of the journald parser.  They carry those
of the sshd parser as well where the cursor or a value mentions them, be it in different fields; then
two source-specific parsers tie, and none is chosen (**`select_encodeCanonical_iff`**).
-/

namespace Cerbero

namespace Normalizer

open Text Journald

/-! ## The markers in a written entry -/

/-- What an escape is made of, after the backslash. -/
def escapeChars : List Char := "\"\\bfnrtu0123456789acde".toList

theorem escape_html {first : Char} (hfirst : first ∉ escapeChars) (ch : Char) :
    Json.escapeAlso Json.htmlSpecial ch = [ch] ∨
      ∃ tail, Json.escapeAlso Json.htmlSpecial ch = '\\' :: tail ∧ first ∉ tail := by
  have hletter (letter : Char) (h : letter ∈ escapeChars) : first ∉ [letter] := fun hmem =>
    hfirst (List.mem_singleton.1 hmem ▸ h)
  unfold Json.escapeAlso
  split_ifs with _ _ _ _ _ _ _ hspecial
  · exact .inr ⟨_, rfl, hletter _ (by decide)⟩
  · exact .inr ⟨_, rfl, hletter _ (by decide)⟩
  · exact .inr ⟨_, rfl, hletter _ (by decide)⟩
  · exact .inr ⟨_, rfl, hletter _ (by decide)⟩
  · exact .inr ⟨_, rfl, hletter _ (by decide)⟩
  · exact .inr ⟨_, rfl, hletter _ (by decide)⟩
  · exact .inr ⟨_, rfl, hletter _ (by decide)⟩
  · have hdigit : ∀ n < 16, Json.lowerHexDigit n ∈ escapeChars := by decide
    have hsmall : ch.toNat < 0x10000 := by
      obtain h | h := hspecial
      · omega
      · simp only [Json.htmlSpecial, Bool.or_eq_true, beq_iff_eq] at h
        obtain (((rfl | rfl) | rfl) | rfl) | rfl := h <;> decide
    refine .inr ⟨_, rfl, fun hmem => hfirst ?_⟩
    simp only [List.mem_cons, List.not_mem_nil, or_false] at hmem
    obtain rfl | rfl | rfl | rfl | rfl := hmem
    · decide
    · exact hdigit _ (by omega)
    · exact hdigit _ (by omega)
    · exact hdigit _ (by omega)
    · exact hdigit _ (by omega)
  · exact .inl rfl

/-- The markers of a failed password. -/
def sshdMarkers : List (List Char) := [failedPasswordMarker, fromMarker, portMarker]

theorem searchable_sshdMarkers {marker : List Char} (h : marker ∈ sshdMarkers) :
    ∃ first rest, marker = first :: rest ∧
      Json.Searchable (Json.escapeAlso Json.htmlSpecial) first rest := by
  simp only [sshdMarkers, List.mem_cons, List.not_mem_nil, or_false] at h
  obtain rfl | rfl | rfl := h
  · exact ⟨'F', "ailed password for ".toList, by decide, by decide, by decide,
      escape_html (by decide)⟩
  · exact ⟨' ', "from ".toList, by decide, by decide, by decide, escape_html (by decide)⟩
  · exact ⟨' ', "port ".toList, by decide, by decide, by decide, escape_html (by decide)⟩

/-- **An entry mentions a marker** in its cursor or in a value that is text. -/
def Mentions (marker : List Char) (cursor : String) (fields : List ExportField) : Prop :=
  marker <:+: cursor.toList ∨
    ∃ field ∈ fields, ∃ text, fromUtf8 field.value = some text ∧ marker <:+: text.toList

/-- The text of an entry. -/
def entryText (cursor : String) (fields : List ExportField) : List Char :=
  (canonicalEntry cursor fields).write (Json.escapeAlso Json.htmlSpecial)

theorem blank_not_mem_nameText {field : ExportField}
    (h : validateExportFieldName field.name = .ok ()) : ' ' ∉ (nameText field).toList := by
  intro hmem
  have hbyte := mem_bytes_of_mem (by decide) hmem
  obtain ⟨hname, -⟩ := bytes_nameText h
  rw [hname] at hbyte
  unfold validateExportFieldName at h
  split_ifs at h with _ hall
  exact absurd (List.all_eq_true.1 hall _ hbyte) (by decide)

theorem blank_not_mem_encodePadded (value : List UInt8) :
    ' ' ∉ Base64.encodePadded stdEncoding '=' value := by
  intro hmem
  obtain h | h := List.mem_append.1 hmem
  · have hindex := Base64.isSome_index_of_mem_encode stdEncoding _ h
    exact absurd hindex (by decide)
  · exact absurd (List.eq_of_mem_replicate h) (by decide)

theorem blank_mem_of_mem {marker : List Char} (h : marker ∈ sshdMarkers) : ' ' ∈ marker := by
  obtain ⟨first, rest, rfl, hsearch⟩ := searchable_sshdMarkers h
  exact hsearch.blank

/-- A marker in a field is one in its value. -/
theorem infix_field_iff {marker : List Char} (hmarker : marker ∈ sshdMarkers) {field : ExportField}
    (hname : validateExportFieldName field.name = .ok ()) :
    (∃ s ∈ field.json.strings, marker <:+: s.toList) ↔
      ∃ text, fromUtf8 field.value = some text ∧ marker <:+: text.toList := by
  have hblank := blank_mem_of_mem hmarker
  have hencoding : ' ' ∉ (encodingOf field).toList := by
    unfold encodingOf
    split_ifs
    · decide
    · decide
  have hstrings : field.json.strings = ["name", nameText field, "encoding", encodingOf field,
      "value", valueText field] := by
    rw [json_eq]
    rfl
  have hvalue : marker <:+: (valueText field).toList ↔
      ∃ text, fromUtf8 field.value = some text ∧ marker <:+: text.toList := by
    unfold valueText
    match fromUtf8 field.value with
    | some text => exact ⟨fun h => ⟨text, rfl, h⟩, fun ⟨_, heq, h⟩ => Option.some.inj heq ▸ h⟩
    | none =>
      refine iff_of_false (Json.not_within hblank ?_) fun ⟨_, h, _⟩ => nomatch h
      rw [Option.getD_none, String.toList_ofList]
      exact blank_not_mem_encodePadded field.value
  rw [hstrings, ← hvalue]
  constructor
  · rintro ⟨s, hs, hinfix⟩
    simp only [List.mem_cons, List.not_mem_nil, or_false] at hs
    obtain rfl | rfl | rfl | rfl | rfl | rfl := hs
    · exact absurd hinfix (Json.not_within hblank (by decide))
    · exact absurd hinfix (Json.not_within hblank (blank_not_mem_nameText hname))
    · exact absurd hinfix (Json.not_within hblank (by decide))
    · exact absurd hinfix (Json.not_within hblank hencoding)
    · exact absurd hinfix (Json.not_within hblank (by decide))
    · exact hinfix
  · exact fun h => ⟨valueText field, by simp, h⟩

theorem infix_fields_iff {marker : List Char} (hmarker : marker ∈ sshdMarkers) :
    ∀ {fields : List ExportField},
      (∀ field ∈ fields, validateExportFieldName field.name = .ok ()) →
      ((∃ s ∈ Json.stringsValues (fields.map ExportField.json), marker <:+: s.toList) ↔
        ∃ field ∈ fields, ∃ text, fromUtf8 field.value = some text ∧ marker <:+: text.toList)
  | [], _ => iff_of_false (fun ⟨_, h, _⟩ => nomatch h) fun ⟨_, h, _⟩ => nomatch h
  | field :: fields, h => by
      have ih := infix_fields_iff hmarker fun field hfield =>
        h field (List.mem_cons_of_mem _ hfield)
      have hfirst := infix_field_iff hmarker (h field List.mem_cons_self)
      rw [List.map_cons, Json.stringsValues]
      simp only [List.mem_append, List.mem_cons, or_and_right, exists_or, exists_eq_left, hfirst,
        ih]

/-- **A marker in the text of an entry is one the entry mentions.** -/
theorem infix_entryText_iff {marker : List Char} (hmarker : marker ∈ sshdMarkers) {cursor : String}
    {fields : List ExportField}
    (hnames : ∀ field ∈ fields, validateExportFieldName field.name = .ok ()) :
    marker <:+: entryText cursor fields ↔ Mentions marker cursor fields := by
  have hblank := blank_mem_of_mem hmarker
  have hfields := infix_fields_iff hmarker hnames
  obtain ⟨first, rest, rfl, hsearch⟩ := searchable_sshdMarkers hmarker
  rw [entryText, Json.infix_write_iff hsearch (wellFormed_canonicalEntry cursor fields).1, Mentions,
    ← hfields]
  have hnone (s : String) (hs : ' ' ∉ s.toList) : ¬ first :: rest <:+: s.toList :=
    Json.not_within hblank hs
  have hstrings : (canonicalEntry cursor fields).strings =
      ["cerbero_journald_version", "cursor"] ++ (if cursor = "" then [] else [cursor]) ++
        ("fields" :: Json.stringsValues (fields.map ExportField.json)) := by
    unfold canonicalEntry
    split_ifs
    · simp only [Json.strings, Json.stringsMembers, Json.stringsMember, Json.ofInt,
        List.append_nil, List.nil_append, List.cons_append]
    · simp only [Json.strings, Json.stringsMembers, Json.stringsMember, Json.ofInt,
        List.append_nil, List.nil_append, List.cons_append]
  have hcursor : (∃ s ∈ if cursor = "" then [] else [cursor], first :: rest <:+: s.toList) ↔
      first :: rest <:+: cursor.toList := by
    split_ifs with hempty
    · subst hempty
      exact iff_of_false (by simp) (hnone "" (by decide))
    · simp only [List.mem_singleton, exists_eq_left]
  rw [hstrings]
  simp only [List.mem_append, List.mem_cons, List.not_mem_nil, or_false, or_and_right, exists_or,
    exists_eq_left, hcursor, or_iff_right (hnone "cerbero_journald_version" (by decide)),
    or_iff_right (hnone "cursor" (by decide)), or_iff_right (hnone "fields" (by decide))]

/-! ## The probes -/

/-- An entry is in braces and has the members that the journald parser looks for. -/
theorem entryText_eq (cursor : String) (fields : List ExportField) : ∃ middle rest,
    entryText cursor fields = '\x7b' :: ("\"cerbero_journald_version\"".toList ++ middle ++
      "\"fields\"".toList ++ rest) ++ ['\x7d'] := by
  have hversion : Json.quoted (Json.escapeAlso Json.htmlSpecial) "cerbero_journald_version" =
      "\"cerbero_journald_version\"".toList := by decide
  have hfields : Json.quoted (Json.escapeAlso Json.htmlSpecial) "fields" =
      "\"fields\"".toList := by decide
  rw [entryText, canonicalEntry]
  generalize (if cursor = "" then .null else .string cursor : Json) = cursor
  let esc := Json.escapeAlso Json.htmlSpecial
  refine ⟨':' :: Json.write esc (.ofInt 1) ++ ',' :: Json.writeMember esc ("cursor", cursor) ++
    [','], ':' :: Json.write esc (.array (fields.map ExportField.json)), ?_⟩
  simp [Json.write, Json.writeMembers, Json.writeMember, hversion, hfields, esc]

/-- A text in a text, byte by byte. -/
theorem bytes_infix {marker text : List Char} (h : marker <:+: text) :
    bytes (String.ofList marker) <:+: bytes (String.ofList text) := by
  obtain ⟨before, after, rfl⟩ := h
  refine ⟨bytes (String.ofList before), bytes (String.ofList after), ?_⟩
  simp only [bytes_eq_flatMap, String.toList_ofList, List.flatMap_append]

theorem encodeCanonical_eq (cursor : String) (fields : List ExportField) :
    encodeCanonical cursor fields = bytes (String.ofList (entryText cursor fields)) := rfl

/-- Bytes that begin and end with other ones have no white space to trim. -/
theorem trimAsciiWhitespace_eq_self {first last : UInt8} (hfirst : isAsciiWhitespace first = false)
    (hlast : isAsciiWhitespace last = false) (middle : List UInt8) :
    trimAsciiWhitespace (first :: middle ++ [last]) = first :: middle ++ [last] := by
  rw [trimAsciiWhitespace, List.cons_append, List.dropWhile_cons_of_neg (by simp [hfirst]),
    ← List.cons_append, List.reverse_append, List.reverse_singleton, List.singleton_append,
    List.dropWhile_cons_of_neg (by simp [hlast]), List.reverse_cons, List.reverse_reverse]

theorem probeJournald_encodeCanonical (cursor : String) (fields : List ExportField) :
    probeJournald (encodeCanonical cursor fields) = 100 := by
  obtain ⟨middle, rest, htext⟩ := entryText_eq cursor fields
  have hcontains (marker : String) (h : marker.toList <:+: entryText cursor fields) :
      containsBytes (encodeCanonical cursor fields) (bytes marker) := by
    rw [encodeCanonical_eq, containsBytes, occurs_iff, ← String.ofList_toList (s := marker)]
    exact bytes_infix h
  have hversion : "\"cerbero_journald_version\"".toList <:+: entryText cursor fields := by
    rw [htext]
    exact ⟨['\x7b'], middle ++ "\"fields\"".toList ++ rest ++ ['\x7d'], by simp⟩
  have hfields : "\"fields\"".toList <:+: entryText cursor fields := by
    rw [htext]
    exact ⟨'\x7b' :: "\"cerbero_journald_version\"".toList ++ middle, rest ++ ['\x7d'], by simp⟩
  obtain ⟨inner, hraw⟩ : ∃ inner, encodeCanonical cursor fields = 0x7b :: inner ++ [0x7d] := by
    refine ⟨("\"cerbero_journald_version\"".toList ++ middle ++ "\"fields\"".toList ++
      rest).flatMap String.utf8EncodeChar, ?_⟩
    rw [encodeCanonical_eq, htext, bytes_eq_flatMap, String.toList_ofList, List.flatMap_append,
      List.flatMap_cons]
    rfl
  have htrim : trimAsciiWhitespace (encodeCanonical cursor fields) =
      encodeCanonical cursor fields := by
    rw [hraw]
    exact trimAsciiWhitespace_eq_self (by decide) (by decide) inner
  have hhead : (encodeCanonical cursor fields).head? = some 0x7b := by rw [hraw]; rfl
  unfold probeJournald
  simp only [htrim, hhead, hcontains _ hversion, hcontains _ hfields, Bool.and_self, if_true, ne_eq,
    not_true_eq_false, if_false]

theorem probeFailedPassword_encodeCanonical {cursor : String} {fields : List ExportField}
    (hnames : ∀ field ∈ fields, validateExportFieldName field.name = .ok ()) :
    probeFailedPassword (encodeCanonical cursor fields) ≠ 0 ↔
      ∀ marker ∈ sshdMarkers, Mentions marker cursor fields := by
  have htrim : trim (entryText cursor fields) = entryText cursor fields := by
    obtain ⟨middle, rest, htext⟩ := entryText_eq cursor fields
    rw [htext]
    exact trim_eq_self (by decide) (by decide) _
  have hmentions (marker : List Char) (hmarker : marker ∈ sshdMarkers) :=
    @infix_entryText_iff marker hmarker cursor fields hnames
  rw [probeFailedPassword_ne_zero, encodeCanonical_eq, fromUtf8_bytes]
  simp only [Option.some.injEq, exists_eq_left', String.toList_ofList, htrim, sshdMarkers,
    List.forall_mem_cons]
  rw [hmentions _ (by decide), hmentions _ (by decide), hmentions _ (by decide)]
  exact ⟨fun ⟨h, h', h''⟩ => ⟨h, h', h'', fun _ h => nomatch h⟩,
    fun ⟨h, h', h'', _⟩ => ⟨h, h', h''⟩⟩

/-! ## The choice -/

/-- A candidate of a lower tier does not change the ranking. -/
theorem step_of_lower {ranking : Ranking} {i confidence : ℕ} {entry : ParserCandidate × ℕ}
    (hbest : ranking.best = some (i, .sourceSpecific, confidence))
    (htier : entry.1.tier ≠ .sourceSpecific) : ranking.step entry = ranking := by
  obtain ⟨entry, index⟩ := entry
  have hrank : entry.tier.rank < 2 := by
    match h : entry.tier with
    | .generic => decide
    | .contentProtocol => decide
    | .sourceSpecific => exact absurd h htier
  have hlower : ¬ (ParserTier.rank .sourceSpecific < entry.tier.rank ∨
      ParserTier.rank .sourceSpecific = entry.tier.rank ∧ confidence < entry.confidence) := by
    have hsource : ParserTier.rank .sourceSpecific = 2 := rfl
    omega
  unfold Ranking.step
  rw [hbest]
  dsimp only
  split_ifs with _ h
  · rfl
  · exact absurd h.1 htier
  · rfl

theorem foldl_of_lower {ranking : Ranking} {i confidence : ℕ}
    (hbest : ranking.best = some (i, .sourceSpecific, confidence)) :
    ∀ {entries : List (ParserCandidate × ℕ)}, (∀ entry ∈ entries, entry.1.tier ≠ .sourceSpecific) →
      entries.foldl Ranking.step ranking = ranking
  | [], _ => rfl
  | entry :: entries, h => by
      rw [List.foldl_cons, step_of_lower hbest (h entry List.mem_cons_self)]
      exact foldl_of_lower hbest fun entry hentry => h entry (List.mem_cons_of_mem _ hentry)

/-- Probing the default parsers. -/
theorem probeAll_defaultProbes (input : ParserInput) : probeAll defaultProbes input =
    .ok [⟨linuxSshdParserId, linuxSshdParserVersion, .sourceSpecific,
        probeFailedPassword input.raw⟩,
      ⟨journaldCanonicalParserId, "1", .sourceSpecific, probeJournald input.raw⟩,
      ⟨syslogRfc5424ParserId, "1", .contentProtocol, probeRfc5424 input.raw⟩,
      ⟨syslogRfc3164ParserId, "1", .contentProtocol, probeRfc3164 input.raw⟩,
      ⟨genericJsonParserId, "1", .generic, probeGenericJson input⟩] := rfl

/-- The candidates of lower tiers do not count beside two source-specific ones. -/
theorem rank_cons_cons (first second : ParserCandidate) {rest : List ParserCandidate}
    (hfirst : first.tier = .sourceSpecific) (hsecond : second.tier = .sourceSpecific)
    (hsure : second.confidence = 100) (hrest : ∀ entry ∈ rest, entry.tier ≠ .sourceSpecific) :
    (first.confidence = 0 →
      rank (first :: second :: rest) = ⟨some (1, .sourceSpecific, 100), [1]⟩) ∧
    (first.confidence = 100 →
      rank (first :: second :: rest) = ⟨some (0, .sourceSpecific, 100), [0, 1]⟩) := by
  have hlower (ranking : Ranking) (i : ℕ)
      (hbest : ranking.best = some (i, .sourceSpecific, 100)) :
      (rest.zipIdx 2).foldl Ranking.step ranking = ranking :=
    foldl_of_lower hbest fun entry hentry => hrest entry.1 (List.fst_mem_of_mem_zipIdx hentry)
  unfold rank
  rw [List.zipIdx_cons, List.zipIdx_cons, List.foldl_cons, List.foldl_cons]
  constructor
  · intro hzero
    have hstep : Ranking.step ⟨none, []⟩ (first, 0) = ⟨none, []⟩ := by
      rw [Ranking.step, if_pos hzero]
    rw [hstep, Ranking.step, if_neg (by rw [hsure]; decide), hsecond, hsure]
    exact hlower _ 1 rfl
  · intro hhundred
    have hstep : Ranking.step ⟨none, []⟩ (first, 0) = ⟨some (0, .sourceSpecific, 100), [0]⟩ := by
      rw [Ranking.step, if_neg (by rw [hhundred]; decide), hfirst, hhundred]
    rw [hstep, Ranking.step, if_neg (by rw [hsure]; decide), hsecond, hsure]
    exact hlower _ 0 rfl

theorem probeFailedPassword_cases (raw : List UInt8) :
    probeFailedPassword raw = 0 ∨ probeFailedPassword raw = 100 := by
  unfold probeFailedPassword
  match fromUtf8 raw with
  | none => exact .inl rfl
  | some text =>
    dsimp only
    split_ifs
    · exact .inr rfl
    · exact .inl rfl

/-- **Two source-specific parsers that are sure of an input tie.** -/
theorem select_eq {raw : List UInt8} (persisted : RawEventPersisted)
    (hjournald : probeJournald raw = 100) :
    (probeFailedPassword raw = 0 →
      (select defaultProbes ⟨raw, persisted, none⟩).map
        (fun choice => choice.2.selectedParserId) = .ok journaldCanonicalParserId) ∧
    (probeFailedPassword raw = 100 →
      errorCode (select defaultProbes ⟨raw, persisted, none⟩) = some "CER-PARSE-NO-MATCH") := by
  have hrest : ∀ entry ∈ [
      (⟨syslogRfc5424ParserId, "1", .contentProtocol, probeRfc5424 raw⟩ : ParserCandidate),
      ⟨syslogRfc3164ParserId, "1", .contentProtocol, probeRfc3164 raw⟩,
      ⟨genericJsonParserId, "1", .generic, probeGenericJson ⟨raw, persisted, none⟩⟩],
      entry.tier ≠ .sourceSpecific := by simp
  obtain ⟨hzero, htie⟩ := rank_cons_cons
    ⟨linuxSshdParserId, linuxSshdParserVersion, .sourceSpecific, probeFailedPassword raw⟩
    ⟨journaldCanonicalParserId, "1", .sourceSpecific, probeJournald raw⟩ rfl rfl hjournald hrest
  rw [select, probeAll_defaultProbes, ok_bind]
  dsimp only
  constructor
  · intro hsshd
    rw [hzero hsshd]
    rfl
  · intro hsshd
    rw [htie hsshd]
    rfl

/-- **Which entries get the journald parser**: those that do not mention all three markers of a failed
password. -/
theorem select_encodeCanonical_iff {cursor : String} {fields : List ExportField}
    (hnames : ∀ field ∈ fields, validateExportFieldName field.name = .ok ())
    (persisted : RawEventPersisted) :
    (select defaultProbes ⟨encodeCanonical cursor fields, persisted, none⟩).map
        (fun choice => choice.2.selectedParserId) = .ok journaldCanonicalParserId ↔
      ∃ marker ∈ sshdMarkers, ¬ Mentions marker cursor fields := by
  obtain ⟨hone, htie⟩ := select_eq persisted (probeJournald_encodeCanonical cursor fields)
  have hmentions := @probeFailedPassword_encodeCanonical cursor fields hnames
  obtain hsshd | hsshd := probeFailedPassword_cases (encodeCanonical cursor fields)
  · refine iff_of_true (hone hsshd) ?_
    have hnot := mt hmentions.2 (not_not.2 hsshd)
    push Not at hnot
    exact hnot
  · refine iff_of_false (fun hchosen => ?_) fun ⟨marker, hmarker, hnot⟩ => ?_
    · have herror := htie hsshd
      match h : select defaultProbes ⟨encodeCanonical cursor fields, persisted, none⟩ with
      | .ok choice =>
        rw [h] at herror
        exact nomatch herror
      | .error e =>
        rw [h] at hchosen
        exact nomatch hchosen
    · exact hnot (hmentions.1 (by rw [hsshd]; decide) marker hmarker)

/-! ### Samples -/

/-- An entry of sshd. -/
def sshdEntry : List ExportField :=
  [⟨bytes "_COMM", bytes "sshd"⟩,
    ⟨bytes "MESSAGE", bytes "Failed password for root from 10.0.0.8 port 22 ssh2"⟩]

theorem validNames_sshdEntry :
    ∀ field ∈ sshdEntry, validateExportFieldName field.name = .ok () := by decide +kernel

theorem select_encodeCanonical_sshdEntry :
    (select defaultProbes ⟨encodeCanonical "" sshdEntry, defaultPersisted, none⟩).map
        (fun choice => choice.2.selectedParserId) = .ok journaldCanonicalParserId ↔
      ∃ marker ∈ sshdMarkers, ¬ Mentions marker "" sshdEntry :=
  select_encodeCanonical_iff validNames_sshdEntry defaultPersisted

/-- No parser is chosen for it. -/
theorem select_sshdEntry :
    (∀ field ∈ sshdEntry, validateExportFieldName field.name = .ok ()) ∧
      errorCode (select defaultProbes ⟨encodeCanonical "" sshdEntry, defaultPersisted, none⟩) =
        some "CER-PARSE-NO-MATCH" := by
  have hmentions : ∀ marker ∈ sshdMarkers, Mentions marker "" sshdEntry := by
    have hmessage : ∀ marker ∈ sshdMarkers,
        marker <:+: "Failed password for root from 10.0.0.8 port 22 ssh2".toList := by decide
    exact fun marker hmarker => .inr ⟨_, List.mem_cons_of_mem _ List.mem_cons_self, _,
      fromUtf8_bytes _, hmessage marker hmarker⟩
  have hprobe := (probeFailedPassword_encodeCanonical validNames_sshdEntry).2 hmentions
  refine ⟨validNames_sshdEntry, (select_eq _ (probeJournald_encodeCanonical _ _)).2 ?_⟩
  exact (probeFailedPassword_cases _).resolve_left hprobe

end Normalizer

end Cerbero
