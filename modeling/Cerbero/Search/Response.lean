import Cerbero.Search.Store
import Cerbero.Lib.Fallible

/-!
# Search/Response — responses longer than what is read

Of a response the first `maxResponse` bytes are read, line by line.  A line that the limit cuts is
not JSON, so the search fails.  A limit between two lines, or before the line break of the last line
read, goes unnoticed: the rows after it are missing from a result that looks complete
(`queryRows_complete_iff`).
-/

namespace Cerbero

namespace Search

open Text

/-! ## Lines -/

theorem scanLines_append : ∀ {text : GoString}, (0x0a : UInt8) ∉ text → ∀ rest : GoString,
    scanLines (text ++ 0x0a :: rest) = text :: scanLines rest
  | [], _, rest => rfl
  | b :: text, h, rest => by
      have hb : b ≠ 0x0a := fun heq => h (heq ▸ List.mem_cons_self)
      rw [List.cons_append, scanLines, if_neg hb,
        scanLines_append fun hmem => h (List.mem_cons_of_mem _ hmem)]

/-- A text without line breaks is one line. -/
theorem scanLines_eq_singleton : ∀ {text : GoString}, text ≠ [] → (0x0a : UInt8) ∉ text →
    scanLines text = [text]
  | [b], _, h => by
      have hb : b ≠ 0x0a := fun heq => h (heq ▸ List.mem_cons_self)
      rw [scanLines, if_neg hb]
      rfl
  | b :: b' :: text, _, h => by
      have htail := scanLines_eq_singleton (List.cons_ne_nil b' text) fun hmem =>
        h (List.mem_cons_of_mem _ hmem)
      have hb : b ≠ 0x0a := fun heq => h (heq ▸ List.mem_cons_self)
      rw [scanLines, if_neg hb, htail]

/-- A response of lines. -/
def responseOf (lines : List GoString) : GoString := lines.flatMap (· ++ [0x0a])

theorem responseOf_cons (line : GoString) (lines : List GoString) :
    responseOf (line :: lines) = line ++ 0x0a :: responseOf lines := by
  simp [responseOf]

theorem responseOf_append (lines more : List GoString) :
    responseOf (lines ++ more) = responseOf lines ++ responseOf more := List.flatMap_append

theorem scanLines_responseOf {text : GoString} : ∀ {lines : List GoString},
    (∀ line ∈ lines, (0x0a : UInt8) ∉ line) →
      scanLines (responseOf lines ++ text) = lines ++ scanLines text
  | [], _ => rfl
  | line :: lines, h => by
      obtain ⟨hline, hlines⟩ := List.forall_mem_cons.1 h
      rw [responseOf_cons, List.append_assoc, List.cons_append, scanLines_append hline,
        scanLines_responseOf hlines, List.cons_append]

/-- **Where a limit falls**: the lines before it, and what it leaves of the line it falls into. -/
theorem exists_take_responseOf : ∀ {lines : List GoString} {limit : ℕ},
    limit < (responseOf lines).length → ∃ shown line hidden size, lines = shown ++ line :: hidden ∧
      size ≤ line.length ∧ limit = (responseOf shown).length + size ∧
      (responseOf lines).take limit = responseOf shown ++ line.take size
  | [], limit, h => (nomatch h)
  | first :: lines, limit, h => by
      rw [responseOf_cons, List.length_append, List.length_cons] at h
      by_cases hfirst : limit ≤ first.length
      · refine ⟨[], first, lines, limit, rfl, hfirst, by simp [responseOf], ?_⟩
        rw [responseOf_cons, List.take_append_of_le_length hfirst]
        rfl
      · obtain ⟨shown, line, hidden, size, rfl, hsize, hlimit, htake⟩ :=
          exists_take_responseOf (show limit - (first.length + 1) < (responseOf lines).length by omega)
        refine ⟨first :: shown, line, hidden, size, rfl, hsize, ?_, ?_⟩
        · rw [responseOf_cons, List.length_append, List.length_cons]
          omega
        · have hrest : limit = first.length + ((limit - (first.length + 1)) + 1) := by omega
          rw [responseOf_cons first shown, responseOf_cons, hrest, List.take_length_add_append,
            List.take_succ_cons, htake, List.append_assoc, List.cons_append]

/-! ## Reading -/

section

variable {unmarshalRow : GoString → Option EventRow}

/-- **What is read of lines**: the row of each, if each is short enough. -/
theorem readRows_eq_ok : ∀ {lines : List GoString} {rows : List EventRow},
    readRows unmarshalRow lines = .ok rows ↔
      (∀ line ∈ lines, line.length < maxLine) ∧
        lines.map (fun line => unmarshalRow (dropCarriageReturn line)) = rows.map some
  | [], rows => by
      rw [readRows, Except.ok.injEq]
      cases rows <;> simp
  | line :: lines, rows => by
      rw [readRows, List.forall_mem_cons, List.map_cons]
      split_ifs with hlong
      · exact iff_of_false (fun h => (nomatch h)) fun h => absurd h.1.1 (Nat.not_lt.2 hlong)
      · match unmarshalRow (dropCarriageReturn line) with
        | none =>
          refine iff_of_false (fun h => (nomatch h)) fun h => ?_
          cases rows with
          | nil => exact nomatch h.2
          | cons row rows => exact nomatch (List.cons.inj h.2).1
        | some row =>
          rw [and_iff_right (Nat.not_le.1 hlong)]
          match hrest : readRows unmarshalRow lines with
          | .error e =>
            refine iff_of_false (fun h => (nomatch h)) fun ⟨hshort, hmap⟩ => ?_
            cases rows with
            | nil => exact nomatch hmap
            | cons first rows =>
              exact nomatch hrest.symm.trans
                (readRows_eq_ok.2 ⟨hshort, (List.cons.inj hmap).2⟩)
          | .ok rest =>
            obtain ⟨hshort, hmap⟩ := readRows_eq_ok.1 hrest
            show Except.ok (row :: rest) = Except.ok rows ↔ _
            rw [Except.ok.injEq, hmap, ← List.map_cons,
              (List.map_injective_iff.2 fun _ _ => Option.some.inj).eq_iff, and_iff_right hshort]

theorem exists_row_of_readRows {lines : List GoString} {rows : List EventRow}
    (h : readRows unmarshalRow lines = .ok rows) :
    ∀ text ∈ lines, ∃ row, unmarshalRow (dropCarriageReturn text) = some row := by
  intro text hmem
  have hrow : unmarshalRow (dropCarriageReturn text) ∈ rows.map some :=
    (readRows_eq_ok.1 h).2 ▸
      List.mem_map_of_mem (f := fun line => unmarshalRow (dropCarriageReturn line)) hmem
  obtain ⟨row, -, hrow⟩ := List.mem_map.1 hrow
  exact ⟨row, hrow.symm⟩

/-- **A JSON line**: it has no line break, and no part of it is a row.  An incomplete object is no
JSON. -/
structure JsonLine (unmarshalRow : GoString → Option EventRow) (line : GoString) : Prop where
  ne_nil : line ≠ []
  break_not_mem : (0x0a : UInt8) ∉ line
  getLast_ne : line.getLast? ≠ some 0x0d
  incomplete : ∀ part, part <+: line → part ≠ line → unmarshalRow part = none

theorem prefix_dropCarriageReturn (line : GoString) : dropCarriageReturn line <+: line := by
  rw [dropCarriageReturn]
  split_ifs
  · exact List.dropLast_prefix line
  · exact List.prefix_rfl

theorem JsonLine.dropCarriageReturn_eq {line : GoString} (h : JsonLine unmarshalRow line) :
    dropCarriageReturn line = line := if_neg h.getLast_ne

/-- Lines that are read: short enough, and rows. -/
def Legible (unmarshalRow : GoString → Option EventRow) (lines : List GoString) : Prop :=
  ∀ line ∈ lines, line.length < maxLine ∧ (unmarshalRow line).isSome

/-- JSON lines are read as their rows. -/
theorem readRows_jsonLines {lines : List GoString} (h : ∀ line ∈ lines, JsonLine unmarshalRow line)
    {rows : List EventRow} : readRows unmarshalRow lines = .ok rows ↔
      (∀ line ∈ lines, line.length < maxLine) ∧ lines.map unmarshalRow = rows.map some := by
  have hmap : lines.map (fun line => unmarshalRow (dropCarriageReturn line)) =
      lines.map unmarshalRow :=
    List.map_congr_left fun line hline => by rw [(h line hline).dropCarriageReturn_eq]
  rw [readRows_eq_ok, hmap]

theorem exists_map_some {α β : Type} {f : α → Option β} : ∀ {l : List α},
    (∀ a ∈ l, (f a).isSome) → ∃ l' : List β, l.map f = l'.map some
  | [], _ => ⟨[], rfl⟩
  | a :: l, h => by
      obtain ⟨ha, hl⟩ := List.forall_mem_cons.1 h
      obtain ⟨b, hb⟩ := Option.isSome_iff_exists.1 ha
      obtain ⟨l', hl'⟩ := exists_map_some hl
      exact ⟨b :: l', by rw [List.map_cons, List.map_cons, hb, hl']⟩

theorem exists_readRows_iff {lines : List GoString}
    (h : ∀ line ∈ lines, JsonLine unmarshalRow line) :
    (∃ rows, readRows unmarshalRow lines = .ok rows) ↔ Legible unmarshalRow lines := by
  simp only [readRows_jsonLines h]
  constructor
  · rintro ⟨rows, hshort, hmap⟩ line hline
    refine ⟨hshort line hline, ?_⟩
    have hmem : unmarshalRow line ∈ rows.map some := hmap ▸ List.mem_map_of_mem hline
    obtain ⟨row, -, hrow⟩ := List.mem_map.1 hmem
    rw [← hrow]
    rfl
  · intro hread
    obtain ⟨rows, hrows⟩ := exists_map_some fun line hline => (hread line hline).2
    exact ⟨rows, fun line hline => (hread line hline).1, hrows⟩

/-- **What is read of a response that is cut.** -/
theorem readRows_take {lines : List GoString} (h : ∀ line ∈ lines, JsonLine unmarshalRow line)
    {limit : ℕ} {rows : List EventRow} (hlimit : limit < (responseOf lines).length)
    (hread : readRows unmarshalRow (scanLines ((responseOf lines).take limit)) = .ok rows) :
    lines.map unmarshalRow = rows.map some ∨ ∃ shown hidden, lines = shown ++ hidden ∧ hidden ≠ [] ∧
      ((responseOf shown).length = limit ∨ (responseOf shown).length = limit + 1) ∧
      Legible unmarshalRow shown := by
  obtain ⟨shown, line, hidden, size, rfl, hsize, rfl, htake⟩ := exists_take_responseOf hlimit
  have hshown : ∀ other ∈ shown, JsonLine unmarshalRow other :=
    fun other hother => h other (List.mem_append_left _ hother)
  have hline : JsonLine unmarshalRow line := h line (by simp)
  rw [htake, scanLines_responseOf fun other hother => (hshown other hother).break_not_mem] at hread
  obtain rfl | hpos := Nat.eq_zero_or_pos size
  · -- the limit is between two lines
    rw [List.take_zero, scanLines, List.append_nil] at hread
    exact .inr ⟨shown, line :: hidden, rfl, List.cons_ne_nil _ _, .inl rfl,
      (exists_readRows_iff hshown).1 ⟨rows, hread⟩⟩
  have hpart : line.take size ≠ [] := by
    rw [ne_eq, List.take_eq_nil_iff]
    exact fun hnil => hnil.elim (by omega) hline.ne_nil
  rw [scanLines_eq_singleton hpart fun hmem => hline.break_not_mem (List.mem_of_mem_take hmem)]
    at hread
  obtain hcut | rfl := Nat.lt_or_eq_of_le hsize
  · -- the limit is inside a line
    obtain ⟨-, hmap⟩ := readRows_eq_ok.1 hread
    have hstart := (prefix_dropCarriageReturn (line.take size)).trans (List.take_prefix _ _)
    have hnone := hline.incomplete _ hstart fun heq => by
      have := (prefix_dropCarriageReturn (line.take size)).length_le
      rw [heq, List.length_take] at this
      omega
    have hmem : none ∈ rows.map some := by
      rw [← hmap, ← hnone]
      exact List.mem_map_of_mem (f := fun other => unmarshalRow (dropCarriageReturn other)) (by simp)
    obtain ⟨_, -, hrow⟩ := List.mem_map.1 hmem
    exact nomatch hrow
  · -- the limit is before a line break
    rw [List.take_length] at hread
    have hall : ∀ other ∈ shown ++ [line], JsonLine unmarshalRow other := by
      intro other hother
      exact h other (by
        rw [List.mem_append, List.mem_singleton] at hother
        rw [List.mem_append, List.mem_cons]
        tauto)
    obtain rfl | hne := eq_or_ne hidden []
    · exact .inl ((readRows_jsonLines hall).1 hread).2
    · refine .inr ⟨shown ++ [line], hidden, by simp, hne, .inr ?_,
        (exists_readRows_iff hall).1 ⟨rows, hread⟩⟩
      rw [responseOf_append, responseOf_cons]
      simp [responseOf]
      omega

/-- **Lines that end at the limit are read without the ones after them.** -/
theorem scanLines_take {shown hidden : List GoString} {limit : ℕ}
    (h : ∀ line ∈ shown, JsonLine unmarshalRow line)
    (hlimit : (responseOf shown).length = limit ∨ (responseOf shown).length = limit + 1) :
    scanLines ((responseOf (shown ++ hidden)).take limit) = shown := by
  have hbreak : ∀ line ∈ shown, (0x0a : UInt8) ∉ line :=
    fun line hline => (h line hline).break_not_mem
  rw [responseOf_append]
  obtain hlimit | hlimit := hlimit
  · rw [List.take_left' hlimit, ← List.append_nil (responseOf shown), scanLines_responseOf hbreak]
    exact List.append_nil shown
  · obtain rfl | ⟨front, last, rfl⟩ := List.eq_nil_or_concat shown
    · exact nomatch hlimit
    rw [List.concat_eq_append] at h hbreak hlimit ⊢
    have hlast := h last (by simp)
    have hsplit : responseOf (front ++ [last]) ++ responseOf hidden =
        (responseOf front ++ last) ++ 0x0a :: responseOf hidden := by
      simp [responseOf]
    have hlength : (responseOf front ++ last).length = limit := by
      simp [responseOf] at hlimit ⊢
      omega
    rw [hsplit, List.take_left' hlength,
      scanLines_responseOf fun line hline => hbreak line (List.mem_append_left _ hline),
      scanLines_eq_singleton hlast.ne_nil hlast.break_not_mem]

end

/-! ## Whole responses -/

/-- **The limit hides lines**: it falls between two lines, or before the line break of the line
before it, and the lines up to there can be read. -/
def HidesLines (unmarshalRow : GoString → Option EventRow) (lines : List GoString) : Prop :=
  ∃ shown hidden, lines = shown ++ hidden ∧ hidden ≠ [] ∧
    ((responseOf shown).length = maxResponse ∨ (responseOf shown).length = maxResponse + 1) ∧
    Legible unmarshalRow shown

section

variable {store : Store} {lines : List GoString}

theorem queryRows_eq_readRows (statement : String) (parameters : Values)
    (hanswer : store.answer statement parameters = .ok (responseOf lines)) :
    queryRows store.unmarshalRow store.answer statement parameters =
      readRows store.unmarshalRow (scanLines ((responseOf lines).take maxResponse)) := by
  rw [queryRows, hanswer]
  rfl

/-- If the limit hides lines, the rows before them are the result. -/
theorem exists_rows_of_hidesLines (hlines : ∀ line ∈ lines, JsonLine store.unmarshalRow line)
    {statement : String} {parameters : Values}
    (hanswer : store.answer statement parameters = .ok (responseOf lines))
    (h : HidesLines store.unmarshalRow lines) :
    ∃ rows, queryRows store.unmarshalRow store.answer statement parameters = .ok rows ∧
      rows.length < lines.length := by
  obtain ⟨shown, hidden, rfl, hne, hlimit, hlegible⟩ := h
  have hshown : ∀ line ∈ shown, JsonLine store.unmarshalRow line :=
    fun line hline => hlines line (List.mem_append_left _ hline)
  obtain ⟨rows, hrows⟩ := (exists_readRows_iff hshown).2 hlegible
  refine ⟨rows, ?_, ?_⟩
  · rw [queryRows_eq_readRows statement parameters hanswer, scanLines_take hshown hlimit, hrows]
  · have hlength := congrArg List.length ((readRows_jsonLines hshown).1 hrows).2
    rw [List.length_map, List.length_map] at hlength
    rw [List.length_append, hlength]
    exact Nat.lt_add_of_pos_right (List.length_pos_of_ne_nil hne)

/-- If it does not, every line has its row. -/
theorem map_of_queryRows (hlines : ∀ line ∈ lines, JsonLine store.unmarshalRow line)
    {statement : String} {parameters : Values}
    (hanswer : store.answer statement parameters = .ok (responseOf lines))
    (h : ¬ HidesLines store.unmarshalRow lines) {rows : List EventRow}
    (hrows : queryRows store.unmarshalRow store.answer statement parameters = .ok rows) :
    lines.map store.unmarshalRow = rows.map some := by
  rw [queryRows_eq_readRows statement parameters hanswer] at hrows
  by_cases hlimit : maxResponse < (responseOf lines).length
  · exact (readRows_take hlines hlimit hrows).resolve_right h
  · rw [List.take_of_length_le (not_lt.1 hlimit), ← List.append_nil (responseOf lines),
      scanLines_responseOf fun line hline => (hlines line hline).break_not_mem, scanLines,
      List.append_nil] at hrows
    exact ((readRows_jsonLines hlines).1 hrows).2

theorem length_eventViews {uuidVersion : GoString → Option ℕ} {jsonValid : String → Bool} :
    ∀ {rows : List EventRow} {items : List EventView},
      eventViews uuidVersion jsonValid rows = .ok items → items.length = rows.length
  | [], _, h => by
      rw [← Except.ok.inj h]
      rfl
  | row :: rows, items, h => by
      rw [eventViews, bind_eq_ok] at h
      obtain ⟨item, -, h⟩ := h
      obtain ⟨rest, hrest, h⟩ := bind_eq_ok.1 h
      rw [← Except.ok.inj h, List.length_cons, length_eventViews hrest, List.length_cons]

/-- A page that is not truncated has an item for each row that is read. -/
theorem exists_rows_of_search {tenantId : GoString} {prepared : PreparedSearch} {page : SearchPage}
    (h : store.search tenantId prepared = .ok page) (htruncated : page.truncated = false) :
    ∃ statement parameters rows,
      queryRows store.unmarshalRow store.answer statement parameters = .ok rows ∧
      page.items.length = rows.length := by
  rw [Store.search, bind_eq_ok] at h
  obtain ⟨⟨condition, values⟩, -, h⟩ := h
  obtain ⟨rows, hrows, h⟩ := bind_eq_ok.1 h
  obtain ⟨items, hitems, h⟩ := bind_eq_ok.1 h
  rw [← Except.ok.inj h] at htruncated ⊢
  refine ⟨_, _, rows, hrows, ?_⟩
  show items.length = rows.length
  rw [length_eventViews hitems, List.length_take,
    min_eq_right (not_lt.1 (of_decide_eq_false htruncated))]

/-- **`queryRows` returns the row of every line, or fails, unless the limit hides lines**; then a
page that is not truncated has every row. -/
theorem queryRows_complete_iff (hlines : ∀ line ∈ lines, JsonLine store.unmarshalRow line)
    (hanswer : ∀ statement parameters, store.answer statement parameters = .ok (responseOf lines)) :
    ((∀ statement parameters rows,
      queryRows store.unmarshalRow store.answer statement parameters = .ok rows →
        lines.map store.unmarshalRow = rows.map some) ↔ ¬ HidesLines store.unmarshalRow lines) ∧
    (¬ HidesLines store.unmarshalRow lines → ∀ tenantId prepared page,
      store.search tenantId prepared = .ok page → page.truncated = false →
        page.items.length = lines.length) := by
  refine ⟨⟨fun hall hhides => ?_, fun hhides statement parameters rows hrows =>
    map_of_queryRows hlines (hanswer _ _) hhides hrows⟩, ?_⟩
  · obtain ⟨rows, hrows, hlength⟩ :=
      exists_rows_of_hidesLines hlines (hanswer "SELECT" []) hhides
    have := congrArg List.length (hall _ _ _ hrows)
    rw [List.length_map, List.length_map] at this
    omega
  · intro hhides tenantId prepared page hpage htruncated
    obtain ⟨statement, parameters, rows, hrows, hitems⟩ := exists_rows_of_search hpage htruncated
    have := congrArg List.length (map_of_queryRows hlines (hanswer _ _) hhides hrows)
    rw [List.length_map, List.length_map] at this
    rw [hitems, this]

end

/-! ## Nine lines of a mebibyte -/

/-- The line of a row, up to the name of its parser. -/
def paddedHead : GoString :=
  bytes ("\x7b\"normalized_event_id\":\"0198c0de-0000-7000-8000-000000000001\"," ++
    "\"raw_event_id\":\"0198c0de-0000-7000-8000-000000000101\"," ++
    "\"tenant_id\":\"0198c0de-0000-7000-8000-0000000000aa\",\"event_time_present\":1," ++
    "\"event_time_seconds\":1699999998,\"event_time_nanos\":0," ++
    "\"ingest_time_seconds\":1699999998,\"ingest_time_nanos\":0,\"ocsf_version\":\"1.8.0\"," ++
    "\"class_uid\":3002,\"category_uid\":3,\"activity_id\":1,\"severity\":1,\"parser_id\":\"")

/-- The rest of the line. -/
def paddedTail : GoString :=
  bytes ("\",\"parser_version\":\"1.0.0\",\"mapping_id\":\"cerbero.mapping.linux.sshd\"," ++
    "\"mapping_version\":\"1.0.0\",\"normalized_hash\":\"00\",\"execution_mode\":1," ++
    "\"ocsf_event_json\":\"\x7b\x7d\"\x7d")

/-- The line of a row whose parser has a name of that size. -/
def paddedLine (size : ℕ) : GoString := paddedHead ++ List.replicate size 0x61 ++ paddedTail

/-- The row of that line. -/
def paddedRow (size : ℕ) : EventRow where
  normalizedEventId := "0198c0de-0000-7000-8000-000000000001"
  rawEventId := "0198c0de-0000-7000-8000-000000000101"
  tenantId := "0198c0de-0000-7000-8000-0000000000aa"
  eventTimePresent := 1
  eventTimeSeconds := 1699999998
  eventTimeNanos := 0
  ingestTimeSeconds := 1699999998
  ingestTimeNanos := 0
  ocsfVersion := "1.8.0"
  classUid := 3002
  categoryUid := 3
  activityId := some 1
  severity := some 1
  parserId := String.ofList (List.replicate size 'a')
  parserVersion := "1.0.0"
  mappingId := "cerbero.mapping.linux.sshd"
  mappingVersion := "1.0.0"
  normalizedHash := "00"
  executionMode := 1
  ocsfEventJson := "\x7b\x7d"

/-- What a line has besides the name of the parser. -/
def paddedOverhead : ℕ := paddedHead.length + paddedTail.length

/-- A store whose answers are such lines. -/
def paddedStore (lines : List GoString) : Store where
  database := "cerbero"
  uuidVersion := fun text => if text.length = 36 then some 7 else none
  jsonValid := fun text => text == "\x7b\x7d"
  unmarshalRow := fun text =>
    let size := text.length - paddedOverhead
    if text = paddedLine size then some (paddedRow size) else none
  answer := fun _ _ => .ok (responseOf lines)

def paddedPrepared : PreparedSearch where
  request := ⟨[], bytes "2023-11-14T22:00:00Z", bytes "2023-11-14T22:30:00Z", [], 50, []⟩
  expression := none
  fromTime := (1699999200, 0)
  toTime := (1700001000, 0)
  direction := .asc
  fingerprint := ""
  cursor := none

theorem length_paddedLine (size : ℕ) : (paddedLine size).length = size + paddedOverhead := by
  rw [paddedLine, List.length_append, List.length_append, List.length_replicate, paddedOverhead]
  omega

/-- A line starts no longer line. -/
theorem not_prefix_paddedLine {size size' : ℕ} (h : size' < size) :
    ¬ paddedLine size' <+: paddedLine size := by
  have htail : paddedTail = 0x22 :: paddedTail.tail := by decide +kernel
  obtain ⟨more, rfl⟩ := Nat.exists_eq_add_of_lt h
  have hline : paddedLine (size' + more + 1) = paddedHead ++ List.replicate size' 0x61 ++
      (List.replicate (more + 1) 0x61 ++ paddedTail) := by
    simp only [paddedLine, add_assoc, List.replicate_add, List.append_assoc]
  rw [hline, paddedLine, List.prefix_append_right_inj, htail, List.replicate_succ, List.cons_append]
  intro hprefix
  exact absurd (List.cons_prefix_cons.1 hprefix).1 (by decide)

theorem jsonLine_paddedLine (lines : List GoString) (size : ℕ) :
    JsonLine (paddedStore lines).unmarshalRow (paddedLine size) := by
  have hhead : ∀ b ∈ paddedHead, b ≠ 0x0a := by decide +kernel
  have htail : ∀ b ∈ paddedTail, b ≠ 0x0a := by decide +kernel
  have hlast : paddedTail.getLast? = some 0x7d := by decide +kernel
  refine ⟨fun hnil => ?_, fun hmem => ?_, ?_, fun part hpart hne => if_neg fun hline => ?_⟩
  · have := length_paddedLine size
    have hoverhead : 0 < paddedOverhead := by decide +kernel
    rw [hnil, List.length_nil] at this
    omega
  · rw [paddedLine, List.mem_append, List.mem_append, List.mem_replicate] at hmem
    obtain (hmem | ⟨-, heq⟩) | hmem := hmem
    · exact hhead _ hmem rfl
    · exact absurd heq (by decide)
    · exact htail _ hmem rfl
  · rw [paddedLine, List.getLast?_append, hlast, Option.some_or]
    decide
  · rw [hline] at hpart hne
    refine not_prefix_paddedLine ?_ hpart
    have hlength := hpart.length_le
    rw [length_paddedLine, length_paddedLine] at hlength
    refine lt_of_le_of_ne (Nat.le_of_add_le_add_right hlength) fun heq => hne ?_
    rw [heq]

theorem unmarshalRow_paddedLine (lines : List GoString) (size : ℕ) :
    (paddedStore lines).unmarshalRow (paddedLine size) = some (paddedRow size) := by
  simp only [paddedStore, length_paddedLine, Nat.add_sub_cancel, if_true]

theorem length_responseOf_replicate (size : ℕ) : ∀ count : ℕ,
    (responseOf (List.replicate count (paddedLine size))).length =
      count * (size + paddedOverhead + 1)
  | 0 => by simp [responseOf]
  | count + 1 => by
      rw [List.replicate_succ, responseOf_cons, List.length_append, List.length_cons,
        length_responseOf_replicate size count, length_paddedLine, Nat.succ_mul]
      omega

theorem queryRows_replicate {size shown : ℕ} (hidden : ℕ) (hsize : size + paddedOverhead < maxLine)
    (hshown : shown * (size + paddedOverhead + 1) = maxResponse) (statement : String)
    (parameters : Values) :
    let store := paddedStore (List.replicate (shown + hidden) (paddedLine size))
    queryRows store.unmarshalRow store.answer statement parameters =
      .ok (List.replicate shown (paddedRow size)) := by
  intro store
  have hlines : ∀ line ∈ List.replicate shown (paddedLine size),
      JsonLine store.unmarshalRow line := by
    intro line hline
    rw [List.eq_of_mem_replicate hline]
    exact jsonLine_paddedLine _ size
  rw [queryRows_eq_readRows statement parameters rfl, List.replicate_add,
    scanLines_take hlines (.inl ((length_responseOf_replicate size shown).trans hshown)),
    readRows_jsonLines hlines, List.map_replicate, List.map_replicate, unmarshalRow_paddedLine]
  refine ⟨fun line hline => ?_, rfl⟩
  rwa [List.eq_of_mem_replicate hline, length_paddedLine]

/-- The rows are shown, whatever the name of their parser is. -/
theorem exists_eventViews_paddedRow (lines : List GoString) (size : ℕ) : ∀ count, ∃ items,
    eventViews (paddedStore lines).uuidVersion (paddedStore lines).jsonValid
      (List.replicate count (paddedRow size)) = .ok items
  | 0 => ⟨[], rfl⟩
  | count + 1 => by
      obtain ⟨items, hitems⟩ := exists_eventViews_paddedRow lines size count
      have hid : (paddedStore lines).uuidVersion (bytes (paddedRow size).normalizedEventId) =
          some 7 := by
        have hlength : (bytes (paddedRow size).normalizedEventId).length = 36 := by
          show (bytes "0198c0de-0000-7000-8000-000000000001").length = 36
          decide +kernel
        simp only [paddedStore, hlength, if_true]
      have hjson : (paddedStore lines).jsonValid (paddedRow size).ocsfEventJson ≠ false := by
        show ("\x7b\x7d" == "\x7b\x7d") ≠ false
        decide
      rw [List.replicate_succ, eventViews, eventViewFromRow, if_neg (not_not.2 hid), if_neg hjson]
      exact ⟨_, bind_eq_ok.2 ⟨_, rfl, bind_eq_ok.2 ⟨items, hitems, rfl⟩⟩⟩

/-- **Of nine rows a search returns eight, and says that there are no more.** -/
theorem queryRows_nineLines :
    let size := 2 ^ 20 - 1 - paddedOverhead
    let lines := List.replicate 9 (paddedLine size)
    (∀ line ∈ lines, line.length = 2 ^ 20 - 1 ∧
      ((paddedStore lines).unmarshalRow line).isSome) ∧
    queryRows (paddedStore lines).unmarshalRow (paddedStore lines).answer "SELECT" [] =
      .ok (List.replicate 8 (paddedRow size)) ∧
    ∃ items, (paddedStore lines).search (bytes "0198c0de-0000-7000-8000-0000000000aa")
      paddedPrepared = .ok ⟨items, [], false⟩ ∧ items.length = 8 := by
  have hsize : 2 ^ 20 - 1 - paddedOverhead + paddedOverhead = 2 ^ 20 - 1 :=
    Nat.sub_add_cancel (by decide +kernel)
  generalize 2 ^ 20 - 1 - paddedOverhead = size at hsize
  have hmax : size + paddedOverhead < maxLine := by
    rw [hsize]
    decide
  have hfull : 8 * (size + paddedOverhead + 1) = maxResponse := by
    rw [hsize]
    rfl
  have hrows := queryRows_replicate 1 hmax hfull
  obtain ⟨items, hitems⟩ :=
    exists_eventViews_paddedRow (List.replicate 9 (paddedLine size)) size 8
  refine ⟨fun line hline => ?_, hrows _ _, items, ?_, length_eventViews hitems⟩
  · rw [List.eq_of_mem_replicate hline, unmarshalRow_paddedLine, length_paddedLine]
    exact ⟨hsize, rfl⟩
  · rw [Store.search]
    exact bind_eq_ok.2 ⟨(none, []), rfl, bind_eq_ok.2 ⟨_, hrows _ _, bind_eq_ok.2
      ⟨items, hitems, rfl⟩⟩⟩

/-- **Of nine short lines a search has every row.** -/
theorem queryRows_complete_nineLines :
    let lines := List.replicate 9 (paddedLine 100)
    ((∀ statement parameters rows,
      queryRows (paddedStore lines).unmarshalRow (paddedStore lines).answer statement parameters =
        .ok rows → lines.map (paddedStore lines).unmarshalRow = rows.map some) ↔
      ¬ HidesLines (paddedStore lines).unmarshalRow lines) ∧
    (¬ HidesLines (paddedStore lines).unmarshalRow lines → ∀ tenantId prepared page,
      (paddedStore lines).search tenantId prepared = .ok page → page.truncated = false →
        page.items.length = lines.length) :=
  queryRows_complete_iff (fun line hline => by
    rw [List.eq_of_mem_replicate hline]
    exact jsonLine_paddedLine _ 100) fun _ _ => rfl

end Search

end Cerbero
