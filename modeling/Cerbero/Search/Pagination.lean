import Mathlib.Data.Prod.Lex
import Mathlib.Data.List.Lex
import Cerbero.Lib.Keyset
import Cerbero.Search.EventList
import Cerbero.Search.Isolation
import Cerbero.Search.Response

/-!
# Search/Pagination — following cursors to the last page

ClickHouse is taken to evaluate a search as SQL says (`Evaluates`): it selects the rows of which the
conditions hold, orders them by time and identifier, and answers with the first of them.  If these
rows are well formed and every page fits what the API reads, then following `next_cursor` returns
each row that matches once, in order, whatever the size of a page (**`follow_eq_ok`**).
-/

namespace Cerbero

namespace Search

open Text

/-! ## Keys -/

/-- What rows are ordered by: seconds, nanoseconds and the bytes of the identifier. -/
abbrev Key := ℤ ×ₗ (ℤ ×ₗ List ℕ)

def keyOf (seconds nanos : ℤ) (id : String) : Key :=
  toLex (seconds, toLex (nanos, (bytes id).map UInt8.toNat))

/-- Keys in the order of a direction. -/
def KeyIn : Direction → Type
  | .asc => Key
  | .desc => Keyᵒᵈ

instance : ∀ direction, LinearOrder (KeyIn direction)
  | .asc => inferInstanceAs (LinearOrder Key)
  | .desc => inferInstanceAs (LinearOrder Keyᵒᵈ)

/-- A key in the order of a direction. -/
def toKeyIn : (direction : Direction) → Key → KeyIn direction
  | .asc, key => key
  | .desc, key => OrderDual.toDual key

/-- The key of a row. -/
def rowKey (direction : Direction) (row : EventRow) : KeyIn direction :=
  toKeyIn direction
    (keyOf row.eventTimeSeconds.toInt row.eventTimeNanos.toInt row.normalizedEventId)

/-- The key of a cursor. -/
def cursorKey (direction : Direction) (cursor : SearchCursor) : KeyIn direction :=
  toKeyIn direction (keyOf cursor.seconds cursor.nanos cursor.eventId)

/-! ## The condition of a cursor -/

/-- What the condition of a cursor compares. -/
inductive KeyColumn
  | seconds
  | nanos
  | id

def KeyColumn.text : KeyColumn → String
  | .seconds => "event_time_seconds"
  | .nanos => "event_time_nanos"
  | .id => "toString(normalized_event_id)"

def KeyColumn.parameter : KeyColumn → String
  | .seconds => "\x7bcursor_seconds:Int64\x7d"
  | .nanos => "\x7bcursor_nanos:Int32\x7d"
  | .id => "\x7bcursor_id:String\x7d"

/-- Conditions on a row and a cursor. -/
inductive KeysetCondition
  | equal (column : KeyColumn)
  | beyond (direction : Direction) (column : KeyColumn)
  | and (left right : KeysetCondition)
  | or (left right : KeysetCondition)
  | parenthesised (inner : KeysetCondition)

/-- The SQL of a condition. -/
def KeysetCondition.text : KeysetCondition → String
  | .equal column => column.text ++ " = " ++ column.parameter
  | .beyond .asc column => column.text ++ " > " ++ column.parameter
  | .beyond .desc column => column.text ++ " < " ++ column.parameter
  | .and left right => left.text ++ " AND " ++ right.text
  | .or left right => left.text ++ " OR " ++ right.text
  | .parenthesised inner => "(" ++ inner.text ++ ")"

/-- The order of two values. -/
def order {κ : Type} [LinearOrder κ] (a b : κ) : Ordering := cmp a b

theorem order_eq_eq_iff {κ : Type} [LinearOrder κ] {a b : κ} : order a b = .eq ↔ a = b :=
  cmp_eq_eq_iff a b

theorem order_eq_gt_iff {κ : Type} [LinearOrder κ] {a b : κ} : order a b = .gt ↔ b < a :=
  cmp_eq_gt_iff a b

theorem order_eq_lt_iff {κ : Type} [LinearOrder κ] {a b : κ} : order a b = .lt ↔ a < b :=
  cmp_eq_lt_iff a b

/-- The values a column of a row and its parameter are compared with. -/
def KeyColumn.compare (row : EventRow) (cursor : SearchCursor) : KeyColumn → Ordering
  | .seconds => order row.eventTimeSeconds.toInt cursor.seconds
  | .nanos => order row.eventTimeNanos.toInt cursor.nanos
  | .id => order ((bytes row.normalizedEventId).map UInt8.toNat)
      ((bytes cursor.eventId).map UInt8.toNat)

/-- What a condition says of a row. -/
def KeysetCondition.holds (row : EventRow) (cursor : SearchCursor) : KeysetCondition → Bool
  | .equal column => column.compare row cursor == .eq
  | .beyond .asc column => column.compare row cursor == .gt
  | .beyond .desc column => column.compare row cursor == .lt
  | .and left right => left.holds row cursor && right.holds row cursor
  | .or left right => left.holds row cursor || right.holds row cursor
  | .parenthesised inner => inner.holds row cursor

/-- The condition of a cursor. -/
def keyset (direction : Direction) : KeysetCondition :=
  .parenthesised (.or (.or (.beyond direction .seconds)
    (.parenthesised (.and (.equal .seconds) (.beyond direction .nanos))))
    (.parenthesised (.and (.and (.equal .seconds) (.equal .nanos)) (.beyond direction .id))))

/-- **The condition is the one of the statement**, spelled in the columns and parameters it names. -/
theorem text_keyset (direction : Direction) :
    (keyset direction).text = cursorKeysetPredicate direction := by
  cases direction <;> decide +kernel

theorem keyOf_lt {seconds seconds' nanos nanos' : ℤ} {id id' : String} :
    keyOf seconds nanos id < keyOf seconds' nanos' id' ↔ seconds < seconds' ∨
      seconds = seconds' ∧ (nanos < nanos' ∨
        nanos = nanos' ∧ (bytes id).map UInt8.toNat < (bytes id').map UInt8.toNat) := by
  rw [keyOf, keyOf, Prod.Lex.toLex_lt_toLex, Prod.Lex.toLex_lt_toLex]

/-- **The condition of a cursor holds of the rows beyond its key.** -/
theorem holds_keyset (direction : Direction) (row : EventRow) (cursor : SearchCursor) :
    (keyset direction).holds row cursor =
      decide (cursorKey direction cursor < rowKey direction row) := by
  rw [Bool.eq_iff_iff, decide_eq_true_iff]
  match direction with
  | .asc =>
    refine Iff.trans ?_ keyOf_lt.symm
    simp only [keyset, KeysetCondition.holds, KeyColumn.compare, Bool.or_eq_true, Bool.and_eq_true,
      beq_iff_eq, order_eq_eq_iff, order_eq_gt_iff]
    grind
  | .desc =>
    refine Iff.trans ?_ keyOf_lt.symm
    simp only [keyset, KeysetCondition.holds, KeyColumn.compare, Bool.or_eq_true, Bool.and_eq_true,
      beq_iff_eq, order_eq_eq_iff, order_eq_lt_iff]
    grind

/-! ## What ClickHouse answers -/

/-- The conditions of a search apart from the cursor, as ClickHouse evaluates them: `condition` says
of which rows the user's holds. -/
def Selected (tenantId : GoString) (fromTime toTime : ℤ × ℤ) (condition : EventRow → Bool)
    (row : EventRow) : Bool :=
  let time : ℤ ×ₗ ℤ := toLex (row.eventTimeSeconds.toInt, row.eventTimeNanos.toInt)
  bytes row.tenantId = tenantId && row.eventTimePresent = 1 && toLex fromTime ≤ time &&
    time < toLex toTime && condition row

/-- The rows of a search in their order. -/
def matching (table : List EventRow) (tenantId : GoString) (prepared : PreparedSearch)
    (condition : EventRow → Bool) : List EventRow :=
  Keyset.orderBy (rowKey prepared.direction)
    (table.filter (Selected tenantId prepared.fromTime prepared.toTime condition))

/-- The rows a statement asks for: `WHERE`, `ORDER BY` and `LIMIT`. -/
def selectRows (table : List EventRow) (tenantId : GoString) (prepared : PreparedSearch)
    (condition : EventRow → Bool) : List EventRow :=
  (Keyset.orderBy (rowKey prepared.direction) (table.filter fun row =>
    Selected tenantId prepared.fromTime prepared.toTime condition row &&
      prepared.cursor.all fun cursor => (keyset prepared.direction).holds row cursor)).take
    (prepared.request.limit.toNat + 1)

/-- The text of a response, `line` being the one of a row. -/
def responseBody (line : EventRow → GoString) (rows : List EventRow) : GoString :=
  rows.flatMap fun row => line row ++ [0x0a]

/-- The statement of a prepared search, and its parameters. -/
def statementOf (store : Store) (tenantId : GoString) (prepared : PreparedSearch)
    (compiled : Option String × Values) : String × Values :=
  (searchStatement store.database compiled.1 prepared.cursor.isSome prepared.direction
      prepared.request.limit.toNat,
    searchParameters compiled.2 tenantId prepared.fromTime prepared.toTime
      (prepared.cursor.map fun cursor => (cursor.seconds, cursor.nanos, bytes cursor.eventId)))

/-- A prepared search with another cursor, and the text it came from. -/
def PreparedSearch.resumed (prepared : PreparedSearch) (raw : GoString)
    (cursor : Option SearchCursor) : PreparedSearch :=
  { prepared with
    request := { prepared.request with cursor := raw }
    cursor := cursor }

/-- **ClickHouse evaluates the statements of a search as SQL says**, whatever their cursor.  What a
cursor adds to a statement is `cursorKeysetPredicate`, the SQL of `keyset` (`text_keyset`), and the
rows it selects are those of which `keyset` holds. -/
def Evaluates (store : Store) (table : List EventRow) (tenantId : GoString)
    (prepared : PreparedSearch) (condition : EventRow → Bool) (line : EventRow → GoString) : Prop :=
  ∀ compiled, compileExpression store.uuidVersion prepared.expression = .ok compiled →
    ∀ (raw : GoString) (cursor : Option SearchCursor),
      store.answer (statementOf store tenantId (prepared.resumed raw cursor) compiled).1
          (statementOf store tenantId (prepared.resumed raw cursor) compiled).2 =
        .ok (responseBody line (selectRows table tenantId (prepared.resumed raw cursor) condition))

/-! ## What the API reads -/

/-- A row that `eventViewFromRow` takes. -/
structure Stored (store : Store) (row : EventRow) : Prop where
  id : store.uuidVersion (bytes row.normalizedEventId) = some 7
  json : store.jsonValid row.ocsfEventJson = true

/-- A row of the table is written as one line, and read back from it. -/
def Writes (store : Store) (line : EventRow → GoString) (table : List EventRow) : Prop :=
  ∀ row ∈ table, (0x0a : UInt8) ∉ line row ∧
    store.unmarshalRow (dropCarriageReturn (line row)) = some row

/-- Rows whose lines and whose text the API reads. -/
structure Fits (line : EventRow → GoString) (rows : List EventRow) : Prop where
  lines : ∀ row ∈ rows, (line row).length < maxLine
  response : (responseBody line rows).length ≤ maxResponse

/-- The view of a row. -/
def viewOf (row : EventRow) : EventView :=
  { row with
    eventTime := if row.eventTimePresent = 1 then
        formatRfc3339Nano (instantOfUnix row.eventTimeSeconds.toInt row.eventTimeNanos.toInt)
      else []
    ingestTime :=
      formatRfc3339Nano (instantOfUnix row.ingestTimeSeconds.toInt row.ingestTimeNanos.toInt)
    severityId := row.severity
    ocsfEvent := row.ocsfEventJson }

section

variable {store : Store} {line : EventRow → GoString}

theorem eventViews_eq_ok : ∀ {rows : List EventRow}, (∀ row ∈ rows, Stored store row) →
    eventViews store.uuidVersion store.jsonValid rows = .ok (rows.map viewOf)
  | [], _ => rfl
  | row :: rows, h => by
      have hrow := h row List.mem_cons_self
      have hview : eventViewFromRow store.uuidVersion store.jsonValid row = .ok (viewOf row) := by
        rw [eventViewFromRow, if_neg (by simp [hrow.id]), if_neg (by simp [hrow.json])]
        rfl
      rw [eventViews, hview, eventViews_eq_ok fun other hmem => h other (List.mem_cons_of_mem _ hmem)]
      rfl

theorem scanLines_responseBody : ∀ {rows : List EventRow}, Writes store line rows →
    scanLines (responseBody line rows) = rows.map line
  | [], _ => rfl
  | row :: rows, h => by
      have hrow : responseBody line (row :: rows) = line row ++ 0x0a :: responseBody line rows := by
        simp [responseBody]
      rw [hrow, scanLines_append (h row List.mem_cons_self).1,
        scanLines_responseBody fun other hmem => h other (List.mem_cons_of_mem _ hmem),
        List.map_cons]

theorem readRows_map : ∀ {rows : List EventRow}, Writes store line rows →
    (∀ row ∈ rows, (line row).length < maxLine) →
    readRows store.unmarshalRow (rows.map line) = .ok rows
  | [], _, _ => rfl
  | row :: rows, h, hlines => by
      have hshort := Nat.not_le.2 (hlines row List.mem_cons_self)
      have htail := readRows_map (fun other hmem => h other (List.mem_cons_of_mem _ hmem))
        fun other hmem => hlines other (List.mem_cons_of_mem _ hmem)
      rw [List.map_cons, readRows, if_neg hshort, (h row List.mem_cons_self).2]
      simp only [htail]
      rfl

/-- **A page of rows that the API reads.** -/
theorem search_eq_ok {tenantId : GoString} {prepared : PreparedSearch} {rows : List EventRow}
    {compiled : Option String × Values}
    (hcompiled : compileExpression store.uuidVersion prepared.expression = .ok compiled)
    (hanswer : store.answer (statementOf store tenantId prepared compiled).1
      (statementOf store tenantId prepared compiled).2 = .ok (responseBody line rows))
    (hwrites : Writes store line rows) (hfits : Fits line rows)
    (hstored : ∀ row ∈ rows, Stored store row) :
    store.search tenantId prepared =
      .ok ⟨(rows.take prepared.request.limit.toNat).map viewOf,
        if decide (prepared.request.limit.toNat < rows.length) then
          ((rows.take prepared.request.limit.toNat).getLast?.map fun last =>
            encodeSearchCursor (cursorOf prepared last)).getD []
        else [],
        decide (prepared.request.limit.toNat < rows.length)⟩ := by
  have hrows : queryRows store.unmarshalRow store.answer
      (statementOf store tenantId prepared compiled).1
      (statementOf store tenantId prepared compiled).2 = .ok rows := by
    rw [queryRows, hanswer]
    show readRows store.unmarshalRow (scanLines ((responseBody line rows).take maxResponse)) = _
    rw [List.take_of_length_le hfits.response, scanLines_responseBody hwrites,
      readRows_map hwrites hfits.lines]
  have hviews : eventViews store.uuidVersion store.jsonValid
      (rows.take prepared.request.limit.toNat) = _ :=
    eventViews_eq_ok fun row hmem => hstored row (List.mem_of_mem_take hmem)
  rw [Store.search]
  exact bind_eq_ok.2 ⟨compiled, hcompiled, bind_eq_ok.2 ⟨rows, hrows, bind_eq_ok.2 ⟨_, hviews,
    rfl⟩⟩⟩

end

/-! ## Pages of the rows that match -/

section

variable {table : List EventRow} {tenantId : GoString} {prepared : PreparedSearch}
  {condition : EventRow → Bool}

theorem rowKey_injective {direction : Direction} {row row' : EventRow}
    (h : rowKey direction row = rowKey direction row') :
    row.normalizedEventId = row'.normalizedEventId := by
  have hkeys : keyOf row.eventTimeSeconds.toInt row.eventTimeNanos.toInt row.normalizedEventId =
      keyOf row'.eventTimeSeconds.toInt row'.eventTimeNanos.toInt row'.normalizedEventId := by
    cases direction <;> exact h
  have hbytes := congrArg (fun key : Key => (ofLex (ofLex key).2).2) hkeys
  exact bytes_injective ((List.map_injective_iff.2 fun _ _ => UInt8.toNat_inj.1) hbytes)

/-- Rows with different identifiers have different keys. -/
theorem nodup_rowKey (hids : (table.map EventRow.normalizedEventId).Nodup) (direction : Direction)
    (p : EventRow → Bool) : ((table.filter p).map (rowKey direction)).Nodup := by
  have hsub : ((table.filter p).map EventRow.normalizedEventId).Nodup :=
    hids.sublist (List.filter_sublist.map _)
  refine List.pairwise_map.2 ((List.pairwise_map.1 hsub).imp fun hne heq => ?_)
  exact hne (rowKey_injective heq)

theorem pairwise_matching (hids : (table.map EventRow.normalizedEventId).Nodup) :
    (matching table tenantId prepared condition).Pairwise fun a b =>
      rowKey prepared.direction a < rowKey prepared.direction b :=
  Keyset.pairwise_orderBy (nodup_rowKey hids _ _)

theorem mem_table_of_mem_matching {row : EventRow}
    (h : row ∈ matching table tenantId prepared condition) : row ∈ table :=
  List.mem_of_mem_filter ((Keyset.orderBy_perm _ _).mem_iff.1 h)

theorem selectRows_start (hcursor : prepared.cursor = none) :
    selectRows table tenantId prepared condition =
      (matching table tenantId prepared condition).take (prepared.request.limit.toNat + 1) := by
  simp only [selectRows, matching, hcursor, Option.all_none, Bool.and_true]

/-- **After the cursor of a row that matches come the rows after it.** -/
theorem selectRows_after (hids : (table.map EventRow.normalizedEventId).Nodup)
    {front rest : List EventRow} {row : EventRow} {cursor : SearchCursor}
    (hrows : matching table tenantId prepared condition = front ++ row :: rest)
    (hkey : cursorKey prepared.direction cursor = rowKey prepared.direction row) (raw : GoString) :
    selectRows table tenantId (prepared.resumed raw (some cursor)) condition =
      rest.take (prepared.request.limit.toNat + 1) := by
  have hpairwise : (front ++ row :: rest).Pairwise fun a b =>
      rowKey prepared.direction a < rowKey prepared.direction b :=
    hrows ▸ pairwise_matching hids
  have hselect : (table.filter fun other =>
      Selected tenantId prepared.fromTime prepared.toTime condition other &&
        (some cursor).all fun cursor => (keyset prepared.direction).holds other cursor) =
      (table.filter (Selected tenantId prepared.fromTime prepared.toTime condition)).filter
        fun other => decide (rowKey prepared.direction row < rowKey prepared.direction other) := by
    rw [List.filter_filter]
    refine List.filter_congr fun other _ => ?_
    rw [Option.all_some, holds_keyset, hkey, Bool.and_comm]
  have hmatching : Keyset.orderBy (rowKey prepared.direction)
      (table.filter (Selected tenantId prepared.fromTime prepared.toTime condition)) =
      front ++ row :: rest := hrows
  show (Keyset.orderBy (rowKey prepared.direction) (table.filter fun other =>
    Selected tenantId prepared.fromTime prepared.toTime condition other &&
      (some cursor).all fun cursor => (keyset prepared.direction).holds other cursor)).take _ = _
  rw [hselect, Keyset.orderBy_filter (nodup_rowKey hids _ _), hmatching,
    Keyset.filter_after hpairwise]
  rfl

end

/-! ## Following cursors -/

/-- The pages of a request, one after the other, until there is no cursor. -/
def Store.follow (sha256 : GoString → GoString) (store : Store) (tenantId : GoString) :
    ℕ → SearchRequest → Except String (List EventView)
  | 0, _ => .error "too many pages"
  | pages + 1, input => do
    let prepared ← prepareSearch sha256 store.uuidVersion input
    let page ← store.search tenantId prepared
    if page.nextCursor = [] then return page.items
    else do
      let more ← follow sha256 store tenantId pages { input with cursor := page.nextCursor }
      return page.items ++ more

section

variable {sha256 : GoString → GoString} {store : Store} {tenantId : GoString}

/-- A page with a next cursor comes before the pages that follow it. -/
theorem follow_more {pages : ℕ} {input : SearchRequest} {prepared : PreparedSearch}
    {items more : List EventView} {nextCursor : GoString} {truncated : Bool}
    (hprepared : prepareSearch sha256 store.uuidVersion input = .ok prepared)
    (hpage : store.search tenantId prepared = .ok ⟨items, nextCursor, truncated⟩)
    (hne : nextCursor ≠ [])
    (hmore : store.follow sha256 tenantId pages { input with cursor := nextCursor } = .ok more) :
    store.follow sha256 tenantId (pages + 1) input = .ok (items ++ more) := by
  rw [Store.follow]
  refine bind_eq_ok.2 ⟨prepared, hprepared, bind_eq_ok.2 ⟨_, hpage, ?_⟩⟩
  exact (if_neg hne).trans (bind_eq_ok.2 ⟨more, hmore, rfl⟩)

/-- A request is prepared again with a cursor that is taken. -/
theorem prepareSearch_resumed {input : SearchRequest} {prepared : PreparedSearch} {raw : GoString}
    {cursor : SearchCursor} (h : prepareSearch sha256 store.uuidVersion input = .ok prepared)
    (hcursor : prepareCursor store.uuidVersion raw prepared.fingerprint prepared.direction =
      .ok (some cursor)) :
    prepareSearch sha256 store.uuidVersion { input with cursor := raw } =
      .ok (prepared.resumed raw (some cursor)) := by
  obtain ⟨fromTime, toTime, limit, direction, expression, _, hprepares, -, rfl⟩ :=
    exists_of_prepareSearch h
  exact (hprepares.withCursor raw).prepareSearch hcursor

/-- **The cursor of a row is taken by the request it was made for.** -/
theorem prepareSearch_cursorOf (hlength : ∀ data, (sha256 data).length = 32)
    {input : SearchRequest} {prepared : PreparedSearch} {row : EventRow} (hrow : Stored store row)
    (h : prepareSearch sha256 store.uuidVersion input = .ok prepared) :
    encodeSearchCursor (cursorOf prepared row) ≠ [] ∧
    prepareSearch sha256 store.uuidVersion
        { input with cursor := encodeSearchCursor (cursorOf prepared row) } =
      .ok (prepared.resumed (encodeSearchCursor (cursorOf prepared row))
        (some (cursorOf prepared row))) := by
  have hfingerprint : prepared.fingerprint ≠ "" := by
    obtain ⟨_, _, _, _, _, _, -, -, rfl⟩ := exists_of_prepareSearch h
    exact searchFingerprint_ne_empty hlength _
  have hdecode : decodeSearchCursor store.uuidVersion
      (encodeSearchCursor (cursorOf prepared row)) = .ok (cursorOf prepared row) :=
    decodeSearchCursor_encodeSearchCursor (typed_cursorOf row) hrow.id hfingerprint
  have hne : encodeSearchCursor (cursorOf prepared row) ≠ [] := by
    intro hnil
    rw [hnil] at hdecode
    exact nomatch hdecode
  have hcursor : prepareCursor store.uuidVersion (encodeSearchCursor (cursorOf prepared row))
      prepared.fingerprint prepared.direction = .ok (some (cursorOf prepared row)) := by
    rw [prepareCursor, if_neg hne, hdecode]
    exact if_neg (by simp [cursorOf])
  exact ⟨hne, prepareSearch_resumed h hcursor⟩

/-- What the rows that match owe the API: they are well formed, and so many of them as a page has
fit what it reads. -/
structure Readable (store : Store) (line : EventRow → GoString) (limit : ℕ)
    (rows : List EventRow) : Prop where
  stored : ∀ row ∈ rows, Stored store row
  fits : ∀ page, page <:+: rows → page.length ≤ limit + 1 → Fits line page

variable {table : List EventRow} {condition : EventRow → Bool} {line : EventRow → GoString}

/-- The limit of a prepared search is positive. -/
theorem limit_pos {input : SearchRequest} {prepared : PreparedSearch}
    (h : prepareSearch sha256 store.uuidVersion input = .ok prepared) :
    0 < prepared.request.limit.toNat := by
  obtain ⟨_, _, limit, _, _, _, hprepares, -, rfl⟩ := exists_of_prepareSearch h
  have hlimit := hprepares.limit
  simp only [prepareLimit] at hlimit
  split_ifs at hlimit with hzero hbounds hbounds
  all_goals
    rw [← Except.ok.inj hlimit] at *
    simp only [completed]
    omega

/-- The rows of a full page, and the row its cursor is made from. -/
theorem exists_take_eq_concat {rows : List EventRow} {limit : ℕ} (hpos : 0 < limit)
    (h : limit < rows.length) : ∃ init last, rows.take limit = init ++ [last] ∧
      rows = init ++ last :: rows.drop limit := by
  obtain hnil | ⟨init, last, hinit⟩ := List.eq_nil_or_concat (rows.take limit)
  · have hzero := congrArg List.length hnil
    rw [List.length_take, List.length_nil] at hzero
    omega
  · rw [List.concat_eq_append] at hinit
    refine ⟨init, last, hinit, ?_⟩
    conv_lhs => rw [← List.take_append_drop limit rows, hinit]
    simp

/-- The page from some row on. -/
theorem search_resumed (hwrites : Writes store line table) {input : SearchRequest}
    {prepared : PreparedSearch}
    (hprepared : prepareSearch sha256 store.uuidVersion input = .ok prepared)
    (hevaluates : Evaluates store table tenantId prepared condition line)
    (hreadable : Readable store line prepared.request.limit.toNat
      (matching table tenantId prepared condition))
    {front rest : List EventRow} {raw : GoString} {cursor : Option SearchCursor}
    (hrows : matching table tenantId prepared condition = front ++ rest)
    (hselect : selectRows table tenantId (prepared.resumed raw cursor) condition =
      rest.take (prepared.request.limit.toNat + 1)) :
    store.search tenantId (prepared.resumed raw cursor) =
      .ok ⟨(rest.take prepared.request.limit.toNat).map viewOf,
        if decide (prepared.request.limit.toNat < rest.length) then
          ((rest.take prepared.request.limit.toNat).getLast?.map fun last =>
            encodeSearchCursor (cursorOf prepared last)).getD []
        else [],
        decide (prepared.request.limit.toNat < rest.length)⟩ := by
  have hpart : rest.take (prepared.request.limit.toNat + 1) <:+:
      matching table tenantId prepared condition := by
    rw [hrows]
    exact (List.take_prefix _ _).isInfix.trans (List.suffix_append front rest).isInfix
  obtain ⟨compiled, hcompiled⟩ : ∃ compiled,
      compileExpression store.uuidVersion prepared.expression = .ok compiled := by
    obtain ⟨_, _, _, _, _, _, hprepares, -, rfl⟩ := exists_of_prepareSearch hprepared
    exact hprepares.compiles
  have hanswer := hevaluates compiled hcompiled raw cursor
  rw [hselect] at hanswer
  have hcompiled' :
      compileExpression store.uuidVersion (prepared.resumed raw cursor).expression =
        .ok compiled := hcompiled
  have hpage := search_eq_ok hcompiled' hanswer
    (fun row hmem => hwrites row (mem_table_of_mem_matching (hpart.subset hmem)))
    (hreadable.fits _ hpart (List.length_take_le _ _))
    fun row hmem => hreadable.stored row (hpart.subset hmem)
  have hlimit : (prepared.resumed raw cursor).request.limit = prepared.request.limit := rfl
  have hmore : decide (prepared.request.limit.toNat <
      min (prepared.request.limit.toNat + 1) rest.length) =
      decide (prepared.request.limit.toNat < rest.length) :=
    decide_eq_decide.2 (by omega)
  simp only [hlimit, List.take_take, Nat.min_eq_left (Nat.le_succ _), List.length_take, hmore]
    at hpage
  exact hpage

/-- The pages from some row on. -/
theorem follow_from (hlength : ∀ data, (sha256 data).length = 32)
    (hids : (table.map EventRow.normalizedEventId).Nodup) (hwrites : Writes store line table)
    {input : SearchRequest} {prepared : PreparedSearch}
    (hprepared : prepareSearch sha256 store.uuidVersion input = .ok prepared)
    (hevaluates : Evaluates store table tenantId prepared condition line)
    (hreadable : Readable store line prepared.request.limit.toNat
      (matching table tenantId prepared condition)) :
    ∀ (pages : ℕ) (front rest : List EventRow) (raw : GoString) (cursor : Option SearchCursor),
      rest.length < pages →
      matching table tenantId prepared condition = front ++ rest →
      prepareSearch sha256 store.uuidVersion { input with cursor := raw } =
        .ok (prepared.resumed raw cursor) →
      selectRows table tenantId (prepared.resumed raw cursor) condition =
        rest.take (prepared.request.limit.toNat + 1) →
      store.follow sha256 tenantId pages { input with cursor := raw } = .ok (rest.map viewOf)
  | 0, _, _, _, _, hpages, _, _, _ => absurd hpages (Nat.not_lt_zero _)
  | pages + 1, front, rest, raw, cursor, hpages, hrows, hagain, hselect => by
      have hpage := search_resumed hwrites hprepared hevaluates hreadable hrows hselect
      have hpos := limit_pos hprepared
      by_cases hmore : prepared.request.limit.toNat < rest.length
      · -- the page is full: its last row makes the cursor of the next one
        obtain ⟨init, last, hinit, hrest⟩ := exists_take_eq_concat hpos hmore
        have hrows' : matching table tenantId prepared condition =
            (front ++ init) ++ last :: rest.drop prepared.request.limit.toNat := by
          rw [hrows, List.append_assoc, ← hrest]
        have hstored : Stored store last := hreadable.stored last (by
          rw [hrows']
          simp)
        obtain ⟨hne, hnext⟩ := prepareSearch_cursorOf hlength hstored hprepared
        have hmatch : matching table tenantId prepared condition =
            (front ++ init ++ [last]) ++ rest.drop prepared.request.limit.toNat := by
          rw [hrows']
          simp
        have hshorter : (rest.drop prepared.request.limit.toNat).length < pages := by
          rw [List.length_drop]
          omega
        rw [decide_eq_true hmore, if_pos rfl, hinit, List.getLast?_concat, Option.map_some,
          Option.getD_some] at hpage
        have hlater := follow_from hlength hids hwrites hprepared hevaluates hreadable pages
          _ _ _ _ hshorter hmatch hnext (selectRows_after hids hrows' rfl _)
        rw [follow_more hagain hpage hne hlater, ← List.map_append, ← hinit,
          List.take_append_drop]
      · rw [decide_eq_false hmore, List.take_of_length_le (Nat.le_of_not_lt hmore)] at hpage
        rw [Store.follow]
        exact bind_eq_ok.2 ⟨_, hagain, bind_eq_ok.2 ⟨_, hpage, rfl⟩⟩

/-- **Following cursors returns each row that matches once, in order.**  Every cursor on the way is
taken by the request it was made for, and read back as it was written. -/
theorem follow_eq_ok (hlength : ∀ data, (sha256 data).length = 32)
    (hids : (table.map EventRow.normalizedEventId).Nodup) (hwrites : Writes store line table)
    {input : SearchRequest} {prepared : PreparedSearch} (hstart : input.cursor = [])
    (hprepared : prepareSearch sha256 store.uuidVersion input = .ok prepared)
    (hevaluates : Evaluates store table tenantId prepared condition line)
    (hreadable : Readable store line prepared.request.limit.toNat
      (matching table tenantId prepared condition)) :
    (∃ rows : List EventRow,
      rows.Perm (table.filter (Selected tenantId prepared.fromTime prepared.toTime condition)) ∧
      (rows.Pairwise fun a b => rowKey prepared.direction a < rowKey prepared.direction b) ∧
      ∀ pages, table.length < pages →
        store.follow sha256 tenantId pages input = .ok (rows.map viewOf)) ∧
    ∀ row, Stored store row →
      decodeSearchCursor store.uuidVersion (encodeSearchCursor (cursorOf prepared row)) =
          .ok (cursorOf prepared row) ∧
        prepareSearch sha256 store.uuidVersion
            { input with cursor := encodeSearchCursor (cursorOf prepared row) } =
          .ok (prepared.resumed (encodeSearchCursor (cursorOf prepared row))
            (some (cursorOf prepared row))) := by
  have hcursor : prepared.resumed [] none = prepared ∧ prepared.cursor = none := by
    obtain ⟨_, _, limit, direction, _, cursor, -, hcursor, rfl⟩ :=
      exists_of_prepareSearch hprepared
    rw [hstart] at hcursor
    obtain rfl := Except.ok.inj hcursor
    exact ⟨by simp only [PreparedSearch.resumed, completed, hstart], rfl⟩
  have hinput : { input with cursor := [] } = input := by rw [← hstart]
  refine ⟨⟨matching table tenantId prepared condition, Keyset.orderBy_perm _ _,
    pairwise_matching hids, fun pages hpages => ?_⟩, fun row hrow => ?_⟩
  · have hshort : (matching table tenantId prepared condition).length < pages := by
      have hperm := (Keyset.orderBy_perm (rowKey prepared.direction) (table.filter
        (Selected tenantId prepared.fromTime prepared.toTime condition))).length_eq
      exact (hperm.trans_le (List.length_filter_le _ _)).trans_lt hpages
    have hall := follow_from hlength hids hwrites hprepared hevaluates hreadable pages [] _ [] none
      hshort rfl (by rw [hinput, hcursor.1, hprepared])
      (by rw [hcursor.1]; exact selectRows_start hcursor.2)
    rwa [hinput] at hall
  · obtain ⟨hne, hnext⟩ := prepareSearch_cursorOf hlength hrow hprepared
    refine ⟨?_, hnext⟩
    have hfingerprint : prepared.fingerprint ≠ "" := by
      obtain ⟨_, _, _, _, _, _, -, -, rfl⟩ := exists_of_prepareSearch hprepared
      exact searchFingerprint_ne_empty hlength _
    exact decodeSearchCursor_encodeSearchCursor (typed_cursorOf row) hrow.id hfingerprint

end

/-! ## Stores with a fixed table -/

/-- The cursor among the parameters of a statement. -/
def cursorParameter (parameters : Values) : Option SearchCursor := do
  let seconds ← (parameters.lookup "param_cursor_seconds" >>= fromUtf8) >>= Json.wholeNumber
  let nanos ← (parameters.lookup "param_cursor_nanos" >>= fromUtf8) >>= Json.wholeNumber
  let id ← parameters.lookup "param_cursor_id" >>= fromUtf8
  return ⟨seconds, nanos, id, "", ""⟩

/-- A store whose ClickHouse has a table, from which it answers one search. -/
def storeWith (table : List EventRow) (prepared : PreparedSearch)
    (line : EventRow → GoString) : Store where
  database := "cerbero"
  uuidVersion := sampleUuidVersion
  jsonValid text := table.any fun row => row.ocsfEventJson == text
  unmarshalRow text := table.find? fun row => line row == text
  answer _ parameters := .ok (responseBody line (selectRows table sampleTenant
    (prepared.resumed [] (cursorParameter parameters)) fun _ => true))

theorem cursorParameter_searchParameters (tenantId : GoString) (fromTime toTime : ℤ × ℤ) :
    ∀ cursor : Option SearchCursor,
      cursorParameter (searchParameters [] tenantId fromTime toTime
        (cursor.map fun cursor => (cursor.seconds, cursor.nanos, bytes cursor.eventId))) =
        cursor.map fun cursor => ⟨cursor.seconds, cursor.nanos, cursor.eventId, "", ""⟩
  | none => by
      have hparameters : searchParameters [] tenantId fromTime toTime none =
          reserved tenantId fromTime toTime none :=
        (searchParameters_bound [] tenantId fromTime toTime none).1
      rw [Option.map_none, hparameters]
      simp [reserved, cursorParameter, List.lookup_cons]
  | some cursor => by
      have hparameters : ∀ cursor, searchParameters [] tenantId fromTime toTime (some cursor) =
          reserved tenantId fromTime toTime (some cursor) := fun cursor =>
        (searchParameters_bound [] tenantId fromTime toTime (some cursor)).1
      have hwhole : ∀ value : ℤ, Json.wholeNumber value.repr = some value :=
        Json.wholeNumber_toString
      rw [Option.map_some, hparameters]
      simp [reserved, cursorParameter, List.lookup_cons, hwhole]

/-- It evaluates the search as SQL says. -/
theorem evaluates_storeWith {table : List EventRow} {prepared : PreparedSearch}
    {line : EventRow → GoString} (h : prepared.expression = none) :
    Evaluates (storeWith table prepared line) table sampleTenant prepared (fun _ => true) line := by
  intro compiled hcompiled raw cursor
  rw [h] at hcompiled
  obtain rfl := Except.ok.inj hcompiled
  show Except.ok (responseBody line (selectRows table sampleTenant (prepared.resumed []
    (cursorParameter (searchParameters [] sampleTenant prepared.fromTime prepared.toTime
      (cursor.map _)))) _)) = _
  rw [cursorParameter_searchParameters]
  match cursor with
  | none => rfl
  | some cursor =>
    -- the condition of a cursor reads its time and its identifier only
    have hholds : ∀ (direction : Direction) (row : EventRow),
        (keyset direction).holds row ⟨cursor.seconds, cursor.nanos, cursor.eventId, "", ""⟩ =
          (keyset direction).holds row cursor := by
      intro direction row
      cases direction <;> rfl
    refine congrArg (fun rows => Except.ok (responseBody line rows)) ?_
    simp only [selectRows, PreparedSearch.resumed, Option.map_some, Option.all_some, hholds]
    rfl

/-- It reads its rows back. -/
theorem writes_storeWith {table : List EventRow} {prepared : PreparedSearch}
    {line : EventRow → GoString} (hlines : (table.map line).Nodup)
    (hbreak : ∀ row ∈ table, (0x0a : UInt8) ∉ line row ∧ (line row).getLast? ≠ some 0x0d) :
    Writes (storeWith table prepared line) line table := by
  intro row hrow
  have hdrop : dropCarriageReturn (line row) = line row := if_neg (hbreak row hrow).2
  refine ⟨(hbreak row hrow).1, ?_⟩
  show table.find? (fun other => line other == dropCarriageReturn (line row)) = some row
  rw [hdrop]
  have hsome : (table.find? fun other => line other == line row).isSome :=
    List.find?_isSome.2 ⟨row, hrow, by simp⟩
  obtain ⟨other, hother⟩ := Option.isSome_iff_exists.1 hsome
  have heq : line other = line row := by simpa using List.find?_some hother
  rw [hother, List.inj_on_of_nodup_map hlines (List.mem_of_find?_eq_some hother) hrow heq]

theorem selectRows_perm {table : List EventRow} {prepared : PreparedSearch}
    (hcursor : prepared.cursor = none) (hshort : table.length ≤ prepared.request.limit.toNat + 1)
    (hall : ∀ row ∈ table, Selected sampleTenant prepared.fromTime prepared.toTime (fun _ => true)
      row) :
    (selectRows table sampleTenant prepared fun _ => true).Perm table := by
  have hperm : (matching table sampleTenant prepared fun _ => true).Perm table := by
    rw [matching, List.filter_eq_self.2 hall]
    exact Keyset.orderBy_perm _ _
  rw [selectRows_start hcursor, List.take_of_length_le (hperm.length_eq.trans_le hshort)]
  exact hperm

/-! ## Responses that are cut -/

section

variable {store : Store} {line : EventRow → GoString}

theorem length_responseBody {size : ℕ} : ∀ {rows : List EventRow},
    (∀ row ∈ rows, (line row).length = size) →
    (responseBody line rows).length = rows.length * (size + 1)
  | [], _ => by simp [responseBody]
  | row :: rows, h => by
      have htail := length_responseBody fun other hmem => h other (List.mem_cons_of_mem _ hmem)
      have hcons : responseBody line (row :: rows) = line row ++ 0x0a :: responseBody line rows := by
        simp [responseBody]
      rw [hcons, List.length_append, List.length_cons, htail, h row List.mem_cons_self,
        List.length_cons, Nat.add_mul]
      omega

theorem responseBody_append (rows rows' : List EventRow) :
    responseBody line (rows ++ rows') = responseBody line rows ++ responseBody line rows' :=
  List.flatMap_append

theorem scanLines_responseBody_append {text : GoString} :
    ∀ {rows : List EventRow}, (∀ row ∈ rows, (0x0a : UInt8) ∉ line row) →
      scanLines (responseBody line rows ++ text) = rows.map line ++ scanLines text
  | [], _ => rfl
  | row :: rows, h => by
      have hcons : responseBody line (row :: rows) ++ text =
          line row ++ 0x0a :: (responseBody line rows ++ text) := by
        simp [responseBody]
      rw [hcons, scanLines_append (h row List.mem_cons_self),
        scanLines_responseBody_append fun other hmem => h other (List.mem_cons_of_mem _ hmem)]
      rfl

/-- **If the limit of a response falls into a line, the search fails.** -/
theorem queryRows_cut {rows : List EventRow} {size : ℕ} (count : ℕ) {statement : String}
    {parameters : Values} (hanswer : store.answer statement parameters = .ok (responseBody line rows))
    (hbreak : ∀ row ∈ rows, (0x0a : UInt8) ∉ line row)
    (hsize : ∀ row ∈ rows, (line row).length = size) (hcount : count < rows.length)
    (hstart : count * (size + 1) < maxResponse) (hend : maxResponse < count * (size + 1) + size)
    (hpart : ∀ row ∈ rows, ∀ n < size,
      store.unmarshalRow (dropCarriageReturn ((line row).take n)) = none)
    (result : List EventRow) :
    queryRows store.unmarshalRow store.answer statement parameters ≠ .ok result := by
  intro hresult
  obtain ⟨body, hbody, hresult⟩ := bind_eq_ok.1 hresult
  obtain rfl := Except.ok.inj (hanswer.symm.trans hbody)
  obtain ⟨front, row, rest, rfl, hfront⟩ : ∃ front row rest, rows = front ++ row :: rest ∧
      front.length = count :=
    ⟨rows.take count, rows[count], rows.drop (count + 1), by simp, by simp; omega⟩
  have hmem : row ∈ front ++ row :: rest := by simp
  have hlength : (responseBody line front).length = count * (size + 1) := by
    rw [length_responseBody fun other hother => hsize other (List.mem_append_left _ hother), hfront]
  have htake : (responseBody line (front ++ row :: rest)).take maxResponse =
      responseBody line front ++ (line row).take (maxResponse - count * (size + 1)) := by
    have hcons : responseBody line (row :: rest) = line row ++ 0x0a :: responseBody line rest := by
      simp [responseBody]
    rw [responseBody_append, List.take_append, hlength, List.take_of_length_le (by omega), hcons,
      List.take_append_of_le_length (by rw [hsize row hmem]; omega)]
  have hne : (line row).take (maxResponse - count * (size + 1)) ≠ [] := by
    refine List.ne_nil_of_length_pos ?_
    rw [List.length_take, hsize row hmem]
    omega
  rw [htake, scanLines_responseBody_append fun other hother =>
    hbreak other (List.mem_append_left _ hother), scanLines_eq_singleton hne fun hcut =>
    hbreak row hmem (List.mem_of_mem_take hcut)] at hresult
  obtain ⟨read, hread⟩ := exists_row_of_readRows hresult _ (List.mem_append_right _
    (List.mem_singleton_self _))
  exact nomatch (hpart row hmem _ (by omega)).symm.trans hread

/-- If its first page fails, following a search fails. -/
theorem follow_ne_ok {sha256 : GoString → GoString} {tenantId : GoString} {input : SearchRequest}
    {prepared : PreparedSearch}
    (hprepared : prepareSearch sha256 store.uuidVersion input = .ok prepared)
    (hsearch : ∀ page, store.search tenantId prepared ≠ .ok page) (items : List EventView) :
    ∀ pages, store.follow sha256 tenantId pages input ≠ .ok items
  | 0, h => nomatch h
  | _ + 1, h => by
      obtain ⟨other, hother, h⟩ := bind_eq_ok.1 h
      obtain rfl := Except.ok.inj (hprepared.symm.trans hother)
      obtain ⟨page, hpage, -⟩ := bind_eq_ok.1 h
      exact hsearch page hpage

end

/-! ## Three tables -/

/-- A search for the newest events of a quarter of an hour. -/
def sampleRequest (limit : ℤ) : SearchRequest where
  query := []
  fromText := bytes "2023-11-14T21:58:20Z"
  toText := bytes "2023-11-14T22:13:20Z"
  cursor := []
  limit := limit
  sort := []

/-- What it is prepared to. -/
def samplePrepared (limit : ℤ) : PreparedSearch where
  request := completed (sampleRequest limit) limit .desc
  expression := none
  fromTime := (1699999100, 0)
  toTime := (1700000000, 0)
  direction := .desc
  fingerprint := searchFingerprint sampleSha256 (completed (sampleRequest limit) limit .desc)
  cursor := none

theorem prepareSearch_sampleRequest {limit : ℤ} (hlimit : prepareLimit limit = .ok limit) :
    prepareSearch sampleSha256 sampleUuidVersion (sampleRequest limit) =
      .ok (samplePrepared limit) := by
  have hprepares : Prepares sampleUuidVersion (sampleRequest limit) (1699999100, 0)
      (1700000000, 0) limit .desc none := by
    have hrange : prepareRange (sampleRequest 1) = .ok ((1699999100, 0), (1700000000, 0)) := by
      decide
    have hsort : prepareSort (sampleRequest 1).sort = .ok .desc := by decide
    have hquery : parseQuery (trimSpace (sampleRequest 1).query) = .ok none := by decide
    exact ⟨hrange, hlimit, hsort, hquery, (none, []), rfl⟩
  exact hprepares.prepareSearch rfl

/-- The line of a small event. -/
def smallLine (row : EventRow) : GoString :=
  sampleLine row.normalizedEventId (toString row.eventTimeSeconds.toInt)

/-- Two small events. -/
def smallTable : List EventRow :=
  [sampleRow "0198c0de-0000-7000-8000-000000000002" 1699999999,
    sampleRow "0198c0de-0000-7000-8000-000000000001" 1699999998]

theorem readable_smallTable : Readable (storeWith smallTable (samplePrepared 1) smallLine) smallLine
    (samplePrepared 1).request.limit.toNat
    (matching smallTable sampleTenant (samplePrepared 1) fun _ => true) := by
  have hlines : ∀ row ∈ smallTable, (smallLine row).length = 588 := by decide +kernel
  refine ⟨fun row hrow => ?_, fun page hpage hlength => ?_⟩
  · have hstored : ∀ row ∈ smallTable,
        sampleUuidVersion (bytes row.normalizedEventId) = some 7 ∧
          (smallTable.any fun other => other.ocsfEventJson == row.ocsfEventJson) = true := by
      decide
    obtain ⟨hid, hjson⟩ := hstored row (mem_table_of_mem_matching hrow)
    exact ⟨hid, hjson⟩
  · have hpageLines : ∀ row ∈ page, (smallLine row).length = 588 := fun row hrow =>
      hlines row (mem_table_of_mem_matching (hpage.subset hrow))
    refine ⟨fun row hrow => ?_, ?_⟩
    · rw [hpageLines row hrow]
      decide
    · have hlimit : (samplePrepared 1).request.limit.toNat = 1 := rfl
      rw [length_responseBody hpageLines, maxResponse]
      omega

/-- Pages of one small event. -/
theorem follow_eq_ok_smallTable : ∃ rows : List EventRow,
    rows.Perm (smallTable.filter (Selected sampleTenant (1699999100, 0) (1700000000, 0)
      fun _ => true)) ∧
    (storeWith smallTable (samplePrepared 1) smallLine).follow sampleSha256 sampleTenant 3
      (sampleRequest 1) = .ok (rows.map viewOf) := by
  have hwrites : Writes (storeWith smallTable (samplePrepared 1) smallLine) smallLine smallTable :=
    writes_storeWith (by decide +kernel) (by decide +kernel)
  obtain ⟨⟨rows, hperm, -, hfollow⟩, -⟩ := follow_eq_ok length_sampleSha256
    (show (smallTable.map EventRow.normalizedEventId).Nodup by decide) hwrites rfl
    (prepareSearch_sampleRequest (by decide)) (evaluates_storeWith rfl) readable_smallTable
  exact ⟨rows, hperm, hfollow 3 (by decide)⟩

/-- The text of a large event. -/
def largeJson : String :=
  "\x7b\"message\":\"" ++ String.ofList (List.replicate (2 ^ 16) 'a') ++ "\"\x7d"

/-- An event of 64 KiB. -/
def largeRow (n : ℕ) : EventRow :=
  { sampleRow ("0198c0de-0000-7000-8000-" ++ String.ofList (zeroPadded 12 n)) 1699999999 with
    ocsfEventJson := largeJson }

/-- The line of a large event, as far as it matters here. -/
def largeLine (row : EventRow) : GoString :=
  bytes "\x7b\"normalized_event_id\":\"" ++ bytes row.normalizedEventId ++
    bytes "\",\"ocsf_event_json\":\"\x7b\\\"message\\\":\\\"" ++ List.replicate (2 ^ 16) 0x61 ++
    bytes "\\\"\x7d\"\x7d"

/-- So many large events as a page and the row after it have. -/
def largeTable : List EventRow := (List.range 201).map largeRow

theorem normalizedEventId_largeRow : ∀ n < 201,
    sampleUuidVersion (bytes (largeRow n).normalizedEventId) = some 7 ∧
      (bytes (largeRow n).normalizedEventId).length = 36 ∧
      (0x0a : UInt8) ∉ bytes (largeRow n).normalizedEventId := by
  decide +kernel

theorem largeRow_injective {n m : ℕ}
    (h : (largeRow n).normalizedEventId = (largeRow m).normalizedEventId) : n = m :=
  zeroPadded_injective 12 (String.ofList_injective ((String.append_right_inj _).1 h))

theorem largeLine_injective {row row' : EventRow} (h : largeLine row = largeLine row') :
    row.normalizedEventId = row'.normalizedEventId := by
  simp only [largeLine, List.append_assoc, List.append_cancel_left_eq] at h
  simp only [← List.append_assoc, List.append_cancel_right_eq] at h
  exact bytes_injective h

theorem mem_largeTable {row : EventRow} (h : row ∈ largeTable) :
    ∃ n < 201, row = largeRow n := by
  obtain ⟨n, hn, rfl⟩ := List.mem_map.1 h
  exact ⟨n, List.mem_range.1 hn, rfl⟩

theorem length_largeLine {row : EventRow} (h : row ∈ largeTable) :
    (largeLine row).length = 65637 := by
  obtain ⟨n, hn, rfl⟩ := mem_largeTable h
  obtain ⟨-, hlength, -⟩ := normalizedEventId_largeRow n hn
  simp only [largeLine, List.length_append, hlength, List.length_replicate]
  decide

theorem break_not_mem_largeLine {row : EventRow} (h : row ∈ largeTable) :
    (0x0a : UInt8) ∉ largeLine row ∧ (largeLine row).getLast? ≠ some 0x0d := by
  obtain ⟨n, hn, rfl⟩ := mem_largeTable h
  obtain ⟨-, -, hbreak⟩ := normalizedEventId_largeRow n hn
  refine ⟨?_, ?_⟩
  · simp only [largeLine, List.mem_append, hbreak, List.mem_replicate]
    decide
  · rw [largeLine, List.getLast?_append_of_ne_nil _ (by decide)]
    decide

theorem nodup_largeTable : (largeTable.map EventRow.normalizedEventId).Nodup := by
  rw [largeTable, List.map_map]
  exact List.nodup_range.map fun _ _ h => largeRow_injective h

theorem writes_largeTable (prepared : PreparedSearch) :
    Writes (storeWith largeTable prepared largeLine) largeLine largeTable := by
  refine writes_storeWith ?_ fun row hrow => break_not_mem_largeLine hrow
  rw [largeTable, List.map_map]
  exact List.nodup_range.map fun _ _ h => largeRow_injective (largeLine_injective h)

theorem stored_largeTable (prepared : PreparedSearch) : ∀ row ∈ largeTable,
    Stored (storeWith largeTable prepared largeLine) row := by
  intro row hrow
  refine ⟨?_, List.any_eq_true.2 ⟨row, hrow, beq_self_eq_true _⟩⟩
  obtain ⟨n, hn, rfl⟩ := mem_largeTable hrow
  exact (normalizedEventId_largeRow n hn).1

/-- A part of a line is not a row. -/
theorem unmarshalRow_take_largeLine (prepared : PreparedSearch) {row : EventRow} {n : ℕ}
    (hn : n < 65637) :
    (storeWith largeTable prepared largeLine).unmarshalRow
      (dropCarriageReturn ((largeLine row).take n)) = none := by
  refine List.find?_eq_none.2 fun other hother heq => ?_
  have hlength := congrArg List.length (eq_of_beq heq)
  have hshort : (dropCarriageReturn ((largeLine row).take n)).length ≤ n := by
    refine le_trans ?_ (List.length_take_le n (largeLine row))
    unfold dropCarriageReturn
    split_ifs <;> simp
  rw [length_largeLine hother] at hlength
  omega

theorem selected_largeTable (limit : ℤ) : ∀ row ∈ largeTable,
    Selected sampleTenant (samplePrepared limit).fromTime (samplePrepared limit).toTime
      (fun _ => true) row := by
  intro row hrow
  obtain ⟨n, -, rfl⟩ := mem_largeTable hrow
  have hsample : Selected sampleTenant (1699999100, 0) (1700000000, 0) (fun _ => true)
      (sampleRow "" 1699999999) = true := by decide
  exact hsample

/-- A page of large events is not read. -/
theorem search_largeTable (page : SearchPage) :
    (storeWith largeTable (samplePrepared 200) largeLine).search sampleTenant (samplePrepared 200) ≠
      .ok page := by
  intro hpage
  rw [Store.search, bind_eq_ok] at hpage
  obtain ⟨compiled, hcompiled, hpage⟩ := hpage
  obtain ⟨result, hresult, -⟩ := bind_eq_ok.1 hpage
  have hperm : (selectRows largeTable sampleTenant (samplePrepared 200) fun _ => true).Perm
      largeTable :=
    selectRows_perm rfl (by simp [largeTable, samplePrepared, completed]) (selected_largeTable 200)
  have hlength : (selectRows largeTable sampleTenant (samplePrepared 200) fun _ => true).length =
      201 := hperm.length_eq.trans (by simp [largeTable])
  refine queryRows_cut 127 (evaluates_storeWith rfl compiled hcompiled [] none)
    (fun row hrow => (break_not_mem_largeLine (hperm.subset hrow)).1)
    (fun row hrow => length_largeLine (hperm.subset hrow)) (hlength.symm ▸ (by decide : 127 < 201)) (by decide)
    (by decide) (fun row _ n hn => unmarshalRow_take_largeLine _ hn) result hresult

/-- A small event with a random identifier. -/
def randomTable : List EventRow := [sampleRow "0198c0de-0000-4000-8000-000000000001" 1699999999]

theorem search_randomTable (page : SearchPage) :
    (storeWith randomTable (samplePrepared 1) smallLine).search sampleTenant (samplePrepared 1) ≠
      .ok page := by
  have hnot : ((storeWith randomTable (samplePrepared 1) smallLine).search sampleTenant
      (samplePrepared 1)).toOption.isNone = true := by decide +kernel
  intro hpage
  rw [hpage] at hnot
  exact nomatch hnot

/-- **Rows that the API does not read end a search**: two hundred events of 64 KiB, which are more
than a response may have, and an event whose identifier is not a UUIDv7. -/
theorem not_follow_eq_ok :
    ((largeTable.map EventRow.normalizedEventId).Nodup ∧
      prepareSearch sampleSha256 sampleUuidVersion (sampleRequest 200) = .ok (samplePrepared 200) ∧
      Writes (storeWith largeTable (samplePrepared 200) largeLine) largeLine largeTable ∧
      (∀ row ∈ largeTable, Stored (storeWith largeTable (samplePrepared 200) largeLine) row) ∧
      Evaluates (storeWith largeTable (samplePrepared 200) largeLine) largeTable sampleTenant
        (samplePrepared 200) (fun _ => true) largeLine ∧
      ∀ pages items, (storeWith largeTable (samplePrepared 200) largeLine).follow sampleSha256
        sampleTenant pages (sampleRequest 200) ≠ .ok items) ∧
    Writes (storeWith randomTable (samplePrepared 1) smallLine) smallLine randomTable ∧
    prepareSearch sampleSha256 sampleUuidVersion (sampleRequest 1) = .ok (samplePrepared 1) ∧
    Evaluates (storeWith randomTable (samplePrepared 1) smallLine) randomTable sampleTenant
      (samplePrepared 1) (fun _ => true) smallLine ∧
    ∀ pages items, (storeWith randomTable (samplePrepared 1) smallLine).follow sampleSha256
      sampleTenant pages (sampleRequest 1) ≠ .ok items := by
  have hlarge := prepareSearch_sampleRequest (show prepareLimit 200 = .ok 200 by decide)
  have hsmall := prepareSearch_sampleRequest (show prepareLimit 1 = .ok 1 by decide)
  exact ⟨⟨nodup_largeTable, hlarge, writes_largeTable _, stored_largeTable _,
      evaluates_storeWith rfl, fun pages items => follow_ne_ok hlarge search_largeTable items pages⟩,
    writes_storeWith (by decide +kernel) (by decide +kernel), hsmall, evaluates_storeWith rfl,
    fun pages items => follow_ne_ok hsmall search_randomTable items pages⟩

end Search

end Cerbero
