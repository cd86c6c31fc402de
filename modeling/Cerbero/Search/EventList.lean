import Cerbero.Lib.Fallible
import Cerbero.Search.Store

/-!
# Search/EventList — the next page of a list of events

A cursor is bound to the time range of its request.  It is taken when the same parameters are sent
again with it exactly if the range is the same: if it was given, or if the clock has not moved
(**`nextCursor_accepted_iff`**).
-/

namespace Cerbero

namespace Search

open Text

/-! ## Prepared searches -/

section

variable {sha256 : GoString → GoString} {uuidVersion : GoString → Option ℕ}

/-- A request as `prepareSearch` completes it. -/
def completed (input : SearchRequest) (limit : ℤ) (direction : Direction) : SearchRequest :=
  { input with limit := limit, sort := [⟨bytes "event_time", bytes direction.text⟩] }

/-- The checks of a request before its cursor is read. -/
structure Prepares (uuidVersion : GoString → Option ℕ) (input : SearchRequest)
    (fromTime toTime : ℤ × ℤ) (limit : ℤ) (direction : Direction)
    (expression : Option QueryExpression) : Prop where
  range : prepareRange input = .ok (fromTime, toTime)
  limit : prepareLimit input.limit = .ok limit
  sort : prepareSort input.sort = .ok direction
  query : parseQuery (trimSpace input.query) = .ok expression
  compiles : ∃ compiled, compileExpression uuidVersion expression = .ok compiled

theorem exists_of_prepareSearch {input : SearchRequest} {prepared : PreparedSearch}
    (h : prepareSearch sha256 uuidVersion input = .ok prepared) :
    ∃ fromTime toTime limit direction expression cursor,
      Prepares uuidVersion input fromTime toTime limit direction expression ∧
      prepareCursor uuidVersion input.cursor
        (searchFingerprint sha256 (completed input limit direction)) direction = .ok cursor ∧
      prepared = ⟨completed input limit direction, expression, fromTime, toTime, direction,
        searchFingerprint sha256 (completed input limit direction), cursor⟩ := by
  rw [prepareSearch, bind_eq_ok] at h
  obtain ⟨⟨fromTime, toTime⟩, hrange, h⟩ := h
  obtain ⟨limit, hlimit, h⟩ := bind_eq_ok.1 h
  obtain ⟨direction, hsort, h⟩ := bind_eq_ok.1 h
  obtain ⟨expression, hquery, h⟩ := bind_eq_ok.1 h
  obtain ⟨compiled, hcompiled, h⟩ := bind_eq_ok.1 h
  obtain ⟨cursor, hcursor, h⟩ := bind_eq_ok.1 h
  exact ⟨fromTime, toTime, limit, direction, expression, cursor,
    ⟨hrange, hlimit, hsort, hquery, compiled, hcompiled⟩, hcursor, (Except.ok.inj h).symm⟩

theorem Prepares.prepareSearch {input : SearchRequest} {fromTime toTime : ℤ × ℤ} {limit : ℤ}
    {direction : Direction} {expression : Option QueryExpression} {cursor : Option SearchCursor}
    (h : Prepares uuidVersion input fromTime toTime limit direction expression)
    (hcursor : prepareCursor uuidVersion input.cursor
      (searchFingerprint sha256 (completed input limit direction)) direction = .ok cursor) :
    prepareSearch sha256 uuidVersion input =
      .ok ⟨completed input limit direction, expression, fromTime, toTime, direction,
        searchFingerprint sha256 (completed input limit direction), cursor⟩ := by
  obtain ⟨compiled, hcompiled⟩ := h.compiles
  rw [Search.prepareSearch]
  exact bind_eq_ok.2 ⟨_, h.range, bind_eq_ok.2 ⟨_, h.limit, bind_eq_ok.2 ⟨_, h.sort,
    bind_eq_ok.2 ⟨_, h.query, bind_eq_ok.2 ⟨_, hcompiled, bind_eq_ok.2 ⟨_, hcursor, rfl⟩⟩⟩⟩⟩⟩

/-- The checks do not look at the cursor. -/
theorem Prepares.withCursor {input : SearchRequest} {fromTime toTime : ℤ × ℤ} {limit : ℤ}
    {direction : Direction} {expression : Option QueryExpression} (raw : GoString)
    (h : Prepares uuidVersion input fromTime toTime limit direction expression) :
    Prepares uuidVersion { input with cursor := raw } fromTime toTime limit direction
      expression :=
  ⟨h.range, h.limit, h.sort, h.query, h.compiles⟩

/-- A cursor is taken if it is read, and has the fingerprint and the direction. -/
theorem prepareCursor_eq_ok {raw : GoString} {fingerprint : String} {direction : Direction}
    {cursor : SearchCursor} (hne : raw ≠ [])
    (hdecode : decodeSearchCursor uuidVersion raw = .ok cursor) :
    (∃ result, prepareCursor uuidVersion raw fingerprint direction = .ok result) ↔
      cursor.fingerprint = fingerprint ∧ cursor.direction = direction.text := by
  rw [prepareCursor, if_neg hne, hdecode]
  simp only
  split_ifs with hother
  · refine ⟨fun ⟨_, h⟩ => (nomatch h), fun h => ?_⟩
    exact absurd hother (by simp [h.1, h.2])
  · push Not at hother
    exact ⟨fun _ => hother, fun _ => ⟨_, rfl⟩⟩

end

/-! ## Next cursors -/

section

variable {store : Store} {tenantId : GoString} {prepared : PreparedSearch} {page : SearchPage}

theorem uuidVersion_of_eventViews {uuidVersion : GoString → Option ℕ} {jsonValid : String → Bool} :
    ∀ {rows : List EventRow} {items : List EventView},
      eventViews uuidVersion jsonValid rows = .ok items →
      ∀ row ∈ rows, uuidVersion (bytes row.normalizedEventId) = some 7
  | [], _, _, row, hrow => (nomatch hrow)
  | first :: rows, items, h, row, hrow => by
      rw [eventViews, bind_eq_ok] at h
      obtain ⟨item, hitem, h⟩ := h
      obtain ⟨rest, hrest, -⟩ := bind_eq_ok.1 h
      obtain rfl | hrow := List.mem_cons.1 hrow
      · by_contra hid
        rw [eventViewFromRow, if_pos hid] at hitem
        exact nomatch hitem
      · exact uuidVersion_of_eventViews hrest row hrow

/-- **A next cursor is that of a row of the page, whose identifier is a UUIDv7.** -/
theorem exists_row_of_nextCursor (h : store.search tenantId prepared = .ok page)
    (hnext : page.nextCursor ≠ []) :
    ∃ row, page.nextCursor = encodeSearchCursor (cursorOf prepared row) ∧
      store.uuidVersion (bytes row.normalizedEventId) = some 7 := by
  rw [Store.search, bind_eq_ok] at h
  obtain ⟨⟨condition, values⟩, -, h⟩ := h
  obtain ⟨rows, -, h⟩ := bind_eq_ok.1 h
  obtain ⟨items, hitems, h⟩ := bind_eq_ok.1 h
  rw [← Except.ok.inj h] at hnext ⊢
  dsimp only at hnext ⊢
  split_ifs at hnext ⊢
  · obtain hlast | ⟨row, hlast⟩ :=
      Option.eq_none_or_eq_some (rows.take prepared.request.limit.toNat).getLast?
    · rw [hlast, Option.map_none, Option.getD_none] at hnext
      exact absurd rfl hnext
    · rw [hlast, Option.map_some, Option.getD_some]
      exact ⟨row, rfl, uuidVersion_of_eventViews hitems row (List.mem_of_getLast? hlast)⟩
  · exact absurd rfl hnext

theorem typed_cursorOf (row : EventRow) : (cursorOf prepared row).Typed :=
  ⟨Int64.le_toInt _, Int.le_sub_one_of_lt (Int64.toInt_lt _), Int32.le_toInt _,
    Int.le_sub_one_of_lt (Int32.toInt_lt _)⟩

theorem hexEncode_ne_empty {value : GoString} (h : value ≠ []) : hexEncode value ≠ "" := by
  match value, h with
  | b :: rest, _ =>
    intro hempty
    have := congrArg String.toList hempty
    simp [hexEncode] at this

theorem searchFingerprint_ne_empty {sha256 : GoString → GoString}
    (hlength : ∀ data, (sha256 data).length = 32) (input : SearchRequest) :
    searchFingerprint sha256 input ≠ "" := by
  refine hexEncode_ne_empty fun hnil => ?_
  have := hlength (canonicalRequest input)
  rw [hnil] at this
  exact nomatch this

/-- **A next cursor is read back as the cursor of its row.** -/
theorem exists_decode_nextCursor {sha256 : GoString → GoString} {input : SearchRequest}
    (hsha : ∀ data, (sha256 data).length = 32)
    (hprepared : prepareSearch sha256 store.uuidVersion input = .ok prepared)
    (h : store.search tenantId prepared = .ok page) (hnext : page.nextCursor ≠ []) :
    ∃ cursor, decodeSearchCursor store.uuidVersion page.nextCursor = .ok cursor ∧
      cursor.fingerprint = prepared.fingerprint ∧ cursor.direction = prepared.direction.text := by
  obtain ⟨row, hrow, hid⟩ := exists_row_of_nextCursor h hnext
  have hfingerprint : prepared.fingerprint ≠ "" := by
    obtain ⟨_, _, _, _, _, _, -, -, rfl⟩ := exists_of_prepareSearch hprepared
    exact searchFingerprint_ne_empty hsha _
  refine ⟨cursorOf prepared row, ?_, rfl, rfl⟩
  rw [hrow]
  exact decodeSearchCursor_encodeSearchCursor (typed_cursorOf row) hid hfingerprint

end

/-! ## The range in the fingerprint -/

/-- A character JSON writes as itself. -/
def Unescaped (ch : Char) : Prop :=
  ch.toNat < 128 ∧ Json.escapeAlso Json.htmlSpecial ch = [ch] ∧ ch ≠ '"'

instance (ch : Char) : Decidable (Unescaped ch) := inferInstanceAs (Decidable (_ ∧ _ ∧ _))

theorem unescaped_of_isDigit {ch : Char} (h : ch.isDigit) : Unescaped ch := by
  have hbounds : 48 ≤ ch.toNat ∧ ch.toNat ≤ 57 := by
    simpa [Char.isDigit, UInt32.le_iff_toNat_le] using h
  have hcases : ch.toNat = 48 ∨ ch.toNat = 49 ∨ ch.toNat = 50 ∨ ch.toNat = 51 ∨ ch.toNat = 52 ∨
    ch.toNat = 53 ∨ ch.toNat = 54 ∨ ch.toNat = 55 ∨ ch.toNat = 56 ∨ ch.toNat = 57 := by omega
  rw [← Char.ofNat_toNat ch]
  obtain h | h | h | h | h | h | h | h | h | h := hcases <;> rw [h] <;> decide

theorem unescaped_zeroPadded {width n : ℕ} : ∀ ch ∈ zeroPadded width n, Unescaped ch :=
  fun _ hmem => unescaped_of_isDigit (isDigit_of_mem_zeroPadded hmem)

theorem unescaped_append {text text' : List Char} (h : ∀ ch ∈ text, Unescaped ch)
    (h' : ∀ ch ∈ text', Unescaped ch) : ∀ ch ∈ text ++ text', Unescaped ch :=
  fun ch hmem => (List.mem_append.1 hmem).elim (h ch) (h' ch)

theorem unescaped_cons {first : Char} {text : List Char} (hfirst : Unescaped first)
    (h : ∀ ch ∈ text, Unescaped ch) : ∀ ch ∈ first :: text, Unescaped ch :=
  List.forall_mem_cons.2 ⟨hfirst, h⟩

theorem unescaped_formatNanos (nanos : ℕ) : ∀ ch ∈ formatNanos nanos, Unescaped ch := by
  unfold formatNanos
  split_ifs
  · exact fun _ hmem => nomatch hmem
  · exact unescaped_cons (by decide) fun ch hmem =>
      unescaped_zeroPadded ch ((List.rdropWhile_prefix _ _).subset hmem)

theorem unescaped_formatDate (date : ℤ × ℤ × ℤ) : ∀ ch ∈ formatDate date, Unescaped ch := by
  refine unescaped_append ?_ (unescaped_cons (by decide) (unescaped_append unescaped_zeroPadded
    (unescaped_cons (by decide) unescaped_zeroPadded)))
  unfold formatYear
  split_ifs
  · exact unescaped_cons (by decide) unescaped_zeroPadded
  · exact unescaped_zeroPadded

theorem unescaped_formatClock (seconds : ℕ) : ∀ ch ∈ formatClock seconds, Unescaped ch :=
  unescaped_append unescaped_zeroPadded (unescaped_cons (by decide)
    (unescaped_append unescaped_zeroPadded (unescaped_cons (by decide) unescaped_zeroPadded)))

/-- Characters JSON writes as themselves are written as they are. -/
theorem marshalBytes_unescaped : ∀ {text : List Char}, (∀ ch ∈ text, Unescaped ch) →
    marshalBytes 0 (bytes (String.ofList text)) = bytes (String.ofList text) ∧
      (0x22 : UInt8) ∉ bytes (String.ofList text)
  | [], _ => ⟨rfl, by decide⟩
  | ch :: text, h => by
      obtain ⟨hascii, hescape, hquote⟩ := h ch List.mem_cons_self
      obtain ⟨ihtext, ihquote⟩ :=
        marshalBytes_unescaped fun c hmem => h c (List.mem_cons_of_mem _ hmem)
      have hchar : Char.ofNat ch.toUInt8.toNat = ch := ofNat_toUInt8 hascii
      have hbytes : bytes (String.ofList (ch :: text)) =
          ch.toUInt8 :: bytes (String.ofList text) := by
        rw [bytes_eq_flatMap, bytes_eq_flatMap, String.toList_ofList, String.toList_ofList,
          List.flatMap_cons, utf8EncodeChar_of_lt hascii, List.singleton_append]
      have hone : bytes (String.ofList [ch]) = [ch.toUInt8] := by
        rw [bytes_eq_flatMap, String.toList_ofList, List.flatMap_singleton,
          utf8EncodeChar_of_lt hascii]
      have hsmall : ch.toUInt8 < 0x80 := by
        rw [UInt8.lt_iff_toNat_lt, toNat_toUInt8 hascii]
        exact hascii
      rw [hbytes]
      constructor
      · rw [marshalBytes, if_pos hsmall, hchar, hescape, hone, ihtext, List.singleton_append]
      · refine List.not_mem_cons_of_ne_of_not_mem (fun heq => hquote ?_) ihquote
        rw [← hchar, ← heq]
        rfl

/-- The characters of an instant. -/
theorem exists_formatRfc3339Nano (now : Instant) : ∃ text : List Char,
    formatRfc3339Nano now = bytes (String.ofList text) ∧ ∀ ch ∈ text, Unescaped ch :=
  ⟨_, rfl, unescaped_append (unescaped_formatDate _) (unescaped_cons (by decide)
    (unescaped_append (unescaped_formatClock _) (unescaped_append (unescaped_formatNanos _)
      (unescaped_cons (by decide) fun _ hmem => nomatch hmem))))⟩

theorem marshalString_injective {now now' : Instant} {rest rest' : GoString}
    (h : marshalString (formatRfc3339Nano now) ++ rest =
      marshalString (formatRfc3339Nano now') ++ rest') : now = now' ∧ rest = rest' := by
  obtain ⟨text, htext, hplain⟩ := exists_formatRfc3339Nano now
  obtain ⟨text', htext', hplain'⟩ := exists_formatRfc3339Nano now'
  obtain ⟨hsame, hquote⟩ := marshalBytes_unescaped hplain
  obtain ⟨hsame', hquote'⟩ := marshalBytes_unescaped hplain'
  rw [← htext] at hsame hquote
  rw [← htext'] at hsame' hquote'
  simp only [marshalString, hsame, hsame', List.cons_append, List.append_assoc,
    List.nil_append] at h
  obtain ⟨hnow, hrest⟩ := Separated.append_cons_inj hquote hquote' (List.cons.inj h).2
  exact ⟨formatRfc3339Nano_injective hnow, hrest⟩

/-- **Requests for the last minutes have the same canonical text only at the same instant.** -/
theorem canonicalRequest_injective {query cursor cursor' : GoString} {limit limit' : ℤ}
    {sort : List SearchSort} {now now' : Instant}
    (h : canonicalRequest ⟨query, formatRfc3339Nano (now.addSeconds (-900)),
        formatRfc3339Nano now, cursor, limit, sort⟩ =
      canonicalRequest ⟨query, formatRfc3339Nano (now'.addSeconds (-900)),
        formatRfc3339Nano now', cursor', limit', sort⟩) : now = now' := by
  simp only [canonicalRequest, List.append_assoc, List.append_cancel_left_eq] at h
  obtain ⟨-, h⟩ := marshalString_injective h
  simp only [List.append_cancel_left_eq] at h
  exact (marshalString_injective h).1

theorem lowerHexDigit_injective : ∀ n < 16, ∀ m < 16,
    Json.lowerHexDigit n = Json.lowerHexDigit m → n = m := by decide

theorem hexEncode_injective : Function.Injective hexEncode := by
  have hlist : ∀ {value value' : GoString},
      value.flatMap (fun b => [Json.lowerHexDigit (b.toNat / 16), Json.lowerHexDigit (b.toNat % 16)])
        = value'.flatMap (fun b => [Json.lowerHexDigit (b.toNat / 16),
          Json.lowerHexDigit (b.toNat % 16)]) → value = value' := by
    intro value
    induction value with
    | nil =>
      intro value' h
      match value' with
      | [] => rfl
    | cons b value ih =>
      intro value' h
      match value', h with
      | b' :: value', h =>
        simp only [List.flatMap_cons, List.cons_append, List.nil_append, List.cons.injEq] at h
        have hb := b.toNat_lt
        have hb' := b'.toNat_lt
        have hhigh := lowerHexDigit_injective _ (by omega) _ (by omega) h.1
        have hlow := lowerHexDigit_injective _ (by omega) _ (by omega) h.2.1
        rw [ih h.2.2, UInt8.toNat_inj.1 (show b.toNat = b'.toNat by omega)]
  intro value value' h
  exact hlist (String.ofList_injective h)

/-! ## Sending a request again -/

section

variable (sha256 : GoString → GoString) (store : Store) (tenantId : GoString)

/-- The same parameters with a cursor are taken, at an instant. -/
def Accepts (uuidVersion : GoString → Option ℕ) (now : Instant) (values : EventsQuery)
    (cursor : GoString) : Prop :=
  ∃ input prepared, searchRequestFromQuery now { values with cursor := cursor } = .ok input ∧
    prepareSearch sha256 uuidVersion input = .ok prepared

/-- The canonical text of the parameters at an instant; of parameters that are refused, none. -/
def canonicalQuery (now : Instant) (values : EventsQuery) : GoString :=
  match searchRequestFromQuery now values with
  | .ok input =>
    match prepareLimit input.limit, prepareSort input.sort with
    | .ok limit, .ok direction => canonicalRequest (completed input limit direction)
    | _, _ => []
  | .error _ => []

variable {sha256 store tenantId}

/-- The request of parameters by its time range. -/
theorem exists_of_searchRequestFromQuery {now : Instant} {values : EventsQuery}
    {input : SearchRequest} (h : searchRequestFromQuery now values = .ok input) :
    ∃ fromText toText limit, rangeFromQuery now values = .ok (fromText, toText) ∧
      input = ⟨values.query, fromText, toText, values.cursor, limit,
        [⟨bytes "event_time", if values.sort = [] then bytes "desc" else values.sort⟩]⟩ ∧
      ∀ (now' : Instant) (cursor fromText' toText' : GoString),
        rangeFromQuery now' values = .ok (fromText', toText') →
        searchRequestFromQuery now' { values with cursor := cursor } =
          .ok { input with fromText := fromText', toText := toText', cursor := cursor } := by
  rw [searchRequestFromQuery, bind_eq_ok] at h
  obtain ⟨⟨fromText, toText⟩, hrange, h⟩ := h
  obtain ⟨limit, hlimit, h⟩ := bind_eq_ok.1 h
  obtain rfl := Except.ok.inj h
  refine ⟨fromText, toText, limit, hrange, rfl, fun now' cursor fromText' toText' hrange' => ?_⟩
  rw [searchRequestFromQuery]
  exact bind_eq_ok.2 ⟨_, hrange', bind_eq_ok.2 ⟨_, hlimit, rfl⟩⟩

theorem canonicalQuery_eq {uuidVersion : GoString → Option ℕ} {now : Instant}
    {values : EventsQuery} {input : SearchRequest} {fromTime toTime : ℤ × ℤ} {limit : ℤ}
    {direction : Direction} {expression : Option QueryExpression}
    (hinput : searchRequestFromQuery now values = .ok input)
    (h : Prepares uuidVersion input fromTime toTime limit direction expression) :
    canonicalQuery now values = canonicalRequest (completed input limit direction) := by
  simp only [canonicalQuery, hinput, h.limit, h.sort]

/-- With the same time range the cursor is taken. -/
theorem accepts_of_range_eq (hlength : ∀ data, (sha256 data).length = 32) {now now' : Instant}
    {values : EventsQuery} {page : SearchPage}
    (hpage : listEvents sha256 store tenantId now values = .ok page)
    (hnext : page.nextCursor ≠ [])
    (hrange : rangeFromQuery now' values = rangeFromQuery now values) :
    Accepts sha256 store.uuidVersion now' values page.nextCursor := by
  rw [listEvents, bind_eq_ok] at hpage
  obtain ⟨input, hinput, hpage⟩ := hpage
  obtain ⟨prepared, hprepared, hpage⟩ := bind_eq_ok.1 hpage
  obtain ⟨cursor, hdecode, hfingerprint, hdirection⟩ :=
    exists_decode_nextCursor hlength hprepared hpage hnext
  obtain ⟨fromText, toText, limit, hrange', hinput', hagain⟩ :=
    exists_of_searchRequestFromQuery hinput
  obtain ⟨fromTime, toTime, limit', direction, expression, _, hprepares, -, rfl⟩ :=
    exists_of_prepareSearch hprepared
  have hsame : searchRequestFromQuery now' { values with cursor := page.nextCursor } =
      .ok { input with cursor := page.nextCursor } := by
    rw [hagain now' _ _ _ (hrange.trans hrange'), hinput']
  obtain ⟨result, hresult⟩ := (prepareCursor_eq_ok hnext hdecode).2 ⟨hfingerprint, hdirection⟩
  exact ⟨_, _, hsame, (hprepares.withCursor page.nextCursor).prepareSearch hresult⟩

/-- A cursor that is taken later was asked for with a time range, or the clock has not moved. -/
theorem given_or_eq_of_accepts (hlength : ∀ data, (sha256 data).length = 32)
    {now now' : Instant} {values : EventsQuery} {page : SearchPage}
    (hcollision : sha256 (canonicalQuery now values) = sha256 (canonicalQuery now' values) →
      canonicalQuery now values = canonicalQuery now' values)
    (hpage : listEvents sha256 store tenantId now values = .ok page)
    (hnext : page.nextCursor ≠ [])
    (haccepts : Accepts sha256 store.uuidVersion now' values page.nextCursor) :
    (values.fromText ≠ [] ∧ values.toText ≠ []) ∨ now' = now := by
  obtain ⟨input', prepared', hinput', hprepared'⟩ := haccepts
  rw [listEvents, bind_eq_ok] at hpage
  obtain ⟨input, hinput, hpage⟩ := hpage
  obtain ⟨prepared, hprepared, hpage⟩ := bind_eq_ok.1 hpage
  obtain ⟨cursor, hdecode, hfingerprint, -⟩ :=
    exists_decode_nextCursor hlength hprepared hpage hnext
  obtain ⟨_, _, limit, hrange, rfl, hagain⟩ := exists_of_searchRequestFromQuery hinput
  by_cases homitted : values.fromText = [] ∧ values.toText = []
  · right
    have hdefault : ∀ instant, rangeFromQuery instant values =
        .ok (formatRfc3339Nano (instant.addSeconds (-900)), formatRfc3339Nano instant) :=
      fun instant => if_pos homitted
    obtain ⟨rfl, rfl⟩ := Prod.mk.inj (Except.ok.inj ((hdefault now).symm.trans hrange))
    obtain rfl := Except.ok.inj ((hagain now' _ _ _ (hdefault now')).symm.trans hinput')
    obtain ⟨_, _, limit₁, direction₁, _, _, hprepares, -, rfl⟩ :=
      exists_of_prepareSearch hprepared
    obtain ⟨_, _, limit₂, direction₂, _, _, hprepares', hcursor', -⟩ :=
      exists_of_prepareSearch hprepared'
    obtain rfl := Except.ok.inj (hprepares.limit.symm.trans hprepares'.limit)
    obtain rfl := Except.ok.inj (hprepares.sort.symm.trans hprepares'.sort)
    have hfingerprint' := ((prepareCursor_eq_ok hnext hdecode).1 ⟨_, hcursor'⟩).1
    have hdigest := hexEncode_injective (hfingerprint.symm.trans hfingerprint')
    rw [canonicalQuery_eq hinput hprepares,
      canonicalQuery_eq (hagain now' values.cursor _ _ (hdefault now'))
        (hprepares'.withCursor values.cursor)] at hcollision
    exact (canonicalRequest_injective (hcollision hdigest)).symm
  · left
    rw [rangeFromQuery, if_neg homitted] at hrange
    split_ifs at hrange with hone
    exact not_or.1 hone

/-- **A next cursor is taken with the same parameters exactly if the time range was given or the
clock has not moved.** -/
theorem nextCursor_accepted_iff (hlength : ∀ data, (sha256 data).length = 32)
    {now now' : Instant} {values : EventsQuery} {page : SearchPage}
    (hcollision : sha256 (canonicalQuery now values) = sha256 (canonicalQuery now' values) →
      canonicalQuery now values = canonicalQuery now' values)
    (hpage : listEvents sha256 store tenantId now values = .ok page)
    (hnext : page.nextCursor ≠ []) :
    Accepts sha256 store.uuidVersion now' values page.nextCursor ↔
      (values.fromText ≠ [] ∧ values.toText ≠ []) ∨ now' = now := by
  refine ⟨given_or_eq_of_accepts hlength hcollision hpage hnext, ?_⟩
  rintro (⟨hfrom, hto⟩ | rfl)
  · refine accepts_of_range_eq hlength hpage hnext ?_
    simp [rangeFromQuery, hfrom, hto]
  · exact accepts_of_range_eq hlength hpage hnext rfl

end

/-! ## Two requests -/

/-- The canonical text of a request for all events, the newest first. -/
def sampleCanonical (fromText toText : String) : GoString :=
  bytes ("\x7b\"query\":\"\",\"time_range\":\x7b\"from\":\"" ++ fromText ++ "\",\"to\":\"" ++ toText ++
    "\"\x7d,\"sort\":[\x7b\"field\":\"event_time\",\"direction\":\"desc\"\x7d]\x7d")

/-- SHA-256 of two of these texts. -/
def sampleSha256 (data : GoString) : GoString :=
  if data = sampleCanonical "2023-11-14T21:58:20Z" "2023-11-14T22:13:20Z" then
    [0x32, 0x27, 0xc4, 0x18, 0x1d, 0xc0, 0x2f, 0x5c, 0xa6, 0x9a, 0xf6, 0x71, 0xad, 0xfa, 0x03,
     0xe5, 0x9d, 0x57, 0xa6, 0x68, 0xb3, 0xd3, 0xa9, 0xd8, 0xa5, 0xee, 0xcb, 0x59, 0xea, 0x1b,
     0x49, 0x3c]
  else if data = sampleCanonical "2023-11-14T21:58:21Z" "2023-11-14T22:13:21Z" then
    [0x62, 0x8c, 0x4a, 0x98, 0xa3, 0x36, 0xb6, 0xc3, 0xe9, 0x6b, 0xb8, 0xbb, 0x1a, 0x45, 0xf5,
     0x26, 0xf7, 0x51, 0x32, 0x12, 0x1d, 0x71, 0x9f, 0x88, 0x90, 0x35, 0xab, 0x95, 0xe1, 0xc8,
     0x12, 0x3a]
  else List.replicate 32 0

theorem length_sampleSha256 (data : GoString) : (sampleSha256 data).length = 32 := by
  unfold sampleSha256
  split_ifs <;> rfl

/-- The version of a UUID in its usual form. -/
def sampleUuidVersion (text : GoString) : Option ℕ :=
  if text.length = 36 then text[14]? >>= unhex else none

/-- An event. -/
def sampleRow (id : String) (seconds : Int64) : EventRow where
  normalizedEventId := id
  rawEventId := "0198c0de-0000-7000-8000-0000000000ff"
  tenantId := "0198c0de-0000-7000-8000-0000000000aa"
  eventTimePresent := 1
  eventTimeSeconds := seconds
  eventTimeNanos := 0
  ingestTimeSeconds := seconds
  ingestTimeNanos := 0
  ocsfVersion := "1.8.0"
  classUid := 3002
  categoryUid := 3
  activityId := none
  severity := none
  parserId := "cerbero.parser.linux.sshd"
  parserVersion := "1.0.0"
  mappingId := "cerbero.mapping.linux.sshd"
  mappingVersion := "1.0.0"
  normalizedHash := "00"
  executionMode := 1
  ocsfEventJson := "\x7b\x7d"

/-- Its line in a response. -/
def sampleLine (id : String) (seconds : String) : GoString :=
  bytes ("\x7b\"normalized_event_id\":\"" ++ id ++
    "\",\"raw_event_id\":\"0198c0de-0000-7000-8000-0000000000ff\"," ++
    "\"tenant_id\":\"0198c0de-0000-7000-8000-0000000000aa\",\"event_time_present\":1," ++
    "\"event_time_seconds\":" ++ seconds ++ ",\"event_time_nanos\":0,\"ingest_time_seconds\":" ++
    seconds ++ ",\"ingest_time_nanos\":0,\"ocsf_version\":\"1.8.0\",\"class_uid\":3002," ++
    "\"category_uid\":3,\"activity_id\":null,\"severity\":null," ++
    "\"parser_id\":\"cerbero.parser.linux.sshd\",\"parser_version\":\"1.0.0\"," ++
    "\"mapping_id\":\"cerbero.mapping.linux.sshd\",\"mapping_version\":\"1.0.0\"," ++
    "\"normalized_hash\":\"00\",\"execution_mode\":1,\"ocsf_event_json\":\"\x7b\x7d\"\x7d")

/-- A store with two events. -/
def sampleStore : Store where
  database := "cerbero"
  uuidVersion := sampleUuidVersion
  jsonValid text := text == "\x7b\x7d"
  unmarshalRow line :=
    if line = sampleLine "0198c0de-0000-7000-8000-000000000002" "1699999999" then
      some (sampleRow "0198c0de-0000-7000-8000-000000000002" 1699999999)
    else if line = sampleLine "0198c0de-0000-7000-8000-000000000001" "1699999998" then
      some (sampleRow "0198c0de-0000-7000-8000-000000000001" 1699999998)
    else none
  answer _ _ := .ok (sampleLine "0198c0de-0000-7000-8000-000000000002" "1699999999" ++
    0x0a :: (sampleLine "0198c0de-0000-7000-8000-000000000001" "1699999998" ++ [0x0a]))

/-- The clock, some seconds after the events. -/
def sampleNow (later : ℤ) : Instant := ⟨1700000000 + later, 0, by decide⟩

/-- The tenant of the events. -/
def sampleTenant : GoString := bytes "0198c0de-0000-7000-8000-0000000000aa"

/-- The parameters of a list of one event, with a time range or without. -/
def sampleQuery (fromText toText : String) : EventsQuery :=
  { limit := bytes "1", fromText := bytes fromText, toText := bytes toText }

/-- Both have a next page. -/
theorem exists_samplePage (values : EventsQuery)
    (h : values = sampleQuery "" "" ∨
      values = sampleQuery "2023-11-14T21:58:20Z" "2023-11-14T22:13:20Z") :
    ∃ page, listEvents sampleSha256 sampleStore sampleTenant (sampleNow 0) values = .ok page ∧
      page.nextCursor ≠ [] := by
  have hok : ((listEvents sampleSha256 sampleStore sampleTenant (sampleNow 0) values).toOption.any
      fun page => page.nextCursor ≠ []) = true := by
    obtain rfl | rfl := h <;> decide +kernel
  match hpage : listEvents sampleSha256 sampleStore sampleTenant (sampleNow 0) values, hok with
  | .ok page, hok => exact ⟨page, rfl, of_decide_eq_true hok⟩

/-- With a time range the cursor is taken a second later. -/
theorem nextCursor_accepted_range : ∃ page,
    listEvents sampleSha256 sampleStore sampleTenant (sampleNow 0)
        (sampleQuery "2023-11-14T21:58:20Z" "2023-11-14T22:13:20Z") = .ok page ∧
      Accepts sampleSha256 sampleStore.uuidVersion (sampleNow 1)
        (sampleQuery "2023-11-14T21:58:20Z" "2023-11-14T22:13:20Z") page.nextCursor := by
  obtain ⟨page, hpage, hnext⟩ := exists_samplePage _ (.inr rfl)
  refine ⟨page, hpage, (nextCursor_accepted_iff length_sampleSha256 (fun _ => ?_) hpage hnext).2
    (.inl (by decide +kernel))⟩
  decide +kernel

/-- Without one it is refused. -/
theorem not_nextCursor_accepted : ∃ page,
    listEvents sampleSha256 sampleStore sampleTenant (sampleNow 0) (sampleQuery "" "") =
        .ok page ∧ page.nextCursor ≠ [] ∧
      ¬ Accepts sampleSha256 sampleStore.uuidVersion (sampleNow 1) (sampleQuery "" "")
        page.nextCursor := by
  obtain ⟨page, hpage, hnext⟩ := exists_samplePage _ (.inl rfl)
  refine ⟨page, hpage, hnext, fun haccepts => ?_⟩
  have hdigests : sampleSha256 (canonicalQuery (sampleNow 0) (sampleQuery "" "")) ≠
      sampleSha256 (canonicalQuery (sampleNow 1) (sampleQuery "" "")) := by decide +kernel
  obtain hgiven | hnow := given_or_eq_of_accepts length_sampleSha256
    (fun heq => absurd heq hdigests) hpage hnext haccepts
  · exact absurd hgiven (by decide +kernel)
  · exact absurd hnow (by decide)

end Search

end Cerbero
