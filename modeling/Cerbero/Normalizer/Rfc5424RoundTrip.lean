import Cerbero.Contracts.UuidText
import Cerbero.Normalizer.SshdLine
import Cerbero.Normalizer.SyslogRfc5424

/-!
# Normalizer/Rfc5424RoundTrip — a rendered RFC 5424 line is read back

The index after the structured data is the one after a closing bracket, so no slice is taken within
a character (`safe_splitStructuredData`).  An element is scanned to its own closing bracket whatever
its values are, since the quotes and backslashes in them are escaped (`scanElement_element`); a line
is then read back part by part (**`parseRfc5424_render`**).
-/

namespace Cerbero

namespace Normalizer

open Text Panicking

/-! ## No slice panics -/

theorem require_some_bind {α β : Type} (a : α) (message : String)
    (f : α → Panicking ParseError β) : require (some a) message >>= f = f a := (rfl)

theorem safe_require {α : Type} (part : Option α) (message : String) :
    (require part message).Safe := safe_attempt _

/-- **The slices around the PRI are those at the bracket that ends it.** -/
theorem slicedPriPrefix_eq (text : List Char) :
    slicedPriPrefix text = attempt (parsePriPrefix text) := by
  unfold slicedPriPrefix parsePriPrefix
  rcases stripPrefix ['<'] text with _ | rest
  · rfl
  rw [require_some_bind]
  simp only [findChar_eq]
  rcases hsplit : splitOnce ['>'] rest with _ | ⟨priText, after⟩
  · simp only [Option.elim_some, ok_bind, hsplit]
    rfl
  have hrest : rest = priText ++ ['>'] ++ after :=
    ((splitOnce_eq_some (List.cons_ne_nil _ _)).1 hsplit).1
  have hstop : splitAtByte (encode priText).length rest = some (priText, '>' :: after) := by
    rw [hrest, ← List.append_cons]
    exact splitAtByte_append _ _
  have hafter : splitAtByte ((encode priText).length + 1) rest = some (priText ++ ['>'], after) := by
    have hlength : (encode priText).length + 1 = (encode (priText ++ ['>'])).length := by
      rw [encode_append, List.length_append]
      rfl
    rw [hrest, hlength]
    exact splitAtByte_append _ _
  simp only [Option.map_some, require_some_bind, hstop, orPanic_some_bind, Option.elim_some,
    ok_bind, hsplit, bytes_ofList_eq_encode]
  split_ifs
  · rfl
  · rcases parseUnsigned (UInt16.size - 1) priText with _ | pri
    · rfl
    · simp only [require_some_bind, hafter, orPanic_some_bind]
      split_ifs <;> rfl

/-- The scan of an element that is closed ends after a bracket. -/
theorem getElem?_of_closed {input : List UInt8} {scan : ElementScan} (hopen : scan.closed = false)
    (h : (scanElement input scan).closed = true) :
    ∃ n, (scanElement input scan).index = scan.index + n + 1 ∧ input[n]? = some 0x5d := by
  induction input generalizing scan with
  | nil =>
    rw [scanElement, hopen] at h
    cases h
  | cons byte rest ih =>
    have hnext : ∀ next : ElementScan, next.index = scan.index + 1 → next.closed = false →
        (scanElement rest next).closed = true →
        ∃ n, (scanElement rest next).index = scan.index + n + 1 ∧
          (byte :: rest)[n]? = some 0x5d := by
      intro next hindex hnextOpen hclosed
      obtain ⟨n, hn, hbyte⟩ := ih hnextOpen hclosed
      exact ⟨n + 1, by rw [hn, hindex]; omega, hbyte⟩
    rw [scanElement] at h ⊢
    split_ifs at h ⊢ with hquotes hescaped hbackslash hquote hquote hbracket
    · exact hnext _ rfl hopen h
    · exact hnext _ rfl hopen h
    · exact hnext _ rfl hopen h
    · exact hnext _ rfl hopen h
    · exact hnext _ rfl hopen h
    · exact ⟨0, rfl, congrArg some hbracket⟩
    · exact hnext _ rfl hopen h

/-- The structured data ends after a bracket, or where it began. -/
theorem scanElements_eq_ok {input : List UInt8} {index stop : ℕ}
    (h : scanElements input index = .ok stop) :
    stop = index ∨ ∃ n, stop = n + 1 ∧ input[n]? = some 0x5d := by
  induction index using scanElements.induct input with
  | case1 index hopen scan hbad =>
    rw [scanElements, dif_pos hopen, if_pos hbad] at h
    exact nomatch h
  | case2 index hopen scan hgood ih =>
    rw [scanElements, dif_pos hopen, if_neg hgood] at h
    rcases ih h with rfl | hend
    · have hclosed : scan.closed = true := by
        simp only [Bool.or_eq_true, Bool.not_eq_true', not_or, Bool.not_eq_false] at hgood
        exact hgood.1.1
      obtain ⟨n, hn, hbyte⟩ := getElem?_of_closed rfl hclosed
      rw [List.getElem?_drop] at hbyte
      exact .inr ⟨index + 1 + n, hn, hbyte⟩
    · exact .inr hend
  | case3 index hclosed =>
    rw [scanElements, dif_neg hclosed] at h
    exact .inl (Except.ok.inj h).symm

/-- **The text may be sliced after its structured data.** -/
theorem exists_splitAtByte_scanElements {input : List Char} {stop : ℕ}
    (h : scanElements (encode input) 0 = .ok stop) :
    ∃ parts, splitAtByte stop input = some parts := by
  rcases scanElements_eq_ok h with rfl | ⟨n, rfl, hbyte⟩
  · exact ⟨_, splitAtByte_zero input⟩
  · obtain ⟨before, after, hsplit⟩ := splitAtByte_succ_of_ascii hbyte (by decide)
    exact ⟨_, hsplit⟩

theorem safe_splitStructuredData (input : List Char) : (splitStructuredData input).Safe := by
  unfold splitStructuredData
  split
  · split_ifs
    · exact safe_attempt (.ok _)
    · split
      · exact safe_attempt (.ok _)
      · exact safe_attempt _
  · split_ifs
    · exact safe_attempt _
    · refine safe_bind (safe_attempt _) fun stop hstop => ?_
      have hscan : scanElements (encode input) 0 = .ok stop := Option.some.inj hstop
      obtain ⟨⟨structuredData, rest⟩, hsplit⟩ := exists_splitAtByte_scanElements hscan
      rw [hsplit, orPanic_some_bind]
      dsimp only
      split_ifs
      · exact safe_attempt (.ok _)
      · split
        · exact safe_attempt (.ok _)
        · exact safe_attempt _

/-- The structured data and the message are the two parts of a text. -/
def Parts (input : List Char) : List Char × List Char → Prop
  | (structuredData, message) =>
    message = [] ∧ input = structuredData ∨ input = structuredData ++ ' ' :: message

theorem stripPrefix_eq_some {start text rest : List Char}
    (h : stripPrefix start text = some rest) : text = start ++ rest := by
  rw [stripPrefix] at h
  split_ifs at h with hstart
  obtain ⟨more, rfl⟩ := List.isPrefixOf_iff_prefix.1 hstart
  rw [List.drop_left] at h
  rw [Option.some.inj h]

/-- **What is accepted is the structured data, the space and the message.** -/
theorem parts_of_splitStructuredData {input : List Char} {parts : List Char × List Char}
    (h : splitStructuredData input = attempt (.ok parts)) : Parts input parts := by
  unfold splitStructuredData at h
  split at h
  · rename_i rest hstrip
    obtain rfl := stripPrefix_eq_some hstrip
    split_ifs at h with hrest
    · obtain rfl := Except.ok.inj (Option.some.inj h)
      exact .inl ⟨rfl, by rw [hrest, List.append_nil]⟩
    · split at h
      · rename_i message hspace
        obtain rfl := stripPrefix_eq_some hspace
        obtain rfl := Except.ok.inj (Option.some.inj h)
        exact .inr rfl
      · exact nomatch Option.some.inj h
  · split_ifs at h
    · exact nomatch Option.some.inj h
    · rcases hscan : scanElements (encode input) 0 with e | stop
      · rw [hscan] at h
        exact nomatch Option.some.inj h
      · obtain ⟨⟨structuredData, rest⟩, hsplit⟩ := exists_splitAtByte_scanElements hscan
        obtain rfl := append_of_splitAtByte hsplit
        rw [hscan, attempt_ok_bind, hsplit, orPanic_some_bind] at h
        dsimp only at h
        split_ifs at h with hrest
        · obtain rfl := Except.ok.inj (Option.some.inj h)
          exact .inl ⟨rfl, by rw [hrest, List.append_nil]⟩
        · split at h
          · rename_i message hspace
            obtain rfl := stripPrefix_eq_some hspace
            obtain rfl := Except.ok.inj (Option.some.inj h)
            exact .inr rfl
          · exact nomatch Option.some.inj h

/-- **No text makes the parser panic.** -/
theorem safe_parseRfc5424 (library : Rfc5424Library) (text : List Char) :
    (parseRfc5424 library text).Safe := by
  unfold parseRfc5424
  refine safe_bind (slicedPriPrefix_eq text ▸ safe_attempt _) fun _ _ => ?_
  refine safe_bind (safe_attempt _) fun _ _ => ?_
  refine safe_bind (safe_require _ _) fun _ _ => ?_
  split_ifs
  · exact safe_attempt _
  iterate 5 refine safe_bind (safe_attempt _) fun _ _ => ?_
  refine safe_bind (safe_splitStructuredData _) fun _ _ => ?_
  exact safe_bind (safe_attempt _) fun _ _ => safe_attempt (.ok _)

/-! ## Lines -/

/-- A character of an SD-NAME: printable ASCII other than the equals sign, the space, the closing
bracket and the double quote. -/
def IsNameChar (ch : Char) : Prop :=
  0x21 ≤ ch.toNat ∧ ch.toNat ≤ 0x7e ∧ ch ≠ '=' ∧ ch ≠ ']' ∧ ch ≠ '"'

/-- An SD-NAME. -/
structure SdName where
  text : List Char
  text_ne : text ≠ []
  length_le : text.length ≤ 32
  isNameChar : ∀ ch ∈ text, IsNameChar ch

/-- An SD-PARAM with the value it stands for. -/
structure SdParam where
  name : SdName
  value : List Char

/-- An SD-ELEMENT. -/
structure SdElement where
  id : SdName
  params : List SdParam

/-- A value as it is written: a backslash before each double quote, backslash and closing bracket. -/
def escapeValue (value : List Char) : List Char :=
  value.flatMap fun ch => if ch = '"' ∨ ch = '\\' ∨ ch = ']' then ['\\', ch] else [ch]

/-- A parameter as it is written, with the space before it. -/
def SdParam.text (param : SdParam) : List Char :=
  ' ' :: param.name.text ++ ['=', '"'] ++ escapeValue param.value ++ ['"']

/-- An element as it is written. -/
def SdElement.text (element : SdElement) : List Char :=
  '[' :: (element.id.text ++ element.params.flatMap SdParam.text ++ [']'])

/-- A part of the header: some characters, none of them a space. -/
structure HeaderToken where
  text : List Char
  text_ne : text ≠ []
  plain : ' ' ∉ text

/-- The parts of a line; without a time and without elements they are written as NILVALUE. -/
structure Rfc5424Line where
  pri : ℕ
  pri_le : pri ≤ 191
  timestamp : Option (List Char)
  timestamp_plain : ∀ text ∈ timestamp, ' ' ∉ text
  hostname : HeaderToken
  appName : HeaderToken
  procid : HeaderToken
  msgid : HeaderToken
  structuredData : List SdElement
  message : Option (List Char)

namespace Rfc5424Line

/-- The time as it is written. -/
def timestampText (line : Rfc5424Line) : List Char := line.timestamp.getD ['-']

/-- The structured data as it is written. -/
def structuredDataText (line : Rfc5424Line) : List Char :=
  if line.structuredData = [] then ['-'] else line.structuredData.flatMap SdElement.text

/-- The message as it is written, with the space before it. -/
def messageText (line : Rfc5424Line) : List Char := line.message.elim [] (' ' :: ·)

/-- The line as it is written. -/
def text (line : Rfc5424Line) : List Char :=
  '<' :: (Nat.toDigits 10 line.pri ++ '>' :: (['1'] ++ ' ' :: (line.timestampText ++
    ' ' :: (line.hostname.text ++ ' ' :: (line.appName.text ++ ' ' :: (line.procid.text ++
      ' ' :: (line.msgid.text ++ ' ' :: (line.structuredDataText ++ line.messageText))))))))

/-- The value a part is read as: NILVALUE is null. -/
def nullable (part : List Char) : ParsedValue :=
  if part = ['-'] then .null else .string (String.ofList part)

/-- The event has exactly the parts of the line. -/
structure ReadAs (line : Rfc5424Line) (event : ParsedEvent) : Prop where
  parser : event.parserId = syslogRfc5424ParserId ∧ event.parserVersion = "1" ∧
    event.sourceEventType = "syslog.rfc5424"
  pri : event.u64Field "pri" = some line.pri
  facility : ∃ facility severity, event.u64Field "facility" = some facility ∧
    event.u64Field "severity" = some severity ∧ severity < 8 ∧ facility * 8 + severity = line.pri
  version : event.u64Field "version" = some 1
  timestamp : event.fields.get "timestamp" =
    some (line.timestamp.elim .null fun text => .string (String.ofList text))
  hostname : event.fields.get "hostname" = some (nullable line.hostname.text)
  appName : event.fields.get "app_name" = some (nullable line.appName.text)
  procid : event.fields.get "procid" = some (nullable line.procid.text)
  msgid : event.fields.get "msgid" = some (nullable line.msgid.text)
  structuredData : event.fields.get "structured_data" = some (if line.structuredData = [] then .null
    else .string (String.ofList (line.structuredData.flatMap SdElement.text)))
  message : event.fields.get "message" = some (.string (String.ofList (line.message.getD [])))
  candidates : event.timestampCandidates = line.timestamp.toList.map fun text =>
    ⟨String.ofList text, "timestamp", none, "rfc3339", "high"⟩
  status : event.status = if line.timestamp = none then .partially else .success

end Rfc5424Line

/-! ## The scan of an element -/

theorem scanElement_quote (rest : List UInt8) (index : ℕ) :
    scanElement (0x22 :: rest) ⟨index, false, false, false⟩ =
      scanElement rest ⟨index + 1, true, false, false⟩ := rfl

theorem scanElement_unquote (rest : List UInt8) (index : ℕ) :
    scanElement (0x22 :: rest) ⟨index, true, false, false⟩ =
      scanElement rest ⟨index + 1, false, false, false⟩ := rfl

/-- A backslash takes the next byte with it. -/
theorem scanElement_escape (b : UInt8) (rest : List UInt8) (index : ℕ) :
    scanElement (0x5c :: b :: rest) ⟨index, true, false, false⟩ =
      scanElement rest ⟨index + 2, true, false, false⟩ := rfl

theorem scanElement_close (rest : List UInt8) (index : ℕ) :
    scanElement (0x5d :: rest) ⟨index, false, false, false⟩ = ⟨index + 1, false, false, true⟩ := rfl

/-- Outside quotes, bytes that are neither a quote nor a closing bracket are passed over. -/
theorem scanElement_outside {piece : List UInt8} (h : ∀ b ∈ piece, b ≠ 0x22 ∧ b ≠ 0x5d)
    (rest : List UInt8) (index : ℕ) :
    scanElement (piece ++ rest) ⟨index, false, false, false⟩ =
      scanElement rest ⟨index + piece.length, false, false, false⟩ := by
  induction piece generalizing index with
  | nil => rfl
  | cons b piece ih =>
    obtain ⟨hquote, hbracket⟩ := h b List.mem_cons_self
    rw [List.cons_append, scanElement, if_neg Bool.false_ne_true, if_neg hquote, if_neg hbracket,
      ih (fun b' hb' => h b' (List.mem_cons_of_mem _ hb')), List.length_cons]
    congr 2
    show index + 1 + piece.length = index + (piece.length + 1)
    omega

/-- Within quotes, bytes that are neither a quote nor a backslash are passed over. -/
theorem scanElement_inside {piece : List UInt8} (h : ∀ b ∈ piece, b ≠ 0x22 ∧ b ≠ 0x5c)
    (rest : List UInt8) (index : ℕ) :
    scanElement (piece ++ rest) ⟨index, true, false, false⟩ =
      scanElement rest ⟨index + piece.length, true, false, false⟩ := by
  induction piece generalizing index with
  | nil => rfl
  | cons b piece ih =>
    obtain ⟨hquote, hbackslash⟩ := h b List.mem_cons_self
    rw [List.cons_append, scanElement, if_pos rfl, if_neg Bool.false_ne_true, if_neg hbackslash,
      if_neg hquote, ih (fun b' hb' => h b' (List.mem_cons_of_mem _ hb')), List.length_cons]
    congr 2
    show index + 1 + piece.length = index + (piece.length + 1)
    omega

/-- An ASCII character that a text does not have is not among its bytes. -/
theorem ne_of_mem_encode {text : List Char} (ch : Char) (hascii : ch.toNat < 128) (h : ch ∉ text)
    {b : UInt8} (hb : b ∈ encode text) : b ≠ ch.toUInt8 :=
  fun heq => toUInt8_notMem_encode hascii h (heq ▸ hb)

/-- **An escaped value ends with the quote after it.** -/
theorem scanElement_value (value : List Char) (rest : List UInt8) (index : ℕ) :
    scanElement (encode (escapeValue value) ++ rest) ⟨index, true, false, false⟩ =
      scanElement rest ⟨index + (encode (escapeValue value)).length, true, false, false⟩ := by
  induction value generalizing index with
  | nil => rfl
  | cons ch value ih =>
    have hcons : escapeValue (ch :: value) =
        (if ch = '"' ∨ ch = '\\' ∨ ch = ']' then ['\\', ch] else [ch]) ++ escapeValue value :=
      List.flatMap_cons
    rw [hcons, encode_append, List.append_assoc, List.length_append, ← Nat.add_assoc, ← ih]
    split_ifs with hspecial
    · have hbytes : encode ['\\', ch] = [0x5c, ch.toUInt8] := by
        rcases hspecial with rfl | rfl | rfl <;> rfl
      rw [hbytes, List.cons_append, List.singleton_append, scanElement_escape]
      rfl
    · push Not at hspecial
      refine scanElement_inside (fun b hb => ⟨?_, ?_⟩) _ _
      · exact ne_of_mem_encode '"' (by decide) (by simpa using hspecial.1.symm) hb
      · exact ne_of_mem_encode '\\' (by decide) (by simpa using hspecial.2.1.symm) hb

/-- A name and the marks around it are outside quotes. -/
theorem scanElement_name {text : List Char} (h : ∀ ch ∈ text, ch ≠ '"' ∧ ch ≠ ']')
    (rest : List UInt8) (index : ℕ) :
    scanElement (encode text ++ rest) ⟨index, false, false, false⟩ =
      scanElement rest ⟨index + (encode text).length, false, false, false⟩ := by
  refine scanElement_outside (fun b hb => ⟨?_, ?_⟩) _ _
  · exact ne_of_mem_encode '"' (by decide) (fun hmem => (h _ hmem).1 rfl) hb
  · exact ne_of_mem_encode ']' (by decide) (fun hmem => (h _ hmem).2 rfl) hb

theorem SdName.plain (name : SdName) : ∀ ch ∈ name.text, ch ≠ '"' ∧ ch ≠ ']' :=
  fun ch hch => ⟨(name.isNameChar ch hch).2.2.2.2, (name.isNameChar ch hch).2.2.2.1⟩

theorem scanElement_param (param : SdParam) (rest : List UInt8) (index : ℕ) :
    scanElement (encode param.text ++ rest) ⟨index, false, false, false⟩ =
      scanElement rest ⟨index + (encode param.text).length, false, false, false⟩ := by
  have htext : param.text = (' ' :: param.name.text ++ ['=']) ++
      '"' :: (escapeValue param.value ++ ['"']) := by simp [SdParam.text]
  have hname : ∀ ch ∈ ' ' :: param.name.text ++ ['='], ch ≠ '"' ∧ ch ≠ ']' := by
    intro ch hch
    rcases List.mem_append.1 hch with hch | hch
    · rcases List.mem_cons.1 hch with rfl | hch
      · decide
      · exact param.name.plain ch hch
    · obtain rfl := List.mem_singleton.1 hch
      decide
  have hquote (text : List Char) : encode ('"' :: text) = 0x22 :: encode text :=
    encode_cons_of_lt (by decide) text
  rw [htext, encode_append, hquote, encode_append (escapeValue param.value), hquote, encode_nil,
    List.append_assoc, scanElement_name hname, List.cons_append, scanElement_quote, List.append_assoc,
    scanElement_value, List.singleton_append, scanElement_unquote]
  simp only [List.length_append, List.length_cons, List.length_nil, ← Nat.add_assoc, Nat.add_zero]
  congr 2
  omega

theorem scanElement_params (params : List SdParam) (rest : List UInt8) (index : ℕ) :
    scanElement (encode (params.flatMap SdParam.text) ++ rest) ⟨index, false, false, false⟩ =
      scanElement rest
        ⟨index + (encode (params.flatMap SdParam.text)).length, false, false, false⟩ := by
  induction params generalizing index with
  | nil => rfl
  | cons param params ih =>
    rw [List.flatMap_cons, encode_append, List.append_assoc, scanElement_param, ih,
      List.length_append, Nat.add_assoc]

/-- **An element is scanned to its own closing bracket.** -/
theorem scanElement_element (element : SdElement) (rest : List UInt8) (index : ℕ) :
    scanElement ((encode element.text).tail ++ rest) ⟨index + 1, false, false, false⟩ =
      ⟨index + (encode element.text).length, false, false, true⟩ := by
  have hbracket : encode [']'] = [0x5d] := rfl
  rw [SdElement.text, encode_cons_of_lt (by decide), List.tail_cons, encode_append, encode_append,
    List.append_assoc, List.append_assoc, scanElement_name element.id.plain, scanElement_params,
    hbracket, List.singleton_append, scanElement_close]
  congr 1
  simp only [List.length_append, List.length_cons, List.length_nil]
  omega

/-- The loop goes over one element. -/
theorem scanElements_element (before : List UInt8) (element : SdElement) (rest : List UInt8) :
    scanElements (before ++ encode element.text ++ rest) before.length =
      scanElements (before ++ encode element.text ++ rest)
        (before ++ encode element.text).length := by
  have hopen : encode element.text = 0x5b :: (encode element.text).tail := by
    rw [SdElement.text, encode_cons_of_lt (by decide)]
    rfl
  have hget : (before ++ encode element.text ++ rest)[before.length]? = some 0x5b := by
    rw [List.append_assoc, List.getElem?_append_right le_rfl, Nat.sub_self, hopen]
    rfl
  have hdrop : (before ++ encode element.text ++ rest).drop (before.length + 1) =
      (encode element.text).tail ++ rest := by
    rw [List.append_assoc, ← List.drop_drop, List.drop_left, hopen]
    rfl
  rw [scanElements, dif_pos hget]
  simp only [hdrop, scanElement_element, Bool.not_true, Bool.or_self, Bool.false_eq_true, if_false,
    List.length_append]

/-- **The structured data is scanned to its end.** -/
theorem scanElements_elements (elements : List SdElement) (before rest : List UInt8)
    (hrest : rest.head? ≠ some 0x5b) :
    scanElements (before ++ encode (elements.flatMap SdElement.text) ++ rest) before.length =
      .ok (before ++ encode (elements.flatMap SdElement.text)).length := by
  induction elements generalizing before with
  | nil =>
    rw [List.flatMap_nil, encode_nil, List.append_nil, scanElements, dif_neg]
    rwa [List.getElem?_append_right le_rfl, Nat.sub_self, ← List.head?_eq_getElem?]
  | cons element elements ih =>
    have hstep := scanElements_element before element
      (encode (elements.flatMap SdElement.text) ++ rest)
    have hnext := ih (before ++ encode element.text)
    rw [List.flatMap_cons, encode_append]
    simp only [List.append_assoc] at hstep hnext ⊢
    rw [hstep, hnext]

/-! ## Reading a line back -/

theorem takeToken_append {token : List Char} (hne : token ≠ []) (hplain : ' ' ∉ token)
    (rest : List Char) (name : String) :
    takeToken (token ++ ' ' :: rest) name = .ok (token, rest) := by
  rw [takeToken, splitOnce_singleton hplain]
  exact if_neg hne

theorem parsePriPrefix_render {pri : ℕ} (h : pri ≤ 191) (rest : List Char) :
    parsePriPrefix ('<' :: (Nat.toDigits 10 pri ++ '>' :: rest)) = .ok (pri, rest) := by
  have hdigits : ∀ ch ∈ Nat.toDigits 10 pri, ch.isDigit := fun ch hch =>
    Nat.isDigit_of_mem_toDigits (by decide) (by decide) hch
  have hsplit : splitOnce ['>'] (Nat.toDigits 10 pri ++ '>' :: rest) =
      some (Nat.toDigits 10 pri, rest) :=
    splitOnce_singleton (fun hmem => nomatch hdigits '>' hmem) rest
  have hascii : ∀ ch ∈ Nat.toDigits 10 pri, ch.toNat < 128 := by
    intro ch hch
    have hrange := toNat_of_isDigit (hdigits ch hch)
    omega
  have hlength : ¬ 3 < (bytes (String.ofList (Nat.toDigits 10 pri))).length := by
    rw [bytes_ofList hascii, List.length_map]
    exact Nat.not_lt.2 (Nat.length_toDigits_le_iff (by decide) (by decide) |>.2 (by omega))
  have hchecks : ¬ (Nat.toDigits 10 pri = [] ∨
      3 < (bytes (String.ofList (Nat.toDigits 10 pri))).length ∨
      (Nat.toDigits 10 pri).all Char.isDigit = false) := by
    rintro (hnil | hlong | hother)
    · exact Nat.toDigits_ne_nil hnil
    · exact hlength hlong
    · rw [List.all_eq_true.2 hdigits] at hother
      exact nomatch hother
  have hparse : parseUnsigned (UInt16.size - 1) (Nat.toDigits 10 pri) = some pri :=
    parseUnsigned_toDigits (h.trans (by decide))
  have hstrip : stripPrefix ['<'] ('<' :: (Nat.toDigits 10 pri ++ '>' :: rest)) =
      some (Nat.toDigits 10 pri ++ '>' :: rest) := stripPrefix_append ['<'] _
  simp only [parsePriPrefix, hstrip, hsplit, Option.elim_some, ok_bind, if_neg hchecks, hparse,
    if_neg (Nat.not_lt.2 h)]
  rfl

namespace Rfc5424Line

/-- **The structured data and the message of a line are told apart.** -/
theorem splitStructuredData_text (line : Rfc5424Line) :
    splitStructuredData (line.structuredDataText ++ line.messageText) =
      attempt (.ok (line.structuredDataText, line.message.getD [])) := by
  unfold structuredDataText messageText
  match helements : line.structuredData with
  | [] =>
    rw [if_pos rfl]
    cases line.message <;> rfl
  | element :: elements =>
    rw [if_neg (List.cons_ne_nil _ _), ← helements]
    generalize hdata : line.structuredData.flatMap SdElement.text = data
    have hdata' : data = '[' :: data.tail := by
      rw [← hdata, helements]
      rfl
    generalize htail : line.message.elim [] (' ' :: ·) = tail
    have hhead : (encode tail).head? ≠ some 0x5b := by
      rw [← htail]
      cases line.message with
      | none => exact fun h => nomatch h
      | some message =>
        rw [Option.elim_some, encode_cons_of_lt (by decide), List.head?_cons]
        exact fun h => absurd (Option.some.inj h) (by decide)
    have hscan : scanElements (encode (data ++ tail)) 0 = .ok (encode data).length := by
      rw [encode_append, ← hdata]
      exact scanElements_elements line.structuredData [] (encode tail) hhead
    have hstart : stripPrefix ['-'] (data ++ tail) = none := by
      rw [hdata']
      rfl
    have hopen : (data ++ tail).head? = some '[' := by
      rw [hdata']
      rfl
    rw [splitStructuredData, hstart]
    simp only [hopen, ne_eq, not_true_eq_false, if_false, hscan, attempt_ok_bind,
      splitAtByte_append, orPanic_some_bind]
    rw [← htail]
    cases line.message <;> rfl

/-- What the time of a line says about when the event happened. -/
def candidates (line : Rfc5424Line) : List TimestampCandidate :=
  line.timestamp.toList.map fun text =>
    ⟨String.ofList text, "timestamp", none, "rfc3339", "high"⟩

/-- What the parser makes of a line. -/
def event (line : Rfc5424Line) : ParsedEvent where
  parserId := syslogRfc5424ParserId
  parserVersion := syslogRfc5424ParserVersion
  sourceEventType := "syslog.rfc5424"
  fields := syslogFields {
    pri := line.pri
    version := some 1
    timestamp := tokenValue line.timestampText
    hostname := tokenValue line.hostname.text
    appName := tokenValue line.appName.text
    procid := tokenValue line.procid.text
    msgid := tokenValue line.msgid.text
    structuredData := if line.structuredDataText = ['-'] then .null
      else .string (String.ofList line.structuredDataText)
    message := line.message.getD [] }
  timestampCandidates := line.candidates
  warnings := if line.timestamp = none then
    ["RFC5424 TIMESTAMP is NILVALUE; event_time candidate unavailable"] else []
  status := if line.timestamp = none then .partially else .success
  selection := none

/-- The time of the line, if it has one, is one for the RFC 3339 parser. -/
def TimeAccepted (line : Rfc5424Line) (library : Rfc5424Library) : Prop :=
  ∀ text ∈ line.timestamp, library.parseRfc3339 text = .ok ()

end Rfc5424Line

/-- The RFC 3339 parser accepts neither the empty text nor a lone hyphen. -/
structure Rfc5424Library.Lawful (library : Rfc5424Library) : Prop where
  rejects_empty : ∃ e, library.parseRfc3339 [] = .error e
  rejects_nil : ∃ e, library.parseRfc3339 ['-'] = .error e

theorem Rfc5424Library.Lawful.ne_of_ok {library : Rfc5424Library} (hlibrary : library.Lawful)
    {text : List Char} (h : library.parseRfc3339 text = .ok ()) : text ≠ [] ∧ text ≠ ['-'] := by
  constructor
  · rintro rfl
    obtain ⟨e, he⟩ := hlibrary.rejects_empty
    exact nomatch h.symm.trans he
  · rintro rfl
    obtain ⟨e, he⟩ := hlibrary.rejects_nil
    exact nomatch h.symm.trans he

namespace Rfc5424Line

variable {library : Rfc5424Library}

theorem timestampText_ne (hlibrary : library.Lawful) {line : Rfc5424Line}
    (h : line.TimeAccepted library) : line.timestampText ≠ [] := by
  unfold timestampText
  match htime : line.timestamp with
  | none => exact List.cons_ne_nil _ _
  | some text => exact (hlibrary.ne_of_ok (h text htime)).1

theorem space_notMem_timestampText (line : Rfc5424Line) : ' ' ∉ line.timestampText := by
  unfold timestampText
  match htime : line.timestamp with
  | none => decide
  | some text => exact line.timestamp_plain text htime

theorem rfc5424Time_timestampText (hlibrary : library.Lawful) {line : Rfc5424Line}
    (h : line.TimeAccepted library) : rfc5424Time library line.timestampText =
      .ok (line.candidates, line.event.warnings, line.event.status) := by
  unfold rfc5424Time timestampText candidates event
  match htime : line.timestamp with
  | none => rfl
  | some text =>
    rw [Option.getD_some, if_neg (hlibrary.ne_of_ok (h text htime)).2, h text htime]
    rfl

/-- **A line is parsed part by part.** -/
theorem parseRfc5424_text (hlibrary : library.Lawful) {line : Rfc5424Line}
    (h : line.TimeAccepted library) : parseRfc5424 library line.text = attempt (.ok line.event) := by
  have hversion : parseUnsigned (UInt16.size - 1) ['1'] = some 1 := by decide
  have htoken (token : HeaderToken) (rest : List Char) (name : String) :
      takeToken (token.text ++ ' ' :: rest) name = .ok (token.text, rest) :=
    takeToken_append token.text_ne token.plain rest name
  have htime (rest : List Char) (name : String) :
      takeToken (line.timestampText ++ ' ' :: rest) name = .ok (line.timestampText, rest) :=
    takeToken_append (timestampText_ne hlibrary h) line.space_notMem_timestampText rest name
  have hone (rest : List Char) : takeToken (['1'] ++ ' ' :: rest) "VERSION" = .ok (['1'], rest) :=
    takeToken_append (List.cons_ne_nil _ _) (by decide) rest _
  rw [parseRfc5424, slicedPriPrefix_eq, text, parsePriPrefix_render line.pri_le, attempt_ok_bind]
  simp only [hone, attempt_ok_bind, hversion, require_some_bind, ne_eq, not_true_eq_false, if_false,
    htime, htoken, splitStructuredData_text, rfc5424Time_timestampText hlibrary h]
  rfl

theorem find_syslogFields (fields : SyslogFieldSet) (key : String) :
    (syslogFields fields).get key = SortedMap.find key [
      ("message", .string (String.ofList fields.message)),
      ("structured_data", fields.structuredData),
      ("msgid", fields.msgid),
      ("procid", fields.procid),
      ("app_name", fields.appName),
      ("hostname", fields.hostname),
      ("timestamp", fields.timestamp),
      ("version", fields.version.elim .null fun value => .number (toString value)),
      ("severity", .number (toString (fields.pri % 8))),
      ("facility", .number (toString (fields.pri / 8))),
      ("pri", .number (toString fields.pri))] := get_ofEntries _ _

theorem asU64_toString {n : ℕ} (h : n ≤ UInt64.size - 1) :
    (ParsedValue.number (toString n)).asU64 = some n := by
  have hdigits : (toString n).toList = Nat.toDigits 10 n := Nat.toList_repr
  rw [ParsedValue.asU64, hdigits, parseUnsigned_toDigits h]

/-- Elements are not written as NILVALUE. -/
theorem flatMap_text_ne {elements : List SdElement} (h : elements ≠ []) :
    elements.flatMap SdElement.text ≠ ['-'] := by
  match elements, h with
  | element :: elements, _ => exact fun heq => nomatch (List.cons.inj heq).1

/-- The value of a timestamp, or of the mark that there is none. -/
theorem tokenValue_timestampText (hlibrary : library.Lawful) {line : Rfc5424Line}
    (h : line.TimeAccepted library) : tokenValue line.timestampText =
      line.timestamp.elim .null fun text => .string (String.ofList text) := by
  unfold timestampText
  match htime : line.timestamp with
  | none => rfl
  | some text => exact if_neg (hlibrary.ne_of_ok (h text htime)).2

/-- The value of structured data, or of the mark that there is none. -/
theorem structuredDataText_value (line : Rfc5424Line) :
    (if line.structuredDataText = ['-'] then ParsedValue.null
      else .string (String.ofList line.structuredDataText)) =
      if line.structuredData = [] then .null
      else .string (String.ofList (line.structuredData.flatMap SdElement.text)) := by
  by_cases hnil : line.structuredData = []
  · rw [structuredDataText, if_pos hnil, if_pos hnil]
    rfl
  · rw [structuredDataText, if_neg hnil, if_neg hnil, if_neg (flatMap_text_ne hnil)]

/-- **The event of a line has its parts.** -/
theorem readAs_event (hlibrary : library.Lawful) {line : Rfc5424Line}
    (h : line.TimeAccepted library) : line.ReadAs line.event where
  parser := ⟨rfl, rfl, rfl⟩
  pri := by
    rw [ParsedEvent.u64Field, event, find_syslogFields]
    exact asU64_toString (line.pri_le.trans (by decide))
  facility := by
    refine ⟨line.pri / 8, line.pri % 8, ?_, ?_, Nat.mod_lt _ (by decide), ?_⟩
    · rw [ParsedEvent.u64Field, event, find_syslogFields]
      exact asU64_toString ((Nat.div_le_self _ _).trans (line.pri_le.trans (by decide)))
    · rw [ParsedEvent.u64Field, event, find_syslogFields]
      exact asU64_toString ((Nat.mod_le _ _).trans (line.pri_le.trans (by decide)))
    · rw [Nat.mul_comm]
      exact Nat.div_add_mod _ _
  version := by
    rw [ParsedEvent.u64Field, event, find_syslogFields]
    exact asU64_toString (n := 1) (by decide)
  timestamp := by
    rw [event, find_syslogFields, tokenValue_timestampText hlibrary h]
    rfl
  hostname := by
    rw [event, find_syslogFields]
    rfl
  appName := by
    rw [event, find_syslogFields]
    rfl
  procid := by
    rw [event, find_syslogFields]
    rfl
  msgid := by
    rw [event, find_syslogFields]
    rfl
  structuredData := by
    rw [event, find_syslogFields, structuredDataText_value]
    rfl
  message := by
    rw [event, find_syslogFields]
    rfl
  candidates := rfl
  status := rfl

/-! ### Through the parser -/

/-- The text does not end with a carriage return or a line feed. -/
def EndsPlain (text : List Char) : Prop := ∀ ch ∈ text.getLast?, ch ≠ '\r' ∧ ch ≠ '\n'

theorem trimLineEnd_eq_self {text : List Char} (h : EndsPlain text) : trimLineEnd text = text := by
  rcases List.eq_nil_or_concat text with rfl | ⟨init, last, rfl⟩
  · rfl
  · rw [List.concat_eq_append] at h ⊢
    obtain ⟨hr, hn⟩ := h last List.getLast?_concat
    rw [trimLineEnd, List.reverse_append, List.reverse_singleton, List.singleton_append,
      List.dropWhile_cons_of_neg (by simp [hr, hn]), List.reverse_cons, List.reverse_reverse]

theorem EndsPlain.append {more : List Char} (h : EndsPlain more) (hne : more ≠ [])
    (text : List Char) : EndsPlain (text ++ more) := by
  intro ch hch
  rw [List.getLast?_append_of_ne_nil _ hne] at hch
  exact h ch hch

theorem endsPlain_structuredDataText (line : Rfc5424Line) :
    EndsPlain line.structuredDataText ∧ line.structuredDataText ≠ [] := by
  have hmark (ch : Char) (h : ch ≠ '\r' ∧ ch ≠ '\n') : EndsPlain [ch] := by
    intro last hlast
    obtain rfl := Option.some.inj hlast
    exact h
  unfold structuredDataText
  rcases List.eq_nil_or_concat line.structuredData with hnil | ⟨init, last, hconcat⟩
  · rw [if_pos hnil]
    exact ⟨hmark '-' (by decide), List.cons_ne_nil _ _⟩
  · have htext : line.structuredData.flatMap SdElement.text = (init.flatMap SdElement.text ++
        '[' :: (last.id.text ++ last.params.flatMap SdParam.text)) ++ [']'] := by
      simp [hconcat, SdElement.text]
    rw [if_neg (by simp [hconcat]), htext]
    exact ⟨(hmark ']' (by decide)).append (List.cons_ne_nil _ _) _, by simp⟩

/-- A line ends as its message does. -/
theorem endsPlain_text {line : Rfc5424Line}
    (h : ∀ message ∈ line.message, EndsPlain message) : EndsPlain line.text := by
  obtain ⟨start, hstart⟩ : ∃ start, line.text =
      start ++ (line.structuredDataText ++ line.messageText) := by
    refine ⟨'<' :: (Nat.toDigits 10 line.pri ++ '>' :: (['1'] ++ ' ' :: (line.timestampText ++
      ' ' :: (line.hostname.text ++ ' ' :: (line.appName.text ++ ' ' :: (line.procid.text ++
        ' ' :: (line.msgid.text ++ [' ']))))))), ?_⟩
    simp [text]
  obtain ⟨hdata, hne⟩ := line.endsPlain_structuredDataText
  rw [hstart, messageText]
  match hmessage : line.message with
  | none =>
    rw [Option.elim_none, List.append_nil]
    exact hdata.append hne start
  | some message =>
    have hspace : EndsPlain (' ' :: message) := by
      match message, h message hmessage with
      | [], _ =>
        intro ch hch
        obtain rfl := Option.some.inj hch
        decide
      | ch :: message, hplain => exact hplain.append (List.cons_ne_nil _ _) [' ']
    rw [Option.elim_some]
    refine EndsPlain.append ?_ (by simp) start
    exact hspace.append (List.cons_ne_nil _ _) _

/-- **The parser reads a line as long as it is not too long.** -/
theorem parseSyslogRfc5424_text (hlibrary : library.Lawful) {line : Rfc5424Line}
    (h : line.TimeAccepted library) (hmessage : ∀ message ∈ line.message, EndsPlain message)
    {input : ParserInput} (hraw : input.raw = encode line.text)
    (hlimit : input.raw.length ≤ syslogLimits.maxInputBytes) :
    parseSyslogRfc5424 library input = attempt (.ok line.event) := by
  have hinput : ensureInputLimit input.raw syslogLimits = .ok () := if_neg (Nat.not_lt.2 hlimit)
  have htext : fromUtf8 input.raw = some (String.ofList line.text) := by
    rw [hraw, ← bytes_ofList_eq_encode, fromUtf8_bytes]
  rw [parseSyslogRfc5424, hinput, attempt_ok_bind, htext]
  dsimp only
  rw [String.toList_ofList, trimLineEnd_eq_self (endsPlain_text hmessage),
    parseRfc5424_text hlibrary h]

end Rfc5424Line

/-! ## The round trip -/

/-- **A rendered line is read back with exactly its parts**, and so it is through the parser unless
it is too long or its message ends with a line break; whatever text is accepted, its structured
data and its message are the text again; and no text makes the parser slice where it may not. -/
theorem parseRfc5424_render {library : Rfc5424Library} (hlibrary : library.Lawful) :
    (∀ line : Rfc5424Line, line.TimeAccepted library →
      ∃ event, parseRfc5424 library line.text = attempt (.ok event) ∧ line.ReadAs event ∧
        ((∀ message ∈ line.message, Rfc5424Line.EndsPlain message) →
          ∀ input : ParserInput, input.raw = encode line.text →
            input.raw.length ≤ syslogLimits.maxInputBytes →
            (syslogRfc5424Parser library).parse input = some (.ok event))) ∧
      (∀ input parts, splitStructuredData input = attempt (.ok parts) → Parts input parts) ∧
      (∀ input, (splitStructuredData input).Safe) ∧
      ∀ text, (parseRfc5424 library text).Safe := by
  refine ⟨fun line htime => ?_, fun _ _ => parts_of_splitStructuredData,
    safe_splitStructuredData, safe_parseRfc5424 library⟩
  refine ⟨line.event, Rfc5424Line.parseRfc5424_text hlibrary htime,
    Rfc5424Line.readAs_event hlibrary htime, fun hmessage input hraw hlimit => ?_⟩
  exact Rfc5424Line.parseSyslogRfc5424_text hlibrary htime hmessage hraw hlimit

/-- A library whose RFC 3339 parser knows one time. -/
def oneTimeLibrary : Rfc5424Library where
  parseRfc3339 text :=
    if text = "2003-10-11T22:14:15.003Z".toList then .ok ()
    else .error "the 'year' component could not be parsed"
  debugText text := debug (String.ofList text)
  utf8Error := Text.utf8Error

/-- A line with a bracket and a quote in a value. -/
def bracketLine : Rfc5424Line where
  pri := 165
  pri_le := by decide
  timestamp := some "2003-10-11T22:14:15.003Z".toList
  timestamp_plain := by decide
  hostname := ⟨"host.example".toList, by decide, by decide⟩
  appName := ⟨['-'], by decide, by decide⟩
  procid := ⟨['-'], by decide, by decide⟩
  msgid := ⟨"ID47".toList, by decide, by decide⟩
  structuredData := [⟨⟨['x'], by decide, by decide, by simp [IsNameChar]⟩,
    [⟨⟨['k'], by decide, by decide, by simp [IsNameChar]⟩, "é]\"".toList⟩]⟩]
  message := some "[".toList

theorem parseRfc5424_render_bracketLine :
    ∃ event, parseRfc5424 oneTimeLibrary bracketLine.text = attempt (.ok event) ∧
      bracketLine.ReadAs event := by
  obtain ⟨event, hparse, hread, -⟩ :=
    (parseRfc5424_render (⟨⟨_, rfl⟩, ⟨_, rfl⟩⟩ : oneTimeLibrary.Lawful)).1 bracketLine (by
      intro text htext
      obtain rfl := Option.some.inj htext
      rfl)
  exact ⟨event, hparse, hread⟩

end Normalizer

end Cerbero
