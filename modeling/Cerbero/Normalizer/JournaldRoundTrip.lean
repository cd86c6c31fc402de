import Cerbero.Normalizer.JsonLimits
import Cerbero.Normalizer.ProbePromise

/-!
# Normalizer/JournaldRoundTrip — the collector's entries are read back

What the collector writes (`Journald.encodeCanonical`) the normalizer parses: as many fields, in the
same order, with the same names and bytes, and the same cursor
(**`parseJournald_encodeCanonical`**).  Of the decoder it takes the standard (`StandardDecoder`).
-/

namespace Cerbero

namespace Normalizer

open Text Journald

/-! ## Decoders -/

/-- The name of a member that `serde_json` keeps for itself. -/
def reservedMember : String := "$serde_json::private::Number"

mutual

/-- A value that is nested at most `depth` deep, without the reserved member. -/
def Readable : ℕ → Json → Prop
  | _, .null => True
  | _, .bool _ => True
  | _, .number _ => True
  | _, .string _ => True
  | 0, .array _ => False
  | depth + 1, .array values => ReadableValues depth values
  | 0, .object _ => False
  | depth + 1, .object members => ReadableMembers depth members

/-- The values of an array are readable at its depth. -/
def ReadableValues (depth : ℕ) : List Json → Prop
  | [] => True
  | value :: values => Readable depth value ∧ ReadableValues depth values

/-- The members of an object are readable at its depth. -/
def ReadableMembers (depth : ℕ) : List (String × Json) → Prop
  | [] => True
  | member :: members => ReadableMember depth member ∧ ReadableMembers depth members

/-- A member is readable if it does not have the reserved name and its value is readable. -/
def ReadableMember (depth : ℕ) : String × Json → Prop
  | (name, value) => name ≠ reservedMember ∧ Readable depth value

end

/-- **A decoder by the standard**: a value that is written, with whatever escapes, is read back, each
object in the order of its keys. -/
def StandardDecoder (fromSlice : List UInt8 → Option Json) : Prop :=
  ∀ esc, Json.Escaping esc → ∀ value, value.WellFormed → Readable 127 value →
    fromSlice (bytes (String.ofList (value.write esc))) = some value.canonicalize

/-- The reader of this development follows the standard, so the assumption can be met. -/
theorem standardDecoder_readDocument : StandardDecoder readDocument := by
  intro esc hesc value hwell _
  rw [readDocument, fromUtf8_bytes, Option.bind_eq_bind, Option.bind_some, String.toList_ofList,
    Json.read_write hesc hwell, Option.bind_eq_bind, Option.bind_some]
  rfl

/-! ## Fields -/

section

variable (field : ExportField)

/-- The name of a field as a text. -/
def nameText : String := (fromUtf8 field.name).getD ""

/-- The encoding the collector chooses. -/
def encodingOf : String := if (fromUtf8 field.value).isSome then "utf8" else "base64"

/-- The value in this encoding. -/
def valueText : String :=
  (fromUtf8 field.value).getD
    (String.ofList (Base64.encodePadded stdEncoding '=' field.value))

/-- A field is an object with three texts: its name, the encoding and the value in that encoding. -/
theorem json_eq : field.json = .object [("name", .string (nameText field)),
    ("encoding", .string (encodingOf field)), ("value", .string (valueText field))] := by
  rw [ExportField.json, encodingOf, valueText, nameText]
  match fromUtf8 field.value with
  | some text => rfl
  | none => rfl

end

/-- **What a field has to meet**: its name is one, its value is within the limits, and a time is a
number. -/
structure FieldFits (limits : ParserLimits) (field : ExportField) : Prop where
  name : validateExportFieldName field.name = .ok ()
  decoded : field.value.length ≤ limits.maxStringBytes
  encoded : (bytes (valueText field)).length ≤ limits.maxStringBytes
  time : field.name = bytes "__REALTIME_TIMESTAMP" ∨
    field.name = bytes "_SOURCE_REALTIME_TIMESTAMP" → (fromUtf8 field.value).isSome →
      field.value ≠ [] ∧ ∀ b ∈ field.value, isAsciiDigit b

/-- **What an entry has to meet.** -/
structure EntryFits (limits : ParserLimits) (cursor : String) (fields : List ExportField) :
    Prop where
  input : (encodeCanonical cursor fields).length ≤ limits.maxInputBytes
  cursor : (bytes cursor).length ≤ limits.maxStringBytes
  collection : fields.length ≤ limits.maxCollectionLength
  members : 3 + 3 * fields.length ≤ limits.maxFields
  field : ∀ field ∈ fields, FieldFits limits field

/-- An ASCII character is one byte. -/
theorem utf8EncodeChar_ofNat {b : UInt8} (h : b.toNat < 128) :
    String.utf8EncodeChar (Char.ofNat b.toNat) = [b] := by
  have hascii : ∀ n < 128, (Char.ofNat n).toNat = n := by decide
  have hvalid := hascii b.toNat h
  rw [utf8EncodeChar_of_lt (hvalid.symm ▸ h)]
  refine congrArg (· :: []) (UInt8.toNat_inj.1 ?_)
  rw [toNat_toUInt8 (hvalid.symm ▸ h), hvalid]

/-- ASCII bytes are a text. -/
theorem exists_bytes_eq : ∀ {raw : List UInt8}, (∀ b ∈ raw, b.toNat < 128) →
    ∃ text, bytes text = raw
  | [], _ => ⟨"", rfl⟩
  | b :: raw, h => by
      obtain ⟨text, rfl⟩ := exists_bytes_eq fun b hb => h b (List.mem_cons_of_mem _ hb)
      refine ⟨String.singleton (Char.ofNat b.toNat) ++ text, ?_⟩
      rw [bytes_append, bytes_eq_flatMap (String.singleton _), String.toList_singleton,
        List.flatMap_singleton, utf8EncodeChar_ofNat (h b List.mem_cons_self),
        List.singleton_append]

/-- The names of fields are ASCII. -/
theorem toNat_lt_of_isNameByte {b : UInt8} (h : isNameByte b) : b.toNat < 128 := by
  simp only [isNameByte, Bool.or_eq_true, Bool.and_eq_true, beq_iff_eq, decide_eq_true_eq,
    UInt8.le_iff_toNat_le] at h
  obtain (rfl | h) | h := h
  · decide
  · exact Nat.lt_of_le_of_lt h.2 (by decide)
  · exact Nat.lt_of_le_of_lt h.2 (by decide)

/-- **A valid name goes through JSON unchanged**, and what the collector accepts the parser accepts.
-/
theorem bytes_nameText {field : ExportField} (h : validateExportFieldName field.name = .ok ()) :
    bytes (nameText field) = field.name ∧ validJournalFieldName (nameText field) := by
  unfold validateExportFieldName at h
  split_ifs at h with hlength hbytes
  obtain ⟨text, htext⟩ := exists_bytes_eq fun b hb =>
    toNat_lt_of_isNameByte (List.all_eq_true.1 hbytes b hb)
  have hname : nameText field = text := by rw [nameText, ← htext, fromUtf8_bytes, Option.getD_some]
  rw [hname]
  push Not at hlength
  refine ⟨htext, ?_⟩
  have hne : text ≠ "" := fun h => hlength.1 (htext.symm.trans (congrArg bytes h))
  rw [validJournalFieldName, htext, decide_eq_true hne, decide_eq_true hlength.2]
  refine List.all_eq_true.2 fun b hb => ?_
  have hb := List.all_eq_true.1 hbytes b hb
  simp only [isNameByte, isAsciiDigit, Bool.or_eq_true, Bool.and_eq_true] at hb ⊢
  exact hb

/-! ## The document -/

/-- The decoder orders the members of a field by name. -/
theorem toList_ofList_field (encoding name value : Json) :
    (SortedMap.ofList [("name", name), ("encoding", encoding), ("value", value)]).toList =
      [("encoding", encoding), ("name", name), ("value", value)] := by
  have hname : "encoding" < "name" := by decide
  have hfirst : ¬ "value" < "encoding" := by decide
  have hlast : ¬ "value" < "name" := by decide
  simp only [SortedMap.ofList, SortedMap.insert, SortedMap.alter, SortedMap.empty,
    List.foldl_cons, List.foldl_nil, SortedMap.alterList, Option.map_some, Option.toList_some,
    List.singleton_append, if_pos hname, if_neg hfirst, if_neg hlast,
    if_neg (show "value" ≠ "encoding" by decide), if_neg (show "value" ≠ "name" by decide)]

/-- Those of the document are in order as they are written. -/
theorem toList_ofList_root (version cursor fields : Json) :
    (SortedMap.ofList [("cerbero_journald_version", version), ("cursor", cursor),
      ("fields", fields)]).toList =
      [("cerbero_journald_version", version), ("cursor", cursor), ("fields", fields)] := by
  have hcursor : ¬ "cursor" < "cerbero_journald_version" := by decide
  have hfields : ¬ "fields" < "cerbero_journald_version" := by decide
  have hlast : ¬ "fields" < "cursor" := by decide
  simp only [SortedMap.ofList, SortedMap.insert, SortedMap.alter, SortedMap.empty,
    List.foldl_cons, List.foldl_nil, SortedMap.alterList, Option.map_some, Option.toList_some,
    if_neg hcursor, if_neg hfields, if_neg hlast,
    if_neg (show "cursor" ≠ "cerbero_journald_version" by decide),
    if_neg (show "fields" ≠ "cerbero_journald_version" by decide),
    if_neg (show "fields" ≠ "cursor" by decide)]

/-- A field as the decoder returns it. -/
def decodedField (field : ExportField) : Json :=
  .object [("encoding", .string (encodingOf field)), ("name", .string (nameText field)),
    ("value", .string (valueText field))]

/-- The cursor as the decoder returns it. -/
def decodedCursor (cursor : String) : Json := if cursor = "" then .null else .string cursor

/-- The members of the document as the decoder returns it. -/
def decodedRoot (cursor : String) (fields : List ExportField) : List (String × Json) :=
  [("cerbero_journald_version", .ofInt 1), ("cursor", decodedCursor cursor),
    ("fields", .array (fields.map decodedField))]

/-- The fields stay in their order; only the members of each are put in order. -/
theorem canonicalizeValues_json : ∀ fields : List ExportField,
    Json.canonicalizeValues (fields.map ExportField.json) = fields.map decodedField
  | [] => rfl
  | field :: fields => by
      rw [List.map_cons, Json.canonicalizeValues, canonicalizeValues_json fields, List.map_cons,
        json_eq, Json.canonicalize]
      simp only [Json.canonicalizeMembers, Json.canonicalizeMember, Json.canonicalize,
        toList_ofList_field]
      rfl

/-- The document the decoder returns, with its members in order. -/
theorem canonicalize_canonicalEntry (cursor : String) (fields : List ExportField) :
    (canonicalEntry cursor fields).canonicalize = .object (decodedRoot cursor fields) := by
  have hcursor : Json.canonicalize (if cursor = "" then .null else .string cursor) =
      decodedCursor cursor := by
    unfold decodedCursor
    split_ifs
    · rfl
    · rfl
  rw [canonicalEntry, Json.canonicalize]
  simp only [Json.canonicalizeMembers, Json.canonicalizeMember, hcursor, Json.canonicalize,
    canonicalizeValues_json, Json.ofInt, toList_ofList_root, decodedRoot]

/-- What the collector writes is well formed. -/
theorem wellFormed_json (fields : List ExportField) :
    Json.WellFormedValues (fields.map ExportField.json) := by
  induction fields with
  | nil => trivial
  | cons field fields ih =>
    rw [List.map_cons, json_eq]
    exact ⟨⟨trivial, trivial, trivial, trivial⟩, ih⟩

/-- And it is as flat as a reader could ask for. -/
theorem readable_json (depth : ℕ) (fields : List ExportField) :
    ReadableValues (depth + 1) (fields.map ExportField.json) := by
  induction fields with
  | nil => trivial
  | cons field fields ih =>
    rw [List.map_cons, json_eq]
    exact ⟨⟨⟨by decide, trivial⟩, ⟨by decide, trivial⟩, ⟨by decide, trivial⟩, trivial⟩, ih⟩

/-- The document meets what a decoder asks for. -/
theorem wellFormed_canonicalEntry (cursor : String) (fields : List ExportField) :
    (canonicalEntry cursor fields).WellFormed ∧ Readable 127 (canonicalEntry cursor fields) := by
  unfold canonicalEntry
  split_ifs
  · exact ⟨⟨Json.wellFormed_ofInt 1, trivial, wellFormed_json fields, trivial⟩,
      ⟨by decide, trivial⟩, ⟨by decide, trivial⟩, ⟨by decide, readable_json 124 fields⟩, trivial⟩
  · exact ⟨⟨Json.wellFormed_ofInt 1, trivial, wellFormed_json fields, trivial⟩,
      ⟨by decide, trivial⟩, ⟨by decide, trivial⟩, ⟨by decide, readable_json 124 fields⟩, trivial⟩

/-- **The decoder returns the document** the collector has written, for any cursor and any fields.
-/
theorem fromSlice_encodeCanonical {fromSlice : List UInt8 → Option Json}
    (hdecoder : StandardDecoder fromSlice) (cursor : String) (fields : List ExportField) :
    fromSlice (encodeCanonical cursor fields) = some (.object (decodedRoot cursor fields)) := by
  obtain ⟨hwell, hreadable⟩ := wellFormed_canonicalEntry cursor fields
  rw [encodeCanonical, hdecoder _ Json.escaping_html _ hwell hreadable,
    canonicalize_canonicalEntry]

/-! ## Limits -/

section

open Json (nodes nodesOfValues nodesOfMembers nodesOfMember memberTotal)

variable {depth : ℕ}

/-- A field within the limits gives nodes within the limits: an object of three members and three
texts. -/
theorem nodeFits_decodedField {field : ExportField} (hdepth : depth < jsonLimits.maxDepth)
    (h : FieldFits jsonLimits field) :
    ∀ node ∈ nodes depth (decodedField field), NodeFits jsonLimits node := by
  have hname : (bytes (nameText field)).length ≤ jsonLimits.maxStringBytes := by
    obtain ⟨-, hvalid⟩ := bytes_nameText h.name
    simp only [validJournalFieldName, Bool.and_eq_true, decide_eq_true_eq] at hvalid
    exact hvalid.1.2.trans (by decide)
  have hencoding : (bytes (encodingOf field)).length ≤ jsonLimits.maxStringBytes := by
    unfold encodingOf
    split_ifs
    · decide
    · decide
  have hkeys : ∀ member ∈ [("encoding", Json.string (encodingOf field)),
      ("name", .string (nameText field)), ("value", .string (valueText field))],
      (bytes member.1).length ≤ jsonLimits.maxStringBytes := by
    simp only [List.forall_mem_cons]
    exact ⟨by decide, by decide, by decide, List.forall_mem_nil _⟩
  simp only [decodedField, nodes, nodesOfMembers, nodesOfMember, List.singleton_append,
    List.forall_mem_cons]
  exact ⟨⟨hdepth.le, show 3 ≤ 4096 by decide, hkeys⟩, ⟨hdepth, hencoding⟩, ⟨hdepth, hname⟩,
    ⟨hdepth, h.encoded⟩, List.forall_mem_nil _⟩

/-- Three members for each field. -/
theorem memberTotal_decodedFields : ∀ fields : List ExportField,
    memberTotal (nodesOfValues depth (fields.map decodedField)) = 3 * fields.length
  | [] => rfl
  | field :: fields => by
      have hfield : memberTotal (nodes depth (decodedField field)) = 3 := rfl
      rw [List.map_cons, nodesOfValues, Json.memberTotal_append, hfield,
        memberTotal_decodedFields fields, List.length_cons]
      omega

/-- The cursor is null or one text. -/
theorem nodeFits_decodedCursor {cursor : String} (hdepth : depth ≤ jsonLimits.maxDepth)
    (h : (bytes cursor).length ≤ jsonLimits.maxStringBytes) :
    ∀ node ∈ nodes depth (decodedCursor cursor), NodeFits jsonLimits node := by
  unfold decodedCursor
  split_ifs
  · exact List.forall_mem_singleton.2 ⟨hdepth, trivial⟩
  · exact List.forall_mem_singleton.2 ⟨hdepth, h⟩

/-- It has no members. -/
theorem memberTotal_decodedCursor (cursor : String) :
    memberTotal (nodes depth (decodedCursor cursor)) = 0 := by
  unfold decodedCursor
  split_ifs
  · rfl
  · rfl

/-- The nodes of the document: itself, the version, the cursor, the array and what is in it. -/
theorem nodes_decodedRoot (cursor : String) (fields : List ExportField) :
    nodes 0 (.object (decodedRoot cursor fields)) =
      (0, .object (decodedRoot cursor fields)) :: (1, .ofInt 1) :: (nodes 1 (decodedCursor cursor) ++
        (1, .array (fields.map decodedField)) :: nodesOfValues 2 (fields.map decodedField)) := by
  rw [nodes, decodedRoot, nodesOfMembers, nodesOfMembers, nodesOfMembers, nodesOfMembers,
    nodesOfMember, nodesOfMember, nodesOfMember, List.append_nil, nodes]
  rfl

/-- **The document is within the limits.** -/
theorem validateJsonTree_decoded {cursor : String} {fields : List ExportField}
    (h : EntryFits jsonLimits cursor fields) :
    validateJsonTree jsonLimits (.object (decodedRoot cursor fields)) = .ok () := by
  have hmembers := h.members
  have htotal : memberTotal (nodes 0 (.object (decodedRoot cursor fields))) =
      3 + 3 * fields.length := by
    rw [nodes_decodedRoot, Json.memberTotal_cons, Json.memberTotal_cons, Json.memberTotal_append,
      Json.memberTotal_cons, memberTotal_decodedCursor, memberTotal_decodedFields]
    show 3 + (0 + (0 + (0 + 3 * fields.length))) = _
    omega
  refine (validateJsonTree_eq_ok ?_).2 ⟨?_, ?_⟩
  · rw [htotal]
    exact hmembers.trans_lt (by decide)
  · rw [nodes_decodedRoot]
    simp only [List.forall_mem_cons, List.forall_mem_append]
    have hversion : NodeFits jsonLimits (1, .ofInt 1) :=
      ⟨show 1 ≤ 64 by decide, show (bytes (toString (1 : ℤ))).length ≤ 262144 by decide⟩
    refine ⟨⟨show 0 ≤ 64 by decide, show 3 ≤ 4096 by decide, ?_⟩, hversion,
      nodeFits_decodedCursor (by decide) h.cursor, ⟨show 1 ≤ 64 by decide, ?_⟩, ?_⟩
    · simp only [decodedRoot, List.forall_mem_cons]
      exact ⟨by decide, by decide, by decide, List.forall_mem_nil _⟩
    · rw [ValueFits, List.length_map]
      exact h.collection
    · intro node hnode
      obtain ⟨value, hvalue, hnode⟩ := Json.mem_nodesOfValues.1 hnode
      obtain ⟨field, hfield, rfl⟩ := List.mem_map.1 hvalue
      exact nodeFits_decodedField (by decide) (h.field field hfield) node hnode
  · rw [htotal]
    exact hmembers

end

/-! ## The fields that are parsed -/

/-- The bytes of a value that was parsed. -/
def ParsedValue.content : ParsedValue → Option (List UInt8)
  | .string text => some (Text.bytes text)
  | .bytes value => some value
  | _ => none

/-- **An entry that was parsed is a field**: it has its name and its bytes. -/
structure Carries (field : ExportField) (entry : ParsedValue) : Prop where
  name : (entry.get "name" >>= ParsedValue.asStr).map bytes = some field.name
  value : entry.get "value" >>= ParsedValue.content = some field.value

/-- Base64 is decoded to the bytes it was written from. -/
theorem standardDecode_encodePadded (value : List UInt8) :
    standardDecode (String.ofList (Base64.encodePadded stdEncoding '=' value)) = some value := by
  rw [standardDecode, String.toList_ofList,
    Base64.decodePadded_encodePadded stdEncoding (by decide)]

/-- A value is written as it is, or in Base64. -/
theorem encodingOf_cases (field : ExportField) :
    (encodingOf field = "utf8" ∧ bytes (valueText field) = field.value ∧
      (fromUtf8 field.value).isSome) ∨
    encodingOf field = "base64" ∧ standardDecode (valueText field) = some field.value := by
  unfold encodingOf valueText
  match htext : fromUtf8 field.value with
  | some text => exact .inl ⟨rfl, fromUtf8_eq_some.1 htext, rfl⟩
  | none => exact .inr ⟨rfl, standardDecode_encodePadded field.value⟩

/-- A field with a valid name has the shape the parser asks for. -/
theorem journaldField_decodedField {field : ExportField}
    (h : validateExportFieldName field.name = .ok ()) :
    JournaldField (decodedField field) (nameText field) (encodingOf field) (valueText field) where
  members := by
    refine ⟨_, rfl, ?_, rfl, rfl, rfl⟩
    intro member hmember
    simp only [List.mem_cons, List.not_mem_nil, or_false] at hmember
    obtain rfl | rfl | rfl := hmember
    · exact show "encoding" ∈ ["name", "encoding", "value"] by decide
    · exact show "name" ∈ ["name", "encoding", "value"] by decide
    · exact show "value" ∈ ["name", "encoding", "value"] by decide
  name := (bytes_nameText h).2
  decodes := by
    obtain ⟨hutf8, -⟩ | ⟨hbase64, hdecode⟩ := encodingOf_cases field
    · exact .inl hutf8
    · exact .inr ⟨hbase64, by rw [hdecode]; rfl⟩

/-- The value of a field in the encoding the collector chose. -/
theorem exists_decodeJournaldValue {field : ExportField}
    (h : field.value.length ≤ jsonLimits.maxStringBytes) :
    ∃ value, decodeJournaldValue jsonLimits (encodingOf field) (valueText field) = .ok value ∧
      value.content = some field.value := by
  unfold decodeJournaldValue
  obtain ⟨hutf8, hvalue, -⟩ | ⟨hbase64, hdecode⟩ := encodingOf_cases field
  · exact ⟨.string (valueText field), if_pos hutf8, congrArg some hvalue⟩
  · refine ⟨.bytes field.value, ?_, rfl⟩
    rw [hbase64, if_neg (by decide), if_pos rfl, hdecode]
    exact if_neg (Nat.not_lt.2 h)

/-- A time that is a number is taken for one. -/
theorem exists_journaldTimestamp {field : ExportField} (h : FieldFits jsonLimits field) :
    ∃ candidate, journaldTimestamp (nameText field) (encodingOf field) (valueText field) =
      .ok candidate := by
  have hepoch (htime : isJournaldTimestamp (nameText field) (encodingOf field)) :
      isEpochText (valueText field) := by
    simp only [isJournaldTimestamp, Bool.and_eq_true, Bool.or_eq_true, beq_iff_eq] at htime
    obtain ⟨hname, hencoding⟩ := htime
    have hbytes := (bytes_nameText h.name).1
    obtain ⟨-, hvalue, hsome⟩ | ⟨hbase64, -⟩ := encodingOf_cases field
    · obtain ⟨hne, hdigits⟩ := h.time
        (hname.imp (fun h => hbytes.symm.trans (congrArg bytes h))
          fun h => hbytes.symm.trans (congrArg bytes h)) hsome
      have htext : valueText field ≠ "" := fun h => hne (hvalue.symm.trans (congrArg bytes h))
      rw [isEpochText, hvalue, decide_eq_true htext]
      exact List.all_eq_true.2 hdigits
    · exact absurd (hencoding.symm.trans hbase64) (by decide)
  unfold journaldTimestamp
  split_ifs with htime hnumber
  · exact ⟨_, rfl⟩
  · exact absurd (hepoch htime) hnumber
  · exact ⟨_, rfl⟩

/-- **A field is read back** with its name and its bytes, whichever of the two encodings it was
written in. -/
theorem parseJournaldField_decodedField {field : ExportField} (h : FieldFits jsonLimits field) :
    ∃ parsed, parseJournaldField jsonLimits (decodedField field) = .ok parsed ∧
      Carries field parsed.1 := by
  obtain ⟨value, hvalue, hcontent⟩ := exists_decodeJournaldValue h.decoded
  obtain ⟨candidate, hcandidate⟩ := exists_journaldTimestamp h
  rw [parseJournaldField_eq (journaldField_decodedField h.name), hvalue, ok_bind, hcandidate]
  refine ⟨_, rfl, ?_, ?_⟩
  · rw [get_ofEntries]
    exact congrArg some (bytes_nameText h.name).1
  · rw [get_ofEntries]
    exact hcontent

/-- So are all of them, in their order. -/
theorem mapM_decodedField : ∀ {fields : List ExportField},
    (∀ field ∈ fields, FieldFits jsonLimits field) →
    ∃ parsed, (fields.map decodedField).mapM (parseJournaldField jsonLimits) = .ok parsed ∧
      List.Forall₂ Carries fields (parsed.map Prod.fst)
  | [], _ => ⟨[], rfl, .nil⟩
  | field :: fields, h => by
      obtain ⟨first, hfirst, hcarries⟩ := parseJournaldField_decodedField (h field List.mem_cons_self)
      obtain ⟨rest, hrest, hall⟩ := mapM_decodedField fun field hfield =>
        h field (List.mem_cons_of_mem _ hfield)
      refine ⟨first :: rest, ?_, .cons hcarries hall⟩
      rw [List.map_cons, List.mapM_cons, hfirst, ok_bind, hrest]
      rfl

/-- The event of a cursor and fields. -/
def journaldEvent (cursor : String) (parsed : List (ParsedValue × Option TimestampCandidate)) :
    ParsedEvent where
  parserId := journaldCanonicalParserId
  parserVersion := "1"
  sourceEventType := "journald.entry"
  fields := .ofEntries [("cursor", if cursor = "" then .null else .string cursor),
    ("journal_fields", .array (parsed.map Prod.fst))]
  timestampCandidates := parsed.filterMap Prod.snd
  warnings := []
  status := .success
  selection := none

/-- **What the collector writes, the parser reads**: the cursor, null where it is empty, and the
fields one by one, each with its name and its bytes. -/
theorem parseJournald_encodeCanonical {fromSlice : List UInt8 → Option Json}
    (hdecoder : StandardDecoder fromSlice) {cursor : String} {fields : List ExportField}
    (h : EntryFits jsonLimits cursor fields) (persisted : RawEventPersisted)
    (configured : Option String) :
    ∃ parsed entries,
      parseJournald fromSlice ⟨encodeCanonical cursor fields, persisted, configured⟩ =
        .ok parsed ∧
      parsed.fields.get "cursor" = some (if cursor = "" then .null else .string cursor) ∧
      parsed.fields.get "journal_fields" = some (.array entries) ∧
      List.Forall₂ Carries fields entries := by
  obtain ⟨parsed, hparsed, hall⟩ := mapM_decodedField h.field
  have hvalidate := validateJsonTree_decoded h
  have hkeys : ensureJournaldKeys (decodedRoot cursor fields) journaldMembers = .ok () := rfl
  have hversion : (SortedMap.find "cerbero_journald_version" (decodedRoot cursor fields)).bind
      asU64 = some 1 := show asU64 (.ofInt 1) = some 1 by decide
  have hcursor : parseJournaldCursor (SortedMap.find "cursor" (decodedRoot cursor fields)) =
      .ok (if cursor = "" then .null else .string cursor) := by
    show parseJournaldCursor (some (decodedCursor cursor)) = _
    unfold decodedCursor
    split_ifs
    · rfl
    · rfl
  have hfields : (SortedMap.find "fields" (decodedRoot cursor fields)).bind asArray =
      some (fields.map decodedField) := rfl
  have hinput : ensureInputLimit (encodeCanonical cursor fields) jsonLimits = .ok () :=
    if_neg (Nat.not_lt.2 h.input)
  refine ⟨journaldEvent cursor parsed, parsed.map Prod.fst, ?_, ?_, ?_, hall⟩
  · rw [parseJournald, hinput, ok_bind, fromSlice_encodeCanonical hdecoder, Option.elim_some,
      ok_bind, hvalidate, ok_bind, asObject, Option.elim_some, ok_bind, hkeys, ok_bind, hversion,
      Option.elim_some, ok_bind, if_neg (by decide), hcursor, ok_bind, hfields, Option.elim_some,
      ok_bind, hparsed]
    rfl
  · rw [journaldEvent, get_ofEntries]
    rfl
  · rw [journaldEvent, get_ofEntries]
    rfl

/-! ### A sample -/

/-- Two messages, one of them with a byte that is no text, and a time. -/
def sampleFields : List ExportField :=
  [⟨bytes "MESSAGE", bytes "a \"b\" <c>"⟩, ⟨bytes "MESSAGE", [0x61, 0xff]⟩,
    ⟨bytes "__REALTIME_TIMESTAMP", bytes "1789000002000000"⟩]

/-- The sample is within the limits. -/
theorem entryFits_sampleFields : EntryFits jsonLimits "s=1" sampleFields where
  input := by decide +kernel
  cursor := by decide
  collection := by decide
  members := by decide
  field := fun field hfield => by
    have hname : ∀ field ∈ sampleFields, validateExportFieldName field.name = .ok () := by
      decide
    have hdecoded : ∀ field ∈ sampleFields, field.value.length ≤ jsonLimits.maxStringBytes := by
      decide
    have hencoded : ∀ field ∈ sampleFields,
        (bytes (valueText field)).length ≤ jsonLimits.maxStringBytes := by decide
    have htime : ∀ field ∈ sampleFields, field.name = bytes "__REALTIME_TIMESTAMP" ∨
        field.name = bytes "_SOURCE_REALTIME_TIMESTAMP" → (fromUtf8 field.value).isSome →
          field.value ≠ [] ∧ ∀ b ∈ field.value, isAsciiDigit b := by decide
    exact ⟨hname field hfield, hdecoded field hfield, hencoded field hfield, htime field hfield⟩

/-- An entry with a text, a binary value and a time is read back. -/
theorem parseJournald_encodeCanonical_sample : ∃ parsed entries,
    parseJournald readDocument ⟨encodeCanonical "s=1" sampleFields, defaultPersisted, none⟩ =
      .ok parsed ∧
    parsed.fields.get "cursor" = some (if "s=1" = "" then .null else .string "s=1") ∧
    parsed.fields.get "journal_fields" = some (.array entries) ∧
    List.Forall₂ Carries sampleFields entries :=
  parseJournald_encodeCanonical standardDecoder_readDocument entryFits_sampleFields
    defaultPersisted none

end Normalizer

end Cerbero
