import Cerbero.Normalizer.Journald
import Cerbero.Normalizer.SshdLine

/-!
# Normalizer/ProbePromise — a probe that claims what the parser cannot parse

A source-specific parser is to claim only what it can parse.  Both probes look for texts anywhere in
the input, so each claims inputs that its parser then finds malformed; **`keepsPromise_iff`** says
for which inputs the promise is kept.
-/

namespace Cerbero

namespace Normalizer

open Text

/-! ## Results that are not malformed -/

/-- Not the error of an input that is malformed. -/
def NotMalformed {α : Type} (x : Except ParseError α) : Prop :=
  ∀ e, x = .error e → e.code ≠ "CER-PARSE-MALFORMED"

/-- A result is no error. -/
theorem notMalformed_ok {α : Type} (a : α) : NotMalformed (.ok a) := fun _ h => nomatch h

/-- An error keeps the promise if its code is another one. -/
theorem notMalformed_error {α : Type} {e : ParseError} :
    NotMalformed (.error e : Except ParseError α) ↔ e.code ≠ "CER-PARSE-MALFORMED" :=
  ⟨fun h => h e rfl, fun h _ heq => Except.error.inj heq ▸ h⟩

/-- **The rule of sequence**: the first part must keep the promise, and for what it returns the
second one as well. -/
theorem notMalformed_bind {α β : Type} {x : Except ParseError α} {f : α → Except ParseError β} :
    NotMalformed (x >>= f) ↔ NotMalformed x ∧ ∀ a, x = .ok a → NotMalformed (f a) := by
  match x with
  | .ok a =>
    exact ⟨fun h => ⟨notMalformed_ok a, fun _ heq => Except.ok.inj heq ▸ h⟩, fun h => h.2 a rfl⟩
  | .error e =>
    exact ⟨fun h => ⟨notMalformed_error.2 (notMalformed_error.1 h), fun _ heq => nomatch heq⟩,
      fun h => notMalformed_error.2 (notMalformed_error.1 h.1)⟩

/-- A limit is a reason of its own, which a probe does not have to foresee. -/
theorem notMalformed_limitExceeded {α : Type} (message : String) :
    NotMalformed (.error (limitExceeded message) : Except ParseError α) :=
  notMalformed_error.2 (show "CER-PARSE-LIMIT-EXCEEDED" ≠ "CER-PARSE-MALFORMED" by decide)

/-- So is a time that does not read: the input was parsed that far. -/
theorem notMalformed_invalidTimestamp {α : Type} (message : String) :
    NotMalformed (.error (invalidTimestamp message) : Except ParseError α) :=
  notMalformed_error.2 (show "CER-PARSE-INVALID-TIMESTAMP" ≠ "CER-PARSE-MALFORMED" by decide)

/-- What has to be there, or the input is malformed. -/
theorem notMalformed_elim_bind {α β : Type} {o : Option α} {message : String}
    {f : α → Except ParseError β} : NotMalformed (o.elim (.error (malformed message)) .ok >>= f) ↔
      ∃ a, o = some a ∧ NotMalformed (f a) := by
  match o with
  | none => exact iff_of_false (fun h => h _ rfl rfl) fun ⟨_, h, _⟩ => nomatch h
  | some a => exact ⟨fun h => ⟨a, rfl, h⟩, fun ⟨_, heq, h⟩ => Option.some.inj heq ▸ h⟩

/-- What has to hold, or the input is malformed. -/
theorem notMalformed_guard_bind {β : Type} {p : Prop} [Decidable p] {message : String}
    {f : Unit → Except ParseError β} :
    NotMalformed (if p then Except.error (malformed message) >>= f else f ()) ↔
      ¬ p ∧ NotMalformed (f ()) := by
  split_ifs with h
  · exact iff_of_false (fun hm => hm _ rfl rfl) fun hm => hm.1 h
  · exact (and_iff_right h).symm

/-- **A parser keeps the promise of its probe** for an input: what the probe claims is not malformed
to the parser. -/
def KeepsPromise (parser : Parser) (maxInputBytes : ℕ) (input : ParserInput) : Prop :=
  ∀ confidence result, parser.probe input = some confidence → confidence ≠ 0 →
    input.raw.length ≤ maxInputBytes → parser.parse input = some result → NotMalformed result

/-- For a parser without panics the promise is a statement about its two results. -/
theorem keepsPromise_iff_of_eq {parser : Parser} {maxInputBytes confidence : ℕ}
    {input : ParserInput} {result : Except ParseError ParsedEvent}
    (hprobe : parser.probe input = some confidence) (hparse : parser.parse input = some result) :
    KeepsPromise parser maxInputBytes input ↔
      (confidence ≠ 0 → input.raw.length ≤ maxInputBytes → NotMalformed result) := by
  constructor
  · exact fun h hclaims hlimit => h _ _ hprobe hclaims hlimit hparse
  · rintro h c r hc hclaims hlimit hr
    obtain rfl := Option.some.inj (hprobe.symm.trans hc)
    obtain rfl := Option.some.inj (hparse.symm.trans hr)
    exact h hclaims hlimit

/-! ## sshd -/

/-- What the sshd parser can parse, or leaves alone. -/
def SshdPromise (input : ParserInput) : Prop :=
  linuxSshdMaxInputBytes < input.raw.length ∨ ∀ text, fromUtf8 input.raw = some text →
    (failedPasswordMarker <:+: trim text.toList → fromMarker <:+: trim text.toList →
      portMarker <:+: trim text.toList →
        ∃ parts : SshdParts, parts.text = trim text.toList ∧ parts.Valid)

/-- The text parses exactly if it is put together from the parts of a failed login. -/
theorem notMalformed_parseFailedPassword {text : List Char} {version : String}
    {policy : InvalidUserMessagePolicy} : NotMalformed (parseFailedPassword text version policy) ↔
      ∃ parts : SshdParts, parts.text = text ∧ parts.Valid := by
  match h : parseFailedPassword text version policy with
  | .ok parsed =>
    obtain ⟨parts, htext, hvalid, -⟩ := parseFailedPassword_eq_ok.1 h
    exact iff_of_true (notMalformed_ok _) ⟨parts, htext, hvalid⟩
  | .error e =>
    refine iff_of_false (fun hm => hm e rfl (parseFailedPassword_error h)) ?_
    rintro ⟨parts, htext, hvalid⟩
    exact nomatch h.symm.trans (parseFailedPassword_eq_ok.2 ⟨parts, htext, hvalid, rfl⟩)

/-- The probe looks for the three phrases anywhere and in any order, which is what it promises too
much by. -/
theorem probeFailedPassword_ne_zero {raw : List UInt8} : probeFailedPassword raw ≠ 0 ↔
    ∃ text, fromUtf8 raw = some text ∧ failedPasswordMarker <:+: trim text.toList ∧
      fromMarker <:+: trim text.toList ∧ portMarker <:+: trim text.toList := by
  unfold probeFailedPassword
  match fromUtf8 raw with
  | none => exact iff_of_false (fun h => h rfl) fun ⟨_, h, _⟩ => nomatch h
  | some text =>
    simp only [contains, Option.some.injEq, exists_eq_left', ← occurs_iff, Bool.and_eq_true,
      ite_ne_right_iff, and_assoc, ne_eq, Nat.succ_ne_zero, not_false_eq_true, and_true]

/-- **The promise of `linux/sshd`**, kept exactly on the inputs of `SshdPromise`; the version and
the policy of its message play no part. -/
theorem keepsPromise_linuxSshd_iff (version : String) (policy : InvalidUserMessagePolicy)
    (input : ParserInput) :
    KeepsPromise (linuxSshd version policy) linuxSshdMaxInputBytes input ↔ SshdPromise input := by
  rw [keepsPromise_iff_of_eq rfl rfl, probeFailedPassword_ne_zero, SshdPromise]
  constructor
  · intro h
    refine or_iff_not_imp_left.2 fun hlimit text htext hpassword hfrom hport => ?_
    have hparse := h ⟨text, htext, hpassword, hfrom, hport⟩ (Nat.le_of_not_lt hlimit)
    rw [parseLinuxSshd, if_neg hlimit, htext] at hparse
    exact notMalformed_parseFailedPassword.1 hparse
  · rintro h ⟨text, htext, hpassword, hfrom, hport⟩ hlimit
    rw [parseLinuxSshd, if_neg (Nat.not_lt.2 hlimit), htext]
    obtain h | h := h
    · exact absurd hlimit (Nat.not_le.2 h)
    · exact notMalformed_parseFailedPassword.2 (h text htext hpassword hfrom hport)

/-! ## Journald -/

/-- The parts of a field. -/
structure JournaldField (field : Json) (name encoding value : String) : Prop where
  members : ∃ object, asObject field = some object ∧
    (∀ member ∈ object, member.1 ∈ ["name", "encoding", "value"]) ∧
    SortedMap.find "name" object = some (.string name) ∧
    SortedMap.find "encoding" object = some (.string encoding) ∧
    SortedMap.find "value" object = some (.string value)
  name : validJournalFieldName name
  decodes : encoding = "utf8" ∨ encoding = "base64" ∧ (standardDecode value).isSome

/-- A field that is refused for its size or for its time. -/
def FieldRefused (name encoding value : String) : Prop :=
  (encoding = "base64" ∧
    ∃ decoded ∈ standardDecode value, jsonLimits.maxStringBytes < decoded.length) ∨
  isJournaldTimestamp name encoding ∧ isEpochText value = false

/-- Fields with all their parts, up to the first one that is refused. -/
def FieldsShaped : List Json → Prop
  | [] => True
  | field :: fields => ∃ name encoding value, JournaldField field name encoding value ∧
      (FieldRefused name encoding value ∨ FieldsShaped fields)

/-- A document with all its parts, of version 1 or of another one. -/
structure DocumentShaped (root : List (String × Json)) : Prop where
  members : ∀ member ∈ root, member.1 ∈ journaldMembers
  rest : ∃ version, (SortedMap.find "cerbero_journald_version" root).bind asU64 = some version ∧
    (version ≠ 1 ∨
      (∀ cursor ∈ SortedMap.find "cursor" root, cursor = .null ∨ ∃ text, cursor = .string text) ∧
      ∃ fields, (SortedMap.find "fields" root).bind asArray = some fields ∧ FieldsShaped fields)

/-- What the parser of canonical journal entries can parse, or leaves alone. -/
def JournaldPromise (fromSlice : List UInt8 → Option Json) (input : ParserInput) : Prop :=
  jsonLimits.maxInputBytes < input.raw.length ∨ probeJournald input.raw = 0 ∨
    ∃ value, fromSlice input.raw = some value ∧
      ((∃ e, validateJsonTree jsonLimits value = .error e) ∨
        ∃ root, asObject value = some root ∧ DocumentShaped root)

/-- An object with no other members passes. -/
theorem ensureJournaldKeys_of_forall {members : List (String × Json)} {allowed : List String}
    (h : ∀ member ∈ members, member.1 ∈ allowed) : ensureJournaldKeys members allowed = .ok () := by
  have hnone : members.find? (fun member => member.1 ∉ allowed) = none := by
    simpa [List.find?_eq_none] using h
  rw [ensureJournaldKeys, hnone, Option.elim_none]

/-- Another member is malformed; without one the parser goes on. -/
theorem notMalformed_ensureJournaldKeys_bind {β : Type} {members : List (String × Json)}
    {allowed : List String} {f : Unit → Except ParseError β} :
    NotMalformed (ensureJournaldKeys members allowed >>= f) ↔
      (∀ member ∈ members, member.1 ∈ allowed) ∧ NotMalformed (f ()) := by
  by_cases h : ∀ member ∈ members, member.1 ∈ allowed
  · rw [ensureJournaldKeys_of_forall h, ok_bind, and_iff_right h]
  · cases hfind : members.find? fun member => member.1 ∉ allowed with
    | none => exact absurd (by simpa [List.find?_eq_none] using hfind) h
    | some member =>
      refine iff_of_false (fun hm => ?_) fun hm => h hm.1
      rw [ensureJournaldKeys, hfind, Option.elim_some, error_bind] at hm
      exact hm _ rfl rfl

/-- A member that has to be a text has to be there and a text. -/
theorem notMalformed_requiredJsonString_bind {β : Type} {members : List (String × Json)}
    {field : String} {f : String → Except ParseError β} :
    NotMalformed (requiredJsonString members field >>= f) ↔
      ∃ text, SortedMap.find field members = some (.string text) ∧ NotMalformed (f text) := by
  have hstring (text : String) : (SortedMap.find field members).bind asString = some text ↔
      SortedMap.find field members = some (.string text) := by
    match SortedMap.find field members with
    | none => exact iff_of_false (fun h => nomatch h) fun h => nomatch h
    | some (.string _) => simp [asString]
    | some .null | some (.bool _) | some (.number _) | some (.array _) | some (.object _) =>
      simp [asString]
  rw [requiredJsonString, notMalformed_elim_bind]
  exact exists_congr fun text => and_congr_left fun _ => hstring text

/-- The cursor may be missing, null or a text, and what follows does not depend on which. -/
theorem notMalformed_parseJournaldCursor_bind {β : Type} {cursor : Option Json}
    {f : ParsedValue → Except ParseError β} {p : Prop} (hf : ∀ value, NotMalformed (f value) ↔ p) :
    NotMalformed (parseJournaldCursor cursor >>= f) ↔
      (∀ value ∈ cursor, value = .null ∨ ∃ text, value = .string text) ∧ p := by
  match cursor with
  | none => exact (hf _).trans (and_iff_right fun _ h => nomatch h).symm
  | some .null => exact (hf _).trans (and_iff_right fun _ h => .inl (Option.some.inj h).symm).symm
  | some (.string text) =>
    exact (hf _).trans (and_iff_right fun _ h => .inr ⟨text, (Option.some.inj h).symm⟩).symm
  | some (.bool _) | some (.number _) | some (.array _) | some (.object _) =>
    refine iff_of_false (fun hm => hm _ rfl rfl) fun hm => ?_
    obtain h | ⟨_, h⟩ := hm.1 _ rfl
    · exact nomatch h
    · exact nomatch h

/-- Wrapping a result up keeps the promise. -/
theorem notMalformed_bind_pure {α β : Type} {x : Except ParseError α} {g : α → β} :
    NotMalformed (x >>= fun a => pure (g a)) ↔ NotMalformed x :=
  notMalformed_bind.trans (and_iff_left fun a _ => notMalformed_ok (g a))

/-! ### Limits are no malformation -/

section

variable (limits : ParserLimits)

/-- The depth of a tree is a limit. -/
theorem notMalformed_checkDepth (depth count : ℕ) :
    NotMalformed (checkDepth limits depth count) := by
  unfold checkDepth
  split_ifs
  · exact notMalformed_limitExceeded _
  · exact notMalformed_ok _

mutual

/-- **A tree is never malformed for its validator**: all it can report are limits. The induction
goes through the four functions that visit a value, its values, its members and a member. -/
theorem notMalformed_visit (depth : ℕ) : ∀ (value : Json) (count : ℕ),
    NotMalformed (visit limits depth value count)
  | .null, count => notMalformed_checkDepth limits depth count
  | .bool _, count => notMalformed_checkDepth limits depth count
  | .number text, count => by
      refine notMalformed_bind.2 ⟨notMalformed_checkDepth limits depth count, fun count _ => ?_⟩
      split_ifs
      · exact notMalformed_limitExceeded _
      · exact notMalformed_ok _
  | .string text, count => by
      refine notMalformed_bind.2 ⟨notMalformed_checkDepth limits depth count, fun count _ => ?_⟩
      split_ifs
      · exact notMalformed_limitExceeded _
      · exact notMalformed_ok _
  | .array values, count => by
      refine notMalformed_bind.2 ⟨notMalformed_checkDepth limits depth count, fun count _ => ?_⟩
      split_ifs
      · exact notMalformed_limitExceeded _
      · exact notMalformed_visitValues (depth + 1) values count
  | .object members, count => by
      refine notMalformed_bind.2 ⟨notMalformed_checkDepth limits depth count, fun count _ => ?_⟩
      split_ifs
      · exact notMalformed_limitExceeded _
      · exact notMalformed_limitExceeded _
      · exact notMalformed_visitMembers (depth + 1) members (saturatingAdd count members.length)

/-- The values of an array, one after the other. -/
theorem notMalformed_visitValues (depth : ℕ) : ∀ (values : List Json) (count : ℕ),
    NotMalformed (visitValues limits depth values count)
  | [], count => notMalformed_ok count
  | value :: values, count => notMalformed_bind.2 ⟨notMalformed_visit depth value count,
      fun count _ => notMalformed_visitValues depth values count⟩

/-- The members of an object, one after the other. -/
theorem notMalformed_visitMembers (depth : ℕ) : ∀ (members : List (String × Json)) (count : ℕ),
    NotMalformed (visitMembers limits depth members count)
  | [], count => notMalformed_ok count
  | member :: members, count => notMalformed_bind.2 ⟨notMalformed_visitMember depth member count,
      fun count _ => notMalformed_visitMembers depth members count⟩

/-- A name that is too long is a limit as well. -/
theorem notMalformed_visitMember (depth : ℕ) : ∀ (member : String × Json) (count : ℕ),
    NotMalformed (visitMember limits depth member count)
  | (key, value), count => by
      unfold visitMember
      split_ifs
      · exact notMalformed_limitExceeded _
      · exact notMalformed_visit depth value count

end

/-- The same of the whole tree, from depth zero on. -/
theorem notMalformed_validateJsonTree (value : Json) :
    NotMalformed (validateJsonTree limits value) :=
  notMalformed_bind.2 ⟨notMalformed_visit limits 0 value 0, fun _ _ => notMalformed_ok ()⟩

end

/-! ### Fields -/

/-- A value has one of the two encodings, and base64 has to decode; its length after that is a
limit. -/
theorem notMalformed_decodeJournaldValue {encoding value : String} :
    NotMalformed (decodeJournaldValue jsonLimits encoding value) ↔
      encoding = "utf8" ∨ encoding = "base64" ∧ (standardDecode value).isSome := by
  unfold decodeJournaldValue
  split_ifs with hutf8 hbase64
  · exact iff_of_true (notMalformed_ok _) (.inl hutf8)
  · rw [or_iff_right hutf8, and_iff_right hbase64]
    match standardDecode value with
    | none => exact iff_of_false (fun h => h _ rfl rfl) (by decide)
    | some decoded =>
      refine iff_of_true ?_ rfl
      dsimp only
      split_ifs
      · exact notMalformed_limitExceeded _
      · exact notMalformed_ok _
  · exact iff_of_false (fun h => h _ rfl rfl) (not_or.2 ⟨hutf8, fun h => hbase64 h.1⟩)

/-- A field that holds a time is dated or has an invalid time. -/
theorem notMalformed_journaldTimestamp (name encoding value : String) :
    NotMalformed (journaldTimestamp name encoding value) := by
  unfold journaldTimestamp
  split_ifs
  · exact notMalformed_ok _
  · exact notMalformed_invalidTimestamp _
  · exact notMalformed_ok _

/-- A field parses exactly if it has the shape of one. -/
theorem notMalformed_parseJournaldField {field : Json} :
    NotMalformed (parseJournaldField jsonLimits field) ↔
      ∃ name encoding value, JournaldField field name encoding value := by
  rw [parseJournaldField, notMalformed_elim_bind]
  simp only [notMalformed_ensureJournaldKeys_bind, notMalformed_requiredJsonString_bind,
    notMalformed_guard_bind, Bool.not_eq_false]
  have hrest (name encoding value : String) (f : ParsedValue → Option TimestampCandidate →
      ParsedValue × Option TimestampCandidate) : NotMalformed (do
        let parsedValue ← decodeJournaldValue jsonLimits encoding value
        let candidate ← journaldTimestamp name encoding value
        return f parsedValue candidate) ↔
      (encoding = "utf8" ∨ encoding = "base64" ∧ (standardDecode value).isSome) := by
    rw [notMalformed_bind, notMalformed_decodeJournaldValue]
    refine and_iff_left fun parsedValue _ => notMalformed_bind_pure.2 ?_
    exact notMalformed_journaldTimestamp name encoding value
  simp only [hrest]
  constructor
  · rintro ⟨object, hobject, hkeys, name, hname, hvalid, encoding, hencoding, value, hvalue, h⟩
    exact ⟨name, encoding, value, ⟨object, hobject, hkeys, hname, hencoding, hvalue⟩, hvalid, h⟩
  · rintro ⟨name, encoding, value, ⟨object, hobject, hkeys, hname, hencoding, hvalue⟩, hvalid, h⟩
    exact ⟨object, hobject, hkeys, name, hname, hvalid, encoding, hencoding, value, hvalue, h⟩

/-- The parts of a field are its own. -/
theorem JournaldField.unique {field : Json} {name name' encoding encoding' value value' : String}
    (h : JournaldField field name encoding value)
    (h' : JournaldField field name' encoding' value') :
    name = name' ∧ encoding = encoding' ∧ value = value' := by
  obtain ⟨object, hobject, -, hname, hencoding, hvalue⟩ := h.members
  obtain ⟨object', hobject', -, hname', hencoding', hvalue'⟩ := h'.members
  obtain rfl := Option.some.inj (hobject.symm.trans hobject')
  exact ⟨Json.string.inj (Option.some.inj (hname.symm.trans hname')),
    Json.string.inj (Option.some.inj (hencoding.symm.trans hencoding')),
    Json.string.inj (Option.some.inj (hvalue.symm.trans hvalue'))⟩

/-- A field with all its parts is decoded and dated. -/
theorem parseJournaldField_eq {field : Json} {name encoding value : String}
    (h : JournaldField field name encoding value) : parseJournaldField jsonLimits field = (do
      let parsedValue ← decodeJournaldValue jsonLimits encoding value
      let candidate ← journaldTimestamp name encoding value
      return (.ofEntries [("name", .string name), ("encoding", .string encoding),
        ("value", parsedValue)], candidate)) := by
  obtain ⟨object, hobject, hkeys, hname, hencoding, hvalue⟩ := h.members
  have hensure : ensureJournaldKeys object ["name", "encoding", "value"] = .ok () :=
    ensureJournaldKeys_of_forall hkeys
  have hvalid : ¬ validJournalFieldName name = false := by rw [h.name]; decide
  rw [parseJournaldField, hobject, Option.elim_some, ok_bind, hensure, ok_bind]
  simp only [requiredJsonString, hname, hencoding, hvalue, Option.bind_some, asString,
    Option.elim_some, ok_bind, if_neg hvalid]

/-- A field with all its parts is parsed, unless it is refused. -/
theorem parseJournaldField_error_iff {field : Json} {name encoding value : String}
    (h : JournaldField field name encoding value) :
    (∃ e, parseJournaldField jsonLimits field = .error e) ↔ FieldRefused name encoding value := by
  rw [parseJournaldField_eq h, FieldRefused]
  obtain rfl | ⟨rfl, hdecodes⟩ := h.decodes
  · rw [decodeJournaldValue, if_pos rfl, ok_bind, journaldTimestamp, or_iff_right (by simp)]
    split_ifs with htime hepoch
    · exact iff_of_false (fun ⟨_, h⟩ => nomatch h) fun h => nomatch hepoch.symm.trans h.2
    · exact iff_of_true ⟨_, rfl⟩ ⟨htime, Bool.eq_false_iff.2 hepoch⟩
    · exact iff_of_false (fun ⟨_, h⟩ => nomatch h) fun h => htime h.1
  · obtain ⟨decoded, hdecoded⟩ := Option.isSome_iff_exists.1 hdecodes
    have htime : isJournaldTimestamp name "base64" = false := Bool.and_false _
    rw [decodeJournaldValue, if_neg (by decide), if_pos rfl, hdecoded, journaldTimestamp, htime]
    simp only [Option.mem_some_iff, exists_eq_left', true_and, Bool.false_eq_true, false_and,
      or_false, if_false]
    split_ifs with hsize
    · exact iff_of_true ⟨_, rfl⟩ hsize
    · exact iff_of_false (fun ⟨_, h⟩ => nomatch h) hsize

/-- The fields are parsed in order, and the first bad one ends the parse. -/
theorem notMalformed_mapM_parseJournaldField : ∀ fields : List Json,
    NotMalformed (fields.mapM (parseJournaldField jsonLimits)) ↔ FieldsShaped fields
  | [] => iff_of_true (notMalformed_ok _) trivial
  | field :: fields => by
      have ih := notMalformed_mapM_parseJournaldField fields
      rw [List.mapM_cons, notMalformed_bind, notMalformed_parseJournaldField, FieldsShaped]
      simp only [notMalformed_bind_pure, ih]
      constructor
      · rintro ⟨⟨name, encoding, value, hfield⟩, hrest⟩
        refine ⟨name, encoding, value, hfield, ?_⟩
        match h : parseJournaldField jsonLimits field with
        | .error e => exact .inl ((parseJournaldField_error_iff hfield).1 ⟨e, h⟩)
        | .ok parsed => exact .inr (hrest parsed h)
      · rintro ⟨name, encoding, value, hfield, hrefused | hrest⟩
        · refine ⟨⟨name, encoding, value, hfield⟩, fun parsed hok => ?_⟩
          obtain ⟨e, he⟩ := (parseJournaldField_error_iff hfield).2 hrefused
          exact nomatch hok.symm.trans he
        · exact ⟨⟨name, encoding, value, hfield⟩, fun _ _ => hrest⟩

/-! ### The whole document -/

/-- A tree over its limits stops the parser before it looks at the shape. -/
theorem notMalformed_validateJsonTree_bind {β : Type} {value : Json}
    {f : Unit → Except ParseError β} : NotMalformed (validateJsonTree jsonLimits value >>= f) ↔
      (∃ e, validateJsonTree jsonLimits value = .error e) ∨ NotMalformed (f ()) := by
  have hvalidate := notMalformed_validateJsonTree jsonLimits value
  rw [notMalformed_bind, and_iff_right hvalidate]
  match validateJsonTree jsonLimits value with
  | .error e => exact iff_of_true (fun _ h => nomatch h) (.inl ⟨e, rfl⟩)
  | .ok () => exact ⟨fun h => .inr (h () rfl), fun h _ _ => h.resolve_left fun ⟨_, h⟩ => nomatch h⟩

/-- Another version is not supported. -/
theorem notMalformed_version_bind {β : Type} {version : ℕ} {message : String}
    {f : Unit → Except ParseError β} :
    NotMalformed (if version ≠ 1 then
        Except.error (permanent "CER-PARSE-UNSUPPORTED-VERSION" message) >>= f else f ()) ↔
      version ≠ 1 ∨ NotMalformed (f ()) := by
  split_ifs with h
  · refine iff_of_true (notMalformed_error.2 ?_) (.inl h)
    exact show "CER-PARSE-UNSUPPORTED-VERSION" ≠ "CER-PARSE-MALFORMED" by decide
  · exact (or_iff_right h).symm

/-- The document has to decode, and then to exceed a limit or have its shape. -/
theorem notMalformed_parseJournald {fromSlice : List UInt8 → Option Json} {input : ParserInput}
    (hlimit : input.raw.length ≤ jsonLimits.maxInputBytes) :
    NotMalformed (parseJournald fromSlice input) ↔ ∃ value, fromSlice input.raw = some value ∧
      ((∃ e, validateJsonTree jsonLimits value = .error e) ∨
        ∃ root, asObject value = some root ∧ DocumentShaped root) := by
  have hinput : ensureInputLimit input.raw jsonLimits = .ok () := if_neg (Nat.not_lt.2 hlimit)
  rw [parseJournald, hinput, ok_bind, notMalformed_elim_bind]
  refine exists_congr fun value => and_congr_right fun _ => ?_
  rw [notMalformed_validateJsonTree_bind, notMalformed_elim_bind]
  refine or_congr_right (exists_congr fun root => and_congr_right fun _ => ?_)
  simp only [notMalformed_ensureJournaldKeys_bind, notMalformed_elim_bind,
    notMalformed_version_bind]
  have hfields (f : List Json → ParsedValue → List (ParsedValue × Option TimestampCandidate) →
      ParsedEvent) (cursor : ParsedValue) : NotMalformed (do
        let fields ← ((SortedMap.find "fields" root).bind asArray).elim
          (.error (malformed "journald canonical fields must be an array")) .ok
        let parsed ← fields.mapM (parseJournaldField jsonLimits)
        return f fields cursor parsed) ↔
      ∃ fields, (SortedMap.find "fields" root).bind asArray = some fields ∧
        FieldsShaped fields := by
    rw [notMalformed_elim_bind]
    exact exists_congr fun fields => and_congr_right fun _ =>
      notMalformed_bind_pure.trans (notMalformed_mapM_parseJournaldField fields)
  simp only [notMalformed_parseJournaldCursor_bind (hfields fun _ cursor parsed => _)]
  exact ⟨fun h => ⟨h.1, h.2⟩, fun h => ⟨h.members, h.rest⟩⟩

/-- **The promise of the journal parser**, kept exactly on the inputs of `JournaldPromise`. -/
theorem keepsPromise_journald_iff (fromSlice : List UInt8 → Option Json) (input : ParserInput) :
    KeepsPromise (journaldCanonicalParser fromSlice) jsonLimits.maxInputBytes input ↔
      JournaldPromise fromSlice input := by
  rw [keepsPromise_iff_of_eq rfl rfl, JournaldPromise]
  constructor
  · intro h
    refine or_iff_not_imp_left.2 fun hlimit => or_iff_not_imp_left.2 fun hprobe => ?_
    exact (notMalformed_parseJournald (Nat.le_of_not_lt hlimit)).1
      (h hprobe (Nat.le_of_not_lt hlimit))
  · rintro h hprobe hlimit
    obtain h | h | h := h
    · exact absurd hlimit (Nat.not_le.2 h)
    · exact absurd h hprobe
    · exact (notMalformed_parseJournald hlimit).2 h

/-! ## Both parsers -/

/-- **Which inputs the probes promise rightly**: the sshd parser, those whose text lacks a marker or
has them in order with a name, an address and a port between and after them; the parser of
canonical journal entries, those that are not marked or are JSON with all the parts of an entry. -/
theorem keepsPromise_iff (version : String) (policy : InvalidUserMessagePolicy)
    (fromSlice : List UInt8 → Option Json) (input : ParserInput) :
    (KeepsPromise (linuxSshd version policy) linuxSshdMaxInputBytes input ↔ SshdPromise input) ∧
      (KeepsPromise (journaldCanonicalParser fromSlice) jsonLimits.maxInputBytes input ↔
        JournaldPromise fromSlice input) :=
  ⟨keepsPromise_linuxSshd_iff version policy input, keepsPromise_journald_iff fromSlice input⟩

/-! ### Inputs that are claimed and not parsed -/

/-- A syslog message with the markers of sshd in another order. -/
def misleadingSyslog : ParserInput where
  raw := bytes "<13>1 - - - - - - moved from a port 22: Failed password for x"
  persisted := defaultPersisted
  configuredParserId := none

/-- A document that mentions the members of a journal entry. -/
def misleadingJson : ParserInput where
  raw := bytes "\x7b\"note\":[\"cerbero_journald_version\",\"fields\"]\x7d"
  persisted := defaultPersisted
  configuredParserId := none

/-- The code of the error, if any. -/
def errorCode {α : Type} : Except ParseError α → Option String
  | .ok _ => none
  | .error e => some e.code

/-- The code is all the promise looks at. -/
theorem not_notMalformed_of_errorCode {α : Type} {x : Except ParseError α}
    (h : errorCode x = some "CER-PARSE-MALFORMED") : ¬ NotMalformed x := by
  match x with
  | .error e => exact fun hm => hm e rfl (Option.some.inj h)

/-- Both parsers break their promise: on a syslog line with the three phrases out of order, for which
another parser is the right one, and on a JSON document that lists two members of the format as
texts. -/
theorem not_keepsPromise_misleading :
    (¬ KeepsPromise linuxSshdParser linuxSshdMaxInputBytes misleadingSyslog ∧
      probeRfc5424 misleadingSyslog.raw = 95) ∧
    ¬ KeepsPromise (journaldCanonicalParser readDocument) jsonLimits.maxInputBytes misleadingJson ∧
      (readDocument misleadingJson.raw).isSome := by
  have hsyslog : errorCode (parseLinuxSshd misleadingSyslog linuxSshdParserVersion
      .legacyUserLabel) = some "CER-PARSE-MALFORMED" := by decide +kernel
  have hjson : errorCode (parseJournald readDocument misleadingJson) =
      some "CER-PARSE-MALFORMED" := by decide +kernel
  refine ⟨⟨fun h => ?_, by decide +kernel⟩, fun h => ?_, by decide +kernel⟩
  · exact not_notMalformed_of_errorCode hsyslog
      ((keepsPromise_iff_of_eq rfl rfl).1 h (by decide +kernel) (by decide +kernel))
  · exact not_notMalformed_of_errorCode hjson
      ((keepsPromise_iff_of_eq rfl rfl).1 h (by decide +kernel) (by decide +kernel))

end Normalizer

end Cerbero
