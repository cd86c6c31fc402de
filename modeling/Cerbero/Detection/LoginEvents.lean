import Cerbero.Detection.SigmaBursts
import Cerbero.Normalizer.SshdLine
import Cerbero.Normalizer.StoredRow

/-!
# Detection/LoginEvents — a failed login, as a detection rule sees it

The normalizer writes a login into an OCSF event; a rule reads fields of it by their paths.  The
fields of a login's event are what the login says (**`LoginFields`**, `loginFields_of_struct`), and
what a governed registry reads from a line of sshd is the login of that line
(**`loginOf_line`**).
-/

namespace Cerbero

namespace Detection

open Text Normalizer

/-! ## Fields of a document -/

section

variable {ε : Type} {f64Bits : String → Option UInt64} {numberError rootError : ε}

/-- A field of a struct, looked up. -/
theorem lookup_of_mem {field : String} {x : Value} : ∀ {fields : Struct},
    (fields.map Prod.fst).Nodup → (field, x) ∈ fields → fields.lookup field = some x := by
  intro fields
  induction fields with
  | nil =>
    intro _ h
    exact absurd h List.not_mem_nil
  | cons entry fields ih =>
    intro hnodup hmem
    rw [List.map_cons, List.nodup_cons] at hnodup
    obtain rfl | hmem := List.mem_cons.1 hmem
    · exact List.lookup_cons_self
    · have hne : field ≠ entry.1 := by
        rintro rfl
        exact hnodup.1 (List.mem_map.2 ⟨_, hmem, rfl⟩)
      rw [List.lookup_cons, beq_false_of_ne hne]
      exact ih hnodup.2 hmem

/-- **A member of an object is a field of its struct.** -/
theorem exists_lookup_collectFields {members : List (String × Json)} {fields : Struct}
    (h : List.Forall₂ (SortedMap.EntryRel fun v x => jsonToProstValue f64Bits numberError v = .ok x)
      members fields) (hnodup : (members.map Prod.fst).Nodup) {name : String} {value : Json}
    (hmem : (name, value) ∈ members) :
    ∃ x, jsonToProstValue f64Bits numberError value = .ok x ∧
      (collectFields fields).lookup name = some x := by
  have hnames : members.map Prod.fst = fields.map Prod.fst := by
    refine List.forall₂_eq_eq_eq ▸ ?_
    rw [List.forall₂_map_left_iff, List.forall₂_map_right_iff]
    exact h.imp fun _ _ hentry => hentry.1
  obtain ⟨⟨name', x⟩, hentry, hname, hvalue⟩ := (forall₂_mem h).1 _ hmem
  obtain rfl : name = name' := hname
  refine ⟨x, hvalue, lookup_of_mem (SortedMap.nodup_keys _) ?_⟩
  exact (SortedMap.mem_ofList_iff (hnames ▸ hnodup)).2 hentry

/-- A field at the root of a document. -/
theorem resolve_member {members : List (String × Json)} {fields : Struct}
    (h : List.Forall₂ (SortedMap.EntryRel fun v x => jsonToProstValue f64Bits numberError v = .ok x)
      members fields) (hnodup : (members.map Prod.fst).Nodup) {name : String} {value : Json}
    (hmem : (name, value) ∈ members) (hname : name ≠ "") :
    ∃ x, jsonToProstValue f64Bits numberError value = .ok x ∧
      resolveSegments (collectFields fields) [name] = classifyValue x := by
  obtain ⟨x, hx, hlookup⟩ := exists_lookup_collectFields h hnodup hmem
  refine ⟨x, hx, ?_⟩
  rw [resolveSegments, if_neg hname, hlookup]
  rfl

/-- A field of an object that is a field of a document. -/
theorem resolve_inner {members inner : List (String × Json)} {fields : Struct}
    (h : List.Forall₂ (SortedMap.EntryRel fun v x => jsonToProstValue f64Bits numberError v = .ok x)
      members fields) (hnodup : (members.map Prod.fst).Nodup) {outer name : String} {value : Json}
    (houter : (outer, Json.object inner) ∈ members) (hinner : (inner.map Prod.fst).Nodup)
    (hmem : (name, value) ∈ inner) (hne : outer ≠ "") (hname : name ≠ "") :
    ∃ x, jsonToProstValue f64Bits numberError value = .ok x ∧
      resolveSegments (collectFields fields) [outer, name] = classifyValue x := by
  obtain ⟨_, hx, hlookup⟩ := exists_lookup_collectFields h hnodup houter
  rw [jsonToProstValue] at hx
  obtain ⟨innerFields, hfields, hx⟩ := bind_eq_ok.1 hx
  obtain rfl := Except.ok.inj hx
  obtain ⟨y, hy, hresolve⟩ := resolve_member (jsonToProstMembers_eq_ok.1 hfields) hinner hmem hname
  refine ⟨y, hy, ?_⟩
  rw [resolveSegments, if_neg hne, hlookup]
  exact hresolve

end

/-! ## The fields of a login -/

/-- The names at the root of an OCSF event. -/
def ocsfNames : List String :=
  ["activity_id", "activity_name", "auth_protocol", "auth_protocol_id", "category_name",
    "category_uid", "class_name", "class_uid", "is_remote", "message", "metadata", "service",
    "severity", "severity_id", "src_endpoint", "status", "status_detail", "status_id", "time",
    "type_name", "type_uid", "user"]

/-- **What a rule finds in the event of a login.** -/
structure LoginFields (f64Bits : String → Option UInt64) (login : Login)
    (event : NormalizedEvent) : Prop where
  activityName : HasText event "activity_name" "Logon"
  status : HasText event "status" "Failure"
  username : HasText event "user.name" login.username
  sourceIp : HasText event "src_endpoint.ip" login.sourceIp
  time : ∃ bits, f64Bits (toString login.time) = some bits ∧
    fieldState event "time" = .present (.numberValue bits)

theorem jsonToProstValue_string {ε : Type} {f64Bits : String → Option UInt64} {numberError : ε}
    {text : String} {x : Value}
    (h : jsonToProstValue f64Bits numberError (.string text) = .ok x) :
    x = .stringValue text :=
  (Except.ok.inj h).symm

/-- **The event of a login has its fields.** -/
theorem loginFields_of_struct {ε : Type} {f64Bits : String → Option UInt64}
    {numberError rootError : ε} {login : Login} {processedTime : ℤ} {root : Struct}
    (h : prostStructOf f64Bits numberError rootError (ocsfEvent login processedTime) = .ok root)
    {event : NormalizedEvent} (hevent : event.ocsfEvent = some root) :
    LoginFields f64Bits login event := by
  rw [ocsfEvent, prostStructOf] at h
  obtain ⟨fields, hfields, h⟩ := bind_eq_ok.1 h
  obtain rfl := Except.ok.inj h
  have hmembers := jsonToProstMembers_eq_ok.1 hfields
  have hnodup : ocsfNames.Nodup := by decide
  have hstate (field : String) (segments : List String) (hne : field ≠ "")
      (hsegments : (field.toList.splitOn '.').map String.ofList = segments) :
      fieldState event field = resolveSegments (collectFields fields) segments := by
    rw [fieldState, hevent, ← hsegments]
    exact if_neg hne
  constructor
  case activityName =>
    obtain ⟨x, hx, hresolve⟩ := resolve_member hmembers hnodup
      (by simp : ("activity_name", Json.string "Logon") ∈ _) (by decide)
    rw [HasText, hstate _ ["activity_name"] (by decide) (by decide), hresolve, jsonToProstValue_string hx]
    rfl
  case status =>
    obtain ⟨x, hx, hresolve⟩ := resolve_member hmembers hnodup
      (by simp : ("status", Json.string "Failure") ∈ _) (by decide)
    rw [HasText, hstate _ ["status"] (by decide) (by decide), hresolve, jsonToProstValue_string hx]
    rfl
  case username =>
    obtain ⟨x, hx, hresolve⟩ := resolve_inner hmembers hnodup
      (by simp : ("user", Json.object [("name", .string login.username)]) ∈ _)
      (List.nodup_singleton _) List.mem_cons_self (by decide) (by decide)
    rw [HasText, hstate _ ["user", "name"] (by decide) (by decide), hresolve, jsonToProstValue_string hx]
    rfl
  case sourceIp =>
    obtain ⟨x, hx, hresolve⟩ := resolve_inner hmembers hnodup
      (by simp : ("src_endpoint", Json.object [("ip", .string login.sourceIp),
        ("port", .ofInt login.sourcePort)]) ∈ _) (by simp) List.mem_cons_self (by decide) (by decide)
    rw [HasText, hstate _ ["src_endpoint", "ip"] (by decide) (by decide), hresolve, jsonToProstValue_string hx]
    rfl
  case time =>
    obtain ⟨x, hx, hresolve⟩ := resolve_member hmembers hnodup
      (by simp : ("time", Json.ofInt login.time) ∈ _) (by decide)
    rw [Json.ofInt, jsonToProstValue] at hx
    cases hbits : f64Bits (toString login.time) with
    | none =>
      rw [hbits] at hx
      cases hx
    | some bits =>
      rw [hbits] at hx
      obtain rfl := Except.ok.inj hx
      refine ⟨bits, rfl, ?_⟩
      rw [hstate _ ["time"] (by decide) (by decide), hresolve]
      rfl

/-! ## What is read from a line -/

/-- The login that the normalizer reads from a message. -/
def Reads (core : NormalizerCore) (persisted : RawEventPersisted) (raw : List UInt8)
    (login : Login) : Prop :=
  ∃ parsed eventTime status, parse core.parsers ⟨raw, persisted, none⟩ = .ok parsed ∧
    parsed.parserId = linuxSshdParserId ∧
    resolve core.policies persisted parsed = .ok eventTime ∧
    loginOf parsed persisted eventTime = .ok (login, status)

/-- What a registry returns comes from a parser of its own. -/
theorem exists_parser_of_parse {parsers : List Parser} {input : ParserInput} {parsed : ParsedEvent}
    (h : parse parsers input = .ok parsed) : ∃ parser ∈ parsers, ∃ event,
      parser.parse input = some (.ok event) ∧ event.parserId = parser.id ∧
      ∃ trace, parsed = { event with selection := some trace } := by
  obtain ⟨⟨index, trace⟩, -, h⟩ := bind_eq_ok.1 h
  dsimp only at h
  split at h
  · cases h
  · rename_i parser hparser
    split at h
    · cases h
    · rename_i outcome houtcome
      obtain ⟨event, hevent, hchecked⟩ := bind_eq_ok.1 h
      rw [hevent] at houtcome
      split at hchecked
      · cases hchecked
      · rename_i hsame
        push Not at hsame
        exact ⟨parser, List.mem_of_getElem? hparser, event, houtcome, hsame.1, trace,
          (Except.ok.inj hchecked).symm⟩

/-- The one parser of failed logins in a governed registry. -/
theorem eq_linuxSshd_of_mem {formats : FormatParsers} {version : String} {parsers : List Parser}
    (hregistry : withLinuxSshdVersion formats version = .ok parsers) {parser : Parser}
    (hmem : parser ∈ parsers) (hid : parser.id = linuxSshdParserId) :
    ∃ policy, parser = linuxSshd version policy := by
  have hsshd : ∃ policy, parsers = [linuxSshd version policy,
      ⟨journaldCanonical, formats.journald⟩, ⟨syslogRfc5424, formats.rfc5424⟩,
      ⟨syslogRfc3164, formats.rfc3164⟩, ⟨genericJson, formats.json⟩] := by
    rw [withLinuxSshdVersion] at hregistry
    split_ifs at hregistry with hone htwo
    · exact ⟨.legacyUserLabel, hone ▸ (Except.ok.inj hregistry).symm⟩
    · exact ⟨.preserveInvalidUserLabel, htwo ▸ (Except.ok.inj hregistry).symm⟩
    · cases hregistry
  obtain ⟨policy, rfl⟩ := hsshd
  simp only [List.mem_cons, List.not_mem_nil, or_false] at hmem
  obtain rfl | rfl | rfl | rfl | rfl := hmem
  · exact ⟨policy, rfl⟩
  · exact absurd hid (show ¬ journaldCanonicalParserId = linuxSshdParserId by decide)
  · exact absurd hid (show ¬ syslogRfc5424ParserId = linuxSshdParserId by decide)
  · exact absurd hid (show ¬ syslogRfc3164ParserId = linuxSshdParserId by decide)
  · exact absurd hid (show ¬ genericJsonParserId = linuxSshdParserId by decide)

/-- The time of a message: its own, or that of its arrival. -/
def observedTime (persisted : RawEventPersisted) : Option Timestamp :=
  persisted.eventTime <|> persisted.ingestTime

/-- A required text is the text that is there. -/
theorem requiredString_eq_ok {parsed : ParsedEvent} {field text : String} :
    requiredString parsed field = .ok text ↔ parsed.stringField field = some text := by
  unfold requiredString required
  cases parsed.stringField field <;> simp

theorem mappingUnixMillis_eq_ok {timestamp : Timestamp} {millis : ℤ}
    (h : mappingUnixMillis timestamp = .ok millis) : millis = unixMillis timestamp := by
  rw [mappingUnixMillis] at h
  split_ifs at h
  exact (Except.ok.inj h).symm

/-- The time of a login's event is the time that its message brings along. -/
theorem eq_fromPersisted_of_resolve {policies : SourceTimePolicyRegistry} {parsed : ParsedEvent}
    {persisted : RawEventPersisted} {eventTime : EventTimeContext}
    (hid : parsed.parserId = linuxSshdParserId)
    (hresolve : resolve policies persisted parsed = .ok eventTime) :
    eventTime = fromPersisted persisted := by
  have hother : parsed.parserId ≠ syslogRfc3164ParserId := by
    rw [hid]
    decide
  rw [resolve] at hresolve
  split_ifs at hresolve with hsome
  · exact (Except.ok.inj hresolve).symm
  · rw [← Except.ok.inj hresolve, fromPersisted, Option.not_isSome_iff_eq_none.1 hsome]

/-- **The time of a login** is that of its message. -/
theorem exists_observedTime {policies : SourceTimePolicyRegistry} {parsed : ParsedEvent}
    {persisted : RawEventPersisted} {eventTime : EventTimeContext} {time : ℤ}
    {status : NormalizationStatus} {source : String} (hid : parsed.parserId = linuxSshdParserId)
    (hresolve : resolve policies persisted parsed = .ok eventTime)
    (h : timeOf persisted eventTime = .ok (time, status, source)) :
    ∃ observed, observedTime persisted = some observed ∧ time = unixMillis observed := by
  obtain rfl := eq_fromPersisted_of_resolve hid hresolve
  rw [fromPersisted] at h
  rw [observedTime]
  cases hevent : persisted.eventTime with
  | some own =>
    rw [hevent] at h
    obtain ⟨millis, hmillis, h⟩ := bind_eq_ok.1 h
    cases Except.ok.inj h
    exact ⟨own, rfl, mappingUnixMillis_eq_ok hmillis⟩
  | none =>
    rw [hevent] at h
    obtain ⟨ingest, hingest, h⟩ := bind_eq_ok.1 h
    obtain ⟨millis, hmillis, h⟩ := bind_eq_ok.1 h
    cases Except.ok.inj h
    rw [ingestTimeOf] at hingest
    cases hpersisted : persisted.ingestTime with
    | none =>
      rw [hpersisted] at hingest
      cases hingest
    | some own =>
      rw [hpersisted] at hingest
      obtain rfl := Except.ok.inj hingest
      exact ⟨own, rfl, mappingUnixMillis_eq_ok hmillis⟩

/-- **A governed registry reads the login of a line.** -/
theorem loginOf_line {formats : FormatParsers} {version : String} {core : NormalizerCore}
    (hregistry : withLinuxSshdVersion formats version = .ok core.parsers) {failed : FailedLogin}
    (hplain : failed.Unambiguous) {persisted : RawEventPersisted} {login : Login}
    (h : Reads core persisted (bytes failed.line) login) :
    login.username = failed.username ∧ login.sourceIp = failed.sourceIp ∧
      ∃ observed, observedTime persisted = some observed ∧ login.time = unixMillis observed := by
  obtain ⟨parsed, eventTime, status, hparse, hid, hresolve, hlogin⟩ := h
  obtain ⟨parser, hmem, event, hevent, hname, trace, rfl⟩ := exists_parser_of_parse hparse
  obtain ⟨policy, rfl⟩ := eq_linuxSshd_of_mem hregistry hmem (hname.symm.trans hid)
  have hread : failed.ReadAs event := by
    rw [linuxSshd, Option.some_inj, parseLinuxSshd] at hevent
    split_ifs at hevent
    simp only [fromUtf8_bytes, FailedLogin.trim_line] at hevent
    rw [parseFailedPassword_eq_ok.2 ⟨failed.parts, failed.text_parts,
      FailedLogin.valid_parts hplain, rfl⟩] at hevent
    rw [← Except.ok.inj hevent]
    exact FailedLogin.readAs_parts failed version policy
  obtain ⟨username, husername, hlogin⟩ := bind_eq_ok.1 hlogin
  obtain ⟨sourceIp, hsourceIp, hlogin⟩ := bind_eq_ok.1 hlogin
  obtain ⟨_, -, hlogin⟩ := bind_eq_ok.1 hlogin
  obtain ⟨_, -, hlogin⟩ := bind_eq_ok.1 hlogin
  obtain ⟨_, -, hlogin⟩ := bind_eq_ok.1 hlogin
  obtain ⟨⟨time, own, source⟩, htime, hlogin⟩ := bind_eq_ok.1 hlogin
  obtain ⟨_, -, hlogin⟩ := bind_eq_ok.1 hlogin
  obtain ⟨_, -, hlogin⟩ := bind_eq_ok.1 hlogin
  cases Except.ok.inj hlogin
  refine ⟨?_, ?_, exists_observedTime hid hresolve htime⟩
  · exact Option.some.inj ((requiredString_eq_ok.1 husername).symm.trans hread.username)
  · exact Option.some.inj ((requiredString_eq_ok.1 hsourceIp).symm.trans hread.sourceIp)

end Detection

end Cerbero
