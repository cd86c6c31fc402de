import Mathlib.Data.List.DropRight
import Cerbero.Normalizer.DeadLetter
import Cerbero.Search.Cursor
import Cerbero.Worker.ReplayBudget

/-!
# Worker/Lineage — a dead letter of a replay has the lineage of the first

A dead letter leaves the normalizer as JSON (`serde_json`), the worker reads it (`encoding/json`),
and the message it publishes comes back to the normalizer with its lineage in headers.  When this
message fails again, the worker finds in the new dead letter the root, the lifecycle and the source
of the first one (**`lineage_of_chain`**).
-/

namespace Cerbero

open Json Text

namespace Normalizer

/-! ## The JSON of a dead letter -/

/-- A value that may be absent. -/
def optionalJson {α : Type} (json : α → Json) (value : Option α) : Json := (value.map json).getD .null

/-- `serde::Serialize`, in the order of the fields. -/
def NormalizationDeadLetter.json (letter : NormalizationDeadLetter) : Json :=
  .object [("schema_version", .string letter.schemaVersion),
    ("dlq_record_id", .string letter.dlqRecordId),
    ("original_message_id", optionalJson .string letter.originalMessageId),
    ("original_subject", .string letter.originalSubject),
    ("original_payload_sha256", .string letter.originalPayloadSha256),
    ("consumer", .string letter.consumer),
    ("attempt_count", ofInt letter.attemptCount),
    ("stream_sequence", optionalJson (fun n : ℕ => ofInt n) letter.streamSequence),
    ("consumer_sequence", optionalJson (fun n : ℕ => ofInt n) letter.consumerSequence),
    ("error_code", .string letter.errorCode),
    ("error_category", .string letter.errorCategory),
    ("failure_stage", .string letter.failureStage),
    ("error_message", .string letter.errorMessage),
    ("retryable", .bool letter.retryable),
    ("first_failure_unix_ms", ofInt letter.firstFailureUnixMs),
    ("last_failure_unix_ms", ofInt letter.lastFailureUnixMs),
    ("tenant_id", optionalJson .string letter.tenantId),
    ("raw_event_id", optionalJson .string letter.rawEventId),
    ("parser_id", optionalJson .string letter.parserId),
    ("parser_version", optionalJson .string letter.parserVersion),
    ("request_id", optionalJson .string letter.requestId),
    ("trace_id", optionalJson .string letter.traceId),
    ("correlation_id", optionalJson .string letter.correlationId),
    ("replay_root_dlq_record_id", optionalJson .string letter.replayRootDlqRecordId),
    ("replay_attempt", optionalJson (fun n : ℕ => ofInt n) letter.replayAttempt)]

/-- `serde_json::to_vec`: control characters and quotation marks are escaped, nothing else. -/
def NormalizationDeadLetter.toVec (letter : NormalizationDeadLetter) : List UInt8 :=
  bytes (String.ofList (write (escapeAlso fun _ => false) letter.json))

theorem escaping_serde : Escaping (escapeAlso fun _ => false) :=
  escaping_escapeAlso fun _ h => nomatch h

theorem wellFormed_optionalJson {α : Type} {json : α → Json} (h : ∀ a, WellFormed (json a))
    (value : Option α) : WellFormed (optionalJson json value) := by
  match value with
  | none => exact trivial
  | some a => exact h a

theorem wellFormed_deadLetter (letter : NormalizationDeadLetter) : WellFormed letter.json := by
  have htext : ∀ value : Option String, WellFormed (optionalJson .string value) :=
    wellFormed_optionalJson fun _ => trivial
  have hnumber : ∀ value : Option ℕ, WellFormed (optionalJson (fun n : ℕ => ofInt n) value) :=
    wellFormed_optionalJson fun _ => wellFormed_ofInt _
  simp only [NormalizationDeadLetter.json, WellFormed, WellFormedMembers, WellFormedMember,
    wellFormed_ofInt, htext, hnumber, and_self]

end Normalizer

namespace Worker

/-! ## Reading it -/

/-- A `*string`. -/
def decodeText : Json → Option (Option String)
  | .null => some none
  | .string text => some (some text)
  | _ => none

/-- A `*uint64`. -/
def decodeSequence : Json → Option (Option UInt64)
  | .null => some none
  | .number text =>
    match wholeNumber text with
    | some n => if 0 ≤ n ∧ n < 2 ^ 64 then some (some (UInt64.ofNat n.toNat)) else none
    | none => none
  | _ => none

/-- A `string`; `null` leaves it alone. -/
def decodeString (current : String) : Json → Option String
  | .null => some current
  | .string text => some text
  | _ => none

/-- A `bool`; `null` leaves it alone. -/
def decodeBool (current : Bool) : Json → Option Bool
  | .null => some current
  | .bool flag => some flag
  | _ => none

/-- One member of a dead letter.  Other names are passed over. -/
def decodeMember (letter : NormalizationDeadLetter) :
    String × Json → Option NormalizationDeadLetter
  | (name, value) =>
    if Search.fieldNamed "schema_version" name then
      (decodeString letter.schemaVersion value).map fun text => { letter with schemaVersion := text }
    else if Search.fieldNamed "dlq_record_id" name then
      (decodeString letter.dlqRecordId value).map fun text => { letter with dlqRecordId := text }
    else if Search.fieldNamed "original_message_id" name then
      (decodeText value).map fun text => { letter with originalMessageId := text }
    else if Search.fieldNamed "original_subject" name then
      (decodeString letter.originalSubject value).map fun text =>
        { letter with originalSubject := text }
    else if Search.fieldNamed "original_payload_sha256" name then
      (decodeString letter.originalPayloadSha256 value).map fun text =>
        { letter with originalPayloadSha256 := text }
    else if Search.fieldNamed "retryable" name then
      (decodeBool letter.retryable value).map fun flag => { letter with retryable := flag }
    else if Search.fieldNamed "stream_sequence" name then
      (decodeSequence value).map fun sequence => { letter with streamSequence := sequence }
    else if Search.fieldNamed "replay_root_dlq_record_id" name then
      (decodeText value).map fun text => { letter with replayRootDlqRecordId := text }
    else some letter

def decodeMembers : NormalizationDeadLetter → List (String × Json) →
    Option NormalizationDeadLetter
  | letter, [] => some letter
  | letter, member :: members => do
    let letter ← decodeMember letter member
    decodeMembers letter members

/-- A dead letter before anything is read. -/
def zeroLetter : NormalizationDeadLetter := ⟨"", "", none, "", "", false, none, none⟩

/-- The value of a dead letter. -/
def decodeLetter : Json → Option NormalizationDeadLetter
  | .null => some zeroLetter
  | .object members => decodeMembers zeroLetter members
  | _ => none

/-- `json.Unmarshal`. -/
def unmarshal (data : List UInt8) : Option NormalizationDeadLetter := do
  let text ← fromUtf8 data
  let value ← read text.toList
  decodeLetter value

/-! ## What the worker reads -/

/-- The fields the worker reads of a dead letter. -/
def received (letter : Normalizer.NormalizationDeadLetter) : NormalizationDeadLetter where
  schemaVersion := letter.schemaVersion
  dlqRecordId := letter.dlqRecordId
  originalMessageId := letter.originalMessageId
  originalSubject := letter.originalSubject
  originalPayloadSha256 := letter.originalPayloadSha256
  retryable := letter.retryable
  streamSequence := letter.streamSequence.map UInt64.ofNat
  replayRootDlqRecordId := letter.replayRootDlqRecordId

theorem decodeText_optionalJson (value : Option String) :
    decodeText (Normalizer.optionalJson .string value) = some value := by
  match value with
  | none => rfl
  | some _ => rfl

theorem decodeSequence_optionalJson {value : Option ℕ} (h : ∀ n ∈ value, n < 2 ^ 64) :
    decodeSequence (Normalizer.optionalJson (fun n : ℕ => ofInt n) value) =
      some (value.map UInt64.ofNat) := by
  match value with
  | none => rfl
  | some n =>
    have hn : n < 2 ^ 64 := h n rfl
    simp only [Normalizer.optionalJson, Option.map_some, Option.getD_some, ofInt, decodeSequence,
      wholeNumber_toString]
    rw [if_pos (by omega), Int.toNat_natCast]

/-- The names the worker looks for. -/
def knownNames : List String :=
  ["schema_version", "dlq_record_id", "original_message_id", "original_subject",
    "original_payload_sha256", "retryable", "stream_sequence", "replay_root_dlq_record_id"]

/-- The names the normalizer writes. -/
def writtenNames : List String :=
  ["schema_version", "dlq_record_id", "original_message_id", "original_subject",
    "original_payload_sha256", "consumer", "attempt_count", "stream_sequence", "consumer_sequence",
    "error_code", "error_category", "failure_stage", "error_message", "retryable",
    "first_failure_unix_ms", "last_failure_unix_ms", "tenant_id", "raw_event_id", "parser_id",
    "parser_version", "request_id", "trace_id", "correlation_id", "replay_root_dlq_record_id",
    "replay_attempt"]

/-- No name the normalizer writes is taken for another one. -/
theorem fieldNamed_eq {field name : String} (hfield : field ∈ knownNames)
    (hname : name ∈ writtenNames) : Search.fieldNamed field name = decide (name = field) := by
  have hall : ∀ field ∈ knownNames, ∀ name ∈ writtenNames,
      Search.fieldNamed field name = decide (name = field) := by decide +kernel
  exact hall field hfield name hname

/-- One member, by its exact name. -/
def exactMember (letter : NormalizationDeadLetter) (name : String) (value : Json) :
    Option NormalizationDeadLetter :=
  if name = "schema_version" then
    (decodeString letter.schemaVersion value).map fun text => { letter with schemaVersion := text }
  else if name = "dlq_record_id" then
    (decodeString letter.dlqRecordId value).map fun text => { letter with dlqRecordId := text }
  else if name = "original_message_id" then
    (decodeText value).map fun text => { letter with originalMessageId := text }
  else if name = "original_subject" then
    (decodeString letter.originalSubject value).map fun text =>
      { letter with originalSubject := text }
  else if name = "original_payload_sha256" then
    (decodeString letter.originalPayloadSha256 value).map fun text =>
      { letter with originalPayloadSha256 := text }
  else if name = "retryable" then
    (decodeBool letter.retryable value).map fun flag => { letter with retryable := flag }
  else if name = "stream_sequence" then
    (decodeSequence value).map fun sequence => { letter with streamSequence := sequence }
  else if name = "replay_root_dlq_record_id" then
    (decodeText value).map fun text => { letter with replayRootDlqRecordId := text }
  else some letter

theorem decodeMember_eq (letter : NormalizationDeadLetter) {name : String}
    (hname : name ∈ writtenNames) (value : Json) :
    decodeMember letter (name, value) = exactMember letter name value := by
  have hfield : ∀ field ∈ knownNames, Search.fieldNamed field name = decide (name = field) :=
    fun field hfield => fieldNamed_eq hfield hname
  simp only [knownNames, List.forall_mem_cons] at hfield
  obtain ⟨h1, h2, h3, h4, h5, h6, h7, h8, -⟩ := hfield
  simp only [decodeMember, exactMember, h1, h2, h3, h4, h5, h6, h7, h8, decide_eq_true_eq]

theorem decodeMembers_eq : ∀ (members : List (String × Json)) (letter : NormalizationDeadLetter),
    (∀ name ∈ members.map Prod.fst, name ∈ writtenNames) →
      decodeMembers letter members =
        members.foldlM (fun letter member => exactMember letter member.1 member.2) letter
  | [], _, _ => rfl
  | (name, value) :: members, letter, h => by
      have hrest : ∀ name ∈ members.map Prod.fst, name ∈ writtenNames :=
        fun name hname => h name (List.mem_cons_of_mem _ hname)
      simp only [decodeMembers, List.foldlM_cons, decodeMember_eq letter (h name List.mem_cons_self),
        decodeMembers_eq members _ hrest]

theorem decodeLetter_json {letter : Normalizer.NormalizationDeadLetter}
    (h : ∀ n ∈ letter.streamSequence, n < 2 ^ 64) :
    decodeLetter letter.json = some (received letter) := by
  refine (decodeMembers_eq _ _ ?_).trans ?_
  · simp only [List.map_cons, List.map_nil, writtenNames, imp_self, implies_true]
  simp only [List.foldlM_cons, List.foldlM_nil, exactMember, String.reduceEq, if_true, if_false,
    decodeString, decodeBool, Option.map_some, Option.bind_eq_bind, Option.bind_some,
    decodeText_optionalJson, decodeSequence_optionalJson h]
  rfl

/-- **The worker reads what the normalizer wrote.** -/
theorem unmarshal_toVec {letter : Normalizer.NormalizationDeadLetter}
    (h : ∀ n ∈ letter.streamSequence, n < 2 ^ 64) :
    unmarshal letter.toVec = some (received letter) := by
  have hread := read_write Normalizer.escaping_serde (Normalizer.wellFormed_deadLetter letter)
  rw [unmarshal, Normalizer.NormalizationDeadLetter.toVec, fromUtf8_bytes, Option.bind_eq_bind,
    Option.bind_some, String.toList_ofList, hread, Option.bind_eq_bind, Option.bind_some,
    decodeLetter_json h]

/-! ## Decisions -/

theorem dropWhile_rdropWhile {α : Type} (p : α → Bool) (l : List α) :
    ((l.dropWhile p).rdropWhile p).dropWhile p = (l.dropWhile p).rdropWhile p := by
  rw [List.dropWhile_eq_self_iff]
  intro hl
  rw [(List.rdropWhile_prefix p (l.dropWhile p)).getElem hl]
  exact List.dropWhile_get_zero_not p l _

theorem trim_trim (text : List Char) : trim (trim text) = trim text := by
  change ((((text.dropWhile isWhitespace).rdropWhile isWhitespace).dropWhile
    isWhitespace).rdropWhile isWhitespace) = _
  rw [dropWhile_rdropWhile]
  exact List.rdropWhile_idempotent _ _

theorem trim_ne_nil {text : String} (h : isBlank text = false) : trim text.toList ≠ [] := by
  intro hnil
  have hall : ∀ ch ∈ text.toList.dropWhile isWhitespace, isWhitespace ch :=
    List.rdropWhile_eq_nil_iff.1 hnil
  have hdrop : text.toList.dropWhile isWhitespace = [] := by
    rw [← List.dropWhile_idempotent]
    exact List.dropWhile_eq_nil_iff.2 hall
  rw [isBlank, List.all_eq_true.2 (List.dropWhile_eq_nil_iff.1 hdrop)] at h
  exact nomatch h

/-- A root is trimmed, and not empty. -/
theorem trimmed_replayRoot {letter : NormalizationDeadLetter} {root : String}
    (hid : isBlank letter.dlqRecordId = false) (h : replayRoot letter = some root) :
    trimSpace root = root ∧ root ≠ "" := by
  have htrim : ∀ text : String, trimSpace (trimSpace text) = trimSpace text := by
    intro text
    rw [trimSpace, trimSpace, String.toList_ofList, trim_trim]
  unfold replayRoot at h
  split at h
  · obtain rfl := Option.some.inj h
    refine ⟨htrim _, fun hempty => trim_ne_nil hid ?_⟩
    rw [← String.toList_ofList (l := trim letter.dlqRecordId.toList)]
    exact congrArg String.toList hempty
  · split at h
    · cases h
    · rename_i hne
      obtain rfl := Option.some.inj h
      exact ⟨htrim _, hne⟩

/-- What an eligible dead letter is. -/
structure Replayable (letter : NormalizationDeadLetter) (sequence : UInt64) (root : String) : Prop
    where
  schemaVersion : letter.schemaVersion = normalizationDlqSchema
  dlqRecordId : isBlank letter.dlqRecordId = false
  digest : isLowerHexSha256 letter.originalPayloadSha256
  originalSubject : letter.originalSubject = rawPersistedSubject
  streamSequence : letter.streamSequence = some sequence
  sequence_ne : sequence ≠ 0
  root_eq : replayRoot letter = some root

/-- The decision about such a dead letter. -/
theorem Replayable.evaluate {letter : NormalizationDeadLetter} {sequence : UInt64} {root : String}
    (h : Replayable letter sequence root) {policy : ReplayPolicy}
    (hpolicy : policy.maxAutomaticAttempts ≠ 0) :
    evaluateNormalizationReplay letter policy =
      { maxAttempts := policy.maxAutomaticAttempts
        sourceDlqRecordId := letter.dlqRecordId
        lifecycleKey := replayLifecycleKey root
        replayRootDlqRecordId := root
        sourceStreamSequence := sequence
        sourcePayloadSha256 := letter.originalPayloadSha256
        eligible := letter.retryable
        reason := if letter.retryable then .eligible else .permanentFailure } := by
  have hvalid : ¬ (letter.schemaVersion ≠ normalizationDlqSchema ∨ isBlank letter.dlqRecordId ∨
      isLowerHexSha256 letter.originalPayloadSha256 = false) := by
    simp [h.schemaVersion, h.dlqRecordId, h.digest]
  unfold evaluateNormalizationReplay
  simp only [if_neg hpolicy, if_neg hvalid, h.originalSubject, ne_eq, not_true_eq_false, if_false,
    h.streamSequence, h.sequence_ne, h.root_eq]

/-- An eligible dead letter is one of them. -/
theorem replayable_of_eligible {letter : NormalizationDeadLetter} {policy : ReplayPolicy}
    (h : (evaluateNormalizationReplay letter policy).eligible) :
    policy.maxAutomaticAttempts ≠ 0 ∧ ∃ sequence root, Replayable letter sequence root := by
  unfold evaluateNormalizationReplay at h
  dsimp only at h
  split at h
  · exact nomatch h
  rename_i hpolicy
  split at h
  · exact nomatch h
  rename_i hvalid
  split at h
  · exact nomatch h
  rename_i hsubject
  split at h
  · exact nomatch h
  rename_i sequence hsequence
  split at h
  · exact nomatch h
  rename_i hpositive
  split at h
  · exact nomatch h
  rename_i root hroot
  push Not at hvalid hsubject
  exact ⟨hpolicy, sequence, root, hvalid.1, by simpa using hvalid.2.1, by simpa using hvalid.2.2,
    hsubject, hsequence, hpositive, hroot⟩

/-! ## The headers of a replay -/

/-- The message as the normalizer gets it; the stream gives it a sequence of its own. -/
def ReplayMessage.delivered (message : ReplayMessage) (streamSequence : Option ℕ) :
    Normalizer.RawMessage where
  subject := "cerbero.v1.raw.replay"
  payload := message.data
  streamSequence := streamSequence
  requestId := message.requestId
  replayRoot := some message.replayRootDlqRecordId
  replayAttempt := some message.attempt
  replaySource := some message.sourceStreamSequence

/-- A number in a header is read back. -/
theorem positiveHeader_toString {largest n : ℕ} (hpos : 0 < n) (hle : n ≤ largest) :
    Normalizer.positiveHeader largest (some (toString n)) = some n := by
  have hdigits : (toString n).toList = Nat.toDigits 10 n := Nat.toList_repr
  have hparse := parseUnsigned_toDigits hle
  rw [Normalizer.positiveHeader, Option.bind_some, hdigits, hparse]
  exact Option.filter_some_pos (by simpa using hpos)

/-- A message that is built: the decision was to replay, its headers have the lineage. -/
theorem lineage_of_build {sha256LowerHex : List UInt8 → String} {source : RawMessage}
    {decision : ReplayDecision} {reservation : Reservation} {message : ReplayMessage}
    (h : buildSelectiveReplayMessage sha256LowerHex source decision reservation = .ok message) :
    decision.eligible ∧ message.replayRootDlqRecordId = decision.replayRootDlqRecordId ∧
      message.sourceStreamSequence = toString decision.sourceStreamSequence.toNat ∧
      sha256LowerHex message.data = decision.sourcePayloadSha256 ∧
      ∃ attempt : UInt32, attempt ≠ 0 ∧ message.attempt = toString attempt.toNat := by
  unfold buildSelectiveReplayMessage at h
  obtain ⟨heligible, h⟩ := guard_eq_ok.1 h
  obtain ⟨-, h⟩ := guard_eq_ok.1 h
  obtain ⟨-, h⟩ := guard_eq_ok.1 h
  obtain ⟨hattempt, h⟩ := guard_eq_ok.1 h
  obtain ⟨hsource, h⟩ := check_bind_eq_ok.1 h
  obtain rfl := Except.ok.inj h
  unfold validateReplaySource at hsource
  split_ifs at hsource with _ _ hdigest
  exact ⟨by simpa using heligible, rfl, rfl, not_not.1 hdigest, reservation.attempt,
    fun hzero => hattempt (.inl hzero), rfl⟩

/-! ## Chains of replays -/

section

variable (lib : Normalizer.Libraries) (codecs : Normalizer.Codecs)

/-- **A replay that fails**: the worker replays `letter`, the normalizer fails on the message and
makes a dead letter of it, and the worker reads `letter'`. -/
inductive Hop (letter letter' : NormalizationDeadLetter) : Prop
  | intro (policy : ReplayPolicy) (reservation : Reservation) (source : RawMessage)
      (message : ReplayMessage) (streamSequence consumerSequence : Option ℕ) (consumer : String)
      (failure : Normalizer.DeadLetterFailure) (parserIdentity : Option (String × String))
      (dlqRecordId : String) (hid : validateUuidV7 "dlq_record_id" dlqRecordId = .ok ())
      (hmessage : buildSelectiveReplayMessage lib.sha256LowerHex source
        (evaluateNormalizationReplay letter policy) reservation = .ok message)
      (hletter : unmarshal (Normalizer.deadLetterOf lib codecs (message.delivered streamSequence)
        consumer failure parserIdentity consumerSequence dlqRecordId).toVec = some letter')

variable {lib codecs}

/-- The dead letter of a replay, as the worker reads it. -/
theorem replayable_deadLetter {letter : NormalizationDeadLetter} {sequence : UInt64} {root : String}
    (h : Replayable letter sequence root) {message : ReplayMessage}
    (hroot : message.replayRootDlqRecordId = root)
    (hsequence : message.sourceStreamSequence = toString sequence.toNat)
    (hdigest : lib.sha256LowerHex message.data = letter.originalPayloadSha256)
    (hattempt : ∃ attempt : UInt32, attempt ≠ 0 ∧ message.attempt = toString attempt.toNat)
    (streamSequence consumerSequence : Option ℕ) (consumer : String)
    (failure : Normalizer.DeadLetterFailure) (parserIdentity : Option (String × String))
    {dlqRecordId : String} (hid : isBlank dlqRecordId = false) :
    ∃ letter', unmarshal (Normalizer.deadLetterOf lib codecs (message.delivered streamSequence)
        consumer failure parserIdentity consumerSequence dlqRecordId).toVec = some letter' ∧
      Replayable letter' sequence root ∧
      letter'.originalPayloadSha256 = letter.originalPayloadSha256 ∧
      letter'.retryable = failure.retryable := by
  obtain ⟨attempt, hpositive, hattempt⟩ := hattempt
  obtain ⟨htrimmed, hne⟩ := trimmed_replayRoot h.dlqRecordId h.root_eq
  have hsource : Normalizer.positiveHeader 18446744073709551615
      (some message.sourceStreamSequence) = some sequence.toNat := by
    rw [hsequence]
    refine positiveHeader_toString ?_ (Nat.le_of_lt_succ sequence.toNat_lt)
    exact Nat.pos_of_ne_zero fun hzero => h.sequence_ne (UInt64.toNat_inj.1 hzero)
  have hheader : Normalizer.positiveHeader 4294967295 (some message.attempt) =
      some attempt.toNat := by
    rw [hattempt]
    refine positiveHeader_toString ?_ (Nat.le_of_lt_succ attempt.toNat_lt)
    exact Nat.pos_of_ne_zero fun hzero => hpositive (UInt32.toNat_inj.1 hzero)
  have hnonEmpty : Normalizer.nonEmpty message.replayRootDlqRecordId = some root := by
    rw [hroot, Normalizer.nonEmpty, if_neg hne]
  -- none of the fallbacks of `dlq_source_identity` is taken
  have hidentity : Normalizer.dlqSourceIdentity "cerbero.v1.raw.replay" streamSequence (some root)
      (some attempt.toNat) (some sequence.toNat) =
        ("cerbero.v1.raw.persisted", some sequence.toNat) := if_pos ⟨rfl, rfl, rfl, rfl⟩
  generalize hnew : Normalizer.deadLetterOf lib codecs (message.delivered streamSequence) consumer
    failure parserIdentity consumerSequence dlqRecordId = new
  have hsubject : new.originalSubject = rawPersistedSubject := by
    simp only [← hnew, Normalizer.deadLetterOf, ReplayMessage.delivered, Option.bind_some,
      hnonEmpty, hheader, hsource, hidentity, rawPersistedSubject]
  have hstream : new.streamSequence = some sequence.toNat := by
    simp only [← hnew, Normalizer.deadLetterOf, ReplayMessage.delivered, Option.bind_some,
      hnonEmpty, hheader, hsource, hidentity]
  have hnewRoot : new.replayRootDlqRecordId = some root := by
    simp only [← hnew, Normalizer.deadLetterOf, ReplayMessage.delivered, Option.bind_some,
      hnonEmpty]
  have hnewDigest : new.originalPayloadSha256 = letter.originalPayloadSha256 := hnew ▸ hdigest
  have hfits : ∀ n ∈ new.streamSequence, n < 2 ^ 64 := by
    rw [hstream]
    rintro _ ⟨⟩
    exact sequence.toNat_lt
  refine ⟨received new, unmarshal_toVec hfits, ?_, hnewDigest, hnew ▸ rfl⟩
  exact
    { schemaVersion := hnew ▸ rfl
      dlqRecordId := hnew ▸ hid
      digest := by
        rw [received, hnewDigest]
        exact h.digest
      originalSubject := hsubject
      streamSequence := by
        rw [received, hstream, Option.map_some, UInt64.ofNat_toNat]
      sequence_ne := h.sequence_ne
      root_eq := by
        rw [received, replayRoot, hnewRoot]
        simp only [htrimmed, hne, if_false] }

/-- **One more replay** keeps the lineage. -/
theorem Hop.replayable {letter letter' : NormalizationDeadLetter} (hop : Hop lib codecs letter letter')
    {sequence : UInt64} {root : String} (h : Replayable letter sequence root) :
    Replayable letter' sequence root ∧
      letter'.originalPayloadSha256 = letter.originalPayloadSha256 := by
  obtain ⟨policy, reservation, source, message, streamSequence, consumerSequence, consumer, failure,
    parserIdentity, dlqRecordId, hid, hmessage, hletter⟩ := hop
  obtain ⟨heligible, hroot, hsequence, hdigest, hattempt⟩ := lineage_of_build hmessage
  rw [h.evaluate (replayable_of_eligible heligible).1] at hroot hsequence hdigest
  obtain ⟨new, hnew, hreplayable, hsame, -⟩ := replayable_deadLetter h hroot hsequence hdigest
    hattempt streamSequence consumerSequence consumer failure parserIdentity
    (isBlank_of_validateUuidV7 hid)
  obtain rfl := Option.some.inj (hletter.symm.trans hnew)
  exact ⟨hreplayable, hsame⟩

theorem replayable_of_chain {first letter : NormalizationDeadLetter} {sequence : UInt64}
    {root : String} (h : Replayable first sequence root)
    (hchain : Relation.ReflTransGen (Hop lib codecs) first letter) :
    Replayable letter sequence root ∧
      letter.originalPayloadSha256 = first.originalPayloadSha256 := by
  induction hchain with
  | refl => exact ⟨h, rfl⟩
  | tail _ hop ih =>
    obtain ⟨hreplayable, hsame⟩ := hop.replayable ih.1
    exact ⟨hreplayable, hsame.trans ih.2⟩

/-- **The lineage of a dead letter survives every chain of replays.**  The worker found `first`
eligible, and `letter` is the dead letter of a replay of it, of a replay of that replay, and so on;
when the replay of `letter` fails once more, the worker reads a dead letter with the lifecycle, the
root, the source and the payload of `first`, which is eligible if the new failure is retryable. -/
theorem lineage_of_chain {first letter : NormalizationDeadLetter} {policy : ReplayPolicy}
    (hfirst : (evaluateNormalizationReplay first policy).eligible)
    (hchain : Relation.ReflTransGen (Hop lib codecs) first letter)
    {policy' : ReplayPolicy} {reservation : Reservation} {source : RawMessage}
    {message : ReplayMessage}
    (hmessage : buildSelectiveReplayMessage lib.sha256LowerHex source
      (evaluateNormalizationReplay letter policy') reservation = .ok message)
    (streamSequence consumerSequence : Option ℕ) (consumer : String)
    (failure : Normalizer.DeadLetterFailure) (parserIdentity : Option (String × String))
    {dlqRecordId : String} (hid : validateUuidV7 "dlq_record_id" dlqRecordId = .ok ()) :
    ∃ letter', unmarshal (Normalizer.deadLetterOf lib codecs (message.delivered streamSequence)
        consumer failure parserIdentity consumerSequence dlqRecordId).toVec = some letter' ∧
      ∀ policy'' : ReplayPolicy, policy''.maxAutomaticAttempts ≠ 0 →
        (evaluateNormalizationReplay letter' policy'').lifecycleKey =
            (evaluateNormalizationReplay first policy).lifecycleKey ∧
          (evaluateNormalizationReplay letter' policy'').replayRootDlqRecordId =
            (evaluateNormalizationReplay first policy).replayRootDlqRecordId ∧
          (evaluateNormalizationReplay letter' policy'').sourceStreamSequence =
            (evaluateNormalizationReplay first policy).sourceStreamSequence ∧
          (evaluateNormalizationReplay letter' policy'').sourcePayloadSha256 =
            (evaluateNormalizationReplay first policy).sourcePayloadSha256 ∧
          (evaluateNormalizationReplay letter' policy'').eligible = failure.retryable := by
  obtain ⟨hpolicy, sequence, root, hreplayable⟩ := replayable_of_eligible hfirst
  obtain ⟨hletter, hdigest⟩ := replayable_of_chain hreplayable hchain
  obtain ⟨heligible, hroot, hsequence, hdata, hattempt⟩ := lineage_of_build hmessage
  rw [hletter.evaluate (replayable_of_eligible heligible).1] at hroot hsequence hdata
  obtain ⟨letter', hread, hnew, hsame, hretryable⟩ := replayable_deadLetter hletter hroot hsequence
    hdata hattempt streamSequence consumerSequence consumer failure parserIdentity
    (isBlank_of_validateUuidV7 hid)
  refine ⟨letter', hread, fun policy'' hpolicy'' => ?_⟩
  rw [hnew.evaluate hpolicy'', hreplayable.evaluate hpolicy]
  exact ⟨rfl, rfl, rfl, hsame.trans hdigest, hretryable⟩

end

/-! ### Two replays of an empty message -/

def emptyLibraries : Normalizer.Libraries where
  sha256LowerHex _ := emptyDigest
  f64Bits _ := none
  isLowerHex_sha256 _ := by decide +kernel

/-- An empty message is an envelope without fields. -/
def emptyCodecs : Normalizer.Codecs where
  decodeEnvelope _ := .ok ⟨"", "", "", "", none, none, "", "", "", "", none⟩
  decodePersisted _ := .error "failed to decode Protobuf message"
  parseUuid _ := .error "invalid length: expected length 32 for simple format, found 0"

def sampleLetter : NormalizationDeadLetter :=
  ⟨normalizationDlqSchema, "dlq-1", none, rawPersistedSubject, emptyDigest, true, some 7, none⟩

def sampleMessage (attempt : String) (sourceDlqRecordId : String) : ReplayMessage where
  requestId := none
  messageId := "normalization-replay:v1:dlq-1:" ++ attempt
  executionMode := replayExecutionMode
  replayRootDlqRecordId := "dlq-1"
  attempt := attempt
  sourceDlqRecordId := sourceDlqRecordId
  sourceStreamSequence := "7"
  data := []

def sampleReservation (attempt : UInt32) : Reservation :=
  ⟨true, attempt, 2, "normalization-replay:v1:dlq:dlq-1", "dlq-1"⟩

def sampleFailure : Normalizer.DeadLetterFailure :=
  ⟨"CER-NORM-CLICKHOUSE-WRITE", "connection refused", true, 5, 1000, 2000⟩

/-- The dead letter of the first replay. -/
def sampleReplayed : Normalizer.NormalizationDeadLetter :=
  Normalizer.deadLetterOf emptyLibraries emptyCodecs ((sampleMessage "1" "dlq-1").delivered (some 900))
    "normalizer-replay-selective" sampleFailure none (some 3) "01890a5d-ac96-774b-bcce-b302099a8057"

theorem hop_sample : Hop emptyLibraries emptyCodecs sampleLetter (received sampleReplayed) := by
  have hletter : unmarshal sampleReplayed.toVec = some (received sampleReplayed) :=
    unmarshal_toVec (by decide +kernel)
  exact .intro ⟨2⟩ (sampleReservation 1) sampleSource (sampleMessage "1" "dlq-1") (some 900)
    (some 3) "normalizer-replay-selective" sampleFailure none "01890a5d-ac96-774b-bcce-b302099a8057"
    (by decide +kernel) (by decide +kernel) hletter

/-- The second replay fails for good: its dead letter is of the first one's lifecycle, and is not
replayed. -/
theorem lineage_of_chain_sample : ∃ letter', unmarshal (Normalizer.deadLetterOf emptyLibraries
      emptyCodecs ((sampleMessage "2" "01890a5d-ac96-774b-bcce-b302099a8057").delivered (some 901))
      "normalizer-replay-selective" { sampleFailure with retryable := false } none (some 4)
      "01890a5d-ac96-774b-bcce-b302099a8058").toVec = some letter' ∧
    (evaluateNormalizationReplay letter' ⟨2⟩).lifecycleKey =
      (evaluateNormalizationReplay sampleLetter ⟨2⟩).lifecycleKey ∧
    (evaluateNormalizationReplay letter' ⟨2⟩).eligible = false := by
  have hfirst : (evaluateNormalizationReplay sampleLetter ⟨2⟩).eligible := by decide +kernel
  have hmessage : buildSelectiveReplayMessage emptyLibraries.sha256LowerHex sampleSource
      (evaluateNormalizationReplay (received sampleReplayed) ⟨2⟩) (sampleReservation 2) =
        .ok (sampleMessage "2" "01890a5d-ac96-774b-bcce-b302099a8057") := by decide +kernel
  have hid : validateUuidV7 "dlq_record_id" "01890a5d-ac96-774b-bcce-b302099a8058" = .ok () := by
    decide +kernel
  obtain ⟨letter', hread, hlineage⟩ := lineage_of_chain hfirst (.single hop_sample) hmessage
    (some 901) (some 4) "normalizer-replay-selective" { sampleFailure with retryable := false } none
    hid
  exact ⟨letter', hread, (hlineage ⟨2⟩ (by decide)).1, (hlineage ⟨2⟩ (by decide)).2.2.2.2⟩

end Worker

end Cerbero
