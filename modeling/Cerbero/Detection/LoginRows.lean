import Cerbero.Detection.LoginEvents

/-!
# Detection/LoginRows — lines of sshd, as a batch loads them

A line that was normalized and stored is a row; a batch loads the row into an event with the fields
of the line's login (**`StoredLine.exists_batchEvent`**), and rows with distinct identifiers into
the events of all of them (**`exists_loadRows`**).
-/

namespace Cerbero

namespace Detection

open Text Normalizer

/-- The columns of a stored normalization that a batch selects. -/
def batchRow (row : StoredNormalization) : StoredNormalizedRow where
  tenantId := row.tenantId
  normalizedEventId := row.normalizedEventId
  rawEventId := row.rawEventId
  eventTimePresent := row.eventTimePresent
  eventTimeSeconds := row.eventTimeSeconds
  eventTimeNanos := row.eventTimeNanos
  normalizedAtSeconds := row.normalizedAtSeconds
  normalizedAtNanos := row.normalizedAtNanos
  ocsfVersion := row.ocsfVersion
  classUid := row.classUid
  categoryUid := row.categoryUid
  activityId := row.activityId
  severity := row.severity
  parserId := row.parserId
  parserVersion := row.parserVersion
  normalizationStatus := row.normalizationStatus
  normalizedHashAlgorithm := row.normalizedHashAlgorithm
  normalizedHash := row.normalizedHash
  pipelineVersion := row.pipelineVersion
  ocsfEventJson := row.ocsfEventJson

/-- The normalizer and the batch share their JSON library: it reads back what it prints, and an
`f64` holds every integer within `2 ^ 53 - 1`. -/
structure SharesJson (lib : Libraries) (batchLib : BatchLibraries) : Prop where
  f64Bits_eq : batchLib.f64Bits = lib.f64Bits
  read_render : ∀ value : Json, value.WellFormed → value.depth < 128 →
    batchLib.fromStr value.canonicalize.render = some value.canonicalize
  f64Integral_eq : ∀ (n : ℤ) bits, -2 ^ 53 < n → n < 2 ^ 53 →
    lib.f64Bits (toString n) = some bits → f64Integral bits = some n

/-- **A line that was normalized and stored**, with all that went into it. -/
structure StoredLine (lib : Libraries) (core : NormalizerCore) where
  failed : FailedLogin
  incoming : CerberoEnvelope
  persisted : RawEventPersisted
  readings : Readings
  plan : NormalizationPlan
  config : RuntimeConfig
  ingestTime : Timestamp
  row : StoredNormalization
  unambiguous : failed.Unambiguous
  checked : validateRawEventPersisted persisted = .ok ()
  normalized : normalize lib core readings incoming persisted (bytes failed.line) = .ok plan
  stored : fromPlan config plan ingestTime incoming readings.publicationMessageId = .ok row

/-! ## Times -/

theorem validateTimestamp_eq_ok {field : String} {t : Timestamp} :
    validateTimestamp field t = .ok () ↔
      (-62135596800 ≤ t.seconds ∧ t.seconds ≤ 253402300799) ∧ 0 ≤ t.nanos ∧ t.nanos ≤ 999999999 := by
  simp only [validateTimestamp, check_bind_eq_ok, rejectIf_eq_ok, Bool.not_eq_false',
    Bool.and_eq_true, decide_eq_true_eq]
  rfl

/-- The time of a checked message is a valid one. -/
theorem validateTimestamp_observedTime {persisted : RawEventPersisted}
    (h : validateRawEventPersisted persisted = .ok ()) {observed : Timestamp}
    (hobserved : observedTime persisted = some observed) (field : String) :
    validateTimestamp field observed = .ok () := by
  simp only [validateRawEventPersisted, check_bind_eq_ok] at h
  obtain ⟨-, -, -, -, -, -, hevent, hingest, -⟩ := h
  rw [observedTime] at hobserved
  cases hown : persisted.eventTime with
  | some own =>
    rw [hown] at hobserved hevent
    obtain rfl := Option.some.inj hobserved
    exact validateTimestamp_field hevent
  | none =>
    rw [hown] at hobserved
    replace hobserved : persisted.ingestTime = some observed := hobserved
    rw [hobserved] at hingest
    exact validateTimestamp_field hingest

/-- The milliseconds of a valid time are an integer that an `f64` holds. -/
theorem unixMillis_bounds {field : String} {t : Timestamp}
    (h : validateTimestamp field t = .ok ()) : -2 ^ 53 < unixMillis t ∧ unixMillis t < 2 ^ 53 := by
  obtain ⟨⟨hmin, hmax⟩, hnonneg, hnanos⟩ := validateTimestamp_eq_ok.1 h
  rw [unixMillis, Int.tdiv_eq_ediv_of_nonneg hnonneg]
  omega

/-- The whole milliseconds of a valid time are a valid time. -/
theorem validateTimestamp_timestampFromMillis {field : String} {t : Timestamp}
    (h : validateTimestamp field t = .ok ()) :
    validateTimestamp field (timestampFromMillis (unixMillis t)) = .ok () := by
  obtain ⟨⟨hmin, hmax⟩, hnonneg, hnanos⟩ := validateTimestamp_eq_ok.1 h
  rw [validateTimestamp_eq_ok, timestampFromMillis, unixMillis,
    Int.tdiv_eq_ediv_of_nonneg hnonneg]
  dsimp only
  omega

/-! ## What is stored of a line -/

/-- A normalized event has passed its checks. -/
theorem validateNormalizedEvent_of_plan {lib : Libraries} {core : NormalizerCore}
    {readings : Readings} {persisted : RawEventPersisted} {parsed : ParsedEvent}
    {plan : NormalizationPlan}
    (h : buildNormalizationPlan lib core readings persisted parsed = .ok plan) :
    validateNormalizedEvent plan.normalizedEvent = .ok () := by
  obtain ⟨_, -, h⟩ := bind_eq_ok.1 h
  obtain ⟨_, -, h⟩ := bind_eq_ok.1 h
  obtain ⟨_, -, h⟩ := bind_eq_ok.1 h
  obtain ⟨_, -, h⟩ := bind_eq_ok.1 h
  obtain ⟨_, -, h⟩ := bind_eq_ok.1 h
  obtain ⟨_, -, h⟩ := bind_eq_ok.1 h
  obtain ⟨_, -, h⟩ := bind_eq_ok.1 h
  obtain ⟨_, -, h⟩ := bind_eq_ok.1 h
  obtain ⟨hcheck, h⟩ := check_bind_eq_ok.1 h
  obtain ⟨-, h⟩ := check_bind_eq_ok.1 h
  rw [← Except.ok.inj h]
  exact mapError_eq_ok.1 hcheck

section

variable {lib : Libraries} {core : NormalizerCore} {batchLib : BatchLibraries}

/-- A plan is stored, under its identifier. -/
theorem exists_fromPlan {readings : Readings} {incoming : CerberoEnvelope}
    {persisted : RawEventPersisted} {raw : List UInt8} {plan : NormalizationPlan}
    (h : normalize lib core readings incoming persisted raw = .ok plan)
    (config : RuntimeConfig) (ingestTime : Timestamp) (envelope : CerberoEnvelope) (id : String) :
    ∃ row, fromPlan config plan ingestTime envelope id = .ok row ∧
      row.normalizedEventId = plan.normalizedEvent.normalizedEventId := by
  obtain ⟨-, parsed, -, hbuild⟩ := normalize_eq_ok h
  obtain ⟨_, _, _, _, _, _, -, -, -, -, rfl⟩ := exists_planOfMapped hbuild
  simp only [fromPlan, planOfMapped, normalizedEventOf, canonicalJsonBytes, fromUtf8_bytes]
  exact ⟨_, rfl, rfl⟩

/-- **What is stored of a line**: the event of a login that was read from it. -/
structure StoredLine.Stores (line : StoredLine lib core) (login : Login) (processedTime : ℤ)
    (root : Struct) : Prop where
  reads : Reads core line.persisted (bytes line.failed.line) login
  struct : jsonToProstStruct lib (ocsfEvent login processedTime) = .ok root
  json : line.row.ocsfEventJson = (ocsfEvent login processedTime).canonicalize.render
  tenantId : line.row.tenantId = line.persisted.tenantId
  eventTime : (line.row.eventTimePresent, line.row.eventTimeSeconds, line.row.eventTimeNanos) =
    eventTimeColumns line.persisted.eventTime
  normalizedEventId : validateUuidV7 "normalized_event_id" line.row.normalizedEventId = .ok ()

theorem StoredLine.exists_stores (line : StoredLine lib core) :
    ∃ login processedTime root, line.Stores login processedTime root := by
  obtain ⟨failed, incoming, persisted, readings, plan, config, ingestTime, row, unambiguous, checked,
    normalized, stored⟩ := line
  obtain ⟨-, parsed, hparse, hbuild⟩ := normalize_eq_ok normalized
  have hcheck := validateNormalizedEvent_of_plan hbuild
  obtain ⟨eventTime, mapped, root, now, _, _, hresolve, -, hmap, hstruct, rfl⟩ :=
    exists_planOfMapped hbuild
  obtain ⟨hid, login, status, hlogin, rfl⟩ := map_eq_ok hmap
  obtain rfl := eq_fromPersisted_of_resolve hid hresolve
  simp only [fromPlan, planOfMapped, normalizedEventOf, canonicalJsonBytes, fromUtf8_bytes]
    at stored
  obtain rfl := Except.ok.inj stored
  refine ⟨login, unixMillis now, root, ?_⟩
  constructor
  case reads => exact ⟨parsed, _, status, hparse, hid, hresolve, hlogin⟩
  case struct => exact hstruct
  case json => rfl
  case tenantId => rfl
  case normalizedEventId => exact (check_bind_eq_ok.1 hcheck).1
  case eventTime =>
    dsimp only [rowOf, fromPersisted]
    cases persisted.eventTime <;> rfl

/-! ## What is loaded of a line -/

/-- The event of a row, with its fields at hand. -/
def StoredNormalizedRow.eventWith (row : StoredNormalizedRow) (root : Struct) :
    NormalizedEvent where
  normalizedEventId := row.normalizedEventId
  rawEventId := row.rawEventId
  tenantId := row.tenantId
  normalizedAt := some ⟨row.normalizedAtSeconds, row.normalizedAtNanos⟩
  ocsfVersion := row.ocsfVersion
  classUid := row.classUid
  categoryUid := row.categoryUid
  severity := row.severity
  activityId := row.activityId
  ocsfEvent := some root
  parserId := row.parserId
  parserVersion := row.parserVersion
  normalizationStatus := row.normalizationStatus
  normalizedHashAlgorithm := row.normalizedHashAlgorithm
  normalizedHash := row.normalizedHash
  pipelineVersion := row.pipelineVersion

/-- What a row is loaded as, once its text is read. -/
theorem intoBatchEvent_of_read {row : StoredNormalizedRow} {ocsf : Json} {root : Struct}
    {eventTime : Option Timestamp} (hread : batchLib.fromStr row.ocsfEventJson = some ocsf)
    (htime : row.sourceEventTime = .ok eventTime)
    (hroot : prostStructOf batchLib.f64Bits
      (⟨"stored OCSF number is outside protobuf Struct range"⟩ : RuntimeError)
      ⟨"stored OCSF event root must be an object"⟩ ocsf = .ok root) :
    row.intoBatchEvent batchLib = .ok ⟨row.eventWith root, eventTime⟩ := by
  unfold StoredNormalizedRow.intoBatchEvent
  rw [hread]
  exact bind_eq_ok.2 ⟨eventTime, htime, bind_eq_ok.2 ⟨root, hroot, rfl⟩⟩

/-- The columns of a valid event time are read back. -/
theorem sourceEventTime_of_columns {row : StoredNormalizedRow} {eventTime : Option Timestamp}
    (h : (row.eventTimePresent, row.eventTimeSeconds, row.eventTimeNanos) =
      eventTimeColumns eventTime)
    (hvalid : validateOptionalTimestamp "event_time" eventTime = .ok ()) :
    row.sourceEventTime = .ok eventTime := by
  rw [StoredNormalizedRow.sourceEventTime]
  cases eventTime with
  | none =>
    obtain ⟨hpresent, -⟩ := Prod.mk.inj h
    rw [hpresent]
    rfl
  | some t =>
    obtain ⟨hpresent, h⟩ := Prod.mk.inj h
    obtain ⟨hseconds, hnanos⟩ := Prod.mk.inj h
    rw [hpresent, hseconds, hnanos]
    refine check_bind_eq_ok.2 ⟨mapError_eq_ok.2 hvalid, rfl⟩

/-- A loaded event has the identifier of its row. -/
theorem normalizedEventId_of_intoBatchEvent {row : StoredNormalizedRow} {batchEvent : BatchEvent}
    (h : row.intoBatchEvent batchLib = .ok batchEvent) :
    batchEvent.event.normalizedEventId = row.normalizedEventId := by
  unfold StoredNormalizedRow.intoBatchEvent at h
  cases hread : batchLib.fromStr row.ocsfEventJson with
  | none =>
    rw [hread] at h
    cases h
  | some ocsf =>
    rw [hread] at h
    obtain ⟨_, -, h⟩ := bind_eq_ok.1 h
    obtain ⟨_, -, h⟩ := bind_eq_ok.1 h
    rw [← Except.ok.inj h]

/-- **What a batch loads of a line**: an event with the fields of the line's login. -/
structure StoredLine.Loads (line : StoredLine lib core) (login : Login)
    (event : NormalizedEvent) : Prop where
  reads : Reads core line.persisted (bytes line.failed.line) login
  fields : LoginFields lib.f64Bits login event
  tenantId : event.tenantId = line.persisted.tenantId
  normalizedEventId : event.normalizedEventId = line.row.normalizedEventId
  normalizedEventId_valid : validateUuidV7 "normalized_event_id" event.normalizedEventId = .ok ()

/-- **The row of a line is loaded.** -/
theorem StoredLine.exists_batchEvent (hshares : SharesJson lib batchLib)
    (line : StoredLine lib core) : ∃ batchEvent login,
      (batchRow line.row).intoBatchEvent batchLib = .ok batchEvent ∧
      line.Loads login batchEvent.event := by
  obtain ⟨login, processedTime, root, hstores⟩ := line.exists_stores
  have hread : batchLib.fromStr (batchRow line.row).ocsfEventJson =
      some (ocsfEvent login processedTime).canonicalize := by
    rw [batchRow, hstores.json]
    refine hshares.read_render _ (wellFormed_ocsfEvent login _) ?_
    rw [depth_ocsfEvent]
    decide
  have htime : (batchRow line.row).sourceEventTime = .ok line.persisted.eventTime := by
    have hchecked := line.checked
    simp only [validateRawEventPersisted, check_bind_eq_ok] at hchecked
    obtain ⟨-, -, -, -, -, -, hvalid, -⟩ := hchecked
    exact sourceEventTime_of_columns hstores.eventTime hvalid
  have hroot : prostStructOf batchLib.f64Bits
      (⟨"stored OCSF number is outside protobuf Struct range"⟩ : RuntimeError)
      ⟨"stored OCSF event root must be an object"⟩
      (ocsfEvent login processedTime).canonicalize = .ok root := by
    rw [hshares.f64Bits_eq]
    exact prostStructOf_canonicalize hstores.struct
  refine ⟨_, login, intoBatchEvent_of_read hread htime hroot, ?_⟩
  constructor
  case reads => exact hstores.reads
  case fields => exact loginFields_of_struct hstores.struct rfl
  case tenantId => exact hstores.tenantId
  case normalizedEventId => rfl
  case normalizedEventId_valid => exact hstores.normalizedEventId

/-! ## Batches of rows -/

/-- The loop over rows with identifiers of their own takes in every row and nothing else. -/
theorem exists_uniqueEvents {rows : List StoredNormalizedRow} :
    ∀ {unique : SortedMap String BatchEvent},
      (rows.map StoredNormalizedRow.normalizedEventId).Nodup →
      (∀ row ∈ rows, unique.get? row.normalizedEventId = none) →
      (∀ row ∈ rows, ∃ batchEvent, row.intoBatchEvent batchLib = .ok batchEvent) →
      ∃ unique', uniqueEvents batchLib unique rows = .ok unique' ∧
        ∀ id batchEvent, unique'.get? id = some batchEvent ↔
          unique.get? id = some batchEvent ∨ ∃ row ∈ rows,
            row.normalizedEventId = id ∧ row.intoBatchEvent batchLib = .ok batchEvent := by
  induction rows with
  | nil =>
    intro unique _ _ _
    refine ⟨unique, rfl, fun id batchEvent => ?_⟩
    simp
  | cons row rows ih =>
    intro unique hids hfresh hloads
    rw [List.map_cons, List.nodup_cons] at hids
    obtain ⟨hnew, hids⟩ := hids
    obtain ⟨hrow, hfresh⟩ := List.forall_mem_cons.1 hfresh
    obtain ⟨⟨batchEvent, hevent⟩, hloads⟩ := List.forall_mem_cons.1 hloads
    have hfresh' : ∀ row' ∈ rows,
        (unique.insert row.normalizedEventId batchEvent).get? row'.normalizedEventId = none := by
      intro row' hrow'
      have hne : row'.normalizedEventId ≠ row.normalizedEventId := by
        intro heq
        exact hnew (List.mem_map.2 ⟨row', hrow', heq⟩)
      rw [SortedMap.get?_insert_ne _ hne]
      exact hfresh row' hrow'
    obtain ⟨unique', hunique, hget⟩ := ih hids hfresh' hloads
    refine ⟨unique', ?_, fun id stored => (hget id stored).trans ?_⟩
    · refine bind_eq_ok.2 ⟨batchEvent, hevent, ?_⟩
      rw [normalizedEventId_of_intoBatchEvent hevent]
      dsimp only
      rw [hrow]
      exact hunique
    · rw [SortedMap.get?_insert, List.exists_mem_cons_iff]
      split_ifs with heq
      · subst heq
        rw [hrow, hevent]
        simp
      · have hother : ¬ row.normalizedEventId = id := fun h => heq h.symm
        simp [hother]

/-- **Rows with identifiers of their own are loaded**, into the events of all of them. -/
theorem exists_loadRows {rows : List StoredNormalizedRow}
    (hids : (rows.map StoredNormalizedRow.normalizedEventId).Nodup)
    (hloads : ∀ row ∈ rows, ∃ batchEvent, row.intoBatchEvent batchLib = .ok batchEvent) :
    ∃ batch, loadRows batchLib rows = .ok batch ∧
      ∀ event, event ∈ batchEvents batch ↔ ∃ row ∈ rows, ∃ batchEvent,
        row.intoBatchEvent batchLib = .ok batchEvent ∧ batchEvent.event = event := by
  have hfresh : ∀ row ∈ rows,
      (SortedMap.empty : SortedMap String BatchEvent).get? row.normalizedEventId = none :=
    fun _ _ => rfl
  obtain ⟨unique, hunique, hget⟩ := exists_uniqueEvents hids hfresh hloads
  refine ⟨_, bind_eq_ok.2 ⟨unique, hunique, rfl⟩, fun event => ?_⟩
  rw [batchEvents, Set.mem_ofPred_eq, List.mem_map]
  constructor
  · rintro ⟨batchEvent, hmem, rfl⟩
    rw [List.mem_insertionSort] at hmem
    obtain ⟨⟨id, _⟩, hentry, rfl⟩ := List.mem_map.1 hmem
    obtain hnone | ⟨row, hrow, -, hevent⟩ := (hget _ _).1 (SortedMap.mem_toList.1 hentry)
    · cases hnone
    · exact ⟨row, hrow, _, hevent, rfl⟩
  · rintro ⟨row, hrow, batchEvent, hevent, rfl⟩
    refine ⟨batchEvent, (List.mem_insertionSort _).2 ?_, rfl⟩
    refine List.mem_map.2 ⟨(row.normalizedEventId, batchEvent), SortedMap.mem_toList.2 ?_, rfl⟩
    exact (hget _ _).2 (.inr ⟨row, hrow, rfl, hevent⟩)

end

end Detection

end Cerbero
