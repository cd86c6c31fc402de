import Cerbero.Lib.JsonText
import Cerbero.Normalizer.Rederivation

/-!
# Normalizer/StoredRow — the event and the transformation a stored row stands for

`normalized_event` and `transformation` of `clickhouse.rs` rebuild from the columns of a row, and
from the canonical text of its OCSF event, what the plan it was made from had built from the mapped
event.  The order of the members of a JSON object is lost in between; a `prost` struct does not keep
it either (`prostStructOf_canonicalize`), so nothing is lost: **`fromPlan_reproduces`**.  What
`serde_json` says of a stored text it refuses is left out of the error.
-/

namespace Cerbero

namespace Normalizer

open Text

/-! ## What a row stands for -/

section

variable (lib : Libraries) (fromStr : String → Option Json)

/-- `json_to_prost_struct` of `clickhouse.rs`. -/
def storedJsonToProstStruct : Json → Outcome Struct :=
  prostStructOf lib.f64Bits
    (storedRowError "stored OCSF number cannot be represented by protobuf Struct")
    (storedRowError "stored OCSF event root must be an object")

/-- The time that two columns of a row hold. -/
def StoredNormalization.normalizedAt (row : StoredNormalization) : Timestamp :=
  ⟨row.normalizedAtSeconds, row.normalizedAtNanos⟩

/-- **`StoredNormalization::normalized_event`**; `fromStr` is `serde_json::from_str`. -/
def StoredNormalization.normalizedEvent (row : StoredNormalization) : Outcome NormalizedEvent :=
  match fromStr row.ocsfEventJson with
  | none => .error ⟨"CER-NORM-OCSF-DECODE", "decode stored canonical OCSF JSON", false⟩
  | some value => do
    let ocsfStruct ← storedJsonToProstStruct lib value
    return {
      normalizedEventId := row.normalizedEventId
      rawEventId := row.rawEventId
      tenantId := row.tenantId
      normalizedAt := some row.normalizedAt
      ocsfVersion := row.ocsfVersion
      classUid := row.classUid
      categoryUid := row.categoryUid
      severity := row.severity
      activityId := row.activityId
      ocsfEvent := some ocsfStruct
      parserId := row.parserId
      parserVersion := row.parserVersion
      normalizationStatus := row.normalizationStatus
      normalizedHashAlgorithm := row.normalizedHashAlgorithm
      normalizedHash := row.normalizedHash
      pipelineVersion := row.pipelineVersion }

/-- **`StoredNormalization::transformation`**, for a row whose mode is one; the source copies any
other number through. -/
def StoredNormalization.transformation (row : StoredNormalization) : Option Transformation := do
  let executionMode ← ExecutionMode.tryFrom row.executionMode
  return {
    transformationId := row.transformationId
    inputObjectId := row.rawEventId
    inputObjectType := "RawEvent"
    outputObjectId := row.normalizedEventId
    outputObjectType := "NormalizedEvent"
    component := "cerbero-normalizer:" ++ row.mappingId
    componentVersion := row.mappingVersion
    configurationHash := row.configurationHash
    startedAt := some row.normalizedAt
    completedAt := some row.normalizedAt
    status := .success
    error := none
    executionMode := executionMode }

/-- The columns of an event time: whether there is one, its seconds and its nanoseconds. -/
def eventTimeColumns : Option Timestamp → ℕ × ℤ × ℤ
  | none => (0, 0, 0)
  | some time => (1, time.seconds, time.nanos)

/-- The columns tell whether there is an event time, and which. -/
theorem eventTimeColumns_injective : Function.Injective eventTimeColumns
  | none, none, _ => rfl
  | some ⟨_, _⟩, some ⟨_, _⟩, h => by
      obtain ⟨-, h⟩ := Prod.mk.inj h
      obtain ⟨rfl, rfl⟩ := Prod.mk.inj h
      rfl

/-- **What a row owes the plan it was made from.** -/
structure Reproduces (plan : NormalizationPlan) (row : StoredNormalization) : Prop where
  normalizedEvent : row.normalizedEvent lib fromStr = .ok plan.normalizedEvent
  transformation : row.transformation = some plan.transformation
  eventTime : (row.eventTimePresent, row.eventTimeSeconds, row.eventTimeNanos) =
    eventTimeColumns plan.resolvedEventTime
  hash : lib.sha256LowerHex (bytes row.ocsfEventJson) = row.normalizedHash

end

/-! ## The row of a plan -/

/-- Every number of an OCSF event is one. -/
theorem wellFormed_ocsfEvent (login : Login) (n : ℤ) : (ocsfEvent login n).WellFormed := by
  have hassumption : Json.WellFormedMembers
      (login.assumption.map fun text => ("cerbero_time_assumption", Json.string text)).toList := by
    cases login.assumption with
    | none => trivial
    | some _ => exact ⟨trivial, trivial⟩
  simp only [ocsfEvent, metadataAfter, List.cons_append, List.nil_append, Json.WellFormed,
    Json.WellFormedMembers, Json.WellFormedMember, Json.wellFormed_ofInt, hassumption, and_self]

/-- An OCSF event has three levels. -/
theorem depth_ocsfEvent (login : Login) (n : ℤ) : (ocsfEvent login n).depth = 3 := by
  have hassumption : Json.depthMembers
      (login.assumption.map fun text => ("cerbero_time_assumption", Json.string text)).toList = 0 := by
    cases login.assumption <;> rfl
  simp only [ocsfEvent, metadataAfter, List.cons_append, List.nil_append, Json.depth,
    Json.depthMembers, Json.depthMember, Json.ofInt, hassumption]
  rfl

section

variable {lib : Libraries} {core : NormalizerCore} {readings : Readings}
  {incoming : CerberoEnvelope} {persisted : RawEventPersisted} {raw : List UInt8}
  {parsed : ParsedEvent} {plan : NormalizationPlan} {fromStr : String → Option Json}

/-- The row of a mapped event reproduces its plan, if the canonical text is read back. -/
theorem reproduces_rowOf {mapped : MappingOutput} {ocsfStruct : Struct}
    (hstruct : jsonToProstStruct lib mapped.ocsfEvent = .ok ocsfStruct)
    (hread : fromStr mapped.ocsfEvent.canonicalize.render = some mapped.ocsfEvent.canonicalize)
    (eventTime : EventTimeContext) (now : Timestamp) (normalizedEventId transformationId : String)
    (config : RuntimeConfig) (ingestTime : Timestamp) (envelope : CerberoEnvelope)
    (publicationMessageId : String) :
    Reproduces lib fromStr
      (planOfMapped lib core persisted parsed eventTime mapped ocsfStruct now normalizedEventId
        transformationId)
      (rowOf config (planOfMapped lib core persisted parsed eventTime mapped ocsfStruct now
        normalizedEventId transformationId) ingestTime now mapped.ocsfEvent.canonicalize.render
        envelope publicationMessageId) := by
  constructor
  case normalizedEvent =>
    have hstored : storedJsonToProstStruct lib mapped.ocsfEvent.canonicalize = .ok ocsfStruct :=
      prostStructOf_canonicalize hstruct
    rw [StoredNormalization.normalizedEvent, rowOf, hread]
    exact bind_eq_ok.2 ⟨ocsfStruct, hstored, rfl⟩
  case transformation =>
    rw [StoredNormalization.transformation, rowOf, ExecutionMode.tryFrom_number]
    rfl
  case eventTime =>
    rw [rowOf, planOfMapped]
    cases eventTime.eventTime <;> rfl
  case hash => rfl

/-- **A stored row reproduces the plan it was made from**, when `serde_json` reads back what it
prints; it takes values of up to 127 levels. -/
theorem fromPlan_reproduces
    (hserde : ∀ value : Json, value.WellFormed → value.depth < 128 →
      fromStr value.canonicalize.render = some value.canonicalize)
    (h : normalize lib core readings incoming persisted raw = .ok plan) (config : RuntimeConfig)
    (ingestTime : Timestamp) (envelope : CerberoEnvelope) (publicationMessageId : String) :
    ∃ row, fromPlan config plan ingestTime envelope publicationMessageId = .ok row ∧
      Reproduces lib fromStr plan row := by
  obtain ⟨-, parsed, -, hbuild⟩ := normalize_eq_ok h
  obtain ⟨eventTime, mapped, ocsfStruct, now, _, _, -, -, hmap, hstruct, rfl⟩ :=
    exists_planOfMapped hbuild
  obtain ⟨-, login, _, -, hmapped⟩ := map_eq_ok hmap
  have hread : fromStr mapped.ocsfEvent.canonicalize.render =
      some mapped.ocsfEvent.canonicalize := by
    rw [hmapped]
    refine hserde _ (wellFormed_ocsfEvent login _) ?_
    rw [depth_ocsfEvent]
    decide
  refine ⟨_, ?_, reproduces_rowOf hstruct hread eventTime now _ _ config ingestTime envelope
    publicationMessageId⟩
  simp only [fromPlan, planOfMapped, normalizedEventOf, canonicalJsonBytes, fromUtf8_bytes]

end

/-- A reader of JSON texts. -/
def readText (text : String) : Option Json := Json.read text.toList

theorem readText_render {value : Json} (hwell : value.WellFormed) (_ : value.depth < 128) :
    readText value.canonicalize.render = some value.canonicalize :=
  Json.read_render hwell.canonicalize

/-- The row of the sample. -/
theorem fromPlan_reproduces_sample : ∃ plan row, sampleRun ⟨1789000002, 0⟩ = .ok plan ∧
    fromPlan ⟨"1", "normalizer-1"⟩ plan ⟨1789000001, 0⟩ sampleIncoming.envelope
      "01995000-0000-7000-8000-000000000012" = .ok row ∧
    Reproduces sampleLibraries readText plan row := by
  obtain ⟨plan, h, -⟩ := exists_sampleRun ⟨1789000002, 0⟩ (by decide +kernel)
  obtain ⟨row, hrow, hreproduces⟩ := fromPlan_reproduces (fun _ => readText_render) h
    ⟨"1", "normalizer-1"⟩ ⟨1789000001, 0⟩ sampleIncoming.envelope
    "01995000-0000-7000-8000-000000000012"
  exact ⟨plan, row, h, hrow, hreproduces⟩

end Normalizer

end Cerbero
