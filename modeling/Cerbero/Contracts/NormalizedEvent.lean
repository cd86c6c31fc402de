import Cerbero.Contracts.Basic

/-!
# Contracts/NormalizedEvent — protobuf values and the normalized event

`Value` is `google.protobuf.Value`: a value whose `kind` is unset is `unset`, and a number is kept
as the bits of its `f64`.  The fields of a struct are listed with distinct names, as the source's
ordered map keeps them.
-/

namespace Cerbero

/-- `google.protobuf.Value`, the values of a struct: a list and a struct hold values again, to any
depth. -/
inductive Value
  | unset
  | nullValue (number : ℤ)
  | numberValue (bits : UInt64)
  | stringValue (text : String)
  | boolValue (flag : Bool)
  | structValue (fields : List (String × Value))
  | listValue (values : List Value)

/-- `google.protobuf.Struct`. -/
abbrev Struct := List (String × Value)

/-- `NormalizationStatus`. -/
inductive NormalizationStatus
  | unspecified
  | success
  | partially
  | failed
  deriving DecidableEq, Repr

/-- `NormalizedEvent`: an event in OCSF with the versions of everything it was derived by and the
digest of its canonical form. -/
structure NormalizedEvent where
  normalizedEventId : String
  rawEventId : String
  tenantId : String
  normalizedAt : Option Timestamp
  ocsfVersion : String
  classUid : ℕ
  categoryUid : ℕ
  severity : Option ℕ
  activityId : Option ℕ
  ocsfEvent : Option Struct
  parserId : String
  parserVersion : String
  normalizationStatus : NormalizationStatus
  normalizedHashAlgorithm : String
  normalizedHash : String
  pipelineVersion : String

/-- `validate_normalized_event`. -/
def validateNormalizedEvent (event : NormalizedEvent) : Check := do
  validateUuidV7 "normalized_event_id" event.normalizedEventId
  validateUuidV7 "raw_event_id" event.rawEventId
  validateRequiredTimestamp "normalized_at" event.normalizedAt

/-! ## Transformations -/

/-- `TransformationStatus`. -/
inductive TransformationStatus
  | unspecified
  | success
  | failed
  deriving DecidableEq, Repr

/-- `Transformation`: the record of one derivation, from its input to its output, with its times and
its outcome. -/
structure Transformation where
  transformationId : String
  inputObjectId : String
  inputObjectType : String
  outputObjectId : String
  outputObjectType : String
  component : String
  componentVersion : String
  configurationHash : String
  startedAt : Option Timestamp
  completedAt : Option Timestamp
  status : TransformationStatus
  error : Option String
  executionMode : ExecutionMode
  deriving DecidableEq, Repr

/-- `validate_transformation`: the identifier, the times, a status and a mode that are not
unspecified, and an error where it failed. -/
def validateTransformation (transformation : Transformation) : Check := do
  validateUuidV7 "transformation_id" transformation.transformationId
  validateRequiredTimestamp "started_at" transformation.startedAt
  validateRequiredTimestamp "completed_at" transformation.completedAt
  rejectIf (transformation.status == .unspecified) "status" "must not be unspecified"
  rejectIf (transformation.executionMode == .unspecified) "execution_mode"
    "must distinguish LIVE, REPLAY, or TEST"
  rejectIf (transformation.status == .failed && transformation.error.isNone) "error"
    "is required when transformation status is FAILED"

end Cerbero
