import Cerbero.Normalizer.Rederivation

/-!
# Normalizer/Preflight — the identity found before a plan is the identity of the plan

`process_message` looks for a stored row under the identity of `derivation_identity`, before it
normalizes, and reports an error where the two disagree.  They never do, so it does not matter what
is done there: **`preflight_agrees`**.
-/

namespace Cerbero

namespace Normalizer

open Prog (attempt checked)

/-! ## The branches of a disagreement -/

/-- What `process_message` does if the preflight fails and a plan is made, and if the plan has
another key. -/
structure Disagreement where
  failed : NormalizerError → Task Unit
  different : Task Unit

section

variable (otherwise : Disagreement) (lib : Libraries) (core : NormalizerCore)
  (config : RuntimeConfig) (readings : Readings) (incoming : IncomingRawPersisted)

/-- `normalizeAndStore`, with the branch of another key open. -/
def normalizeAndStoreOr (identity : DerivationIdentity) (raw : List UInt8) : Task Unit := do
  let plan ← checked (normalize lib core readings incoming.envelope incoming.persisted raw)
  if plan.logicalKey ≠ identity.logicalKey then otherwise.different
  else do
    let ingestTime ← checked (ingestTimeOf incoming.persisted)
    let candidate ← checked (fromPlan config plan ingestTime incoming.envelope
      readings.publicationMessageId)
    let stored ← insertAndReadBack candidate
    checked (validateExistingPlan stored plan)
    attempt (request (.publishNormalized stored incoming.requestId))

/-- `processRaw`, with both branches open. -/
def processRawOr (raw : List UInt8) : Task Unit :=
  match derivationIdentity lib core incoming.persisted raw with
  | .error preflight =>
    match normalize lib core readings incoming.envelope incoming.persisted raw with
    | .error error => throw error
    | .ok _ => otherwise.failed preflight
  | .ok identity => do
    match ← findByLogicalKey identity.logicalKey with
    | some existing =>
      checked (validateExistingIdentity existing incoming.persisted.eventId identity)
      attempt (request (.publishNormalized existing incoming.requestId))
    | none => normalizeAndStoreOr otherwise lib core config readings incoming identity raw

/-- **`process_message`, with both branches open.** -/
def processMessageOr : Task Unit := do
  let raw ← attempt (request (.readRaw incoming.persisted))
  processRawOr otherwise lib core config readings incoming raw

end

section

variable {otherwise : Disagreement} {lib : Libraries} {core : NormalizerCore}
  {config : RuntimeConfig} {readings : Readings} {incoming : IncomingRawPersisted}

/-- A computation goes on with its result. -/
theorem checked_bind_congr {α β : Type} {x : Outcome α} {f g : α → Task β}
    (h : ∀ a, x = .ok a → f a = g a) : (checked x >>= f) = (checked x >>= g) := by
  match x with
  | .ok a => exact h a rfl
  | .error _ => rfl

/-- A check that refuses ends the task. -/
theorem checked_refuseIf_bind {β : Type} (bad : Bool) (error : NormalizerError)
    (f : Unit → Task β) :
    (checked (refuseIf bad error) >>= f) = if bad then throw error else f () := by
  match bad with
  | true => rfl
  | false => rfl

/-- A plan has the key the preflight looked for. -/
theorem normalizeAndStore_eq {identity : DerivationIdentity} {raw : List UInt8}
    (h : derivationIdentity lib core incoming.persisted raw = .ok identity) :
    normalizeAndStore lib core config readings incoming identity raw =
      normalizeAndStoreOr otherwise lib core config readings incoming identity raw := by
  refine checked_bind_congr fun plan hplan => ?_
  obtain rfl := Except.ok.inj ((derivationIdentity_eq_ok hplan).symm.trans h)
  have hkey : ¬ plan.logicalKey ≠ plan.identity.logicalKey := not_not.2 rfl
  rw [checked_refuseIf_bind, if_neg hkey, if_neg (by simp [NormalizationPlan.identity])]

theorem processRaw_eq (raw : List UInt8) :
    processRaw lib core config readings incoming raw =
      processRawOr otherwise lib core config readings incoming raw := by
  unfold processRaw processRawOr
  match hidentity : derivationIdentity lib core incoming.persisted raw with
  | .error preflight =>
    match hplan : normalize lib core readings incoming.envelope incoming.persisted raw with
    | .error _ => rfl
    | .ok _ => exact nomatch hidentity.symm.trans (derivationIdentity_eq_ok hplan)
  | .ok identity =>
    refine bind_congr fun found => ?_
    match found with
    | some _ => rfl
    | none => exact normalizeAndStore_eq hidentity

end

/-- **The preflight agrees with the plan**: where a plan is made, the preflight finds its key, its
parser, its mapping, its versions, its configuration and its mode; so nothing depends on what
`process_message` does where they disagree. -/
theorem preflight_agrees (lib : Libraries) (core : NormalizerCore) (config : RuntimeConfig)
    (readings : Readings) (incoming : IncomingRawPersisted) :
    (∀ envelope persisted raw plan, normalize lib core readings envelope persisted raw = .ok plan →
      derivationIdentity lib core persisted raw = .ok
        { logicalKey := plan.logicalKey
          parserId := plan.normalizedEvent.parserId
          parserVersion := plan.normalizedEvent.parserVersion
          mappingId := plan.mappingId
          mappingVersion := plan.mappingVersion
          ocsfVersion := plan.normalizedEvent.ocsfVersion
          pipelineVersion := plan.normalizedEvent.pipelineVersion
          configurationHash := plan.transformation.configurationHash
          executionMode := plan.transformation.executionMode }) ∧
    ∀ otherwise, processMessage lib core config readings incoming =
      processMessageOr otherwise lib core config readings incoming :=
  ⟨fun _ _ _ _ h => derivationIdentity_eq_ok h, fun _ => bind_congr fun raw => processRaw_eq raw⟩

/-- The preflight of the sample. -/
theorem preflight_agrees_sample : ∃ plan, sampleRun ⟨1789000002, 0⟩ = .ok plan ∧
    (derivationIdentity sampleLibraries sampleCore samplePersisted sampleRaw).map
      DerivationIdentity.logicalKey = .ok plan.logicalKey := by
  obtain ⟨plan, h, -, -⟩ := exists_sampleRun ⟨1789000002, 0⟩ (by decide +kernel)
  refine ⟨plan, h, ?_⟩
  have hagrees := (preflight_agrees sampleLibraries sampleCore ⟨"1", "normalizer-1"⟩
    (sampleReadings ⟨1789000002, 0⟩) sampleIncoming).1 _ _ _ _ h
  rw [hagrees]
  rfl

end Normalizer

end Cerbero
