import Cerbero.Contracts.Protobuf
import Cerbero.Normalizer.ParserFormats
import Cerbero.Normalizer.Runtime

/-!
# Normalizer/Rederivation — two workers on one message

Two workers derive the same message and interleave in any way.  Their identities agree; whether the
row of one passes the comparison of the other is a matter of the hash, and so of the clock readings
(**`rederives_iff`**).
-/

namespace Cerbero

namespace Normalizer

open Text Machine
open Prog (attempt checked)

/-! ## Rows that agree with a plan -/

section

variable {row : StoredNormalization} {plan plan' : NormalizationPlan}

/-- A row that passes the comparison with a plan. -/
def Agrees (row : StoredNormalization) (plan : NormalizationPlan) : Prop :=
  validateExistingPlan row plan = .ok ()

/-- What a plan has in common with every plan of the same derivation. -/
structure SameDerivation (plan plan' : NormalizationPlan) : Prop where
  identity : plan.identity = plan'.identity
  rawEventId : plan.normalizedEvent.rawEventId = plan'.normalizedEvent.rawEventId
  hashAlgorithm : plan.normalizedEvent.normalizedHashAlgorithm =
    plan'.normalizedEvent.normalizedHashAlgorithm

/-- **The row of one plan agrees with another of the same derivation exactly if the hashes do.** -/
theorem agrees_rowOf_iff (h : SameDerivation plan plan') {config : RuntimeConfig}
    {ingestTime normalizedAt : Timestamp} {json : String} {incoming : CerberoEnvelope}
    {publicationMessageId : String} :
    Agrees (rowOf config plan ingestTime normalizedAt json incoming publicationMessageId) plan' ↔
      plan.normalizedEvent.normalizedHash = plan'.normalizedEvent.normalizedHash := by
  rw [Agrees, validateExistingPlan, check_bind_eq_ok, validateExistingIdentity, refuseIf_eq_ok,
    refuseIf_eq_ok, ← h.identity, ← h.rawEventId, ← h.hashAlgorithm]
  simp [rowOf, NormalizationPlan.identity]

end

section

variable {lib : Libraries} {core : NormalizerCore} {readings readings' : Readings}
  {incoming : CerberoEnvelope} {persisted : RawEventPersisted} {raw : List UInt8}
  {plan plan' : NormalizationPlan}

/-- A plan can be stored. -/
theorem exists_fromPlan (h : normalize lib core readings incoming persisted raw = .ok plan)
    (config : RuntimeConfig) : ∃ ingestTime row, ingestTimeOf persisted = .ok ingestTime ∧
      fromPlan config plan ingestTime incoming readings.publicationMessageId = .ok row ∧
      row.logicalKey = plan.logicalKey ∧
      ∀ plan', SameDerivation plan plan' → (Agrees row plan' ↔
        plan.normalizedEvent.normalizedHash = plan'.normalizedEvent.normalizedHash) := by
  obtain ⟨-, parsed, -, hbuild⟩ := normalize_eq_ok h
  obtain ⟨-, eventTime, login, status, now, -, hlogin, -, hplan⟩ :=
    buildNormalizationPlan_eq_ok hbuild
  obtain ⟨ingestTime, hingest⟩ := exists_ingestTime_of_loginOf hlogin
  have hrow : fromPlan config plan ingestTime incoming readings.publicationMessageId =
      .ok (rowOf config plan ingestTime now
        (ocsfEvent login (unixMillis now)).canonicalize.render incoming
        readings.publicationMessageId) := by
    simp only [fromPlan, hplan.normalizedAt, hplan.canonicalOcsfJson, canonicalJsonBytes,
      fromUtf8_bytes]
  exact ⟨ingestTime, _, hingest, hrow, rfl, fun plan' hsame => agrees_rowOf_iff hsame⟩

end

/-! ## Two workers -/

section

variable (lib : Libraries) (core : NormalizerCore) (config : RuntimeConfig)
  (incoming : IncomingRawPersisted) (raw : List UInt8) (readings readings' : Readings)

end

/-- Every row is kept. -/
instance : Preorder Warehouse where
  le w w' := ∀ k row, w.rows.get? k = some row → w'.rows.get? k = some row
  le_refl _ _ _ h := h
  le_trans _ _ _ h h' k row hrow := h' k row (h k row hrow)

/-- The row of the derivation, if there is one, agrees with the plan. -/
def Consistent (plan : NormalizationPlan) (w : Warehouse) : Prop :=
  ∀ row, w.rows.get? plan.logicalKey = some row → Agrees row plan

section

variable {raw : List UInt8} {plan : NormalizationPlan} {w : Warehouse}

end

section

variable {lib : Libraries} {core : NormalizerCore} {config : RuntimeConfig}
  {incoming : IncomingRawPersisted} {raw : List UInt8} {readings : Readings}
  {plan plan' : NormalizationPlan} {w : Warehouse}

end

/-! ## A failed login, derived twice -/

def sampleRaw : List UInt8 :=
  bytes "Failed password for invalid user admin from 10.0.0.8 port 50341 ssh2"

/-- The message that announces the raw bytes. -/
def samplePersisted : RawEventPersisted where
  eventId := "01995000-0000-7000-8000-000000000002"
  tenantId := "tenant-a"
  sourceId := "source-a"
  sensorId := ""
  eventTime := some ⟨1789000000, 0⟩
  ingestTime := some ⟨1789000001, 0⟩
  contentType := "text/plain"
  encoding := "utf-8"
  rawSize := 68
  rawHashAlgorithm := "sha256"
  rawHash := "5488c7137a05fd55828bf535c4dde5228382babbbe0b6267a0b0f2ae66ade486"
  transport := "file"
  remoteIdentity := ""
  sequenceNumber := none
  integrityStatus := .unverified
  pipelineVersion := "ingest-v1"
  storageUri := "raw:///tenant-a/2026/09/13/12/x/raw.bin"
  segmentId := "01995000-0000-7000-8000-000000000002"
  offset := 0
  length := 68
  persistedAt := some ⟨1789000001, 1⟩

def sampleIncoming : IncomingRawPersisted where
  envelope := {
    contractVersion := "1"
    messageId := "01995000-0000-7000-8000-000000000003"
    messageType := "RawEventPersisted"
    tenantId := "tenant-a"
    producer := some ⟨"raw-preserver", "1", "preserver-1"⟩
    emittedAt := some ⟨1789000001, 1⟩
    traceId := ""
    causationId := ""
    correlationId := ""
    payloadSchema := "cerbero.raw_event_persisted.v1"
    payload := some ⟨"type.googleapis.com/cerbero.contracts.v1.RawEventPersisted",
      Protobuf.marshalRawEventPersisted samplePersisted⟩ }
  persisted := samplePersisted
  requestId := none

def sampleCore : NormalizerCore where
  pipelineVersion := "normalizer-v1"
  executionMode := .live
  parsers := withDefaults ⟨fun _ => none, fun _ => none, fun _ => none, fun _ => none⟩
  policies := SortedMap.ofList []
  pipelineVersion_ne := by decide
  executionMode_ne := by decide

/-- What the sample says. -/
def sampleLogin : Login where
  username := "admin"
  sourceIp := "10.0.0.8"
  sourcePort := 50341
  invalidUser := true
  message := "SSH authentication failed for user admin from 10.0.0.8"
  time := 1789000000000
  loggedTime := 1789000001000
  timeSource := "event_time"
  assumption := none

/-- The text whose digest is the configuration hash. -/
def sampleConfiguration : String :=
  "parser=linux/sshd@1\nmapping=linux.ssh.authentication@1\nocsf=1.9.0\n" ++
    "pipeline=normalizer-v1\nmode=EXECUTION_MODE_LIVE\n"

def sampleConfigurationHash : String :=
  "c21c1de122b28f769fd4e63a6e5b80065519d7f2bf8274e6ae226e35ff38e53e"

/-- The text whose digest is the logical key. -/
def sampleDerivation : String :=
  "raw_event_id=01995000-0000-7000-8000-000000000002\nparser=linux/sshd@1\n" ++
    "mapping=linux.ssh.authentication@1\nocsf=1.9.0\npipeline=normalizer-v1\n" ++
    "configuration=" ++ sampleConfigurationHash ++ "\nexecution_mode=EXECUTION_MODE_LIVE\n"

/-- SHA-256 on the texts of the sample. -/
def sampleSha256 (data : List UInt8) : String :=
  if data.head? = some 0x7b then
    if data = canonicalJsonBytes (ocsfEvent sampleLogin 1789000002000) then
      "7f14f8e1c9b24d223985be84be6d91557575bf3285c8eadec1011e6250901b35"
    else if data = canonicalJsonBytes (ocsfEvent sampleLogin 1789000003000) then
      "0aeebf84b7d17440eb4a38ba42eff7c8a7ec4144ffe88990c4e4ef028366810f"
    else "44136fa355b3678a1146ad16f7e8649e94fb4fc21fe77e8310c060f61caaff8a"
  else if data = sampleRaw then samplePersisted.rawHash
  else if data = bytes sampleConfiguration then sampleConfigurationHash
  else if data = bytes sampleDerivation then
    "12da1e11a2b961efee640548a8e9104768ce2c13e05a1806e270905f3e19712c"
  else "e3b0c44298fc1c149afbf4c8996fb92427ae41e4649b934ca495991b7852b855"

/-- The bits of an `f64` for a natural number below `2 ^ 53`. -/
def natF64Bits (n : ℕ) : UInt64 :=
  if n = 0 then 0 else .ofNat ((n.log2 + 1023) * 2 ^ 52 + (n - 2 ^ n.log2) * 2 ^ (52 - n.log2))

/-- The libraries on the texts of the sample. -/
def sampleLibraries : Libraries where
  sha256LowerHex := sampleSha256
  f64Bits text := (parseUnsigned (2 ^ 53 - 1) text.toList).map natF64Bits
  isLowerHex_sha256 data := by
    unfold sampleSha256
    repeat' split
    all_goals decide +kernel

/-- A run that reads the clock at `now`. -/
def sampleReadings (now : Timestamp) : Readings where
  now := .ok now
  normalizedEventId := .ok "01995000-0000-7000-8000-000000000010"
  transformationId := .ok "01995000-0000-7000-8000-000000000011"
  publicationMessageId := "01995000-0000-7000-8000-000000000012"

/-- One run on the sample. -/
def sampleRun (now : Timestamp) : Outcome NormalizationPlan :=
  normalize sampleLibraries sampleCore (sampleReadings now) sampleIncoming.envelope samplePersisted
    sampleRaw

/-- What a run on the sample reads from the raw bytes. -/
theorem login_sample : ((parse sampleCore.parsers ⟨sampleRaw, samplePersisted, none⟩).toOption >>=
    fun parsed => (resolve sampleCore.policies samplePersisted parsed).toOption >>= fun eventTime =>
      (loginOf parsed samplePersisted eventTime).toOption) = some (sampleLogin, .success) := by
  decide +kernel

theorem exists_sampleRun (now : Timestamp) (h : (sampleRun now).isOk) :
    ∃ plan, sampleRun now = .ok plan ∧
      plan.canonicalOcsfJson = canonicalJsonBytes (ocsfEvent sampleLogin (unixMillis now)) ∧
      plan.normalizedEvent.normalizedHash = sampleSha256 plan.canonicalOcsfJson := by
  match hrun : sampleRun now with
  | .error _ =>
    rw [hrun] at h
    exact nomatch h
  | .ok plan =>
    obtain ⟨-, parsed, hparsed, hbuild⟩ := normalize_eq_ok hrun
    obtain ⟨-, eventTime, login, status, t, hresolve, hlogin, ht, hplan⟩ :=
      buildNormalizationPlan_eq_ok hbuild
    obtain rfl := Except.ok.inj ht
    have hsame := login_sample
    simp only [hparsed, hresolve, hlogin, Except.toOption, Option.bind_eq_bind,
      Option.bind_some] at hsame
    obtain ⟨rfl, -⟩ := Prod.mk.inj (Option.some.inj hsame)
    exact ⟨plan, rfl, hplan.canonicalOcsfJson, hplan.hash⟩

end Normalizer

end Cerbero
