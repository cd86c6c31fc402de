import Cerbero.Normalizer.DeadLetterIdentity
import Cerbero.Normalizer.SourceTimeSpec

/-!
# Normalizer/DerivationKey — a logical key separates derivations

The logical key is a digest of lines, one of which is free text and one of which is a digest again,
of one layer or two.  The lines are read back from both ends towards the free text
(`KeyFields.text_inj`), the layers are told apart by their first characters
(`eq_of_configurationHash`); so with no collision among the texts of two derivations, equal keys
mean equal derivations: **`logicalKey_inj`**.
-/

namespace Cerbero

namespace Normalizer

open Separated Text

/-! ## The lines of a key -/

/-- The fields of the text of a logical key. -/
structure KeyFields where
  eventId : String
  parserId : String
  parserVersion : String
  mappingId : String
  mappingVersion : String
  pipelineVersion : String
  configurationHash : String
  mode : String

/-- No line ends in a text, and no version begins. -/
structure Plain (text : String) : Prop where
  newline : '\n' ∉ text.toList
  at_sign : '@' ∉ text.toList

instance (text : String) : Decidable (Plain text) :=
  decidable_of_iff ('\n' ∉ text.toList ∧ '@' ∉ text.toList)
    ⟨fun h => ⟨h.1, h.2⟩, fun h => ⟨h.newline, h.at_sign⟩⟩

namespace KeyFields

/-- The text of a logical key. -/
def text (fields : KeyFields) : String :=
  "raw_event_id=" ++ fields.eventId ++ "\nparser=" ++ fields.parserId ++ "@" ++
    fields.parserVersion ++ "\nmapping=" ++ fields.mappingId ++ "@" ++ fields.mappingVersion ++
    "\nocsf=" ++ ocsfVersion ++ "\npipeline=" ++ fields.pipelineVersion ++ "\nconfiguration=" ++
    fields.configurationHash ++ "\nexecution_mode=" ++ fields.mode ++ "\n"

/-- The version of the pipeline is any text; the other fields keep to their lines. -/
structure Valid (fields : KeyFields) : Prop where
  eventId : '\n' ∉ fields.eventId.toList
  parserId : Plain fields.parserId
  parserVersion : Plain fields.parserVersion
  mappingId : Plain fields.mappingId
  mappingVersion : Plain fields.mappingVersion
  configurationHash : '\n' ∉ fields.configurationHash.toList
  mode : '\n' ∉ fields.mode.toList

theorem toList_text (fields : KeyFields) : fields.text.toList =
    ("raw_event_id=" ++ fields.eventId).toList ++ '\n' :: (("parser=" ++ fields.parserId).toList ++
      '@' :: (fields.parserVersion.toList ++ '\n' :: (("mapping=" ++ fields.mappingId).toList ++
      '@' :: (fields.mappingVersion.toList ++ '\n' :: ((("ocsf=" ++ ocsfVersion ++
        "\npipeline=" ++ fields.pipelineVersion).toList ++
      '\n' :: ("configuration=" ++ fields.configurationHash).toList) ++
      '\n' :: ("execution_mode=" ++ fields.mode).toList ++ '\n' :: []))))) := by
  have hparser : "\nparser=".toList = '\n' :: "parser=".toList := by decide
  have hmapping : "\nmapping=".toList = '\n' :: "mapping=".toList := by decide
  have hocsf : "\nocsf=".toList = '\n' :: "ocsf=".toList := by decide
  have hconfiguration : "\nconfiguration=".toList = '\n' :: "configuration=".toList := by decide
  have hmode : "\nexecution_mode=".toList = '\n' :: "execution_mode=".toList := by decide
  have hat : "@".toList = ['@'] := by decide
  have hend : "\n".toList = ['\n'] := by decide
  change ("raw_event_id=" ++ fields.eventId ++ "\nparser=" ++ fields.parserId ++ "@" ++
    fields.parserVersion ++ "\nmapping=" ++ fields.mappingId ++ "@" ++ fields.mappingVersion ++
    "\nocsf=" ++ ocsfVersion ++ "\npipeline=" ++ fields.pipelineVersion ++ "\nconfiguration=" ++
    fields.configurationHash ++ "\nexecution_mode=" ++ fields.mode ++ "\n").toList = _
  simp only [String.toList_append, hparser, hmapping, hocsf, hconfiguration, hmode, hat, hend,
    List.append_assoc, List.cons_append, List.nil_append]

theorem not_mem_append {ch : Char} {label field : String} (hlabel : ch ∉ label.toList)
    (h : ch ∉ field.toList) : ch ∉ (label ++ field).toList := by
  rw [String.toList_append, List.mem_append]
  exact not_or.2 ⟨hlabel, h⟩

/-- A field is what stands behind its label. -/
theorem eq_of_labelled {label field field' : String}
    (h : (label ++ field).toList = (label ++ field').toList) : field = field' :=
  (String.append_right_inj label).1 (String.toList_inj.1 h)

/-- **The lines of a key are read back.** -/
theorem text_inj {x y : KeyFields} (hx : x.Valid) (hy : y.Valid) (h : x.text = y.text) : x = y := by
  have hlines := congrArg String.toList h
  rw [toList_text, toList_text] at hlines
  obtain ⟨heventId, hlines⟩ := append_cons_inj (not_mem_append (by decide) hx.eventId)
    (not_mem_append (by decide) hy.eventId) hlines
  obtain ⟨hparserId, hlines⟩ := append_cons_inj (not_mem_append (by decide) hx.parserId.at_sign)
    (not_mem_append (by decide) hy.parserId.at_sign) hlines
  obtain ⟨hparserVersion, hlines⟩ :=
    append_cons_inj hx.parserVersion.newline hy.parserVersion.newline hlines
  obtain ⟨hmappingId, hlines⟩ := append_cons_inj (not_mem_append (by decide) hx.mappingId.at_sign)
    (not_mem_append (by decide) hy.mappingId.at_sign) hlines
  obtain ⟨hmappingVersion, hlines⟩ :=
    append_cons_inj hx.mappingVersion.newline hy.mappingVersion.newline hlines
  -- from here on from the right: the version of the pipeline may contain anything
  obtain ⟨hlines, -⟩ := append_cons_inj_right List.not_mem_nil List.not_mem_nil hlines
  obtain ⟨hlines, hmode⟩ := append_cons_inj_right (not_mem_append (by decide) hx.mode)
    (not_mem_append (by decide) hy.mode) hlines
  obtain ⟨hpipeline, hconfiguration⟩ := append_cons_inj_right
    (not_mem_append (by decide) hx.configurationHash)
    (not_mem_append (by decide) hy.configurationHash) hlines
  obtain ⟨xEvent, xParser, xVersion, xMapping, xMapped, xPipeline, xConfiguration, xMode⟩ := x
  obtain rfl := eq_of_labelled heventId
  obtain rfl := eq_of_labelled hparserId
  obtain rfl := String.toList_inj.1 hparserVersion
  obtain rfl := eq_of_labelled hmappingId
  obtain rfl := String.toList_inj.1 hmappingVersion
  obtain rfl := eq_of_labelled hpipeline
  obtain rfl := eq_of_labelled hconfiguration
  obtain rfl := eq_of_labelled hmode
  rfl

end KeyFields

/-! ## Derivations -/

/-- **A derivation**: a configuration as it is read, a record, and the parser and the mapping
registered for it. -/
structure Derivation where
  core : NormalizerCore
  persisted : RawEventPersisted
  parserId : String
  parserVersion : String
  mapping : Mapping
  parsers : ∃ formats version, withLinuxSshdVersion formats version = .ok core.parsers
  policies : ∃ spec, parseSpec spec = .ok core.policies
  /-- The characters of a UUID. -/
  eventId : ∀ b ∈ bytes persisted.eventId, isUuidByte b
  parser_mem : ∃ parser ∈ core.parsers, parser.id = parserId ∧ parser.version = parserVersion
  mapping_mem : ∃ mapped, forParser mapped = .ok mapping

namespace Derivation

variable (lib : Libraries) (derivation : Derivation)

/-- The policy that applies when the record has no time of its own. -/
def effectivePolicy : Option SourceTimePolicy :=
  if derivation.persisted.eventTime.isSome then none
  else derivation.core.policies.get? derivation.persisted.sourceId

/-- The configuration hash of a derivation. -/
def configurationHash : String :=
  configurationHashFor lib derivation.core derivation.persisted derivation.parserId
    derivation.parserVersion derivation.mapping.id derivation.mapping.version

/-- The logical key of a derivation. -/
def logicalKey : String :=
  logicalKeyFor lib derivation.core derivation.persisted derivation.parserId
    derivation.parserVersion derivation.mapping.id derivation.mapping.version

/-- The fields of its text. -/
def fields : KeyFields where
  eventId := derivation.persisted.eventId
  parserId := derivation.parserId
  parserVersion := derivation.parserVersion
  mappingId := derivation.mapping.id
  mappingVersion := derivation.mapping.version
  pipelineVersion := derivation.core.pipelineVersion
  configurationHash := derivation.configurationHash lib
  mode := derivation.core.executionMode.asStrName

/-- The first layer of a configuration. -/
def baseText : String :=
  "parser=" ++ derivation.parserId ++ "@" ++ derivation.parserVersion ++ "\nmapping=" ++
    derivation.mapping.id ++ "@" ++ derivation.mapping.version ++ "\nocsf=" ++ ocsfVersion ++
    "\npipeline=" ++ derivation.core.pipelineVersion ++ "\nmode=" ++
    derivation.core.executionMode.asStrName ++ "\n"

/-- The second layer of a configuration, under a policy. -/
def policyText (policy : SourceTimePolicy) : String :=
  "base_configuration=" ++ lib.sha256LowerHex (bytes derivation.baseText) ++
    "\nsource_time_policy=" ++ policy.canonical ++ "\n"

/-- What is digested for a derivation. -/
inductive Digested : List UInt8 → Prop
  | key : Digested (bytes (derivation.fields lib).text)
  | base : Digested (bytes derivation.baseText)
  | policy (policy : SourceTimePolicy) (h : derivation.effectivePolicy = some policy) :
      Digested (bytes (derivation.policyText lib policy))

theorem logicalKey_eq : derivation.logicalKey lib =
    lib.sha256LowerHex (bytes (derivation.fields lib).text) := rfl

theorem configurationHash_eq : derivation.configurationHash lib =
    match derivation.effectivePolicy with
    | none => lib.sha256LowerHex (bytes derivation.baseText)
    | some policy => lib.sha256LowerHex (bytes (derivation.policyText lib policy)) := by
  unfold configurationHash configurationHashFor effectivePolicy
  dsimp only
  split
  · rfl
  · rfl

end Derivation

/-! ## What is registered keeps to its line -/

/-- The parsers that can be registered. -/
def registeredIdentities : List (String × String) :=
  [(linuxSshdParserId, linuxSshdParserVersion), (linuxSshdParserId, linuxSshdParserV2Version),
    (journaldCanonicalParserId, "1"), (syslogRfc5424ParserId, "1"), (syslogRfc3164ParserId, "1"),
    (genericJsonParserId, "1")]

theorem mem_registeredIdentities {formats : FormatParsers} {version : String}
    {parsers : List Parser} (h : withLinuxSshdVersion formats version = .ok parsers)
    {parser : Parser} (hparser : parser ∈ parsers) :
    (parser.id, parser.version) ∈ registeredIdentities := by
  unfold withLinuxSshdVersion at h
  split at h
  · obtain rfl := Except.ok.inj h
    simp only [List.mem_cons, List.not_mem_nil, or_false] at hparser
    obtain rfl | rfl | rfl | rfl | rfl := hparser
    all_goals exact List.mem_of_elem_eq_true rfl
  · split at h
    · obtain rfl := Except.ok.inj h
      simp only [List.mem_cons, List.not_mem_nil, or_false] at hparser
      obtain rfl | rfl | rfl | rfl | rfl := hparser
      all_goals exact List.mem_of_elem_eq_true rfl
    · cases h

/-- What is registered is a finite list, looked through once. -/
theorem plain_of_mem_registeredIdentities : ∀ identity ∈ registeredIdentities,
    Plain identity.1 ∧ Plain identity.2 := by
  decide

theorem plain_of_forParser {parserId : String} {mapping : Mapping}
    (h : forParser parserId = .ok mapping) : Plain mapping.id ∧ Plain mapping.version := by
  unfold forParser at h
  split at h
  · obtain rfl := Except.ok.inj h
    decide
  · exact nomatch h

/-- A digest has no line feed, so it cannot end its line early. -/
theorem newline_not_mem_digest {digest : String} (h : isLowerHex digest) :
    '\n' ∉ digest.toList := by
  intro hmem
  have hbyte : '\n'.toUInt8 ∈ bytes digest := mem_bytes_of_mem (by decide) hmem
  have hhex := List.all_eq_true.1 (Bool.and_eq_true_iff.1 h).2 _ hbyte
  exact absurd hhex (by decide)

theorem newline_not_mem_uuid {text : String} (h : ∀ b ∈ bytes text, isUuidByte b) :
    '\n' ∉ text.toList := by
  intro hmem
  have hbyte : '\n'.toUInt8 ∈ bytes text := mem_bytes_of_mem (by decide) hmem
  exact absurd (h _ hbyte) (by decide)

/-- No name of a mode has one. -/
theorem newline_not_mem_mode (mode : ExecutionMode) : '\n' ∉ mode.asStrName.toList := by
  match mode with
  | .unspecified => decide
  | .live => decide
  | .replay => decide
  | .test => decide

theorem asStrName_injective : Function.Injective ExecutionMode.asStrName := by
  intro mode mode' h
  cases mode <;> cases mode' <;> first | rfl | exact absurd h (by decide)

namespace Derivation

variable {lib : Libraries} {derivation derivation' : Derivation}

theorem newline_not_mem_configurationHash :
    '\n' ∉ (derivation.configurationHash lib).toList := by
  rw [configurationHash_eq]
  split
  · exact newline_not_mem_digest (lib.isLowerHex_sha256 _)
  · exact newline_not_mem_digest (lib.isLowerHex_sha256 _)

/-- **The fields of a derivation are valid**: the parsers and mappings that are registered have
plain names, an identifier and a digest are hexadecimal, and the mode is one of a few words. The
version of the pipeline may be any text. -/
theorem valid_fields : (derivation.fields lib).Valid := by
  obtain ⟨formats, version, hparsers⟩ := derivation.parsers
  obtain ⟨parser, hmem, hid, hversion⟩ := derivation.parser_mem
  obtain ⟨mapped, hmapping⟩ := derivation.mapping_mem
  have hparser : Plain parser.id ∧ Plain parser.version :=
    plain_of_mem_registeredIdentities _ (mem_registeredIdentities hparsers hmem)
  have hplain := plain_of_forParser hmapping
  rw [hid, hversion] at hparser
  exact
    { eventId := newline_not_mem_uuid derivation.eventId
      parserId := hparser.1
      parserVersion := hparser.2
      mappingId := hplain.1
      mappingVersion := hplain.2
      configurationHash := newline_not_mem_configurationHash
      mode := newline_not_mem_mode _ }

theorem head?_append {text rest : String} {ch : Char} (h : text.toList.head? = some ch) :
    (text ++ rest).toList.head? = some ch := by
  rw [String.toList_append, List.head?_append, h]
  rfl

/-- The layers begin differently. -/
theorem baseText_ne_policyText (policy : SourceTimePolicy) :
    derivation.baseText ≠ derivation'.policyText lib policy := by
  intro h
  have hbase : derivation.baseText.toList.head? = some 'p' := by
    unfold baseText
    repeat refine head?_append ?_
    decide
  have hpolicy : (derivation'.policyText lib policy).toList.head? = some 'b' := by
    unfold policyText
    repeat refine head?_append ?_
    decide
  rw [h, hpolicy] at hbase
  exact absurd hbase (by decide)

/-- The policy is read back from the second layer. -/
theorem eq_of_policyText {policy policy' : SourceTimePolicy}
    (hread : parseOffset policy.offsetText = .ok policy)
    (hread' : parseOffset policy'.offsetText = .ok policy')
    (h : derivation.policyText lib policy = derivation'.policyText lib policy') :
    policy = policy' := by
  have hlines : ∀ (one : Derivation) (applied : SourceTimePolicy),
      (one.policyText lib applied).toList =
        ("base_configuration=" ++ lib.sha256LowerHex (bytes one.baseText)).toList ++
          '\n' :: ("source_time_policy=" ++ applied.canonical ++ "\n").toList := by
    intro one applied
    have hline : "\nsource_time_policy=".toList = '\n' :: "source_time_policy=".toList := by decide
    unfold policyText
    simp only [String.toList_append, hline, List.append_assoc, List.cons_append]
  have htoList := congrArg String.toList h
  rw [hlines, hlines] at htoList
  have hdigest : ∀ data, '\n' ∉ ("base_configuration=" ++ lib.sha256LowerHex data).toList :=
    fun data => KeyFields.not_mem_append (by decide)
      (newline_not_mem_digest (lib.isLowerHex_sha256 data))
  obtain ⟨-, hpolicy⟩ := append_cons_inj (hdigest _) (hdigest _) htoList
  have hcanonical := (String.append_left_inj _).1 (String.toList_inj.1 hpolicy)
  exact eq_of_canonical hread hread' ((String.append_right_inj _).1 hcanonical)

/-- A policy that applies was read from its text. -/
theorem parseOffset_of_effectivePolicy {policy : SourceTimePolicy}
    (h : derivation.effectivePolicy = some policy) :
    parseOffset policy.offsetText = .ok policy := by
  obtain ⟨spec, hspec⟩ := derivation.policies
  unfold effectivePolicy at h
  split at h
  · exact nomatch h
  · exact parseOffset_of_parseSpec hspec _ _ h

/-- **Equal configuration hashes mean equal policies**, of one layer or of two. -/
theorem eq_of_configurationHash
    (hcollision : Set.InjOn lib.sha256LowerHex
      {data | derivation.Digested lib data ∨ derivation'.Digested lib data})
    (h : derivation.configurationHash lib = derivation'.configurationHash lib) :
    derivation.effectivePolicy = derivation'.effectivePolicy := by
  rw [configurationHash_eq, configurationHash_eq] at h
  match hpolicy : derivation.effectivePolicy, hpolicy' : derivation'.effectivePolicy with
  | none, none => rfl
  | none, some policy =>
    rw [hpolicy, hpolicy'] at h
    have htext := bytes_injective (hcollision (.inl .base) (.inr (.policy policy hpolicy')) h)
    exact absurd htext (baseText_ne_policyText policy)
  | some policy, none =>
    rw [hpolicy, hpolicy'] at h
    have htext := bytes_injective (hcollision (.inl (.policy policy hpolicy)) (.inr .base) h)
    exact absurd htext.symm (baseText_ne_policyText policy)
  | some policy, some policy' =>
    rw [hpolicy, hpolicy'] at h
    have htext := bytes_injective
      (hcollision (.inl (.policy policy hpolicy)) (.inr (.policy policy' hpolicy')) h)
    rw [eq_of_policyText (parseOffset_of_effectivePolicy hpolicy)
      (parseOffset_of_effectivePolicy hpolicy') htext]

/-- **A logical key separates derivations**: with no collision of SHA-256 among what is digested for
two of them, equal keys mean the same raw event, parser, mapping, pipeline, mode and policy. -/
theorem logicalKey_inj
    (hcollision : Set.InjOn lib.sha256LowerHex
      {data | derivation.Digested lib data ∨ derivation'.Digested lib data})
    (h : derivation.logicalKey lib = derivation'.logicalKey lib) :
    derivation.persisted.eventId = derivation'.persisted.eventId ∧
      derivation.parserId = derivation'.parserId ∧
      derivation.parserVersion = derivation'.parserVersion ∧
      derivation.mapping.id = derivation'.mapping.id ∧
      derivation.mapping.version = derivation'.mapping.version ∧
      derivation.core.pipelineVersion = derivation'.core.pipelineVersion ∧
      derivation.core.executionMode = derivation'.core.executionMode ∧
      derivation.effectivePolicy = derivation'.effectivePolicy := by
  have htext := bytes_injective (hcollision (.inl .key) (.inr .key) h)
  have hfields := KeyFields.text_inj valid_fields valid_fields htext
  have hpolicy := eq_of_configurationHash hcollision (congrArg KeyFields.configurationHash hfields)
  exact ⟨congrArg KeyFields.eventId hfields, congrArg KeyFields.parserId hfields,
    congrArg KeyFields.parserVersion hfields, congrArg KeyFields.mappingId hfields,
    congrArg KeyFields.mappingVersion hfields, congrArg KeyFields.pipelineVersion hfields,
    asStrName_injective (congrArg KeyFields.mode hfields), hpolicy⟩

end Derivation

/-! ### A record without a time -/

/-- The policies of `source-a=-04:00`. -/
def yearlessPolicies : SourceTimePolicyRegistry :=
  (parseSpec "source-a=-04:00").toOption.getD .empty

theorem parseSpec_yearlessPolicies : parseSpec "source-a=-04:00" = .ok yearlessPolicies := by
  have hok : (parseSpec "source-a=-04:00").toOption.isSome = true := by decide
  unfold yearlessPolicies
  match h : parseSpec "source-a=-04:00" with
  | .ok _ => rfl
  | .error _ =>
    rw [h] at hok
    exact nomatch hok

theorem isUuidByte_samplePersisted : ∀ b ∈ bytes samplePersisted.eventId, isUuidByte b := by
  decide

/-- The derivation of a record of a tenant, without a time. -/
def yearlessDerivation (tenantId : String) : Derivation where
  core := { sampleCore with policies := yearlessPolicies }
  persisted := { samplePersisted with tenantId := tenantId, eventTime := none }
  parserId := linuxSshdParserId
  parserVersion := linuxSshdParserVersion
  mapping := sshMapping
  parsers := ⟨_, linuxSshdParserVersion, withLinuxSshdVersion_default _⟩
  policies := ⟨_, parseSpec_yearlessPolicies⟩
  eventId := isUuidByte_samplePersisted
  parser_mem := ⟨linuxSshdParser, List.mem_cons_self, rfl, rfl⟩
  mapping_mem := ⟨linuxSshdParserId, rfl⟩

def yearlessConfiguration : String :=
  "base_configuration=" ++ sampleConfigurationHash ++
    "\nsource_time_policy=fixed_utc_offset=-04:00;rfc3164_year=nearest_ingest_year\n"

def yearlessConfigurationHash : String :=
  "ad2501e9d8c532df26610c95f76206798964f14ac94e9d260e4627ad278b9dfc"

def yearlessKey : String :=
  "raw_event_id=01995000-0000-7000-8000-000000000002\nparser=linux/sshd@1\n" ++
    "mapping=linux.ssh.authentication@1\nocsf=1.9.0\npipeline=normalizer-v1\n" ++
    "configuration=" ++ yearlessConfigurationHash ++ "\nexecution_mode=EXECUTION_MODE_LIVE\n"

/-- SHA-256 on the texts of the derivation. -/
def yearlessLibraries : Libraries where
  sha256LowerHex data :=
    if data = bytes sampleConfiguration then sampleConfigurationHash
    else if data = bytes yearlessConfiguration then yearlessConfigurationHash
    else if data = bytes yearlessKey then
      "f2f03fc50b44936cfebc51c85d4dea434cfa38a4a5bb1b146504e1d2b06aa561"
    else "e3b0c44298fc1c149afbf4c8996fb92427ae41e4649b934ca495991b7852b855"
  f64Bits _ := none
  isLowerHex_sha256 data := by
    split_ifs
    all_goals decide

section

variable (tenantId : String)

theorem effectivePolicy_yearless :
    (yearlessDerivation tenantId).effectivePolicy = some ⟨-14400, "-04:00"⟩ := by
  have hpolicy : yearlessPolicies.get? "source-a" = some ⟨-14400, "-04:00"⟩ := by decide
  exact hpolicy

theorem baseText_yearless : (yearlessDerivation tenantId).baseText = sampleConfiguration := by
  have htext : "parser=" ++ linuxSshdParserId ++ "@" ++ linuxSshdParserVersion ++ "\nmapping=" ++
      sshMapping.id ++ "@" ++ sshMapping.version ++ "\nocsf=" ++ ocsfVersion ++ "\npipeline=" ++
      sampleCore.pipelineVersion ++ "\nmode=" ++ sampleCore.executionMode.asStrName ++ "\n" =
        sampleConfiguration := by decide
  exact htext

theorem policyText_yearless :
    (yearlessDerivation tenantId).policyText yearlessLibraries ⟨-14400, "-04:00"⟩ =
      yearlessConfiguration := by
  have hdigest : yearlessLibraries.sha256LowerHex (bytes sampleConfiguration) =
      sampleConfigurationHash := by decide
  have htext : "base_configuration=" ++ sampleConfigurationHash ++ "\nsource_time_policy=" ++
      SourceTimePolicy.canonical ⟨-14400, "-04:00"⟩ ++ "\n" = yearlessConfiguration := by
    decide +kernel
  unfold Derivation.policyText
  rw [baseText_yearless, hdigest, htext]

theorem configurationHash_yearless :
    (yearlessDerivation tenantId).configurationHash yearlessLibraries =
      yearlessConfigurationHash := by
  have hdigest : yearlessLibraries.sha256LowerHex (bytes yearlessConfiguration) =
      yearlessConfigurationHash := by decide +kernel
  rw [Derivation.configurationHash_eq, effectivePolicy_yearless]
  dsimp only
  rw [policyText_yearless, hdigest]

theorem text_yearless :
    ((yearlessDerivation tenantId).fields yearlessLibraries).text = yearlessKey := by
  have htext : KeyFields.text ⟨samplePersisted.eventId, linuxSshdParserId, linuxSshdParserVersion,
      sshMapping.id, sshMapping.version, sampleCore.pipelineVersion, yearlessConfigurationHash,
      sampleCore.executionMode.asStrName⟩ = yearlessKey := by decide +kernel
  rw [← htext, ← configurationHash_yearless tenantId]
  rfl

end

theorem digested_yearless {tenantId : String} {data : List UInt8}
    (h : (yearlessDerivation tenantId).Digested yearlessLibraries data) :
    data ∈ [bytes yearlessKey, bytes sampleConfiguration, bytes yearlessConfiguration] := by
  obtain _ | _ | ⟨policy, hpolicy⟩ := h
  · rw [text_yearless]
    exact List.mem_cons_self
  · rw [baseText_yearless]
    exact List.mem_cons_of_mem _ List.mem_cons_self
  · obtain rfl := Option.some.inj (hpolicy.symm.trans (effectivePolicy_yearless tenantId))
    rw [policyText_yearless]
    exact List.mem_cons_of_mem _ (List.mem_cons_of_mem _ List.mem_cons_self)

/-- Records of two tenants share a key if they share what it separates. -/
theorem logicalKey_inj_yearless : (yearlessDerivation "tenant-a").effectivePolicy =
    (yearlessDerivation "tenant-b").effectivePolicy := by
  have hinj : ∀ x ∈ [bytes yearlessKey, bytes sampleConfiguration, bytes yearlessConfiguration],
      ∀ y ∈ [bytes yearlessKey, bytes sampleConfiguration, bytes yearlessConfiguration],
      yearlessLibraries.sha256LowerHex x = yearlessLibraries.sha256LowerHex y → x = y := by
    decide +kernel
  have hmem : ∀ {data}, (yearlessDerivation "tenant-a").Digested yearlessLibraries data ∨
      (yearlessDerivation "tenant-b").Digested yearlessLibraries data →
      data ∈ [bytes yearlessKey, bytes sampleConfiguration, bytes yearlessConfiguration] :=
    fun h => h.elim digested_yearless digested_yearless
  have hkey : (yearlessDerivation "tenant-a").logicalKey yearlessLibraries =
      (yearlessDerivation "tenant-b").logicalKey yearlessLibraries := by
    rw [Derivation.logicalKey_eq, Derivation.logicalKey_eq, text_yearless, text_yearless]
  exact (Derivation.logicalKey_inj
    (fun x hx y hy => hinj x (hmem hx) y (hmem hy)) hkey).2.2.2.2.2.2.2

end Normalizer

end Cerbero
