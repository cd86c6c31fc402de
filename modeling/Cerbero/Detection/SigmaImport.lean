import Cerbero.Detection.SigmaTimespan
import Cerbero.Detection.ThresholdCompiler

/-!
# Detection/SigmaImport — the Sigma pack of a THRESHOLD rule

`parse_sigma_threshold_rule` reads a pack of YAML documents: one `event_count` correlation and the
base detection it refers to.  The selection becomes an EVENT filter, the correlation a THRESHOLD
rule, and any other shape is an error.  The decoder of the documents, the quoting of `{:?}` and
SHA-256 are parameters.
-/

namespace Cerbero

namespace Detection

open Text Panicking

/-! ## Documents -/

/-- `SigmaLogSource`. -/
structure SigmaLogSource where
  product : Option String
  service : Option String

/-- `SigmaDetection`. -/
structure SigmaDetection where
  condition : String
  selections : SortedMap String (SortedMap String String)

/-- `SigmaCountCondition`. -/
structure SigmaCountCondition where
  gte : UInt64

/-- `SigmaCorrelation`: the correlation part of a document: which rules, grouped by what, within
which time and how often. -/
structure SigmaCorrelation where
  kind : String
  rules : List String
  groupBy : List String
  timespan : String
  condition : SigmaCountCondition

/-- `SigmaDocument`: a document of a Sigma pack, of which each key may be missing. -/
structure SigmaDocument where
  title : String
  id : Option String
  name : Option String
  taxonomy : Option String
  status : Option String
  logsource : Option SigmaLogSource
  detection : Option SigmaDetection
  correlation : Option SigmaCorrelation
  level : Option String
  cerberoRuleId : Option String
  cerberoRuleVersion : Option String
  cerberoTimeBasis : Option String
  cerberoTimeField : Option String
  cerberoLateEventPolicy : Option String

/-- What the importer takes from its libraries: `serde_yaml`, with the text of its error, the
`Debug` form of a text, and SHA-256. -/
structure ImportLibraries where
  fromYaml : String → Except String (List SigmaDocument)
  debug : String → String
  sha256LowerHex : List UInt8 → String

/-! ## Rules -/

/-- `RuleStatus`: how far a rule has come; a stable one needs complete tests. -/
inductive RuleStatus
  | experimental
  | testing
  | stable
  | deprecated
  | disabled
  deriving DecidableEq, Repr

/-- `AutomatedTestCoverage`. -/
structure AutomatedTestCoverage where
  positive : Bool
  negative : Bool
  edgeCases : Bool

/-- `AutomatedTestCoverage::complete`. -/
def AutomatedTestCoverage.complete : AutomatedTestCoverage := ⟨true, true, true⟩

/-- `AutomatedTestCoverage::is_complete`. -/
def AutomatedTestCoverage.isComplete (coverage : AutomatedTestCoverage) : Bool :=
  coverage.positive && coverage.negative && coverage.edgeCases

/-- `RuleContractError`. -/
inductive RuleContractError
  | invalidRuleId
  | stableRequiresAutomatedTests

/-- The text of a `RuleContractError`. -/
def RuleContractError.message : RuleContractError → String
  | .invalidRuleId => "detection rule id must match CER-DET-XXXXXX with exactly six ASCII digits"
  | .stableRequiresAutomatedTests =>
    "STABLE detection rules require positive, negative, and edge-case automated tests"

/-- `validate_rule_status`. -/
def validateRuleStatus (status : RuleStatus) (testCoverage : AutomatedTestCoverage) :
    Except RuleContractError Unit :=
  if status = .stable && !testCoverage.isComplete then .error .stableRequiresAutomatedTests
  else .ok ()

/-- `ImportedSigmaThresholdRule`: a threshold rule read from a pack, with what names it. -/
structure ImportedSigmaThresholdRule where
  ruleId : RuleId
  ruleVersion : String
  status : RuleStatus
  title : String
  severity : String
  contentHash : String
  thresholdRule : ThresholdRule String String

/-! ## The importer -/

section

variable (lib : ImportLibraries)

/-- An error if something is wrong. -/
def rejectImport (bad : Bool) (message : String) : Except SigmaImportError Unit :=
  if bad then .error ⟨message⟩ else .ok ()

/-- The `Debug` form of an optional text. -/
def debugOption : Option String → String
  | none => "None"
  | some text => "Some(" ++ lib.debug text ++ ")"

/-- `require_value`. -/
def requireValue (actual : Option String) (expected field : String) :
    Except SigmaImportError Unit :=
  rejectImport (actual ≠ some expected)
    (field ++ " must be " ++ lib.debug expected ++ ", observed " ++ debugOption lib actual)

/-- The one correlation document of a pack. -/
def correlationOf (documents : List SigmaDocument) :
    Except SigmaImportError (SigmaDocument × SigmaCorrelation) := do
  rejectImport (documents.length < 2)
    "Sigma threshold pack requires a base detection and correlation document"
  let correlations := documents.filter fun document => document.correlation.isSome
  rejectImport (correlations.length ≠ 1)
    "Sigma threshold pack requires exactly one correlation document"
  let correlationDocument ← orImportError correlations.head?
    "Sigma threshold pack lost its correlation document"
  let correlation ← orImportError correlationDocument.correlation
    "internal Sigma import selection lost correlation document"
  return (correlationDocument, correlation)

/-- The checks of the correlation, and the base rule it refers to. -/
def referencedRule (correlationDocument : SigmaDocument) (correlation : SigmaCorrelation) :
    Except SigmaImportError String := do
  requireValue lib correlationDocument.taxonomy "ocsf" "correlation taxonomy"
  requireValue lib correlationDocument.status "stable" "correlation status"
  rejectImport (correlation.kind ≠ "event_count")
    "first Sigma threshold slice supports event_count only"
  rejectImport (correlation.rules.length ≠ 1)
    "first Sigma threshold slice requires exactly one referenced base rule"
  rejectImport correlation.groupBy.isEmpty
    "Sigma event_count correlation requires non-empty group-by"
  rejectImport (correlation.condition.gte = 0)
    "Sigma event_count gte threshold must be greater than zero"
  orImportError correlation.rules.head?
    "first Sigma threshold slice requires one referenced base rule"

/-- The document is a detection of the name or identifier. -/
def SigmaDocument.isBaseRule (referenced : String) (document : SigmaDocument) : Bool :=
  document.detection.isSome &&
    (document.name == some referenced || document.id == some referenced)

/-- The checks of the base document, and its selection. -/
def selectionOf (documents : List SigmaDocument) (referenced : String) :
    Except SigmaImportError (SortedMap String String) := do
  let baseDocument ← orImportError (documents.find? (SigmaDocument.isBaseRule referenced))
    ("Sigma correlation references unresolved base rule " ++ referenced)
  requireValue lib baseDocument.taxonomy "ocsf" "base taxonomy"
  let logsource ← orImportError baseDocument.logsource "Sigma base detection requires logsource"
  requireValue lib logsource.product "linux" "logsource.product"
  requireValue lib logsource.service "sshd" "logsource.service"
  let detection ← orImportError baseDocument.detection "Sigma base detection requires detection"
  let selection ← orImportError (detection.selections.get? detection.condition)
    "first Sigma slice requires condition to name one selection"
  rejectImport selection.toList.isEmpty "Sigma selection must contain at least one field"
  rejectImport (selection.toList.any fun entry => entry.1.toList.contains '|')
    "Sigma field modifiers are not supported by the first governed slice"
  return selection

/-- The filter of a selection. -/
def filterOfSelection (selection : SortedMap String String) :
    Except SigmaImportError (DetectionExpression String String) :=
  let comparisons : List (DetectionExpression String String) :=
    selection.toList.map fun entry => .comparison ⟨entry.1, .eq, entry.2⟩
  if comparisons.length = 1 then
    orImportError comparisons.head? "Sigma selection unexpectedly became empty"
  else .ok (.and comparisons)

/-- The identity of the rule. -/
def identityOf (correlationDocument : SigmaDocument) :
    Except SigmaImportError (RuleId × String) := do
  let ruleIdText ← orImportError correlationDocument.cerberoRuleId "missing cerbero_rule_id"
  let ruleId ← orImportError (RuleId.fromStr ruleIdText)
    ("invalid cerbero_rule_id: " ++ RuleContractError.invalidRuleId.message)
  let ruleVersion ← orImportError correlationDocument.cerberoRuleVersion
    "missing cerbero_rule_version"
  rejectImport ((parseUnsigned (UInt64.size - 1) ruleVersion.toList).all (· == 0))
    "cerbero_rule_version must be a positive integer string"
  return (ruleId, ruleVersion)

/-- The clock of the window. -/
def clockOf (correlationDocument : SigmaDocument) :
    Except SigmaImportError (ThresholdTimeBasis × String × ThresholdLateEventPolicy) := do
  let basis ← orImportError correlationDocument.cerberoTimeBasis "missing cerbero_time_basis"
  rejectImport (basis ≠ "EVENT_TIME") "first Sigma threshold slice supports EVENT_TIME only"
  let timeField ← orImportError (correlationDocument.cerberoTimeField.filter (· ≠ ""))
    "missing cerbero_time_field"
  let policy ← orImportError correlationDocument.cerberoLateEventPolicy
    "missing cerbero_late_event_policy"
  rejectImport (policy ≠ "ACCEPT")
    "first Sigma threshold slice supports ACCEPT late-event policy only"
  return (.eventTime, timeField, .accept)

/-- The rule, but for the length of its window. -/
def importDocuments (source : String) (documents : List SigmaDocument) :
    Except SigmaImportError ((ℕ → ImportedSigmaThresholdRule) × String) := do
  let (correlationDocument, correlation) ← correlationOf documents
  let referenced ← referencedRule lib correlationDocument correlation
  let selection ← selectionOf lib documents referenced
  let filter ← filterOfSelection selection
  let (ruleId, ruleVersion) ← identityOf correlationDocument
  let (timeBasis, timeField, lateEventPolicy) ← clockOf correlationDocument
  let level ← orImportError correlationDocument.level "missing Sigma level"
  return (fun durationMillis =>
    { ruleId := ruleId
      ruleVersion := ruleVersion
      status := .stable
      title := correlationDocument.title
      severity := level.map Char.toUpper
      contentHash := lib.sha256LowerHex (bytes source)
      thresholdRule :=
        { filter := filter
          groupBy := correlation.groupBy
          aggregation := .count
          threshold := correlation.condition.gte
          window := ⟨durationMillis, timeBasis, timeField, lateEventPolicy⟩ } },
    correlation.timespan)

/-- **`parse_sigma_threshold_rule`**; it may panic on the timespan. -/
def parseSigmaThresholdRule (source : String) :
    Panicking SigmaImportError ImportedSigmaThresholdRule := do
  let documents ← attempt ((lib.fromYaml source).mapError fun error =>
    ⟨"Sigma YAML syntax error: " ++ error⟩)
  let (ofDuration, timespan) ← attempt (importDocuments lib source documents)
  let durationMillis ← parseTimespanMillis timespan
  return ofDuration durationMillis

/-! ## The MVP rule -/

def thresholdFailedLoginRuleId : String := "CER-DET-000001"

/-- **`compile_threshold_rule`** of the text of `THRESHOLD_SIGMA_SOURCE`. -/
def compileThresholdRule (source : String) : Panicking RuntimeError MvpCompiledThresholdPlan := do
  let imported ← (parseSigmaThresholdRule lib source).adapt fun error =>
    ⟨"Sigma THRESHOLD import failed: " ++ error.message⟩
  attempt (failIf (imported.ruleId.value ≠ thresholdFailedLoginRuleId)
    ("Sigma THRESHOLD identity drift: expected " ++ thresholdFailedLoginRuleId ++ ", observed " ++
      imported.ruleId.value))
  attempt ((validateRuleStatus imported.status .complete).mapError fun error =>
    ⟨"Sigma STABLE rule contract failed: " ++ error.message⟩)
  attempt ((compileThresholdExecutionPlan imported.thresholdRule .clickHouse mvpFieldResolver
    mvpValueResolver mvpComparisonPolicy (mvpStages
      { planId := "sigma-linux-sshd-failed-login-burst-v1"
        ruleId := imported.ruleId.value
        ruleVersion := imported.ruleVersion
        planHash := lib.sha256LowerHex
          (bytes ("sigma-threshold-clickhouse-v1:" ++ imported.contentHash)) })).mapError
    fun error => ⟨"THRESHOLD rule compilation failed: " ++ error.asStr⟩)

end

end Detection

end Cerbero
