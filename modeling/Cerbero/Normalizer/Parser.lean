import Cerbero.Contracts.Envelope
import Cerbero.Lib.SortedMap
import Mathlib.Data.String.Basic

/-!
# Normalizer/Parser — parsed events and the choice of a parser

`crates/cerbero-normalizer/src/parser.rs`.  Every registered parser probes the input; the best one
by tier and confidence parses it, and a tie at the top is an error.  A probe or a parser that panics
is `none`; the registry reports it as an internal error.
-/

namespace Cerbero

namespace Normalizer

open Text

/-! ## Parsed events -/

/-- `ParsedValue`; an object is listed by name. -/
inductive ParsedValue
  | null
  | bool (flag : Bool)
  | number (text : String)
  | string (text : String)
  | bytes (value : List UInt8)
  | array (values : List ParsedValue)
  | object (entries : List (String × ParsedValue))

namespace ParsedValue

/-- `ParsedValue::object`. -/
def ofEntries (entries : List (String × ParsedValue)) : ParsedValue :=
  .object (SortedMap.ofList entries).toList

/-- `ParsedValue::get`. -/
def get (key : String) : ParsedValue → Option ParsedValue
  | .object entries => SortedMap.find key entries
  | _ => none

def asStr : ParsedValue → Option String
  | .string text => some text
  | _ => none

def asBool : ParsedValue → Option Bool
  | .bool flag => some flag
  | _ => none

def asU64 : ParsedValue → Option ℕ
  | .number text => parseUnsigned (UInt64.size - 1) text.toList
  | _ => none

end ParsedValue

/-- `TimestampCandidate`: a time as a parser has read it, with what is known about its zone and its
precision. -/
structure TimestampCandidate where
  value : String
  sourceField : String
  timezoneAssumption : Option String
  precision : String
  confidence : String
  deriving DecidableEq, Repr

/-- `ParsingStatus`: how much of an input was understood. -/
inductive ParsingStatus
  | success
  | partially
  | failed
  | unsupported
  deriving DecidableEq, Repr

/-- `ParserTier`. -/
inductive ParserTier
  | generic
  | contentProtocol
  | sourceSpecific
  deriving DecidableEq, Repr

/-- The position of a tier in the order of tiers. -/
def ParserTier.rank : ParserTier → ℕ
  | generic => 0
  | contentProtocol => 1
  | sourceSpecific => 2

/-- `ParserCandidate`: what a parser has answered when it was probed. -/
structure ParserCandidate where
  parserId : String
  parserVersion : String
  tier : ParserTier
  confidence : ℕ
  deriving DecidableEq, Repr

/-- `ParserSelectionTrace`: the parser that was selected and the ones that were not. -/
structure ParserSelectionTrace where
  policy : String
  candidates : List ParserCandidate
  selectedParserId : String
  selectedParserVersion : String
  deriving DecidableEq, Repr

/-- `ParsedEvent`: the fields of an input, with the parser they were read by. -/
structure ParsedEvent where
  parserId : String
  parserVersion : String
  sourceEventType : String
  fields : ParsedValue
  timestampCandidates : List TimestampCandidate
  warnings : List String
  status : ParsingStatus
  selection : Option ParserSelectionTrace

namespace ParsedEvent

def stringField (event : ParsedEvent) (key : String) : Option String :=
  event.fields.get key >>= ParsedValue.asStr

def boolField (event : ParsedEvent) (key : String) : Option Bool :=
  event.fields.get key >>= ParsedValue.asBool

def u64Field (event : ParsedEvent) (key : String) : Option ℕ :=
  event.fields.get key >>= ParsedValue.asU64

end ParsedEvent

/-! ## Parsers -/

/-- `ParserInput`. -/
structure ParserInput where
  raw : List UInt8
  persisted : RawEventPersisted
  configuredParserId : Option String

/-- `RawEventPersisted::default()`. -/
def defaultPersisted : RawEventPersisted where
  eventId := ""
  tenantId := ""
  sourceId := ""
  sensorId := ""
  eventTime := none
  ingestTime := none
  contentType := ""
  encoding := ""
  rawSize := 0
  rawHashAlgorithm := ""
  rawHash := ""
  transport := ""
  remoteIdentity := ""
  sequenceNumber := none
  integrityStatus := .unspecified
  pipelineVersion := ""
  storageUri := ""
  segmentId := ""
  offset := 0
  length := 0
  persistedAt := none

/-- `ParseError`. -/
structure ParseError where
  code : String
  message : String
  retryable : Bool
  deriving DecidableEq, Repr

/-- An error no retry can help. -/
def permanent (code message : String) : ParseError := ⟨code, message, false⟩

/-- `malformed_error`. -/
def malformed (message : String) : ParseError := permanent "CER-PARSE-MALFORMED" message

/-- What the choice of a parser looks at. -/
structure ParserProbe where
  id : String
  version : String
  tier : ParserTier
  probe : ParserInput → Option ℕ

/-- `Parser`. -/
structure Parser extends ParserProbe where
  parse : ParserInput → Option (Except ParseError ParsedEvent)

/-- `candidate`. -/
def candidate (parser : ParserProbe) (confidence : ℕ) : ParserCandidate :=
  ⟨parser.id, parser.version, parser.tier, confidence⟩

/-- `probe_parser`. -/
def probeParser (parser : ParserProbe) (input : ParserInput) : Except ParseError ℕ :=
  match parser.probe input with
  | some confidence => .ok confidence
  | none => .error (permanent "CER-PARSE-INTERNAL"
      ("parser " ++ parser.id ++ " panicked while probing"))

/-! ## Selection -/

/-- The best candidate so far and all candidates as good as it, by index. -/
structure Ranking where
  best : Option (ℕ × ParserTier × ℕ)
  tied : List ℕ

/-- One candidate in the ranking loop of `select`. -/
def Ranking.step (ranking : Ranking) : ParserCandidate × ℕ → Ranking
  | (entry, index) =>
    if entry.confidence = 0 then ranking
    else match ranking.best with
      | none => ⟨some (index, entry.tier, entry.confidence), [index]⟩
      | some (_, tier, confidence) =>
        if tier.rank < entry.tier.rank ∨
            tier.rank = entry.tier.rank ∧ confidence < entry.confidence then
          ⟨some (index, entry.tier, entry.confidence), [index]⟩
        else if entry.tier = tier ∧ entry.confidence = confidence then
          ⟨ranking.best, ranking.tied ++ [index]⟩
        else ranking

/-- The ranking loop of `select`. -/
def rank (candidates : List ParserCandidate) : Ranking :=
  candidates.zipIdx.foldl Ranking.step ⟨none, []⟩

/-- The ids of the candidates at the given indices. -/
def candidateIds (candidates : List ParserCandidate) (indices : List ℕ) : String :=
  ", ".intercalate (indices.map fun index => (candidates[index]?.map (·.parserId)).getD "")

/-- Probe every parser. -/
def probeAll (parsers : List ParserProbe) (input : ParserInput) :
    Except ParseError (List ParserCandidate) :=
  parsers.mapM fun parser => return candidate parser (← probeParser parser input)

/-- The trace of a selection. -/
def traceOf (policy : String) (candidates : List ParserCandidate) (parser : ParserProbe) :
    ParserSelectionTrace :=
  ⟨policy, candidates, parser.id, parser.version⟩

/-- **`ParserRegistry::select`**: the index of the parser and the trace. -/
def select (parsers : List ParserProbe) (input : ParserInput) :
    Except ParseError (ℕ × ParserSelectionTrace) :=
  match input.configuredParserId with
  | some configured =>
    match parsers.zipIdx.find? fun entry => entry.1.id == configured with
    | none => .error (permanent "CER-PARSE-NO-MATCH"
        ("configured parser " ++ configured ++ " is not registered"))
    | some (parser, index) => do
      let confidence ← probeParser parser input
      return (index, traceOf "configured-parser" [candidate parser confidence] parser)
  | none => do
    let candidates ← probeAll parsers input
    let ranking := rank candidates
    match ranking.best with
    | none => .error (permanent "CER-PARSE-NO-MATCH" "no registered parser supports the input")
    | some (index, _, _) =>
      if 1 < ranking.tied.length then
        .error (permanent "CER-PARSE-NO-MATCH"
          ("parser selection is ambiguous at the highest tier/confidence: " ++
            candidateIds candidates ranking.tied))
      else match parsers[index]? with
        | none => .error (permanent "CER-PARSE-INTERNAL" "index out of bounds")
        | some parser => return (index, traceOf "auto:tier-then-confidence" candidates parser)

/-- **`ParserRegistry::parse`**: the selected parser parses, has to name itself in its result, and
the result carries the trace of the selection. -/
def parse (parsers : List Parser) (input : ParserInput) : Except ParseError ParsedEvent := do
  let (index, trace) ← select (parsers.map Parser.toParserProbe) input
  match parsers[index]? with
  | none => .error (permanent "CER-PARSE-INTERNAL" "index out of bounds")
  | some parser =>
    match parser.parse input with
    | none => .error (permanent "CER-PARSE-INTERNAL" ("parser " ++ parser.id ++ " panicked"))
    | some parsed =>
      let parsed ← parsed
      if parsed.parserId ≠ parser.id ∨ parsed.parserVersion ≠ parser.version then
        .error (permanent "CER-PARSE-INTERNAL"
          "parser output identity differs from selected parser")
      else return { parsed with selection := some trace }

/-! ## What a choice says -/

/-- A choice names the parser at its index. -/
theorem select_eq_ok {parsers : List ParserProbe} {input : ParserInput} {index : ℕ}
    {trace : ParserSelectionTrace} (h : select parsers input = .ok (index, trace)) :
    ∃ parser, parsers[index]? = some parser ∧ trace.selectedParserId = parser.id ∧
      trace.selectedParserVersion = parser.version := by
  unfold select at h
  split at h
  · split at h
    · exact nomatch h
    · rename_i parser i hfind
      obtain ⟨confidence, -, h⟩ := bind_eq_ok.1 h
      obtain ⟨rfl, rfl⟩ := Prod.mk.inj (Except.ok.inj h)
      exact ⟨parser, List.mem_zipIdx_iff_getElem?.1 (List.mem_of_find?_eq_some hfind), rfl, rfl⟩
  · obtain ⟨candidates, -, h⟩ := bind_eq_ok.1 h
    dsimp only at h
    split at h
    · exact nomatch h
    · split at h
      · exact nomatch h
      · split at h
        · exact nomatch h
        · rename_i parser hparser
          obtain ⟨rfl, rfl⟩ := Prod.mk.inj (Except.ok.inj h)
          exact ⟨parser, hparser, rfl, rfl⟩

/-- **What is parsed carries the identity of the chosen parser.** -/
theorem parse_eq_ok {parsers : List Parser} {input : ParserInput} {parsed : ParsedEvent}
    (h : parse parsers input = .ok parsed) :
    ∃ index trace, select (parsers.map Parser.toParserProbe) input = .ok (index, trace) ∧
      trace.selectedParserId = parsed.parserId ∧
      trace.selectedParserVersion = parsed.parserVersion := by
  obtain ⟨⟨index, trace⟩, hselect, h⟩ := bind_eq_ok.1 h
  obtain ⟨probe, hprobe, hid, hversion⟩ := select_eq_ok hselect
  rw [List.getElem?_map] at hprobe
  obtain ⟨parser, hparser, rfl⟩ := Option.map_eq_some_iff.1 hprobe
  simp only [hparser] at h
  split at h
  · exact nomatch h
  · obtain ⟨event, -, h⟩ := bind_eq_ok.1 h
    split at h
    · exact nomatch h
    · rename_i hsame
      push Not at hsame
      obtain rfl := Except.ok.inj h
      exact ⟨index, trace, hselect, hid.trans hsame.1.symm, hversion.trans hsame.2.symm⟩

end Normalizer

end Cerbero
