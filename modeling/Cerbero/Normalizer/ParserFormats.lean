import Cerbero.Normalizer.LinuxSshd
import Cerbero.Normalizer.SourceTime

/-!
# Normalizer/ParserFormats — what the other parsers look for

The probes of `crates/cerbero-normalizer/src/parser_formats.rs` and the default registry.  What the
four parsers do with an input they were chosen for is left open (`FormatParsers`).
-/

namespace Cerbero

namespace Normalizer

open Text

def genericJsonParserId : String := "cerbero.parser.json.generic"

def syslogRfc5424ParserId : String := "cerbero.parser.syslog.rfc5424"

def journaldCanonicalParserId : String := "cerbero.parser.journald.canonical"

/-! ## Generic JSON -/

/-- `u8::is_ascii_whitespace`. -/
def isAsciiWhitespace (b : UInt8) : Bool :=
  b == 0x20 || b == 0x09 || b == 0x0a || b == 0x0c || b == 0x0d

/-- `GenericJsonParser::probe`: the content type and the first character decide; the document itself
is not read. -/
def probeGenericJson (input : ParserInput) : ℕ :=
  let first := input.raw.find? fun b => !isAsciiWhitespace b
  let opens := first == some 0x7b || first == some 0x5b
  if contains input.persisted.contentType.toList "json".toList then if opens then 60 else 35
  else if opens then 30
  else 0

/-! ## Journald -/

/-- `trim_ascii_whitespace`. -/
def trimAsciiWhitespace (value : List UInt8) : List UInt8 :=
  ((value.dropWhile isAsciiWhitespace).reverse.dropWhile isAsciiWhitespace).reverse

/-- `contains_bytes`: the needle occurs in the haystack. -/
def containsBytes (haystack needle : List UInt8) : Bool := occurs needle haystack

/-- `JournaldCanonicalParser::probe`. -/
def probeJournald (raw : List UInt8) : ℕ :=
  let trimmed := trimAsciiWhitespace raw
  if trimmed.head? ≠ some 0x7b then 0
  else if containsBytes trimmed (bytes "\"cerbero_journald_version\"") &&
      containsBytes trimmed (bytes "\"fields\"") then 100
  else 0

/-! ## Syslog -/

/-- `trim_end_matches` for carriage returns and line feeds. -/
def trimLineEnd (text : List Char) : List Char :=
  (text.reverse.dropWhile fun ch => ch == '\r' || ch == '\n').reverse

/-- `parse_pri_prefix`: one to three digits between `<` and `>`, with a value of at most 191, and
what follows them. -/
def parsePriPrefix (text : List Char) : Except ParseError (ℕ × List Char) := do
  let rest ← (stripPrefix ['<'] text).elim
    (.error (malformed "syslog PRI must start with '<'")) .ok
  let (priText, rest) ← (splitOnce ['>'] rest).elim
    (.error (malformed "syslog PRI is missing '>'")) .ok
  if priText = [] ∨ 3 < (bytes (String.ofList priText)).length ∨
      priText.all Char.isDigit = false then
    .error (malformed "syslog PRI must contain 1-3 decimal digits")
  else match parseUnsigned (UInt16.size - 1) priText with
    | none => .error (malformed "syslog PRI is not a valid integer")
    | some pri =>
      if 191 < pri then .error (malformed "syslog PRI must be between 0 and 191")
      else return (pri, rest)

/-- `SyslogRfc5424Parser::probe`: a priority, and behind it a version in digits. -/
def probeRfc5424 (raw : List UInt8) : ℕ :=
  match fromUtf8 raw with
  | none => 0
  | some text =>
    match parsePriPrefix (trimLineEnd text.toList) with
    | .error _ => 0
    | .ok (_, rest) =>
      let version := rest.takeWhile (· ≠ ' ')
      if version ≠ [] ∧ version.all Char.isDigit then 95 else 0

/-- `looks_like_rfc3164_timestamp_shape`. -/
def looksLikeRfc3164TimestampShape (input : List Char) : Bool :=
  let value := bytes (String.ofList input)
  15 ≤ value.length && value[3]? == some 0x20 && value[6]? == some 0x20 &&
    value[9]? == some 0x3a && value[12]? == some 0x3a &&
    (value.take 3).all fun b => (0x41 ≤ b && b ≤ 0x5a) || (0x61 ≤ b && b ≤ 0x7a)

/-- `SyslogRfc3164Parser::probe`: a priority, and behind it what has the shape of a time. -/
def probeRfc3164 (raw : List UInt8) : ℕ :=
  match fromUtf8 raw with
  | none => 0
  | some text =>
    match parsePriPrefix (trimLineEnd text.toList) with
    | .error _ => 0
    | .ok (_, rest) => if looksLikeRfc3164TimestampShape rest then 90 else 0

/-! ## The default registry -/

def genericJson : ParserProbe where
  id := genericJsonParserId
  version := "1"
  tier := .generic
  probe input := some (probeGenericJson input)

def journaldCanonical : ParserProbe where
  id := journaldCanonicalParserId
  version := "1"
  tier := .sourceSpecific
  probe input := some (probeJournald input.raw)

def syslogRfc5424 : ParserProbe where
  id := syslogRfc5424ParserId
  version := "1"
  tier := .contentProtocol
  probe input := some (probeRfc5424 input.raw)

def syslogRfc3164 : ParserProbe where
  id := syslogRfc3164ParserId
  version := "1"
  tier := .contentProtocol
  probe input := some (probeRfc3164 input.raw)

/-- `parse` of the four parsers. -/
structure FormatParsers where
  journald : ParserInput → Option (Except ParseError ParsedEvent)
  rfc5424 : ParserInput → Option (Except ParseError ParsedEvent)
  rfc3164 : ParserInput → Option (Except ParseError ParsedEvent)
  json : ParserInput → Option (Except ParseError ParsedEvent)

/-- `ParserRegistry::with_linux_sshd_version`: the registry with one of the two governed versions.
-/
def withLinuxSshdVersion (formats : FormatParsers) (version : String) :
    Except ParseError (List Parser) := do
  let sshd ←
    if version = linuxSshdParserVersion then .ok linuxSshdParser
    else if version = linuxSshdParserV2Version then .ok linuxSshdParserV2
    else .error (permanent "CER-PARSE-UNSUPPORTED-VERSION"
      ("unsupported governed linux/sshd parser version " ++ version))
  return [sshd, ⟨journaldCanonical, formats.journald⟩, ⟨syslogRfc5424, formats.rfc5424⟩,
    ⟨syslogRfc3164, formats.rfc3164⟩, ⟨genericJson, formats.json⟩]

/-- `ParserRegistry::with_defaults`. -/
def withDefaults (formats : FormatParsers) : List Parser :=
  [linuxSshdParser, ⟨journaldCanonical, formats.journald⟩, ⟨syslogRfc5424, formats.rfc5424⟩,
    ⟨syslogRfc3164, formats.rfc3164⟩, ⟨genericJson, formats.json⟩]

theorem withLinuxSshdVersion_default (formats : FormatParsers) :
    withLinuxSshdVersion formats linuxSshdParserVersion = .ok (withDefaults formats) := rfl

/-- What the default registry looks at when it chooses. -/
def defaultProbes : List ParserProbe :=
  [linuxSshdParser.toParserProbe, journaldCanonical, syslogRfc5424, syslogRfc3164, genericJson]

theorem probes_withDefaults (formats : FormatParsers) :
    (withDefaults formats).map Parser.toParserProbe = defaultProbes := rfl

end Normalizer

end Cerbero
