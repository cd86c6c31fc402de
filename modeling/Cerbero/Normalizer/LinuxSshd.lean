import Cerbero.Lib.Message
import Cerbero.Normalizer.Parser

/-!
# Normalizer/LinuxSshd — the parser of failed sshd logins

The two governed versions of `linux/sshd`.  They differ in the message they write for an invalid
user and in nothing else.
-/

namespace Cerbero

namespace Normalizer

open Text

def linuxSshdParserId : String := "linux/sshd"

def linuxSshdParserVersion : String := "1"

def linuxSshdParserV2Version : String := "2"

def linuxSshdMaxInputBytes : ℕ := 65536

/-- `InvalidUserMessagePolicy`. -/
inductive InvalidUserMessagePolicy
  | legacyUserLabel
  | preserveInvalidUserLabel
  deriving DecidableEq, Repr

def failedPasswordMarker : List Char := "Failed password for ".toList

def fromMarker : List Char := " from ".toList

def portMarker : List Char := " port ".toList

/-- `probe_failed_password`: full confidence where the three phrases occur, in any order and
anywhere. -/
def probeFailedPassword (raw : List UInt8) : ℕ :=
  match fromUtf8 raw with
  | none => 0
  | some text =>
    let text := trim text.toList
    if contains text failedPasswordMarker && contains text fromMarker &&
        contains text portMarker then 100
    else 0

/-- The user name of an identity, and whether it is said to be invalid. -/
def splitIdentity (identity : List Char) : Bool × List Char :=
  match stripPrefix "invalid user ".toList identity with
  | none => (false, identity)
  | some user => (true, user)

/-- `parse_failed_password`: the text is cut at the first of each of the three phrases, one after
the other; the user, the address and the port stand behind them. -/
def parseFailedPassword (text : List Char) (parserVersion : String)
    (messagePolicy : InvalidUserMessagePolicy) : Except ParseError ParsedEvent := do
  let (_, afterMarker) ← (splitOnce failedPasswordMarker text).elim
    (.error (malformed "missing 'Failed password for' marker")) .ok
  let (identity, source) ← (splitOnce fromMarker afterMarker).elim
    (.error (malformed "missing source address")) .ok
  let (sourceIp, portAndRest) ← (splitOnce portMarker source).elim
    (.error (malformed "missing source port")) .ok
  let sourcePortText ← (firstWord portAndRest).elim
    (.error (malformed "empty source port")) .ok
  let sourcePort ← (parseUnsigned (UInt16.size - 1) sourcePortText).elim
    (.error (malformed "source port is not a valid unsigned 16-bit integer")) .ok
  let (invalidUser, username) := splitIdentity identity
  if username = [] ∨ sourceIp = [] then
    .error (malformed "username and source address are required")
  else
    let username := String.ofList username
    let sourceIp := String.ofList sourceIp
    let identityLabel :=
      if invalidUser ∧ messagePolicy = .preserveInvalidUserLabel then "invalid user " ++ username
      else "user " ++ username
    return {
      parserId := linuxSshdParserId
      parserVersion := parserVersion
      sourceEventType := "linux.ssh.authentication"
      fields := .ofEntries [
        ("username", .string username),
        ("source_ip", .string sourceIp),
        ("source_port", .number (toString sourcePort)),
        ("authentication_succeeded", .bool false),
        ("invalid_user", .bool invalidUser),
        ("message", .string ("SSH authentication failed for " ++ identityLabel ++ " from " ++
          sourceIp))]
      timestampCandidates := []
      warnings := []
      status := .success
      selection := none }

/-- `parse_linux_sshd`: the limit on the bytes and UTF-8, and then the line without white space
around it. -/
def parseLinuxSshd (input : ParserInput) (parserVersion : String)
    (messagePolicy : InvalidUserMessagePolicy) : Except ParseError ParsedEvent :=
  if linuxSshdMaxInputBytes < input.raw.length then
    .error (permanent "CER-PARSE-LIMIT-EXCEEDED"
      ("linux/sshd input exceeds " ++ toString linuxSshdMaxInputBytes ++ " bytes"))
  else match fromUtf8 input.raw with
    | none => .error (malformed
        ("linux/sshd v" ++ parserVersion ++ " requires UTF-8 input: " ++ utf8Error input.raw))
    | some text => parseFailedPassword (trim text.toList) parserVersion messagePolicy

/-- A governed version of the parser. -/
def linuxSshd (version : String) (messagePolicy : InvalidUserMessagePolicy) : Parser where
  id := linuxSshdParserId
  version := version
  tier := .sourceSpecific
  probe input := some (probeFailedPassword input.raw)
  parse input := some (parseLinuxSshd input version messagePolicy)

/-- `LinuxSshdParser`. -/
def linuxSshdParser : Parser := linuxSshd linuxSshdParserVersion .legacyUserLabel

/-- `LinuxSshdParserV2`. -/
def linuxSshdParserV2 : Parser := linuxSshd linuxSshdParserV2Version .preserveInvalidUserLabel

end Normalizer

end Cerbero
