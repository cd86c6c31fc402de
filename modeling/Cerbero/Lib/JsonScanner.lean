import Cerbero.Lib.Text

/-!
# Lib/JsonScanner — whether bytes are a JSON text

The scanner of `encoding/json`, a byte at a time: what it expects next, and the arrays and objects
that are open.  Bytes from 128 on are not looked at, so text in quotation marks need not be UTF-8.
-/

namespace Cerbero

namespace JsonScanner

open Text (isAsciiDigit isAsciiHexdigit)

/-! ## States -/

/-- `scanner.step`: the place in a text.  The letters of `true`, `false` and `null` that are still to
come, and the digits of an escape, are arguments. -/
inductive Step
  | beginValueOrEmpty
  | beginValue
  | beginStringOrEmpty
  | beginString
  | endValue
  | endTop
  | inString
  | inStringEsc
  | inStringEscU (digits : ℕ)
  | neg
  | one
  | zero
  | dot
  | dotZero
  | e
  | eSign
  | eZero
  | letters (rest : List UInt8)
  deriving DecidableEq, Repr

/-- What an array or object that is open waits for. -/
inductive ParseState
  | objectKey
  | objectValue
  | arrayValue
  deriving DecidableEq, Repr

/-- `scanner`; the innermost array or object comes first. -/
structure Scanner where
  step : Step
  parseState : List ParseState
  endTop : Bool
  deriving DecidableEq, Repr

/-- `reset`. -/
def Scanner.initial : Scanner := ⟨.beginValue, [], false⟩

/-- `maxNestingDepth`. -/
def maxNestingDepth : ℕ := 10000

/-- `isSpace`. -/
def isSpace (c : UInt8) : Bool := c == 0x20 || c == 0x09 || c == 0x0d || c == 0x0a

namespace Scanner

variable (s : Scanner) (c : UInt8)

/-- Go on in another state. -/
def goOn (step : Step) : Option Scanner := some { s with step := step }

/-- `pushParseState`. -/
def pushParseState (step : Step) (state : ParseState) : Option Scanner :=
  if s.parseState.length < maxNestingDepth then
    some { s with step := step, parseState := state :: s.parseState }
  else none

/-- `popParseState`, with what stays open. -/
def popParseState : List ParseState → Scanner
  | [] => ⟨.endTop, [], true⟩
  | states => ⟨.endValue, states, false⟩

/-! ## Steps

A step that fails is `none`.  What follows the outermost value is complained about one byte late in
the source, or at the end of the input; nothing is accepted in between. -/

/-- `stateEndTop`. -/
def stateEndTop : Option Scanner := if isSpace c then some s else none

/-- `stateEndValue`. -/
def stateEndValue : Option Scanner :=
  match s.parseState with
  | [] => stateEndTop { s with step := .endTop, endTop := true } c
  | state :: states =>
    if isSpace c then s.goOn .endValue
    else match state with
      | .objectKey =>
        if c = 0x3a then some { s with step := .beginValue, parseState := .objectValue :: states }
        else none
      | .objectValue =>
        if c = 0x2c then some { s with step := .beginString, parseState := .objectKey :: states }
        else if c = 0x7d then some (popParseState states)
        else none
      | .arrayValue =>
        if c = 0x2c then s.goOn .beginValue
        else if c = 0x5d then some (popParseState states)
        else none

/-- `stateBeginValue`: white space, or the first character of a value, which decides what may follow
it. -/
def stateBeginValue : Option Scanner :=
  if isSpace c then some s
  else if c = 0x7b then s.pushParseState .beginStringOrEmpty .objectKey
  else if c = 0x5b then s.pushParseState .beginValueOrEmpty .arrayValue
  else if c = 0x22 then s.goOn .inString
  else if c = 0x2d then s.goOn .neg
  else if c = 0x30 then s.goOn .zero
  else if c = 0x74 then s.goOn (.letters [0x72, 0x75, 0x65])
  else if c = 0x66 then s.goOn (.letters [0x61, 0x6c, 0x73, 0x65])
  else if c = 0x6e then s.goOn (.letters [0x75, 0x6c, 0x6c])
  else if isAsciiDigit c then s.goOn .one
  else none

/-- `stateBeginString`. -/
def stateBeginString : Option Scanner :=
  if isSpace c then some s else if c = 0x22 then s.goOn .inString else none

/-- `stateBeginStringOrEmpty`. -/
def stateBeginStringOrEmpty : Option Scanner :=
  if isSpace c then some s
  else if c = 0x7d then
    stateEndValue { s with parseState := .objectValue :: s.parseState.tail } c
  else s.stateBeginString c

/-- `stateInString`. -/
def stateInString : Option Scanner :=
  if c = 0x22 then s.goOn .endValue
  else if c = 0x5c then s.goOn .inStringEsc
  else if c < 0x20 then none
  else some s

/-- `stateInStringEsc`. -/
def stateInStringEsc : Option Scanner :=
  if c ∈ [0x62, 0x66, 0x6e, 0x72, 0x74, 0x5c, 0x2f, 0x22] then s.goOn .inString
  else if c = 0x75 then s.goOn (.inStringEscU 3)
  else none

/-- `state0`. -/
def stateZero : Option Scanner :=
  if c = 0x2e then s.goOn .dot
  else if c = 0x65 ∨ c = 0x45 then s.goOn .e
  else s.stateEndValue c

/-- `stateESign`. -/
def stateESign : Option Scanner := if isAsciiDigit c then s.goOn .eZero else none

/-- The next byte. -/
def next : Option Scanner :=
  match s.step with
  | .beginValueOrEmpty =>
    if isSpace c then some s
    else if c = 0x5d then s.stateEndValue c
    else s.stateBeginValue c
  | .beginValue => s.stateBeginValue c
  | .beginStringOrEmpty => s.stateBeginStringOrEmpty c
  | .beginString => s.stateBeginString c
  | .endValue => s.stateEndValue c
  | .endTop => s.stateEndTop c
  | .inString => s.stateInString c
  | .inStringEsc => s.stateInStringEsc c
  | .inStringEscU 0 => if isAsciiHexdigit c then s.goOn .inString else none
  | .inStringEscU (digits + 1) =>
    if isAsciiHexdigit c then s.goOn (.inStringEscU digits) else none
  | .neg => if c = 0x30 then s.goOn .zero else if isAsciiDigit c then s.goOn .one else none
  | .one => if isAsciiDigit c then some s else s.stateZero c
  | .zero => s.stateZero c
  | .dot => if isAsciiDigit c then s.goOn .dotZero else none
  | .dotZero =>
    if isAsciiDigit c then some s
    else if c = 0x65 ∨ c = 0x45 then s.goOn .e
    else s.stateEndValue c
  | .e => if c = 0x2b ∨ c = 0x2d then s.goOn .eSign else s.stateESign c
  | .eSign => s.stateESign c
  | .eZero => if isAsciiDigit c then some s else s.stateEndValue c
  | .letters [] => none
  | .letters [last] => if c = last then s.goOn .endValue else none
  | .letters (letter :: rest) => if c = letter then s.goOn (.letters rest) else none

/-- `eof`: a blank ends a number. -/
def eof : Bool := s.endTop || (s.next 0x20).any Scanner.endTop

end Scanner

/-- **`json.Valid`.** -/
def valid (data : List UInt8) : Bool := (data.foldlM Scanner.next .initial).any Scanner.eof

/-- Nothing is no JSON text. -/
theorem valid_nil : valid [] = false := rfl

example : valid (Text.bytes "[-1.5e3, null, \"\\u00e9\"] ") = true := by decide +kernel

example : valid (Text.bytes "[1,]") = false := by decide +kernel

end JsonScanner

end Cerbero
