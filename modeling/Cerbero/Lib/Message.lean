import Cerbero.Lib.Text

/-!
# Lib/Message — the values that stand in messages

How the standard libraries write a value into the text of an error: `%q` of Go's `fmt` for a byte
string (`quote`) and for one byte (`quoteByte`), `{:?}` of Rust for a `str` (`debug`), and the
`Utf8Error` of a byte string that is no text (`utf8Error`).
-/

namespace Cerbero

namespace Text

/-! ## Characters -/

/-- A character that is shown as it is: no control character, no soft hyphen, and of the white space
the blank alone.  Up to U+00FF this is `strconv.IsPrint` and the table of Rust's `char`; what those
two tables refuse from U+0100 on (unassigned characters, more white space) counts as shown here. -/
def isPrint (c : Char) : Bool :=
  (0x20 ≤ c.toNat && c.toNat ≤ 0x7e) || (0xa1 ≤ c.toNat && c.toNat != 0xad)

/-- A number in lower-case hexadecimal, with at least `width` digits. -/
def hexPadded (width n : ℕ) : List Char :=
  List.replicate (width - (Nat.toDigits 16 n).length) '0' ++ Nat.toDigits 16 n

/-- The character a byte string starts with, and how many bytes it takes; none if the first byte
does not start one. -/
def firstRune (raw : List UInt8) : Option (Char × ℕ) :=
  [1, 2, 3, 4].findSome? fun size =>
    match (fromUtf8 (raw.take size)).map String.toList with
    | some [c] => some (c, size)
    | _ => none

/-! ## Quotation -/

/-- `appendEscapedRune` of Go's `strconv`, between two marks. -/
def escapeRune (mark c : Char) : List Char :=
  if c = mark ∨ c = '\\' then ['\\', c]
  else if isPrint c then [c]
  else match c.toNat with
    | 0x07 => ['\\', 'a']
    | 0x08 => ['\\', 'b']
    | 0x0c => ['\\', 'f']
    | 0x0a => ['\\', 'n']
    | 0x0d => ['\\', 'r']
    | 0x09 => ['\\', 't']
    | 0x0b => ['\\', 'v']
    | n => if n < 0x20 ∨ n = 0x7f then "\\x".toList ++ hexPadded 2 n
      else "\\u".toList ++ hexPadded 4 n

/-- What stands between the marks; the first `skip` bytes belong to the last character. -/
def quoteRunes : ℕ → List UInt8 → List Char
  | _, [] => []
  | skip + 1, _ :: rest => quoteRunes skip rest
  | 0, b :: rest =>
    match firstRune (b :: rest) with
    | some (c, size) => escapeRune '"' c ++ quoteRunes (size - 1) rest
    -- a byte that is no part of a character
    | none => "\\x".toList ++ hexPadded 2 b.toNat ++ quoteRunes 0 rest

/-- **`%q` of a string**, `strconv.Quote`. -/
def quote (raw : List UInt8) : String := String.ofList ('"' :: quoteRunes 0 raw ++ ['"'])

example : quote [0x61, 0x22, 0x0a, 0xc3, 0xa9, 0xff] = "\"a\\\"\\n\u00e9\\xff\"" := by decide

/-- **`%q` of a byte**, `strconv.QuoteRune` of the character with its number. -/
def quoteByte (b : UInt8) : String :=
  let mark := Char.ofNat 0x27
  String.ofList (mark :: escapeRune mark (Char.ofNat b.toNat) ++ [mark])

/-- `%s` of a string of ASCII bytes. -/
def asciiText (raw : List UInt8) : String := String.ofList (raw.map fun b => Char.ofNat b.toNat)

/-- `char::escape_debug` in a `str`. -/
def escapeDebug (c : Char) : List Char :=
  if c = '"' ∨ c = '\\' then ['\\', c]
  else if isPrint c then [c]
  else match c.toNat with
    | 0x00 => ['\\', '0']
    | 0x09 => ['\\', 't']
    | 0x0a => ['\\', 'n']
    | 0x0d => ['\\', 'r']
    | n => "\\u\x7b".toList ++ Nat.toDigits 16 n ++ "\x7d".toList

/-- **`{:?}` of a `str`.** -/
def debug (text : String) : String :=
  String.ofList ('"' :: text.toList.flatMap escapeDebug ++ ['"'])

/-! ## Bytes that are no text -/

/-- `Utf8Error::valid_up_to`: the bytes before the first one that does not start a character; the
first `skip` bytes belong to the last character. -/
def validUpTo : ℕ → List UInt8 → ℕ
  | _, [] => 0
  | skip + 1, _ :: rest => validUpTo skip rest + 1
  | 0, b :: rest =>
    match firstRune (b :: rest) with
    | some (_, size) => validUpTo (size - 1) rest + 1
    | none => 0

/-- The bytes that may follow the first byte of a character, and how many bytes the character
takes; one if the byte starts none. -/
def runeShape (b : UInt8) : UInt8 × UInt8 × ℕ :=
  if 0xc2 ≤ b && b ≤ 0xdf then (0x80, 0xbf, 2)
  else if b == 0xe0 then (0xa0, 0xbf, 3)
  else if b == 0xed then (0x80, 0x9f, 3)
  else if 0xe1 ≤ b && b ≤ 0xef then (0x80, 0xbf, 3)
  else if b == 0xf0 then (0x90, 0xbf, 4)
  else if 0xf1 ≤ b && b ≤ 0xf3 then (0x80, 0xbf, 4)
  else if b == 0xf4 then (0x80, 0x8f, 4)
  else (0x80, 0xbf, 1)

/-- `Utf8Error::error_len`: how many bytes are skipped where no character starts; none if the bytes
end inside a character. -/
def errorLen : List UInt8 → Option ℕ
  | [] => none
  | b :: rest =>
    let (least, most, width) := runeShape b
    match width, rest with
    | 1, _ => some 1
    | _, [] => none
    | _, second :: rest =>
      if second < least || most < second then some 1
      else ((rest.take (width - 2)).findIdx? fun b => b < 0x80 || 0xbf < b).map (· + 2)

/-- **The text of the `Utf8Error`** of bytes that are not UTF-8. -/
def utf8Error (raw : List UInt8) : String :=
  let index := validUpTo 0 raw
  match errorLen (raw.drop index) with
  | some length =>
    "invalid utf-8 sequence of " ++ toString length ++ " bytes from index " ++ toString index
  | none => "incomplete utf-8 byte sequence from index " ++ toString index

example : utf8Error [0x61, 0xf0, 0x9f, 0x20] = "invalid utf-8 sequence of 2 bytes from index 1" := by
  decide

end Text

end Cerbero
