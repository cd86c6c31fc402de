import Mathlib.Data.List.TakeWhile
import Cerbero.Lib.Json

/-!
# Lib/JsonText — writing JSON and reading it back

A writer escapes characters as it likes (`Escaping` says what it owes the reader); the reader takes
any JSON text.  What is written is read back, with whatever follows it left over:
**`readValue_write`**, **`read_write`**, and so is what `render` makes (`read_render`).
-/

namespace Cerbero

namespace Json

/-! ## Characters in quotation marks -/

/-- The value of a hexadecimal digit. -/
def hexValue (ch : Char) : Option ℕ :=
  if '0' ≤ ch ∧ ch ≤ '9' then some (ch.toNat - 48)
  else if 'a' ≤ ch ∧ ch ≤ 'f' then some (ch.toNat - 87)
  else if 'A' ≤ ch ∧ ch ≤ 'F' then some (ch.toNat - 55)
  else none

/-- Four hexadecimal digits. -/
def readHex : List Char → Option ℕ
  | a :: b :: c :: d :: _ => do
    let a ← hexValue a
    let b ← hexValue b
    let c ← hexValue c
    let d ← hexValue d
    return ((a * 16 + b) * 16 + c) * 16 + d
  | _ => none

/-- The second half of a surrogate pair. -/
def readLowSurrogate : List Char → Option ℕ
  | '\\' :: 'u' :: text => (readHex text).filter fun n => 0xdc00 ≤ n ∧ n ≤ 0xdfff
  | _ => none

/-- What follows a backslash: the character, and how many characters it takes. -/
def readEscape : List Char → Option (Char × ℕ)
  | '"' :: _ => some ('"', 1)
  | '\\' :: _ => some ('\\', 1)
  | '/' :: _ => some ('/', 1)
  | 'b' :: _ => some ('\x08', 1)
  | 'f' :: _ => some ('\x0c', 1)
  | 'n' :: _ => some ('\n', 1)
  | 'r' :: _ => some ('\r', 1)
  | 't' :: _ => some ('\t', 1)
  | 'u' :: text => do
    let n ← readHex text
    if 0xd800 ≤ n ∧ n ≤ 0xdbff then
      let low ← readLowSurrogate (text.drop 4)
      return (Char.ofNat (0x10000 + (n - 0xd800) * 0x400 + (low - 0xdc00)), 11)
    else if 0xdc00 ≤ n ∧ n ≤ 0xdfff then none
    else return (Char.ofNat n, 5)
  | _ => none

/-- The characters a text in quotation marks stands for; the first `skip` of its own belong to an
escape that was read. -/
def unescape : ℕ → List Char → Option (List Char)
  | _, [] => some []
  | skip + 1, _ :: text => unescape skip text
  | 0, ch :: text =>
    if ch = '\\' then
      match readEscape text with
      | none => none
      | some (decoded, length) => (unescape length text).map (decoded :: ·)
    else if ch.toNat < 32 then none
    else (unescape 0 text).map (ch :: ·)

/-- Up to the closing quotation mark. -/
def splitQuoted : List Char → Option (List Char × List Char)
  | [] => none
  | '"' :: text => some ([], text)
  | '\\' :: ch :: text => (splitQuoted text).map fun (quoted, rest) => ('\\' :: ch :: quoted, rest)
  | ch :: text => (splitQuoted text).map fun (quoted, rest) => (ch :: quoted, rest)

/-- The rest of a text after an opening quotation mark. -/
def readString (text : List Char) : Option (String × List Char) := do
  let (quoted, rest) ← splitQuoted text
  let chars ← unescape 0 quoted
  return (String.ofList chars, rest)

/-- **What a writer owes the reader**: the text of a character stays together, and stands for the
character. -/
structure Escaping (esc : Char → List Char) : Prop where
  split : ∀ ch text, splitQuoted (esc ch ++ text) =
    (splitQuoted text).map fun (quoted, rest) => (esc ch ++ quoted, rest)
  read : ∀ ch text, unescape 0 (esc ch ++ text) = (unescape 0 text).map (ch :: ·)

section

variable {esc : Char → List Char}

theorem splitQuoted_flatMap (h : Escaping esc) (text : List Char) : ∀ chars : List Char,
    splitQuoted (chars.flatMap esc ++ '"' :: text) = some (chars.flatMap esc, text)
  | [] => rfl
  | ch :: chars => by
      rw [List.flatMap_cons, List.append_assoc, h.split, splitQuoted_flatMap h text chars]
      rfl

theorem unescape_flatMap (h : Escaping esc) : ∀ chars : List Char,
    unescape 0 (chars.flatMap esc) = some chars
  | [] => rfl
  | ch :: chars => by rw [List.flatMap_cons, h.read, unescape_flatMap h chars]; rfl

variable (esc) in
/-- A text in quotation marks. -/
def quoted (text : String) : List Char := '"' :: text.toList.flatMap esc ++ ['"']

theorem readString_quoted (h : Escaping esc) (s : String) (text : List Char) :
    readString (s.toList.flatMap esc ++ '"' :: text) = some (s, text) := by
  rw [readString, splitQuoted_flatMap h]
  simp only [Option.bind_eq_bind, Option.bind_some, unescape_flatMap h, Option.pure_def,
    String.ofList_toList]

end

/-! ### Ways to escape -/

theorem splitQuoted_plain {ch : Char} (hquote : ch ≠ '"') (hslash : ch ≠ '\\')
    (text : List Char) : splitQuoted (ch :: text) =
      (splitQuoted text).map fun (quoted, rest) => (ch :: quoted, rest) := by
  rw [splitQuoted]
  · exact hquote
  · exact fun _ _ h => absurd h hslash

theorem unescape_plain {ch : Char} (hslash : ch ≠ '\\') (hcontrol : 32 ≤ ch.toNat)
    (text : List Char) : unescape 0 (ch :: text) = (unescape 0 text).map (ch :: ·) := by
  rw [unescape, if_neg hslash, if_neg (Nat.not_lt.2 hcontrol)]

theorem unescape_slash {decoded : Char} (esc : List Char) {text : List Char}
    (h : readEscape (esc ++ text) = some (decoded, esc.length)) :
    unescape 0 ('\\' :: esc ++ text) = (unescape 0 text).map (decoded :: ·) := by
  have hskip : ∀ (l text : List Char), unescape l.length (l ++ text) = unescape 0 text := by
    intro l
    induction l with
    | nil => exact fun _ => rfl
    | cons ch l ih => exact fun text => by rw [List.length_cons, List.cons_append, unescape, ih]
  rw [List.cons_append, unescape, if_pos rfl, h]
  exact congrArg (Option.map (decoded :: ·)) (hskip esc text)

/-- A digit is read back, and is no mark. -/
theorem lowerHexDigit_spec : ∀ n < 16, hexValue (lowerHexDigit n) = some n ∧
    lowerHexDigit n ≠ '"' ∧ lowerHexDigit n ≠ '\\' := by
  decide

/-- A character by its number. -/
def escapeUnicode (ch : Char) : List Char :=
  ['\\', 'u', lowerHexDigit (ch.toNat / 4096), lowerHexDigit (ch.toNat / 256 % 16),
    lowerHexDigit (ch.toNat / 16 % 16), lowerHexDigit (ch.toNat % 16)]

section

variable {ch : Char} (hsmall : ch.toNat < 0xd800)

include hsmall

theorem splitQuoted_escapeUnicode (text : List Char) : splitQuoted (escapeUnicode ch ++ text) =
    (splitQuoted text).map fun (quoted, rest) => (escapeUnicode ch ++ quoted, rest) := by
  obtain ⟨-, h₁, h₁'⟩ := lowerHexDigit_spec (ch.toNat / 4096) (by omega)
  obtain ⟨-, h₂, h₂'⟩ := lowerHexDigit_spec (ch.toNat / 256 % 16) (by omega)
  obtain ⟨-, h₃, h₃'⟩ := lowerHexDigit_spec (ch.toNat / 16 % 16) (by omega)
  obtain ⟨-, h₄, h₄'⟩ := lowerHexDigit_spec (ch.toNat % 16) (by omega)
  simp only [escapeUnicode, List.cons_append, List.nil_append]
  rw [splitQuoted, splitQuoted_plain h₁ h₁', splitQuoted_plain h₂ h₂', splitQuoted_plain h₃ h₃',
    splitQuoted_plain h₄ h₄']
  simp only [Option.map_map]
  rfl

theorem unescape_escapeUnicode (text : List Char) : unescape 0 (escapeUnicode ch ++ text) =
    (unescape 0 text).map (ch :: ·) := by
  obtain ⟨h₁, -⟩ := lowerHexDigit_spec (ch.toNat / 4096) (by omega)
  obtain ⟨h₂, -⟩ := lowerHexDigit_spec (ch.toNat / 256 % 16) (by omega)
  obtain ⟨h₃, -⟩ := lowerHexDigit_spec (ch.toNat / 16 % 16) (by omega)
  obtain ⟨h₄, -⟩ := lowerHexDigit_spec (ch.toNat % 16) (by omega)
  have hvalue : ((ch.toNat / 4096 * 16 + ch.toNat / 256 % 16) * 16 + ch.toNat / 16 % 16) * 16 +
      ch.toNat % 16 = ch.toNat := by omega
  refine unescape_slash (escapeUnicode ch).tail ?_
  simp only [escapeUnicode, List.tail_cons, List.cons_append, List.nil_append, readEscape, readHex,
    h₁, h₂, h₃, h₄, Option.bind_eq_bind, Option.bind_some, Option.pure_def, hvalue]
  rw [if_neg (by omega), if_neg (by omega), Char.ofNat_toNat]
  rfl

end

/-- A character by a letter. -/
theorem escaping_letter {decoded letter : Char} (h : ∀ text, readEscape (letter :: text) =
    some (decoded, 1)) (text : List Char) :
    splitQuoted (['\\', letter] ++ text) = (splitQuoted text).map
        (fun (quoted, rest) => (['\\', letter] ++ quoted, rest)) ∧
      unescape 0 (['\\', letter] ++ text) = (unescape 0 text).map (decoded :: ·) := by
  refine ⟨?_, unescape_slash [letter] (h text)⟩
  rw [List.cons_append, List.cons_append, List.nil_append, splitQuoted]
  rfl

/-- A character of a text in quotation marks, where a writer also wants some others escaped. -/
def escapeAlso (special : Char → Bool) (ch : Char) : List Char :=
  if ch = '"' then ['\\', '"']
  else if ch = '\\' then ['\\', '\\']
  else if ch = '\x08' then ['\\', 'b']
  else if ch = '\x0c' then ['\\', 'f']
  else if ch = '\n' then ['\\', 'n']
  else if ch = '\r' then ['\\', 'r']
  else if ch = '\t' then ['\\', 't']
  else if ch.toNat < 32 ∨ special ch then escapeUnicode ch
  else [ch]

/-- **Such a writer can be read.** -/
theorem escaping_escapeAlso {special : Char → Bool}
    (hspecial : ∀ ch, special ch → ch.toNat < 0xd800) : Escaping (escapeAlso special) := by
  have hboth (ch : Char) (text : List Char) : splitQuoted (escapeAlso special ch ++ text) =
      (splitQuoted text).map (fun (quoted, rest) => (escapeAlso special ch ++ quoted, rest)) ∧
      unescape 0 (escapeAlso special ch ++ text) = (unescape 0 text).map (ch :: ·) := by
    unfold escapeAlso
    split
    · rename_i h
      obtain rfl := h
      exact escaping_letter (fun _ => rfl) text
    split
    · rename_i h
      obtain rfl := h
      exact escaping_letter (fun _ => rfl) text
    split
    · rename_i h
      obtain rfl := h
      exact escaping_letter (fun _ => rfl) text
    split
    · rename_i h
      obtain rfl := h
      exact escaping_letter (fun _ => rfl) text
    split
    · rename_i h
      obtain rfl := h
      exact escaping_letter (fun _ => rfl) text
    split
    · rename_i h
      obtain rfl := h
      exact escaping_letter (fun _ => rfl) text
    split
    · rename_i h
      obtain rfl := h
      exact escaping_letter (fun _ => rfl) text
    split
    · rename_i h
      have hsmall : ch.toNat < 0xd800 := h.elim (fun h => by omega) (hspecial ch)
      exact ⟨splitQuoted_escapeUnicode hsmall text, unescape_escapeUnicode hsmall text⟩
    · rename_i hquote hslash _ _ _ _ _ hplain
      rw [not_or, Nat.not_lt] at hplain
      exact ⟨splitQuoted_plain hquote hslash text, unescape_plain hslash hplain.1 text⟩
  exact ⟨fun ch text => (hboth ch text).1, fun ch text => (hboth ch text).2⟩

/-- The characters a text has to go without inside HTML and JavaScript. -/
def htmlSpecial (ch : Char) : Bool :=
  ch == '<' || ch == '>' || ch == '&' || ch == '\u2028' || ch == '\u2029'

theorem escaping_html : Escaping (escapeAlso htmlSpecial) := by
  refine escaping_escapeAlso fun ch h => ?_
  simp only [htmlSpecial, Bool.or_eq_true, beq_iff_eq] at h
  obtain (((rfl | rfl) | rfl) | rfl) | rfl := h <;> decide

/-! ## Values -/

/-- White space between tokens. -/
def isSpace (ch : Char) : Bool := ch == ' ' || ch == '\t' || ch == '\n' || ch == '\r'

def skipSpace (text : List Char) : List Char := text.dropWhile isSpace

/-- The exponent of a number, if any. -/
def isExponent : List Char → Bool
  | [] => true
  | e :: text =>
    let digits := match text with
      | '+' :: digits => digits
      | '-' :: digits => digits
      | digits => digits
    (e == 'e' || e == 'E') && digits ≠ [] && digits.all Char.isDigit

/-- The fraction and the exponent of a number, if any. -/
def isFraction : List Char → Bool
  | '.' :: text => text.takeWhile Char.isDigit ≠ [] && isExponent (text.dropWhile Char.isDigit)
  | text => isExponent text

/-- The grammar of numbers. -/
def isNumber (text : List Char) : Bool :=
  let unsigned := match text with
    | '-' :: unsigned => unsigned
    | unsigned => unsigned
  let whole := unsigned.takeWhile Char.isDigit
  whole ≠ [] && (whole == ['0'] || whole.head? ≠ some '0') &&
    isFraction (unsigned.dropWhile Char.isDigit)

/-- A character that can be part of a number. -/
def isNumberChar (ch : Char) : Bool :=
  ch.isDigit || ch == '-' || ch == '+' || ch == '.' || ch == 'e' || ch == 'E'

/-- A literal or a number. -/
def readScalar : List Char → Option (Json × List Char)
  | 'n' :: 'u' :: 'l' :: 'l' :: text => some (.null, text)
  | 't' :: 'r' :: 'u' :: 'e' :: text => some (.bool true, text)
  | 'f' :: 'a' :: 'l' :: 's' :: 'e' :: text => some (.bool false, text)
  | text =>
    if isNumber (text.takeWhile isNumberChar) then
      some (.number (String.ofList (text.takeWhile isNumberChar)), text.dropWhile isNumberChar)
    else none

/-- The name of a member and the colon after it. -/
def readName (text : List Char) : Option (String × List Char) :=
  match skipSpace text with
  | '"' :: text => do
    let (name, text) ← readString text
    match skipSpace text with
    | ':' :: text => some (name, text)
    | _ => none
  | _ => none

mutual

/-- **Read one value**; the rest of the text is left over. -/
def readValue : ℕ → List Char → Option (Json × List Char)
  | 0, _ => none
  | fuel + 1, text =>
    match skipSpace text with
    | '"' :: text => (readString text).map fun (s, rest) => (.string s, rest)
    | '[' :: text =>
      match skipSpace text with
      | ']' :: rest => some (.array [], rest)
      | text => (readElements fuel text).map fun (values, rest) => (.array values, rest)
    | '\x7b' :: text =>
      match skipSpace text with
      | '\x7d' :: rest => some (.object [], rest)
      | text => (readMembers fuel text).map fun (members, rest) => (.object members, rest)
    | text => readScalar text

/-- The elements of an array, up to its closing bracket. -/
def readElements : ℕ → List Char → Option (List Json × List Char)
  | 0, _ => none
  | fuel + 1, text =>
    match readValue fuel text with
    | none => none
    | some (value, text) =>
      match skipSpace text with
      | ',' :: text => (readElements fuel text).map fun (values, rest) => (value :: values, rest)
      | ']' :: rest => some ([value], rest)
      | _ => none

/-- The members of an object, up to its closing brace. -/
def readMembers : ℕ → List Char → Option (List (String × Json) × List Char)
  | 0, _ => none
  | fuel + 1, text =>
    match readName text with
    | none => none
    | some (name, text) =>
      match readValue fuel text with
      | none => none
      | some (value, text) =>
        match skipSpace text with
        | ',' :: text =>
          (readMembers fuel text).map fun (members, rest) => ((name, value) :: members, rest)
        | '\x7d' :: rest => some ([(name, value)], rest)
        | _ => none

end

/-! ## Written values -/

section

variable (esc : Char → List Char)

mutual

/-- **The text of a value**, without white space. -/
def write : Json → List Char
  | .null => "null".toList
  | .bool true => "true".toList
  | .bool false => "false".toList
  | .number text => text.toList
  | .string text => quoted esc text
  | .array [] => ['[', ']']
  | .array (value :: values) => '[' :: write value ++ writeElements values
  | .object [] => ['\x7b', '\x7d']
  | .object (member :: members) => '\x7b' :: writeMember member ++ writeMembers members

/-- The elements after the first one, and the closing bracket. -/
def writeElements : List Json → List Char
  | [] => [']']
  | value :: values => ',' :: write value ++ writeElements values

def writeMember : String × Json → List Char
  | (name, value) => quoted esc name ++ ':' :: write value

/-- The members after the first one, and the closing brace. -/
def writeMembers : List (String × Json) → List Char
  | [] => ['\x7d']
  | member :: members => ',' :: writeMember member ++ writeMembers members

end

end

mutual

/-- Every number in a value is one. -/
def WellFormed : Json → Prop
  | .null => True
  | .bool _ => True
  | .number text => isNumber text.toList ∧ text.toList.all isNumberChar
  | .string _ => True
  | .array values => WellFormedValues values
  | .object members => WellFormedMembers members

def WellFormedValues : List Json → Prop
  | [] => True
  | value :: values => WellFormed value ∧ WellFormedValues values

def WellFormedMember : String × Json → Prop
  | (_, value) => WellFormed value

def WellFormedMembers : List (String × Json) → Prop
  | [] => True
  | member :: members => WellFormedMember member ∧ WellFormedMembers members

end

mutual

/-- How deep arrays and objects stand inside one another. -/
def depth : Json → ℕ
  | .array values => depthValues values + 1
  | .object members => depthMembers members + 1
  | _ => 0

def depthValues : List Json → ℕ
  | [] => 0
  | value :: values => max (depth value) (depthValues values)

def depthMember : String × Json → ℕ
  | (_, value) => depth value

def depthMembers : List (String × Json) → ℕ
  | [] => 0
  | member :: members => max (depthMember member) (depthMembers members)

end

theorem wellFormedMembers_iff : ∀ {members : List (String × Json)},
    WellFormedMembers members ↔ ∀ e ∈ members, WellFormed e.2
  | [] => by simp [WellFormedMembers]
  | (name, value) :: members => by
      rw [WellFormedMembers, WellFormedMember, List.forall_mem_cons, wellFormedMembers_iff]

mutual

theorem WellFormed.canonicalize : ∀ {value : Json}, WellFormed value → WellFormed value.canonicalize
  | .null, h => h
  | .bool _, h => h
  | .number _, h => h
  | .string _, h => h
  | .array _, h => WellFormedValues.canonicalize h
  | .object members, h => by
      have hmembers : WellFormedMembers (canonicalizeMembers members) :=
        WellFormedMembers.canonicalize h
      exact wellFormedMembers_iff.2 fun e he =>
        wellFormedMembers_iff.1 hmembers e (SortedMap.mem_of_mem_ofList he)

theorem WellFormedValues.canonicalize : ∀ {values : List Json},
    WellFormedValues values → WellFormedValues (canonicalizeValues values)
  | [], h => h
  | _ :: _, ⟨h, h'⟩ => ⟨h.canonicalize, WellFormedValues.canonicalize h'⟩

theorem WellFormedMembers.canonicalize : ∀ {members : List (String × Json)},
    WellFormedMembers members → WellFormedMembers (canonicalizeMembers members)
  | [], h => h
  | (_, _) :: _, ⟨h, h'⟩ => ⟨WellFormed.canonicalize h, WellFormedMembers.canonicalize h'⟩

end

/-- What follows a value does not belong to it. -/
def Ends (text : List Char) : Prop := ∀ ch ∈ text.head?, isNumberChar ch = false

theorem skipSpace_cons (ch : Char) (h : isSpace ch = false) (text : List Char) :
    skipSpace (ch :: text) = ch :: text :=
  List.dropWhile_cons_of_neg (by simp [h])

theorem isSpace_of_isNumberChar {ch : Char} (h : isNumberChar ch) : isSpace ch = false := by
  simp only [isSpace, Bool.or_eq_false_iff, beq_eq_false_iff_ne]
  refine ⟨⟨⟨?_, ?_⟩, ?_⟩, ?_⟩
  all_goals
    rintro rfl
    exact absurd h (by decide)

/-- A number is read to its end. -/
theorem readScalar_number {digits text : List Char} (hnumber : isNumber digits)
    (hchars : digits.all isNumberChar) (hends : Ends text) :
    readScalar (digits ++ text) = some (.number (String.ofList digits), text) := by
  have hall : ∀ ch ∈ digits, isNumberChar ch := List.all_eq_true.1 hchars
  have htake : (digits ++ text).takeWhile isNumberChar = digits := by
    rw [List.takeWhile_append_of_pos hall]
    match text with
    | [] => rw [List.takeWhile_nil, List.append_nil]
    | ch :: text => rw [List.takeWhile_cons_of_neg (by simp [hends ch rfl]), List.append_nil]
  have hdrop : (digits ++ text).dropWhile isNumberChar = text := by
    rw [List.dropWhile_append_of_pos hall]
    match text with
    | [] => rfl
    | ch :: text => rw [List.dropWhile_cons_of_neg (by simp [hends ch rfl])]
  match digits, hnumber with
  | ch :: digits, hnumber =>
    have hch := hall ch List.mem_cons_self
    have hne (other : Char) (hother : isNumberChar other = false) : ch ≠ other := by
      rintro rfl
      exact nomatch hother.symm.trans hch
    rw [List.cons_append] at htake hdrop ⊢
    rw [readScalar, htake, hdrop, if_pos hnumber]
    · exact fun _ h => absurd (List.cons.inj h).1 (hne 'n' (by decide))
    · exact fun _ h => absurd (List.cons.inj h).1 (hne 't' (by decide))
    · exact fun _ h => absurd (List.cons.inj h).1 (hne 'f' (by decide))

section

variable {esc : Char → List Char}

theorem readName_quoted (h : Escaping esc) (name : String) (text : List Char) :
    readName (quoted esc name ++ ':' :: text) = some (name, text) := by
  have hname : quoted esc name ++ ':' :: text =
      '"' :: (name.toList.flatMap esc ++ '"' :: ':' :: text) := by simp [quoted]
  rw [readName, hname, skipSpace_cons _ (by decide)]
  simp only [readString_quoted h, Option.bind_eq_bind, Option.bind_some,
    skipSpace_cons ':' (by decide)]

/-- What may follow an element. -/
theorem ends_writeElements (values : List Json) (text : List Char) :
    Ends (writeElements esc values ++ text) := by
  match values with
  | [] => simp [Ends, writeElements, isNumberChar]
  | _ :: _ => simp [Ends, writeElements, isNumberChar]

theorem ends_writeMembers (members : List (String × Json)) (text : List Char) :
    Ends (writeMembers esc members ++ text) := by
  match members with
  | [] => simp [Ends, writeMembers, isNumberChar]
  | _ :: _ => simp [Ends, writeMembers, isNumberChar]

variable (esc) in
theorem length_writeElements_pos (values : List Json) : 0 < (writeElements esc values).length := by
  match values with
  | [] => simp [writeElements]
  | _ :: _ => simp [writeElements]

variable (esc) in
theorem length_writeMembers_pos (members : List (String × Json)) :
    0 < (writeMembers esc members).length := by
  match members with
  | [] => simp [writeMembers]
  | _ :: _ => simp [writeMembers]

variable (esc) in
/-- The first character of a written value is no white space and closes nothing. -/
theorem exists_write_eq_cons : ∀ {value : Json}, WellFormed value → ∃ ch text,
    write esc value = ch :: text ∧ isSpace ch = false ∧ ch ≠ ']' ∧ ch ≠ '\x7d'
  | .null, _ => ⟨'n', _, rfl, by decide⟩
  | .bool true, _ => ⟨'t', _, rfl, by decide⟩
  | .bool false, _ => ⟨'f', _, rfl, by decide⟩
  | .number text, h => by
      rw [WellFormed] at h
      obtain ⟨hnumber, hchars⟩ := h
      rw [write]
      match text.toList, hnumber, hchars with
      | ch :: rest, _, hchars =>
        have hch := List.all_eq_true.1 hchars ch List.mem_cons_self
        refine ⟨ch, rest, rfl, isSpace_of_isNumberChar hch, ?_, ?_⟩
        all_goals
          rintro rfl
          exact absurd hch (by decide)
  | .string _, _ => ⟨'"', _, by rw [write, quoted, List.cons_append], by decide⟩
  | .array [], _ => ⟨'[', _, by rw [write], by decide⟩
  | .array (_ :: _), _ => ⟨'[', _, by rw [write, List.cons_append], by decide⟩
  | .object [], _ => ⟨'\x7b', _, by rw [write], by decide⟩
  | .object (_ :: _), _ => ⟨'\x7b', _, by rw [write, List.cons_append], by decide⟩

variable (esc) in
/-- What is written is read back with so much fuel. -/
structure Reads (fuel : ℕ) : Prop where
  value : ∀ v text, WellFormed v → Ends text → (write esc v).length ≤ fuel →
    readValue fuel (write esc v ++ text) = some (v, text)
  elements : ∀ v vs text, WellFormed v → WellFormedValues vs →
    (write esc v ++ writeElements esc vs).length ≤ fuel →
    readElements fuel (write esc v ++ (writeElements esc vs ++ text)) = some (v :: vs, text)
  members : ∀ m ms text, WellFormedMember m → WellFormedMembers ms →
    (writeMember esc m ++ writeMembers esc ms).length ≤ fuel →
    readMembers fuel (writeMember esc m ++ (writeMembers esc ms ++ text)) = some (m :: ms, text)

theorem reads_zero : Reads esc 0 where
  value v text hwell _ hfuel := by
    obtain ⟨ch, rest, hwrite, -⟩ := exists_write_eq_cons esc hwell
    rw [hwrite] at hfuel
    exact absurd hfuel (by simp)
  elements v vs text _ _ hfuel := by
    have := length_writeElements_pos esc vs
    rw [List.length_append] at hfuel
    omega
  members m ms text _ _ hfuel := by
    have := length_writeMembers_pos esc ms
    rw [List.length_append] at hfuel
    omega

variable {fuel : ℕ}

theorem readElements_succ (hreads : Reads esc fuel) (v : Json) (vs : List Json)
    (text : List Char) (hv : WellFormed v) (hvs : WellFormedValues vs)
    (hfuel : (write esc v ++ writeElements esc vs).length ≤ fuel + 1) :
    readElements (fuel + 1) (write esc v ++ (writeElements esc vs ++ text)) =
      some (v :: vs, text) := by
  have hpos := length_writeElements_pos esc vs
  rw [List.length_append] at hfuel
  rw [readElements, hreads.value v _ hv (ends_writeElements vs text) (by omega)]
  match vs, hvs, hfuel with
  | [], _, _ =>
    rw [writeElements]
    rfl
  | w :: vs, hvs, hfuel =>
    rw [WellFormedValues] at hvs
    rw [writeElements, List.length_append, List.length_cons] at hfuel
    have htail := hreads.elements w vs text hvs.1 hvs.2 (by rw [List.length_append]; omega)
    simp only [writeElements, List.cons_append, List.append_assoc,
      skipSpace_cons ',' (by decide), htail, Option.map_some]

theorem readMembers_succ (h : Escaping esc) (hreads : Reads esc fuel) (m : String × Json)
    (ms : List (String × Json)) (text : List Char) (hm : WellFormedMember m)
    (hms : WellFormedMembers ms)
    (hfuel : (writeMember esc m ++ writeMembers esc ms).length ≤ fuel + 1) :
    readMembers (fuel + 1) (writeMember esc m ++ (writeMembers esc ms ++ text)) =
      some (m :: ms, text) := by
  obtain ⟨name, v⟩ := m
  rw [WellFormedMember] at hm
  have hpos := length_writeMembers_pos esc ms
  rw [writeMember, List.length_append, List.length_append, List.length_cons] at hfuel
  rw [readMembers, writeMember, List.append_assoc, List.cons_append, readName_quoted h]
  simp only [hreads.value v _ hm (ends_writeMembers ms text) (by omega)]
  match ms, hms, hfuel with
  | [], _, _ =>
    rw [writeMembers]
    rfl
  | m :: ms, hms, hfuel =>
    rw [WellFormedMembers] at hms
    rw [writeMembers, List.length_append, List.length_cons] at hfuel
    have htail := hreads.members m ms text hms.1 hms.2 (by rw [List.length_append]; omega)
    simp only [writeMembers, List.cons_append, List.append_assoc,
      skipSpace_cons ',' (by decide), htail, Option.map_some]

theorem readValue_succ (h : Escaping esc) (hreads : Reads esc fuel) : ∀ (v : Json)
    (text : List Char), WellFormed v → Ends text → (write esc v).length ≤ fuel + 1 →
      readValue (fuel + 1) (write esc v ++ text) = some (v, text)
  | .null, text, _, _, _ => rfl
  | .bool true, text, _, _, _ => rfl
  | .bool false, text, _, _, _ => rfl
  | .number digits, text, hwell, hends, _ => by
      rw [WellFormed] at hwell
      rw [write]
      have hscalar := readScalar_number hwell.1 hwell.2 hends
      rw [String.ofList_toList] at hscalar
      match digits.toList, hwell, hscalar with
      | ch :: rest, hwell, hscalar =>
        have hch := List.all_eq_true.1 hwell.2 ch List.mem_cons_self
        have hne (other : Char) (hother : isNumberChar other = false) : ch ≠ other := by
          rintro rfl
          exact nomatch hother.symm.trans hch
        rw [List.cons_append] at hscalar ⊢
        rw [readValue, skipSpace_cons _ (isSpace_of_isNumberChar hch)]
        split
        · exact absurd (List.cons.inj ‹_›).1 (hne '"' (by decide))
        · exact absurd (List.cons.inj ‹_›).1 (hne '[' (by decide))
        · exact absurd (List.cons.inj ‹_›).1 (hne '\x7b' (by decide))
        · exact hscalar
  | .string s, text, _, _, _ => by
      have hquoted : write esc (.string s) ++ text =
          '"' :: (s.toList.flatMap esc ++ '"' :: text) := by simp [write, quoted]
      rw [hquoted, readValue, skipSpace_cons _ (by decide)]
      simp only [readString_quoted h, Option.map_some]
  | .array [], text, _, _, _ => by
      rw [write]
      rfl
  | .array (v :: vs), text, hwell, _, hfuel => by
      rw [WellFormed, WellFormedValues] at hwell
      obtain ⟨ch, rest, hwrite, hspace, hclose, -⟩ := exists_write_eq_cons esc hwell.1
      rw [write, List.cons_append, List.length_cons] at hfuel
      have helements := hreads.elements v vs text hwell.1 hwell.2 (by omega)
      rw [write, List.cons_append, List.cons_append, List.append_assoc, readValue,
        skipSpace_cons _ (by decide)]
      rw [hwrite, List.cons_append] at helements ⊢
      simp only [skipSpace_cons _ hspace]
      split
      · exact absurd (List.cons.inj ‹_›).1 hclose
      · rw [helements]
        rfl
  | .object [], text, _, _, _ => by
      rw [write]
      rfl
  | .object ((name, v) :: ms), text, hwell, _, hfuel => by
      rw [WellFormed, WellFormedMembers] at hwell
      rw [write, List.cons_append, List.length_cons] at hfuel
      have hmembers := hreads.members (name, v) ms text hwell.1 hwell.2 (by omega)
      have hopen : writeMember esc (name, v) ++ (writeMembers esc ms ++ text) =
          '"' :: ((writeMember esc (name, v)).tail ++ (writeMembers esc ms ++ text)) := by
        simp [writeMember, quoted]
      rw [write, List.cons_append, List.cons_append, List.append_assoc, readValue,
        skipSpace_cons _ (by decide)]
      rw [hopen] at hmembers ⊢
      simp only [skipSpace_cons '"' (by decide)]
      split
      · exact absurd (List.cons.inj ‹_›).1 (by decide)
      · rw [hmembers]
        rfl

theorem reads (h : Escaping esc) : ∀ fuel, Reads esc fuel
  | 0 => reads_zero
  | fuel + 1 =>
    ⟨readValue_succ h (reads h fuel), readElements_succ (reads h fuel),
      readMembers_succ h (reads h fuel)⟩

/-- **What is written is read back**, with what follows it left over. -/
theorem readValue_write (h : Escaping esc) {value : Json} {text : List Char}
    (hwell : WellFormed value) (hends : Ends text) {fuel : ℕ}
    (hfuel : (write esc value).length ≤ fuel) :
    readValue fuel (write esc value ++ text) = some (value, text) :=
  (reads h fuel).value value text hwell hends hfuel

/-- A text that is one value, with white space around it. -/
def read (text : List Char) : Option Json :=
  match readValue text.length text with
  | some (value, rest) => if skipSpace rest = [] then some value else none
  | none => none

/-- **A written value is read back.** -/
theorem read_write (h : Escaping esc) {value : Json} (hwell : WellFormed value) :
    read (write esc value) = some value := by
  have hends : Ends [] := fun _ h => nomatch h
  have hvalue := readValue_write h hwell hends le_rfl
  rw [List.append_nil] at hvalue
  rw [read, hvalue]
  rfl

end

/-! ## The text of `render` -/

theorem escapeChar_eq_escapeAlso : escapeChar = escapeAlso fun _ => false := by
  funext ch
  unfold escapeChar escapeAlso
  by_cases hsmall : ch.toNat < 32
  · have h₁ : ch.toNat / 4096 = 0 := by omega
    have h₂ : ch.toNat / 256 % 16 = 0 := by omega
    have h₃ : ch.toNat / 16 % 16 = ch.toNat / 16 := by omega
    simp only [hsmall, true_or, if_true, escapeUnicode, h₁, h₂, h₃]
    rfl
  · simp only [hsmall, Bool.false_eq_true, or_self, if_false]

theorem escaping_escapeChar : Escaping escapeChar := by
  rw [escapeChar_eq_escapeAlso]
  exact escaping_escapeAlso fun _ h => nomatch h

theorem toList_quote (text : String) : (quote text).toList = quoted escapeChar text := by
  rw [quote, String.toList_ofList, quoted]

mutual

theorem toList_render : ∀ value : Json, (render value).toList = write escapeChar value
  | .null => rfl
  | .bool true => rfl
  | .bool false => rfl
  | .number _ => rfl
  | .string text => toList_quote text
  | .array [] => rfl
  | .array (value :: values) => by
      rw [render, renderValues, write, String.append_assoc, String.toList_append,
        toList_renderValues values, toList_render value]
      rfl
  | .object [] => rfl
  | .object (member :: members) => by
      rw [render, renderMembers, write, String.append_assoc, String.toList_append,
        toList_renderMembers members, toList_renderMember member]
      rfl

theorem toList_renderValues : ∀ (values : List Json) (first : String),
    (",".intercalate (first :: renderValues values) ++ "]").toList =
      first.toList ++ writeElements escapeChar values
  | [], first => by
      rw [renderValues, String.intercalate_singleton, String.toList_append]
      rfl
  | value :: values, first => by
      rw [renderValues, String.intercalate_cons_cons, writeElements, String.append_assoc,
        String.append_assoc, String.toList_append, String.toList_append,
        toList_renderValues values, toList_render value]
      rfl

theorem toList_renderMembers : ∀ (members : List (String × Json)) (first : String),
    (",".intercalate (first :: renderMembers members) ++ "\x7d").toList =
      first.toList ++ writeMembers escapeChar members
  | [], first => by
      rw [renderMembers, String.intercalate_singleton, String.toList_append]
      rfl
  | member :: members, first => by
      rw [renderMembers, String.intercalate_cons_cons, writeMembers, String.append_assoc,
        String.append_assoc, String.toList_append, String.toList_append,
        toList_renderMembers members, toList_renderMember member]
      rfl

theorem toList_renderMember : ∀ member : String × Json,
    (renderMember member).toList = writeMember escapeChar member
  | (name, value) => by
      rw [renderMember, writeMember, String.toList_append, String.toList_append, toList_quote,
        toList_render value, List.append_assoc]
      rfl

end

/-- **A value with its members in order is read back from its text.** -/
theorem read_render {value : Json} (hwell : WellFormed value) :
    read (render value).toList = some value := by
  rw [toList_render]
  exact read_write escaping_escapeChar hwell

/-! ## Whole numbers -/

/-- The value of digits. -/
def digitsValue (digits : List Char) : Option ℕ :=
  if digits ≠ [] ∧ digits.all Char.isDigit then some (Nat.ofDigitChars 10 digits 0) else none

/-- The value of a number that has no fraction and no exponent. -/
def wholeNumber (text : String) : Option ℤ :=
  match text.toList with
  | '-' :: digits => (digitsValue digits).map fun n : ℕ => -Int.ofNat n
  | digits => (digitsValue digits).map Int.ofNat

theorem all_isDigit_toDigits (n : ℕ) : (Nat.toDigits 10 n).all Char.isDigit :=
  List.all_eq_true.2 fun _ hmem => Nat.isDigit_of_mem_toDigits (by decide) (by decide) hmem

theorem digitsValue_toDigits (n : ℕ) : digitsValue (Nat.toDigits 10 n) = some n := by
  rw [digitsValue, if_pos ⟨Nat.toDigits_ne_nil, all_isDigit_toDigits n⟩]
  exact congrArg some (Nat.ofDigitChars_toDigits (by decide) (by decide))

/-- Only zero is written with a zero in front. -/
theorem head_toDigits {n : ℕ} (hpos : 0 < n) : (Nat.toDigits 10 n).head? ≠ some '0' := by
  induction n using Nat.strong_induction_on with
  | _ n ih =>
    by_cases hsmall : n < 10
    · have hdigit : ∀ n < 10, 0 < n → some n.digitChar ≠ some '0' := by decide
      rw [Nat.toDigits_of_lt_base hsmall]
      exact hdigit n hsmall hpos
    · rw [Nat.toDigits_of_base_le (by decide) (Nat.le_of_not_lt hsmall),
        List.head?_append_of_ne_nil _ Nat.toDigits_ne_nil]
      exact ih (n / 10) (by omega) (by omega)

theorem isNumber_toDigits (n : ℕ) : isNumber (Nat.toDigits 10 n) ∧
    isNumber ('-' :: Nat.toDigits 10 n) := by
  have hall := List.all_eq_true.1 (all_isDigit_toDigits n)
  have htake : (Nat.toDigits 10 n).takeWhile Char.isDigit = Nat.toDigits 10 n :=
    List.takeWhile_eq_self_iff.2 hall
  have hdrop : (Nat.toDigits 10 n).dropWhile Char.isDigit = [] :=
    List.dropWhile_eq_nil_iff.2 hall
  have hzero : Nat.toDigits 10 n = ['0'] ∨ (Nat.toDigits 10 n).head? ≠ some '0' := by
    match n with
    | 0 => exact .inl rfl
    | n + 1 => exact .inr (head_toDigits (Nat.succ_pos n))
  have hunsigned : (match Nat.toDigits 10 n with
      | '-' :: unsigned => unsigned
      | unsigned => unsigned) = Nat.toDigits 10 n := by
    split
    · rename_i rest hminus
      have := hall '-' (hminus ▸ List.mem_cons_self)
      exact nomatch this
    · rfl
  constructor
  · simp only [isNumber, hunsigned, htake, hdrop]
    simpa [isFraction, isExponent] using hzero
  · simp only [isNumber, htake, hdrop]
    simpa [isFraction, isExponent] using hzero

theorem toList_toString_int (n : ℤ) : (toString n).toList =
    if 0 ≤ n then Nat.toDigits 10 n.toNat else '-' :: Nat.toDigits 10 (-n).toNat := by
  rw [Int.toString_eq_repr, Int.repr_eq_if]
  split_ifs
  · exact Nat.toList_repr
  · rw [String.toList_append, Nat.toList_repr]
    rfl

/-- **A whole number is well formed, and its value is read back.** -/
theorem wellFormed_ofInt (n : ℤ) : WellFormed (ofInt n) := by
  rw [ofInt, WellFormed, toList_toString_int]
  have hchars : ∀ m, (Nat.toDigits 10 m).all isNumberChar := fun m =>
    List.all_eq_true.2 fun ch hmem => by
      simp [isNumberChar, List.all_eq_true.1 (all_isDigit_toDigits m) ch hmem]
  split_ifs
  · exact ⟨(isNumber_toDigits _).1, hchars _⟩
  · refine ⟨(isNumber_toDigits _).2, ?_⟩
    rw [List.all_cons, hchars]
    rfl

theorem wholeNumber_toString (n : ℤ) : wholeNumber (toString n) = some n := by
  rw [wholeNumber, toList_toString_int]
  split_ifs with hpos
  · split
    · rename_i rest hminus
      have := List.all_eq_true.1 (all_isDigit_toDigits n.toNat) '-' (hminus ▸ List.mem_cons_self)
      exact nomatch this
    · rw [digitsValue_toDigits, Option.map_some]
      exact congrArg some (Int.toNat_of_nonneg hpos)
  · show (digitsValue (Nat.toDigits 10 (-n).toNat)).map (fun m : ℕ => -Int.ofNat m) = some n
    rw [digitsValue_toDigits, Option.map_some]
    have hvalue : -Int.ofNat (-n).toNat = n := by
      rw [Int.ofNat_eq_natCast]
      omega
    rw [hvalue]

end Json

end Cerbero
