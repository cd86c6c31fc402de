import Cerbero.Lib.Message

/-!
# Search/Query — the query language of the search API

`parseQuery` of `services/cerbero-api/search.go`: a lexer over the bytes of the query and a parser
by recursive descent.  A Go string is the list of its bytes; the token `eof` is the end of the list
of tokens.
-/

namespace Cerbero

namespace Search

open Text

/-- A Go string. -/
abbrev GoString := List UInt8

/-! ## White space -/

/-- The number of bytes of the white space a string starts with. -/
def spaceSize : GoString → ℕ
  | 0xc2 :: 0x85 :: _ => 2
  | 0xc2 :: 0xa0 :: _ => 2
  | 0xe1 :: 0x9a :: 0x80 :: _ => 3
  | 0xe2 :: 0x80 :: b :: _ =>
    if b ≤ 0x8a && 0x80 ≤ b || b == 0xa8 || b == 0xa9 || b == 0xaf then 3 else 0
  | 0xe2 :: 0x81 :: 0x9f :: _ => 3
  | 0xe3 :: 0x80 :: 0x80 :: _ => 3
  | b :: _ => if b == 0x20 || 0x09 ≤ b && b ≤ 0x0d then 1 else 0
  | [] => 0

/-- Drop white space at the start, as `size` measures it; `skip` bytes of it are left. -/
def trimLeft (size : GoString → ℕ) : ℕ → GoString → GoString
  | _, [] => []
  | skip + 1, _ :: rest => trimLeft size skip rest
  | 0, b :: rest =>
    match size (b :: rest) with
    | 0 => b :: rest
    | skip + 1 => trimLeft size skip rest

/-- The number of bytes of the white space a string ends with, from its last byte on. -/
def spaceSizeReversed (value : GoString) : ℕ :=
  if spaceSize (value.take 3).reverse = 3 then 3
  else if spaceSize (value.take 2).reverse = 2 then 2
  else if spaceSize (value.take 1) = 1 then 1
  else 0

/-- `strings.TrimSpace`. -/
def trimSpace (value : GoString) : GoString :=
  (trimLeft spaceSizeReversed 0 (trimLeft spaceSize 0 value).reverse).reverse

/-- A text of graphic characters starts with no white space. -/
theorem spaceSize_graphic {b : UInt8} {rest : List UInt8} (h : 0x21 ≤ b ∧ b ≤ 0x7e) :
    spaceSize (b :: rest) = 0 := by
  obtain ⟨hleast, hmost⟩ := h
  rw [UInt8.le_iff_toNat_le] at hleast hmost
  unfold spaceSize
  split
  all_goals first
    | (rename_i heq
       obtain ⟨rfl, -⟩ := List.cons.inj heq
       exact absurd hmost (by decide))
    | skip
  · rename_i heq
    obtain ⟨rfl, -⟩ := List.cons.inj heq
    refine if_neg fun hspace => ?_
    simp only [Bool.or_eq_true, beq_iff_eq, Bool.and_eq_true, decide_eq_true_eq,
      UInt8.le_iff_toNat_le] at hspace
    obtain rfl | hspace := hspace
    · exact absurd hleast (by decide)
    · have := hspace.2
      simp at hleast this
      omega
  · rename_i heq
    exact nomatch heq

/-- The first bytes of a reversed text, in their order, start with one of them. -/
theorem spaceSize_take_reverse {l : List UInt8} {n : ℕ} (hn : 0 < n) (hne : l ≠ [])
    (h : ∀ b ∈ l, 0x21 ≤ b ∧ b ≤ 0x7e) : spaceSize (l.take n).reverse = 0 := by
  have hpart : (l.take n).reverse ≠ [] := by
    simp only [ne_eq, List.reverse_eq_nil_iff, List.take_eq_nil_iff, hne, or_false]
    omega
  obtain ⟨b, rest, heq⟩ := List.exists_cons_of_ne_nil hpart
  have hb : b ∈ l := by
    have : b ∈ (l.take n).reverse := heq ▸ List.mem_cons_self
    exact List.mem_of_mem_take (List.mem_reverse.1 this)
  rw [heq]
  exact spaceSize_graphic (h b hb)

theorem spaceSizeReversed_graphic {l : List UInt8} (hne : l ≠ [])
    (h : ∀ b ∈ l, 0x21 ≤ b ∧ b ≤ 0x7e) : spaceSizeReversed l = 0 := by
  have hone : l.take 1 = (l.take 1).reverse := by
    match l, hne with
    | b :: l, _ => rfl
  rw [spaceSizeReversed, hone, spaceSize_take_reverse (by decide) hne h,
    spaceSize_take_reverse (by decide) hne h, spaceSize_take_reverse (by decide) hne h]
  rfl

theorem trimLeft_reversed_graphic {l : GoString} (h : ∀ b ∈ l, 0x21 ≤ b ∧ b ≤ 0x7e) :
    trimLeft spaceSizeReversed 0 l = l := by
  match l, h with
  | [], _ => rfl
  | b :: rest, h => rw [trimLeft, spaceSizeReversed_graphic (List.cons_ne_nil _ _) h]

/-- **A text of graphic characters is not trimmed.** -/
theorem trimSpace_graphic {value : GoString} (h : ∀ b ∈ value, 0x21 ≤ b ∧ b ≤ 0x7e) :
    trimSpace value = value := by
  have hleft : trimLeft spaceSize 0 value = value := by
    match value, h with
    | [], _ => rfl
    | b :: rest, h => rw [trimLeft, spaceSize_graphic (h b List.mem_cons_self)]
  rw [trimSpace, hleft, trimLeft_reversed_graphic fun b hb => h b (List.mem_reverse.1 hb),
    List.reverse_reverse]

/-! ## Literals -/

/-- `queryValueKind`. -/
inductive ValueKind
  | string
  | number
  deriving DecidableEq, Repr

/-- `queryLiteral`. -/
structure QueryLiteral where
  kind : ValueKind
  text : GoString
  deriving DecidableEq, Repr

/-- The bytes of the character a string starts with, if it is a valid one of several bytes. -/
def multibyteRune (value : GoString) : Option GoString :=
  [2, 3, 4].findSome? fun size =>
    if (fromUtf8 (value.take size)).any fun text => text.length = 1 ∧ 1 < (bytes text).length then
      some (value.take size)
    else none

/-- The value of a hexadecimal digit. -/
def unhex (b : UInt8) : Option ℕ :=
  if 0x30 ≤ b && b ≤ 0x39 then some (b.toNat - 0x30)
  else if 0x61 ≤ b && b ≤ 0x66 then some (b.toNat - 0x57)
  else if 0x41 ≤ b && b ≤ 0x46 then some (b.toNat - 0x37)
  else none

/-- The value of an octal digit. -/
def unoctal (b : UInt8) : Option ℕ :=
  if 0x30 ≤ b && b ≤ 0x37 then some (b.toNat - 0x30) else none

/-- The first `count` digits of a string, in base `base`. -/
def readDigits (digit : UInt8 → Option ℕ) (base count : ℕ) (value : GoString) : Option ℕ :=
  if value.length < count then none
  else (value.take count).foldl (fun total b => do return (← total) * base + (← digit b)) (some 0)

/-- `utf8.AppendRune` of a valid rune. -/
def encodeRune (n : ℕ) : Option GoString :=
  if n < 0xd800 ∨ 0xdfff < n ∧ n ≤ 0x10ffff then some (String.utf8EncodeChar (Char.ofNat n))
  else none

/-- What follows a backslash: its bytes, and how many bytes it takes. -/
def unquoteEscape : GoString → Option (GoString × ℕ)
  | 0x61 :: _ => some ([0x07], 1)
  | 0x62 :: _ => some ([0x08], 1)
  | 0x66 :: _ => some ([0x0c], 1)
  | 0x6e :: _ => some ([0x0a], 1)
  | 0x72 :: _ => some ([0x0d], 1)
  | 0x74 :: _ => some ([0x09], 1)
  | 0x76 :: _ => some ([0x0b], 1)
  | 0x5c :: _ => some ([0x5c], 1)
  | 0x22 :: _ => some ([0x22], 1)
  | 0x78 :: rest => (readDigits unhex 16 2 rest).map fun n => ([.ofNat n], 3)
  | 0x75 :: rest => ((readDigits unhex 16 4 rest).bind encodeRune).map (·, 5)
  | 0x55 :: rest => ((readDigits unhex 16 8 rest).bind encodeRune).map (·, 9)
  | b :: rest =>
    ((readDigits unoctal 8 3 (b :: rest)).filter (· ≤ 255)).map fun n => ([.ofNat n], 3)
  | [] => none

/-- `UnquoteChar` for each character up to the closing mark, which has to be the last byte. -/
def unquoteChars : ℕ → GoString → Option GoString
  | _, [] => none
  | skip + 1, _ :: rest => unquoteChars skip rest
  | 0, b :: rest =>
    if b = 0x22 then if rest = [] then some [] else none
    else if b = 0x0a then none
    else if b = 0x5c then
      match unquoteEscape rest with
      | none => none
      | some (decoded, size) => (unquoteChars size rest).map (decoded ++ ·)
    else if b < 0x80 then (unquoteChars 0 rest).map (b :: ·)
    else match multibyteRune (b :: rest) with
      | some rune => (unquoteChars (rune.length - 1) rest).map (rune ++ ·)
      | none => (unquoteChars 0 rest).map ([0xef, 0xbf, 0xbd] ++ ·)

/-- `strconv.Unquote` of a string that starts with a quotation mark. -/
def unquote : GoString → Option GoString
  | 0x22 :: rest => unquoteChars 0 rest
  | _ => none

/-- `strconv.ParseFloat(_, 64)` takes the text: digits with at most one point, below what rounds to
infinity. -/
def parsesAsFloat (text : GoString) : Bool :=
  let unsigned := if text.head? = some 0x2d then text.tail else text
  let whole := unsigned.takeWhile isAsciiDigit
  let fraction := (unsigned.dropWhile isAsciiDigit).tail
  let digits := whole ++ fraction
  let value := digits.foldl (fun n b => n * 10 + (b.toNat - 0x30)) 0
  digits ≠ [] && fraction.all isAsciiDigit &&
    (unsigned.dropWhile isAsciiDigit).head? ∈ [none, some 0x2e] &&
    value < (2 ^ 1024 - 2 ^ 970) * 10 ^ fraction.length

/-! ## Tokens -/

/-- The operators of a predicate with one value. -/
inductive Operator
  | eq
  | ne
  | gt
  | ge
  | lt
  | le
  | contains
  | startsWith
  | endsWith
  deriving DecidableEq, Repr

/-- `queryToken`: the kinds of tokens, each with the text it needs. -/
inductive QueryToken
  | lparen
  | rparen
  | lbracket
  | rbracket
  | comma
  | string (text : GoString)
  | number (text : GoString)
  | operator (op : Operator)
  | and
  | or
  | not
  | exists
  | in
  | identifier (text : GoString)
  deriving DecidableEq, Repr

/-- `Text` of an operator, which for the ones on texts is their keyword. -/
def Operator.text : Operator → String
  | .eq => "=="
  | .ne => "!="
  | .gt => ">"
  | .ge => ">="
  | .lt => "<"
  | .le => "<="
  | .contains => "contains"
  | .startsWith => "starts_with"
  | .endsWith => "ends_with"

/-- `Text` of a token. -/
def QueryToken.text : QueryToken → GoString
  | .lparen => bytes "("
  | .rparen => bytes ")"
  | .lbracket => bytes "["
  | .rbracket => bytes "]"
  | .comma => bytes ","
  | .string text => text
  | .number text => text
  | .operator op => bytes op.text
  | .and => bytes "and"
  | .or => bytes "or"
  | .not => bytes "not"
  | .exists => bytes "exists"
  | .in => bytes "in"
  | .identifier text => text

/-- The error of a token of another kind; the token after the last one is `eof`. -/
def expectedText (kind : String) (token : Option QueryToken) : String :=
  "expected " ++ kind ++ ", got " ++ quote (token.elim [] QueryToken.text)

/-- `unicode.IsSpace` of a byte. -/
def isSpaceByte (b : UInt8) : Bool :=
  b == 0x20 || 0x09 ≤ b && b ≤ 0x0d || b == 0x85 || b == 0xa0

/-- `isIdentifierStart`. -/
def isIdentifierStart (b : UInt8) : Bool :=
  b == 0x5f || 0x41 ≤ b && b ≤ 0x5a || 0x61 ≤ b && b ≤ 0x7a

/-- `isIdentifierPart`. -/
def isIdentifierPart (b : UInt8) : Bool := isIdentifierStart b || isAsciiDigit b || b == 0x2e

/-- The bytes of a quoted literal after its opening mark. -/
def quotedSize : Bool → GoString → ℕ
  | _, [] => 0
  | false, 0x22 :: _ => 1
  | false, 0x5c :: rest => quotedSize true rest + 1
  | _, _ :: rest => quotedSize false rest + 1

/-- The operator a text of one or two bytes stands for. -/
def operatorOf : GoString → Option Operator
  | [0x3d, 0x3d] => some .eq
  | [0x21, 0x3d] => some .ne
  | [0x3e] => some .gt
  | [0x3e, 0x3d] => some .ge
  | [0x3c] => some .lt
  | [0x3c, 0x3d] => some .le
  | _ => none

/-- A keyword or an identifier. -/
def wordToken (text : GoString) : QueryToken :=
  match [("and", QueryToken.and), ("or", .or), ("not", .not), ("contains", .operator .contains),
    ("starts_with", .operator .startsWith), ("ends_with", .operator .endsWith),
    ("exists", .exists), ("in", .in)].find? fun keyword =>
      bytes keyword.1 == text.map toAsciiLowercase with
  | some (_, token) => token
  | none => .identifier text

/-- The token that starts with a byte, and how many bytes follow that one. -/
def nextToken (b : UInt8) (rest : GoString) : Except String (QueryToken × ℕ) :=
  if b = 0x28 then .ok (.lparen, 0)
  else if b = 0x29 then .ok (.rparen, 0)
  else if b = 0x5b then .ok (.lbracket, 0)
  else if b = 0x5d then .ok (.rbracket, 0)
  else if b = 0x2c then .ok (.comma, 0)
  else if b = 0x22 then
    let size := quotedSize false rest
    let literal := b :: rest.take size
    if literal.getLast? ≠ some 0x22 then .error "unterminated string literal"
    else match unquote literal with
      | none => .error "invalid string literal"
      | some decoded => .ok (.string decoded, size)
  else if b = 0x3d ∨ b = 0x21 ∨ b = 0x3c ∨ b = 0x3e then
    let size := if rest.head? = some 0x3d then 1 else 0
    match operatorOf (b :: rest.take size) with
    | none => .error ("unsupported operator " ++ quote (b :: rest.take size))
    | some op => .ok (.operator op, size)
  else if isIdentifierStart b then
    let more := rest.takeWhile isIdentifierPart
    .ok (wordToken (b :: more), more.length)
  else if b = 0x2d ∨ isAsciiDigit b then
    let more := rest.takeWhile fun digit => isAsciiDigit digit || digit == 0x2e
    if parsesAsFloat (b :: more) then .ok (.number (b :: more), more.length)
    else .error ("invalid numeric literal " ++ quote (b :: more))
  else .error ("unexpected character " ++ quoteByte b)

/-- The loop of `lexQuery`: the first `skip` bytes belong to the last token. -/
def lexFrom : ℕ → GoString → Except String (List QueryToken)
  | _, [] => .ok []
  | skip + 1, _ :: rest => lexFrom skip rest
  | 0, b :: rest =>
    if isSpaceByte b then lexFrom 0 rest
    else match nextToken b rest with
      | .error message => .error message
      | .ok (token, size) => (lexFrom size rest).map (token :: ·)

/-- `lexQuery`. -/
def lexQuery (raw : GoString) : Except String (List QueryToken) := lexFrom 0 raw

/-! ## Expressions -/

/-- What a predicate asks of its field. -/
inductive Test
  | exists
  | in (values : List QueryLiteral)
  | compare (op : Operator) (value : QueryLiteral)
  deriving DecidableEq, Repr

/-- `queryExpression`: conjunctions, disjunctions and negations over predicates, each of one field.
-/
inductive QueryExpression
  | and (left right : QueryExpression)
  | or (left right : QueryExpression)
  | not (child : QueryExpression)
  | predicate (field : GoString) (test : Test)
  deriving DecidableEq, Repr

/-- The tokens a parser leaves: it has taken at least one. -/
abbrev Rest (tokens : List QueryToken) := {rest : List QueryToken // rest.length < tokens.length}

/-- The tokens after some more were taken. -/
def Rest.after {tokens : List QueryToken} (rest : Rest tokens) (more : Rest rest.1) :
    Rest tokens := ⟨more.1, more.2.trans rest.2⟩

/-- `consume` of a token of kind `kind`; `match` is `consume` with its error left aside. -/
def consume (token : QueryToken) (kind : String) :
    (tokens : List QueryToken) → Except String (Rest tokens)
  | [] => .error (expectedText kind none)
  | head :: tokens =>
    if head = token then .ok ⟨tokens, Nat.lt_succ_self _⟩
    else .error (expectedText kind (some head))

/-- `parseLiteral`. -/
def parseLiteral : (tokens : List QueryToken) → Except String (QueryLiteral × Rest tokens)
  | .string text :: tokens => .ok (⟨.string, text⟩, ⟨tokens, Nat.lt_succ_self _⟩)
  | .number text :: tokens => .ok (⟨.number, text⟩, ⟨tokens, Nat.lt_succ_self _⟩)
  | tokens => .error (expectedText "string or number literal" tokens.head?)

/-- The literals of a list, up to its closing bracket. -/
def parseLiterals (tokens : List QueryToken) : Except String (List QueryLiteral × Rest tokens) := do
  let (value, rest) ← parseLiteral tokens
  match consume .rbracket "rbracket" rest.1 with
  | .ok more => return ([value], rest.after more)
  | .error _ =>
    let more ← consume .comma "comma" rest.1
    have : more.1.length < tokens.length := more.2.trans rest.2
    let (values, last) ← parseLiterals more.1
    return (value :: values, rest.after (more.after last))
termination_by tokens.length

/-- `parsePredicate`: a field, and behind it `exists`, `in` with a list, or an operator with a
value. -/
def parsePredicate : (tokens : List QueryToken) → Except String (QueryExpression × Rest tokens)
  | .identifier field :: .exists :: tokens =>
    .ok (.predicate field .exists, ⟨tokens, by simp only [List.length_cons]; omega⟩)
  | .identifier field :: .in :: tokens => do
    let first : Rest (.identifier field :: .in :: tokens) :=
      ⟨tokens, by simp only [List.length_cons]; omega⟩
    let bracket ← consume .lbracket "lbracket" tokens
    let (values, rest) ← parseLiterals bracket.1
    if 32 < values.length then .error "in requires 1..32 literals"
    return (.predicate field (.in values), first.after (bracket.after rest))
  | .identifier field :: .operator op :: tokens => do
    let first : Rest (.identifier field :: .operator op :: tokens) :=
      ⟨tokens, by simp only [List.length_cons]; omega⟩
    let (value, rest) ← parseLiteral tokens
    return (.predicate field (.compare op value), first.after rest)
  | .identifier field :: _ =>
    .error ("expected comparison operator after " ++ asciiText field)
  | tokens => .error (expectedText "identifier" tokens.head?)

mutual

/-- `parseOr`. -/
def parseOr (tokens : List QueryToken) : Except String (QueryExpression × Rest tokens) := do
  let (left, rest) ← parseAnd tokens
  orLoop tokens left rest
termination_by 8 * tokens.length + 4

/-- The loop of `parseOr`. -/
def orLoop (tokens : List QueryToken) (left : QueryExpression) (rest : Rest tokens) :
    Except String (QueryExpression × Rest tokens) :=
  match consume .or "or" rest.1 with
  | .error _ => .ok (left, rest)
  | .ok more => do
    have : more.1.length < tokens.length := more.2.trans rest.2
    have : more.1.length < rest.1.length := more.2
    let (right, last) ← parseAnd more.1
    have : last.1.length < rest.1.length := last.2.trans more.2
    orLoop tokens (.or left right) (rest.after (more.after last))
termination_by 8 * rest.1.length + 5

/-- `parseAnd`. -/
def parseAnd (tokens : List QueryToken) : Except String (QueryExpression × Rest tokens) := do
  let (left, rest) ← parseNot tokens
  andLoop tokens left rest
termination_by 8 * tokens.length + 2

/-- The loop of `parseAnd`. -/
def andLoop (tokens : List QueryToken) (left : QueryExpression) (rest : Rest tokens) :
    Except String (QueryExpression × Rest tokens) :=
  match consume .and "and" rest.1 with
  | .error _ => .ok (left, rest)
  | .ok more => do
    have : more.1.length < rest.1.length := more.2
    let (right, last) ← parseNot more.1
    have : last.1.length < rest.1.length := last.2.trans more.2
    andLoop tokens (.and left right) (rest.after (more.after last))
termination_by 8 * rest.1.length + 3

/-- `parseNot`: `not` binds what follows it, also another `not`. -/
def parseNot (tokens : List QueryToken) : Except String (QueryExpression × Rest tokens) :=
  match consume .not "not" tokens with
  | .ok rest => do
    have : rest.1.length < tokens.length := rest.2
    let (child, more) ← parseNot rest.1
    return (.not child, rest.after more)
  | .error _ => parsePrimary tokens
termination_by 8 * tokens.length + 1

/-- `parsePrimary`: an expression in parentheses, or a predicate. -/
def parsePrimary (tokens : List QueryToken) : Except String (QueryExpression × Rest tokens) :=
  match consume .lparen "lparen" tokens with
  | .ok rest => do
    have : rest.1.length < tokens.length := rest.2
    let (expression, more) ← parseOr rest.1
    let last ← consume .rparen "rparen" more.1
    return (expression, rest.after (more.after last))
  | .error _ => parsePredicate tokens
termination_by 8 * tokens.length

end

/-- **`parseQuery`**: the tokens are lexed first, and all of them have to be used up; an empty query
has no expression. -/
def parseQuery (raw : GoString) : Except String (Option QueryExpression) :=
  if raw = [] then .ok none
  else do
    let tokens ← lexQuery raw
    let (expression, rest) ← parseOr tokens
    rest.1.head?.elim (.ok (some expression)) fun token =>
      .error ("unexpected token " ++ quote token.text)

end Search

end Cerbero
