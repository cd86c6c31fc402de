import Cerbero.Lib.Fallible
import Cerbero.Search.Query

/-!
# Search/QueryParser — the parser on the tokens that are left

The functions of the parser prove that they take tokens; without these proofs each of them has the
equation of its grammar rule (`readOr_eq`, `readAnd_eq` and the ones after them).
-/

namespace Cerbero

namespace Search

/-! ## Results without their proofs -/

section

variable {α β : Type} {tokens : List QueryToken}

/-- What a parser has read, and the tokens it leaves. -/
def plain (x : Except String (α × Rest tokens)) : Except String (α × List QueryToken) :=
  x.map fun r => (r.1, r.2.1)

/-- A token that comes next is taken. -/
theorem consume_cons (token : QueryToken) (kind : String) (tokens : List QueryToken) :
    consume token kind (token :: tokens) = .ok ⟨tokens, Nat.lt_succ_self _⟩ := by
  rw [consume, if_pos rfl]

/-- Without the token the error says what came instead. -/
theorem consume_of_ne {token : QueryToken} (kind : String) :
    ∀ {tokens : List QueryToken}, tokens.head? ≠ some token →
      consume token kind tokens = .error (expectedText kind tokens.head?)
  | [], _ => rfl
  | head :: tokens, h => by
      exact if_neg fun heq => h (congrArg some heq)

end

/-- `parseLiteral`. -/
def readLiteral (tokens : List QueryToken) : Except String (QueryLiteral × List QueryToken) :=
  plain (parseLiteral tokens)

/-- The literals of a list. -/
def readLiterals (tokens : List QueryToken) : Except String (List QueryLiteral × List QueryToken) :=
  plain (parseLiterals tokens)

/-- `parsePredicate`. -/
def readPredicate (tokens : List QueryToken) : Except String (QueryExpression × List QueryToken) :=
  plain (parsePredicate tokens)

/-- `parseOr`: an expression of the lowest level. -/
def readOr (tokens : List QueryToken) : Except String (QueryExpression × List QueryToken) :=
  plain (parseOr tokens)

/-- `parseAnd`: an expression without `or` outside parentheses. -/
def readAnd (tokens : List QueryToken) : Except String (QueryExpression × List QueryToken) :=
  plain (parseAnd tokens)

/-- `parseNot`: an expression without `and` outside parentheses. -/
def readNot (tokens : List QueryToken) : Except String (QueryExpression × List QueryToken) :=
  plain (parseNot tokens)

/-- `parsePrimary`: a predicate, or any expression in parentheses. -/
def readPrimary (tokens : List QueryToken) : Except String (QueryExpression × List QueryToken) :=
  plain (parsePrimary tokens)

theorem length_lt_cons (head : QueryToken) (tokens : List QueryToken) :
    tokens.length < (head :: tokens).length := Nat.lt_succ_self _

/-- The loop of `parseOr` on the tokens that are left. -/
def readOrLoop (left : QueryExpression) (rest : List QueryToken) :
    Except String (QueryExpression × List QueryToken) :=
  plain (orLoop (.comma :: rest) left ⟨rest, length_lt_cons .comma rest⟩)

/-- The loop of `parseAnd` on the tokens that are left. -/
def readAndLoop (left : QueryExpression) (rest : List QueryToken) :
    Except String (QueryExpression × List QueryToken) :=
  plain (andLoop (.comma :: rest) left ⟨rest, length_lt_cons .comma rest⟩)

/-! ## Equations -/

section

variable {tokens tokens' : List QueryToken}

/-- The loop of `parseAnd` depends on the tokens that are left only. -/
theorem plain_andLoop_eq (left : QueryExpression) (rest : Rest tokens) (rest' : Rest tokens')
    (h : rest.1 = rest'.1) :
    plain (andLoop tokens left rest) = plain (andLoop tokens' left rest') := by
  obtain ⟨rest, hrest⟩ := rest
  obtain ⟨rest', hrest'⟩ := rest'
  obtain rfl : rest = rest' := h
  induction hlength : rest.length using Nat.strong_induction_on generalizing left rest with
  | _ n ih =>
    rw [andLoop, andLoop]
    match consume .and "and" rest with
    | .error _ => rfl
    | .ok more =>
      dsimp only
      match parseNot more.1 with
      | .error _ => rfl
      | .ok (right, last) =>
        exact ih last.1.length (hlength ▸ last.2.trans more.2) (.and left right) last.1 _ _ rfl

/-- The loop of `parseOr` depends on the tokens that are left only. -/
theorem plain_orLoop_eq (left : QueryExpression) (rest : Rest tokens) (rest' : Rest tokens')
    (h : rest.1 = rest'.1) :
    plain (orLoop tokens left rest) = plain (orLoop tokens' left rest') := by
  obtain ⟨rest, hrest⟩ := rest
  obtain ⟨rest', hrest'⟩ := rest'
  obtain rfl : rest = rest' := h
  induction hlength : rest.length using Nat.strong_induction_on generalizing left rest with
  | _ n ih =>
    rw [orLoop, orLoop]
    match consume .or "or" rest with
    | .error _ => rfl
    | .ok more =>
      dsimp only
      match parseAnd more.1 with
      | .error _ => rfl
      | .ok (right, last) =>
        exact ih last.1.length (hlength ▸ last.2.trans more.2) (.or left right) last.1 _ _ rfl

end

/-- Behind an `or` the loop reads one more conjunction and adds it on the right, so disjunctions
nest to the left. -/
theorem readOrLoop_or (left : QueryExpression) (more : List QueryToken) :
    readOrLoop left (.or :: more) =
      readAnd more >>= fun r => readOrLoop (.or left r.1) r.2 := by
  rw [readOrLoop, orLoop, readAnd]
  dsimp only
  rw [consume_cons]
  dsimp only
  match parseAnd more with
  | .error _ => rfl
  | .ok (right, last) => exact plain_orLoop_eq _ _ _ rfl

/-- Behind an `and` the loop reads one more negation or primary and adds it on the right. -/
theorem readAndLoop_and (left : QueryExpression) (more : List QueryToken) :
    readAndLoop left (.and :: more) =
      readNot more >>= fun r => readAndLoop (.and left r.1) r.2 := by
  rw [readAndLoop, andLoop, readNot]
  dsimp only
  rw [consume_cons]
  dsimp only
  match parseNot more with
  | .error _ => rfl
  | .ok (right, last) => exact plain_andLoop_eq _ _ _ rfl

/-- A disjunction is a conjunction and what the loop adds to it. -/
theorem readOr_eq (tokens : List QueryToken) :
    readOr tokens = readAnd tokens >>= fun r => readOrLoop r.1 r.2 := by
  rw [readOr, parseOr, readAnd]
  match parseAnd tokens with
  | .error _ => rfl
  | .ok (left, rest) => exact plain_orLoop_eq _ _ _ rfl

/-- A conjunction is a negation or a primary and what the loop adds to it. -/
theorem readAnd_eq (tokens : List QueryToken) :
    readAnd tokens = readNot tokens >>= fun r => readAndLoop r.1 r.2 := by
  rw [readAnd, parseAnd, readNot]
  match parseNot tokens with
  | .error _ => rfl
  | .ok (left, rest) => exact plain_andLoop_eq _ _ _ rfl

/-- What stands between parentheses. -/
theorem readPrimary_lparen (rest : List QueryToken) :
    readPrimary (.lparen :: rest) = readOr rest >>= fun r =>
      if r.2.head? = some .rparen then .ok (r.1, r.2.tail)
      else .error (expectedText "rparen" r.2.head?) := by
  rw [readPrimary, parsePrimary, consume_cons, readOr]
  dsimp only
  match parseOr rest with
  | .error _ => rfl
  | .ok (expression, more) =>
    obtain ⟨more, hmore⟩ := more
    by_cases h : more.head? = some .rparen
    · obtain ⟨last, rfl⟩ := List.head?_eq_some_iff.1 h
      simp only [ok_bind, consume_cons, plain, Except.map]
      rfl
    · simp only [ok_bind, consume_of_ne _ h, plain, Except.map, if_neg h]
      rfl

/-- The literals of a list: one, and then the end of the list or a comma and more of them. -/
theorem readLiterals_eq (tokens : List QueryToken) :
    readLiterals tokens = readLiteral tokens >>= fun r =>
      if r.2.head? = some .rbracket then .ok ([r.1], r.2.tail)
      else if r.2.head? = some .comma then
        (readLiterals r.2.tail).map fun more => (r.1 :: more.1, more.2)
      else .error (expectedText "comma" r.2.head?) := by
  rw [readLiterals, parseLiterals, readLiteral]
  obtain e | ⟨value, rest, hrest⟩ := parseLiteral tokens
  · rfl
  · by_cases h : rest.head? = some .rbracket
    · obtain ⟨last, rfl⟩ := List.head?_eq_some_iff.1 h
      simp only [ok_bind, consume_cons, plain, Except.map]
      rfl
    · simp only [ok_bind, consume_of_ne _ h, plain, Except.map, if_neg h]
      by_cases hcomma : rest.head? = some .comma
      · obtain ⟨more, rfl⟩ := List.head?_eq_some_iff.1 hcomma
        simp only [consume_cons, ok_bind, readLiterals, plain]
        dsimp only [List.tail_cons]
        cases parseLiterals more with
        | error e => rfl
        | ok result => rfl
      · simp only [consume_of_ne _ hcomma, error_bind, if_neg hcomma]

/-- A `not` binds everything a negation may be, another `not` included. -/
theorem readNot_not (rest : List QueryToken) :
    readNot (.not :: rest) = (readNot rest).map fun r => (.not r.1, r.2) := by
  rw [readNot, parseNot, consume_cons, readNot]
  dsimp only
  match parseNot rest with
  | .error _ => rfl
  | .ok (_, _) => rfl

section

variable {tokens : List QueryToken}

/-- Without `not` there is a primary. -/
theorem readNot_of_ne (h : tokens.head? ≠ some .not) : readNot tokens = readPrimary tokens := by
  rw [readNot, parseNot, consume_of_ne _ h]
  rfl

/-- Without a parenthesis there is a predicate. -/
theorem readPrimary_of_ne (h : tokens.head? ≠ some .lparen) :
    readPrimary tokens = readPredicate tokens := by
  rw [readPrimary, parsePrimary, consume_of_ne _ h]
  rfl

/-- Without `or` the loop is over, and no token was taken. -/
theorem readOrLoop_of_ne (left : QueryExpression) (h : tokens.head? ≠ some .or) :
    readOrLoop left tokens = .ok (left, tokens) := by
  rw [readOrLoop, orLoop, consume_of_ne _ h]
  rfl

/-- Without `and` likewise. -/
theorem readAndLoop_of_ne (left : QueryExpression) (h : tokens.head? ≠ some .and) :
    readAndLoop left tokens = .ok (left, tokens) := by
  rw [readAndLoop, andLoop, consume_of_ne _ h]
  rfl

end

end Search

end Cerbero
