import Cerbero.Search.QueryParser

/-!
# Search/QueryGrammar — printed queries and the parser

An expression is printed with parentheses where the levels `or`, `and`, `not` and predicate need
them, and with more pairs of them anywhere (`Parenthesized.tokensAt`).  The parser reads every such
print as its expression (**`readOr_tokensAt`**), and reads nothing else
(**`exists_tokensAt_of_readOr`**).
-/

namespace Cerbero

namespace Search

/-! ## Prints -/

/-- The token of a literal. -/
def QueryLiteral.token : QueryLiteral → QueryToken
  | ⟨.string, text⟩ => .string text
  | ⟨.number, text⟩ => .number text

/-- The literals of a list with its closing bracket. -/
def listTokens : List QueryLiteral → List QueryToken
  | [] => [.rbracket]
  | [value] => [value.token, .rbracket]
  | value :: values => value.token :: .comma :: listTokens values

/-- What a predicate has after its field. -/
def Test.tokens : Test → List QueryToken
  | .exists => [.exists]
  | .in values => .in :: .lbracket :: listTokens values
  | .compare op value => [.operator op, value.token]

/-- **An expression with pairs of parentheses** at each of its nodes. -/
inductive Parenthesized
  | or (pairs : ℕ) (left right : Parenthesized)
  | and (pairs : ℕ) (left right : Parenthesized)
  | not (pairs : ℕ) (child : Parenthesized)
  | predicate (pairs : ℕ) (field : GoString) (test : Test)

namespace Parenthesized

/-- The expression. -/
def erase : Parenthesized → QueryExpression
  | or _ left right => .or left.erase right.erase
  | and _ left right => .and left.erase right.erase
  | not _ child => .not child.erase
  | predicate _ field test => .predicate field test

/-- How tightly a node binds. -/
def level : Parenthesized → ℕ
  | or _ _ _ => 0
  | and _ _ _ => 1
  | not _ _ => 2
  | predicate _ _ _ => 3

/-- The pairs at a node that it does not need. -/
def pairs : Parenthesized → ℕ
  | or pairs _ _ => pairs
  | and pairs _ _ => pairs
  | not pairs _ => pairs
  | predicate pairs _ _ => pairs

/-- The expression with one more pair around it. -/
def enclosed : Parenthesized → Parenthesized
  | or pairs left right => or (pairs + 1) left right
  | and pairs left right => and (pairs + 1) left right
  | not pairs child => not (pairs + 1) child
  | predicate pairs field test => predicate (pairs + 1) field test

end Parenthesized

/-- Tokens between pairs of parentheses. -/
def enclose : ℕ → List QueryToken → List QueryToken
  | 0, tokens => tokens
  | pairs + 1, tokens => .lparen :: (enclose pairs tokens ++ [.rparen])

/-- The pairs a node has where a level is wanted: one more if it binds less tightly. -/
def neededPairs (pairs level wanted : ℕ) : ℕ := if level < wanted then pairs + 1 else pairs

/-- **The tokens of an expression where a level is wanted.** -/
def Parenthesized.tokensAt (wanted : ℕ) : Parenthesized → List QueryToken
  | or pairs left right => enclose (neededPairs pairs 0 wanted)
      (left.tokensAt 0 ++ .or :: right.tokensAt 1)
  | and pairs left right => enclose (neededPairs pairs 1 wanted)
      (left.tokensAt 1 ++ .and :: right.tokensAt 2)
  | not pairs child => enclose (neededPairs pairs 2 wanted) (.not :: child.tokensAt 2)
  | predicate pairs field test => enclose (neededPairs pairs 3 wanted)
      (.identifier field :: test.tokens)

/-- The expression without pairs it does not need. -/
def QueryExpression.bare : QueryExpression → Parenthesized
  | or left right => .or 0 left.bare right.bare
  | and left right => .and 0 left.bare right.bare
  | not child => .not 0 child.bare
  | predicate field test => .predicate 0 field test

@[simp] theorem erase_bare : ∀ expression : QueryExpression, expression.bare.erase = expression
  | .or left right => by rw [QueryExpression.bare, Parenthesized.erase, erase_bare, erase_bare]
  | .and left right => by rw [QueryExpression.bare, Parenthesized.erase, erase_bare, erase_bare]
  | .not child => by rw [QueryExpression.bare, Parenthesized.erase, erase_bare]
  | .predicate field test => rfl

namespace Parenthesized

@[simp] theorem erase_enclosed (p : Parenthesized) : p.enclosed.erase = p.erase := by
  cases p <;> rfl

/-- The tokens of a node without parentheses around it. -/
def body : Parenthesized → List QueryToken
  | or _ left right => left.tokensAt 0 ++ .or :: right.tokensAt 1
  | and _ left right => left.tokensAt 1 ++ .and :: right.tokensAt 2
  | not _ child => .not :: child.tokensAt 2
  | predicate _ field test => .identifier field :: test.tokens

/-- A print is its body in as many pairs of parentheses as the level asks for, and any more that
were written. -/
theorem tokensAt_eq (wanted : ℕ) : ∀ p : Parenthesized,
    p.tokensAt wanted = enclose (neededPairs p.pairs p.level wanted) p.body
  | or _ _ _ => rfl
  | and _ _ _ => rfl
  | not _ _ => rfl
  | predicate _ _ _ => rfl

/-- There are four levels, from disjunctions up to predicates. -/
theorem level_le : ∀ p : Parenthesized, p.level ≤ 3
  | or _ _ _ => Nat.zero_le 3
  | and _ _ _ => Nat.le_add_left 1 2
  | not _ _ => Nat.le_succ 2
  | predicate _ _ _ => Nat.le_refl 3

theorem enclosed_eq : ∀ p : Parenthesized,
    p.enclosed.pairs = p.pairs + 1 ∧ p.enclosed.level = p.level ∧ p.enclosed.body = p.body
  | or _ _ _ => ⟨rfl, rfl, rfl⟩
  | and _ _ _ => ⟨rfl, rfl, rfl⟩
  | not _ _ => ⟨rfl, rfl, rfl⟩
  | predicate _ _ _ => ⟨rfl, rfl, rfl⟩

/-- A pair that a level needs may stand where a lower level is wanted. -/
theorem exists_tokensAt_eq {wanted lower : ℕ} (h : lower ≤ wanted) (p : Parenthesized) :
    ∃ p' : Parenthesized, p'.erase = p.erase ∧ p'.tokensAt lower = p.tokensAt wanted := by
  obtain ⟨hpairs, hlevel, hbody⟩ := p.enclosed_eq
  by_cases hneeded : lower ≤ p.level ∧ p.level < wanted
  · refine ⟨p.enclosed, p.erase_enclosed, ?_⟩
    rw [tokensAt_eq, tokensAt_eq, hpairs, hlevel, hbody, neededPairs, neededPairs,
      if_neg (by omega), if_pos hneeded.2]
  · refine ⟨p, rfl, ?_⟩
    rw [tokensAt_eq, tokensAt_eq, neededPairs, neededPairs]
    congr 1
    split_ifs <;> omega

end Parenthesized

/-! ## Reading prints -/

/-- A test of the grammar: a list has at least one literal, and at most 32. -/
def Test.Proper : Test → Prop
  | .in values => values ≠ [] ∧ values.length ≤ 32
  | _ => True

/-- An expression of the grammar. -/
def QueryExpression.Proper : QueryExpression → Prop
  | .or left right => left.Proper ∧ right.Proper
  | .and left right => left.Proper ∧ right.Proper
  | .not child => child.Proper
  | .predicate _ test => test.Proper

theorem readLiteral_token (value : QueryLiteral) (rest : List QueryToken) :
    readLiteral (value.token :: rest) = .ok (value, rest) := by
  obtain ⟨⟨⟩, text⟩ := value
  · rfl
  · rfl

theorem readLiterals_listTokens (rest : List QueryToken) : ∀ {values : List QueryLiteral},
    values ≠ [] → readLiterals (listTokens values ++ rest) = .ok (values, rest)
  | [value], _ => by
      rw [listTokens, List.cons_append, readLiterals_eq, readLiteral_token, ok_bind]
      rfl
  | value :: next :: values, _ => by
      show readLiterals (value.token :: .comma :: (listTokens (next :: values) ++ rest)) = _
      rw [readLiterals_eq, readLiteral_token, ok_bind]
      show (readLiterals (listTokens (next :: values) ++ rest)).map _ = _
      rw [readLiterals_listTokens rest (List.cons_ne_nil _ _)]
      rfl
  | [], h => absurd rfl h

/-- The predicate of a field and a comparison. -/
theorem readPredicate_operator (field : GoString) (op : Operator) (tokens : List QueryToken) :
    readPredicate (.identifier field :: .operator op :: tokens) =
      (readLiteral tokens).map fun r => (.predicate field (.compare op r.1), r.2) := by
  rw [readPredicate, parsePredicate, readLiteral]
  cases parseLiteral tokens with
  | error e => rfl
  | ok result => rfl

/-- The predicate of a field and a list. -/
theorem readPredicate_in (field : GoString) (tokens : List QueryToken) :
    readPredicate (.identifier field :: .in :: .lbracket :: tokens) =
      readLiterals tokens >>= fun r =>
        if 32 < r.1.length then .error "in requires 1..32 literals"
        else .ok (.predicate field (.in r.1), r.2) := by
  rw [readPredicate, parsePredicate, readLiterals]
  simp only [consume_cons, ok_bind]
  obtain e | ⟨values, rest⟩ := parseLiterals tokens
  · rfl
  · by_cases h : 32 < values.length
    · simp only [ok_bind, plain, Except.map, if_pos h]
      rfl
    · simp only [ok_bind, plain, Except.map, if_neg h]
      rfl

/-- **The tokens of a predicate are read back**, whatever follows them. -/
theorem readPredicate_tokens (field : GoString) {test : Test} (h : test.Proper)
    (rest : List QueryToken) :
    readPredicate (.identifier field :: test.tokens ++ rest) = .ok (.predicate field test, rest) := by
  match test, h with
  | .exists, _ => rfl
  | .compare op value, _ =>
    rw [Test.tokens, List.cons_append, List.cons_append, readPredicate_operator, List.cons_append,
      readLiteral_token]
    rfl
  | .in values, h =>
    rw [Test.tokens, List.cons_append, List.cons_append, List.cons_append, readPredicate_in,
      readLiterals_listTokens rest h.1, ok_bind, if_neg (Nat.not_lt.2 h.2)]

/-- **Tokens are read as an expression where a level is wanted**, whatever follows them: where `and`
or `or` may follow, the expression is what the loop goes on with. -/
def ReadsAt (tokens : List QueryToken) (expression : QueryExpression) : ℕ → Prop
  | 0 => ∀ rest : List QueryToken, rest.head? ≠ some .and →
      readOr (tokens ++ rest) = readOrLoop expression rest
  | 1 => ∀ rest, readAnd (tokens ++ rest) = readAndLoop expression rest
  | 2 => ∀ rest, readNot (tokens ++ rest) = .ok (expression, rest)
  | _ => (∀ rest, (tokens ++ rest).head? ≠ some .not) ∧
      ∀ rest, readPrimary (tokens ++ rest) = .ok (expression, rest)

section

variable {tokens : List QueryToken} {expression : QueryExpression}

theorem readAnd_of_readNot {rest : List QueryToken}
    (h : readNot tokens = .ok (expression, rest)) :
    readAnd tokens = readAndLoop expression rest := by
  rw [readAnd_eq, h, ok_bind]

theorem readOr_of_readAnd {rest : List QueryToken}
    (h : readAnd tokens = readAndLoop expression rest) (hrest : rest.head? ≠ some .and) :
    readOr tokens = readOrLoop expression rest := by
  rw [readOr_eq, h, readAndLoop_of_ne expression hrest, ok_bind]

/-- What is read at a level is read where the level below is wanted. -/
theorem readsAt_pred : ∀ {level : ℕ}, level < 3 → ReadsAt tokens expression (level + 1) →
    ReadsAt tokens expression level
  | 0, _, h => fun rest hrest => readOr_of_readAnd (h rest) hrest
  | 1, _, h => fun rest => readAnd_of_readNot (h rest)
  | 2, _, h => fun rest => (readNot_of_ne (h.1 rest)).trans (h.2 rest)

theorem ReadsAt.of_le {level lower : ℕ} (hle : lower ≤ level) (hlevel : level ≤ 3)
    (h : ReadsAt tokens expression level) : ReadsAt tokens expression lower := by
  induction level, hle using Nat.le_induction with
  | base => exact h
  | succ level hle ih => exact ih (by omega) (readsAt_pred (by omega) h)

/-- What is between parentheses is read at the highest level. -/
theorem readsAt_enclose (h : ReadsAt tokens expression 0) : ∀ pairs,
    ReadsAt (enclose (pairs + 1) tokens) expression 3
  | 0 => by
      refine ⟨fun rest => by simp [enclose], fun rest => ?_⟩
      have hread := h (.rparen :: rest) (by simp)
      rw [readOrLoop_of_ne expression (by simp)] at hread
      rw [enclose, List.cons_append, readPrimary_lparen, List.append_assoc, enclose,
        List.singleton_append, hread]
      rfl
  | pairs + 1 => by
      refine ⟨fun rest => by simp [enclose], fun rest => ?_⟩
      have hinner := (readsAt_enclose h pairs).of_le (Nat.zero_le 3) le_rfl (.rparen :: rest)
        (by simp)
      rw [readOrLoop_of_ne expression (by simp)] at hinner
      rw [enclose, List.cons_append, readPrimary_lparen, List.append_assoc,
        List.singleton_append, hinner]
      rfl

end

namespace Parenthesized

/-- What the body of a node is read as is what the node is read as, where any level is wanted. -/
theorem readsAt_of_body {p : Parenthesized}
    (h : ReadsAt p.body p.erase p.level) {wanted : ℕ} (hwanted : wanted ≤ 3) :
    ReadsAt (p.tokensAt wanted) p.erase wanted := by
  have henclosed : ∀ pairs, ReadsAt (enclose (pairs + 1) p.body) p.erase wanted :=
    fun pairs => (readsAt_enclose (h.of_le (Nat.zero_le _) p.level_le) pairs).of_le hwanted le_rfl
  rw [tokensAt_eq, neededPairs]
  split_ifs with hneeded
  · exact henclosed p.pairs
  · match p.pairs with
    | 0 => exact h.of_le (Nat.not_lt.1 hneeded) p.level_le
    | pairs + 1 => exact henclosed pairs

/-- **Every print is read as its expression.** -/
theorem readsAt_tokensAt : ∀ {p : Parenthesized}, p.erase.Proper → ∀ {wanted : ℕ}, wanted ≤ 3 →
    ReadsAt (p.tokensAt wanted) p.erase wanted
  | or pairs left right, h, _, hwanted => by
      refine readsAt_of_body (p := or pairs left right) (fun rest hrest => ?_) hwanted
      have hleft := readsAt_tokensAt h.1 (Nat.zero_le 3)
      have hright := readsAt_tokensAt h.2 (show 1 ≤ 3 by decide)
      rw [body, List.append_assoc, hleft _ (by simp), List.cons_append, readOrLoop_or, hright,
        readAndLoop_of_ne _ hrest, ok_bind]
      rfl
  | and pairs left right, h, _, hwanted => by
      refine readsAt_of_body (p := and pairs left right) (fun rest => ?_) hwanted
      have hleft := readsAt_tokensAt h.1 (show 1 ≤ 3 by decide)
      have hright := readsAt_tokensAt h.2 (show 2 ≤ 3 by decide)
      rw [body, List.append_assoc, hleft, List.cons_append, readAndLoop_and, hright, ok_bind]
      rfl
  | not pairs child, h, _, hwanted => by
      refine readsAt_of_body (p := not pairs child) (fun rest => ?_) hwanted
      have hchild := readsAt_tokensAt (p := child) h (show 2 ≤ 3 by decide)
      rw [body, List.cons_append, readNot_not, hchild]
      rfl
  | predicate pairs field test, h, _, hwanted => by
      refine readsAt_of_body (p := predicate pairs field test)
        ⟨fun rest => by simp [body], fun rest => ?_⟩ hwanted
      rw [readPrimary_of_ne (by simp [body])]
      exact readPredicate_tokens field h rest

end Parenthesized

/-- **A print of the lowest level is read to its end.** -/
theorem readOr_tokensAt {p : Parenthesized} (h : p.erase.Proper) :
    readOr (p.tokensAt 0) = .ok (p.erase, []) := by
  have hread := p.readsAt_tokensAt h (Nat.zero_le 3) [] (by simp)
  rwa [List.append_nil, readOrLoop_of_ne _ (by simp)] at hread

/-! ## What is read is a print -/

/-- The tokens up to a rest are a print of an expression of the grammar. -/
def Written (wanted : ℕ) (tokens : List QueryToken) (expression : QueryExpression)
    (rest : List QueryToken) : Prop :=
  ∃ p : Parenthesized, p.erase = expression ∧ expression.Proper ∧
    tokens = p.tokensAt wanted ++ rest

section

variable {tokens more rest : List QueryToken} {expression left right : QueryExpression}

/-- What is written for a higher level may stand at a lower one. -/
theorem Written.of_le {wanted lower : ℕ} (h : Written wanted tokens expression rest)
    (hle : lower ≤ wanted) : Written lower tokens expression rest := by
  obtain ⟨p, rfl, hproper, rfl⟩ := h
  obtain ⟨p', herase, htokens⟩ := p.exists_tokensAt_eq hle
  exact ⟨p', herase, hproper, by rw [htokens]⟩

theorem Written.not (h : Written 2 more expression rest) :
    Written 2 (.not :: more) (.not expression) rest := by
  obtain ⟨p, rfl, hproper, rfl⟩ := h
  exact ⟨.not 0 p, rfl, hproper, rfl⟩

theorem Written.and (hleft : Written 1 tokens left (.and :: more))
    (hright : Written 2 more right rest) : Written 1 tokens (.and left right) rest := by
  obtain ⟨p, rfl, hproper, rfl⟩ := hleft
  obtain ⟨q, rfl, hproper', rfl⟩ := hright
  refine ⟨.and 0 p q, rfl, ⟨hproper, hproper'⟩, ?_⟩
  rw [Parenthesized.tokensAt_eq 1 (.and 0 p q), ← List.cons_append, ← List.append_assoc]
  rfl

theorem Written.or (hleft : Written 0 tokens left (.or :: more))
    (hright : Written 1 more right rest) : Written 0 tokens (.or left right) rest := by
  obtain ⟨p, rfl, hproper, rfl⟩ := hleft
  obtain ⟨q, rfl, hproper', rfl⟩ := hright
  refine ⟨.or 0 p q, rfl, ⟨hproper, hproper'⟩, ?_⟩
  rw [Parenthesized.tokensAt_eq 0 (.or 0 p q), ← List.cons_append, ← List.append_assoc]
  rfl

/-- A pair of parentheses that a level needs, or one that it does not. -/
theorem Written.parentheses (h : Written 0 more expression (.rparen :: rest)) :
    Written 3 (.lparen :: more) expression rest := by
  obtain ⟨p, rfl, hproper, rfl⟩ := h
  have htokens : .lparen :: (p.tokensAt 0 ++ .rparen :: rest) =
      enclose (p.pairs + 1) p.body ++ rest := by
    rw [Parenthesized.tokensAt_eq, neededPairs, if_neg (Nat.not_lt_zero _), enclose,
      List.cons_append, List.append_assoc, List.singleton_append]
  obtain ⟨hpairs, hlevel, hbody⟩ := p.enclosed_eq
  by_cases hneeded : p.level < 3
  · refine ⟨p, rfl, hproper, ?_⟩
    rw [htokens, Parenthesized.tokensAt_eq, neededPairs, if_pos hneeded]
  · refine ⟨p.enclosed, p.erase_enclosed, hproper, ?_⟩
    rw [htokens, Parenthesized.tokensAt_eq, hpairs, hlevel, hbody, neededPairs, if_neg hneeded]

end

theorem readLiteral_eq_ok : ∀ {tokens : List QueryToken} {value : QueryLiteral}
    {rest : List QueryToken}, readLiteral tokens = .ok (value, rest) → tokens = value.token :: rest
  | .string text :: tokens, _, _, h => by
      obtain ⟨rfl, rfl⟩ := Prod.mk.inj (Except.ok.inj h)
      rfl
  | .number text :: tokens, _, _, h => by
      obtain ⟨rfl, rfl⟩ := Prod.mk.inj (Except.ok.inj h)
      rfl

theorem readLiterals_eq_ok {tokens : List QueryToken} {values : List QueryLiteral}
    {rest : List QueryToken} (h : readLiterals tokens = .ok (values, rest)) :
    values ≠ [] ∧ tokens = listTokens values ++ rest := by
  induction hlength : tokens.length using Nat.strong_induction_on generalizing tokens values with
  | _ n ih =>
    rw [readLiterals_eq] at h
    obtain ⟨⟨value, after⟩, hvalue, hafter⟩ := bind_eq_ok.1 h
    obtain rfl := readLiteral_eq_ok hvalue
    dsimp only at hafter
    split_ifs at hafter with hbracket hcomma
    · obtain ⟨last, rfl⟩ := List.head?_eq_some_iff.1 hbracket
      obtain ⟨rfl, rfl⟩ := Prod.mk.inj (Except.ok.inj hafter)
      exact ⟨List.cons_ne_nil _ _, rfl⟩
    · obtain ⟨more, rfl⟩ := List.head?_eq_some_iff.1 hcomma
      obtain ⟨⟨values', last⟩, hvalues, hresult⟩ := exceptMap_eq_ok.1 hafter
      obtain ⟨rfl, rfl⟩ := Prod.mk.inj hresult
      simp only [List.length_cons] at hlength
      obtain ⟨hne, hmore⟩ := ih more.length (by omega) hvalues rfl
      obtain ⟨next, values', rfl⟩ := List.exists_cons_of_ne_nil hne
      refine ⟨List.cons_ne_nil _ _, ?_⟩
      have hmore' : more = listTokens (next :: values') ++ last := hmore
      rw [hmore']
      rfl

/-- **A predicate is read from its tokens.** -/
theorem written_of_readPredicate : ∀ {tokens : List QueryToken} {expression : QueryExpression}
    {rest : List QueryToken}, readPredicate tokens = .ok (expression, rest) →
      Written 3 tokens expression rest
  | .identifier field :: .exists :: tokens, _, _, h => by
      obtain ⟨rfl, rfl⟩ := Prod.mk.inj (Except.ok.inj h)
      exact ⟨.predicate 0 field .exists, rfl, trivial, rfl⟩
  | .identifier field :: .operator op :: tokens, _, _, h => by
      rw [readPredicate_operator, exceptMap_eq_ok] at h
      obtain ⟨⟨value, last⟩, hvalue, h⟩ := h
      obtain ⟨rfl, rfl⟩ := Prod.mk.inj h
      obtain rfl := readLiteral_eq_ok hvalue
      exact ⟨.predicate 0 field (.compare op value), rfl, trivial, rfl⟩
  | .identifier field :: .in :: tokens, _, _, h => by
      by_cases hbracket : tokens.head? = some .lbracket
      · obtain ⟨more, rfl⟩ := List.head?_eq_some_iff.1 hbracket
        rw [readPredicate_in, bind_eq_ok] at h
        obtain ⟨⟨values, last⟩, hvalues, h⟩ := h
        split_ifs at h with hlength
        obtain ⟨rfl, rfl⟩ := Prod.mk.inj (Except.ok.inj h)
        obtain ⟨hne, hmore⟩ := readLiterals_eq_ok hvalues
        refine ⟨.predicate 0 field (.in values), rfl, ⟨hne, Nat.not_lt.1 hlength⟩, ?_⟩
        have hmore' : more = listTokens values ++ last := hmore
        rw [hmore']
        rfl
      · rw [readPredicate, parsePredicate, consume_of_ne _ hbracket] at h
        exact nomatch h
  | [], _, _, h => nomatch h
  | [.identifier _], _, _, h => nomatch h

theorem enclose_ne_nil {tokens : List QueryToken} (h : tokens ≠ []) : ∀ pairs,
    enclose pairs tokens ≠ []
  | 0 => h
  | _ + 1 => List.cons_ne_nil _ _

theorem Parenthesized.body_ne_nil : ∀ p : Parenthesized, p.body ≠ []
  | or _ _ _ => List.append_ne_nil_of_right_ne_nil _ (List.cons_ne_nil _ _)
  | and _ _ _ => List.append_ne_nil_of_right_ne_nil _ (List.cons_ne_nil _ _)
  | not _ _ => List.cons_ne_nil _ _
  | predicate _ _ _ => List.cons_ne_nil _ _

theorem Written.length_lt {wanted : ℕ} {tokens rest : List QueryToken}
    {expression : QueryExpression} (h : Written wanted tokens expression rest) :
    rest.length < tokens.length := by
  obtain ⟨p, -, -, rfl⟩ := h
  rw [Parenthesized.tokensAt_eq, List.length_append]
  exact Nat.lt_add_of_pos_left (List.length_pos_of_ne_nil (enclose_ne_nil p.body_ne_nil _))

/-- **What the functions of the parser read from tokens is a print.**  A loop goes on from an
expression that was read from the tokens in front. -/
structure Sound (tokens : List QueryToken) : Prop where
  primary : ∀ {expression rest}, readPrimary tokens = .ok (expression, rest) →
    Written 3 tokens expression rest
  not : ∀ {expression rest}, readNot tokens = .ok (expression, rest) →
    Written 2 tokens expression rest
  and : ∀ {expression rest}, readAnd tokens = .ok (expression, rest) →
    Written 1 tokens expression rest
  or : ∀ {expression rest}, readOr tokens = .ok (expression, rest) →
    Written 0 tokens expression rest
  andLoop : ∀ {front left expression rest}, Written 1 front left tokens →
    readAndLoop left tokens = .ok (expression, rest) → Written 1 front expression rest
  orLoop : ∀ {front left expression rest}, Written 0 front left tokens →
    readOrLoop left tokens = .ok (expression, rest) → Written 0 front expression rest

section

variable {tokens : List QueryToken}
  (ih : ∀ shorter : List QueryToken, shorter.length < tokens.length → Sound shorter)

include ih

theorem written_of_readPrimary {expression : QueryExpression} {rest : List QueryToken}
    (h : readPrimary tokens = .ok (expression, rest)) : Written 3 tokens expression rest := by
  by_cases hhead : tokens.head? = some .lparen
  · obtain ⟨more, rfl⟩ := List.head?_eq_some_iff.1 hhead
    rw [readPrimary_lparen, bind_eq_ok] at h
    obtain ⟨⟨inner, after⟩, hinner, hafter⟩ := h
    dsimp only at hafter
    split_ifs at hafter with hclosed
    obtain ⟨last, rfl⟩ := List.head?_eq_some_iff.1 hclosed
    obtain ⟨rfl, rfl⟩ := Prod.mk.inj (Except.ok.inj hafter)
    exact ((ih more (Nat.lt_succ_self _)).or hinner).parentheses
  · exact written_of_readPredicate ((readPrimary_of_ne hhead).symm.trans h)

theorem written_of_readNot {expression : QueryExpression} {rest : List QueryToken}
    (h : readNot tokens = .ok (expression, rest)) : Written 2 tokens expression rest := by
  by_cases hhead : tokens.head? = some .not
  · obtain ⟨more, rfl⟩ := List.head?_eq_some_iff.1 hhead
    rw [readNot_not, exceptMap_eq_ok] at h
    obtain ⟨⟨child, after⟩, hchild, hresult⟩ := h
    obtain ⟨rfl, rfl⟩ := Prod.mk.inj hresult
    exact ((ih more (Nat.lt_succ_self _)).not hchild).not
  · rw [readNot_of_ne hhead] at h
    exact (written_of_readPrimary ih h).of_le (Nat.le_succ 2)

theorem written_of_readAndLoop {front rest : List QueryToken} {left expression : QueryExpression}
    (hleft : Written 1 front left tokens) (h : readAndLoop left tokens = .ok (expression, rest)) :
    Written 1 front expression rest := by
  by_cases hhead : tokens.head? = some .and
  · obtain ⟨more, rfl⟩ := List.head?_eq_some_iff.1 hhead
    rw [readAndLoop_and, bind_eq_ok] at h
    obtain ⟨⟨right, after⟩, hright, hafter⟩ := h
    have hwritten := (ih more (Nat.lt_succ_self _)).not hright
    exact (ih after (hwritten.length_lt.trans (Nat.lt_succ_self _))).andLoop
      (hleft.and hwritten) hafter
  · rw [readAndLoop_of_ne left hhead] at h
    obtain ⟨rfl, rfl⟩ := Prod.mk.inj (Except.ok.inj h)
    exact hleft

theorem written_of_readAnd {expression : QueryExpression} {rest : List QueryToken}
    (h : readAnd tokens = .ok (expression, rest)) : Written 1 tokens expression rest := by
  rw [readAnd_eq, bind_eq_ok] at h
  obtain ⟨⟨left, after⟩, hleft, hafter⟩ := h
  have hwritten := written_of_readNot ih hleft
  exact (ih after hwritten.length_lt).andLoop (hwritten.of_le (Nat.le_succ 1)) hafter

theorem written_of_readOrLoop {front rest : List QueryToken} {left expression : QueryExpression}
    (hleft : Written 0 front left tokens) (h : readOrLoop left tokens = .ok (expression, rest)) :
    Written 0 front expression rest := by
  by_cases hhead : tokens.head? = some .or
  · obtain ⟨more, rfl⟩ := List.head?_eq_some_iff.1 hhead
    rw [readOrLoop_or, bind_eq_ok] at h
    obtain ⟨⟨right, after⟩, hright, hafter⟩ := h
    have hwritten := (ih more (Nat.lt_succ_self _)).and hright
    exact (ih after (hwritten.length_lt.trans (Nat.lt_succ_self _))).orLoop
      (hleft.or hwritten) hafter
  · rw [readOrLoop_of_ne left hhead] at h
    obtain ⟨rfl, rfl⟩ := Prod.mk.inj (Except.ok.inj h)
    exact hleft

theorem written_of_readOr {expression : QueryExpression} {rest : List QueryToken}
    (h : readOr tokens = .ok (expression, rest)) : Written 0 tokens expression rest := by
  rw [readOr_eq, bind_eq_ok] at h
  obtain ⟨⟨left, after⟩, hleft, hafter⟩ := h
  have hwritten := written_of_readAnd ih hleft
  exact (ih after hwritten.length_lt).orLoop (hwritten.of_le (Nat.zero_le 1)) hafter

end

/-- **What the parser accepts was written by the grammar**, by induction on the number of tokens:
each level hands the next one fewer of them. -/
theorem sound (tokens : List QueryToken) : Sound tokens := by
  induction hlength : tokens.length using Nat.strong_induction_on generalizing tokens with
  | _ n ih =>
    have hshorter : ∀ shorter : List QueryToken, shorter.length < tokens.length → Sound shorter :=
      fun shorter hlt => ih shorter.length (hlength ▸ hlt) shorter rfl
    exact
      { primary := written_of_readPrimary hshorter
        not := written_of_readNot hshorter
        and := written_of_readAnd hshorter
        or := written_of_readOr hshorter
        andLoop := written_of_readAndLoop hshorter
        orLoop := written_of_readOrLoop hshorter }

/-- **What is read to the end is a print.** -/
theorem exists_tokensAt_of_readOr {tokens : List QueryToken} {expression : QueryExpression}
    (h : readOr tokens = .ok (expression, [])) :
    ∃ p : Parenthesized, p.erase = expression ∧ expression.Proper ∧ tokens = p.tokensAt 0 := by
  obtain ⟨p, herase, hproper, htokens⟩ := (sound tokens).or h
  exact ⟨p, herase, hproper, by rw [htokens, List.append_nil]⟩

end Search

end Cerbero
