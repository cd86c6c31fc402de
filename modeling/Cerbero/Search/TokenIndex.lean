import Cerbero.Search.QueryGrammar

/-!
# Search/TokenIndex — the parser with its index

`queryParser` as it is written: a list of tokens that ends with `eof`, and an index into it that is
not checked.  A step of the parser is one unit of fuel.  The index never leaves the list and the
fuel suffices: with its index the parser does what it does on the tokens that are left
(**`parseQueryAt_eq`**), and it accepts the prints of the grammar (**`parseQuery_eq_ok_iff`**).
-/

namespace Cerbero

namespace Search

open Text

/-! ## The parser -/

/-- How a parse ends without a result: with an error, at an index that is out of range, or with
steps left. -/
inductive Failure
  | message (text : String)
  | outOfRange
  | outOfFuel
  deriving DecidableEq, Repr

section

-- the tokens of `lexQuery`; `none` is `eof`
variable (tokens : List (Option QueryToken))

/-- `peek`. -/
def peek (index : ℕ) : Except Failure (Option QueryToken) :=
  tokens[index]?.elim (.error .outOfRange) .ok

/-- `consume`. -/
def consumeAt (token : QueryToken) (kind : String) (index : ℕ) : Except Failure ℕ := do
  let head ← peek tokens index
  if head = some token then .ok (index + 1)
  else .error (.message (expectedText kind head))

/-- `match`. -/
def matchAt (token : QueryToken) (index : ℕ) : Except Failure (Bool × ℕ) := do
  if (← peek tokens index) = some token then .ok (true, index + 1) else .ok (false, index)

/-- `parseLiteral`. -/
def parseLiteralAt (index : ℕ) : Except Failure (QueryLiteral × ℕ) := do
  match ← peek tokens index with
  | some (.string text) => return (⟨.string, text⟩, index + 1)
  | some (.number text) => return (⟨.number, text⟩, index + 1)
  | token => .error (.message (expectedText "string or number literal" token))

/-- The literals of a list, up to its closing bracket. -/
def parseLiteralsAt : ℕ → ℕ → Except Failure (List QueryLiteral × ℕ)
  | 0, _ => .error .outOfFuel
  | fuel + 1, index => do
    let (value, index) ← parseLiteralAt tokens index
    let (closed, index) ← matchAt tokens .rbracket index
    if closed then return ([value], index)
    else
      let index ← consumeAt tokens .comma "comma" index
      let (values, index) ← parseLiteralsAt fuel index
      return (value :: values, index)

/-- `parsePredicate`: as `Search.parsePredicate`, each token looked at through the index. -/
def parsePredicateAt (fuel index : ℕ) : Except Failure (QueryExpression × ℕ) := do
  match ← peek tokens index with
  | some (.identifier field) =>
    let (found, index) ← matchAt tokens .exists (index + 1)
    if found then return (.predicate field .exists, index)
    else match ← peek tokens index with
      | some .in =>
        let index ← consumeAt tokens .lbracket "lbracket" (index + 1)
        let (values, index) ← parseLiteralsAt tokens fuel index
        if 32 < values.length then .error (.message "in requires 1..32 literals")
        else return (.predicate field (.in values), index)
      | some (.operator op) =>
        let (value, index) ← parseLiteralAt tokens (index + 1)
        return (.predicate field (.compare op value), index)
      | _ => .error (.message ("expected comparison operator after " ++ asciiText field))
  | token => .error (.message (expectedText "identifier" token))

mutual

/-- `parseOr`. -/
def parseOrAt : ℕ → ℕ → Except Failure (QueryExpression × ℕ)
  | 0, _ => .error .outOfFuel
  | fuel + 1, index => do
    let (left, index) ← parseAndAt fuel index
    orLoopAt fuel left index

/-- The loop of `parseOr`. -/
def orLoopAt : ℕ → QueryExpression → ℕ → Except Failure (QueryExpression × ℕ)
  | 0, _, _ => .error .outOfFuel
  | fuel + 1, left, index => do
    let (found, index) ← matchAt tokens .or index
    if found then
      let (right, index) ← parseAndAt fuel index
      orLoopAt fuel (.or left right) index
    else return (left, index)

/-- `parseAnd`. -/
def parseAndAt : ℕ → ℕ → Except Failure (QueryExpression × ℕ)
  | 0, _ => .error .outOfFuel
  | fuel + 1, index => do
    let (left, index) ← parseNotAt fuel index
    andLoopAt fuel left index

/-- The loop of `parseAnd`. -/
def andLoopAt : ℕ → QueryExpression → ℕ → Except Failure (QueryExpression × ℕ)
  | 0, _, _ => .error .outOfFuel
  | fuel + 1, left, index => do
    let (found, index) ← matchAt tokens .and index
    if found then
      let (right, index) ← parseNotAt fuel index
      andLoopAt fuel (.and left right) index
    else return (left, index)

/-- `parseNot`: as `Search.parseNot`. -/
def parseNotAt : ℕ → ℕ → Except Failure (QueryExpression × ℕ)
  | 0, _ => .error .outOfFuel
  | fuel + 1, index => do
    let (found, index) ← matchAt tokens .not index
    if found then
      let (child, index) ← parseNotAt fuel index
      return (.not child, index)
    else parsePrimaryAt fuel index

/-- `parsePrimary`: as `Search.parsePrimary`. -/
def parsePrimaryAt : ℕ → ℕ → Except Failure (QueryExpression × ℕ)
  | 0, _ => .error .outOfFuel
  | fuel + 1, index => do
    let (found, index) ← matchAt tokens .lparen index
    if found then
      let (expression, index) ← parseOrAt fuel index
      let index ← consumeAt tokens .rparen "rparen" index
      return (expression, index)
    else parsePredicateAt tokens fuel index

end

end

/-- `parseQuery` with the index of its parser. -/
def parseQueryAt (fuel : ℕ) (raw : GoString) : Except Failure (Option QueryExpression) :=
  if raw = [] then .ok none
  else match lexQuery raw with
    | .error message => .error (.message message)
    | .ok lexed => do
      let tokens := lexed.map some ++ [none]
      let (expression, index) ← parseOrAt tokens fuel 0
      match ← peek tokens index with
      | none => return some expression
      | some token => .error (.message ("unexpected token " ++ quote token.text))

/-! ## The tokens that are left -/

/-- The tokens from an index on, and `eof`. -/
def At (tokens : List (Option QueryToken)) (index : ℕ) (rest : List QueryToken) : Prop :=
  tokens.drop index = rest.map some ++ [none]

/-- With an index the parser does what it does on the tokens that are left. -/
def Simulates {α : Type} (tokens : List (Option QueryToken)) (x : Except Failure (α × ℕ))
    (y : Except String (α × List QueryToken)) : Prop :=
  match y with
  | .ok (a, rest) => ∃ index, x = .ok (a, index) ∧ At tokens index rest
  | .error message => x = .error (.message message)

section

variable {tokens : List (Option QueryToken)} {index : ℕ} {rest : List QueryToken}

theorem peek_eq (h : At tokens index rest) : peek tokens index = .ok rest.head? := by
  have hget : tokens[index]? = some rest.head? := by
    rw [← List.head?_drop, show tokens.drop index = _ from h]
    match rest with
    | [] => rfl
    | _ :: _ => rfl
  rw [peek, hget]
  rfl

theorem At.succ {token : QueryToken} (h : At tokens index (token :: rest)) :
    At tokens (index + 1) rest := by
  rw [At, ← List.drop_drop, show tokens.drop index = _ from h]
  rfl

theorem matchAt_eq (h : At tokens index rest) (token : QueryToken) :
    matchAt tokens token index =
      if rest.head? = some token then .ok (true, index + 1) else .ok (false, index) := by
  rw [matchAt, peek_eq h, ok_bind]

theorem consumeAt_eq (h : At tokens index rest) (token : QueryToken) (kind : String) :
    consumeAt tokens token kind index =
      if rest.head? = some token then .ok (index + 1)
      else .error (.message (expectedText kind rest.head?)) := by
  rw [consumeAt, peek_eq h, ok_bind]

theorem simulates_ok {α : Type} (a : α) (h : At tokens index rest) :
    Simulates tokens (.ok (a, index)) (.ok (a, rest)) := ⟨index, rfl, h⟩

theorem Simulates.bind {α β : Type} {x : Except Failure (α × ℕ)}
    {y : Except String (α × List QueryToken)} {f : α × ℕ → Except Failure (β × ℕ)}
    {g : α × List QueryToken → Except String (β × List QueryToken)} (h : Simulates tokens x y)
    (hnext : ∀ a index rest, y = .ok (a, rest) → At tokens index rest →
      Simulates tokens (f (a, index)) (g (a, rest))) :
    Simulates tokens (x >>= f) (y >>= g) := by
  match y, h, hnext with
  | .error message, h, _ =>
    rw [show x = _ from h]
    rfl
  | .ok (a, rest), h, hnext =>
    obtain ⟨index, rfl, hat⟩ := h
    exact hnext a index rest rfl hat

/-! ## One rule at a time -/

/-- A result that is rewrapped. -/
theorem Simulates.map {α β : Type} {x : Except Failure (α × ℕ)}
    {y : Except String (α × List QueryToken)} (h : Simulates tokens x y) (f : α → β) :
    Simulates tokens (x >>= fun r => .ok (f r.1, r.2)) (y.map fun r => (f r.1, r.2)) := by
  cases y with
  | error message =>
    rw [show x = _ from h]
    rfl
  | ok r =>
    obtain ⟨index, rfl, hat⟩ := h
    exact ⟨index, rfl, hat⟩

theorem simulates_literal (h : At tokens index rest) :
    Simulates tokens (parseLiteralAt tokens index) (readLiteral rest) := by
  rw [parseLiteralAt, peek_eq h, ok_bind]
  cases rest with
  | nil => rfl
  | cons head rest =>
    cases head with
    | string text => exact ⟨index + 1, rfl, h.succ⟩
    | number text => exact ⟨index + 1, rfl, h.succ⟩
    | _ => rfl

/-- A token that is there is taken. -/
theorem At.of_head {token : QueryToken} (h : At tokens index rest)
    (hhead : rest.head? = some token) : At tokens (index + 1) rest.tail := by
  obtain ⟨more, rfl⟩ := List.head?_eq_some_iff.1 hhead
  exact h.succ

theorem length_tail_lt {token : QueryToken} (hhead : rest.head? = some token) :
    rest.tail.length < rest.length := by
  obtain ⟨more, rfl⟩ := List.head?_eq_some_iff.1 hhead
  exact Nat.lt_succ_self _

theorem simulates_literals : ∀ {fuel index : ℕ} {rest : List QueryToken}, At tokens index rest →
    rest.length < fuel → Simulates tokens (parseLiteralsAt tokens fuel index) (readLiterals rest) := by
  intro fuel
  induction fuel with
  | zero =>
    intro index rest _ hfuel
    exact absurd hfuel (Nat.not_lt_zero _)
  | succ fuel ih =>
    intro index rest h hfuel
    rw [parseLiteralsAt, readLiterals_eq]
    refine (simulates_literal h).bind fun value index' rest' hread hat => ?_
    have hrest : rest = value.token :: rest' := readLiteral_eq_ok hread
    dsimp only
    rw [matchAt_eq hat]
    by_cases hclosed : rest'.head? = some .rbracket
    · rw [if_pos hclosed, if_pos hclosed]
      exact simulates_ok [value] (hat.of_head hclosed)
    · rw [if_neg hclosed, if_neg hclosed, ok_bind]
      dsimp only
      rw [if_neg Bool.false_ne_true, consumeAt_eq hat]
      by_cases hcomma : rest'.head? = some .comma
      · rw [if_pos hcomma, if_pos hcomma, ok_bind]
        have hlt : rest'.tail.length < rest'.length := length_tail_lt hcomma
        rw [hrest, List.length_cons] at hfuel
        exact (ih (hat.of_head hcomma) (by omega)).map (value :: ·)
      · rw [if_neg hcomma, if_neg hcomma]
        rfl

theorem simulates_predicate {fuel : ℕ} (h : At tokens index rest) (hfuel : rest.length < fuel) :
    Simulates tokens (parsePredicateAt tokens fuel index) (readPredicate rest) := by
  rw [parsePredicateAt, peek_eq h, ok_bind]
  cases rest with
  | nil => rfl
  | cons head rest =>
    cases head with
    | identifier field =>
      have hfield : At tokens (index + 1) rest := h.succ
      dsimp only [List.head?_cons]
      rw [matchAt_eq hfield]
      cases rest with
      | nil =>
        rw [if_neg (by simp), ok_bind]
        dsimp only
        rw [if_neg Bool.false_ne_true, peek_eq hfield]
        rfl
      | cons token rest =>
        by_cases hexists : token = .exists
        · subst hexists
          exact ⟨index + 1 + 1, rfl, hfield.succ⟩
        · rw [if_neg (by simpa using hexists), ok_bind]
          dsimp only
          rw [if_neg Bool.false_ne_true, peek_eq hfield, ok_bind]
          cases token with
          | «in» =>
            dsimp only [List.head?_cons]
            rw [consumeAt_eq hfield.succ]
            by_cases hbracket : rest.head? = some .lbracket
            · obtain ⟨more, rfl⟩ := List.head?_eq_some_iff.1 hbracket
              rw [if_pos hbracket, ok_bind, readPredicate_in]
              refine (simulates_literals hfield.succ.succ ?_).bind
                fun values index' rest' _ hat => ?_
              · simp only [List.length_cons] at hfuel
                omega
              · dsimp only
                by_cases hlength : 32 < values.length
                · rw [if_pos hlength, if_pos hlength]
                  rfl
                · rw [if_neg hlength, if_neg hlength]
                  exact simulates_ok _ hat
            · rw [if_neg hbracket, readPredicate, parsePredicate, consume_of_ne _ hbracket]
              rfl
          | operator op =>
            rw [readPredicate_operator]
            exact (simulates_literal hfield.succ).map fun value =>
              QueryExpression.predicate field (.compare op value)
          | «exists» => exact absurd rfl hexists
          | _ => rfl
    | _ => rfl

end

/-! ## Enough fuel -/

/-- **With this fuel each function of the parser does what it does on the tokens that are left.** -/
structure EnoughFuel (tokens : List (Option QueryToken)) (fuel : ℕ) : Prop where
  primary : ∀ {index rest}, At tokens index rest → 4 * rest.length + 1 ≤ fuel →
    Simulates tokens (parsePrimaryAt tokens fuel index) (readPrimary rest)
  not : ∀ {index rest}, At tokens index rest → 4 * rest.length + 2 ≤ fuel →
    Simulates tokens (parseNotAt tokens fuel index) (readNot rest)
  and : ∀ {index rest}, At tokens index rest → 4 * rest.length + 3 ≤ fuel →
    Simulates tokens (parseAndAt tokens fuel index) (readAnd rest)
  or : ∀ {index rest}, At tokens index rest → 4 * rest.length + 4 ≤ fuel →
    Simulates tokens (parseOrAt tokens fuel index) (readOr rest)
  andLoop : ∀ {left index rest}, At tokens index rest → 4 * rest.length + 1 ≤ fuel →
    Simulates tokens (andLoopAt tokens fuel left index) (readAndLoop left rest)
  orLoop : ∀ {left index rest}, At tokens index rest → 4 * rest.length + 1 ≤ fuel →
    Simulates tokens (orLoopAt tokens fuel left index) (readOrLoop left rest)

section

variable {tokens : List (Option QueryToken)} {fuel index : ℕ} {rest : List QueryToken}

theorem EnoughFuel.primary_succ (ih : EnoughFuel tokens fuel) (h : At tokens index rest)
    (hfuel : 4 * rest.length ≤ fuel) :
    Simulates tokens (parsePrimaryAt tokens (fuel + 1) index) (readPrimary rest) := by
  rw [parsePrimaryAt, matchAt_eq h]
  by_cases hopen : rest.head? = some .lparen
  · obtain ⟨more, rfl⟩ := List.head?_eq_some_iff.1 hopen
    rw [if_pos hopen, ok_bind, readPrimary_lparen]
    dsimp only
    rw [if_pos rfl]
    rw [List.length_cons] at hfuel
    refine (ih.or h.succ (by omega)).bind fun expression index' rest' _ hat => ?_
    dsimp only
    rw [consumeAt_eq hat]
    by_cases hclosed : rest'.head? = some .rparen
    · rw [if_pos hclosed, if_pos hclosed]
      exact simulates_ok expression (hat.of_head hclosed)
    · rw [if_neg hclosed, if_neg hclosed]
      rfl
  · rw [if_neg hopen, ok_bind, readPrimary_of_ne hopen]
    dsimp only
    rw [if_neg Bool.false_ne_true]
    cases rest with
    | nil =>
      rw [parsePredicateAt, peek_eq h]
      rfl
    | cons head rest =>
      rw [List.length_cons] at hfuel
      exact simulates_predicate h (by rw [List.length_cons]; omega)

theorem EnoughFuel.not_succ (ih : EnoughFuel tokens fuel) (h : At tokens index rest)
    (hfuel : 4 * rest.length + 1 ≤ fuel) :
    Simulates tokens (parseNotAt tokens (fuel + 1) index) (readNot rest) := by
  rw [parseNotAt, matchAt_eq h]
  by_cases hnot : rest.head? = some .not
  · obtain ⟨more, rfl⟩ := List.head?_eq_some_iff.1 hnot
    rw [if_pos hnot, ok_bind, readNot_not]
    rw [List.length_cons] at hfuel
    exact (ih.not h.succ (by omega)).map QueryExpression.not
  · rw [if_neg hnot, ok_bind, readNot_of_ne hnot]
    exact ih.primary h hfuel

theorem EnoughFuel.andLoop_succ (ih : EnoughFuel tokens fuel) (left : QueryExpression)
    (h : At tokens index rest) (hfuel : 4 * rest.length ≤ fuel) :
    Simulates tokens (andLoopAt tokens (fuel + 1) left index) (readAndLoop left rest) := by
  rw [andLoopAt, matchAt_eq h]
  by_cases hand : rest.head? = some .and
  · obtain ⟨more, rfl⟩ := List.head?_eq_some_iff.1 hand
    rw [if_pos hand, ok_bind, readAndLoop_and]
    rw [List.length_cons] at hfuel
    refine (ih.not h.succ (by omega)).bind fun right index' rest' hread hat => ?_
    have hlt : rest'.length < more.length := ((sound more).not hread).length_lt
    exact ih.andLoop hat (by dsimp only; omega)
  · rw [if_neg hand, readAndLoop_of_ne left hand]
    exact simulates_ok left h

theorem EnoughFuel.orLoop_succ (ih : EnoughFuel tokens fuel) (left : QueryExpression)
    (h : At tokens index rest) (hfuel : 4 * rest.length ≤ fuel) :
    Simulates tokens (orLoopAt tokens (fuel + 1) left index) (readOrLoop left rest) := by
  rw [orLoopAt, matchAt_eq h]
  by_cases hor : rest.head? = some .or
  · obtain ⟨more, rfl⟩ := List.head?_eq_some_iff.1 hor
    rw [if_pos hor, ok_bind, readOrLoop_or]
    rw [List.length_cons] at hfuel
    refine (ih.and h.succ (by omega)).bind fun right index' rest' hread hat => ?_
    have hlt : rest'.length < more.length := ((sound more).and hread).length_lt
    exact ih.orLoop hat (by dsimp only; omega)
  · rw [if_neg hor, readOrLoop_of_ne left hor]
    exact simulates_ok left h

theorem EnoughFuel.and_succ (ih : EnoughFuel tokens fuel) (h : At tokens index rest)
    (hfuel : 4 * rest.length + 2 ≤ fuel) :
    Simulates tokens (parseAndAt tokens (fuel + 1) index) (readAnd rest) := by
  rw [parseAndAt, readAnd_eq]
  refine (ih.not h hfuel).bind fun left index' rest' hread hat => ?_
  have hlt : rest'.length < rest.length := ((sound rest).not hread).length_lt
  exact ih.andLoop hat (by dsimp only; omega)

theorem EnoughFuel.or_succ (ih : EnoughFuel tokens fuel) (h : At tokens index rest)
    (hfuel : 4 * rest.length + 3 ≤ fuel) :
    Simulates tokens (parseOrAt tokens (fuel + 1) index) (readOr rest) := by
  rw [parseOrAt, readOr_eq]
  refine (ih.and h hfuel).bind fun left index' rest' hread hat => ?_
  have hlt : rest'.length < rest.length := ((sound rest).and hread).length_lt
  exact ih.orLoop hat (by dsimp only; omega)

theorem enoughFuel (tokens : List (Option QueryToken)) (fuel : ℕ) : EnoughFuel tokens fuel := by
  induction fuel with
  | zero =>
    exact
      { primary := fun _ hfuel => absurd hfuel (Nat.not_succ_le_zero _)
        not := fun _ hfuel => absurd hfuel (Nat.not_succ_le_zero _)
        and := fun _ hfuel => absurd hfuel (Nat.not_succ_le_zero _)
        or := fun _ hfuel => absurd hfuel (Nat.not_succ_le_zero _)
        andLoop := fun _ hfuel => absurd hfuel (Nat.not_succ_le_zero _)
        orLoop := fun _ hfuel => absurd hfuel (Nat.not_succ_le_zero _) }
  | succ fuel ih =>
    exact
      { primary := fun h hfuel => ih.primary_succ h (Nat.le_of_succ_le_succ hfuel)
        not := fun h hfuel => ih.not_succ h (Nat.le_of_succ_le_succ hfuel)
        and := fun h hfuel => ih.and_succ h (Nat.le_of_succ_le_succ hfuel)
        or := fun h hfuel => ih.or_succ h (Nat.le_of_succ_le_succ hfuel)
        andLoop := fun h hfuel => ih.andLoop_succ _ h (Nat.le_of_succ_le_succ hfuel)
        orLoop := fun h hfuel => ih.orLoop_succ _ h (Nat.le_of_succ_le_succ hfuel) }

end

/-! ## Whole queries -/

/-- A query has no more tokens than bytes. -/
theorem length_le_of_lexFrom {raw : GoString} : ∀ {skip : ℕ} {tokens : List QueryToken},
    lexFrom skip raw = .ok tokens → tokens.length ≤ raw.length := by
  induction raw with
  | nil =>
    intro skip tokens h
    cases skip with
    | zero => simp_all [lexFrom]
    | succ skip => simp_all [lexFrom]
  | cons b rest ih =>
    intro skip tokens h
    cases skip with
    | succ skip => exact (ih h).trans (Nat.le_succ _)
    | zero =>
      rw [lexFrom] at h
      by_cases hspace : isSpaceByte b
      · rw [if_pos hspace] at h
        exact (ih h).trans (Nat.le_succ _)
      · rw [if_neg hspace] at h
        cases hnext : nextToken b rest with
        | error message => simp [hnext] at h
        | ok r =>
          rw [hnext] at h
          obtain ⟨more, hmore, rfl⟩ := exceptMap_eq_ok.1 h
          exact Nat.succ_le_succ (ih hmore)

/-- `parseQuery` in terms of the tokens. -/
theorem parseQuery_eq {raw : GoString} {tokens : List QueryToken} (hraw : raw ≠ [])
    (hlex : lexQuery raw = .ok tokens) : parseQuery raw = readOr tokens >>= fun r =>
      r.2.head?.elim (.ok (some r.1)) fun token =>
        .error ("unexpected token " ++ quote token.text) := by
  rw [parseQuery, if_neg hraw, hlex, readOr, ok_bind]
  cases parseOr tokens with
  | error message => rfl
  | ok r => rfl

/-- **The index stays in the list and the parser comes to its end**: with four steps for each byte,
and four more, `parseQuery` with its index is `parseQuery` on the tokens that are left. -/
theorem parseQueryAt_eq (raw : GoString) (more : ℕ) :
    parseQueryAt (4 * raw.length + 4 + more) raw = (parseQuery raw).mapError .message := by
  by_cases hraw : raw = []
  · subst hraw
    rfl
  · rw [parseQueryAt, if_neg hraw]
    cases hlex : lexQuery raw with
    | error message =>
      rw [parseQuery, if_neg hraw, hlex]
      rfl
    | ok tokens =>
      have hlength : tokens.length ≤ raw.length := length_le_of_lexFrom hlex
      have hstart : At (tokens.map some ++ [none]) 0 tokens := rfl
      have hsim := (enoughFuel (tokens.map some ++ [none]) (4 * raw.length + 4 + more)).or hstart
        (by omega)
      rw [parseQuery_eq hraw hlex]
      dsimp only
      cases hread : readOr tokens with
      | error message =>
        rw [hread] at hsim
        rw [show parseOrAt _ _ 0 = _ from hsim]
        rfl
      | ok r =>
        rw [hread] at hsim
        obtain ⟨index, hat, hrest⟩ := hsim
        rw [hat, ok_bind, ok_bind]
        dsimp only
        rw [peek_eq hrest, ok_bind]
        cases htail : r.2 with
        | nil => rfl
        | cons head tail => rfl

/-- **A query is accepted exactly if its tokens are a print of the grammar**, with the parentheses
its levels need and any others, and it is read as the expression that is printed. -/
theorem parseQuery_eq_ok_iff (raw : GoString) (expression : QueryExpression) :
    parseQuery raw = .ok (some expression) ↔
      ∃ p : Parenthesized, p.erase = expression ∧ expression.Proper ∧
        lexQuery raw = .ok (p.tokensAt 0) := by
  by_cases hraw : raw = []
  · subst hraw
    refine ⟨fun h => by simp [parseQuery] at h, fun h => ?_⟩
    obtain ⟨p, -, -, hlex⟩ := h
    rw [Parenthesized.tokensAt_eq] at hlex
    exact absurd (Except.ok.inj hlex).symm (enclose_ne_nil p.body_ne_nil _)
  constructor
  · intro h
    cases hlex : lexQuery raw with
    | error message =>
      rw [parseQuery, if_neg hraw, hlex, error_bind] at h
      cases h
    | ok tokens =>
      rw [parseQuery_eq hraw hlex] at h
      obtain ⟨r, hread, hr⟩ := bind_eq_ok.1 h
      obtain ⟨read, rest⟩ := r
      cases rest with
      | cons token rest => exact nomatch hr
      | nil =>
        obtain rfl := Option.some.inj (Except.ok.inj hr)
        obtain ⟨p, herase, hproper, rfl⟩ := exists_tokensAt_of_readOr hread
        exact ⟨p, herase, hproper, rfl⟩
  · intro h
    obtain ⟨p, rfl, hproper, hlex⟩ := h
    rw [parseQuery_eq hraw hlex, readOr_tokensAt hproper]
    rfl

end Search

end Cerbero
