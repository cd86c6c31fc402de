import Cerbero.Search.Isolation
import Cerbero.Lib.ThreeValued

/-!
# Search/ClickHouse — which rows the condition of a search selects

The text of a compiled expression is that of a `Condition`, whose placeholders are bound to the
literals.  ClickHouse evaluates it on a row: a comparison with `NULL` is undetermined, `isNotNull`
never is, and the connectives are those of three-valued logic.  The value is `truth`, which the
expression and the row determine (`eval_conditionOf`).
-/

namespace Cerbero

namespace Search

open Text ThreeValued

/-! ## Rows -/

/-- The hexadecimal digits of the identifier of a row. -/
abbrev Uuid := Fin 32 → Fin 16

/-- **A row of `normalized_events`**, by the columns a search can name. -/
structure StoredRow where
  normalizedEventId : Uuid
  rawEventId : Uuid
  classUid : UInt32
  categoryUid : UInt32
  activityId : Option UInt32
  severity : Option UInt32
  parserId : GoString
  parserVersion : GoString
  mappingId : GoString
  mappingVersion : GoString
  executionMode : UInt8
  ocsfEventJson : GoString

/-- `toString` of a `UUID`: its digits in lower case, in five groups. -/
def uuidText (id : Uuid) : GoString :=
  let digits := (List.finRange 32).map fun i => (Nat.digitChar (id i)).toNat.toUInt8
  digits.take 8 ++ 0x2d :: (digits.drop 8).take 4 ++ 0x2d :: (digits.drop 12).take 4 ++
    0x2d :: (digits.drop 16).take 4 ++ 0x2d :: digits.drop 20

/-- The value of an expression: a text, or a number that may be `NULL`. -/
inductive Cell
  | text (value : GoString)
  | number (value : Option ℕ)
  deriving DecidableEq

/-- What ClickHouse computes. -/
structure ClickHouse where
  /-- `JSONExtractString`. -/
  extractString : GoString → List String → GoString
  /-- A column compared with a `Float64` parameter. -/
  compareNumber : Operator → ℕ → GoString → Bool
  /-- The value of a `String` parameter.  There is one for every text: a query with a literal that
  cannot be read (`boundString`) is refused as a whole and selects among no rows. -/
  bindText : GoString → GoString

/-- The value of an expression on a row. -/
def ClickHouse.cell (clickHouse : ClickHouse) (row : StoredRow) : String → Cell
  | "JSONExtractString(ocsf_event_json, 'user', 'name')" =>
    .text (clickHouse.extractString row.ocsfEventJson ["user", "name"])
  | "JSONExtractString(ocsf_event_json, 'src_endpoint', 'ip')" =>
    .text (clickHouse.extractString row.ocsfEventJson ["src_endpoint", "ip"])
  | "JSONExtractString(ocsf_event_json, 'service', 'name')" =>
    .text (clickHouse.extractString row.ocsfEventJson ["service", "name"])
  | "JSONExtractString(ocsf_event_json, 'status')" =>
    .text (clickHouse.extractString row.ocsfEventJson ["status"])
  | "JSONExtractString(ocsf_event_json, 'message')" =>
    .text (clickHouse.extractString row.ocsfEventJson ["message"])
  | "class_uid" => .number (some row.classUid.toNat)
  | "category_uid" => .number (some row.categoryUid.toNat)
  | "activity_id" => .number (row.activityId.map UInt32.toNat)
  | "severity" => .number (row.severity.map UInt32.toNat)
  | "toString(normalized_event_id)" => .text (uuidText row.normalizedEventId)
  | "toString(raw_event_id)" => .text (uuidText row.rawEventId)
  | "parser_id" => .text row.parserId
  | "parser_version" => .text row.parserVersion
  | "mapping_id" => .text row.mappingId
  | "mapping_version" => .text row.mappingVersion
  | "execution_mode" => .number (some row.executionMode.toNat)
  | _ => .text []

/-! ## Conditions -/

/-- A placeholder. -/
structure Place where
  number : ℕ
  kind : ValueKind

def Place.text (place : Place) : String := placeholder place.number place.kind

/-- **A condition**, as the compiler writes it. -/
inductive Condition
  | isNotNull (expression : String)
  | notEmpty (expression : String)
  | isIn (expression : String) (places : List Place)
  | text (op : Operator) (expression : String) (place : Place)
  | compare (op : Operator) (expression : String) (place : Place)
  | and (left right : Condition)
  | or (left right : Condition)
  | not (child : Condition)

/-- The text of a condition. -/
def Condition.render : Condition → String
  | .isNotNull expression => "isNotNull(" ++ expression ++ ")"
  | .notEmpty expression => expression ++ " != ''"
  | .isIn expression places =>
    expression ++ " IN (" ++ ", ".intercalate (places.map Place.text) ++ ")"
  | .text op expression place => textCondition op expression place.text
  | .compare op expression place => expression ++ " " ++ op.sql ++ " " ++ place.text
  | .and left right => "(" ++ left.render ++ " AND " ++ right.render ++ ")"
  | .or left right => "(" ++ left.render ++ " OR " ++ right.render ++ ")"
  | .not child => "(NOT " ++ child.render ++ ")"

/-- The condition of a test, when its first parameter has the number `n`. -/
def testCondition (spec : FieldSpec) (n : ℕ) : Test → Condition
  | .exists => if spec.nullable then .isNotNull spec.expression else .notEmpty spec.expression
  | .in values => .isIn spec.expression ((values.zipIdx n).map fun entry => ⟨entry.2, entry.1.kind⟩)
  | .compare op value =>
    if op.isText then .text op spec.expression ⟨n, value.kind⟩
    else .compare op spec.expression ⟨n, value.kind⟩

/-- The condition of an expression; an unknown field does not compile. -/
def conditionOf : ℕ → QueryExpression → Condition
  | n, .and left right => .and (conditionOf n left) (conditionOf (n + left.literals.length) right)
  | n, .or left right => .or (conditionOf n left) (conditionOf (n + left.literals.length) right)
  | n, .not child => .not (conditionOf n child)
  | n, .predicate field test =>
    match fieldSpecOf field with
    | none => .notEmpty ""
    | some spec => testCondition spec n test

/-! ## Values -/

/-- The value of a parameter. -/
def Values.get (values : Values) (name : String) : GoString :=
  ((values.find? fun entry => entry.1 = name).map Prod.snd).getD []

/-- The value bound to the placeholder with a number. -/
def Values.ofNumber (values : Values) (n : ℕ) : GoString :=
  values.get ("param_" ++ parameterName n)

section

variable (clickHouse : ClickHouse)

/-- `isNotNull`. -/
def Cell.isNotNull : Cell → Truth
  | .text _ => some true
  | .number value => some value.isSome

/-- `!= ''`. -/
def Cell.notEmpty : Cell → Truth
  | .text value => some (value ≠ [])
  | .number _ => none

/-- `IN`.  The parameters have the type of the expression. -/
def Cell.isIn : Cell → List GoString → Truth
  | .text value, parameters => some (parameters.any fun text => clickHouse.bindText text = value)
  | .number value, parameters =>
    value.map fun n => parameters.any fun text => clickHouse.compareNumber .eq n text

/-- A comparison.  Texts are compared for equality only. -/
def Cell.compare (op : Operator) : Cell → GoString → Truth
  | .text value, parameter =>
    some (if op = .ne then value ≠ clickHouse.bindText parameter
      else value = clickHouse.bindText parameter)
  | .number value, parameter => value.map fun n => clickHouse.compareNumber op n parameter

/-- `positionCaseSensitive(…) > 0`, `startsWith` and `endsWith`. -/
def Cell.textFunction (op : Operator) : Cell → GoString → Truth
  | .text value, parameter =>
    match op with
    | .contains => some (clickHouse.bindText parameter <:+: value)
    | .startsWith => some (clickHouse.bindText parameter <+: value)
    | _ => some (clickHouse.bindText parameter <:+ value)
  | .number _, _ => none

/-- **The value of a condition** on a row. -/
def Condition.eval (values : Values) (row : StoredRow) : Condition → Truth
  | .isNotNull expression => (clickHouse.cell row expression).isNotNull
  | .notEmpty expression => (clickHouse.cell row expression).notEmpty
  | .isIn expression places =>
    (clickHouse.cell row expression).isIn clickHouse
      (places.map fun place => values.ofNumber place.number)
  | .text op expression place =>
    (clickHouse.cell row expression).textFunction clickHouse op (values.ofNumber place.number)
  | .compare op expression place =>
    (clickHouse.cell row expression).compare clickHouse op (values.ofNumber place.number)
  | .and left right => (left.eval values row).and (right.eval values row)
  | .or left right => (left.eval values row).or (right.eval values row)
  | .not child => (child.eval values row).not

/-! ## The value of an expression -/

/-- The value of a test on a row. -/
def Test.truth (row : StoredRow) (spec : FieldSpec) : Test → Truth
  | .exists =>
    if spec.nullable then (clickHouse.cell row spec.expression).isNotNull
    else (clickHouse.cell row spec.expression).notEmpty
  | .in values => (clickHouse.cell row spec.expression).isIn clickHouse
      (values.map QueryLiteral.text)
  | .compare op value =>
    if op.isText then (clickHouse.cell row spec.expression).textFunction clickHouse op value.text
    else (clickHouse.cell row spec.expression).compare clickHouse op value.text

/-- **The value of an expression on a row.** -/
def QueryExpression.truth (row : StoredRow) : QueryExpression → Truth
  | .and left right => (left.truth row).and (right.truth row)
  | .or left right => (left.truth row).or (right.truth row)
  | .not child => (child.truth row).not
  | .predicate field test =>
    match fieldSpecOf field with
    | none => some false
    | some spec => test.truth clickHouse row spec

end

/-- The placeholders from the number `n` on are bound to literals. -/
def Binds (values : Values) (n : ℕ) (literals : List QueryLiteral) : Prop :=
  ∀ i value, literals[i]? = some value → values.ofNumber (n + i) = value.text

theorem Binds.left {values : Values} {n : ℕ} {left right : List QueryLiteral}
    (h : Binds values n (left ++ right)) : Binds values n left := by
  intro i value hi
  refine h i value ?_
  rw [List.getElem?_append_left (List.getElem?_eq_some_iff.1 hi).1, hi]

theorem Binds.right {values : Values} {n : ℕ} {left right : List QueryLiteral}
    (h : Binds values n (left ++ right)) : Binds values (n + left.length) right := by
  intro i value hi
  have := h (left.length + i) value
    (by rw [List.getElem?_append_right (Nat.le_add_right _ _), Nat.add_sub_cancel_left, hi])
  rwa [← Nat.add_assoc] at this

theorem Binds.first {values : Values} {n : ℕ} {value : QueryLiteral} {literals : List QueryLiteral}
    (h : Binds values n (value :: literals)) : values.ofNumber n = value.text := h 0 value rfl

theorem Binds.texts {values : Values} : ∀ {n : ℕ} {literals : List QueryLiteral},
    Binds values n literals →
    (literals.zipIdx n).map (fun entry => values.ofNumber entry.2) = literals.map QueryLiteral.text
  | _, [], _ => rfl
  | n, value :: literals, h => by
      have hrest : Binds values (n + 1) literals := fun i other hi => by
        have := h (i + 1) other hi
        rwa [Nat.add_comm i, ← Nat.add_assoc] at this
      rw [List.zipIdx_cons, List.map_cons, List.map_cons, hrest.texts, h.first]

variable {clickHouse : ClickHouse} {row : StoredRow}

theorem eval_testCondition {values : Values} {n : ℕ} (spec : FieldSpec) : ∀ {test : Test},
    Binds values n test.literals →
    (testCondition spec n test).eval clickHouse values row = test.truth clickHouse row spec
  | .exists, _ => by
      rw [testCondition, Test.truth]
      split_ifs
      · rfl
      · rfl
  | .in literals, h => by
      have htexts : (literals.zipIdx n).map (fun entry => values.ofNumber entry.2) =
          literals.map QueryLiteral.text := h.texts
      rw [testCondition, Condition.eval, Test.truth, List.map_map]
      exact congrArg _ htexts
  | .compare op value, h => by
      rw [testCondition, Test.truth]
      split_ifs
      · rw [Condition.eval, h.first]
      · rw [Condition.eval, h.first]

/-- **The condition of an expression has the value of the expression**, whatever the number of its
first parameter. -/
theorem eval_conditionOf {values : Values} : ∀ {n : ℕ} {expression : QueryExpression},
    Binds values n expression.literals →
    (conditionOf n expression).eval clickHouse values row = expression.truth clickHouse row
  | _, .and left right, h => by
      rw [conditionOf, Condition.eval, QueryExpression.truth, eval_conditionOf h.left,
        eval_conditionOf h.right]
  | _, .or left right, h => by
      rw [conditionOf, Condition.eval, QueryExpression.truth, eval_conditionOf h.left,
        eval_conditionOf h.right]
  | _, .not child, h => by
      rw [conditionOf, Condition.eval, QueryExpression.truth,
        eval_conditionOf (show Binds values _ child.literals from h)]
  | n, .predicate field test, h => by
      rw [conditionOf, QueryExpression.truth]
      match fieldSpecOf field with
      | none => rfl
      | some spec => exact eval_testCondition spec h

/-! ## What compiles -/

section

variable (uuidVersion : GoString → Option ℕ)

/-- A literal that `typedSearchParameter` takes. -/
def QueryLiteral.Accepted (spec : FieldSpec) (value : QueryLiteral) : Prop :=
  spec.kind = value.kind ∧ (spec.uuid → uuidVersion value.text = some 7) ∧
    (spec.kind = .number → parsesAsFloat value.text = true)

/-- A test that `compilePredicate` takes. -/
def Test.Accepted (spec : FieldSpec) : Test → Prop
  | .exists => spec.nullable ∨ spec.kind = .string
  | .in values => values ≠ [] ∧ ∀ value ∈ values, value.Accepted uuidVersion spec
  | .compare op value =>
    if op.isText then spec.kind = .string ∧ value.kind = .string
    else (spec.kind = .string → op = .eq ∨ op = .ne) ∧ value.Accepted uuidVersion spec

/-- An expression that `compileExpression` takes. -/
def QueryExpression.Accepted : QueryExpression → Prop
  | .and left right => left.Accepted ∧ right.Accepted
  | .or left right => left.Accepted ∧ right.Accepted
  | .not child => child.Accepted
  | .predicate field test => ∃ spec, fieldSpecOf field = some spec ∧ test.Accepted uuidVersion spec

end

variable {uuidVersion : GoString → Option ℕ}

theorem exists_typedSearchParameter_eq_ok_iff {bindings : Bindings} {spec : FieldSpec}
    {value : QueryLiteral} :
    (∃ result, typedSearchParameter uuidVersion bindings spec value = .ok result) ↔
      value.Accepted uuidVersion spec := by
  unfold typedSearchParameter QueryLiteral.Accepted
  split_ifs with hkind huuid hnumber
  · exact ⟨fun ⟨_, h⟩ => (nomatch h), fun h => absurd h.1 hkind⟩
  · exact ⟨fun ⟨_, h⟩ => (nomatch h), fun h => absurd (h.2.1 huuid.1) huuid.2⟩
  · exact ⟨fun ⟨_, h⟩ => (nomatch h), fun h => by rw [h.2.2 hnumber.1] at hnumber; simp at hnumber⟩
  · push Not at hkind huuid hnumber
    exact ⟨fun _ => ⟨hkind, huuid, fun h => by simpa using hnumber h⟩, fun _ => ⟨_, rfl⟩⟩

theorem exists_typedSearchParameters_eq_ok_iff {spec : FieldSpec} :
    ∀ {bindings : Bindings} {values : List QueryLiteral},
    (∃ result, typedSearchParameters uuidVersion spec bindings values = .ok result) ↔
      ∀ value ∈ values, value.Accepted uuidVersion spec
  | bindings, [] => by simp [typedSearchParameters]
  | bindings, value :: values => by
      rw [List.forall_mem_cons, ← exists_typedSearchParameter_eq_ok_iff, typedSearchParameters,
        exists_bind_eq_ok]
      constructor
      · rintro ⟨first, hfirst, h⟩
        obtain ⟨rest, hrest, -⟩ := exists_bind_eq_ok.1 h
        exact ⟨⟨first, hfirst⟩, exists_typedSearchParameters_eq_ok_iff.1 ⟨rest, hrest⟩⟩
      · rintro ⟨⟨first, hfirst⟩, hvalues⟩
        obtain ⟨rest, hrest⟩ := exists_typedSearchParameters_eq_ok_iff.2 hvalues
        exact ⟨first, hfirst, exists_bind_eq_ok.2 ⟨rest, hrest, _, rfl⟩⟩

theorem exists_compileTest_eq_ok_iff {field : GoString} {bindings : Bindings} {spec : FieldSpec} :
    ∀ {test : Test}, (∃ result, compileTest uuidVersion field spec bindings test = .ok result) ↔
      test.Accepted uuidVersion spec
  | .exists => by
      rw [compileTest, Test.Accepted]
      split_ifs with hnullable hkind
      · simp [hnullable]
      · simp [hkind]
      · simp [hnullable, hkind]
  | .in values => by
      rw [compileTest, Test.Accepted, ← exists_typedSearchParameters_eq_ok_iff]
      split_ifs with hnil
      · simp [hnil]
      · rw [exists_bind_eq_ok]
        constructor
        · rintro ⟨rest, hrest, -⟩
          exact ⟨hnil, rest, hrest⟩
        · rintro ⟨-, rest, hrest⟩
          exact ⟨rest, hrest, _, rfl⟩
  | .compare op value => by
      rw [compileTest, Test.Accepted]
      split_ifs with hop hkinds horder
      · exact iff_of_false (by simp) (by tauto)
      · push Not at hkinds
        exact ⟨fun _ => hkinds, fun _ => ⟨_, rfl⟩⟩
      · exact iff_of_false (by simp) (by tauto)
      · rw [← exists_typedSearchParameter_eq_ok_iff, exists_bind_eq_ok]
        constructor
        · rintro ⟨first, hfirst, -⟩
          exact ⟨by tauto, first, hfirst⟩
        · rintro ⟨-, first, hfirst⟩
          exact ⟨first, hfirst, _, rfl⟩

/-- **What compiles does not depend on the parameters that are there.** -/
theorem exists_compileExpressionInto_eq_ok_iff : ∀ {expression : QueryExpression}
    {bindings : Bindings},
    (∃ result, compileExpressionInto uuidVersion bindings expression = .ok result) ↔
      expression.Accepted uuidVersion
  | .and left right, bindings => by
      simp only [compileExpressionInto, QueryExpression.Accepted, exists_bind_eq_ok]
      constructor
      · rintro ⟨first, hfirst, second, hsecond, -⟩
        exact ⟨exists_compileExpressionInto_eq_ok_iff.1 ⟨first, hfirst⟩,
          exists_compileExpressionInto_eq_ok_iff.1 ⟨second, hsecond⟩⟩
      · rintro ⟨hleft, hright⟩
        obtain ⟨first, hfirst⟩ := exists_compileExpressionInto_eq_ok_iff.2 hleft
        obtain ⟨second, hsecond⟩ := exists_compileExpressionInto_eq_ok_iff.2 hright
        exact ⟨first, hfirst, second, hsecond, _, rfl⟩
  | .or left right, bindings => by
      simp only [compileExpressionInto, QueryExpression.Accepted, exists_bind_eq_ok]
      constructor
      · rintro ⟨first, hfirst, second, hsecond, -⟩
        exact ⟨exists_compileExpressionInto_eq_ok_iff.1 ⟨first, hfirst⟩,
          exists_compileExpressionInto_eq_ok_iff.1 ⟨second, hsecond⟩⟩
      · rintro ⟨hleft, hright⟩
        obtain ⟨first, hfirst⟩ := exists_compileExpressionInto_eq_ok_iff.2 hleft
        obtain ⟨second, hsecond⟩ := exists_compileExpressionInto_eq_ok_iff.2 hright
        exact ⟨first, hfirst, second, hsecond, _, rfl⟩
  | .not child, bindings => by
      rw [compileExpressionInto, QueryExpression.Accepted, exists_bind_eq_ok,
        ← exists_compileExpressionInto_eq_ok_iff]
      constructor
      · rintro ⟨first, hfirst, -⟩
        exact ⟨first, hfirst⟩
      · rintro ⟨first, hfirst⟩
        exact ⟨first, hfirst, _, rfl⟩
  | .predicate field test, bindings => by
      rw [compileExpressionInto, compilePredicate, QueryExpression.Accepted]
      cases fieldSpecOf field with
      | none => simp
      | some spec => simpa using exists_compileTest_eq_ok_iff

/-! ## The rows a query selects -/

theorem render_testCondition (spec : FieldSpec) (n : ℕ) : ∀ test : Test,
    (testCondition spec n test).render = testText spec n test
  | .exists => by
      rw [testCondition, testText]
      split_ifs
      · rfl
      · rfl
  | .in values => by
      rw [testCondition, testText, Condition.render, placeholders, List.map_map]
      rfl
  | .compare op value => by
      rw [testCondition, testText]
      split_ifs
      · rfl
      · rfl

/-- **The text of the condition** is the text the compiler writes. -/
theorem render_conditionOf : ∀ (n : ℕ) {expression : QueryExpression}, expression.Known →
    (conditionOf n expression).render = conditionText n expression
  | n, .and left right, h => by
      rw [conditionOf, conditionText, Condition.render, render_conditionOf n h.1,
        render_conditionOf _ h.2]
  | n, .or left right, h => by
      rw [conditionOf, conditionText, Condition.render, render_conditionOf n h.1,
        render_conditionOf _ h.2]
  | n, .not child, h => by
      rw [conditionOf, conditionText, Condition.render,
        render_conditionOf n (show child.Known from h)]
  | n, .predicate field test, h => by
      obtain ⟨spec, hspec⟩ := Option.isSome_iff_exists.1 h
      simp only [conditionOf, conditionText, hspec, render_testCondition]

/-- Names that are distinct find their values. -/
theorem find?_of_nodup {α β : Type} [DecidableEq α] : ∀ {entries : List (α × β)} {name : α}
    {value : β}, (entries.map Prod.fst).Nodup → (name, value) ∈ entries →
      entries.find? (fun entry => entry.1 = name) = some (name, value)
  | first :: entries, name, value, hnodup, hmem => by
      obtain ⟨hnew, hnodup⟩ := List.nodup_cons.1 hnodup
      obtain rfl | hmem := List.mem_cons.1 hmem
      · simp
      · have hne : first.1 ≠ name := fun heq => hnew (heq ▸ List.mem_map_of_mem hmem)
        rw [List.find?_cons_of_neg (by simpa using hne)]
        exact find?_of_nodup hnodup hmem

theorem Values.get_of_mem {values : Values} {name : String} {value : GoString}
    (hnodup : (values.map Prod.fst).Nodup) (hmem : (name, value) ∈ values) :
    values.get name = value := by
  rw [Values.get, find?_of_nodup hnodup hmem]
  rfl

/-- The bindings of a literal. -/
theorem mem_bound {literals : List QueryLiteral} {i : ℕ} {value : QueryLiteral}
    (h : literals[i]? = some value) :
    ("param_" ++ parameterName i, value.text) ∈ bound 0 literals := by
  refine List.mem_of_getElem? (i := i) ?_
  rw [bound, List.getElem?_map, List.getElem?_zipIdx, h, Option.map_some, Option.map_some,
    Nat.zero_add]

/-- **Each placeholder is bound to its literal.** -/
theorem binds_bound (literals : List QueryLiteral) : Binds (bound 0 literals) 0 literals := by
  intro i value hi
  rw [Nat.zero_add]
  exact Values.get_of_mem (nodup_names_bound 0 literals) (mem_bound hi)

/-- **A query selects a row**: the condition it compiles to is true on it. -/
def Selects (clickHouse : ClickHouse) (uuidVersion : GoString → Option ℕ)
    (expression : QueryExpression) (row : StoredRow) : Prop :=
  ∃ values, compileExpression uuidVersion (some expression) =
      .ok (some (conditionOf 0 expression).render, values) ∧
    (conditionOf 0 expression).eval clickHouse values row = some true

theorem compileExpression_of_accepted {expression : QueryExpression}
    (h : expression.Accepted uuidVersion) : compileExpression uuidVersion (some expression) =
      .ok (some (conditionOf 0 expression).render, bound 0 expression.literals) := by
  obtain ⟨result, hresult⟩ : ∃ result, compileExpressionInto uuidVersion (.of []) expression =
    .ok result := exists_compileExpressionInto_eq_ok_iff.2 h
  have hcompiled : compileExpression uuidVersion (some expression) =
      .ok (some result.1, result.2.values) := bind_eq_ok.2 ⟨result, hresult, rfl⟩
  rw [hcompiled, compileExpression_eq_ok hcompiled, Option.map_some,
    render_conditionOf 0 (known_of_compileExpressionInto hresult)]
  rfl

theorem accepted_of_compileExpression {expression : QueryExpression}
    {compiled : Option String × Values}
    (h : compileExpression uuidVersion (some expression) = .ok compiled) :
    expression.Accepted uuidVersion := by
  obtain ⟨result, hresult, -⟩ := bind_eq_ok.1 h
  exact exists_compileExpressionInto_eq_ok_iff.1 ⟨result, hresult⟩

/-- **A query that compiles selects the rows on which its expression is true.** -/
theorem selects_iff {expression : QueryExpression} (h : expression.Accepted uuidVersion) :
    Selects clickHouse uuidVersion expression row ↔
      expression.truth clickHouse row = some true := by
  rw [Selects, compileExpression_of_accepted h]
  simp [eval_conditionOf (binds_bound _)]

end Search

end Cerbero
