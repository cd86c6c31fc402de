import Cerbero.Search.Compile
import Cerbero.Lib.Clause
import Cerbero.Lib.Fallible
import Mathlib.Data.List.Nodup

/-!
# Search/Isolation — query text does not reach the SQL of a search

The text of a condition is a function of the shape of its expression (`conditionText`), over the
words of a fixed vocabulary and placeholders; the literals are bound to these.  At the top level the
condition has no connective, so that it is one conjunct beside those for the tenant and the window.
-/

namespace Cerbero

namespace Search

open Text Clause

/-! ## Shapes and literals -/

/-- A literal without its text. -/
def QueryLiteral.shape (value : QueryLiteral) : QueryLiteral := { value with text := [] }

/-- A test without the texts of its literals. -/
def Test.shape : Test → Test
  | .exists => .exists
  | .in values => .in (values.map QueryLiteral.shape)
  | .compare op value => .compare op value.shape

/-- An expression without the texts of its literals. -/
def QueryExpression.shape : QueryExpression → QueryExpression
  | .and left right => .and left.shape right.shape
  | .or left right => .or left.shape right.shape
  | .not child => .not child.shape
  | .predicate field test => .predicate field test.shape

/-- The literals of a test. -/
def Test.literals : Test → List QueryLiteral
  | .exists => []
  | .in values => values
  | .compare _ value => [value]

/-- The literals of an expression, in order. -/
def QueryExpression.literals : QueryExpression → List QueryLiteral
  | .and left right => left.literals ++ right.literals
  | .or left right => left.literals ++ right.literals
  | .not child => child.literals
  | .predicate _ test => test.literals

/-- A literal without its text is still a text or a number. -/
@[simp] theorem QueryLiteral.shape_kind (value : QueryLiteral) : value.shape.kind = value.kind :=
  rfl

/-- A test without the texts of its literals has as many of them. -/
@[simp] theorem Test.length_literals_shape : ∀ test : Test,
    test.shape.literals.length = test.literals.length
  | .exists => rfl
  | .in _ => List.length_map _
  | .compare _ _ => rfl

/-- So has an expression. -/
@[simp] theorem QueryExpression.length_literals_shape : ∀ expression : QueryExpression,
    expression.shape.literals.length = expression.literals.length
  | .and left right => by
      simp [shape, literals, length_literals_shape left, length_literals_shape right]
  | .or left right => by
      simp [shape, literals, length_literals_shape left, length_literals_shape right]
  | .not child => length_literals_shape child
  | .predicate _ test => test.length_literals_shape

/-! ## Names -/

/-- The name of a parameter. -/
def parameterName (n : ℕ) : String := "q" ++ toString n

/-- What stands between the braces of a placeholder. -/
def placeholderText (n : ℕ) (kind : ValueKind) : String :=
  parameterName n ++ ":" ++ kind.parameterType

/-- A placeholder. -/
def placeholder (n : ℕ) (kind : ValueKind) : String := "\x7b" ++ placeholderText n kind ++ "\x7d"

/-- The placeholders of literals, the first with the number `n`. -/
def placeholders (n : ℕ) (values : List QueryLiteral) : List String :=
  (values.zipIdx n).map fun entry => placeholder entry.2 entry.1.kind

/-- The texts of literals under the names of their placeholders. -/
def bound (n : ℕ) (values : List QueryLiteral) : Values :=
  (values.zipIdx n).map fun entry => ("param_" ++ parameterName entry.2, entry.1.text)

/-- The bindings of literals. -/
def Bindings.of (values : List QueryLiteral) : Bindings := ⟨bound 0 values, values.length⟩

/-- Parameters are numbered, so no two share a name. -/
theorem parameterName_injective : Function.Injective parameterName := by
  intro n m h
  exact Text.repr_injective ((String.append_right_inj _).1 h)

/-- The names that are bound are those of the numbers up to the last one. -/
theorem mem_names_bound {n : ℕ} {values : List QueryLiteral} {name : String}
    (h : name ∈ (bound n values).map Prod.fst) :
    ∃ i, i < n + values.length ∧ name = "param_" ++ parameterName i := by
  obtain ⟨entry, hentry, rfl⟩ := List.mem_map.1 h
  obtain ⟨⟨value, i⟩, hmem, rfl⟩ := List.mem_map.1 hentry
  exact ⟨i, List.snd_lt_add_of_mem_zipIdx hmem, rfl⟩

/-- A new name is added at the end; nothing is replaced. -/
theorem Values.set_of_not_mem {values : Values} {name : String} (value : GoString)
    (h : name ∉ values.map Prod.fst) : values.set name value = values ++ [(name, value)] := by
  have hkeep : values.filter (fun entry => entry.1 ≠ name) = values := by
    refine List.filter_eq_self.2 fun entry hmem => decide_eq_true fun heq => ?_
    exact h (List.mem_map.2 ⟨entry, hmem, heq⟩)
  rw [Values.set, hkeep]

/-- Literals are bound in order, each list from where the one before it ends. -/
theorem bound_append (n : ℕ) (values more : List QueryLiteral) :
    bound n (values ++ more) = bound n values ++ bound (n + values.length) more := by
  simp [bound, List.zipIdx_append]

/-- Their placeholders are numbered likewise. -/
theorem placeholders_append (n : ℕ) (values more : List QueryLiteral) :
    placeholders n (values ++ more) =
      placeholders n values ++ placeholders (n + values.length) more := by
  simp [placeholders, List.zipIdx_append]

/-- The first literal takes the number, the others the ones after it. -/
theorem placeholders_cons (n : ℕ) (value : QueryLiteral) (values : List QueryLiteral) :
    placeholders n (value :: values) = placeholder n value.kind :: placeholders (n + 1) values :=
  rfl

/-- A new parameter comes after those that are there. -/
theorem addSearchParameter_of (values : List QueryLiteral) (value : QueryLiteral) :
    addSearchParameter (.of values) value.kind value.text =
      (placeholder values.length value.kind, .of (values ++ [value])) := by
  have hnew : "param_" ++ parameterName values.length ∉ (bound 0 values).map Prod.fst := by
    intro hmem
    obtain ⟨i, hlt, heq⟩ := mem_names_bound hmem
    have := parameterName_injective ((String.append_right_inj _).1 heq)
    omega
  have hset := Values.set_of_not_mem value.text hnew
  have hbound : bound 0 (values ++ [value]) =
      bound 0 values ++ [("param_" ++ parameterName values.length, value.text)] := by
    rw [bound_append]
    simp [bound]
  simp only [Bindings.of, hbound, List.length_append, List.length_singleton, ← hset]
  simp only [addSearchParameter, placeholder, placeholderText, parameterName, String.append_assoc]

/-! ## The text of a condition -/

/-- The text of a test, when its first parameter has the number `n`. -/
def testText (spec : FieldSpec) (n : ℕ) : Test → String
  | .exists =>
    if spec.nullable then "isNotNull(" ++ spec.expression ++ ")" else spec.expression ++ " != ''"
  | .in values => spec.expression ++ " IN (" ++ ", ".intercalate (placeholders n values) ++ ")"
  | .compare op value =>
    if op.isText then textCondition op spec.expression (placeholder n value.kind)
    else spec.expression ++ " " ++ op.sql ++ " " ++ placeholder n value.kind

/-- The text of an expression, when its first parameter has the number `n`. -/
def conditionText : ℕ → QueryExpression → String
  | n, .and left right =>
    "(" ++ conditionText n left ++ " AND " ++
      conditionText (n + left.literals.length) right ++ ")"
  | n, .or left right =>
    "(" ++ conditionText n left ++ " OR " ++
      conditionText (n + left.literals.length) right ++ ")"
  | n, .not child => "(NOT " ++ conditionText n child ++ ")"
  | n, .predicate field test =>
    match fieldSpecOf field with
    | none => ""
    | some spec => testText spec n test

/-- **A placeholder does not depend on the text it stands for.** -/
theorem placeholders_shape (n : ℕ) (values : List QueryLiteral) :
    placeholders n (values.map QueryLiteral.shape) = placeholders n values := by
  simp [placeholders, List.zipIdx_map, Function.comp_def]

/-- So neither does the text of a test. -/
theorem testText_shape (spec : FieldSpec) (n : ℕ) : ∀ test : Test,
    testText spec n test.shape = testText spec n test
  | .exists => rfl
  | .in values => by simp only [Test.shape, testText, placeholders_shape]
  | .compare _ _ => rfl

/-- **The text of an expression is that of its shape.** -/
theorem conditionText_shape : ∀ (n : ℕ) (expression : QueryExpression),
    conditionText n expression.shape = conditionText n expression
  | n, .and left right => by
      simp [QueryExpression.shape, conditionText, conditionText_shape _ left,
        conditionText_shape _ right]
  | n, .or left right => by
      simp [QueryExpression.shape, conditionText, conditionText_shape _ left,
        conditionText_shape _ right]
  | n, .not child => by
      simp only [QueryExpression.shape, conditionText, conditionText_shape _ child]
  | n, .predicate field test => by
      simp only [QueryExpression.shape, conditionText, testText_shape]

/-! ## What the compiler returns -/

section

variable {uuidVersion : GoString → Option ℕ}

/-- A literal that is accepted is bound under the next number. -/
theorem typedSearchParameter_eq_ok {values : List QueryLiteral} {spec : FieldSpec}
    {value : QueryLiteral} {result : String × Bindings}
    (h : typedSearchParameter uuidVersion (.of values) spec value = .ok result) :
    result = (placeholder values.length value.kind, .of (values ++ [value])) := by
  unfold typedSearchParameter at h
  split_ifs at h with hkind
  push Not at hkind
  rw [← Except.ok.inj h, hkind, addSearchParameter_of]

/-- The literals of a list are bound one after the other. -/
theorem typedSearchParameters_eq_ok {spec : FieldSpec} : ∀ {values more : List QueryLiteral}
    {result : List String × Bindings},
    typedSearchParameters uuidVersion spec (.of values) more = .ok result →
    result = (placeholders values.length more, .of (values ++ more))
  | values, [], _, h => by
      rw [← Except.ok.inj h, List.append_nil]
      rfl
  | values, value :: more, _, h => by
      rw [typedSearchParameters, bind_eq_ok] at h
      obtain ⟨first, hfirst, h⟩ := h
      obtain rfl := typedSearchParameter_eq_ok hfirst
      obtain ⟨rest, hrest, h⟩ := bind_eq_ok.1 h
      obtain rfl := typedSearchParameters_eq_ok hrest
      rw [← Except.ok.inj h, placeholders_cons]
      simp

/-- **The text of a test that compiles** is the one of its shape, and its literals are bound after
those before it. -/
theorem compileTest_eq_ok {field : GoString} {values : List QueryLiteral} {spec : FieldSpec} :
    ∀ {test : Test} {result : String × Bindings},
    compileTest uuidVersion field spec (.of values) test = .ok result →
    result = (testText spec values.length test, .of (values ++ test.literals))
  | .exists, result, h => by
      simp only [compileTest] at h
      simp only [testText, Test.literals, List.append_nil]
      split_ifs at h ⊢ <;> exact (Except.ok.inj h).symm
  | .in more, result, h => by
      simp only [compileTest] at h
      split_ifs at h
      obtain ⟨rest, hrest, h⟩ := bind_eq_ok.1 h
      obtain rfl := typedSearchParameters_eq_ok hrest
      exact (Except.ok.inj h).symm
  | .compare op value, result, h => by
      simp only [compileTest] at h
      simp only [testText, Test.literals]
      split_ifs at h ⊢ with hop hkinds
      · push Not at hkinds
        rw [← hkinds.2, addSearchParameter_of] at h
        exact (Except.ok.inj h).symm
      · obtain ⟨first, hfirst, h⟩ := bind_eq_ok.1 h
        obtain rfl := typedSearchParameter_eq_ok hfirst
        exact (Except.ok.inj h).symm

/-- **The text and the parameters of an expression that compiles.** -/
theorem compileExpressionInto_eq_ok : ∀ {expression : QueryExpression}
    (values : List QueryLiteral) {result : String × Bindings},
    compileExpressionInto uuidVersion (.of values) expression = .ok result →
    result = (conditionText values.length expression, .of (values ++ expression.literals))
  | .and left right, values, _, h => by
      rw [compileExpressionInto, bind_eq_ok] at h
      obtain ⟨first, hfirst, h⟩ := h
      obtain rfl := compileExpressionInto_eq_ok _ hfirst
      obtain ⟨second, hsecond, h⟩ := bind_eq_ok.1 h
      obtain rfl := compileExpressionInto_eq_ok _ hsecond
      rw [← Except.ok.inj h]
      simp [conditionText, QueryExpression.literals]
  | .or left right, values, _, h => by
      rw [compileExpressionInto, bind_eq_ok] at h
      obtain ⟨first, hfirst, h⟩ := h
      obtain rfl := compileExpressionInto_eq_ok _ hfirst
      obtain ⟨second, hsecond, h⟩ := bind_eq_ok.1 h
      obtain rfl := compileExpressionInto_eq_ok _ hsecond
      rw [← Except.ok.inj h]
      simp [conditionText, QueryExpression.literals]
  | .not child, values, _, h => by
      rw [compileExpressionInto, bind_eq_ok] at h
      obtain ⟨first, hfirst, h⟩ := h
      obtain rfl := compileExpressionInto_eq_ok _ hfirst
      exact (Except.ok.inj h).symm
  | .predicate field test, values, _, h => by
      rw [compileExpressionInto, compilePredicate] at h
      match hspec : fieldSpecOf field, h with
      | some spec, h =>
        obtain rfl := compileTest_eq_ok h
        simp only [conditionText, hspec, QueryExpression.literals]

/-- The literals of a query, of an empty one none. -/
def literalsOf (expression : Option QueryExpression) : List QueryLiteral :=
  expression.elim [] QueryExpression.literals

/-- The whole condition starts with the number zero and no parameters. -/
theorem compileExpression_eq_ok {expression : Option QueryExpression}
    {result : Option String × Values} (h : compileExpression uuidVersion expression = .ok result) :
    result = (expression.map (conditionText 0), bound 0 (literalsOf expression)) := by
  match expression, h with
  | none, h => exact (Except.ok.inj h).symm
  | some expression, h =>
    rw [compileExpression, bind_eq_ok] at h
    obtain ⟨first, hfirst, h⟩ := h
    have hspec := compileExpressionInto_eq_ok [] hfirst
    subst hspec
    exact (Except.ok.inj h).symm

end

/-! ## Placeholders of the text -/

/-- The characters with a meaning of their own. -/
def marks : List Char := ['\'', '(', ')', ' ', '\x7b', '\x7d']

/-- The type of a parameter has no character that would end a placeholder, a string or a word. -/
theorem parameterType_plain (kind : ValueKind) :
    ∀ ch ∈ (":" ++ kind.parameterType).toList, ch ∉ marks := by
  cases kind <;> decide

/-- No such character is a digit. -/
theorem isDigit_of_mem_marks : ∀ ch ∈ marks, ch.isDigit = false := by decide

/-- So no name of a parameter has one. -/
theorem parameterName_plain (n : ℕ) : ∀ ch ∈ (parameterName n).toList, ch ∉ marks := by
  intro ch hmem hmark
  rw [parameterName, String.toList_append, List.mem_append] at hmem
  obtain hmem | hmem := hmem
  · obtain rfl : ch = 'q' := by simpa using hmem
    exact absurd hmark (by decide)
  · have hdigit : ch.isDigit := by
      refine Nat.isDigit_of_mem_toDigits (b := 10) (n := n) (by decide) (by decide) ?_
      rwa [← Nat.toList_repr]
    rw [isDigit_of_mem_marks ch hmark] at hdigit
    exact nomatch hdigit

/-- And neither does the inside of a placeholder. -/
theorem placeholderText_plain (n : ℕ) (kind : ValueKind) :
    ∀ ch ∈ (placeholderText n kind).toList, ch ∉ marks := by
  intro ch hmem
  rw [placeholderText, String.append_assoc, String.toList_append, List.mem_append] at hmem
  exact hmem.elim (parameterName_plain n ch) (parameterType_plain kind ch)

/-- A placeholder is its inside between braces. -/
theorem toList_placeholder (n : ℕ) (kind : ValueKind) : (placeholder n kind).toList =
    '\x7b' :: ((placeholderText n kind).toList ++ ['\x7d']) := by
  simp [placeholder]

/-- It is one placeholder, namely itself. -/
theorem places_placeholder (n : ℕ) (kind : ValueKind) :
    Places (placeholder n kind).toList [(placeholderText n kind).toList] := by
  rw [toList_placeholder]
  refine places_braces fun ch hmem heq => placeholderText_plain n kind ch hmem ?_
  rw [heq]
  decide

/-- It is one word. -/
theorem solid_placeholder (n : ℕ) (kind : ValueKind) : Solid (placeholder n kind).toList := by
  rw [toList_placeholder]
  refine solid_of_plain fun ch hmem => ?_
  rw [List.mem_cons, List.mem_append, List.mem_singleton] at hmem
  obtain rfl | hmem | rfl := hmem
  · decide
  · intro hmark
    exact placeholderText_plain n kind ch hmem (List.mem_append_left ['\x7b', '\x7d'] hmark)
  · decide

/-- It is no connective. -/
theorem placeholder_not_mem_connectives (n : ℕ) (kind : ValueKind) :
    (placeholder n kind).toList ∉ connectives := by
  rw [toList_placeholder]
  simp [connectives]

/-- A field's expression is one word, no connective, and without placeholders. -/
theorem searchFields_plain : ∀ entry ∈ searchFields, Solid entry.2.expression.toList ∧
    entry.2.expression.toList ∉ connectives ∧ Places entry.2.expression.toList [] := by
  decide

/-- A field that is found is one of the table, so its SQL is one of finitely many texts. -/
theorem mem_of_fieldSpecOf {field : GoString} {spec : FieldSpec} (h : fieldSpecOf field = some spec) :
    ∃ entry ∈ searchFields, entry.2 = spec := by
  obtain ⟨entry, hfind, hentry⟩ := Option.map_eq_some_iff.1 h
  exact ⟨entry, List.mem_of_find?_eq_some hfind, hentry⟩

/-- What stands between the braces of the placeholders of literals. -/
def placeholderTexts (n : ℕ) (values : List QueryLiteral) : List (List Char) :=
  (values.zipIdx n).map fun entry => (placeholderText entry.2 entry.1.kind).toList

/-- The insides are numbered as the placeholders are. -/
theorem placeholderTexts_append (n : ℕ) (values more : List QueryLiteral) :
    placeholderTexts n (values ++ more) =
      placeholderTexts n values ++ placeholderTexts (n + values.length) more := by
  simp [placeholderTexts, List.zipIdx_append]

/-- What the text of a condition is written with, apart from placeholders. -/
def fixedWords : List String :=
  ["(", ")", " AND ", " OR ", "(NOT ", "isNotNull(", " != ''", " IN (", ", ",
    "positionCaseSensitive(", "startsWith(", "endsWith(", ") > 0", " ", "=", "!=", ">", ">=", "<",
    "<="]

/-- The fixed words and the expressions of the fields. -/
def vocabulary : List String := fixedWords ++ searchFields.map fun entry => entry.2.expression

/-- None of the words the compiler writes by itself holds a placeholder. -/
theorem fixedWords_places : ∀ piece ∈ fixedWords, Places piece.toList [] := by decide

/-- Nor does an expression of the table of fields. -/
theorem vocabulary_places {piece : String} (h : piece ∈ vocabulary) : Places piece.toList [] := by
  obtain h | h := List.mem_append.1 h
  · exact fixedWords_places piece h
  · obtain ⟨entry, hentry, rfl⟩ := List.mem_map.1 h
    exact (searchFields_plain entry hentry).2.2

/-- A text over the vocabulary and the placeholders of `values`, each of which it has once. -/
structure Piece (n : ℕ) (values : List QueryLiteral) (text : String) : Prop where
  places : Places text.toList (placeholderTexts n values)
  written : ∃ pieces : List String, text = String.join pieces ∧
    ∀ piece ∈ pieces, piece ∈ vocabulary ∨ piece ∈ placeholders n values

/-- A word of the vocabulary is a piece of a condition without literals. -/
theorem piece_of_mem {n : ℕ} {text : String} (h : text ∈ vocabulary) : Piece n [] text :=
  ⟨vocabulary_places h, [text], by simp, fun _ hmem => .inl (List.mem_singleton.1 hmem ▸ h)⟩

/-- A placeholder is a piece with its one literal. -/
theorem piece_placeholder (n : ℕ) (value : QueryLiteral) :
    Piece n [value] (placeholder n value.kind) :=
  ⟨places_placeholder n value.kind, [placeholder n value.kind], by simp, fun _ hmem => .inr hmem⟩

/-- **Pieces side by side are a piece**, with the literals of both in order. -/
theorem Piece.append {n : ℕ} {values more : List QueryLiteral} {text text' : String}
    (h : Piece n values text) (h' : Piece (n + values.length) more text') :
    Piece n (values ++ more) (text ++ text') := by
  obtain ⟨pieces, rfl, hpieces⟩ := h.written
  obtain ⟨pieces', rfl, hpieces'⟩ := h'.written
  refine ⟨?_, pieces ++ pieces', String.join_append.symm, fun piece hmem => ?_⟩
  · rw [placeholderTexts_append, String.toList_append]
    exact h.places.append h'.places
  · rw [placeholders_append, List.mem_append]
    obtain hmem | hmem := List.mem_append.1 hmem
    · exact (hpieces piece hmem).imp id .inl
    · exact (hpieces' piece hmem).imp id .inr

/-- The placeholders of a list, with commas between them. -/
theorem piece_intercalate : ∀ (n : ℕ) (values : List QueryLiteral),
    Piece n values (", ".intercalate (placeholders n values))
  | n, [] => ⟨rfl, [], rfl, List.forall_mem_nil _⟩
  | n, [value] => piece_placeholder n value
  | n, value :: value' :: values => by
      have hsep : Piece (n + [value].length) [] ", " := piece_of_mem (by decide)
      have ih := piece_intercalate (n + 1) (value' :: values)
      have hall := ((piece_placeholder n value).append hsep).append ih
      rw [List.append_nil] at hall
      rwa [placeholders_cons, placeholders_cons, String.intercalate_cons_cons]

/-- The expression of a field of the table is a piece. -/
theorem piece_field {n : ℕ} {field : GoString} {spec : FieldSpec}
    (h : fieldSpecOf field = some spec) : Piece n [] spec.expression := by
  obtain ⟨entry, hentry, rfl⟩ := mem_of_fieldSpecOf h
  exact piece_of_mem (List.mem_append_right _ (List.mem_map_of_mem hentry))

/-! ## The pieces of a condition -/

/-- The condition of an operator on texts is the field and the placeholder in one of three calls. -/
theorem piece_textCondition {n : ℕ} {op : Operator} {expression : String} {value : QueryLiteral}
    (h : Piece n [] expression) :
    Piece n [value] (textCondition op expression (placeholder n value.kind)) := by
  have hsep : Piece n [] ", " := piece_of_mem (by decide)
  have hargs : Piece n [value] (expression ++ ", " ++ placeholder n value.kind) :=
    (h.append hsep).append (piece_placeholder n value)
  have hclose : Piece (n + [value].length) [] ")" := piece_of_mem (by decide)
  unfold textCondition
  split
  · have hcall : Piece n [] "positionCaseSensitive(" := piece_of_mem (by decide)
    have hend : Piece (n + [value].length) [] ") > 0" := piece_of_mem (by decide)
    simpa [String.append_assoc] using (hcall.append hargs).append hend
  · have hcall : Piece n [] "startsWith(" := piece_of_mem (by decide)
    simpa [String.append_assoc] using (hcall.append hargs).append hclose
  · have hcall : Piece n [] "endsWith(" := piece_of_mem (by decide)
    simpa [String.append_assoc] using (hcall.append hargs).append hclose

/-- The comparisons are words of the vocabulary. -/
theorem sql_mem_vocabulary (op : Operator) : op.isText = false → op.sql ∈ vocabulary := by
  cases op <;> decide

/-- **The text of a test is a piece with its literals.** -/
theorem piece_testText {n : ℕ} {spec : FieldSpec} (h : Piece n [] spec.expression) :
    ∀ test : Test, Piece n test.literals (testText spec n test)
  | .exists => by
      simp only [testText]
      split_ifs
      · have hcall : Piece n [] "isNotNull(" := piece_of_mem (by decide)
        have hclose : Piece n [] ")" := piece_of_mem (by decide)
        exact (hcall.append h).append hclose
      · have hempty : Piece n [] " != ''" := piece_of_mem (by decide)
        exact h.append hempty
  | .in values => by
      have hopen : Piece n [] " IN (" := piece_of_mem (by decide)
      have hclose : Piece (n + values.length) [] ")" := piece_of_mem (by decide)
      have hall : Piece n values (spec.expression ++ " IN (" ++ _) :=
        (h.append hopen).append (piece_intercalate n values)
      have := hall.append hclose
      rwa [List.append_nil] at this
  | .compare op value => by
      simp only [testText]
      split_ifs with hop
      · exact piece_textCondition h
      · have hblank : Piece n [] " " := piece_of_mem (by decide)
        have hsql : Piece n [] op.sql :=
          piece_of_mem (sql_mem_vocabulary op (Bool.eq_false_iff.2 hop))
        exact (((h.append hblank).append hsql).append hblank).append (piece_placeholder n value)

/-- Two conditions in parentheses with a connective between them. -/
theorem piece_joined {n : ℕ} {values more : List QueryLiteral} {left right word : String}
    (hword : word ∈ vocabulary) (hleft : Piece n values left)
    (hright : Piece (n + values.length) more right) :
    Piece n (values ++ more) ("(" ++ left ++ word ++ right ++ ")") := by
  have hopen : Piece n [] "(" := piece_of_mem (by decide)
  have hclose : Piece (n + (values ++ more).length) [] ")" := piece_of_mem (by decide)
  have hfirst : Piece n values ("(" ++ left) := hopen.append hleft
  have hjoin := hfirst.append (piece_of_mem hword)
  rw [List.append_nil] at hjoin
  have hall := (hjoin.append hright).append hclose
  rwa [List.append_nil] at hall

/-- The fields of the expression are in the table. -/
def QueryExpression.Known : QueryExpression → Prop
  | .and left right => left.Known ∧ right.Known
  | .or left right => left.Known ∧ right.Known
  | .not child => child.Known
  | .predicate field _ => (fieldSpecOf field).isSome

/-- An expression that compiles has fields of the table only. -/
theorem known_of_compileExpressionInto {uuidVersion : GoString → Option ℕ} :
    ∀ {expression : QueryExpression} {bindings : Bindings} {result : String × Bindings},
      compileExpressionInto uuidVersion bindings expression = .ok result → expression.Known
  | .and left right, _, _, h => by
      rw [compileExpressionInto, bind_eq_ok] at h
      obtain ⟨first, hfirst, h⟩ := h
      obtain ⟨second, hsecond, -⟩ := bind_eq_ok.1 h
      exact ⟨known_of_compileExpressionInto hfirst, known_of_compileExpressionInto hsecond⟩
  | .or left right, _, _, h => by
      rw [compileExpressionInto, bind_eq_ok] at h
      obtain ⟨first, hfirst, h⟩ := h
      obtain ⟨second, hsecond, -⟩ := bind_eq_ok.1 h
      exact ⟨known_of_compileExpressionInto hfirst, known_of_compileExpressionInto hsecond⟩
  | .not child, _, _, h => by
      rw [compileExpressionInto, bind_eq_ok] at h
      obtain ⟨first, hfirst, -⟩ := h
      have hchild : child.Known := known_of_compileExpressionInto hfirst
      exact hchild
  | .predicate field test, _, _, h => by
      rw [compileExpressionInto, compilePredicate] at h
      match hspec : fieldSpecOf field, h with
      | some spec, _ => exact Option.isSome_iff_exists.2 ⟨spec, hspec⟩

/-- **The text of a condition has each placeholder once, and else words of the vocabulary.** -/
theorem piece_conditionText : ∀ (n : ℕ) {expression : QueryExpression}, expression.Known →
    Piece n expression.literals (conditionText n expression)
  | n, .and _ _, h =>
    piece_joined (by decide) (piece_conditionText n h.1) (piece_conditionText _ h.2)
  | n, .or _ _, h =>
    piece_joined (by decide) (piece_conditionText n h.1) (piece_conditionText _ h.2)
  | n, .not child, h => by
      have hopen : Piece n [] "(NOT " := piece_of_mem (by decide)
      have hclose : Piece (n + child.literals.length) [] ")" := piece_of_mem (by decide)
      have hfirst : Piece n child.literals ("(NOT " ++ conditionText n child) :=
        hopen.append (piece_conditionText n h)
      have hall := hfirst.append hclose
      rwa [List.append_nil] at hall
  | n, .predicate field test, h => by
      obtain ⟨spec, hspec⟩ := Option.isSome_iff_exists.1 h
      simp only [conditionText, hspec]
      exact piece_testText (piece_field hspec) test

/-! ## The top level of a condition -/

/-- A word with a parenthesis is no connective. -/
theorem not_mem_connectives {word : List Char} (h : '(' ∈ word) : word ∉ connectives := by
  have hnone : ∀ connective ∈ connectives, '(' ∉ connective := by decide
  exact fun hmem => hnone word hmem h

/-- A call is a solid word. -/
theorem solid_call {name inner : List Char} (hname : Solid name) (hinner : Balanced inner) :
    Solid (name ++ '(' :: (inner ++ [')'])) :=
  hname.append hinner.parenthesised

/-- A call of a function is one word, so it is a conjunct. -/
theorem conjunct_call {name inner : List Char} (hname : Solid name) (hinner : Balanced inner) :
    Conjunct (name ++ '(' :: (inner ++ [')'])) := by
  refine (solid_call hname hinner).words.conjunct fun word hmem => ?_
  rw [List.mem_singleton.1 hmem]
  exact not_mem_connectives (by simp)

/-- A comparison of two words. -/
theorem conjunct_compare (op : List Char) {left right : List Char} (hleft : Solid left ∧ left ∉ connectives)
    (hop : Solid op ∧ op ∉ connectives) (hright : Solid right ∧ right ∉ connectives) :
    Conjunct (left ++ ' ' :: (op ++ ' ' :: right)) := by
  refine (hleft.1.words.append (hop.1.words.append hright.1.words)).conjunct fun word hmem => ?_
  simp only [List.cons_append, List.nil_append, List.mem_cons, List.not_mem_nil, or_false] at hmem
  obtain rfl | rfl | rfl := hmem
  · exact hleft.2
  · exact hop.2
  · exact hright.2

/-- So the condition of an operator on texts cannot be torn apart by what stands around it. -/
theorem conjunct_textCondition {op : Operator} {expression placeholder : String}
    (hexpr : Balanced expression.toList) (hplace : Balanced placeholder.toList) :
    Conjunct (textCondition op expression placeholder).toList := by
  have hsep : Balanced ", ".toList := rfl
  have hargs : Balanced (expression ++ ", " ++ placeholder).toList := by
    rw [String.toList_append, String.toList_append]
    exact (hexpr.append hsep).append hplace
  unfold textCondition
  split
  · have hname : Solid "positionCaseSensitive".toList := by decide
    have hzero : Solid ['0'] ∧ ['0'] ∉ connectives := by decide
    have hcall := conjunct_compare ['>'] ⟨solid_call hname hargs, not_mem_connectives (by simp)⟩
      (by decide) hzero
    simpa using hcall
  · have hname : Solid "startsWith".toList := by decide
    simpa using conjunct_call hname hargs
  · have hname : Solid "endsWith".toList := by decide
    simpa using conjunct_call hname hargs

/-- The comparisons are words, and none of them is a connective. -/
theorem solid_sql (op : Operator) : Solid op.sql.toList ∧ op.sql.toList ∉ connectives := by
  cases op <;> decide

/-- **A test is a conjunct**: the field, the comparison and the placeholder are its words. -/
theorem conjunct_testText {spec : FieldSpec}
    (h : Solid spec.expression.toList ∧ spec.expression.toList ∉ connectives) (n : ℕ) :
    ∀ test : Test, Conjunct (testText spec n test).toList
  | .exists => by
      simp only [testText]
      split_ifs
      · have hname : Solid "isNotNull".toList := by decide
        simpa using conjunct_call hname h.1.balanced
      · have hempty : Solid ['\'', '\''] ∧ ['\'', '\''] ∉ connectives := by decide
        simpa using conjunct_compare ['!', '='] h (by decide) hempty
  | .in values => by
      have hsep : Balanced ", ".toList := rfl
      have hall : Balanced (", ".intercalate (placeholders n values)).toList := by
        rw [String.toList_intercalate]
        refine balanced_intercalate hsep fun text hmem => ?_
        obtain ⟨place, hplace, rfl⟩ := List.mem_map.1 hmem
        obtain ⟨entry, -, rfl⟩ := List.mem_map.1 hplace
        exact (solid_placeholder _ _).balanced
      have := conjunct_compare ['I', 'N'] h (by decide)
        ⟨hall.parenthesised, not_mem_connectives List.mem_cons_self⟩
      simpa [testText] using this
  | .compare op value => by
      have hplace := solid_placeholder n value.kind
      simp only [testText]
      split_ifs
      · exact conjunct_textCondition h.1.balanced hplace.balanced
      · have := conjunct_compare op.sql.toList h (solid_sql op)
          ⟨hplace, placeholder_not_mem_connectives n value.kind⟩
        simpa using this

/-- **The condition of an expression with a connective stands in parentheses, that of a predicate
has no connective.** -/
theorem conjunct_conditionText : ∀ (n : ℕ) (expression : QueryExpression),
    Conjunct (conditionText n expression).toList ∧
      (Parenthesised (conditionText n expression).toList ∨
        ∃ field test, expression = .predicate field test)
  | n, .and left right => by
      have hl := (conjunct_conditionText n left).1.words
      have hr := (conjunct_conditionText (n + left.literals.length) right).1.words
      have hand : Words ['A', 'N', 'D'] [['A', 'N', 'D']] := Solid.words rfl
      have hparen : Parenthesised (conditionText n (.and left right)).toList :=
        ⟨_, (hl.append (hand.append hr)).balanced, by simp [conditionText]⟩
      exact ⟨hparen.conjunct, .inl hparen⟩
  | n, .or left right => by
      have hl := (conjunct_conditionText n left).1.words
      have hr := (conjunct_conditionText (n + left.literals.length) right).1.words
      have hor : Words ['O', 'R'] [['O', 'R']] := Solid.words rfl
      have hparen : Parenthesised (conditionText n (.or left right)).toList :=
        ⟨_, (hl.append (hor.append hr)).balanced, by simp [conditionText]⟩
      exact ⟨hparen.conjunct, .inl hparen⟩
  | n, .not child => by
      have hchild := (conjunct_conditionText n child).1.words
      have hnot : Words ['N', 'O', 'T'] [['N', 'O', 'T']] := Solid.words rfl
      have hparen : Parenthesised (conditionText n (.not child)).toList :=
        ⟨_, (hnot.append hchild).balanced, by simp [conditionText]⟩
      exact ⟨hparen.conjunct, .inl hparen⟩
  | n, .predicate field test => by
      refine ⟨?_, .inr ⟨field, test, rfl⟩⟩
      simp only [conditionText]
      split
      · decide
      · rename_i spec hspec
        obtain ⟨entry, hentry, rfl⟩ := mem_of_fieldSpecOf hspec
        have hplain := searchFields_plain entry hentry
        exact conjunct_testText ⟨hplain.1, hplain.2.1⟩ n test

/-! ## The statement -/

/-- The conditions every search has, have no connective at their top level. -/
theorem conjunct_fixed : ∀ text ∈ [tenantPredicate, presentPredicate, fromPredicate, toPredicate],
    Conjunct text.toList := by
  decide

/-- The condition of the cursor stands in parentheses. -/
theorem conjunct_cursor (direction : Direction) :
    Conjunct (cursorKeysetPredicate direction).toList := by
  have hword : Solid (cursorKeysetPredicate direction).toList ∧
      '(' ∈ (cursorKeysetPredicate direction).toList := by
    cases direction
    all_goals
      unfold cursorKeysetPredicate
      repeat rw [String.toList_append]
      decide
  refine hword.1.words.conjunct fun word hmem => ?_
  rw [List.mem_singleton.1 hmem]
  exact not_mem_connectives hword.2

/-- **What a search asks for is the conjunction of its conditions**, of which the user's is one. -/
theorem disjuncts_whereText (expression : Option QueryExpression) (cursor : Bool)
    (direction : Direction) :
    disjuncts (whereText (expression.map (conditionText 0)) cursor direction).toList =
      [(predicates (expression.map (conditionText 0)) cursor direction).map String.toList] := by
  rw [whereText, String.toList_intercalate]
  refine disjuncts_conjunction (List.cons_ne_nil _ _) fun text hmem => ?_
  obtain ⟨predicate, hpredicate, rfl⟩ := List.mem_map.1 hmem
  simp only [predicates, List.mem_append] at hpredicate
  obtain (hfixed | hcondition) | hcursor := hpredicate
  · exact conjunct_fixed predicate hfixed
  · rw [Option.mem_toList] at hcondition
    obtain ⟨e, -, rfl⟩ := Option.map_eq_some_iff.1 hcondition
    exact (conjunct_conditionText 0 e).1
  · cases cursor with
    | false => cases hcursor
    | true =>
      rw [if_pos rfl, List.mem_singleton] at hcursor
      rw [hcursor]
      exact conjunct_cursor direction

/-- The parameters a search sets itself. -/
def reserved (tenantId : GoString) (fromTime toTime : ℤ × ℤ) (cursor : Option (ℤ × ℤ × GoString)) :
    Values :=
  [("param_tenant", tenantId), ("param_from_seconds", bytes (toString fromTime.1)),
    ("param_from_nanos", bytes (toString fromTime.2)),
    ("param_to_seconds", bytes (toString toTime.1)),
    ("param_to_nanos", bytes (toString toTime.2))] ++
  cursor.elim [] fun (seconds, nanos, id) =>
    [("param_cursor_seconds", bytes (toString seconds)),
      ("param_cursor_nanos", bytes (toString nanos)), ("param_cursor_id", id)]

/-- The names of these. -/
def reservedNames : List String :=
  ["param_tenant", "param_from_seconds", "param_from_nanos", "param_to_seconds", "param_to_nanos",
    "param_cursor_seconds", "param_cursor_nanos", "param_cursor_id"]

/-- The parameters of the search itself are the reserved ones, each at most once. -/
theorem names_reserved (tenantId : GoString) (fromTime toTime : ℤ × ℤ) :
    ∀ cursor : Option (ℤ × ℤ × GoString),
      ((reserved tenantId fromTime toTime cursor).map Prod.fst).Sublist reservedNames
  | none => by simp [reserved, reservedNames]
  | some _ => List.Sublist.refl _

/-- The name of a placeholder's parameter is not a name the search sets. -/
theorem parameterName_not_reserved (n : ℕ) : "param_" ++ parameterName n ∉ reservedNames := by
  intro hmem
  have hsixth : ∀ name ∈ reservedNames, name.toList[6]? ≠ some 'q' := by decide
  refine hsixth _ hmem ?_
  simp [parameterName]

/-- The parameters of the condition are numbered from `n` on. -/
theorem names_bound (n : ℕ) (values : List QueryLiteral) : (bound n values).map Prod.fst =
    (List.range' n values.length).map fun i => "param_" ++ parameterName i := by
  rw [← List.zipIdx_map_snd, bound, List.map_map, List.map_map]
  rfl

/-- No number is used twice. -/
theorem nodup_names_bound (n : ℕ) (values : List QueryLiteral) :
    ((bound n values).map Prod.fst).Nodup := by
  rw [names_bound]
  refine List.Nodup.map (fun i j h => ?_) List.nodup_range'
  exact parameterName_injective ((String.append_right_inj _).1 h)

/-- Setting new names appends them. -/
theorem foldl_set : ∀ (added values : Values), (added.map Prod.fst).Nodup →
    (∀ name ∈ values.map Prod.fst, name ∉ added.map Prod.fst) →
    added.foldl (fun values entry => values.set entry.1 entry.2) values = values ++ added
  | [], values, _, _ => (List.append_nil _).symm
  | entry :: added, values, hnodup, hnew => by
      rw [List.map_cons, List.nodup_cons] at hnodup
      have hentry : entry.1 ∉ values.map Prod.fst :=
        fun hmem => hnew _ hmem List.mem_cons_self
      have hrest : ∀ name ∈ (values ++ [entry]).map Prod.fst, name ∉ added.map Prod.fst := by
        intro name hname
        rw [List.map_append, List.mem_append, List.map_singleton, List.mem_singleton] at hname
        obtain hname | rfl := hname
        · exact fun hmem => hnew name hname (List.mem_cons_of_mem _ hmem)
        · exact hnodup.1
      rw [List.foldl_cons, Values.set_of_not_mem _ hentry, foldl_set added _ hnodup.2 hrest,
        List.append_assoc]
      rfl

/-- The reserved parameters are set after those of the condition, one after the other. -/
theorem searchParameters_eq_foldl (condition : Values) (tenantId : GoString)
    (fromTime toTime : ℤ × ℤ) : ∀ cursor : Option (ℤ × ℤ × GoString),
    searchParameters condition tenantId fromTime toTime cursor =
      (reserved tenantId fromTime toTime cursor).foldl
        (fun values entry => values.set entry.1 entry.2) condition
  | none => rfl
  | some _ => rfl

/-- **The parameters of a search: each literal under the name of its placeholder, and those the
search sets; no name twice.** -/
theorem searchParameters_bound (values : List QueryLiteral) (tenantId : GoString)
    (fromTime toTime : ℤ × ℤ) (cursor : Option (ℤ × ℤ × GoString)) :
    searchParameters (bound 0 values) tenantId fromTime toTime cursor =
        bound 0 values ++ reserved tenantId fromTime toTime cursor ∧
      ((bound 0 values ++ reserved tenantId fromTime toTime cursor).map Prod.fst).Nodup := by
  have hsub := names_reserved tenantId fromTime toTime cursor
  have hreserved : ((reserved tenantId fromTime toTime cursor).map Prod.fst).Nodup :=
    hsub.nodup (by decide)
  have hnew : ∀ name ∈ (bound 0 values).map Prod.fst,
      name ∉ (reserved tenantId fromTime toTime cursor).map Prod.fst := by
    intro name hname hmem
    obtain ⟨i, -, rfl⟩ := mem_names_bound hname
    exact parameterName_not_reserved i (hsub.subset hmem)
  refine ⟨?_, ?_⟩
  · rw [searchParameters_eq_foldl, foldl_set _ _ hreserved hnew]
  · rw [List.map_append]
    exact (nodup_names_bound 0 values).append hreserved hnew

/-- A name has no colon, so a placeholder splits at its first one into the name and the type. -/
theorem colon_not_mem_parameterName (n : ℕ) : ∀ ch ∈ (parameterName n).toList, ch ≠ ':' := by
  rintro ch hmem rfl
  rw [parameterName, String.toList_append, List.mem_append] at hmem
  obtain hmem | hmem := hmem
  · exact absurd hmem (by decide)
  · have hdigit : ':'.isDigit := by
      refine Nat.isDigit_of_mem_toDigits (b := 10) (n := n) (by decide) (by decide) ?_
      rwa [← Nat.toList_repr]
    exact nomatch hdigit

/-- The placeholders of literals are different. -/
theorem nodup_placeholderTexts (n : ℕ) (values : List QueryLiteral) :
    (placeholderTexts n values).Nodup := by
  refine List.Nodup.of_map (List.takeWhile (· ≠ ':')) ?_
  have hnames : (placeholderTexts n values).map (List.takeWhile (· ≠ ':')) =
      (List.range' n values.length).map fun i => (parameterName i).toList := by
    rw [← List.zipIdx_map_snd, placeholderTexts, List.map_map, List.map_map]
    refine List.map_congr_left fun entry _ => ?_
    have hname := colon_not_mem_parameterName entry.2
    simp only [Function.comp_apply, placeholderText, String.toList_append, List.append_assoc]
    rw [List.takeWhile_append_of_pos fun ch hmem => by simpa using hname ch hmem]
    simp
  rw [hnames]
  refine List.Nodup.map (fun i j h => ?_) List.nodup_range'
  exact parameterName_injective (String.toList_injective h)

/-! ## Isolation -/

/-- **Query text does not reach the SQL of a search.**  Queries of one shape give one statement.  The
placeholders of the condition are those of its literals, with their types and without repetition;
the parameters bind each literal once, and no name of the search's own.  Apart from placeholders,
the condition is written with the vocabulary.  It stands in parentheses or is one predicate without
connectives, so that the conditions for the tenant and the window hold of every row selected. -/
theorem query_isolated {uuidVersion : GoString → Option ℕ} {raw : GoString}
    {expression : Option QueryExpression} {condition : Option String} {values : Values}
    (hparse : parseQuery raw = .ok expression)
    (hcompile : compileExpression uuidVersion expression = .ok (condition, values)) :
    (∀ (raw' : GoString) (expression' : Option QueryExpression) (condition' : Option String)
        (values' : Values), parseQuery raw' = .ok expression' →
      compileExpression uuidVersion expression' = .ok (condition', values') →
      expression'.map QueryExpression.shape = expression.map QueryExpression.shape →
      ∀ database cursor direction limit, searchStatement database condition' cursor direction limit =
        searchStatement database condition cursor direction limit) ∧
    (∀ text ∈ condition, Places text.toList (placeholderTexts 0 (literalsOf expression))) ∧
    (placeholderTexts 0 (literalsOf expression)).Nodup ∧
    (∀ tenantId fromTime toTime cursor,
      searchParameters values tenantId fromTime toTime cursor =
          bound 0 (literalsOf expression) ++ reserved tenantId fromTime toTime cursor ∧
        ((searchParameters values tenantId fromTime toTime cursor).map Prod.fst).Nodup) ∧
    (∀ text ∈ condition, ∃ pieces : List String, text = String.join pieces ∧
      ∀ piece ∈ pieces, piece ∈ vocabulary ∨ piece ∈ placeholders 0 (literalsOf expression)) ∧
    (∀ text ∈ condition, Parenthesised text.toList ∨
      (∃ field test, expression = some (.predicate field test)) ∧ Conjunct text.toList) ∧
    ∀ (cursor : Bool) (direction : Direction) (Row : Type) (holds : List Char → Row → Prop)
      (row : Row), Selects holds (whereText condition cursor direction).toList row →
      holds tenantPredicate.toList row ∧ holds fromPredicate.toList row ∧
        holds toPredicate.toList row ∧ ∀ text ∈ condition, holds text.toList row := by
  obtain ⟨rfl, rfl⟩ := Prod.mk.inj (compileExpression_eq_ok hcompile)
  have hknown : ∀ e ∈ expression, e.Known := by
    rintro e rfl
    rw [compileExpression, bind_eq_ok] at hcompile
    obtain ⟨first, hfirst, -⟩ := hcompile
    exact known_of_compileExpressionInto hfirst
  have hpiece : ∀ text ∈ expression.map (conditionText 0),
      Piece 0 (literalsOf expression) text := by
    intro text htext
    obtain ⟨e, rfl, rfl⟩ := Option.map_eq_some_iff.1 htext
    exact piece_conditionText 0 (hknown e rfl)
  refine ⟨?_, fun text htext => (hpiece text htext).places, nodup_placeholderTexts _ _, ?_,
    fun text htext => (hpiece text htext).written, ?_, ?_⟩
  · intro raw' expression' condition' values' _ hcompile' hshape database cursor direction limit
    obtain ⟨rfl, -⟩ := Prod.mk.inj (compileExpression_eq_ok hcompile')
    have hsame : expression'.map (conditionText 0) = expression.map (conditionText 0) := by
      have hboth := congrArg (Option.map (conditionText 0)) hshape
      simpa only [Option.map_map, Function.comp_def, conditionText_shape] using hboth
    rw [hsame]
  · intro tenantId fromTime toTime cursor
    obtain ⟨heq, hnodup⟩ :=
      searchParameters_bound (literalsOf expression) tenantId fromTime toTime cursor
    exact ⟨heq, heq ▸ hnodup⟩
  · intro text htext
    obtain ⟨e, rfl, rfl⟩ := Option.map_eq_some_iff.1 htext
    obtain ⟨hconjunct, hparen | ⟨field, test, rfl⟩⟩ := conjunct_conditionText 0 e
    · exact .inl hparen
    · exact .inr ⟨⟨field, test, rfl⟩, hconjunct⟩
  · rintro cursor direction Row holds row ⟨conjuncts, hmem, hall⟩
    rw [disjuncts_whereText, List.mem_singleton] at hmem
    subst hmem
    have hpredicate : ∀ p ∈ predicates (expression.map (conditionText 0)) cursor direction,
        holds p.toList row := fun p hp => hall _ (List.mem_map_of_mem hp)
    refine ⟨hpredicate _ ?_, hpredicate _ ?_, hpredicate _ ?_, fun text htext => hpredicate _ ?_⟩
    · simp [predicates]
    · simp [predicates]
    · simp [predicates]
    · simp [predicates, Option.mem_def.1 htext]

/-- A query for a user and two classes. -/
def sampleExpression (user first second : String) : QueryExpression :=
  .and (.predicate (bytes "user.name") (.compare .eq ⟨.string, bytes user⟩))
    (.predicate (bytes "class_uid") (.in [⟨.number, bytes first⟩, ⟨.number, bytes second⟩]))

/-- Its condition. -/
def sampleCondition : String :=
  "(JSONExtractString(ocsf_event_json, 'user', 'name') = \x7bq0:String\x7d AND " ++
    "class_uid IN (\x7bq1:Float64\x7d, \x7bq2:Float64\x7d))"

/-- A user whose name looks like SQL: the condition has the placeholders of the literals, and the
rows selected are the tenant's. -/
theorem query_isolated_quotes :
    parseQuery (bytes "user.name == \"' OR 1=1 --\" and class_uid in [3002, 1]") =
        .ok (some (sampleExpression "' OR 1=1 --" "3002" "1")) ∧
      Places sampleCondition.toList
        (placeholderTexts 0 (sampleExpression "' OR 1=1 --" "3002" "1").literals) ∧
      ∀ (Row : Type) (holds : List Char → Row → Prop) (row : Row),
        Selects holds (whereText (some sampleCondition) false .desc).toList row →
        holds tenantPredicate.toList row := by
  have hparse : parseQuery (bytes "user.name == \"' OR 1=1 --\" and class_uid in [3002, 1]") =
      .ok (some (sampleExpression "' OR 1=1 --" "3002" "1")) := by decide +kernel
  have hcompile : compileExpression (fun _ => none)
      (some (sampleExpression "' OR 1=1 --" "3002" "1")) =
      .ok (some sampleCondition, [("param_q0", bytes "' OR 1=1 --"), ("param_q1", bytes "3002"),
        ("param_q2", bytes "1")]) := by decide +kernel
  obtain ⟨-, hplaces, -, -, -, -, hrows⟩ := query_isolated hparse hcompile
  exact ⟨hparse, hplaces _ rfl, fun Row holds row hrow => (hrows false .desc Row holds row hrow).1⟩

end Search

end Cerbero
