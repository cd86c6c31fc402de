import Cerbero.Search.Query

/-!
# Search/Compile — from expressions to SQL

`compileExpression` and the statement of `clickHouseSearchStore.search`.  Literals go into the
parameters, under the names the placeholders of the text have.
-/

namespace Cerbero

namespace Search

open Text

/-! ## Fields -/

/-- `fieldSpec`: the SQL of a field, the kind of its literals, and whether the column may be null or
holds an identifier. -/
structure FieldSpec where
  expression : String
  kind : ValueKind
  nullable : Bool := false
  uuid : Bool := false
  deriving DecidableEq, Repr

/-- `searchFields`: the fields a query may name; any other is an error. -/
def searchFields : List (String × FieldSpec) :=
  [("user.name", ⟨"JSONExtractString(ocsf_event_json, 'user', 'name')", .string, false, false⟩),
    ("src_endpoint.ip",
      ⟨"JSONExtractString(ocsf_event_json, 'src_endpoint', 'ip')", .string, false, false⟩),
    ("service.name",
      ⟨"JSONExtractString(ocsf_event_json, 'service', 'name')", .string, false, false⟩),
    ("status", ⟨"JSONExtractString(ocsf_event_json, 'status')", .string, false, false⟩),
    ("message", ⟨"JSONExtractString(ocsf_event_json, 'message')", .string, false, false⟩),
    ("class_uid", ⟨"class_uid", .number, false, false⟩),
    ("category_uid", ⟨"category_uid", .number, false, false⟩),
    ("activity_id", ⟨"activity_id", .number, true, false⟩),
    ("severity_id", ⟨"severity", .number, true, false⟩),
    ("normalized_event_id", ⟨"toString(normalized_event_id)", .string, false, true⟩),
    ("raw_event_id", ⟨"toString(raw_event_id)", .string, false, true⟩),
    ("parser_id", ⟨"parser_id", .string, false, false⟩),
    ("parser_version", ⟨"parser_version", .string, false, false⟩),
    ("mapping_id", ⟨"mapping_id", .string, false, false⟩),
    ("mapping_version", ⟨"mapping_version", .string, false, false⟩),
    ("execution_mode", ⟨"execution_mode", .number, false, false⟩)]

/-- The entry of a field. -/
def fieldSpecOf (field : GoString) : Option FieldSpec :=
  (searchFields.find? fun entry => bytes entry.1 == field).map Prod.snd

/-! ## Parameters -/

/-- `url.Values`, each name with one value. -/
abbrev Values := List (String × GoString)

/-- `Values.Set`. -/
def Values.set (values : Values) (name : String) (value : GoString) : Values :=
  values.filter (fun entry => entry.1 ≠ name) ++ [(name, value)]

/-- The parameters so far and the counter. -/
structure Bindings where
  values : Values
  counter : ℕ
  deriving DecidableEq, Repr

/-- The type of a parameter. -/
def ValueKind.parameterType : ValueKind → String
  | .string => "String"
  | .number => "Float64"

/-- `addSearchParameter`. -/
def addSearchParameter (bindings : Bindings) (kind : ValueKind) (value : GoString) :
    String × Bindings :=
  let name := "q" ++ toString bindings.counter
  ("\x7b" ++ name ++ ":" ++ kind.parameterType ++ "\x7d",
    ⟨bindings.values.set ("param_" ++ name) value, bindings.counter + 1⟩)

section

-- the version of a text that `uuid.Parse` takes
variable (uuidVersion : GoString → Option ℕ)

/-- `typedSearchParameter`: a literal is bound only if it is of the field's kind, and an identifier
where the field holds one. -/
def typedSearchParameter (bindings : Bindings) (spec : FieldSpec) (value : QueryLiteral) :
    Except String (String × Bindings) :=
  if spec.kind ≠ value.kind then .error "literal type does not match query field"
  else if spec.uuid ∧ uuidVersion value.text ≠ some 7 then
    .error "UUID query field requires UUIDv7 string literal"
  else if spec.kind = .number ∧ parsesAsFloat value.text = false then
    .error "invalid numeric literal"
  else .ok (addSearchParameter bindings spec.kind value.text)

/-- The placeholders of a list of literals. -/
def typedSearchParameters (spec : FieldSpec) :
    Bindings → List QueryLiteral → Except String (List String × Bindings)
  | bindings, [] => .ok ([], bindings)
  | bindings, value :: values => do
    let (placeholder, bindings) ← typedSearchParameter uuidVersion bindings spec value
    let (placeholders, bindings) ← typedSearchParameters spec bindings values
    return (placeholder :: placeholders, bindings)

/-! ## Expressions -/

/-- The comparison a comparing operator is written with. -/
def Operator.sql : Operator → String
  | .eq => "="
  | .ne => "!="
  | .gt => ">"
  | .ge => ">="
  | .lt => "<"
  | .le => "<="
  | _ => ""

/-- The functions of the operators on texts. -/
def Operator.isText : Operator → Bool
  | .contains => true
  | .startsWith => true
  | .endsWith => true
  | _ => false

/-- The condition of an operator on texts. -/
def textCondition (op : Operator) (expression placeholder : String) : String :=
  match op with
  | .contains => "positionCaseSensitive(" ++ expression ++ ", " ++ placeholder ++ ") > 0"
  | .startsWith => "startsWith(" ++ expression ++ ", " ++ placeholder ++ ")"
  | _ => "endsWith(" ++ expression ++ ", " ++ placeholder ++ ")"

/-- `compilePredicate`, for a field that is there. -/
def compileTest (field : GoString) (spec : FieldSpec) (bindings : Bindings) :
    Test → Except String (String × Bindings)
  | .exists =>
    if spec.nullable then .ok ("isNotNull(" ++ spec.expression ++ ")", bindings)
    else if spec.kind = .string then .ok (spec.expression ++ " != ''", bindings)
    else .error ("exists is not meaningful for required field " ++ quote field)
  | .in values =>
    if values = [] then .error "in requires at least one value"
    else do
      let (placeholders, bindings) ← typedSearchParameters uuidVersion spec bindings values
      return (spec.expression ++ " IN (" ++ ", ".intercalate placeholders ++ ")", bindings)
  | .compare op value =>
    if op.isText then
      if spec.kind ≠ .string ∨ value.kind ≠ .string then
        .error (op.text ++ " requires a string field and string literal")
      else
        let (placeholder, bindings) := addSearchParameter bindings .string value.text
        .ok (textCondition op spec.expression placeholder, bindings)
    else if spec.kind = .string ∧ op ≠ .eq ∧ op ≠ .ne then
      .error ("operator " ++ op.text ++ " is not valid for string field " ++ quote field)
    else do
      let (placeholder, bindings) ← typedSearchParameter uuidVersion bindings spec value
      return (spec.expression ++ " " ++ op.sql ++ " " ++ placeholder, bindings)

/-- `compilePredicate`. -/
def compilePredicate (bindings : Bindings) (field : GoString) (test : Test) :
    Except String (String × Bindings) :=
  match fieldSpecOf field with
  | none => .error ("unknown query field " ++ quote field)
  | some spec => compileTest uuidVersion field spec bindings test

/-- `compileExpressionInto`, for an expression that is there. -/
def compileExpressionInto : Bindings → QueryExpression → Except String (String × Bindings)
  | bindings, .and left right => do
    let (left, bindings) ← compileExpressionInto bindings left
    let (right, bindings) ← compileExpressionInto bindings right
    return ("(" ++ left ++ " AND " ++ right ++ ")", bindings)
  | bindings, .or left right => do
    let (left, bindings) ← compileExpressionInto bindings left
    let (right, bindings) ← compileExpressionInto bindings right
    return ("(" ++ left ++ " OR " ++ right ++ ")", bindings)
  | bindings, .not child => do
    let (child, bindings) ← compileExpressionInto bindings child
    return ("(NOT " ++ child ++ ")", bindings)
  | bindings, .predicate field test => compilePredicate uuidVersion bindings field test

/-- **`compileExpression`**: the condition, or none, and its parameters. -/
def compileExpression : Option QueryExpression → Except String (Option String × Values)
  | none => .ok (none, [])
  | some expression => do
    let (text, bindings) ← compileExpressionInto uuidVersion ⟨[], 0⟩ expression
    return (some text, bindings.values)

end

/-! ## The statement -/

/-- The order of the events. -/
inductive Direction
  | asc
  | desc
  deriving DecidableEq, Repr

def Direction.text : Direction → String
  | .asc => "asc"
  | .desc => "desc"

/-- `cursorKeysetPredicate`: the events after the cursor in the order of the search. -/
def cursorKeysetPredicate (direction : Direction) : String :=
  let operator := if direction = .asc then ">" else "<"
  "(event_time_seconds " ++ operator ++ " \x7bcursor_seconds:Int64\x7d OR " ++
    "(event_time_seconds = \x7bcursor_seconds:Int64\x7d AND event_time_nanos " ++ operator ++
    " \x7bcursor_nanos:Int32\x7d) OR " ++
    "(event_time_seconds = \x7bcursor_seconds:Int64\x7d AND event_time_nanos = " ++
    "\x7bcursor_nanos:Int32\x7d AND toString(normalized_event_id) " ++ operator ++
    " \x7bcursor_id:String\x7d))"

/-- The conditions every search has. -/
def tenantPredicate : String := "tenant_id = \x7btenant:String\x7d"

def presentPredicate : String := "event_time_present = 1"

def fromPredicate : String := "tuple(event_time_seconds, event_time_nanos) >= " ++
  "tuple(\x7bfrom_seconds:Int64\x7d, \x7bfrom_nanos:Int32\x7d)"

def toPredicate : String := "tuple(event_time_seconds, event_time_nanos) < " ++
  "tuple(\x7bto_seconds:Int64\x7d, \x7bto_nanos:Int32\x7d)"

/-- The conditions of a search. -/
def predicates (condition : Option String) (cursor : Bool) (direction : Direction) : List String :=
  [tenantPredicate, presentPredicate, fromPredicate, toPredicate] ++ condition.toList ++
    if cursor then [cursorKeysetPredicate direction] else []

/-- What follows `WHERE`. -/
def whereText (condition : Option String) (cursor : Bool) (direction : Direction) : String :=
  " AND ".intercalate (predicates condition cursor direction)

/-- `searchSelectColumns`: the columns of a row, identifiers as texts. -/
def searchSelectColumns : String :=
  "SELECT\n    " ++ ",\n    ".intercalate
    ["toString(normalized_event_id) AS normalized_event_id",
      "toString(raw_event_id) AS raw_event_id", "tenant_id", "event_time_present",
      "event_time_seconds", "event_time_nanos", "ingest_time_seconds", "ingest_time_nanos",
      "ocsf_version", "class_uid", "category_uid", "activity_id", "severity", "parser_id",
      "parser_version", "mapping_id", "mapping_version", "normalized_hash", "execution_mode",
      "ocsf_event_json"]

/-- The statement of a search. -/
def searchStatement (database : String) (condition : Option String) (cursor : Bool)
    (direction : Direction) (limit : ℕ) : String :=
  let order := if direction = .asc then "ASC" else "DESC"
  searchSelectColumns ++ " FROM " ++ database ++ ".normalized_events WHERE " ++
    whereText condition cursor direction ++ " ORDER BY event_time_seconds " ++ order ++
    ", event_time_nanos " ++ order ++ ", toString(normalized_event_id) " ++ order ++ " LIMIT " ++
    toString (limit + 1) ++ " FORMAT JSONEachRow"

/-- The parameters of a search, over those of its condition. -/
def searchParameters (condition : Values) (tenantId : GoString) (fromTime toTime : ℤ × ℤ)
    (cursor : Option (ℤ × ℤ × GoString)) : Values :=
  let window := ((((condition.set "param_tenant" tenantId).set "param_from_seconds"
    (bytes (toString fromTime.1))).set "param_from_nanos" (bytes (toString fromTime.2))).set
    "param_to_seconds" (bytes (toString toTime.1))).set "param_to_nanos"
    (bytes (toString toTime.2))
  match cursor with
  | none => window
  | some (seconds, nanos, id) => ((window.set "param_cursor_seconds"
      (bytes (toString seconds))).set "param_cursor_nanos" (bytes (toString nanos))).set
      "param_cursor_id" id

end Search

end Cerbero
