import Cerbero.Search.ClickHouse

/-!
# Search/Complement — when a query and its negation divide the rows

Conjunctions and disjunctions of queries select the intersection and the union of what the parts
select.  The negation selects the complement on the rows on which the query is decided: a predicate
that compares a column that is `NULL` is not, and neither the query nor its negation selects such a
row (`divides_iff`).
-/

namespace Cerbero

namespace Search

open Text ThreeValued

variable {clickHouse : ClickHouse} {uuidVersion : GoString → Option ℕ} {row : StoredRow}

/-! ## Fields -/

/-- **What a field is on a row**: a text, a number, or one of the two columns that may be
`NULL`. -/
inductive FieldCell (clickHouse : ClickHouse) (row : StoredRow) : String × FieldSpec → Prop
  | text {entry : String × FieldSpec} {value : GoString} : entry.2.kind = .string →
      entry.2.nullable = false → clickHouse.cell row entry.2.expression = .text value →
      FieldCell clickHouse row entry
  | number {entry : String × FieldSpec} {n : ℕ} : entry.2.kind = .number →
      entry.2.nullable = false → clickHouse.cell row entry.2.expression = .number (some n) →
      FieldCell clickHouse row entry
  | activity {spec : FieldSpec} : spec.kind = .number → spec.nullable = true →
      clickHouse.cell row spec.expression = .number (row.activityId.map UInt32.toNat) →
      FieldCell clickHouse row ("activity_id", spec)
  | severity {spec : FieldSpec} : spec.kind = .number → spec.nullable = true →
      clickHouse.cell row spec.expression = .number (row.severity.map UInt32.toNat) →
      FieldCell clickHouse row ("severity_id", spec)

theorem fieldCell_searchFields (clickHouse : ClickHouse) (row : StoredRow) :
    ∀ entry ∈ searchFields, FieldCell clickHouse row entry := by
  unfold searchFields
  simp only [List.forall_mem_cons, List.not_mem_nil, false_implies, implies_true, and_true]
  refine ⟨?_, ?_, ?_, ?_, ?_, ?_, ?_, ?_, ?_, ?_, ?_, ?_, ?_, ?_, ?_, ?_⟩
  · exact .text rfl rfl rfl
  · exact .text rfl rfl rfl
  · exact .text rfl rfl rfl
  · exact .text rfl rfl rfl
  · exact .text rfl rfl rfl
  · exact .number rfl rfl rfl
  · exact .number rfl rfl rfl
  · exact .activity rfl rfl rfl
  · exact .severity rfl rfl rfl
  · exact .text rfl rfl rfl
  · exact .text rfl rfl rfl
  · exact .text rfl rfl rfl
  · exact .text rfl rfl rfl
  · exact .text rfl rfl rfl
  · exact .text rfl rfl rfl
  · exact .number rfl rfl rfl

/-! ## Missing values -/

/-- **A predicate that compares a column that is `NULL` in the row.** -/
def ComparesNull (row : StoredRow) (field : GoString) (test : Test) : Prop :=
  test ≠ .exists ∧ (field = bytes "activity_id" ∧ row.activityId = none ∨
    field = bytes "severity_id" ∧ row.severity = none)

/-- A predicate on a column that is never `NULL`. -/
theorem not_comparesNull {field : GoString} {spec : FieldSpec} {test : Test}
    (hspec : fieldSpecOf field = some spec) (h : spec.nullable = false) :
    ¬ ComparesNull row field test := by
  have hnullable : ∀ name ∈ ["activity_id", "severity_id"],
      (fieldSpecOf (bytes name)).all FieldSpec.nullable := by decide +kernel
  rintro ⟨-, ⟨rfl, -⟩ | ⟨rfl, -⟩⟩
  · have := hnullable "activity_id" (by decide)
    rw [hspec] at this
    exact absurd (h.symm.trans this) (by decide)
  · have := hnullable "severity_id" (by decide)
    rw [hspec] at this
    exact absurd (h.symm.trans this) (by decide)

/-- The value of a test that is not `exists`, on a column that may be `NULL`. -/
theorem truth_eq_none_of_number {spec : FieldSpec} {value : Option ℕ} {test : Test}
    (hkind : spec.kind = .number) (hcell : clickHouse.cell row spec.expression = .number value)
    (haccepted : test.Accepted uuidVersion spec) (hne : test ≠ .exists) :
    test.truth clickHouse row spec = none ↔ value = none := by
  cases test with
  | «exists» => exact absurd rfl hne
  | «in» values => simp [Test.truth, hcell, Cell.isIn]
  | compare op literal =>
    rw [Test.Accepted, hkind] at haccepted
    rw [Test.truth]
    split_ifs at haccepted ⊢
    · cases haccepted.1
    · simp [hcell, Cell.compare]

theorem textFunction_ne_none {value parameter : GoString} (op : Operator) :
    (Cell.text value).textFunction clickHouse op parameter ≠ none := by
  unfold Cell.textFunction
  cases op
  all_goals exact Option.some_ne_none _

theorem truth_ne_none_of_text {spec : FieldSpec} {value : GoString}
    (hnullable : spec.nullable = false)
    (hcell : clickHouse.cell row spec.expression = .text value) :
    ∀ test : Test, test.truth clickHouse row spec ≠ none
  | .exists => by simp [Test.truth, hnullable, hcell, Cell.notEmpty]
  | .in values => by simp [Test.truth, hcell, Cell.isIn]
  | .compare op literal => by
      rw [Test.truth, hcell]
      split_ifs
      · exact textFunction_ne_none op
      · exact Option.some_ne_none _

/-- `exists` is never undetermined. -/
theorem truth_exists_ne_none {spec : FieldSpec} {value : Option ℕ}
    (hnullable : spec.nullable = true)
    (hcell : clickHouse.cell row spec.expression = .number value) :
    Test.exists.truth clickHouse row spec ≠ none := by
  rw [Test.truth, if_pos hnullable, hcell]
  exact Option.some_ne_none _

/-- **A predicate is undetermined exactly on the rows whose `NULL` it compares.** -/
theorem truth_eq_none_iff {field : GoString} {spec : FieldSpec} {test : Test}
    (hspec : fieldSpecOf field = some spec) (haccepted : test.Accepted uuidVersion spec) :
    test.truth clickHouse row spec = none ↔ ComparesNull row field test := by
  obtain ⟨⟨name, spec⟩, hfind, rfl⟩ := Option.map_eq_some_iff.1 hspec
  obtain rfl : bytes name = field := by simpa using List.find?_some hfind
  have hother : bytes "activity_id" ≠ bytes "severity_id" := by decide
  match fieldCell_searchFields clickHouse row _ (List.mem_of_find?_eq_some hfind) with
  | .text _ hnullable hcell =>
    exact iff_of_false (truth_ne_none_of_text hnullable hcell test)
      (not_comparesNull hspec hnullable)
  | .number hkind hnullable hcell =>
    refine iff_of_false (fun hnone => ?_) (not_comparesNull hspec hnullable)
    have hne : test ≠ .exists := by
      rintro rfl
      obtain h | h := haccepted
      · exact nomatch h.symm.trans hnullable
      · exact nomatch h.symm.trans hkind
    exact nomatch (truth_eq_none_of_number hkind hcell haccepted hne).1 hnone
  | .activity hkind hnullable hcell =>
    rw [ComparesNull]
    by_cases hexists : test = .exists
    · subst hexists
      exact iff_of_false (truth_exists_ne_none hnullable hcell) fun h => h.1 rfl
    · rw [truth_eq_none_of_number hkind hcell haccepted hexists]
      simp [hexists, hother]
  | .severity hkind hnullable hcell =>
    rw [ComparesNull]
    by_cases hexists : test = .exists
    · subst hexists
      exact iff_of_false (truth_exists_ne_none hnullable hcell) fun h => h.1 rfl
    · rw [truth_eq_none_of_number hkind hcell haccepted hexists]
      simp [hexists, hother.symm]

/-! ## Decided queries -/

/-- **A query is decided on a row**: no predicate that its value depends on compares a column that
is `NULL`. -/
def QueryExpression.Decided (clickHouse : ClickHouse) (row : StoredRow) : QueryExpression → Prop
  | .and left right => left.Decided clickHouse row ∧ right.Decided clickHouse row ∨
      left.truth clickHouse row = some false ∨ right.truth clickHouse row = some false
  | .or left right => left.Decided clickHouse row ∧ right.Decided clickHouse row ∨
      left.truth clickHouse row = some true ∨ right.truth clickHouse row = some true
  | .not child => child.Decided clickHouse row
  | .predicate field test => ¬ ComparesNull row field test

/-- **A query is decided exactly if its condition is true or false.** -/
theorem decided_iff : ∀ {expression : QueryExpression}, expression.Accepted uuidVersion →
    (expression.Decided clickHouse row ↔ expression.truth clickHouse row ≠ none)
  | .and left right, h => by
      rw [QueryExpression.Decided, QueryExpression.truth, decided_iff h.1, decided_iff h.2]
      simp only [Truth.ne_none_iff, Truth.and_eq_true, Truth.and_eq_false]
      tauto
  | .or left right, h => by
      rw [QueryExpression.Decided, QueryExpression.truth, decided_iff h.1, decided_iff h.2]
      simp only [Truth.ne_none_iff, Truth.or_eq_true, Truth.or_eq_false]
      tauto
  | .not child, h => by
      have hchild : child.Accepted uuidVersion := h
      rw [QueryExpression.Decided, QueryExpression.truth, decided_iff hchild]
      simp only [Truth.ne_none_iff, Truth.not_eq_true, Truth.not_eq_false]
      exact or_comm
  | .predicate field test, h => by
      obtain ⟨spec, hspec, htest⟩ := h
      rw [QueryExpression.Decided, QueryExpression.truth, hspec]
      exact (not_congr (truth_eq_none_iff hspec htest)).symm

/-- **A query and its negation divide the rows on which the query is decided**, and no others; a
conjunction and a disjunction select what both parts, or one of them, select. -/
theorem divides_iff {expression other : QueryExpression}
    {compiled compiled' : Option String × Values}
    (h : compileExpression uuidVersion (some expression) = .ok compiled)
    (hother : compileExpression uuidVersion (some other) = .ok compiled') (row : StoredRow) :
    (Xor (Selects clickHouse uuidVersion expression row)
      (Selects clickHouse uuidVersion (.not expression) row) ↔
        expression.Decided clickHouse row) ∧
    (Selects clickHouse uuidVersion (.and expression other) row ↔
      Selects clickHouse uuidVersion expression row ∧ Selects clickHouse uuidVersion other row) ∧
    (Selects clickHouse uuidVersion (.or expression other) row ↔
      Selects clickHouse uuidVersion expression row ∨
        Selects clickHouse uuidVersion other row) := by
  have h := accepted_of_compileExpression h
  have hother := accepted_of_compileExpression hother
  have hnot : (QueryExpression.not expression).Accepted uuidVersion := h
  have hand : (QueryExpression.and expression other).Accepted uuidVersion := ⟨h, hother⟩
  have hor : (QueryExpression.or expression other).Accepted uuidVersion := ⟨h, hother⟩
  rw [selects_iff h, selects_iff hother, selects_iff hnot, selects_iff hand, selects_iff hor]
  exact ⟨Truth.xor_not_iff.trans (decided_iff h).symm, Truth.and_eq_true, Truth.or_eq_true⟩

/-! ## A row without an activity -/

/-- Numbers compared for equality, by their digits. -/
def sampleClickHouse : ClickHouse where
  extractString _ _ := []
  compareNumber op n text := op = .eq && bytes (toString n) == text
  bindText text := text

def nilUuid : Uuid := fun _ => ⟨0, Nat.succ_pos 15⟩

/-- A row without an activity. -/
def noActivityRow : StoredRow where
  normalizedEventId := nilUuid
  rawEventId := nilUuid
  classUid := 3002
  categoryUid := 3
  activityId := none
  severity := some 1
  parserId := bytes "linux/sshd"
  parserVersion := bytes "1"
  mappingId := bytes "ocsf"
  mappingVersion := bytes "1"
  executionMode := 1
  ocsfEventJson := bytes "\x7b\x7d"

/-- `activity_id == 1`. -/
def activityQuery : QueryExpression :=
  .predicate (bytes "activity_id") (.compare .eq ⟨.number, bytes "1"⟩)

theorem accepted_activityQuery : activityQuery.Accepted fun _ => none := by
  refine ⟨_, rfl, ?_⟩
  rw [Test.Accepted, if_neg (by decide)]
  exact ⟨fun h => (by cases h), rfl, fun h => (by cases h), fun _ => by decide +kernel⟩

/-- **Neither the query nor its negation selects a row without an activity.** -/
theorem not_divides_activityQuery :
    parseQuery (bytes "activity_id == 1") = .ok (some activityQuery) ∧
    parseQuery (bytes "NOT (activity_id == 1)") = .ok (some (.not activityQuery)) ∧
    (∃ compiled, compileExpression (fun _ => none) (some activityQuery) = .ok compiled) ∧
    ¬ Selects sampleClickHouse (fun _ => none) activityQuery noActivityRow ∧
    ¬ Selects sampleClickHouse (fun _ => none) (.not activityQuery) noActivityRow := by
  have hnot : activityQuery.not.Accepted fun _ => none := accepted_activityQuery
  rw [selects_iff accepted_activityQuery, selects_iff hnot]
  exact ⟨by decide +kernel, by decide +kernel, ⟨_, compileExpression_of_accepted
    accepted_activityQuery⟩, by decide +kernel, by decide +kernel⟩

theorem divides_activityQuery :
    (Xor (Selects sampleClickHouse (fun _ => none) activityQuery noActivityRow)
      (Selects sampleClickHouse (fun _ => none) (.not activityQuery) noActivityRow) ↔
        activityQuery.Decided sampleClickHouse noActivityRow) ∧
    (Selects sampleClickHouse (fun _ => none) (.and activityQuery activityQuery) noActivityRow ↔
      Selects sampleClickHouse (fun _ => none) activityQuery noActivityRow ∧
        Selects sampleClickHouse (fun _ => none) activityQuery noActivityRow) ∧
    (Selects sampleClickHouse (fun _ => none) (.or activityQuery activityQuery) noActivityRow ↔
      Selects sampleClickHouse (fun _ => none) activityQuery noActivityRow ∨
        Selects sampleClickHouse (fun _ => none) activityQuery noActivityRow) :=
  divides_iff (compileExpression_of_accepted accepted_activityQuery)
    (compileExpression_of_accepted accepted_activityQuery) noActivityRow

end Search

end Cerbero
