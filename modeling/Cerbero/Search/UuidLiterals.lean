import Mathlib.Data.Fintype.Basic
import Cerbero.Search.Complement

/-!
# Search/UuidLiterals — spellings of an identifier in a query

`typedSearchParameter` takes every spelling of a UUID that `uuid.Parse` reads, and binds the text as
it is.  ClickHouse compares it with the canonical text of the column.  So one spelling can replace
another in every query exactly if the canonical text is among the literals of the predicate before
and after (`respelled_iff`).
-/

namespace Cerbero

namespace Search

open Text ThreeValued

/-! ## Queries around a predicate -/

/-- **A query with a place for a predicate.** -/
inductive QueryContext
  | hole
  | andLeft (context : QueryContext) (right : QueryExpression)
  | andRight (left : QueryExpression) (context : QueryContext)
  | orLeft (context : QueryContext) (right : QueryExpression)
  | orRight (left : QueryExpression) (context : QueryContext)
  | not (context : QueryContext)

/-- The query with an expression in its place. -/
def QueryContext.fill (expression : QueryExpression) : QueryContext → QueryExpression
  | .hole => expression
  | .andLeft context right => .and (context.fill expression) right
  | .andRight left context => .and left (context.fill expression)
  | .orLeft context right => .or (context.fill expression) right
  | .orRight left context => .or left (context.fill expression)
  | .not context => .not (context.fill expression)

variable {clickHouse : ClickHouse} {uuidVersion : GoString → Option ℕ} {row : StoredRow}

theorem QueryContext.truth_fill {expression expression' : QueryExpression}
    (h : expression.truth clickHouse row = expression'.truth clickHouse row) :
    ∀ context : QueryContext, (context.fill expression).truth clickHouse row =
      (context.fill expression').truth clickHouse row
  | .hole => h
  | .andLeft context right => by
      rw [fill, fill, QueryExpression.truth, QueryExpression.truth, truth_fill h context]
  | .andRight left context => by
      rw [fill, fill, QueryExpression.truth, QueryExpression.truth, truth_fill h context]
  | .orLeft context right => by
      rw [fill, fill, QueryExpression.truth, QueryExpression.truth, truth_fill h context]
  | .orRight left context => by
      rw [fill, fill, QueryExpression.truth, QueryExpression.truth, truth_fill h context]
  | .not context => by
      rw [fill, fill, QueryExpression.truth, QueryExpression.truth, truth_fill h context]

theorem QueryContext.accepted_fill {expression expression' : QueryExpression}
    (h : expression.Accepted uuidVersion ↔ expression'.Accepted uuidVersion) :
    ∀ context : QueryContext, (context.fill expression).Accepted uuidVersion ↔
      (context.fill expression').Accepted uuidVersion
  | .hole => h
  | .andLeft context _ => and_congr_left' (accepted_fill h context)
  | .andRight _ context => and_congr_right' (accepted_fill h context)
  | .orLeft context _ => and_congr_left' (accepted_fill h context)
  | .orRight _ context => and_congr_right' (accepted_fill h context)
  | .not context => accepted_fill h context

/-- **Expressions of the same value select the same rows in every query.** -/
theorem QueryContext.selects_fill {expression expression' : QueryExpression}
    (haccepted : expression.Accepted uuidVersion ↔ expression'.Accepted uuidVersion)
    (h : expression.truth clickHouse row = expression'.truth clickHouse row)
    (context : QueryContext) :
    Selects clickHouse uuidVersion (context.fill expression) row ↔
      Selects clickHouse uuidVersion (context.fill expression') row := by
  by_cases hfill : (context.fill expression).Accepted uuidVersion
  · rw [selects_iff hfill, selects_iff ((context.accepted_fill haccepted).1 hfill),
      context.truth_fill h]
  · refine iff_of_false (fun ⟨_, hcompile, _⟩ => ?_) (fun ⟨_, hcompile, _⟩ => ?_)
    · exact hfill (accepted_of_compileExpression hcompile)
    · exact hfill ((context.accepted_fill haccepted).2 (accepted_of_compileExpression hcompile))

/-! ## Spellings -/

/-- What the code relies on: `uuid.Parse` reads the canonical text of a UUID, and ClickHouse binds a
spelling of a UUID to a canonical text only if it is that text. -/
structure ReadsSpellings (clickHouse : ClickHouse) (uuidParse : GoString → Option Uuid) : Prop where
  parse_uuidText : ∀ id, uuidParse (uuidText id) = some id
  bind_uuidText : ∀ id, clickHouse.bindText (uuidText id) = uuidText id
  eq_of_bind : ∀ text id id', uuidParse text = some id → clickHouse.bindText text = uuidText id' →
    text = uuidText id'

/-- The version of a text that `uuid.Parse` takes. -/
def versionOf (uuidParse : GoString → Option Uuid) (text : GoString) : Option ℕ :=
  (uuidParse text).map fun id => id 12

/-- **A predicate with another spelling of one of its literals.** -/
inductive Respelled (text text' : GoString) : Test → Test → Prop
  | eq : Respelled text text' (.compare .eq ⟨.string, text⟩) (.compare .eq ⟨.string, text'⟩)
  | ne : Respelled text text' (.compare .ne ⟨.string, text⟩) (.compare .ne ⟨.string, text'⟩)
  | in (before after : List QueryLiteral) : Respelled text text'
      (.in (before ++ ⟨.string, text⟩ :: after)) (.in (before ++ ⟨.string, text'⟩ :: after))

variable {uuidParse : GoString → Option Uuid} {text text' : GoString} {test test' : Test}

/-- A spelling of an identifier is bound to its canonical text or to none. -/
theorem ReadsSpellings.bind_eq_iff (h : ReadsSpellings clickHouse uuidParse) {id id' : Uuid}
    (hparse : uuidParse text = some id) :
    clickHouse.bindText text = uuidText id' ↔ text = uuidText id' := by
  refine ⟨h.eq_of_bind text id id' hparse, ?_⟩
  rintro rfl
  exact h.bind_uuidText id'

/-! ## Identifiers in a row -/

/-- The columns of identifiers can have any value. -/
theorem exists_column (clickHouse : ClickHouse) : ∀ entry ∈ searchFields, entry.2.uuid = true →
    ∃ column : StoredRow → Uuid, Function.Surjective column ∧
      ∀ row, clickHouse.cell row entry.2.expression = .text (uuidText (column row)) := by
  have hfields : ∀ entry ∈ searchFields, entry.2.uuid = true →
      entry.2.expression = "toString(normalized_event_id)" ∨
        entry.2.expression = "toString(raw_event_id)" := by decide
  have hrow : ∀ id, ∃ row : StoredRow, row.normalizedEventId = id ∧ row.rawEventId = id :=
    fun id => ⟨⟨id, id, 0, 0, none, none, [], [], [], [], 0, []⟩, rfl, rfl⟩
  intro entry hentry huuid
  obtain h | h := hfields entry hentry huuid
  · refine ⟨StoredRow.normalizedEventId, fun id => ?_, fun row => by rw [h]; rfl⟩
    obtain ⟨row, hnormalized, -⟩ := hrow id
    exact ⟨row, hnormalized⟩
  · refine ⟨StoredRow.rawEventId, fun id => ?_, fun row => by rw [h]; rfl⟩
    obtain ⟨row, -, hraw⟩ := hrow id
    exact ⟨row, hraw⟩

theorem kind_of_uuid : ∀ entry ∈ searchFields, entry.2.uuid = true → entry.2.kind = .string := by
  decide

/-- A literal of the test is the canonical text of an identifier. -/
def Test.Names (test : Test) (id : Uuid) : Prop :=
  ∃ value ∈ test.literals, value.text = uuidText id

/-- The literals of an accepted test on an identifier are spellings. -/
theorem exists_parse_of_accepted {spec : FieldSpec} (huuid : spec.uuid = true)
    (hre : Respelled text text' test test') (h : test.Accepted (versionOf uuidParse) spec) :
    ∀ value ∈ test.literals, ∃ id, uuidParse value.text = some id := by
  have hliteral : ∀ value : QueryLiteral, value.Accepted (versionOf uuidParse) spec →
      ∃ id, uuidParse value.text = some id := by
    intro value hvalue
    obtain ⟨id, hid, -⟩ := Option.map_eq_some_iff.1 (hvalue.2.1 huuid)
    exact ⟨id, hid⟩
  match hre with
  | .eq => exact List.forall_mem_singleton.2 (hliteral _ h.2)
  | .ne => exact List.forall_mem_singleton.2 (hliteral _ h.2)
  | .in before after => exact fun value hvalue => hliteral value (h.2 value hvalue)

/-- **The value of a test on an identifier**: whether its literals name it, and for `!=` whether
they do not. -/
theorem truth_eq_true_iff (hreads : ReadsSpellings clickHouse uuidParse) {spec : FieldSpec}
    {id : Uuid} (hcell : clickHouse.cell row spec.expression = .text (uuidText id))
    (hre : Respelled text text' test test')
    (hparse : ∀ value ∈ test.literals, ∃ id, uuidParse value.text = some id) :
    test.truth clickHouse row spec = some true ↔
      (test.Names id ↔ ∀ value, test ≠ .compare .ne value) := by
  match hre with
  | .eq =>
    obtain ⟨other, hother⟩ := hparse _ (List.mem_singleton.2 rfl)
    simp [Test.truth, Operator.isText, hcell, Cell.compare, Test.Names, Test.literals,
      eq_comm (a := uuidText id), hreads.bind_eq_iff hother]
  | .ne =>
    obtain ⟨other, hother⟩ := hparse _ (List.mem_singleton.2 rfl)
    simp [Test.truth, Operator.isText, hcell, Cell.compare, Test.Names, Test.literals,
      eq_comm (a := uuidText id), hreads.bind_eq_iff hother]
  | .in before after =>
    have hbind : ∀ value ∈ before ++ ⟨.string, text⟩ :: after,
        (clickHouse.bindText value.text = uuidText id ↔ value.text = uuidText id) := by
      intro value hvalue
      obtain ⟨other, hother⟩ := hparse value hvalue
      exact hreads.bind_eq_iff hother
    rw [Test.truth, hcell, Cell.isIn, Option.some.injEq, List.any_map, List.any_eq_true]
    simp only [Function.comp_apply, decide_eq_true_eq, ne_eq, reduceCtorEq, not_false_eq_true,
      implies_true, iff_true]
    exact exists_congr fun value => and_congr_right fun hvalue => hbind value hvalue

/-- Such a test is not undetermined. -/
theorem truth_ne_none_of_respelled {spec : FieldSpec} {id : Uuid}
    (hcell : clickHouse.cell row spec.expression = .text (uuidText id))
    (hre : Respelled text text' test test') : test.truth clickHouse row spec ≠ none := by
  match hre with
  | .eq => simp [Test.truth, Operator.isText, hcell, Cell.compare]
  | .ne => simp [Test.truth, Operator.isText, hcell, Cell.compare]
  | .in before after => simp [Test.truth, hcell, Cell.isIn]

theorem Respelled.symm (h : Respelled text text' test test') : Respelled text' text test' test := by
  match h with
  | .eq => exact .eq
  | .ne => exact .ne
  | .in before after => exact .in before after

theorem Respelled.accepted_iff {spec : FieldSpec} (h : Respelled text text' test test')
    (hsame : uuidParse text = uuidParse text') (hkind : spec.kind = .string) :
    test.Accepted (versionOf uuidParse) spec ↔ test'.Accepted (versionOf uuidParse) spec := by
  have hliteral : (⟨.string, text⟩ : QueryLiteral).Accepted (versionOf uuidParse) spec ↔
      (⟨.string, text'⟩ : QueryLiteral).Accepted (versionOf uuidParse) spec := by
    simp [QueryLiteral.Accepted, versionOf, hsame, hkind]
  match h with
  | .eq => exact and_congr_right' hliteral
  | .ne => exact and_congr_right' hliteral
  | .in before after =>
    simp only [Test.Accepted, ne_eq, List.append_eq_nil_iff, reduceCtorEq, and_false,
      not_false_eq_true, List.forall_mem_append, List.forall_mem_cons, hliteral]

/-- The two tests name the same identifiers, except for the one spelled. -/
theorem Respelled.names_iff {id other : Uuid} (h : Respelled text text' test test')
    (htext : uuidParse text = some id) (htext' : uuidParse text' = some id)
    (hreads : ReadsSpellings clickHouse uuidParse) (hne : other ≠ id) :
    test.Names other ↔ test'.Names other := by
  have hother : ∀ spelling, uuidParse spelling = some id → spelling ≠ uuidText other := by
    rintro _ hparse rfl
    exact hne (Option.some.inj ((hreads.parse_uuidText other).symm.trans hparse))
  have h1 := hother text htext
  have h2 := hother text' htext'
  match h with
  | .eq => simp [Test.Names, Test.literals, h1, h2]
  | .ne => simp [Test.Names, Test.literals, h1, h2]
  | .in before after =>
    simp only [Test.Names, Test.literals, List.mem_append, List.mem_cons, or_and_right, exists_or,
      exists_eq_left, h1, h2, false_or]

theorem Respelled.ne_iff (h : Respelled text text' test test') :
    (∀ value, test ≠ .compare .ne value) ↔ ∀ value, test' ≠ .compare .ne value := by
  match h with
  | .eq => simp
  | .ne => simp
  | .in before after => simp

/-- **One spelling of an identifier can replace another in every query exactly if the canonical text
is among the literals before and after**, where a predicate on a column of identifiers compares it
with `==`, `!=` or `in`. -/
theorem respelled_iff (hreads : ReadsSpellings clickHouse uuidParse) {field : GoString}
    {spec : FieldSpec} (hspec : fieldSpecOf field = some spec) (huuid : spec.uuid = true)
    {id : Uuid}
    (htext : uuidParse text = some id) (htext' : uuidParse text' = some id)
    (hre : Respelled text text' test test') {compiled : Option String × Values}
    (hcompiled : compileExpression (versionOf uuidParse) (some (.predicate field test)) =
      .ok compiled) :
    (∀ (context : QueryContext) (row : StoredRow),
      Selects clickHouse (versionOf uuidParse) (context.fill (.predicate field test)) row ↔
        Selects clickHouse (versionOf uuidParse) (context.fill (.predicate field test')) row) ↔
      (test.Names id ↔ test'.Names id) := by
  obtain ⟨entry, hentry, rfl⟩ := mem_of_fieldSpecOf hspec
  obtain ⟨column, hcolumn, hcell⟩ := exists_column clickHouse entry hentry huuid
  obtain ⟨spec, hspec', haccepted⟩ := accepted_of_compileExpression hcompiled
  obtain rfl := Option.some.inj (hspec.symm.trans hspec')
  have hkind := kind_of_uuid entry hentry huuid
  have haccepted' := (hre.accepted_iff (htext.trans htext'.symm) hkind).1 haccepted
  have hparse := exists_parse_of_accepted huuid hre haccepted
  have hparse' := exists_parse_of_accepted huuid hre.symm haccepted'
  have hquery : (QueryExpression.predicate field test).Accepted (versionOf uuidParse) :=
    ⟨_, hspec, haccepted⟩
  have hboth : (QueryExpression.predicate field test).Accepted (versionOf uuidParse) ↔
      (QueryExpression.predicate field test').Accepted (versionOf uuidParse) :=
    iff_of_true hquery ⟨_, hspec, haccepted'⟩
  -- the predicates agree on a row exactly if they both name its identifier, or neither does
  have htrue : ∀ row, (QueryExpression.predicate field test).truth clickHouse row = some true ↔
      (test.Names (column row) ↔ ∀ value, test ≠ .compare .ne value) := by
    intro row
    rw [QueryExpression.truth, hspec]
    exact truth_eq_true_iff hreads (hcell row) hre hparse
  have htrue' : ∀ row, (QueryExpression.predicate field test').truth clickHouse row = some true ↔
      (test'.Names (column row) ↔ ∀ value, test ≠ .compare .ne value) := by
    intro row
    rw [QueryExpression.truth, hspec, hre.ne_iff]
    exact truth_eq_true_iff hreads (hcell row) hre.symm hparse'
  constructor
  · intro h
    obtain ⟨row, hrow⟩ := hcolumn id
    have hselects : Selects clickHouse (versionOf uuidParse) (.predicate field test) row ↔
      Selects clickHouse (versionOf uuidParse) (.predicate field test') row := h .hole row
    rw [selects_iff hquery, selects_iff (hboth.1 hquery), htrue, htrue', hrow] at hselects
    tauto
  · intro h context row
    refine context.selects_fill hboth ?_
    have hnames : test.Names (column row) ↔ test'.Names (column row) := by
      by_cases hrow : column row = id
      · rw [hrow, h]
      · exact hre.names_iff htext htext' hreads hrow
    refine Truth.ext_of_ne_none ?_ ?_
      ((htrue row).trans ((iff_congr hnames Iff.rfl).trans (htrue' row).symm))
    · rw [QueryExpression.truth, hspec]
      exact truth_ne_none_of_respelled (hcell row) hre
    · rw [QueryExpression.truth, hspec]
      exact truth_ne_none_of_respelled (hcell row) hre.symm

/-! ## An identifier in upper case -/

/-- The 32 hexadecimal digits of a text, whatever stands between them. -/
def readUuid (text : GoString) : Option Uuid :=
  let digits := text.filterMap unhex
  if digits.length = 32 then some fun i => Fin.ofNat 16 (digits.getD i 0) else none

theorem unhex_digitChar : ∀ n : Fin 16, unhex (Nat.digitChar n).toNat.toUInt8 = some n.1 := by
  decide

/-- The groups of the digits, without the hyphens between them. -/
theorem join_groups (digits : GoString) : digits.take 8 ++ ((digits.drop 8).take 4 ++
    ((digits.drop 12).take 4 ++ ((digits.drop 16).take 4 ++ digits.drop 20))) = digits := by
  have hdrop : ∀ n, (digits.drop n).take 4 ++ digits.drop (n + 4) = digits.drop n := fun n => by
    rw [← List.drop_drop, List.take_append_drop]
  rw [hdrop 16, hdrop 12, hdrop 8, List.take_append_drop]

theorem filterMap_unhex_uuidText (id : Uuid) :
    (uuidText id).filterMap unhex = (List.finRange 32).map fun i => (id i : ℕ) := by
  have hdash : unhex 0x2d = none := rfl
  calc (uuidText id).filterMap unhex
      = ((List.finRange 32).map fun i => (Nat.digitChar (id i)).toNat.toUInt8).filterMap unhex := by
        conv => rhs; rw [← join_groups (List.map _ _)]
        simp only [uuidText, List.filterMap_append, List.filterMap_cons, hdash, List.append_assoc]
    _ = (List.finRange 32).map fun i => (id i : ℕ) := by
        rw [List.filterMap_map, ← List.filterMap_eq_map]
        exact List.filterMap_congr fun i _ => unhex_digitChar (id i)

theorem readUuid_uuidText (id : Uuid) : readUuid (uuidText id) = some id := by
  rw [readUuid, filterMap_unhex_uuidText]
  simp

theorem readsSpellings_sample : ReadsSpellings sampleClickHouse readUuid where
  parse_uuidText := readUuid_uuidText
  bind_uuidText _ := rfl
  eq_of_bind _ _ _ _ h := h

/-- An identifier of version 7. -/
def sampleUuid : Uuid := fun i => if i = 12 then 7 else 0xa

def lowerSpelling : GoString := bytes "aaaaaaaa-aaaa-7aaa-aaaa-aaaaaaaaaaaa"

def upperSpelling : GoString := bytes "AAAAAAAA-AAAA-7AAA-AAAA-AAAAAAAAAAAA"

/-- A search for an identifier. -/
def idQuery (text : GoString) : QueryExpression :=
  .predicate (bytes "normalized_event_id") (.compare .eq ⟨.string, text⟩)

theorem accepted_idQuery {text : GoString} (h : versionOf readUuid text = some 7) :
    (idQuery text).Accepted (versionOf readUuid) := by
  refine ⟨_, rfl, ?_⟩
  rw [Test.Accepted, if_neg (by decide)]
  exact ⟨fun _ => Or.inl rfl, rfl, fun _ => h, fun h => (by cases h)⟩

theorem version_spellings : versionOf readUuid lowerSpelling = some 7 ∧
    versionOf readUuid upperSpelling = some 7 := by decide +kernel

/-- **An identifier in upper case is taken, and not found.** -/
theorem not_selects_upperSpelling :
    readUuid lowerSpelling = readUuid upperSpelling ∧
    (∃ compiled, compileExpression (versionOf readUuid) (some (idQuery upperSpelling)) =
      .ok compiled) ∧
    Selects sampleClickHouse (versionOf readUuid) (idQuery lowerSpelling)
      { noActivityRow with normalizedEventId := sampleUuid } ∧
    ¬ Selects sampleClickHouse (versionOf readUuid) (idQuery upperSpelling)
      { noActivityRow with normalizedEventId := sampleUuid } := by
  obtain ⟨hlower, hupper⟩ := version_spellings
  rw [selects_iff (accepted_idQuery hlower), selects_iff (accepted_idQuery hupper)]
  exact ⟨by decide +kernel, ⟨_, compileExpression_of_accepted (accepted_idQuery hupper)⟩,
    by decide +kernel, by decide +kernel⟩

theorem respelled_upperSpelling :
    (∀ (context : QueryContext) (row : StoredRow),
      Selects sampleClickHouse (versionOf readUuid) (context.fill (idQuery lowerSpelling)) row ↔
        Selects sampleClickHouse (versionOf readUuid) (context.fill (idQuery upperSpelling)) row) ↔
      ((Test.compare .eq ⟨.string, lowerSpelling⟩).Names sampleUuid ↔
        (Test.compare .eq ⟨.string, upperSpelling⟩).Names sampleUuid) :=
  respelled_iff readsSpellings_sample rfl rfl (by decide +kernel) (by decide +kernel) .eq
    (compileExpression_of_accepted (accepted_idQuery version_spellings.1))

end Search

end Cerbero
