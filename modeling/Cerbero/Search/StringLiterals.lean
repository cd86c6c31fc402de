import Mathlib.Data.List.Sort
import Mathlib.Data.String.Basic
import Cerbero.Search.ClickHouse
import Cerbero.Lib.Urlencoded
import Cerbero.Lib.TabSeparated

/-!
# Search/StringLiterals — the value ClickHouse binds to a string literal

The parameters of a search go into the query of a URL, which ClickHouse takes apart and whose
`param_` values it reads as escaped texts.  The URL gives back every literal; the reading changes it
unless it has no backslash, tab or line feed (`boundString_eq_iff`).
-/

namespace Cerbero

namespace Search

open Text

/-! ## The request -/

/-- What `queryRows` sends: the parameters, the statement, and the time limit. -/
def requestParameters (statement : String) (parameters : Values) : Values :=
  (parameters.set "query" (bytes statement)).set "max_execution_time" (bytes "4")

/-- `Values.Encode`: in the order of the names. -/
def Values.encode (values : Values) : GoString :=
  Urlencoded.encode ((values.insertionSort fun entry entry' => entry.1 ≤ entry'.1).map
    fun entry => (bytes entry.1, entry.2))

/-- **The value ClickHouse binds to a placeholder of type `String`**, if it can read it. -/
def boundString (query : GoString) (name : String) : Option GoString :=
  ((Urlencoded.decode query).find? fun field => field.1 = bytes ("param_" ++ name)).bind
    fun field => TabSeparated.decode field.2

/-- A parameter whose name occurs once is read from its value. -/
theorem boundString_encode {values : Values} {name : String} {value : GoString}
    (hnodup : (values.map Prod.fst).Nodup) (hmem : ("param_" ++ name, value) ∈ values) :
    boundString values.encode name = TabSeparated.decode value := by
  have hperm := values.perm_insertionSort fun entry entry' => entry.1 ≤ entry'.1
  have hfields : (((values.insertionSort fun entry entry' => entry.1 ≤ entry'.1).map
      fun entry => (bytes entry.1, entry.2)).map Prod.fst).Nodup := by
    rw [List.map_map]
    have := ((hperm.map Prod.fst).nodup_iff.2 hnodup).map bytes_injective
    rwa [List.map_map] at this
  have hfield : (bytes ("param_" ++ name), value) ∈
      (values.insertionSort fun entry entry' => entry.1 ≤ entry'.1).map
        fun entry => (bytes entry.1, entry.2) :=
    List.mem_map_of_mem (f := fun entry : String × GoString => (bytes entry.1, entry.2))
      (hperm.mem_iff.2 hmem)
  rw [boundString, Values.encode, Urlencoded.decode_encode (List.ne_nil_of_mem hfield),
    find?_of_nodup hfields hfield]
  rfl

/-- The names `queryRows` sets. -/
def requestNames : List String := ["query", "max_execution_time"]

theorem parameterName_not_request (n : ℕ) : "param_" ++ parameterName n ∉ requestNames := by
  intro hmem
  have hfirst : ∀ name ∈ requestNames, name.toList.head? ≠ some 'p' := by decide
  exact hfirst _ hmem (by simp)

/-- **The parameters of a request**: those of the search and two more, no name twice. -/
theorem requestParameters_bound (literals : List QueryLiteral) (statement : String)
    (tenantId : GoString) (fromTime toTime : ℤ × ℤ) (cursor : Option (ℤ × ℤ × GoString)) :
    ∃ more : Values, requestParameters statement
        (searchParameters (bound 0 literals) tenantId fromTime toTime cursor) =
        bound 0 literals ++ more ∧ ((bound 0 literals ++ more).map Prod.fst).Nodup := by
  obtain ⟨hsearch, hnodup⟩ := searchParameters_bound literals tenantId fromTime toTime cursor
  have hreserved : ∀ name ∈ reservedNames, name ∉ requestNames := by decide
  have hnew : ∀ name ∈ (bound 0 literals ++ reserved tenantId fromTime toTime cursor).map Prod.fst,
      name ∉ requestNames := by
    intro name hname
    rw [List.map_append, List.mem_append] at hname
    obtain hname | hname := hname
    · obtain ⟨i, -, rfl⟩ := mem_names_bound hname
      exact parameterName_not_request i
    · exact hreserved name ((names_reserved tenantId fromTime toTime cursor).subset hname)
  have hset := foldl_set [("query", bytes statement), ("max_execution_time", bytes "4")] _
    (show requestNames.Nodup by decide) hnew
  refine ⟨reserved tenantId fromTime toTime cursor ++
    [("query", bytes statement), ("max_execution_time", bytes "4")], ?_, ?_⟩
  · rw [hsearch, ← List.append_assoc, ← hset]
    rfl
  · rw [← List.append_assoc, List.map_append]
    exact hnodup.append (show requestNames.Nodup by decide) hnew

/-- The value bound to the placeholder of a literal is the text read with its escapes. -/
theorem boundString_literal {literals : List QueryLiteral} {i : ℕ} {value : QueryLiteral}
    (h : literals[i]? = some value) (statement : String) (tenantId : GoString)
    (fromTime toTime : ℤ × ℤ) (cursor : Option (ℤ × ℤ × GoString)) :
    boundString (requestParameters statement
      (searchParameters (bound 0 literals) tenantId fromTime toTime cursor)).encode
        (parameterName i) = TabSeparated.decode value.text := by
  obtain ⟨more, hrequest, hnodup⟩ :=
    requestParameters_bound literals statement tenantId fromTime toTime cursor
  rw [hrequest]
  exact boundString_encode hnodup (List.mem_append_left _ (mem_bound h))

/-- **ClickHouse binds a string literal to its own text exactly if the text has no backslash, tab or
line feed**, whatever operator the literal stands with.  The literals of a query have the
placeholders `q0`, `q1`, … in their order. -/
theorem boundString_eq_iff {uuidVersion : GoString → Option ℕ} {expression : QueryExpression}
    {condition : Option String} {values : Values} {i : ℕ} {text : GoString}
    (hcompiled : compileExpression uuidVersion (some expression) = .ok (condition, values))
    (hliteral : expression.literals[i]? = some ⟨.string, text⟩) (statement : String)
    (tenantId : GoString) (fromTime toTime : ℤ × ℤ) (cursor : Option (ℤ × ℤ × GoString)) :
    boundString (requestParameters statement
      (searchParameters values tenantId fromTime toTime cursor)).encode (parameterName i) =
        some text ↔ ∀ b ∈ text, TabSeparated.Plain b := by
  obtain ⟨-, rfl⟩ := Prod.mk.inj (compileExpression_eq_ok hcompiled)
  rw [← TabSeparated.decode_eq_self_iff]
  have hbound := boundString_literal hliteral statement tenantId fromTime toTime cursor
  exact iff_of_eq (congrArg (· = some text) hbound)

/-! ## A path -/

/-- `message contains "C:\\temp"`. -/
def pathQuery : QueryExpression :=
  .predicate (bytes "message") (.compare .contains ⟨.string, bytes "C:\\temp"⟩)

theorem accepted_pathQuery : pathQuery.Accepted fun _ => none := ⟨_, rfl, rfl, rfl⟩

/-- **The path is bound with a tab in place of its backslash and the letter after it.** -/
theorem boundString_pathQuery :
    parseQuery (bytes "message contains \"C:\\\\temp\"") = .ok (some pathQuery) ∧
    ∃ condition values,
      compileExpression (fun _ => none) (some pathQuery) = .ok (condition, values) ∧
      ∀ statement tenantId fromTime toTime cursor,
        boundString (requestParameters statement
          (searchParameters values tenantId fromTime toTime cursor)).encode "q0" =
            some (bytes "C:\temp") ∧
        bytes "C:\temp" ≠ bytes "C:\\temp" := by
  refine ⟨by decide +kernel, _, _, compileExpression_of_accepted accepted_pathQuery, ?_⟩
  intro statement tenantId fromTime toTime cursor
  have hliteral : pathQuery.literals[0]? = some ⟨.string, bytes "C:\\temp"⟩ := rfl
  exact ⟨(boundString_literal hliteral statement tenantId fromTime toTime cursor).trans
    (by decide +kernel), by decide⟩

theorem boundString_eq_iff_pathQuery :
    boundString (requestParameters "" (searchParameters (bound 0 pathQuery.literals) [] (0, 0)
      (1, 0) none)).encode "q0" = some (bytes "C:\\temp") ↔
        ∀ b ∈ bytes "C:\\temp", TabSeparated.Plain b :=
  boundString_eq_iff (i := 0) (compileExpression_of_accepted accepted_pathQuery) rfl "" [] (0, 0)
    (1, 0) none

end Search

end Cerbero
