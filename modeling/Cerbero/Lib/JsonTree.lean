import Mathlib.Algebra.GroupWithZero.Nat
import Cerbero.Lib.Json

/-!
# Lib/JsonTree — the nodes of a JSON value

A value is a tree whose nodes are the value itself and those of its elements or members, one deeper
(`nodes`).  A global condition on the tree is one on the list of its nodes, and the members of all
its objects are counted along it (`memberTotal`).
-/

namespace Cerbero

namespace Json

mutual

/-- The nodes of a value at a depth, with their depths. -/
def nodes (depth : ℕ) : Json → List (ℕ × Json)
  | .null => [(depth, .null)]
  | .bool flag => [(depth, .bool flag)]
  | .number text => [(depth, .number text)]
  | .string text => [(depth, .string text)]
  | .array values => (depth, .array values) :: nodesOfValues (depth + 1) values
  | .object members => (depth, .object members) :: nodesOfMembers (depth + 1) members

/-- The nodes under the values of an array, each subtree after the one before it. -/
def nodesOfValues (depth : ℕ) : List Json → List (ℕ × Json)
  | [] => []
  | value :: values => nodes depth value ++ nodesOfValues depth values

/-- The nodes under the members of an object; a name by itself is no node. -/
def nodesOfMembers (depth : ℕ) : List (String × Json) → List (ℕ × Json)
  | [] => []
  | member :: members => nodesOfMember depth member ++ nodesOfMembers depth members

/-- The nodes under one member, at the depth of the object's members. -/
def nodesOfMember (depth : ℕ) : String × Json → List (ℕ × Json)
  | (_, value) => nodes depth value

end

/-- A node under an array is a node under one of its values, at the same depth. -/
theorem mem_nodesOfValues {depth : ℕ} {node : ℕ × Json} {values : List Json} :
    node ∈ nodesOfValues depth values ↔ ∃ value ∈ values, node ∈ nodes depth value := by
  induction values with
  | nil => simp [nodesOfValues]
  | cons value values ih =>
    simp only [nodesOfValues, List.mem_append, ih, List.mem_cons, exists_eq_or_imp]

/-! ## Members -/

/-- The members a value has itself. -/
def ownMembers : Json → ℕ
  | .object members => members.length
  | _ => 0

/-- The members of all objects among some nodes. -/
def memberTotal (tree : List (ℕ × Json)) : ℕ := (tree.map fun node => ownMembers node.2).sum

@[simp] theorem memberTotal_nil : memberTotal [] = 0 := rfl

/-- The members of a list of nodes are counted node by node. -/
@[simp] theorem memberTotal_cons (node : ℕ × Json) (tree : List (ℕ × Json)) :
    memberTotal (node :: tree) = ownMembers node.2 + memberTotal tree := List.sum_cons

@[simp] theorem memberTotal_append (tree more : List (ℕ × Json)) :
    memberTotal (tree ++ more) = memberTotal tree + memberTotal more := by
  rw [memberTotal, List.map_append, List.sum_append]
  rfl

/-- An array has no members of its own, so its total is the one of its values. -/
theorem memberTotal_nodes_array (depth : ℕ) (values : List Json) :
    memberTotal (nodes depth (.array values)) = memberTotal (nodesOfValues (depth + 1) values) :=
  (memberTotal_cons _ _).trans (Nat.zero_add _)

/-- An object adds its own members to the ones further down. -/
theorem memberTotal_nodes_object (depth : ℕ) (members : List (String × Json)) :
    memberTotal (nodes depth (.object members)) =
      members.length + memberTotal (nodesOfMembers (depth + 1) members) :=
  memberTotal_cons _ _

end Json

end Cerbero
