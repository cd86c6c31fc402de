import Cerbero.Lib.JsonTree
import Cerbero.Normalizer.Journald

/-!
# Normalizer/JsonLimits — what `validate_json_tree` enforces

The visit goes through the tree with a running count of the members and stops at the first limit
that is passed.  It succeeds exactly if every node is within the limits for itself and the members
of the whole tree are within theirs (**`validateJsonTree_iff`**).

A step adds to the count what a part of the tree has and succeeds under a condition on that part
(`Counted`); a part after another one adds up with it (`counted_bind`), because a count that has
passed the limit never comes back.
-/

namespace Cerbero

namespace Normalizer

open Text Json

/-! ## The limits -/

/-- A value that is held in memory: every member has bytes of its own, so there are fewer members
than addresses and a `usize` counts them. -/
structure HeldJson where
  value : Json
  countable : memberTotal (nodes 0 value) < UInt64.size

/-- **The limits** on a value and everything in it. -/
structure WithinLimits (limits : ParserLimits) (value : Json) : Prop where
  depth : ∀ node ∈ nodes 0 value, node.1 ≤ limits.maxDepth
  array : ∀ depth values, (depth, .array values) ∈ nodes 0 value →
    values.length ≤ limits.maxCollectionLength
  object : ∀ depth members, (depth, .object members) ∈ nodes 0 value →
    members.length ≤ limits.maxCollectionLength
  fields : memberTotal (nodes 0 value) ≤ limits.maxFields
  string : ∀ depth text, (depth, .string text) ∈ nodes 0 value →
    (bytes text).length ≤ limits.maxStringBytes
  number : ∀ depth text, (depth, .number text) ∈ nodes 0 value →
    (bytes text).length ≤ limits.maxStringBytes
  key : ∀ depth members, (depth, .object members) ∈ nodes 0 value →
    ∀ member ∈ members, (bytes member.1).length ≤ limits.maxStringBytes

section

variable (limits : ParserLimits)

/-- The limits on a value for itself. -/
def ValueFits : Json → Prop
  | .null => True
  | .bool _ => True
  | .number text => (bytes text).length ≤ limits.maxStringBytes
  | .string text => (bytes text).length ≤ limits.maxStringBytes
  | .array values => values.length ≤ limits.maxCollectionLength
  | .object members => members.length ≤ limits.maxCollectionLength ∧
      ∀ member ∈ members, (bytes member.1).length ≤ limits.maxStringBytes

/-- The limits on a node. -/
def NodeFits (node : ℕ × Json) : Prop := node.1 ≤ limits.maxDepth ∧ ValueFits limits node.2

/-! ## Counting -/

/-- The outcome adds `total` to the count if `P` holds and the sum is within the limit, and is an
error else. -/
def Counted (count total : ℕ) (P : Prop) (x : Except ParseError ℕ) : Prop :=
  ∀ count', x = .ok count' ↔ P ∧ count + total ≤ limits.maxFields ∧ count + total = count'

variable {limits} {count total more : ℕ} {P Q : Prop} {x : Except ParseError ℕ}

theorem counted_ok (h : count ≤ limits.maxFields) : Counted limits count 0 True (.ok count) := by
  intro count'
  rw [Nat.add_zero, true_and, and_iff_right h, Except.ok.injEq]

theorem Counted.congr (h : Counted limits count total P x) (hiff : P ↔ Q) :
    Counted limits count total Q x := by
  obtain rfl := propext hiff
  exact h

/-- A check before a step. -/
theorem counted_guard {c : Prop} [Decidable c] {e : ParseError}
    (h : Counted limits count total P x) :
    Counted limits count total (¬ c ∧ P) (if c then .error e else x) := by
  intro count'
  by_cases hc : c
  · rw [if_pos hc]
    exact iff_of_false (fun h => nomatch h) fun h => h.1.1 hc
  · rw [if_neg hc, h count', and_iff_right hc]

/-- **One step after another.** -/
theorem counted_bind {f : ℕ → Except ParseError ℕ} (hx : Counted limits count total P x)
    (hf : count + total ≤ limits.maxFields →
      Counted limits (count + total) more Q (f (count + total))) :
    Counted limits count (total + more) (P ∧ Q) (x >>= f) := by
  intro count'
  rw [bind_eq_ok, ← Nat.add_assoc]
  constructor
  · rintro ⟨count₁, hcount₁, hrest⟩
    obtain ⟨hP, hle, rfl⟩ := (hx count₁).1 hcount₁
    obtain ⟨hQ, hsum, heq⟩ := (hf hle count').1 hrest
    exact ⟨⟨hP, hQ⟩, hsum, heq⟩
  · rintro ⟨⟨hP, hQ⟩, hsum, heq⟩
    -- the count was within the limit before the second step
    have hle : count + total ≤ limits.maxFields := (Nat.le_add_right _ _).trans hsum
    exact ⟨count + total, (hx _).2 ⟨hP, hle, rfl⟩, (hf hle count').2 ⟨hQ, hsum, heq⟩⟩

/-- The check of a count that grew. -/
theorem counted_grow {sum : ℕ} {e : ParseError} (hsum : sum = count + total)
    (h : sum ≤ limits.maxFields → Counted limits sum more P x) :
    Counted limits count (total + more) P (if limits.maxFields < sum then .error e else x) := by
  subst hsum
  intro count'
  rw [← Nat.add_assoc]
  by_cases hle : count + total ≤ limits.maxFields
  · rw [if_neg (Nat.not_lt.2 hle), h hle count']
  · rw [if_pos (Nat.lt_of_not_le hle)]
    exact iff_of_false (fun h => nomatch h)
      fun h => hle ((Nat.le_add_right _ _).trans h.2.1)

/-- A step after a check. -/
theorem counted_then {f : ℕ → Except ParseError ℕ} (hx : Counted limits count 0 P x)
    (hf : Counted limits count total Q (f count)) :
    Counted limits count total (P ∧ Q) (x >>= f) := by
  have hbind := counted_bind hx fun _ => hf
  rwa [Nat.zero_add] at hbind

theorem counted_checkDepth {depth : ℕ} (h : count ≤ limits.maxFields) :
    Counted limits count 0 (depth ≤ limits.maxDepth) (checkDepth limits depth count) :=
  (counted_guard (counted_ok h)).congr (by rw [and_true, not_lt])

/-! ## The visit -/

theorem forall_nodes_leaf {depth : ℕ} {value : Json} (h : nodes depth value = [(depth, value)]) :
    (∀ node ∈ nodes depth value, NodeFits limits node) ↔
      depth ≤ limits.maxDepth ∧ ValueFits limits value := by
  rw [h, List.forall_mem_singleton, NodeFits]

variable (limits)

mutual

/-- **What a visit adds up and asks for.** -/
theorem counted_visit (depth : ℕ) : ∀ (value : Json) (count : ℕ), count ≤ limits.maxFields →
    count + memberTotal (nodes depth value) < UInt64.size →
    Counted limits count (memberTotal (nodes depth value))
      (∀ node ∈ nodes depth value, NodeFits limits node) (visit limits depth value count)
  | .null, count, h, _ =>
      (counted_checkDepth h).congr (by rw [forall_nodes_leaf rfl, ValueFits, and_true])
  | .bool _, count, h, _ =>
      (counted_checkDepth h).congr (by rw [forall_nodes_leaf rfl, ValueFits, and_true])
  | .number text, count, h, _ => by
      refine (counted_then (counted_checkDepth h) (counted_guard (counted_ok h))).congr ?_
      rw [forall_nodes_leaf rfl, and_true, not_lt, ValueFits]
  | .string text, count, h, _ => by
      refine (counted_then (counted_checkDepth h) (counted_guard (counted_ok h))).congr ?_
      rw [forall_nodes_leaf rfl, and_true, not_lt, ValueFits]
  | .array values, count, h, hfits => by
      rw [memberTotal_nodes_array] at hfits ⊢
      refine (counted_then (counted_checkDepth h)
        (counted_guard (counted_visitValues (depth + 1) values count h hfits))).congr ?_
      rw [nodes, List.forall_mem_cons, NodeFits, ValueFits, not_lt, and_assoc]
  | .object members, count, h, hfits => by
      rw [memberTotal_nodes_object] at hfits ⊢
      rw [← Nat.add_assoc] at hfits
      have hsum : saturatingAdd count members.length = count + members.length :=
        saturatingAdd_eq ((Nat.le_add_right _ _).trans_lt hfits)
      refine (counted_then (counted_checkDepth h) (counted_guard (counted_grow hsum fun hle =>
        counted_visitMembers (depth + 1) members _ hle (hsum ▸ hfits)))).congr ?_
      rw [nodes, List.forall_mem_cons, NodeFits, ValueFits, not_lt, and_assoc, and_assoc]

theorem counted_visitValues (depth : ℕ) : ∀ (values : List Json) (count : ℕ),
    count ≤ limits.maxFields → count + memberTotal (nodesOfValues depth values) < UInt64.size →
    Counted limits count (memberTotal (nodesOfValues depth values))
      (∀ node ∈ nodesOfValues depth values, NodeFits limits node)
      (visitValues limits depth values count)
  | [], count, h, _ => (counted_ok h).congr (by simp [nodesOfValues])
  | value :: values, count, h, hfits => by
      rw [nodesOfValues, memberTotal_append, ← Nat.add_assoc] at hfits
      rw [nodesOfValues, memberTotal_append, List.forall_mem_append]
      exact counted_bind (counted_visit depth value count h ((Nat.le_add_right _ _).trans_lt hfits))
        fun hle => counted_visitValues depth values _ hle hfits

theorem counted_visitMembers (depth : ℕ) : ∀ (members : List (String × Json)) (count : ℕ),
    count ≤ limits.maxFields → count + memberTotal (nodesOfMembers depth members) < UInt64.size →
    Counted limits count (memberTotal (nodesOfMembers depth members))
      ((∀ member ∈ members, (bytes member.1).length ≤ limits.maxStringBytes) ∧
        ∀ node ∈ nodesOfMembers depth members, NodeFits limits node)
      (visitMembers limits depth members count)
  | [], count, h, _ => (counted_ok h).congr (by simp [nodesOfMembers])
  | member :: members, count, h, hfits => by
      rw [nodesOfMembers, memberTotal_append, ← Nat.add_assoc] at hfits
      rw [nodesOfMembers, memberTotal_append, List.forall_mem_append, List.forall_mem_cons]
      refine (counted_bind
        (counted_visitMember depth member count h ((Nat.le_add_right _ _).trans_lt hfits))
        fun hle => counted_visitMembers depth members _ hle hfits).congr ?_
      exact and_and_and_comm

theorem counted_visitMember (depth : ℕ) : ∀ (member : String × Json) (count : ℕ),
    count ≤ limits.maxFields → count + memberTotal (nodesOfMember depth member) < UInt64.size →
    Counted limits count (memberTotal (nodesOfMember depth member))
      ((bytes member.1).length ≤ limits.maxStringBytes ∧
        ∀ node ∈ nodesOfMember depth member, NodeFits limits node)
      (visitMember limits depth member count)
  | (key, value), count, h, hfits =>
      (counted_guard (counted_visit depth value count h hfits)).congr (by rw [not_lt]; rfl)

end

/-! ## The tree -/

variable {limits}

theorem withinLimits_iff {value : Json} :
    WithinLimits limits value ↔ (∀ node ∈ nodes 0 value, NodeFits limits node) ∧
      memberTotal (nodes 0 value) ≤ limits.maxFields := by
  constructor
  · intro h
    refine ⟨fun ⟨depth, node⟩ hnode => ⟨h.depth _ hnode, ?_⟩, h.fields⟩
    cases node with
    | null => exact trivial
    | bool flag => exact trivial
    | number text => exact h.number depth text hnode
    | string text => exact h.string depth text hnode
    | array values => exact h.array depth values hnode
    | object members => exact ⟨h.object depth members hnode, h.key depth members hnode⟩
  · rintro ⟨hnodes, hfields⟩
    exact
      { depth := fun node hnode => (hnodes node hnode).1
        array := fun depth values hnode => (hnodes _ hnode).2
        object := fun depth members hnode => (hnodes _ hnode).2.1
        fields := hfields
        string := fun depth text hnode => (hnodes _ hnode).2
        number := fun depth text hnode => (hnodes _ hnode).2
        key := fun depth members hnode => (hnodes _ hnode).2.2 }

/-- **A tree is validated node by node**, with one total. -/
theorem validateJsonTree_eq_ok {value : Json} (h : memberTotal (nodes 0 value) < UInt64.size) :
    validateJsonTree limits value = .ok () ↔ (∀ node ∈ nodes 0 value, NodeFits limits node) ∧
      memberTotal (nodes 0 value) ≤ limits.maxFields := by
  have hcounted := counted_visit limits 0 value 0 (Nat.zero_le _) ((Nat.zero_add _).trans_lt h)
  rw [validateJsonTree, bind_eq_ok]
  constructor
  · rintro ⟨count, hvisit, -⟩
    obtain ⟨hnodes, hfields, -⟩ := (hcounted count).1 hvisit
    rw [Nat.zero_add] at hfields
    exact ⟨hnodes, hfields⟩
  · rintro ⟨hnodes, hfields⟩
    exact ⟨_, (hcounted _).2 ⟨hnodes, (Nat.zero_add _).trans_le hfields, rfl⟩, rfl⟩

end

/-- **The limits are enforced exactly.** -/
theorem validateJsonTree_iff (limits : ParserLimits) (document : HeldJson) :
    validateJsonTree limits document.value = .ok () ↔ WithinLimits limits document.value := by
  rw [validateJsonTree_eq_ok document.countable, withinLimits_iff]

end Normalizer

end Cerbero
