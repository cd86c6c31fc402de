import Mathlib.Logic.Basic

/-!
# Lib/ThreeValued — the truth of conditions over missing values

A comparison with a missing value is neither true nor false.  The connectives carry this through:
a conjunction is false as soon as one side is, a disjunction true as soon as one side is, and
anything else that needs an undetermined side is undetermined.  A filter keeps what is true.
-/

namespace Cerbero

namespace ThreeValued

/-- **A truth value**: `none` is undetermined. -/
abbrev Truth := Option Bool

namespace Truth

/-- The conjunction. -/
def and : Truth → Truth → Truth
  | some true, t => t
  | some false, _ => some false
  | none, some false => some false
  | none, _ => none

/-- The disjunction. -/
def or : Truth → Truth → Truth
  | some false, t => t
  | some true, _ => some true
  | none, some true => some true
  | none, _ => none

/-- The negation. -/
def not : Truth → Truth
  | some b => some !b
  | none => none

variable {t t' : Truth}

/-- A conjunction is true if both sides are. -/
@[simp] theorem and_eq_true : and t t' = some true ↔ t = some true ∧ t' = some true := by
  match t, t' with
  | some true, t' => simp [and]
  | some false, t' => simp [and]
  | none, some true => simp [and]
  | none, some false => simp [and]
  | none, none => simp [and]

/-- A conjunction is false as soon as one side is, whatever is unknown about the other. -/
@[simp] theorem and_eq_false : and t t' = some false ↔ t = some false ∨ t' = some false := by
  match t, t' with
  | some true, t' => simp [and]
  | some false, t' => simp [and]
  | none, some true => simp [and]
  | none, some false => simp [and]
  | none, none => simp [and]

/-- A negation is true if its condition is false; of an unknown one it is unknown again. -/
@[simp] theorem not_eq_true : not t = some true ↔ t = some false := by
  match t with
  | some true => simp [not]
  | some false => simp [not]
  | none => simp [not]

@[simp] theorem not_eq_false : not t = some false ↔ t = some true := by
  match t with
  | some true => simp [not]
  | some false => simp [not]
  | none => simp [not]

/-- De Morgan's law, which the disjunction's rules follow from. -/
theorem or_eq_not_and : or t t' = not (and (not t) (not t')) := by
  match t, t' with
  | some false, some b => simp [or, and, not]
  | some false, none => rfl
  | some true, t' => rfl
  | none, some true => rfl
  | none, some false => rfl
  | none, none => rfl

/-- A disjunction is true as soon as one side is, whatever is unknown about the other. -/
@[simp] theorem or_eq_true : or t t' = some true ↔ t = some true ∨ t' = some true := by
  simp [or_eq_not_and]

/-- A disjunction is false if both sides are. -/
@[simp] theorem or_eq_false : or t t' = some false ↔ t = some false ∧ t' = some false := by
  simp [or_eq_not_and]

/-- **Exactly one of a condition and its negation is true, unless it is undetermined.** -/
theorem xor_not_iff : Xor (t = some true) (not t = some true) ↔ t ≠ none := by
  match t with
  | some true => simp [not, Xor]
  | some false => simp [not, Xor]
  | none => simp [not, Xor]

/-- A known value is one of two. -/
theorem ne_none_iff : t ≠ none ↔ t = some true ∨ t = some false := by
  match t with
  | some true => simp
  | some false => simp
  | none => simp

/-- Two known values are equal if they are true together. -/
theorem ext_of_ne_none (h : t ≠ none) (h' : t' ≠ none)
    (htrue : t = some true ↔ t' = some true) : t = t' := by
  match t, t' with
  | some true, t' => exact (htrue.1 rfl).symm
  | t, some true => exact htrue.2 rfl
  | some false, some false => rfl
  | none, _ => exact absurd rfl h
  | _, none => exact absurd rfl h'

end Truth

end ThreeValued

end Cerbero
