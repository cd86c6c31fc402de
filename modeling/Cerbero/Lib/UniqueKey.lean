import Mathlib.Logic.Function.Basic
import Mathlib.Tactic.Common

/-!
# Lib/UniqueKey — keys of rows that are not committed yet

A transaction that has inserted a row and not committed it holds its key: an insert of the same key
waits until the holder is through.  So a key that is held has no committed row, and no two
transactions hold the same one.  **`Exclusive.update`** is the one step: transaction `i` takes a free
key, gives up its key, or commits its row.
-/

namespace Cerbero

variable {K : Type}

/-- **Keys held by transactions, and keys of committed rows.** -/
structure Exclusive (held : ℕ → Option K) (taken : K → Prop) : Prop where
  fresh : ∀ i k, held i = some k → ¬ taken k
  unique : ∀ i j k, held i = some k → held j = some k → i = j

theorem exclusive_none {taken : K → Prop} : Exclusive (fun _ => none) taken :=
  ⟨fun _ _ h => (nomatch h), fun _ _ _ h => (nomatch h)⟩

/-- **Transaction `i` moves**: it holds a free key or none, and only the key it held may have become
that of a committed row. -/
theorem Exclusive.update {held held' : ℕ → Option K} {taken taken' : K → Prop} {i : ℕ}
    (h : Exclusive held taken) (hothers : ∀ j, j ≠ i → held' j = held j)
    (hfree : ∀ k, held' i = some k → ¬ taken' k ∧ ∀ j, j ≠ i → held j ≠ some k)
    (htaken : ∀ k, taken' k → taken k ∨ held i = some k) : Exclusive held' taken' := by
  have hcases : ∀ j k, held' j = some k → j = i ∨ j ≠ i ∧ held j = some k := by
    intro j k hj
    by_cases hji : j = i
    · exact .inl hji
    · exact .inr ⟨hji, hothers j hji ▸ hj⟩
  refine ⟨fun j k hj hk => ?_, fun j j' k hj hj' => ?_⟩
  · obtain rfl | ⟨hne, hheld⟩ := hcases j k hj
    · exact (hfree k hj).1 hk
    · obtain hold | hi := htaken k hk
      · exact h.fresh j k hheld hold
      · exact hne (h.unique j i k hheld hi)
  · obtain rfl | ⟨hne, hheld⟩ := hcases j k hj
    · obtain rfl | ⟨hne', hheld'⟩ := hcases j' k hj'
      · rfl
      · exact absurd hheld' ((hfree k hj).2 j' hne')
    · obtain rfl | ⟨-, hheld'⟩ := hcases j' k hj'
      · exact absurd hheld ((hfree k hj').2 j hne)
      · exact h.unique j j' k hheld hheld'

end Cerbero
