import Mathlib.Data.List.Nodup
import Mathlib.Order.Defs.LinearOrder
import Mathlib.Order.Lattice
import Mathlib.Tactic.Common

/-!
# Lib/Keyset — reading an ordered list from a key on

Rows are ordered by a key, and a page starts after the key of the last row of the page before it.
The rows after a row are the rest of the list (**`filter_after`**), also if they are ordered only
after they were selected (**`orderBy_filter`**).
-/

namespace Cerbero

namespace Keyset

variable {α κ : Type} [LinearOrder κ] (key : α → κ)

/-- The rows in the order of their keys. -/
def orderBy (rows : List α) : List α := rows.mergeSort fun a b => decide (key a ≤ key b)

theorem orderBy_perm (rows : List α) : (orderBy key rows).Perm rows := List.mergeSort_perm _ _

theorem pairwise_le_orderBy (rows : List α) :
    (orderBy key rows).Pairwise fun a b => key a ≤ key b := by
  have h : (orderBy key rows).Pairwise fun a b => decide (key a ≤ key b) = true := by
    refine List.pairwise_mergeSort (fun a b d hab hbd => ?_) (fun a b => ?_) rows
    · exact decide_eq_true (le_trans (of_decide_eq_true hab) (of_decide_eq_true hbd))
    · simpa using le_total (key a) (key b)
  exact h.imp fun hab => of_decide_eq_true hab

variable {key}

/-- Rows with different keys are ordered strictly. -/
theorem pairwise_orderBy {rows : List α} (hnodup : (rows.map key).Nodup) :
    (orderBy key rows).Pairwise fun a b => key a < key b := by
  have hkeys : (orderBy key rows).Pairwise fun a b => key a ≠ key b :=
    List.pairwise_map.1 (((orderBy_perm key rows).map key).nodup_iff.2 hnodup)
  exact ((pairwise_le_orderBy key rows).and hkeys).imp fun h => lt_of_le_of_ne h.1 h.2

/-- **Selecting rows and ordering them is selecting from the ordered rows.** -/
theorem orderBy_filter {rows : List α} (hnodup : (rows.map key).Nodup) (p : α → Bool) :
    orderBy key (rows.filter p) = (orderBy key rows).filter p := by
  have hperm : (orderBy key (rows.filter p)).Perm ((orderBy key rows).filter p) :=
    (orderBy_perm key _).trans ((orderBy_perm key rows).filter p).symm
  have hkeys : ((rows.filter p).map key).Nodup :=
    hnodup.sublist ((List.filter_sublist).map key)
  refine hperm.eq_of_pairwise (fun a b _ _ hab hba => ?_) (pairwise_orderBy hkeys)
    ((pairwise_orderBy hnodup).filter p)
  exact absurd hba (lt_asymm hab)

/-- **What comes after a row of an ordered list is the rest of the list.** -/
theorem filter_after {front rest : List α} {row : α}
    (h : (front ++ row :: rest).Pairwise fun a b => key a < key b) :
    (front ++ row :: rest).filter (fun other => decide (key row < key other)) = rest := by
  rw [List.pairwise_append] at h
  obtain ⟨-, htail, hfront⟩ := h
  have hbefore : front.filter (fun other => decide (key row < key other)) = [] := by
    refine List.filter_eq_nil_iff.2 fun other hmem => ?_
    simpa using le_of_lt (hfront other hmem row List.mem_cons_self)
  have hafter : rest.filter (fun other => decide (key row < key other)) = rest :=
    List.filter_eq_self.2 fun other hmem => decide_eq_true (List.rel_of_pairwise_cons htail hmem)
  rw [List.filter_append, hbefore, List.filter_cons_of_neg (by simp), hafter, List.nil_append]

end Keyset

end Cerbero
