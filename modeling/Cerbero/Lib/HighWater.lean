import Mathlib.Data.Set.Lattice
import Mathlib.Order.CompletePartialOrder
import Mathlib.Order.Interval.Set.Basic

/-!
# Lib/HighWater — a high-water mark and what it passes over

A high-water mark keeps the greatest of the values it has seen (`highWater`).  A value above the
mark raises it, and a raise from `m` to `v` passes over what lies strictly between them.  These
stretches do not overlap (**`pairwise_disjoint_raises`**), and together they are what the mark
passed without having seen it (**`exists_mem_raises_iff`**).
-/

namespace Cerbero

namespace HighWater

variable {α : Type} [LinearOrder α]

/-- The mark after a value. -/
def raise : Option α → α → Option α
  | none, v => some v
  | some m, v => some (max m v)

/-- The mark after some values. -/
def highWater (mark : Option α) (values : List α) : Option α := values.foldl raise mark

theorem highWater_append (mark : Option α) (values more : List α) :
    highWater mark (values ++ more) = highWater (highWater mark values) more := List.foldl_append

theorem highWater_some (m : α) (values : List α) :
    highWater (some m) values = some (values.foldl max m) := by
  induction values generalizing m with
  | nil => rfl
  | cons v values ih => exact ih (max m v)

/-- **The mark is the maximum.** -/
theorem highWater_none (values : List α) : highWater none values = values.max? := by
  cases values with
  | nil => rfl
  | cons v values => exact highWater_some v values

/-! ## Raises -/

/-- The raises of the mark: where it was and where it went. -/
def raises : Option α → List α → List (α × α)
  | _, [] => []
  | none, v :: values => raises (some v) values
  | some m, v :: values =>
    if m < v then (m, v) :: raises (some v) values else raises (some m) values

theorem raises_append (mark : Option α) (values more : List α) :
    raises mark (values ++ more) = raises mark values ++ raises (highWater mark values) more := by
  induction values generalizing mark with
  | nil => cases mark <;> rfl
  | cons v values ih =>
    cases mark with
    | none => exact ih (some v)
    | some m =>
      rw [List.cons_append, raises, raises, highWater, List.foldl_cons, raise]
      split_ifs with h
      · rw [max_eq_right h.le, ih, List.cons_append, highWater]
      · rw [max_eq_left (not_lt.1 h), ih, highWater]

theorem le_of_mem_raises {m : α} {values : List α} {pair : α × α}
    (h : pair ∈ raises (some m) values) : m ≤ pair.1 := by
  induction values generalizing m with
  | nil => exact nomatch h
  | cons v values ih =>
    rw [raises] at h
    split_ifs at h with hlt
    · obtain rfl | h := List.mem_cons.1 h
      · exact le_rfl
      · exact hlt.le.trans (ih h)
    · exact ih h

/-- A later raise begins where the earlier one ended, or above. -/
theorem pairwise_raises (m : α) (values : List α) :
    (raises (some m) values).Pairwise fun pair pair' => pair.2 ≤ pair'.1 := by
  induction values generalizing m with
  | nil => exact List.Pairwise.nil
  | cons v values ih =>
    rw [raises]
    split_ifs
    · exact List.pairwise_cons.2 ⟨fun _ => le_of_mem_raises, ih v⟩
    · exact ih m

theorem disjoint_Ioo_of_le {a b c d : α} (h : b ≤ c) : Disjoint (Set.Ioo a b) (Set.Ioo c d) :=
  Set.disjoint_left.2 fun _ hx hx' => ((hx.2.trans_le h).trans hx'.1).false

/-- **No two raises pass over the same.** -/
theorem pairwise_disjoint_raises (values : List α) :
    (raises none values).Pairwise fun pair pair' =>
      Disjoint (Set.Ioo pair.1 pair.2) (Set.Ioo pair'.1 pair'.2) := by
  cases values with
  | nil => exact List.Pairwise.nil
  | cons v values => exact (pairwise_raises v values).imp disjoint_Ioo_of_le

/-! ## What the mark passes over -/

/-- The mark of the values passed `x`, which was not among them. -/
def PassedOver (values : List α) (x : α) : Prop :=
  ∃ before v after, values = before ++ v :: after ∧ (∀ w ∈ before, w < x) ∧ x ≤ v ∧
    x ∉ before ++ [v]

theorem not_passedOver_nil {x : α} : ¬ PassedOver [] x := by
  rintro ⟨before, v, after, h, -⟩
  exact nomatch List.append_eq_nil_iff.1 h.symm

/-- The first value passes over what is below it, the others what is above. -/
theorem passedOver_cons {v : α} {values : List α} {x : α} :
    PassedOver (v :: values) x ↔ x < v ∨ v < x ∧ PassedOver values x := by
  constructor
  · rintro ⟨before, w, after, hvalues, hbelow, hle, hnot⟩
    cases before with
    | nil =>
      obtain ⟨rfl, -⟩ := List.cons.inj hvalues
      exact .inl (lt_of_le_of_ne hle fun h => hnot (h ▸ List.mem_cons_self))
    | cons u before =>
      obtain ⟨rfl, rfl⟩ := List.cons.inj hvalues
      exact .inr ⟨hbelow v List.mem_cons_self, before, w, after, rfl,
        fun u hu => hbelow u (List.mem_cons_of_mem _ hu), hle,
        fun h => hnot (List.mem_cons_of_mem _ h)⟩
  · rintro (hlt | ⟨hlt, before, w, after, rfl, hbelow, hle, hnot⟩)
    · exact ⟨[], v, values, rfl, (fun _ h => nomatch h), hlt.le, by simpa using hlt.ne⟩
    · refine ⟨v :: before, w, after, rfl, List.forall_mem_cons.2 ⟨hlt, hbelow⟩, hle, fun h => ?_⟩
      exact (List.mem_cons.1 h).elim hlt.ne' hnot

/-- What is passed over is at most the maximum. -/
theorem PassedOver.exists_le {values : List α} {x : α} (h : PassedOver values x) :
    ∃ v ∈ values, x ≤ v := by
  obtain ⟨before, v, after, rfl, -, hle, -⟩ := h
  exact ⟨v, List.mem_append_right _ List.mem_cons_self, hle⟩

theorem exists_mem_raises_some_iff {m x : α} {values : List α} :
    (∃ pair ∈ raises (some m) values, x ∈ Set.Ioo pair.1 pair.2) ↔
      m < x ∧ PassedOver values x := by
  induction values generalizing m with
  | nil => exact iff_of_false (fun ⟨_, h, _⟩ => nomatch h) fun h => not_passedOver_nil h.2
  | cons v values ih =>
    rw [raises, passedOver_cons]
    split_ifs with hlt
    · simp only [List.mem_cons, exists_eq_or_imp]
      rw [ih, Set.mem_Ioo]
      constructor
      · rintro (⟨hm, hv⟩ | ⟨hv, hpassed⟩)
        · exact ⟨hm, .inl hv⟩
        · exact ⟨hlt.trans hv, .inr ⟨hv, hpassed⟩⟩
      · rintro ⟨hm, hv | h⟩
        · exact .inl ⟨hm, hv⟩
        · exact .inr h
    · rw [ih]
      refine and_congr_right fun hm => ?_
      have hv : v < x := (not_lt.1 hlt).trans_lt hm
      rw [or_iff_right hv.not_gt, and_iff_right hv]

/-- **What the raises pass over** is what the mark passed from the first value on without having
seen it. -/
theorem exists_mem_raises_iff {x : α} {values : List α} :
    (∃ pair ∈ raises none values, x ∈ Set.Ioo pair.1 pair.2) ↔
      (∃ first ∈ values.head?, first ≤ x) ∧ PassedOver values x := by
  cases values with
  | nil => exact iff_of_false (fun ⟨_, h, _⟩ => nomatch h) fun h => not_passedOver_nil h.2
  | cons v values =>
    rw [raises, exists_mem_raises_some_iff, passedOver_cons, List.head?_cons]
    constructor
    · rintro ⟨hv, hpassed⟩
      exact ⟨⟨v, rfl, hv.le⟩, .inr ⟨hv, hpassed⟩⟩
    · rintro ⟨⟨first, hfirst, hle⟩, hlt | h⟩
      · obtain rfl := Option.some.inj hfirst
        exact absurd hlt hle.not_gt
      · exact h

end HighWater

end Cerbero
