import Mathlib.Data.Finset.Max
import Mathlib.Data.Finset.Card
import Mathlib.Data.Int.Notation
import Mathlib.Data.Int.Order.Basic
import Cerbero.Lib.SlidingWindow

/-!
# Lib/EarliestWindow — the earliest set of close elements in a sorted list

The elements of a strictly sorted list carry a time that never decreases.  A set of elements is
close if its times span at most `w`.  `earliestWindow` runs the two-pointer scan over the list;
what it returns is stated here without positions, over all sets of elements: it finds a window
exactly if some close set has `k` elements (`earliestWindow_isSome_iff`), the window ends at the
least element up to which there is one, and holds every element close to its end
(`earliestWindow_eq_some`).
-/

namespace Cerbero

namespace EarliestWindow

open SlidingWindow

variable {α : Type*} [LinearOrder α] (time : α → ℤ) (w : ℤ)

/-- The time never decreases along the order of the elements. -/
def NeverDecreases : Prop := ∀ ⦃a b : α⦄, a ≤ b → time a ≤ time b

/-- Position `i` has left the window that ends at `j`.  The scan stays inside the list; positions
past the end are placed so that the relation stays monotone. -/
def Expired (cs : List α) (i j : ℕ) : Prop :=
  match cs[i]?, cs[j]? with
  | some a, some b => w < time b - time a
  | some _, none => True
  | none, _ => False

instance (cs : List α) : DecidableRel (Expired time w cs) := fun i j => by
  unfold Expired
  split <;> infer_instance

/-- The elements of the first window of `k` elements. -/
def earliestWindow (k : ℕ) (cs : List α) : Option (List α) :=
  (earliest (Expired time w cs) k cs.length).map fun (l, r) => (cs.drop l).take (r + 1 - l)

/-- **A close set**: its times span at most `w`. -/
def Close (S : Finset α) : Prop := ∀ a ∈ S, ∀ b ∈ S, time b - time a ≤ w

/-- `k` elements of `P`, none after `a`, are close. -/
def FullAt (k : ℕ) (P : α → Prop) (a : α) : Prop :=
  ∃ S : Finset α, k ≤ S.card ∧ (∀ x ∈ S, P x ∧ x ≤ a) ∧ Close time w S

variable {time w} {cs : List α}

/-! ## Positions and elements -/

theorem lt_of_getElem? (hc : cs.Pairwise (· < ·)) {i j : ℕ} {a b : α} (hi : cs[i]? = some a)
    (hj : cs[j]? = some b) (hij : i < j) : a < b := by
  obtain ⟨hi', rfl⟩ := List.getElem?_eq_some_iff.1 hi
  obtain ⟨hj', rfl⟩ := List.getElem?_eq_some_iff.1 hj
  exact List.pairwise_iff_getElem.1 hc i j hi' hj' hij

/-- The list orders its elements as their positions. -/
theorem le_iff_of_getElem? (hc : cs.Pairwise (· < ·)) {i j : ℕ} {a b : α} (hi : cs[i]? = some a)
    (hj : cs[j]? = some b) : a ≤ b ↔ i ≤ j := by
  rcases lt_trichotomy i j with h | rfl | h
  · exact iff_of_true (lt_of_getElem? hc hi hj h).le h.le
  · rw [hi, Option.some.injEq] at hj
    exact iff_of_true hj.le le_rfl
  · exact iff_of_false (lt_of_getElem? hc hj hi h).not_ge h.not_ge

omit [LinearOrder α] in
theorem expired_iff {i j : ℕ} {a b : α} (hi : cs[i]? = some a) (hj : cs[j]? = some b) :
    Expired time w cs i j ↔ w < time b - time a := by
  rw [Expired, hi, hj]

theorem sliding_expired (hc : cs.Pairwise (· < ·)) (ht : NeverDecreases time) (hw : 0 ≤ w) :
    Sliding (Expired time w cs) where
  mono := by
    intro i i' j j' hi hj h
    cases ha' : cs[i']? with
    | none => simp [Expired, ha'] at h
    | some a' =>
      obtain ⟨a, ha⟩ : ∃ a, cs[i]? = some a := by
        have := (List.getElem?_eq_some_iff.1 ha').1
        exact ⟨cs[i], List.getElem?_eq_getElem _⟩
      cases hb' : cs[j']? with
      | none => simp [Expired, ha, hb']
      | some b' =>
        obtain ⟨b, hb⟩ : ∃ b, cs[j]? = some b := by
          have := (List.getElem?_eq_some_iff.1 hb').1
          exact ⟨cs[j], List.getElem?_eq_getElem _⟩
        rw [expired_iff ha' hb] at h
        rw [expired_iff ha hb']
        have h1 := ht ((le_iff_of_getElem? hc ha ha').2 hi)
        have h2 := ht ((le_iff_of_getElem? hc hb hb').2 hj)
        omega
  irrefl := by
    intro i h
    cases ha : cs[i]? with
    | none => simp [Expired, ha] at h
    | some a =>
      rw [expired_iff ha ha] at h
      omega

/-! ## Windows as sets -/

omit [LinearOrder α] in
theorem mem_take_drop {l r : ℕ} {x : α} :
    x ∈ (cs.drop l).take (r + 1 - l) ↔ ∃ i, l ≤ i ∧ i ≤ r ∧ cs[i]? = some x := by
  rw [List.mem_iff_getElem?]
  constructor
  · rintro ⟨n, hn⟩
    rw [List.getElem?_take] at hn
    split_ifs at hn with h
    rw [List.getElem?_drop] at hn
    exact ⟨l + n, by omega, by omega, hn⟩
  · rintro ⟨i, hl, hr, hi⟩
    refine ⟨i - l, ?_⟩
    rwa [List.getElem?_take, if_pos (by omega), List.getElem?_drop, show l + (i - l) = i by omega]

/-- **The window that ends at `b` holds the elements up to `b` that are close to it.** -/
theorem mem_window (hc : cs.Pairwise (· < ·)) {l r : ℕ} {b x : α}
    (hs : IsStart (Expired time w cs) l r) (hr : cs[r]? = some b) :
    x ∈ (cs.drop l).take (r + 1 - l) ↔ x ∈ cs ∧ x ≤ b ∧ time b - time x ≤ w := by
  rw [mem_take_drop]
  constructor
  · rintro ⟨i, hl, hir, hi⟩
    refine ⟨List.mem_of_getElem? hi, (le_iff_of_getElem? hc hi hr).2 hir, ?_⟩
    have := hs.stays i hl hir
    rw [expired_iff hi hr] at this
    exact not_lt.1 this
  · rintro ⟨hx, hxb, hclose⟩
    obtain ⟨i, hi⟩ := List.mem_iff_getElem?.1 hx
    refine ⟨i, ?_, (le_iff_of_getElem? hc hi hr).1 hxb, hi⟩
    by_contra hlt
    have := hs.left i (not_le.1 hlt)
    rw [expired_iff hi hr] at this
    omega

omit [LinearOrder α] in
theorem length_take_drop {l r : ℕ} (hr : r < cs.length) :
    ((cs.drop l).take (r + 1 - l)).length = r + 1 - l := by
  rw [List.length_take, List.length_drop]
  omega

/-- A close set of `k` elements fits into the window that ends at its greatest element. -/
theorem exists_window_of_close (hc : cs.Pairwise (· < ·)) (ht : NeverDecreases time) (hw : 0 ≤ w)
    {k : ℕ} (hk : 0 < k) {S : Finset α} (hcard : k ≤ S.card) (hS : ∀ x ∈ S, x ∈ cs)
    (hclose : Close time w S) :
    ∃ l r b, IsStart (Expired time w cs) l r ∧ cs[r]? = some b ∧ b ∈ S ∧ k ≤ r + 1 - l := by
  have hne : S.Nonempty := Finset.card_pos.1 (hk.trans_le hcard)
  obtain ⟨r, hr⟩ := List.mem_iff_getElem?.1 (hS _ (S.max'_mem hne))
  obtain ⟨l, hs⟩ := exists_isStart (sliding_expired hc ht hw) r
  refine ⟨l, r, S.max' hne, hs, hr, S.max'_mem hne, hcard.trans ?_⟩
  have hsub : S ⊆ ((cs.drop l).take (r + 1 - l)).toFinset := fun x hx => by
    rw [List.mem_toFinset, mem_window hc hs hr]
    exact ⟨hS x hx, S.le_max' x hx, hclose x hx _ (S.max'_mem hne)⟩
  calc S.card ≤ ((cs.drop l).take (r + 1 - l)).toFinset.card := Finset.card_le_card hsub
    _ ≤ ((cs.drop l).take (r + 1 - l)).length := List.toFinset_card_le _
    _ = r + 1 - l := length_take_drop (List.getElem?_eq_some_iff.1 hr).1

/-- The elements of a window are close. -/
theorem close_window (ht : NeverDecreases time) {b : α} {win : List α}
    (h : ∀ x ∈ win, x ≤ b ∧ time b - time x ≤ w) : Close time w win.toFinset := by
  intro x hx y hy
  have h1 := (h x (List.mem_toFinset.1 hx)).2
  have h2 := ht (h y (List.mem_toFinset.1 hy)).1
  omega

/-! ## The earliest window -/

/-- **The scan finds a window exactly if some close set has `k` elements.** -/
theorem earliestWindow_isSome_iff (hc : cs.Pairwise (· < ·)) (ht : NeverDecreases time) (hw : 0 ≤ w)
    {k : ℕ} (hk : 0 < k) :
    (earliestWindow time w k cs).isSome ↔
      ∃ S : Finset α, k ≤ S.card ∧ (∀ x ∈ S, x ∈ cs) ∧ Close time w S := by
  have hF := sliding_expired hc ht hw
  rw [earliestWindow, Option.isSome_map]
  constructor
  · intro h
    obtain ⟨⟨l, r⟩, hlr⟩ := Option.isSome_iff_exists.1 h
    obtain ⟨hs, hr, hfull, -⟩ := earliest_eq_some hF hlr
    have hwin := fun x => mem_window (x := x) hc hs (List.getElem?_eq_getElem hr)
    refine ⟨((cs.drop l).take (r + 1 - l)).toFinset, ?_, fun x hx => ?_, ?_⟩
    · rwa [List.toFinset_card_of_nodup, length_take_drop hr]
      exact ((hc.imp fun h => h.ne).sublist ((List.take_sublist _ _).trans (List.drop_sublist _ _)))
    · exact ((hwin x).1 (List.mem_toFinset.1 hx)).1
    · exact close_window ht fun x hx => ((hwin x).1 hx).2
  · rintro ⟨S, hcard, hS, hclose⟩
    obtain ⟨l, r, b, hs, hr, -, hfull⟩ := exists_window_of_close hc ht hw hk hcard hS hclose
    exact earliest_isSome hF (List.getElem?_eq_some_iff.1 hr).1 hs hfull

/-- **The window the scan returns.**  It lists, in order, the elements close to its last one; there
are exactly `k` of them, and the last one is the least element up to which `k` elements are
close. -/
theorem earliestWindow_eq_some (hc : cs.Pairwise (· < ·)) (ht : NeverDecreases time) (hw : 0 ≤ w)
    {k : ℕ} (hk : 0 < k) {win : List α} (h : earliestWindow time w k cs = some win) :
    win.Pairwise (· < ·) ∧ win.length = k ∧ ∃ last, win.getLast? = some last ∧ last ∈ cs ∧
      (∀ x, x ∈ win ↔ x ∈ cs ∧ x ≤ last ∧ time last - time x ≤ w) ∧
      FullAt time w k (· ∈ cs) last ∧ ∀ a ∈ cs, FullAt time w k (· ∈ cs) a → last ≤ a := by
  have hF := sliding_expired hc ht hw
  obtain ⟨⟨l, r⟩, hlr, rfl⟩ := Option.map_eq_some_iff.1 h
  obtain ⟨hs, hr, hfull, hfirst⟩ := earliest_eq_some hF hlr
  have hcr : cs[r]? = some cs[r] := List.getElem?_eq_getElem hr
  have hwin := fun x => mem_window (x := x) hc hs hcr
  have hlen := length_take_drop (l := l) hr
  have hle := hs.le
  have hpair : ((cs.drop l).take (r + 1 - l)).Pairwise (· < ·) :=
    hc.sublist ((List.take_sublist _ _).trans (List.drop_sublist _ _))
  refine ⟨hpair, hlen.trans (card_of_earliest hF hk hlr), cs[r], ?_, List.getElem_mem hr, hwin,
    ⟨((cs.drop l).take (r + 1 - l)).toFinset, ?_, fun x hx => ?_, ?_⟩, fun a ha hfa => ?_⟩
  · rw [List.getLast?_eq_getElem?, hlen, List.getElem?_take, if_pos (by omega),
      List.getElem?_drop, show l + (r + 1 - l - 1) = r by omega, hcr]
  · rwa [List.toFinset_card_of_nodup (hpair.imp fun h => h.ne), hlen]
  · have := (hwin x).1 (List.mem_toFinset.1 hx)
    exact ⟨this.1, this.2.1⟩
  · exact close_window ht fun x hx => ((hwin x).1 hx).2
  · obtain ⟨S, hcard, hS, hclose⟩ := hfa
    obtain ⟨l', r', b, hs', hr', hb, hfull'⟩ :=
      exists_window_of_close hc ht hw hk hcard (fun x hx => (hS x hx).1) hclose
    have hrr : r ≤ r' := by
      by_contra hlt
      exact absurd (hfirst r' l' (not_le.1 hlt) hs') (not_lt.2 hfull')
    exact ((le_iff_of_getElem? hc hcr hr').2 hrr).trans (hS b hb).2

end EarliestWindow

end Cerbero
