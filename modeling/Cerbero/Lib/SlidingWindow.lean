import Mathlib.Order.Nat
import Mathlib.Data.Nat.Basic
import Mathlib.Tactic.Common

/-!
# Lib/SlidingWindow — the earliest full window of a two-pointer scan

Positions of a sequence are natural numbers, and `F i j` says that position `i` has already left
the window that ends at position `j`.  A right pointer visits the positions in order; a left pointer
drops positions that have left, and the scan stops at the first window with `k` positions.

The left pointer never moves back, so it is not a search: what makes it correct is that a position
which has left one window has left every later one (`Sliding`).  Then the pointer sits at the true
start of every window (`IsStart`), the scan stops at the first window that is full
(`scan_eq_some`), and that window holds exactly `k` positions (`card_of_earliest`).
-/

namespace Cerbero

namespace SlidingWindow

variable (F : ℕ → ℕ → Prop) [DecidableRel F]

/-- Move the left pointer right while the position under it has left the window ending at
`right`.  The fuel is the number of positions from `left` to `right`. -/
def advance (right : ℕ) : ℕ → ℕ → ℕ
  | 0, left => left
  | fuel + 1, left => if left ≤ right ∧ F left right then advance right fuel (left + 1) else left

/-- Scan `n` positions from `right` on, and stop at the first window of `k` positions. -/
def scan (k : ℕ) : ℕ → ℕ → ℕ → Option (ℕ × ℕ)
  | 0, _, _ => none
  | n + 1, right, left =>
    let left := advance F right (right + 1 - left) left
    if right + 1 - left < k then scan k n (right + 1) left else some (left, right)

/-- The first window of `k` positions among the positions below `n`. -/
def earliest (k n : ℕ) : Option (ℕ × ℕ) := scan F k n 0 0

/-- **A position that has left a window has left every later one**, and the last position of a
window has not left it. -/
structure Sliding : Prop where
  mono : ∀ {i i' j j' : ℕ}, i ≤ i' → j ≤ j' → F i' j → F i j'
  irrefl : ∀ i, ¬ F i i

/-- The window ending at `r` starts at `l`. -/
structure IsStart (l r : ℕ) : Prop where
  le : l ≤ r
  left : ∀ i < l, F i r
  stays : ∀ i, l ≤ i → i ≤ r → ¬ F i r

variable {F}

/-! ## Where windows start -/

omit [DecidableRel F] in
theorem IsStart.unique {l l' r : ℕ} (h : IsStart F l r) (h' : IsStart F l' r) : l = l' := by
  rcases lt_trichotomy l l' with hlt | heq | hlt
  · exact absurd (h'.left l hlt) (h.stays l le_rfl h.le)
  · exact heq
  · exact absurd (h.left l' hlt) (h'.stays l' le_rfl h'.le)

omit [DecidableRel F] in
/-- Windows start later and later. -/
theorem IsStart.start_le (hF : Sliding F) {l l' r r' : ℕ} (h : IsStart F l r)
    (h' : IsStart F l' r') (hr : r ≤ r') : l ≤ l' := by
  by_contra hlt
  exact h'.stays l' le_rfl h'.le (hF.mono le_rfl hr (h.left l' (not_le.1 hlt)))

/-- The left pointer stops at the start of the window, if everything before it has left. -/
theorem isStart_advance (hF : Sliding F) {right : ℕ} :
    ∀ {fuel left : ℕ}, right + 1 - left ≤ fuel → left ≤ right → (∀ i < left, F i right) →
      IsStart F (advance F right fuel left) right
  | 0, left, hfuel, hle, _ => by omega
  | fuel + 1, left, hfuel, hle, hleft => by
      rw [advance]
      split_ifs with h
      · have hne : left ≠ right := fun heq => hF.irrefl right (heq ▸ h.2)
        refine isStart_advance hF (by omega) (by omega) fun i hi => ?_
        rcases eq_or_lt_of_le (Nat.le_of_lt_succ hi) with rfl | hlt
        · exact h.2
        · exact hleft i hlt
      · refine ⟨hle, hleft, fun i hli _ hi => h ⟨hle, ?_⟩⟩
        exact hF.mono hli le_rfl hi

/-- Every position ends a window. -/
theorem exists_isStart (hF : Sliding F) (r : ℕ) : ∃ l, IsStart F l r :=
  ⟨advance F r (r + 1) 0, isStart_advance hF le_rfl (Nat.zero_le r) (by simp)⟩

/-! ## What the scan returns -/

/-- What the left pointer satisfies when the right pointer arrives at `right`. -/
def Behind (F : ℕ → ℕ → Prop) (right left : ℕ) : Prop := left ≤ right ∧ ∀ i < left, F i right

omit [DecidableRel F] in
theorem IsStart.behind_succ (hF : Sliding F) {l r : ℕ} (h : IsStart F l r) :
    Behind F (r + 1) l :=
  ⟨h.le.trans (Nat.le_succ r), fun i hi => hF.mono le_rfl (Nat.le_succ r) (h.left i hi)⟩

theorem isStart_advance_of_behind (hF : Sliding F) {right left : ℕ} (h : Behind F right left) :
    IsStart F (advance F right (right + 1 - left) left) right :=
  isStart_advance hF le_rfl h.1 h.2

/-- **A window the scan returns is full, and no window before it is.** -/
theorem scan_eq_some (hF : Sliding F) {k l r : ℕ} :
    ∀ {n right left : ℕ}, Behind F right left → scan F k n right left = some (l, r) →
      IsStart F l r ∧ right ≤ r ∧ r < right + n ∧ k ≤ r + 1 - l ∧
        ∀ r' l', right ≤ r' → r' < r → IsStart F l' r' → r' + 1 - l' < k
  | 0, _, _, _, h => by simp [scan] at h
  | n + 1, right, left, hb, h => by
      have hs := isStart_advance_of_behind hF hb
      rw [scan] at h
      split_ifs at h with hk
      · obtain ⟨h1, h2, h3, h4, h5⟩ := scan_eq_some hF (hs.behind_succ hF) h
        refine ⟨h1, by omega, by omega, h4, fun r' l' hr hr' hl' => ?_⟩
        rcases eq_or_lt_of_le hr with rfl | hlt
        · rwa [hl'.unique hs]
        · exact h5 r' l' hlt hr' hl'
      · obtain ⟨rfl, rfl⟩ := Prod.mk.inj (Option.some.inj h)
        exact ⟨hs, le_rfl, by omega, not_lt.1 hk, fun r' _ hr hr' => absurd hr' (not_lt.2 hr)⟩

/-- **A scan that returns nothing has met no full window.** -/
theorem scan_eq_none (hF : Sliding F) {k : ℕ} :
    ∀ {n right left : ℕ}, Behind F right left → scan F k n right left = none →
      ∀ r' l', right ≤ r' → r' < right + n → IsStart F l' r' → r' + 1 - l' < k
  | 0, _, _, _, _, r', _, hr, hr', _ => by omega
  | n + 1, right, left, hb, h, r', l', hr, hr', hl' => by
      have hs := isStart_advance_of_behind hF hb
      rw [scan] at h
      split_ifs at h with hk
      rcases eq_or_lt_of_le hr with rfl | hlt
      · rwa [hl'.unique hs]
      · exact scan_eq_none hF (hs.behind_succ hF) h r' l' hlt (by omega) hl'

omit [DecidableRel F] in
theorem behind_zero : Behind F 0 0 := ⟨le_rfl, by simp⟩

/-- The window the scan returns, and that it is the earliest full one. -/
theorem earliest_eq_some (hF : Sliding F) {k n l r : ℕ} (h : earliest F k n = some (l, r)) :
    IsStart F l r ∧ r < n ∧ k ≤ r + 1 - l ∧
      ∀ r' l', r' < r → IsStart F l' r' → r' + 1 - l' < k := by
  obtain ⟨h1, -, h3, h4, h5⟩ := scan_eq_some hF behind_zero h
  exact ⟨h1, by omega, h4, fun r' l' => h5 r' l' (Nat.zero_le r')⟩

/-- If some window is full, the scan returns one. -/
theorem earliest_isSome (hF : Sliding F) {k n r l : ℕ} (hr : r < n) (hl : IsStart F l r)
    (hk : k ≤ r + 1 - l) : (earliest F k n).isSome := by
  rw [Option.isSome_iff_ne_none]
  intro h
  exact absurd (scan_eq_none hF behind_zero h r l (Nat.zero_le r) (by omega) hl) (not_lt.2 hk)

/-- **The earliest full window is just full**: a window grows by at most one position at a time. -/
theorem card_of_earliest (hF : Sliding F) {k n l r : ℕ} (hk : 0 < k)
    (h : earliest F k n = some (l, r)) : r + 1 - l = k := by
  obtain ⟨hs, -, hfull, hfirst⟩ := earliest_eq_some hF h
  cases r with
  | zero => omega
  | succ r =>
    obtain ⟨l', hl'⟩ := exists_isStart hF r
    have hlt := hfirst r l' (Nat.lt_succ_self r) hl'
    have hle := hl'.start_le hF hs (Nat.le_succ r)
    have := hl'.le
    omega

end SlidingWindow

end Cerbero
