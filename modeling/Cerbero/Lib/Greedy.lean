import Mathlib.Order.Nat
import Mathlib.Data.Nat.Basic
import Mathlib.Tactic.Common

/-!
# Lib/Greedy — first-fit selection along a list, and when it misses nothing

A state is extended by one element per round: round `f` takes the first element, after the last one
taken, that `f` accepts.  There is no backtracking.

`extend_sound` says that what first fit returns is a chain of accepted elements at increasing
positions.  `exists_extend_le` is the exchange argument: if a relation between states is kept
whenever first fit takes an element no later than a competing chain does (`Dominates`), then first
fit completes whenever the competing chain does, and takes no position later.
-/

namespace Cerbero

namespace Greedy

variable {α σ : Type*}

/-- The first element of `l` that extends the state, with its position; `i` is the position of the
head of `l`. -/
def pickFrom (f : σ → α → Option σ) (s : σ) : ℕ → List α → Option (ℕ × σ)
  | _, [] => none
  | i, x :: l =>
    match f s x with
    | some s' => some (i, s')
    | none => pickFrom f s (i + 1) l

/-- The first position from `i` on whose element extends the state. -/
def pick (f : σ → α → Option σ) (cs : List α) (i : ℕ) (s : σ) : Option (ℕ × σ) :=
  pickFrom f s i (cs.drop i)

/-- One round after the other, each from the position after the last one taken. -/
def extend (cs : List α) : List (σ → α → Option σ) → ℕ → σ → Option (List ℕ × σ)
  | [], _, s => some ([], s)
  | f :: fs, i, s =>
    (pick f cs i s).bind fun (j, s') => (extend cs fs (j + 1) s').map fun (js, t) => (j :: js, t)

/-- **A chain**: one accepted element per round, at increasing positions. -/
inductive Chain (cs : List α) : List (σ → α → Option σ) → ℕ → σ → List ℕ → σ → Prop
  | nil {i : ℕ} {s : σ} : Chain cs [] i s [] s
  | cons {f : σ → α → Option σ} {fs : List (σ → α → Option σ)} {i j : ℕ} {x : α} {s s' t : σ}
      {js : List ℕ} (hij : i ≤ j) (hx : cs[j]? = some x) (hf : f s x = some s')
      (h : Chain cs fs (j + 1) s' js t) : Chain cs (f :: fs) i s (j :: js) t

/-! ## The first position that fits -/

theorem pickFrom_eq_some {f : σ → α → Option σ} {s s' : σ} {j : ℕ} :
    ∀ {i : ℕ} {l : List α}, pickFrom f s i l = some (j, s') →
      i ≤ j ∧ ∃ x, l[j - i]? = some x ∧ f s x = some s'
  | _, [], h => by simp [pickFrom] at h
  | i, x :: l, h => by
      rw [pickFrom] at h
      split at h
      · next s'' hs =>
        obtain ⟨rfl, rfl⟩ := Prod.mk.inj (Option.some.inj h)
        exact ⟨le_rfl, x, by simp, hs⟩
      · obtain ⟨hle, y, hy, hfy⟩ := pickFrom_eq_some h
        refine ⟨by omega, y, ?_, hfy⟩
        rwa [show j - i = (j - (i + 1)) + 1 by omega, List.getElem?_cons_succ]

theorem pickFrom_isSome {f : σ → α → Option σ} {s s' : σ} {x : α} :
    ∀ {l : List α} {i n : ℕ}, l[n]? = some x → f s x = some s' →
      ∃ j u, pickFrom f s i l = some (j, u) ∧ j ≤ i + n
  | [], _, _, h, _ => by simp at h
  | y :: l, i, n, h, hf => by
      rw [pickFrom]
      split
      · next u hu => exact ⟨i, u, rfl, by omega⟩
      · next hnone =>
        cases n with
        | zero =>
          rw [List.getElem?_cons_zero, Option.some.injEq] at h
          rw [← h, hnone] at hf
          exact absurd hf (by simp)
        | succ n =>
          rw [List.getElem?_cons_succ] at h
          obtain ⟨j, u, hj, hle⟩ := pickFrom_isSome (i := i + 1) h hf
          exact ⟨j, u, hj, by omega⟩

/-- What first fit takes extends the state. -/
theorem pick_eq_some {f : σ → α → Option σ} {cs : List α} {i j : ℕ} {s s' : σ}
    (h : pick f cs i s = some (j, s')) : i ≤ j ∧ ∃ x, cs[j]? = some x ∧ f s x = some s' := by
  obtain ⟨hle, x, hx, hf⟩ := pickFrom_eq_some h
  rw [List.getElem?_drop, show i + (j - i) = j by omega] at hx
  exact ⟨hle, x, hx, hf⟩

/-- If some position fits, first fit takes one that is no later. -/
theorem pick_isSome {f : σ → α → Option σ} {cs : List α} {i j : ℕ} {s s' : σ} {x : α}
    (hij : i ≤ j) (hx : cs[j]? = some x) (hf : f s x = some s') :
    ∃ k u, pick f cs i s = some (k, u) ∧ k ≤ j := by
  have hx' : (cs.drop i)[j - i]? = some x := by
    rwa [List.getElem?_drop, show i + (j - i) = j by omega]
  obtain ⟨k, u, hk, hle⟩ := pickFrom_isSome (i := i) hx' hf
  exact ⟨k, u, hk, by omega⟩

/-! ## Soundness -/

/-- **First fit returns a chain.** -/
theorem extend_sound {cs : List α} : ∀ {fs : List (σ → α → Option σ)} {i : ℕ} {s t : σ}
    {js : List ℕ}, extend cs fs i s = some (js, t) → Chain cs fs i s js t
  | [], i, s, t, js, h => by
      obtain ⟨rfl, rfl⟩ := Prod.mk.inj (Option.some.inj h)
      exact .nil
  | f :: fs, i, s, t, js, h => by
      rw [extend, Option.bind_eq_some_iff] at h
      obtain ⟨⟨j, s'⟩, hpick, hrest⟩ := h
      obtain ⟨⟨ks, u⟩, hks, heq⟩ := Option.map_eq_some_iff.1 hrest
      obtain ⟨rfl, rfl⟩ := Prod.mk.inj heq
      obtain ⟨hij, x, hx, hf⟩ := pick_eq_some hpick
      exact .cons hij hx hf (extend_sound hks)

/-- The positions of a chain increase, from the first one allowed on. -/
theorem Chain.pairwise_lt {cs : List α} {fs : List (σ → α → Option σ)} {i : ℕ} {s t : σ}
    {js : List ℕ} (h : Chain cs fs i s js t) : (∀ j ∈ js, i ≤ j) ∧ js.Pairwise (· < ·) := by
  induction h with
  | nil => exact ⟨by simp, .nil⟩
  | @cons f fs i j x s s' t js hij hx hf h ih =>
    obtain ⟨hlow, hpair⟩ := ih
    refine ⟨fun k hk => ?_, List.pairwise_cons.2 ⟨fun k hk => hlow k hk, hpair⟩⟩
    rcases List.mem_cons.1 hk with rfl | hk
    · exact hij
    · exact hij.trans ((Nat.le_succ j).trans (hlow k hk))

/-! ## Completeness -/

/-- **`R` survives an exchange**: where a competing chain in state `s'` takes position `j`, first
fit in a dominating state `s` could take `j` too, and dominates again after taking any position up
to `j`. -/
def Dominates (cs : List α) (fs : List (σ → α → Option σ)) (R : ℕ → σ → ℕ → σ → Prop) : Prop :=
  ∀ f ∈ fs, ∀ {i i' j : ℕ} {s s' u' : σ} {x : α}, R i s i' s' → i' ≤ j → cs[j]? = some x →
    f s' x = some u' →
      (i ≤ j ∧ ∃ u, f s x = some u) ∧
        ∀ {k : ℕ} {y : α} {u : σ}, i ≤ k → k ≤ j → cs[k]? = some y → f s y = some u →
          R (k + 1) u (j + 1) u'

/-- **First fit takes no position later than a dominated chain does.** -/
theorem exists_extend_le {cs : List α} {R : ℕ → σ → ℕ → σ → Prop} {fs : List (σ → α → Option σ)}
    {i' : ℕ} {s' t' : σ} {js : List ℕ} (h : Chain cs fs i' s' js t') :
    Dominates cs fs R → ∀ {i : ℕ} {s : σ}, R i s i' s' →
      ∃ ks t, extend cs fs i s = some (ks, t) ∧ List.Forall₂ (· ≤ ·) ks js := by
  induction h with
  | nil => exact fun _ {i s} _ => ⟨[], s, rfl, .nil⟩
  | @cons f fs i' j x s' u' t' js hij hx hf h ih =>
    intro hdom i s hR
    obtain ⟨⟨hle, u, hu⟩, hkeep⟩ := hdom f List.mem_cons_self hR hij hx hf
    obtain ⟨k, w, hpick, hkj⟩ := pick_isSome hle hx hu
    obtain ⟨hik, y, hy, hfy⟩ := pick_eq_some hpick
    obtain ⟨ks, t, hks, hkjs⟩ :=
      ih (fun g hg => hdom g (List.mem_cons_of_mem _ hg)) (hkeep hik hkj hy hfy)
    refine ⟨k :: ks, t, ?_, .cons hkj hkjs⟩
    rw [extend, hpick]
    dsimp only [Option.bind_some]
    rw [hks, Option.map_some]

end Greedy

end Cerbero
