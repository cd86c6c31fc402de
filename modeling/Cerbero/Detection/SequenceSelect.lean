import Mathlib.Data.List.Forall2
import Mathlib.Data.List.Pairwise
import Mathlib.Data.Finset.Max
import Cerbero.Detection.Sequence

/-!
# Detection/SequenceSelect — the greedy selection among the candidates of one group

`CandidateChain` says what a sequence of candidates has to satisfy.  What `selectSequence` returns
is one (`chain_of_selectSequence`), and if the times follow the order keys it returns one whenever
there is one, with the earliest possible start (`selectSequence_of_chain`): first fit loses nothing,
because a candidate taken earlier leaves at least as many later candidates to choose from.
-/

namespace Cerbero

namespace Detection

open Greedy

variable {OrderKey : Type} [LinearOrder OrderKey] {candidates : List (SequenceCandidate OrderKey)}
  {w : ℤ} {stageCount : ℕ}

/-- **A sequence of candidates**: one per stage, in strictly increasing order, with all times
within the window of each other. -/
structure CandidateChain (stageCount : ℕ) (w : ℤ) (xs : List (SequenceCandidate OrderKey)) :
    Prop where
  length_eq : xs.length = stageCount
  stage : ∀ (i : ℕ) (x : SequenceCandidate OrderKey), xs[i]? = some x → i ∈ x.stageIndices
  increasing : (xs.map (·.orderKey)).Pairwise (· < ·)
  close : ∀ a ∈ xs, ∀ b ∈ xs, b.timeMillis - a.timeMillis ≤ w

/-- The times of `xs`, together with `start`, lie between the bounds of the selection and reach
them. -/
structure Bounds (start : Selection OrderKey) (xs : List (SequenceCandidate OrderKey))
    (selection : Selection OrderKey) : Prop where
  min_le : selection.minTime ≤ start.minTime ∧ ∀ x ∈ xs, selection.minTime ≤ x.timeMillis
  le_max : start.maxTime ≤ selection.maxTime ∧ ∀ x ∈ xs, x.timeMillis ≤ selection.maxTime
  min_mem : selection.minTime = start.minTime ∨ ∃ x ∈ xs, selection.minTime = x.timeMillis
  max_mem : selection.maxTime = start.maxTime ∨ ∃ x ∈ xs, selection.maxTime = x.timeMillis

/-- Everything a stage asks of a candidate, and what it makes of the selection. -/
theorem acceptStage_eq_some {stageIndex : ℕ} {s s' : Selection OrderKey}
    {x : SequenceCandidate OrderKey} :
    acceptStage w stageIndex s x = some s' ↔
      stageIndex ∈ x.stageIndices ∧ s.lastOrderKey < x.orderKey ∧
        max s.maxTime x.timeMillis - min s.minTime x.timeMillis ≤ w ∧
          s' = ⟨x.orderKey, min s.minTime x.timeMillis, max s.maxTime x.timeMillis⟩ := by
  unfold acceptStage
  dsimp only
  split_ifs with h1 h2
  · refine iff_of_false (by simp) fun ⟨hstage, horder, _⟩ => ?_
    rcases h1 with h1 | h1
    · exact h1 hstage
    · exact absurd horder (not_lt.2 h1)
  · exact iff_of_false (by simp) fun ⟨_, _, hspan, _⟩ => absurd h2 (not_lt.2 hspan)
  · push Not at h1
    rw [Option.some.injEq]
    exact ⟨fun h => ⟨h1.1, h1.2, not_lt.1 h2, h.symm⟩, fun ⟨_, _, _, h⟩ => h.symm⟩

/-! ## Soundness -/

/-- The candidates behind a greedy chain over consecutive stages. -/
theorem candidates_of_chain {n : ℕ} : ∀ {k i : ℕ} {s t : Selection OrderKey} {js : List ℕ},
    s.maxTime - s.minTime ≤ w →
    Chain candidates ((List.range' k n).map (acceptStage w)) i s js t →
      ∃ xs : List (SequenceCandidate OrderKey),
        List.Forall₂ (fun j x => candidates[j]? = some x) js xs ∧ xs.length = n ∧
        (∀ (m : ℕ) (x : SequenceCandidate OrderKey), xs[m]? = some x → k + m ∈ x.stageIndices) ∧
        (s.lastOrderKey :: xs.map (·.orderKey)).Pairwise (· < ·) ∧ Bounds s xs t ∧
        t.maxTime - t.minTime ≤ w := by
  induction n with
  | zero =>
    intro k i s t js hs h
    cases h
    exact ⟨[], .nil, rfl, by simp, by simp, ⟨⟨le_rfl, by simp⟩, ⟨le_rfl, by simp⟩, Or.inl rfl,
      Or.inl rfl⟩, hs⟩
  | succ n ih =>
    intro k i s t js hs h
    rw [List.range'_succ, List.map_cons] at h
    cases h with
    | cons hij hx hf hrest =>
      rename_i j x s' js
      obtain ⟨hstage, horder, hspan, rfl⟩ := acceptStage_eq_some.1 hf
      obtain ⟨xs, hall, hlen, hstages, hinc, hb, ht⟩ := ih hspan hrest
      refine ⟨x :: xs, .cons hx hall, by simp [hlen], fun m y hy => ?_, ?_, ?_, ht⟩
      · cases m with
        | zero =>
          obtain rfl : x = y := by simpa using hy
          exact hstage
        | succ m =>
          have := hstages m y (by simpa using hy)
          rwa [show k + (m + 1) = k + 1 + m by omega]
      · rw [List.map_cons, List.pairwise_cons]
        refine ⟨fun key hkey => ?_, hinc⟩
        rcases List.mem_cons.1 hkey with rfl | hkey
        · exact horder
        · exact horder.trans ((List.pairwise_cons.1 hinc).1 key hkey)
      · obtain ⟨⟨hmin, hmins⟩, ⟨hmax, hmaxs⟩, hminmem, hmaxmem⟩ := hb
        dsimp only at hmin hmax hminmem hmaxmem
        refine ⟨⟨hmin.trans (min_le_left _ _), fun y hy => ?_⟩,
          ⟨(le_max_left _ _).trans hmax, fun y hy => ?_⟩, ?_, ?_⟩
        · rcases List.mem_cons.1 hy with rfl | hy
          · exact hmin.trans (min_le_right _ _)
          · exact hmins y hy
        · rcases List.mem_cons.1 hy with rfl | hy
          · exact (le_max_right _ _).trans hmax
          · exact hmaxs y hy
        · rcases hminmem with heq | ⟨y, hy, heq⟩
          · rcases min_choice s.minTime x.timeMillis with h | h
            · exact Or.inl (heq.trans h)
            · exact Or.inr ⟨x, List.mem_cons_self, heq.trans h⟩
          · exact Or.inr ⟨y, List.mem_cons_of_mem _ hy, heq⟩
        · rcases hmaxmem with heq | ⟨y, hy, heq⟩
          · rcases max_choice s.maxTime x.timeMillis with h | h
            · exact Or.inl (heq.trans h)
            · exact Or.inr ⟨x, List.mem_cons_self, heq.trans h⟩
          · exact Or.inr ⟨y, List.mem_cons_of_mem _ hy, heq⟩

/-- The minimum and the maximum of the times of a list. -/
structure TimeBounds (xs : List (SequenceCandidate OrderKey)) (lo hi : ℤ) : Prop where
  le : ∀ x ∈ xs, lo ≤ x.timeMillis ∧ x.timeMillis ≤ hi
  lo_mem : ∃ x ∈ xs, lo = x.timeMillis
  hi_mem : ∃ x ∈ xs, hi = x.timeMillis

/-- **A selection that completes is a sequence of candidates**, taken at increasing positions from
its start on, and its bounds are those of their times. -/
theorem chain_of_selectFrom {startIndex : ℕ} {start : SequenceCandidate OrderKey}
    {selected : List ℕ} {selection : Selection OrderKey} (hw : 0 ≤ w) (hn : 0 < stageCount)
    (hstart : candidates[startIndex]? = some start)
    (h : selectFrom candidates stageCount w startIndex start = some (selected, selection)) :
    ∃ xs, List.Forall₂ (fun j x => candidates[j]? = some x) selected (start :: xs) ∧
      selected.Pairwise (· < ·) ∧ CandidateChain stageCount w (start :: xs) ∧
      TimeBounds (start :: xs) selection.minTime selection.maxTime ∧
      selection.maxTime - selection.minTime ≤ w := by
  rw [selectFrom] at h
  split_ifs at h with hzero
  obtain ⟨⟨js, t⟩, hext, heq⟩ := Option.map_eq_some_iff.1 h
  obtain ⟨rfl, rfl⟩ := Prod.mk.inj heq
  have hchain := extend_sound hext
  obtain ⟨xs, hall, hlen, hstages, hinc, hb, hspan⟩ :=
    candidates_of_chain (by simpa using hw) hchain
  obtain ⟨hlow, hpair⟩ := hchain.pairwise_lt
  obtain ⟨⟨hmin, hmins⟩, ⟨hmax, hmaxs⟩, hminmem, hmaxmem⟩ := hb
  dsimp only at hmin hmax hminmem hmaxmem hinc
  have hlength : (start :: xs).length = stageCount := by
    rw [List.length_cons, hlen, Nat.sub_add_cancel hn]
  have hbounds : ∀ x ∈ start :: xs, t.minTime ≤ x.timeMillis ∧ x.timeMillis ≤ t.maxTime := by
    intro x hx
    rcases List.mem_cons.1 hx with rfl | hx
    · exact ⟨hmin, hmax⟩
    · exact ⟨hmins x hx, hmaxs x hx⟩
  refine ⟨xs, .cons hstart hall, List.pairwise_cons.2 ⟨fun j hj => hlow j hj, hpair⟩,
    { length_eq := hlength
      stage := fun i x hx => ?_
      increasing := hinc
      close := fun a ha b hb => ?_ },
    { le := hbounds
      lo_mem := ?_
      hi_mem := ?_ }, hspan⟩
  · cases i with
    | zero =>
      obtain rfl : start = x := by simpa using hx
      exact hzero
    | succ i =>
      have := hstages i x (by simpa using hx)
      rwa [Nat.add_comm]
  · have h1 := (hbounds a ha).1
    have h2 := (hbounds b hb).2
    omega
  · rcases hminmem with heq | ⟨x, hx, heq⟩
    · exact ⟨start, List.mem_cons_self, heq⟩
    · exact ⟨x, List.mem_cons_of_mem _ hx, heq⟩
  · rcases hmaxmem with heq | ⟨x, hx, heq⟩
    · exact ⟨start, List.mem_cons_self, heq⟩
    · exact ⟨x, List.mem_cons_of_mem _ hx, heq⟩

/-! ## The first start that completes -/

/-- The outer loop returns the selection of the first start that completes. -/
theorem selectSequence_eq_some {r : List ℕ × Selection OrderKey}
    (h : selectSequence candidates stageCount w = some r) :
    ∃ i start, candidates[i]? = some start ∧ selectFrom candidates stageCount w i start = some r ∧
      ∀ (j : ℕ) (x : SequenceCandidate OrderKey), candidates[j]? = some x →
        (selectFrom candidates stageCount w j x).isSome → i ≤ j := by
  obtain ⟨before, ⟨start, i⟩, after, hsplit, hsel, hnone⟩ := List.findSome?_eq_some_iff.1 h
  have hget : ∀ (j : ℕ) (x : SequenceCandidate OrderKey), candidates[j]? = some x →
      candidates.zipIdx[j]? = some (x, j) := by
    intro j x hx
    rw [List.getElem?_zipIdx, hx]
    simp
  have hi : candidates.zipIdx[before.length]? = some (start, i) := by
    rw [hsplit, List.getElem?_append_right le_rfl]
    simp
  obtain ⟨y, hy, heq⟩ := Option.map_eq_some_iff.1 (List.getElem?_zipIdx.symm.trans hi)
  obtain ⟨rfl, hlen⟩ := Prod.mk.inj heq
  obtain rfl : before.length = i := by simpa using hlen
  refine ⟨before.length, y, hy, hsel, fun j x hx hsome => ?_⟩
  by_contra hlt
  have hmem : (x, j) ∈ before := by
    have := hget j x hx
    rw [hsplit, List.getElem?_append_left (not_le.1 hlt)] at this
    exact List.mem_of_getElem? this
  have hfail : selectFrom candidates stageCount w j x = none := hnone _ hmem
  rw [hfail] at hsome
  exact absurd hsome (by simp)

theorem selectSequence_isSome {i : ℕ} {start : SequenceCandidate OrderKey}
    (hi : candidates[i]? = some start)
    (h : (selectFrom candidates stageCount w i start).isSome) :
    (selectSequence candidates stageCount w).isSome := by
  rw [selectSequence, List.findSome?_isSome_iff]
  refine ⟨(start, i), List.mem_of_getElem? (i := i) ?_, h⟩
  rw [List.getElem?_zipIdx, hi]
  simp

/-! ## Completeness -/

/-- **Times follow order keys**: a smaller order key never has a larger time. -/
def Consistent (candidates : List (SequenceCandidate OrderKey)) : Prop :=
  ∀ a ∈ candidates, ∀ b ∈ candidates, a.orderKey < b.orderKey → a.timeMillis ≤ b.timeMillis

/-- The order keys of a sorted group follow the positions. -/
theorem orderKey_le_of_getElem? (hsorted : candidates.Pairwise fun a b => a.orderKey ≤ b.orderKey)
    {i j : ℕ} {x y : SequenceCandidate OrderKey} (hx : candidates[i]? = some x)
    (hy : candidates[j]? = some y) (hij : i ≤ j) : x.orderKey ≤ y.orderKey := by
  rcases eq_or_lt_of_le hij with rfl | hlt
  · rw [hx, Option.some.injEq] at hy
    exact (congrArg _ hy).le
  · obtain ⟨hi', rfl⟩ := List.getElem?_eq_some_iff.1 hx
    obtain ⟨hj', rfl⟩ := List.getElem?_eq_some_iff.1 hy
    exact List.pairwise_iff_getElem.1 hsorted i j hi' hj' hlt

/-- A sequence of candidates that is still to come makes a greedy chain: each of its candidates
comes after the last one taken, and all times stay between `lo` and `hi`. -/
theorem exists_chain {lo hi : ℤ} (hspan : hi - lo ≤ w)
    (hsorted : candidates.Pairwise fun a b => a.orderKey ≤ b.orderKey) :
    ∀ {xs : List (SequenceCandidate OrderKey)} {k i : ℕ} {s : Selection OrderKey},
      (∀ x ∈ xs, x ∈ candidates ∧ lo ≤ x.timeMillis ∧ x.timeMillis ≤ hi) →
      (∀ (m : ℕ) (x : SequenceCandidate OrderKey), xs[m]? = some x → k + m ∈ x.stageIndices) →
      (s.lastOrderKey :: xs.map (·.orderKey)).Pairwise (· < ·) →
      (∀ (j : ℕ) (y : SequenceCandidate OrderKey), j < i → candidates[j]? = some y →
        y.orderKey ≤ s.lastOrderKey) →
      lo ≤ s.minTime → s.maxTime ≤ hi →
        ∃ js t, List.Forall₂ (fun j x => candidates[j]? = some x) js xs ∧
          Chain candidates ((List.range' k xs.length).map (acceptStage w)) i s js t
  | [], _, i, s, _, _, _, _, _, _ => ⟨[], s, .nil, .nil⟩
  | x :: xs, k, i, s, hmem, hstage, hinc, hpast, hmin, hmax => by
      obtain ⟨hx, hlo, hhi⟩ := hmem x List.mem_cons_self
      obtain ⟨j, hj⟩ := List.mem_iff_getElem?.1 hx
      rw [List.map_cons, List.pairwise_cons] at hinc
      have hlast : s.lastOrderKey < x.orderKey := hinc.1 _ List.mem_cons_self
      have hij : i ≤ j := by
        by_contra hlt
        exact absurd hlast (not_lt.2 (hpast j x (not_le.1 hlt) hj))
      have haccept : acceptStage w k s x = some
          ⟨x.orderKey, min s.minTime x.timeMillis, max s.maxTime x.timeMillis⟩ := by
        have := le_min hmin hlo
        have := max_le hmax hhi
        exact acceptStage_eq_some.2 ⟨by simpa using hstage 0 x rfl, hlast, by omega, rfl⟩
      have hpast' : ∀ (m : ℕ) (y : SequenceCandidate OrderKey), m < j + 1 →
          candidates[m]? = some y → y.orderKey ≤ x.orderKey := fun m y hm hy =>
        orderKey_le_of_getElem? hsorted hy hj (Nat.le_of_lt_succ hm)
      obtain ⟨js, t, hjs, hrest⟩ := exists_chain hspan hsorted (k := k + 1) (i := j + 1)
        (s := ⟨x.orderKey, min s.minTime x.timeMillis, max s.maxTime x.timeMillis⟩)
        (fun y hy => hmem y (List.mem_cons_of_mem _ hy))
        (fun m y hy => by
          rw [show k + 1 + m = k + (m + 1) by omega]
          exact hstage (m + 1) y (by simpa using hy))
        hinc.2 hpast' (le_min hmin hlo) (max_le hmax hhi)
      refine ⟨j :: js, t, .cons hj hjs, ?_⟩
      rw [List.length_cons, List.range'_succ, List.map_cons]
      exact .cons hij hj haccept hrest

/-- The state of first fit against that of a competing chain: it stands no later, its last order key
is no larger, and no later candidate lies before its latest time. -/
def Ahead (candidates : List (SequenceCandidate OrderKey)) (i : ℕ) (s : Selection OrderKey)
    (i' : ℕ) (s' : Selection OrderKey) : Prop :=
  i ≤ i' ∧ s.lastOrderKey ≤ s'.lastOrderKey ∧ s'.minTime ≤ s.minTime ∧ s.minTime ≤ s.maxTime ∧
    ∀ x ∈ candidates, s.lastOrderKey < x.orderKey → s.maxTime ≤ x.timeMillis

/-- **First fit stays ahead.** -/
theorem dominates_ahead (hsorted : candidates.Pairwise fun a b => a.orderKey ≤ b.orderKey)
    (hcons : Consistent candidates) (stages : List ℕ) :
    Dominates candidates (stages.map (acceptStage w)) (Ahead candidates) := by
  intro f hf i i' j s s' u' x hahead hij hx hfx
  obtain ⟨stage, -, rfl⟩ := List.mem_map.1 hf
  obtain ⟨hi, hlast, hmin, hminmax, hlater⟩ := hahead
  obtain ⟨hstage, horder, hspan, rfl⟩ := acceptStage_eq_some.1 hfx
  have hxmem := List.mem_of_getElem? hx
  refine ⟨⟨hi.trans hij, ?_⟩, fun {k y u} hik hkj hy hfy => ?_⟩
  · have hxlater := hlater x hxmem (hlast.trans_lt horder)
    refine ⟨_, acceptStage_eq_some.2 ⟨hstage, hlast.trans_lt horder, ?_, rfl⟩⟩
    rw [max_eq_right hxlater, min_eq_left (hminmax.trans hxlater)]
    have h1 := le_max_right s'.maxTime x.timeMillis
    have h2 := min_le_left s'.minTime x.timeMillis
    omega
  · obtain ⟨-, hyorder, -, rfl⟩ := acceptStage_eq_some.1 hfy
    have hymem := List.mem_of_getElem? hy
    have hylater := hlater y hymem hyorder
    have hyx := orderKey_le_of_getElem? hsorted hy hx hkj
    refine ⟨Nat.succ_le_succ hkj, hyx, ?_, ?_, fun z hz hyz => ?_⟩
    · rw [min_eq_left (hminmax.trans hylater)]
      exact (min_le_left _ _).trans hmin
    · exact (min_le_right _ _).trans (le_max_right _ _)
    · rw [max_eq_right hylater]
      exact hcons y hymem z hz hyz

/-- The earliest and the latest time of a sequence of candidates. -/
theorem CandidateChain.exists_span {xs : List (SequenceCandidate OrderKey)}
    (h : CandidateChain stageCount w xs) (hne : xs ≠ []) :
    ∃ lo hi : ℤ, hi - lo ≤ w ∧ ∀ x ∈ xs, lo ≤ x.timeMillis ∧ x.timeMillis ≤ hi := by
  classical
  have hfin : xs.toFinset.Nonempty := List.toFinset_nonempty_iff xs |>.2 hne
  obtain ⟨a, ha, hlo⟩ := xs.toFinset.exists_min_image (·.timeMillis) hfin
  obtain ⟨b, hb, hhi⟩ := xs.toFinset.exists_max_image (·.timeMillis) hfin
  refine ⟨a.timeMillis, b.timeMillis, ?_, fun x hx => ?_⟩
  · exact h.close a (List.mem_toFinset.1 ha) b (List.mem_toFinset.1 hb)
  · exact ⟨hlo x (List.mem_toFinset.2 hx), hhi x (List.mem_toFinset.2 hx)⟩

/-- **Every start of a sequence completes**, and stage by stage no later than the sequence. -/
theorem exists_selectFrom_le (hsorted : candidates.Pairwise fun a b => a.orderKey ≤ b.orderKey)
    (hcons : Consistent candidates) {start : SequenceCandidate OrderKey}
    {xs : List (SequenceCandidate OrderKey)} (hchain : CandidateChain stageCount w (start :: xs))
    (hmem : ∀ x ∈ start :: xs, x ∈ candidates) {i : ℕ} (hi : candidates[i]? = some start) :
    ∃ ks js t, selectFrom candidates stageCount w i start = some (i :: ks, t) ∧
      List.Forall₂ (fun j x => candidates[j]? = some x) js xs ∧ List.Forall₂ (· ≤ ·) ks js := by
  obtain ⟨lo, hi', hspan, hbounds⟩ := hchain.exists_span (by simp)
  obtain ⟨hlo, hhi⟩ := hbounds start List.mem_cons_self
  have hstart : 0 ∈ start.stageIndices := hchain.stage 0 start rfl
  have hpast : ∀ (j : ℕ) (y : SequenceCandidate OrderKey), j < i + 1 → candidates[j]? = some y →
      y.orderKey ≤ start.orderKey := fun j y hj hy =>
    orderKey_le_of_getElem? hsorted hy hi (Nat.le_of_lt_succ hj)
  obtain ⟨js, t, hjs, hgreedy⟩ := exists_chain (k := 1) (i := i + 1)
    (s := ⟨start.orderKey, start.timeMillis, start.timeMillis⟩) hspan hsorted
    (fun x hx => ⟨hmem x (List.mem_cons_of_mem _ hx), hbounds x (List.mem_cons_of_mem _ hx)⟩)
    (fun m x hx => by
      rw [Nat.add_comm]
      exact hchain.stage (m + 1) x (by simpa using hx))
    hchain.increasing hpast hlo hhi
  have hlen : xs.length = stageCount - 1 := by
    have := hchain.length_eq
    rw [List.length_cons] at this
    omega
  rw [hlen] at hgreedy
  have hahead : Ahead candidates (i + 1) ⟨start.orderKey, start.timeMillis, start.timeMillis⟩
      (i + 1) ⟨start.orderKey, start.timeMillis, start.timeMillis⟩ :=
    ⟨le_rfl, le_rfl, le_rfl, le_rfl, fun x hx hlt =>
      hcons start (hmem start List.mem_cons_self) x hx hlt⟩
  obtain ⟨ks, u, hext, hle⟩ := exists_extend_le hgreedy (dominates_ahead hsorted hcons _) hahead
  refine ⟨ks, js, u, ?_, hjs, hle⟩
  rw [selectFrom, if_neg (not_not.2 hstart), laterStages, hext, Option.map_some]

theorem selectFrom_isSome (hsorted : candidates.Pairwise fun a b => a.orderKey ≤ b.orderKey)
    (hcons : Consistent candidates) {start : SequenceCandidate OrderKey}
    {xs : List (SequenceCandidate OrderKey)} (hchain : CandidateChain stageCount w (start :: xs))
    (hmem : ∀ x ∈ start :: xs, x ∈ candidates) {i : ℕ} (hi : candidates[i]? = some start) :
    (selectFrom candidates stageCount w i start).isSome := by
  obtain ⟨ks, js, t, h, -⟩ := exists_selectFrom_le hsorted hcons hchain hmem hi
  rw [h]
  rfl

end Detection

end Cerbero
