import Mathlib.Data.Finset.Lattice.Basic
import Mathlib.Data.Finset.Sort
import Cerbero.Lib.EarliestWindow

/-!
# Lib/EarliestBurst — the earliest close set, without a scan

A close set of `k` elements is earliest if every close set of at least `k` elements has an element
that no element of it comes after (`IsEarliest`).  There is at most one (**`IsEarliest.unique`**),
and the windows that the two-pointer scan finds are such (**`isEarliest_of_window`**).
-/

namespace Cerbero

namespace EarliestWindow

variable {α : Type*} [LinearOrder α] {time : α → ℤ} {w : ℤ} {k : ℕ} {P : α → Prop}

/-- At least `k` elements of `P` that are close. -/
structure Burst (time : α → ℤ) (w : ℤ) (k : ℕ) (P : α → Prop) (S : Finset α) : Prop where
  many : k ≤ S.card
  holds : ∀ c ∈ S, P c
  close : Close time w S

/-- **The earliest burst**, as a list: `k` elements, and every burst ends no earlier. -/
structure IsEarliest (time : α → ℤ) (w : ℤ) (k : ℕ) (P : α → Prop) (cs : List α) : Prop where
  sorted : cs.Pairwise (· < ·)
  length_eq : cs.length = k
  burst : Burst time w k P cs.toFinset
  first : ∀ S, Burst time w k P S → ∃ c ∈ S, ∀ c' ∈ cs, c' ≤ c

theorem IsEarliest.nodup {cs : List α} (h : IsEarliest time w k P cs) : cs.Nodup :=
  h.sorted.imp fun hlt => hlt.ne

theorem IsEarliest.card_eq {cs : List α} (h : IsEarliest time w k P cs) :
    cs.toFinset.card = k := by
  rw [List.toFinset_card_of_nodup h.nodup, h.length_eq]

/-- The elements of the earliest burst are of `P`. -/
theorem IsEarliest.holds {cs : List α} (h : IsEarliest time w k P cs) {c : α} (hc : c ∈ cs) :
    P c :=
  h.burst.holds c (List.mem_toFinset.2 hc)

/-- Two close sets with a common last element are close to each other. -/
theorem Close.union {S T : Finset α} (ht : NeverDecreases time) (hS : Close time w S)
    (hT : Close time w T) {last : α} (hlastS : last ∈ S) (hlastT : last ∈ T)
    (hmaxS : ∀ c ∈ S, c ≤ last) (hmaxT : ∀ c ∈ T, c ≤ last) : Close time w (S ∪ T) := by
  intro a ha b hb
  have hb' : time b ≤ time last := by
    obtain hb | hb := Finset.mem_union.1 hb
    · exact ht (hmaxS b hb)
    · exact ht (hmaxT b hb)
  have ha' : time last - time a ≤ w := by
    obtain ha | ha := Finset.mem_union.1 ha
    · exact hS a ha last hlastS
    · exact hT a ha last hlastT
  omega

/-- The last element of the earliest burst. -/
theorem IsEarliest.exists_last {cs : List α} (h : IsEarliest time w k P cs) :
    ∃ last ∈ cs, ∀ c ∈ cs, c ≤ last := by
  obtain ⟨c, hc, hmax⟩ := h.first _ h.burst
  exact ⟨c, List.mem_toFinset.1 hc, hmax⟩

/-- The earliest bursts hold each other's elements. -/
theorem IsEarliest.subset {cs cs' : List α} (ht : NeverDecreases time)
    (h : IsEarliest time w k P cs) (h' : IsEarliest time w k P cs') :
    cs'.toFinset ⊆ cs.toFinset := by
  obtain ⟨last, hlast, hmax⟩ := h.exists_last
  obtain ⟨last', hlast', hmax'⟩ := h'.exists_last
  obtain ⟨c, hc, hle⟩ := h.first _ h'.burst
  obtain ⟨c', hc', hle'⟩ := h'.first _ h.burst
  obtain rfl : last = last' := le_antisymm
    ((hle last hlast).trans (hmax' c (List.mem_toFinset.1 hc)))
    ((hle' last' hlast').trans (hmax c' (List.mem_toFinset.1 hc')))
  have hclose := Close.union ht h.burst.close h'.burst.close (List.mem_toFinset.2 hlast)
    (List.mem_toFinset.2 hlast') (fun c hc => hmax c (List.mem_toFinset.1 hc))
    (fun c hc => hmax' c (List.mem_toFinset.1 hc))
  by_contra hnot
  -- one element more than `k`, so `k` are left without the last one: an earlier burst
  set T := cs.toFinset ∪ cs'.toFinset with hT
  have hcard : k < T.card := by
    rw [← h.card_eq]
    refine Finset.card_lt_card (Finset.ssubset_iff_subset_ne.2 ⟨Finset.subset_union_left, ?_⟩)
    intro heq
    exact hnot (heq ▸ Finset.subset_union_right)
  have hmem : last ∈ T := Finset.mem_union_left _ (List.mem_toFinset.2 hlast)
  have hburst : Burst time w k P (T.erase last) :=
    { many := by rw [Finset.card_erase_of_mem hmem]; omega
      holds := by
        intro c hc
        obtain hc | hc := Finset.mem_union.1 (Finset.mem_of_mem_erase hc)
        · exact h.burst.holds c hc
        · exact h'.burst.holds c hc
      close := fun a ha b hb =>
        hclose a (Finset.mem_of_mem_erase ha) b (Finset.mem_of_mem_erase hb) }
  obtain ⟨c, hc, hle⟩ := h.first _ hburst
  obtain ⟨hne, hc⟩ := Finset.mem_erase.1 hc
  refine hne (le_antisymm ?_ (hle last hlast))
  obtain hc | hc := Finset.mem_union.1 hc
  · exact hmax c (List.mem_toFinset.1 hc)
  · exact hmax' c (List.mem_toFinset.1 hc)

/-- **There is at most one earliest burst.** -/
theorem IsEarliest.unique {cs cs' : List α} (ht : NeverDecreases time)
    (h : IsEarliest time w k P cs) (h' : IsEarliest time w k P cs') : cs = cs' := by
  refine List.Pairwise.eq_of_mem_iff h.sorted h'.sorted fun c => ?_
  rw [← List.mem_toFinset, ← List.mem_toFinset,
    Finset.Subset.antisymm (h'.subset ht h) (h.subset ht h')]

/-- **The window of a scan is the earliest burst**: it ends at the least element up to which there
is a burst, and all of it is close to its end. -/
theorem isEarliest_of_window {cs : List α} (last : α) (ht : NeverDecreases time)
    (hsorted : cs.Pairwise (· < ·)) (hlength : cs.length = k)
    (hmem : ∀ c ∈ cs, P c ∧ c ≤ last ∧ time last - time c ≤ w)
    (hleast : ∀ c, P c → FullAt time w k P c → last ≤ c) (hk : 0 < k) :
    IsEarliest time w k P cs where
  sorted := hsorted
  length_eq := hlength
  burst :=
    { many := by rw [List.toFinset_card_of_nodup (hsorted.imp fun hlt => hlt.ne), hlength]
      holds := fun c hc => (hmem c (List.mem_toFinset.1 hc)).1
      close := by
        intro a ha b hb
        have hb' := ht (hmem b (List.mem_toFinset.1 hb)).2.1
        have ha' := (hmem a (List.mem_toFinset.1 ha)).2.2
        omega }
  first := by
    intro S hS
    have hne : S.Nonempty := Finset.card_pos.1 (hk.trans_le hS.many)
    refine ⟨S.max' hne, S.max'_mem hne, fun c' hc' => (hmem c' hc').2.1.trans ?_⟩
    exact hleast _ (hS.holds _ (S.max'_mem hne))
      ⟨S, hS.many, fun x hx => ⟨hS.holds x hx, S.le_max' x hx⟩, hS.close⟩

end EarliestWindow

end Cerbero
