import Mathlib.Data.List.Basic
import Mathlib.Order.Basic
import Mathlib.Order.Lattice

/-!
# Lib/Leader — the elements with the greatest key

One pass over a list keeps those with the greatest key so far: a greater key starts anew, an equal
one is added, and an element without a key is passed over.  In the end these are the elements with
the greatest key of all (**`leads_scan`**), so one element is left alone exactly if its key is
greater than every other one (**`scan_eq_singleton`**), and the order of the list decides nothing but
the order of the result (`scan_perm`).
-/

namespace Cerbero

namespace Leader

variable {α β κ : Type*} [LinearOrder κ] (key : α → Option κ)

/-- One element of the pass. -/
def step (leaders : List α) (a : α) : List α :=
  match key a, leaders.head?.bind key with
  | none, _ => leaders
  | some _, none => [a]
  | some k, some top => if top < k then [a] else if k = top then leaders ++ [a] else leaders

/-- **The pass.** -/
def scan (l : List α) : List α := l.foldl (step key) []

/-- `leaders` are the elements of `l` with the greatest key. -/
def Leads (l leaders : List α) : Prop :=
  (leaders = [] ∧ ∀ a ∈ l, key a = none) ∨
    ∃ top, leaders = l.filter (fun a => key a = some top) ∧ leaders ≠ [] ∧
      ∀ a ∈ l, ∀ k, key a = some k → k ≤ top

variable {key}

theorem key_of_leads {l leaders : List α} {top : κ}
    (h : leaders = l.filter fun a => key a = some top) (hne : leaders ≠ []) :
    leaders.head?.bind key = some top := by
  match leaders, h, hne with
  | a :: leaders, h, _ =>
    have ha : a ∈ l.filter fun a => key a = some top := h ▸ List.mem_cons_self
    exact of_decide_eq_true (List.mem_filter.1 ha).2

/-- What one element does. -/
theorem leads_step {l leaders : List α} (h : Leads key l leaders) (a : α) :
    Leads key (l ++ [a]) (step key leaders a) := by
  have hmem {P : α → Prop} (hl : ∀ b ∈ l, P b) (ha : P a) : ∀ b ∈ l ++ [a], P b :=
    List.forall_mem_append.2 ⟨hl, List.forall_mem_singleton.2 ha⟩
  unfold step
  match hkey : key a with
  | none =>
    obtain ⟨rfl, hnone⟩ | ⟨top, hleaders, hne, hmax⟩ := h
    · exact .inl ⟨rfl, hmem hnone hkey⟩
    · refine .inr ⟨top, ?_, hne, hmem hmax fun k hk => nomatch hkey.symm.trans hk⟩
      simp [List.filter_append, hkey, hleaders]
  | some k =>
    obtain ⟨rfl, hnone⟩ | ⟨top, hleaders, hne, hmax⟩ := h
    · refine .inr ⟨k, ?_, List.cons_ne_nil _ _, hmem (fun b hb k' hk' => ?_) fun k' hk' => ?_⟩
      · have hfilter : l.filter (fun b => key b = some k) = [] :=
          List.filter_eq_nil_iff.2 fun b hb => by simp [hnone b hb]
        simp [List.filter_append, hfilter, hkey]
      · exact nomatch (hnone b hb).symm.trans hk'
      · exact (Option.some.inj (hkey.symm.trans hk')).ge
    · simp only [key_of_leads hleaders hne]
      split_ifs with hlt heq
      · refine .inr ⟨k, ?_, List.cons_ne_nil _ _, hmem (fun b hb k' hk' => ?_) fun k' hk' => ?_⟩
        · have hfilter : l.filter (fun b => key b = some k) = [] :=
            List.filter_eq_nil_iff.2 fun b hb => by
              rw [decide_eq_true_eq]
              exact fun hk => absurd (hmax b hb k hk) hlt.not_ge
          simp [List.filter_append, hfilter, hkey]
        · exact (hmax b hb k' hk').trans hlt.le
        · exact (Option.some.inj (hkey.symm.trans hk')).ge
      · refine .inr ⟨top, ?_, by simp, hmem hmax fun k' hk' => ?_⟩
        · simp [List.filter_append, hkey, heq, hleaders]
        · exact ((Option.some.inj (hkey.symm.trans hk')).symm.trans heq).le
      · refine .inr ⟨top, ?_, hne, hmem hmax fun k' hk' => ?_⟩
        · simp [List.filter_append, hkey, heq, hleaders]
        · exact (Option.some.inj (hkey.symm.trans hk')).symm.le.trans (not_lt.1 hlt)

variable (key) in
/-- **The pass ends with the elements that have the greatest key.** -/
theorem leads_scan (l : List α) : Leads key l (scan key l) := by
  have hfold : ∀ (l before leaders : List α), Leads key before leaders →
      Leads key (before ++ l) (l.foldl (step key) leaders) := by
    intro l
    induction l with
    | nil => exact fun before leaders h => by rwa [List.append_nil]
    | cons a l ih =>
      intro before leaders h
      rw [List.append_cons]
      exact ih _ _ (leads_step h a)
  exact hfold l [] [] (.inl ⟨rfl, fun _ h => nomatch h⟩)

theorem scan_eq_nil {l : List α} : scan key l = [] ↔ ∀ a ∈ l, key a = none := by
  obtain ⟨hnil, hnone⟩ | ⟨top, hleaders, hne, -⟩ := leads_scan key l
  · exact iff_of_true hnil hnone
  · refine iff_of_false hne fun hnone => hne ?_
    rw [hleaders]
    exact List.filter_eq_nil_iff.2 fun a ha => by simp [hnone a ha]

/-- **One element is left alone exactly if its key is greater than every other one.** -/
theorem scan_eq_singleton {l : List α} {a : α} :
    scan key l = [a] ↔ ∃ before after top, l = before ++ a :: after ∧ key a = some top ∧
      ∀ b ∈ before ++ after, ∀ k, key b = some k → k < top := by
  obtain ⟨hnil, hnone⟩ | ⟨top, hleaders, hne, hmax⟩ := leads_scan key l
  · refine iff_of_false (fun h => nomatch hnil.symm.trans h) ?_
    rintro ⟨before, after, top, rfl, ha, -⟩
    exact nomatch (hnone a (by simp)).symm.trans ha
  constructor
  · intro h
    rw [hleaders, List.filter_eq_cons_iff] at h
    obtain ⟨before, after, rfl, hbefore, ha, hafter⟩ := h
    rw [decide_eq_true_eq] at ha
    refine ⟨before, after, top, rfl, ha, fun b hb k hk => ?_⟩
    have hle : k ≤ top := by
      refine hmax b ?_ k hk
      rw [List.mem_append] at hb
      exact hb.elim (fun hb => by simp [hb]) fun hb => by simp [hb]
    refine lt_of_le_of_ne hle ?_
    rintro rfl
    obtain hb | hb := List.mem_append.1 hb
    · exact hbefore b hb (decide_eq_true hk)
    · exact List.filter_eq_nil_iff.1 hafter b hb (decide_eq_true hk)
  · rintro ⟨before, after, top', rfl, ha, hless⟩
    have htop : top = top' := by
      refine le_antisymm ?_ (hmax a (by simp) top' ha)
      obtain ⟨b, hb⟩ := List.exists_mem_of_ne_nil _ hne
      rw [hleaders, List.mem_filter, decide_eq_true_eq] at hb
      obtain ⟨hb, hk⟩ := hb
      rw [List.mem_append, List.mem_cons] at hb
      obtain hb | rfl | hb := hb
      · exact (hless b (List.mem_append_left _ hb) top hk).le
      · exact (Option.some.inj (hk.symm.trans ha)).le
      · exact (hless b (List.mem_append_right _ hb) top hk).le
    have hothers : ∀ l' : List α, (∀ b ∈ l', b ∈ before ++ after) →
        l'.filter (fun b => key b = some top) = [] := fun l' hl' =>
      List.filter_eq_nil_iff.2 fun b hb => by
        rw [decide_eq_true_eq]
        exact fun hk => absurd (hless b (hl' b hb) top hk) (by rw [htop]; exact lt_irrefl _)
    rw [hleaders, List.filter_append, hothers before fun b hb => List.mem_append_left _ hb,
      List.filter_cons_of_pos (by simp [ha, htop]),
      hothers after fun b hb => List.mem_append_right _ hb, List.nil_append]

/-- **The order of a list decides the order of the result, and nothing else.** -/
theorem scan_perm {l l' : List α} (h : l.Perm l') : (scan key l).Perm (scan key l') := by
  obtain ⟨hnil, hnone⟩ | ⟨top, hleaders, hne, hmax⟩ := leads_scan key l
  · rw [hnil, scan_eq_nil.2 fun a ha => hnone a (h.mem_iff.2 ha)]
  obtain ⟨-, hnone'⟩ | ⟨top', hleaders', hne', hmax'⟩ := leads_scan key l'
  · exact absurd (scan_eq_nil.2 fun a ha => hnone' a (h.mem_iff.1 ha)) hne
  have hkey {l leaders : List α} {top : κ} (hleaders : leaders = l.filter fun a => key a = some top)
      (hne : leaders ≠ []) : ∃ a ∈ l, key a = some top := by
    obtain ⟨a, ha⟩ := List.exists_mem_of_ne_nil _ hne
    rw [hleaders, List.mem_filter, decide_eq_true_eq] at ha
    exact ⟨a, ha⟩
  obtain ⟨a, ha, htop⟩ := hkey hleaders hne
  obtain ⟨a', ha', htop'⟩ := hkey hleaders' hne'
  have heq : top = top' :=
    le_antisymm (hmax' a (h.mem_iff.1 ha) top htop) (hmax a' (h.mem_iff.2 ha') top' htop')
  rw [hleaders, hleaders', heq]
  exact h.filter _

variable (key) in
/-- A pass over images is the image of a pass. -/
theorem scan_map (f : β → α) (l : List β) :
    scan key (l.map f) = (scan (fun b => key (f b)) l).map f := by
  have hstep : ∀ (leaders : List β) (b : β),
      step key (leaders.map f) (f b) = (step (fun b => key (f b)) leaders b).map f := by
    intro leaders b
    have hhead : (leaders.map f).head?.bind key = leaders.head?.bind fun b => key (f b) := by
      cases leaders <;> rfl
    unfold step
    rw [hhead]
    dsimp only
    match key (f b), leaders.head?.bind fun b => key (f b) with
    | none, _ => rfl
    | some _, none => rfl
    | some k, some top =>
      dsimp only
      split_ifs
      · rfl
      · rw [List.map_append, List.map_singleton]
      · rfl
  have hfold : ∀ (l leaders : List β),
      (l.map f).foldl (step key) (leaders.map f) =
        (l.foldl (step fun b => key (f b)) leaders).map f := by
    intro l
    induction l with
    | nil => exact fun _ => rfl
    | cons b l ih =>
      intro leaders
      rw [List.map_cons, List.foldl_cons, List.foldl_cons, hstep, ih]
  exact hfold l []

end Leader

end Cerbero
