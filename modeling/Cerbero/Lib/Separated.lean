import Mathlib.Data.List.Basic
import Mathlib.Data.List.Induction
import Mathlib.Tactic.Common

/-!
# Lib/Separated — fields written one after the other, each after a separator

A list of fields is written with a separator before each field.  If no field contains the separator,
the fields can be read back (`joinAfter_injective`), also from the end when something else stands
before them (`append_joinAfter_suffix`); a field that ends at its first separator can be read off the
front (`append_cons_inj`).
-/

namespace Cerbero

namespace Separated

variable {α : Type*} {sep : α}

/-- Each field with the separator before it. -/
def joinAfter (sep : α) (fields : List (List α)) : List α := fields.flatMap (sep :: ·)

@[simp] theorem joinAfter_nil (sep : α) : joinAfter sep [] = [] := rfl

@[simp] theorem joinAfter_cons (sep : α) (field : List α) (fields : List (List α)) :
    joinAfter sep (field :: fields) = sep :: (field ++ joinAfter sep fields) := rfl

theorem joinAfter_append (sep : α) (fields fields' : List (List α)) :
    joinAfter sep (fields ++ fields') = joinAfter sep fields ++ joinAfter sep fields' :=
  List.flatMap_append

/-- **A field that does not contain the separator ends at the first one.** -/
theorem append_cons_inj : ∀ {a a' r r' : List α}, sep ∉ a → sep ∉ a' →
    a ++ sep :: r = a' ++ sep :: r' → a = a' ∧ r = r'
  | [], [], _, _, _, _, h => ⟨rfl, (List.cons.inj h).2⟩
  | [], x :: a', _, _, _, ha', h => by
      rw [List.nil_append, List.cons_append] at h
      exact absurd ((List.cons.inj h).1 ▸ List.mem_cons_self) ha'
  | x :: a, [], _, _, ha, _, h => by
      rw [List.nil_append, List.cons_append] at h
      exact absurd ((List.cons.inj h).1 ▸ List.mem_cons_self) ha
  | x :: a, y :: a', r, r', ha, ha', h => by
      obtain ⟨rfl, htail⟩ := List.cons.inj h
      obtain ⟨rfl, hr⟩ := append_cons_inj (fun hm => ha (List.mem_cons_of_mem _ hm))
        (fun hm => ha' (List.mem_cons_of_mem _ hm)) htail
      exact ⟨rfl, hr⟩

/-- A field that does not contain the separator starts after the last one. -/
theorem append_cons_inj_right {a a' r r' : List α} (hr : sep ∉ r) (hr' : sep ∉ r')
    (h : a ++ sep :: r = a' ++ sep :: r') : a = a' ∧ r = r' := by
  have hreverse : r.reverse ++ sep :: a.reverse = r'.reverse ++ sep :: a'.reverse := by
    simpa using congrArg List.reverse h
  obtain ⟨hr, ha⟩ := append_cons_inj (by simpa using hr) (by simpa using hr') hreverse
  exact ⟨List.reverse_injective ha, List.reverse_injective hr⟩

/-- A field and what follows it, when what follows is empty or starts with the separator. -/
theorem append_joinAfter_inj {a a' : List α} {fields fields' : List (List α)} (ha : sep ∉ a)
    (ha' : sep ∉ a') (h : a ++ joinAfter sep fields = a' ++ joinAfter sep fields') :
    a = a' ∧ joinAfter sep fields = joinAfter sep fields' := by
  cases fields with
  | nil =>
    cases fields' with
    | nil => exact ⟨by simpa using h, rfl⟩
    | cons f' fs' =>
      have hmem : sep ∈ a := by
        rw [joinAfter_nil, List.append_nil, joinAfter_cons] at h
        rw [h]
        simp
      exact absurd hmem ha
  | cons f fs =>
    cases fields' with
    | nil =>
      have hmem : sep ∈ a' := by
        rw [joinAfter_nil, List.append_nil, joinAfter_cons] at h
        rw [← h]
        simp
      exact absurd hmem ha'
    | cons f' fs' =>
      rw [joinAfter_cons, joinAfter_cons] at h ⊢
      obtain ⟨rfl, hrest⟩ := append_cons_inj ha ha' h
      exact ⟨rfl, by rw [hrest]⟩

/-- **Fields without the separator can be read back.** -/
theorem joinAfter_injective : ∀ {fields fields' : List (List α)}, (∀ f ∈ fields, sep ∉ f) →
    (∀ f ∈ fields', sep ∉ f) → joinAfter sep fields = joinAfter sep fields' → fields = fields'
  | [], [], _, _, _ => rfl
  | [], _ :: _, _, _, h => by simp at h
  | _ :: _, [], _, _, h => by simp at h
  | f :: fs, f' :: fs', hf, hf', h => by
      rw [joinAfter_cons, joinAfter_cons] at h
      obtain ⟨rfl, hrest⟩ := append_joinAfter_inj (hf f List.mem_cons_self)
        (hf' f' List.mem_cons_self) (List.cons.inj h).2
      rw [joinAfter_injective (fun g hg => hf g (List.mem_cons_of_mem _ hg))
        (fun g hg => hf' g (List.mem_cons_of_mem _ hg)) hrest]

/-- **Fields without the separator can be read back from the end**, whatever stands before them. -/
theorem append_joinAfter_suffix {fields fields' : List (List α)} {a a' : List α}
    (hf : ∀ f ∈ fields, sep ∉ f) (hf' : ∀ f ∈ fields', sep ∉ f)
    (hlength : fields.length ≤ fields'.length)
    (h : a ++ joinAfter sep fields = a' ++ joinAfter sep fields') :
    ∃ more, fields' = more ++ fields ∧ a = a' ++ joinAfter sep more := by
  induction fields using List.reverseRecOn generalizing fields' with
  | nil => exact ⟨fields', (List.append_nil _).symm, by simpa using h⟩
  | append_singleton fields f ih =>
    obtain rfl | ⟨front, g, rfl⟩ := List.eq_nil_or_concat fields'
    · simp at hlength
    · rw [List.concat_eq_append] at hf' hlength ⊢
      have hlast : (a ++ joinAfter sep fields) ++ sep :: f =
          (a' ++ joinAfter sep front) ++ sep :: g := by
        simpa [joinAfter_append] using h
      obtain ⟨hrest, rfl⟩ := append_cons_inj_right (hf f (by simp)) (hf' g (by simp)) hlast
      obtain ⟨more, rfl, ha⟩ := ih (fun x hx => hf x (List.mem_append_left _ hx))
        (fun x hx => hf' x (List.mem_append_left _ hx)) (by simpa using hlength) hrest
      exact ⟨more, List.append_assoc _ _ _, ha⟩

end Separated

end Cerbero
