import Mathlib.Data.List.Forall2
import Mathlib.Tactic.Common

/-!
# Lib/Fallible — sequencing and looping in `Except`

A run of checks succeeds exactly if each of them does (`bind_eq_ok`, `check_bind_eq_ok`), and a loop
that keeps some results is inverted once and for all (`filterMapOk_eq_ok`).
-/

namespace Cerbero

/-! ## Sequencing -/

theorem ok_bind {ε : Type*} {α β : Type} (a : α) (f : α → Except ε β) :
    (Except.ok a >>= f) = f a := rfl

theorem error_bind {ε : Type*} {α β : Type} (e : ε) (f : α → Except ε β) :
    (Except.error e >>= f) = .error e := rfl

/-- Computations run one after the other, and all of them have to succeed. -/
@[simp] theorem bind_eq_ok {ε : Type*} {α β : Type} {x : Except ε α} {f : α → Except ε β} {b : β} :
    x >>= f = .ok b ↔ ∃ a, x = .ok a ∧ f a = .ok b := by
  cases x with
  | error e => exact ⟨fun h => (nomatch h), fun ⟨_, h, _⟩ => (nomatch h)⟩
  | ok a => exact ⟨fun h => ⟨a, rfl, h⟩, fun ⟨a', ha, h⟩ => by cases ha; exact h⟩

/-- A sequence succeeds exactly if its parts do, one after the other. -/
theorem exists_bind_eq_ok {ε : Type*} {α β : Type} {x : Except ε α} {f : α → Except ε β} :
    (∃ b, (x >>= f) = .ok b) ↔ ∃ a, x = .ok a ∧ ∃ b, f a = .ok b := by
  simp only [bind_eq_ok]
  exact ⟨fun ⟨b, a, ha, hb⟩ => ⟨a, ha, b, hb⟩, fun ⟨a, ha, b, hb⟩ => ⟨b, a, ha, hb⟩⟩

/-- A check that comes first has to pass first. -/
theorem check_bind_eq_ok {ε : Type*} {β : Type} {x : Except ε Unit} {f : Unit → Except ε β}
    {b : β} : x >>= f = .ok b ↔ x = .ok () ∧ f () = .ok b :=
  bind_eq_ok.trans ⟨fun ⟨(), h⟩ => h, fun h => ⟨(), h⟩⟩

/-- A guard that comes first has to be passed first. -/
theorem guard_eq_ok {ε : Type*} {β : Type} {c : Prop} [Decidable c] {e : ε} {f : Unit → Except ε β}
    {b : β} : (if c then Except.error e >>= f else f ()) = .ok b ↔ ¬ c ∧ f () = .ok b := by
  split
  · rename_i hc
    exact ⟨fun h => (nomatch h), fun h => absurd hc h.1⟩
  · rename_i hc
    exact ⟨fun h => ⟨hc, h⟩, fun h => h.2⟩

/-- A sequence fails where one of its parts does. -/
theorem bind_eq_error {ε : Type*} {α β : Type} {x : Except ε α} {f : α → Except ε β} {e : ε} :
    x >>= f = .error e ↔ x = .error e ∨ ∃ a, x = .ok a ∧ f a = .error e := by
  match x with
  | .error e' =>
    rw [error_bind, Except.error.injEq, Except.error.injEq]
    exact ⟨.inl, fun h => h.elim (fun h => h) fun ⟨_, h, _⟩ => (nomatch h)⟩
  | .ok a =>
    refine ⟨fun h => .inr ⟨a, rfl, h⟩, fun h => ?_⟩
    obtain h | ⟨a', ha, h⟩ := h
    · exact nomatch h
    · obtain rfl := Except.ok.inj ha
      exact h

theorem guard_eq_error {ε : Type*} {β : Type} {c : Prop} [Decidable c] {e e' : ε}
    {f : Unit → Except ε β} : (if c then Except.error e >>= f else f ()) = .error e' ↔
      c ∧ e = e' ∨ ¬ c ∧ f () = .error e' := by
  split
  · rename_i hc
    exact ⟨fun h => .inl ⟨hc, Except.error.inj h⟩, fun h => h.elim (fun h => congrArg _ h.2)
      fun h => absurd hc h.1⟩
  · rename_i hc
    exact ⟨fun h => .inr ⟨hc, h⟩, fun h => h.elim (fun h => absurd h.1 hc) And.right⟩

/-- Renaming the error of a computation does not make it succeed. -/
theorem mapError_eq_ok {ε ε' α : Type} {f : ε → ε'} {x : Except ε α} {a : α} :
    x.mapError f = .ok a ↔ x = .ok a := by
  cases x <;> simp [Except.mapError]

theorem mapError_eq_error {ε ε' α : Type} {f : ε → ε'} {x : Except ε α} {e : ε'} :
    x.mapError f = .error e ↔ ∃ e', x = .error e' ∧ f e' = e := by
  cases x <;> simp [Except.mapError]

/-- Changing the result of a computation does not make it succeed. -/
theorem exceptMap_eq_ok {ε : Type*} {α β : Type} {f : α → β} {x : Except ε α} {b : β} :
    x.map f = .ok b ↔ ∃ a, x = .ok a ∧ f a = b := by
  match x with
  | .error e => exact ⟨fun h => (nomatch h), fun ⟨_, h, _⟩ => (nomatch h)⟩
  | .ok a =>
    refine ⟨fun h => ⟨a, rfl, Except.ok.inj h⟩, fun ⟨a', ha, h⟩ => ?_⟩
    obtain rfl := Except.ok.inj ha
    exact congrArg _ h

/-! ## Looping -/

/-- A loop whose steps succeed has their results. -/
theorem mapM_eq_ok {ε : Type*} {α β : Type} {f : α → Except ε β} {g : α → β} : ∀ {l : List α},
    (∀ a ∈ l, f a = .ok (g a)) → l.mapM f = .ok (l.map g)
  | [], _ => rfl
  | a :: l, h => by
      obtain ⟨ha, hl⟩ := List.forall_mem_cons.1 h
      rw [List.mapM_cons, ha, ok_bind, mapM_eq_ok hl]
      rfl

section

variable {ε α β : Type} {f : α → Except ε (Option β)}

/-- Run `f` on every element, stop at the first error, and keep the results that are there. -/
def filterMapOk (f : α → Except ε (Option β)) : List α → Except ε (List β)
  | [] => .ok []
  | a :: l => do
    let found ← f a
    return found.toList ++ (← filterMapOk f l)

theorem filterMapOk_map {γ : Type} (g : γ → α) :
    ∀ l : List γ, filterMapOk f (l.map g) = filterMapOk (fun c => f (g c)) l
  | [] => rfl
  | c :: l => by rw [List.map_cons, filterMapOk, filterMapOk, filterMapOk_map g l]

/-- **What a loop kept, and of which elements.** -/
theorem filterMapOk_eq_ok : ∀ {l : List α} {found : List β}, filterMapOk f l = .ok found →
    ∃ hits : List α, hits.Sublist l ∧ (∀ a, a ∈ hits ↔ a ∈ l ∧ ∃ b, f a = .ok (some b)) ∧
      List.Forall₂ (fun a b => f a = .ok (some b)) hits found
  | [], found, h => by
      obtain rfl := Except.ok.inj h
      exact ⟨[], List.Sublist.refl _, by simp, .nil⟩
  | a :: l, found, h => by
      obtain ⟨o, ho, h⟩ := bind_eq_ok.1 h
      obtain ⟨rest, hrest, h⟩ := bind_eq_ok.1 h
      obtain rfl := Except.ok.inj h
      obtain ⟨hits, hsub, hmem, hall⟩ := filterMapOk_eq_ok hrest
      cases o with
      | none =>
        refine ⟨hits, hsub.cons _, fun x => ?_, hall⟩
        rw [hmem, List.mem_cons]
        refine ⟨fun ⟨hx, hb⟩ => ⟨Or.inr hx, hb⟩, ?_⟩
        rintro ⟨rfl | hx, b, hb⟩
        · rw [ho] at hb
          exact absurd (Except.ok.inj hb) (by simp)
        · exact ⟨hx, b, hb⟩
      | some b =>
        refine ⟨a :: hits, hsub.cons_cons _, fun x => ?_, .cons ho hall⟩
        rw [List.mem_cons, List.mem_cons, hmem]
        refine ⟨?_, fun ⟨hx, hb⟩ => hx.imp_right fun hx => ⟨hx, hb⟩⟩
        rintro (rfl | ⟨hx, hb⟩)
        · exact ⟨Or.inl rfl, b, ho⟩
        · exact ⟨Or.inr hx, hb⟩

/-- A loop that ends has run on every element. -/
theorem exists_of_filterMapOk_eq_ok : ∀ {l : List α} {found : List β},
    filterMapOk f l = .ok found → ∀ a ∈ l, ∃ o, f a = .ok o
  | [], _, _, a, ha => by simp at ha
  | x :: l, found, h, a, ha => by
      obtain ⟨o, ho, h⟩ := bind_eq_ok.1 h
      obtain ⟨rest, hrest, -⟩ := bind_eq_ok.1 h
      rcases List.mem_cons.1 ha with rfl | ha
      · exact ⟨o, ho⟩
      · exact exists_of_filterMapOk_eq_ok hrest a ha

/-- A loop whose elements all succeed succeeds. -/
theorem exists_filterMapOk_eq_ok : ∀ {l : List α}, (∀ a ∈ l, ∃ o, f a = .ok o) →
    ∃ found, filterMapOk f l = .ok found
  | [], _ => ⟨[], rfl⟩
  | a :: l, h => by
      obtain ⟨o, ho⟩ := h a List.mem_cons_self
      obtain ⟨rest, hrest⟩ := exists_filterMapOk_eq_ok fun x hx => h x (List.mem_cons_of_mem _ hx)
      exact ⟨o.toList ++ rest, bind_eq_ok.2 ⟨o, ho, bind_eq_ok.2 ⟨rest, hrest, rfl⟩⟩⟩

/-- The results a loop kept. -/
theorem mem_filterMapOk : ∀ {l : List α} {found : List β}, filterMapOk f l = .ok found →
    ∀ {b : β}, b ∈ found ↔ ∃ a ∈ l, f a = .ok (some b)
  | [], found, h, b => by
      obtain rfl := Except.ok.inj h
      simp
  | a :: l, found, h, b => by
      obtain ⟨o, ho, h⟩ := bind_eq_ok.1 h
      obtain ⟨rest, hrest, h⟩ := bind_eq_ok.1 h
      obtain rfl := Except.ok.inj h
      rw [List.mem_append, mem_filterMapOk hrest, Option.mem_toList, List.exists_mem_cons_iff, ho,
        Except.ok.injEq]

/-- **A loop over some of its elements** keeps the results these had. -/
theorem filterMapOk_filter {p : α → Bool} {q : β → Bool}
    (hpq : ∀ a b, f a = .ok (some b) → q b = p a) : ∀ {l : List α} {found : List β},
    filterMapOk f l = .ok found → filterMapOk f (l.filter p) = .ok (found.filter q)
  | [], found, h => by
      obtain rfl := Except.ok.inj h
      rfl
  | a :: l, found, h => by
      obtain ⟨o, ho, h⟩ := bind_eq_ok.1 h
      obtain ⟨rest, hrest, h⟩ := bind_eq_ok.1 h
      obtain rfl := Except.ok.inj h
      have htail := filterMapOk_filter hpq hrest
      have hkept : (o.toList.filter q) = if p a then o.toList else [] := by
        match o, ho with
        | none, _ => simp
        | some b, ho => cases hp : p a <;> simp [hpq a b ho, hp]
      rw [List.filter_append, hkept, List.filter_cons]
      split_ifs
      · exact bind_eq_ok.2 ⟨o, ho, bind_eq_ok.2 ⟨_, htail, rfl⟩⟩
      · exact htail

end

end Cerbero
