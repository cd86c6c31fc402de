import Mathlib.Tactic.Common

/-!
# Lib/Stateful — computations with a state that may fail

A computation that fails keeps the state it failed in.  A sequence succeeds exactly if each of its
parts does, each in the state the one before has left (`on_bind_eq_ok`).  A computation can be
watched: `recorded` notes what it answered in a history beside its state.
-/

namespace Cerbero

/-- A computation on a state that may fail. -/
abbrev Stateful (σ ε : Type) : Type → Type := ExceptT ε (StateM σ)

namespace Stateful

variable {σ ε α β : Type}

/-- A computation by what it does to each state. -/
def of (f : σ → Except ε α × σ) : Stateful σ ε α := ExceptT.mk f

/-- The result of a computation that starts in a state, and the state it ends in. -/
def on (x : Stateful σ ε α) (s : σ) : Except ε α × σ := ExceptT.run x s

/-- A check that leaves the state alone. -/
def checked (x : Except ε α) : Stateful σ ε α := of fun s => (x, s)

@[simp] theorem on_checked (x : Except ε α) (s : σ) : (checked x).on s = (x, s) := rfl

@[simp] theorem on_pure (a : α) (s : σ) : (pure a : Stateful σ ε α).on s = (.ok a, s) := rfl

theorem on_bind (x : Stateful σ ε α) (f : α → Stateful σ ε β) (s : σ) :
    (x >>= f).on s = match x.on s with
      | (.ok a, s') => (f a).on s'
      | (.error e, s') => (.error e, s') := by
  show (ExceptT.bindCont f (x s).1 (x s).2 : Except ε β × σ) = _
  rw [on, show ExceptT.run x s = x s from rfl]
  match x s with
  | (.ok _, _) => rfl
  | (.error _, _) => rfl

/-- **A sequence succeeds if its parts do**, one after the other. -/
@[simp] theorem on_bind_eq_ok {x : Stateful σ ε α} {f : α → Stateful σ ε β} {s s' : σ} {b : β} :
    (x >>= f).on s = (.ok b, s') ↔
      ∃ a s₁, x.on s = (.ok a, s₁) ∧ (f a).on s₁ = (.ok b, s') := by
  rw [on_bind]
  match x.on s with
  | (.ok a, s₁) =>
    refine ⟨fun h => ⟨a, s₁, rfl, h⟩, ?_⟩
    rintro ⟨a', s₂, heq, h⟩
    obtain ⟨ha, rfl⟩ := Prod.mk.inj heq
    obtain rfl := Except.ok.inj ha
    exact h
  | (.error e, s₁) =>
    refine ⟨fun h => (nomatch (Prod.mk.inj h).1), ?_⟩
    rintro ⟨a', s₂, heq, -⟩
    exact nomatch (Prod.mk.inj heq).1

/-- What succeeds first is followed by the rest. -/
theorem on_bind_of_ok {x : Stateful σ ε α} {f : α → Stateful σ ε β} {s s' : σ} {a : α}
    (h : x.on s = (.ok a, s')) : (x >>= f).on s = (f a).on s' := by
  rw [on_bind, h]

/-- What fails first ends a sequence. -/
theorem on_bind_of_error {x : Stateful σ ε α} {f : α → Stateful σ ε β} {s s' : σ} {e : ε}
    (h : x.on s = (.error e, s')) : (x >>= f).on s = (.error e, s') := by
  rw [on_bind, h]

/-! ## Histories -/

/-- A computation that also keeps a history of what was answered: its note comes last. -/
def recorded {η : Type} (note : Except ε α → η) (x : Stateful σ ε α) :
    Stateful (σ × List η) ε α :=
  of fun s => ((x.on s.1).1, ((x.on s.1).2, s.2 ++ [note (x.on s.1).1]))

@[simp] theorem on_recorded {η : Type} (note : Except ε α → η) (x : Stateful σ ε α)
    (s : σ × List η) :
    (recorded note x).on s = ((x.on s.1).1, ((x.on s.1).2, s.2 ++ [note (x.on s.1).1])) := rfl

/-! ## Where a computation may lead -/

/-- Wherever a computation starts, it ends in a state related to that one, also if it fails. -/
def Moves (R : σ → σ → Prop) (x : Stateful σ ε α) : Prop := ∀ s, R s (x.on s).2

variable {R : σ → σ → Prop}

theorem moves_checked (hrefl : ∀ s, R s s) (x : Except ε α) : Moves R (checked x) :=
  fun s => hrefl s

/-- **A sequence leads where its parts do**, one after the other. -/
theorem moves_bind (htrans : ∀ s t u, R s t → R t u → R s u) {x : Stateful σ ε α}
    {f : α → Stateful σ ε β} (hx : Moves R x) (hf : ∀ a, Moves R (f a)) : Moves R (x >>= f) := by
  intro s
  have hs := hx s
  rw [on_bind]
  cases hrun : x.on s with
  | mk r t =>
    rw [hrun] at hs
    cases r with
    | ok a => exact htrans s t _ hs (hf a t)
    | error e => exact hs

end Stateful

end Cerbero
