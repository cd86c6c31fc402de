import Cerbero.Lib.Program

/-!
# Lib/Rerun — a program that was run before finds everything done

Many calls share a state that only grows.  `Ends` says how one of them came to its end while the
others went on; `Settled` says that a program, whenever one of its operations runs from now on,
leaves the state as it is, and what it returns.  A program repeats another one (`Repeats`) if it is
settled wherever the other one has ended.  Repetition is proved operation by operation
(`repeats_call`, `repeats_try`), and **`Machine.settled_of_steps`** carries it to the runs of a
machine.
-/

namespace Cerbero

namespace Machine

variable {I : Interface} {G α β γ δ ε : Type} [Preorder G]

/-- The outcomes of operations only add to the state. -/
def Grows (Outcome : (o : I.Op) → G → I.Response o → G → Prop) : Prop :=
  ∀ o g r g', Outcome o g r g' → g ≤ g'

variable (Outcome : (o : I.Op) → G → I.Response o → G → Prop)

/-- **A program that started in one state ended with a result in another**: between its operations
the others have added to the state. -/
inductive Ends : Prog I α → G → α → G → Prop
  | pure (a : α) {g g' : G} (h : g ≤ g') : Ends (.pure a) g a g'
  | perform {o : I.Op} {next : I.Response o → Prog I α} {g t t' g' : G} {r : I.Response o} {a : α}
      (hle : g ≤ t) (ho : Outcome o t r t') (hnext : Ends (next r) t' a g') :
      Ends (.perform o next) g a g'

/-- **A program that changes nothing any more**: from this state on, whatever the others have added,
each of its operations leaves the state as it finds it, and its result satisfies `Q`. -/
def Settled (Q : α → Prop) : Prog I α → G → Prop
  | .pure a, _ => Q a
  | .perform o next, g => ∀ t, g ≤ t → ∀ r t', Outcome o t r t' → t' = t ∧ Settled Q (next r) t

variable {Outcome}

/-! ## How programs end -/

theorem Ends.of_le {p : Prog I α} {g t g' : G} {a : α} (hgt : g ≤ t) (h : Ends Outcome p t a g') :
    Ends Outcome p g a g' := by
  cases h with
  | pure a h => exact .pure a (le_trans hgt h)
  | perform hle ho hnext => exact .perform (le_trans hgt hle) ho hnext

theorem ends_pure {b a : α} {g g' : G} (h : Ends Outcome (.pure b) g a g') : b = a ∧ g ≤ g' := by
  cases h with
  | pure _ hle => exact ⟨rfl, hle⟩

theorem Ends.le (hgrows : Grows Outcome) {p : Prog I α} {g g' : G} {a : α}
    (h : Ends Outcome p g a g') : g ≤ g' := by
  induction h with
  | pure a h => exact h
  | perform hle ho _ ih => exact le_trans hle (le_trans (hgrows _ _ _ _ ho) ih)

/-- A sequence ends when its second part does, which starts when the first one has ended. -/
theorem Ends.exists_of_bind {f : α → Prog I β} {b : β} {g' : G} : ∀ {p : Prog I α} {g : G},
    Ends Outcome (p >>= f) g b g' →
      ∃ a u, Ends Outcome p g a u ∧ Ends Outcome (f a) u b g' := by
  intro p
  induction p with
  | pure a =>
    intro g h
    exact ⟨a, g, .pure a le_rfl, h⟩
  | perform o next ih =>
    intro g h
    cases h with
    | perform hle ho hnext =>
      obtain ⟨a, u, hfirst, hsecond⟩ := ih _ hnext
      exact ⟨a, u, .perform hle ho hfirst, hsecond⟩

/-- A sequence of fallible programs that succeeded is two programs that did. -/
theorem Ends.exists_of_try {p : ExceptT ε (Prog I) α} {f : α → ExceptT ε (Prog I) β} {b : β}
    {g g' : G} (h : Ends Outcome (p >>= f).run g (.ok b) g') :
    ∃ a u, Ends Outcome p.run g (.ok a) u ∧ Ends Outcome (f a).run u (.ok b) g' := by
  obtain ⟨r, u, hfirst, hsecond⟩ := Ends.exists_of_bind h
  cases r with
  | ok a => exact ⟨a, u, hfirst, hsecond⟩
  | error e => cases hsecond

/-! ## Settled programs -/

theorem Settled.of_le {Q : α → Prop} {g t : G} (hgt : g ≤ t) : ∀ {p : Prog I α},
    Settled Outcome Q p g → Settled Outcome Q p t := by
  intro p h
  cases p with
  | pure a => exact h
  | perform o next =>
    intro u htu
    exact h u (le_trans hgt htu)

/-- A settled program that runs alone. -/
theorem Settled.run {Q : α → Prop} {h : (o : I.Op) → G → I.Response o × G}
    (hh : ∀ o g, Outcome o g (h o g).1 (h o g).2) : ∀ {p : Prog I α} {g : G},
      Settled Outcome Q p g → (p.run h g).2 = g ∧ Q (p.run h g).1
  | .pure _, _, hp => ⟨rfl, hp⟩
  | .perform o next, g, hp => by
      obtain ⟨hsame, hnext⟩ := hp g le_rfl _ _ (hh o g)
      rw [Prog.run_perform, hsame]
      exact Settled.run hh hnext

theorem settled_bind {P : α → Prop} {Q : β → Prop} {f : α → Prog I β} : ∀ {p : Prog I α} {g : G},
    Settled Outcome P p g → (∀ a, P a → ∀ t, g ≤ t → Settled Outcome Q (f a) t) →
      Settled Outcome Q (p >>= f) g := by
  intro p
  induction p with
  | pure a =>
    intro g h hf
    exact hf a h g le_rfl
  | perform o next ih =>
    intro g h hf t hgt r t' ho
    obtain ⟨hsame, hnext⟩ := h t hgt r t' ho
    exact ⟨hsame, ih r hnext fun a ha u htu => hf a ha u (le_trans hgt htu)⟩

/-! ## Repetition -/

section

variable (Outcome) (Fault : ε → Prop)

/-- What a repetition may return: a result in relation to the first one, or the fault of an
operation. -/
def Again (R : α → Prop) : Except ε α → Prop
  | .ok b => R b
  | .error e => Fault e

/-- **A program repeats another one**: wherever the other one has ended with a result, it is settled,
and returns a result in relation to that one unless an operation fails. -/
def Repeats (R : α → β → Prop) (p : ExceptT ε (Prog I) α) (p' : ExceptT ε (Prog I) β) : Prop :=
  ∀ g a g', Ends Outcome p.run g (.ok a) g' → Settled Outcome (Again Fault (R a)) p'.run g'

end

section

variable {Fault : ε → Prop} {R : α → β → Prop} {S : γ → δ → Prop}

theorem repeats_pure {a : α} {b : β} (h : R a b) :
    Repeats Outcome Fault R (pure a : ExceptT ε (Prog I) α) (pure b) := by
  intro g a' g' hends
  cases hends with
  | pure _ _ => exact h

/-- A check that passed passes again. -/
theorem repeats_checked {x : Except ε α} {y : Except ε β}
    (h : ∀ a, x = .ok a → ∃ b, y = .ok b ∧ R a b) :
    Repeats Outcome Fault R (Prog.checked x) (Prog.checked y) := by
  intro g a g' hends
  have hx : x = .ok a := by
    cases hends with
    | pure _ _ => rfl
  obtain ⟨b, rfl, hR⟩ := h a hx
  exact hR

/-- An operation that was performed before. -/
theorem repeats_call (o o' : I.Op) (f : I.Response o → Except ε α)
    (f' : I.Response o' → Except ε β) (h : ∀ t r t' a, Outcome o t r t' → f r = .ok a → ∀ u, t' ≤ u → ∀ r' u', Outcome o' u r' u' →
      u' = u ∧ Again Fault (R a) (f' r')) :
    Repeats Outcome Fault R (ExceptT.mk (.perform o fun r => .pure (f r)))
      (ExceptT.mk (.perform o' fun r => .pure (f' r))) := by
  intro g a g' hends u hu r' u' ho'
  cases hends with
  | perform hle ho hnext =>
    obtain ⟨hresult, hle'⟩ := ends_pure hnext
    exact h _ _ _ a ho hresult u (le_trans hle' hu) r' u' ho'

theorem repeats_try (hgrows : Grows Outcome) {p : ExceptT ε (Prog I) α} {p' : ExceptT ε (Prog I) β}
    {f : α → ExceptT ε (Prog I) γ} {f' : β → ExceptT ε (Prog I) δ}
    (hp : Repeats Outcome Fault R p p')
    (hf : ∀ a b, R a b → Repeats Outcome Fault S (f a) (f' b)) :
    Repeats Outcome Fault S (p >>= f) (p' >>= f') := by
  intro g c g' hends
  obtain ⟨a, u, hfirst, hsecond⟩ := hends.exists_of_try
  refine settled_bind ((hp g a u hfirst).of_le (hsecond.le hgrows)) fun r hr t hgt => ?_
  cases r with
  | ok b => exact (hf a b hr u c g' hsecond).of_le hgt
  | error e => exact hr

end

/-! ## Whole runs -/

section

variable {Label : Type} {M : Machine I G Label α}

/-- What a call under way can still end with, its program can. -/
def Underway (M : Machine I G Label α) (s : State I G Label α) : Prop :=
  ∀ i l p, s.calls i = some (l, p) → ∀ a g', Ends M.Outcome p s.shared a g' →
    ∃ g, Ends M.Outcome (M.program l) g a g'

theorem underway_of_le {s : State I G Label α} {g : G} (h : Underway M s) (hle : s.shared ≤ g)
    {i : ℕ} {l : Label} {p : Prog I α} (hi : s.calls i = some (l, p)) {a : α} {g' : G}
    (hends : Ends M.Outcome p g a g') : ∃ g, Ends M.Outcome (M.program l) g a g' :=
  h i l p hi a g' (hends.of_le hle)

theorem underway_step (hgrows : Grows M.Outcome) {s s' : State I G Label α} (h : M.Step s s')
    (hs : Underway M s) : Underway M s' := by
  intro i l p hi a g' hends
  cases h with
  | start j k hj =>
    obtain rfl | hne := eq_or_ne i j
    · obtain ⟨rfl, rfl⟩ : k = l ∧ M.program k = p := by simpa using hi
      exact ⟨_, hends⟩
    · exact hs i l p (by simpa [hne] using hi) a g' hends
  | perform j k o next r g hj ho =>
    obtain rfl | hne := eq_or_ne i j
    · obtain ⟨rfl, rfl⟩ : k = l ∧ next r = p := by simpa using hi
      exact hs i k _ hj a g' (.perform le_rfl ho hends)
    · exact underway_of_le hs (hgrows _ _ _ _ ho) (by simpa [hne] using hi) hends
  | stop j =>
    obtain rfl | hne := eq_or_ne i j
    · simp at hi
    · exact hs i l p (by simpa [hne] using hi) a g' hends
  | crash g hc => simp at hi

theorem underway_of_reachable (hgrows : Grows M.Outcome) {g₀ : G} {s : State I G Label α}
    (hs : M.Reachable g₀ s) : Underway M s := by
  induction hs with
  | refl =>
    intro i l p hi
    simp at hi
  | tail _ hstep ih => exact underway_step hgrows hstep ih

/-- A call that has ended did so from some state on. -/
theorem exists_ends_of_reachable (hgrows : Grows M.Outcome) {g₀ : G} {s : State I G Label α}
    (hs : M.Reachable g₀ s) {i : ℕ} {l : Label} {a : α} (hi : s.calls i = some (l, .pure a)) :
    ∃ g, Ends M.Outcome (M.program l) g a s.shared :=
  underway_of_reachable hgrows hs i l _ hi a _ (.pure a le_rfl)

theorem shared_le_of_steps (hgrows : Grows M.Outcome) (hcrash : ∀ g g', M.Crash g g' → g ≤ g')
    {s s' : State I G Label α} (h : Relation.ReflTransGen M.Step s s') : s.shared ≤ s'.shared := by
  induction h with
  | refl => exact le_rfl
  | tail _ hstep ih =>
    refine le_trans ih ?_
    cases hstep with
    | start j k hj => exact le_rfl
    | perform j k o next r g hj ho => exact hgrows _ _ _ _ ho
    | stop j => exact le_rfl
    | crash g hc => exact hcrash _ _ hc

end

variable {Label : Type} {M : Machine I G Label (Except ε α)} {Fault : ε → Prop}

/-- **A call that repeats one that has ended is settled**, whatever the other calls do before it
starts and while it runs. -/
theorem settled_of_steps (hgrows : Grows M.Outcome) (hcrash : ∀ g g', M.Crash g g' → g ≤ g')
    {l l' : Label} {R : α → α → Prop}
    (hrepeats : Repeats M.Outcome Fault R (ExceptT.mk (M.program l)) (ExceptT.mk (M.program l')))
    {g₀ : G} {s s' : State I G Label (Except ε α)} (hs : M.Reachable g₀ s) {i : ℕ} {a : α}
    (hi : s.calls i = some (l, .pure (.ok a))) (hsteps : Relation.ReflTransGen M.Step s s') :
    Settled M.Outcome (Again Fault (R a)) (M.program l') s'.shared := by
  obtain ⟨g, hends⟩ := exists_ends_of_reachable hgrows hs hi
  have hsettled : Settled M.Outcome (Again Fault (R a)) (M.program l') s.shared :=
    hrepeats g a s.shared hends
  exact hsettled.of_le (shared_le_of_steps hgrows hcrash hsteps)

end Machine

end Cerbero
