import Cerbero.Lib.Program

/-!
# Lib/Serial — programs run one after the other

One call at a time, given up at any point and followed by another.  `Serial.Safe` is what a program
guarantees when nothing else runs: the invariant holds between any two operations, and each
operation is performed where it is allowed.  **`Serial.safe_of_reachable`** carries it to whole runs.
-/

namespace Cerbero

namespace Prog

variable {I J : Interface} {α β : Type}

/-- A program, with its operations among those of a larger interface. -/
def embed (op : I.Op → J.Op) (reply : (o : I.Op) → J.Response (op o) → I.Response o) :
    Prog I α → Prog J α
  | .pure a => .pure a
  | .perform o next => .perform (op o) fun r => embed op reply (next (reply o r))

end Prog

namespace Serial

variable {I : Interface} {G Label α β : Type}

/-- The shared state and the call under way. -/
structure State (I : Interface) (G Label α : Type) where
  shared : G
  call : Option (Label × Prog I α)

variable (program : Label → Prog I α) (Outcome : (o : I.Op) → G → I.Response o → G → Prop)

/-- **One step**: a call starts when none is under way, performs its next operation, or ends, be it
done or given up. -/
inductive Step : State I G Label α → State I G Label α → Prop
  | start (g : G) (l : Label) : Step ⟨g, none⟩ ⟨g, some (l, program l)⟩
  | perform (g g' : G) (l : Label) (o : I.Op) (next : I.Response o → Prog I α) (r : I.Response o)
      (ho : Outcome o g r g') : Step ⟨g, some (l, .perform o next)⟩ ⟨g', some (l, next r)⟩
  | stop (g : G) (l : Label) (p : Prog I α) : Step ⟨g, some (l, p)⟩ ⟨g, none⟩

/-- The states a run from `g` reaches. -/
def Reachable (g : G) : State I G Label α → Prop :=
  Relation.ReflTransGen (Step program Outcome) ⟨g, none⟩

/-! ## What a call guarantees -/

variable (Inv : G → Prop) (Allowed : I.Op → G → Prop)

/-- **A program alone**: between its operations `Inv` holds, each operation is allowed where it is
performed, and the result satisfies `Q`. -/
def Safe (Q : α → G → Prop) : Prog I α → G → Prop
  | .pure a, g => Inv g ∧ Q a g
  | .perform o next, g => Inv g ∧ Allowed o g ∧ ∀ r g', Outcome o g r g' → Safe Q (next r) g'

variable {Outcome Inv Allowed program}

theorem Safe.inv {Q : α → G → Prop} : ∀ {p : Prog I α} {g : G},
    Safe Outcome Inv Allowed Q p g → Inv g
  | .pure _, _, h => h.1
  | .perform _ _, _, h => h.1

theorem safe_imp {Q R : α → G → Prop} (hqr : ∀ a g, Inv g → Q a g → R a g) :
    ∀ {p : Prog I α} {g : G}, Safe Outcome Inv Allowed Q p g → Safe Outcome Inv Allowed R p g
  | .pure a, g, h => ⟨h.1, hqr a g h.1 h.2⟩
  | .perform _ _, _, h => ⟨h.1, h.2.1, fun r g' ho => safe_imp hqr (h.2.2 r g' ho)⟩

theorem safe_of_inv {Inv' : G → Prop} (hinv : ∀ g, Inv g → Inv' g) {Q : α → G → Prop} :
    ∀ {p : Prog I α} {g : G}, Safe Outcome Inv Allowed Q p g → Safe Outcome Inv' Allowed Q p g
  | .pure _, g, h => ⟨hinv g h.1, h.2⟩
  | .perform _ _, g, h => ⟨hinv g h.1, h.2.1, fun r g' ho => safe_of_inv hinv (h.2.2 r g' ho)⟩

/-- **Sequencing.** -/
theorem safe_bind {Q : α → G → Prop} {R : β → G → Prop} {f : α → Prog I β} :
    ∀ {p : Prog I α} {g : G}, Safe Outcome Inv Allowed Q p g →
      (∀ a g', Inv g' → Q a g' → Safe Outcome Inv Allowed R (f a) g') →
      Safe Outcome Inv Allowed R (p >>= f) g
  | .pure a, g, h, hf => hf a g h.1 h.2
  | .perform _ _, _, h, hf =>
      ⟨h.1, h.2.1, fun r g' ho => safe_bind (h.2.2 r g' ho) hf⟩

/-- **Sequencing of fallible programs**: the second one runs if the first one succeeds. -/
theorem safe_try {ε : Type} {Q : α → G → Prop} {R : β → G → Prop}
    {p : ExceptT ε (Prog I) α} {f : α → ExceptT ε (Prog I) β} {g : G}
    (hp : Safe Outcome Inv Allowed (Machine.OnOk Q) p.run g)
    (hf : ∀ a g', Inv g' → Q a g' → Safe Outcome Inv Allowed (Machine.OnOk R) (f a).run g') :
    Safe Outcome Inv Allowed (Machine.OnOk R) (p >>= f).run g :=
  safe_bind hp fun
    | .ok a, g', hg', hq => hf a g' hg' hq
    | .error _, _, hg', _ => ⟨hg', trivial⟩

/-- A program that does not fail, among fallible ones. -/
theorem safe_lift {ε : Type} {Q : α → G → Prop} {p : Prog I α} {g : G}
    (hp : Safe Outcome Inv Allowed Q p g) :
    Safe Outcome Inv Allowed (Machine.OnOk Q) (ExceptT.lift p : ExceptT ε (Prog I) α).run g :=
  safe_bind hp fun _ _ hg hq => ⟨hg, hq⟩

/-- A check that needs no operation: what follows runs if it passes. -/
theorem safe_checked_bind {ε : Type} {R : β → G → Prop} {x : Except ε α}
    {f : α → ExceptT ε (Prog I) β} {g : G} (hg : Inv g)
    (hf : ∀ a, x = .ok a → Safe Outcome Inv Allowed (Machine.OnOk R) (f a).run g) :
    Safe Outcome Inv Allowed (Machine.OnOk R) (Prog.checked x >>= f).run g := by
  match x with
  | .ok a => exact hf a rfl
  | .error _ => exact ⟨hg, trivial⟩

/-! ## Whole runs -/

section

variable {Permitted : Label → I.Op → G → Prop}

variable (Outcome Inv Permitted) in
/-- What a run keeps: the invariant, and the guarantee of the call under way. -/
def Kept (Q : Label → α → G → Prop) (s : State I G Label α) : Prop :=
  Inv s.shared ∧ ∀ l p, s.call = some (l, p) → Safe Outcome Inv (Permitted l) (Q l) p s.shared

variable {Q : Label → α → G → Prop}

theorem kept_step (hprogram : ∀ l g, Inv g → Safe Outcome Inv (Permitted l) (Q l) (program l) g) :
    ∀ {s s' : State I G Label α}, Step program Outcome s s' → Kept Outcome Inv Permitted Q s →
      Kept Outcome Inv Permitted Q s'
  | _, _, .start g l, ⟨hinv, _⟩ => ⟨hinv, by rintro _ _ ⟨⟩; exact hprogram l g hinv⟩
  | _, _, .perform g g' l o next r ho, ⟨_, hcall⟩ => by
      have hnext := (hcall l _ rfl).2.2 r g' ho
      exact ⟨hnext.inv, by rintro _ _ ⟨⟩; exact hnext⟩
  | _, _, .stop g l p, ⟨hinv, _⟩ => ⟨hinv, fun _ _ h => nomatch h⟩

variable (Permitted Q) in
/-- **What each call guarantees, every run keeps.** -/
theorem safe_of_reachable
    (hprogram : ∀ l g, Inv g → Safe Outcome Inv (Permitted l) (Q l) (program l) g) {g : G}
    (hg : Inv g) {s : State I G Label α} (hs : Reachable program Outcome g s) :
    Kept Outcome Inv Permitted Q s := by
  induction hs with
  | refl => exact ⟨hg, fun _ _ h => nomatch h⟩
  | tail _ hstep ih => exact kept_step hprogram hstep ih

end

/-! ## A call to its end -/

/-- What a program guarantees, it guarantees when every operation answers as `h` does. -/
theorem Safe.run {h : (o : I.Op) → G → I.Response o × G}
    (hh : ∀ o g, Outcome o g (h o g).1 (h o g).2) {Q : α → G → Prop} :
    ∀ {p : Prog I α} {g : G}, Safe Outcome Inv Allowed Q p g →
      Inv (p.run h g).2 ∧ Q (p.run h g).1 (p.run h g).2
  | .pure _, _, hs => hs
  | .perform o next, g, hs => Safe.run (p := next (h o g).1) hh (hs.2.2 _ _ (hh o g))

theorem reachable_run {h : (o : I.Op) → G → I.Response o × G}
    (hh : ∀ o g, Outcome o g (h o g).1 (h o g).2) {g₀ : G} (l : Label) :
    ∀ (p : Prog I α) (g : G), Reachable program Outcome g₀ ⟨g, some (l, p)⟩ →
      Reachable program Outcome g₀ ⟨(p.run h g).2, some (l, .pure (p.run h g).1)⟩
  | .pure _, _, hs => hs
  | .perform o next, g, hs =>
      reachable_run hh l (next (h o g).1) (h o g).2
        (hs.tail (.perform g _ l o next _ (hh o g)))

end Serial

end Cerbero
