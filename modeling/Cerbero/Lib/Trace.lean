import Cerbero.Lib.Program

/-!
# Lib/Trace — what a program did

A trace lists the operations a program performed, each with the response it got.  What holds at each
place of a trace is proved operation by operation (`atEach_cons`), along the program
(`trace_perform`).
-/

namespace Cerbero

/-! ## Traces -/

namespace Prog

variable {I : Interface} {α : Type}

/-- An operation and its response. -/
abbrev Event (I : Interface) : Type := (o : I.Op) × I.Response o

/-- **A trace of a program**, if operations are answered as `Answer` says. -/
inductive Trace (Answer : (o : I.Op) → I.Response o → Prop) :
    Prog I α → List (Event I) → α → Prop
  | pure (a : α) : Trace Answer (.pure a) [] a
  | perform {o : I.Op} {next : I.Response o → Prog I α} {events : List (Event I)} {a : α}
      (r : I.Response o) (hr : Answer o r) (h : Trace Answer (next r) events a) :
      Trace Answer (.perform o next) (⟨o, r⟩ :: events) a

variable {Answer : (o : I.Op) → I.Response o → Prop}

theorem trace_pure {a b : α} {events : List (Event I)} :
    Trace Answer (Pure.pure a : Prog I α) events b ↔ events = [] ∧ b = a := by
  constructor
  · rintro ⟨⟩
    exact ⟨rfl, rfl⟩
  · rintro ⟨rfl, rfl⟩
    exact .pure b

theorem trace_perform {o : I.Op} {next : I.Response o → Prog I α} {events : List (Event I)}
    {a : α} : Trace Answer (.perform o next) events a ↔
      ∃ r rest, events = ⟨o, r⟩ :: rest ∧ Answer o r ∧ Trace Answer (next r) rest a := by
  constructor
  · rintro ⟨⟩
    exact ⟨_, _, rfl, ‹_›, ‹_›⟩
  · rintro ⟨r, rest, rfl, hr, h⟩
    exact .perform r hr h

/-- **A trace of a sequence** is a trace of its first part and one of the second. -/
theorem trace_bind {β : Type} {p : Prog I α} {f : α → Prog I β} {events : List (Event I)} {b : β}
    (h : Trace Answer (p >>= f) events b) : ∃ before a after, events = before ++ after ∧
      Trace Answer p before a ∧ Trace Answer (f a) after b := by
  induction p generalizing events with
  | pure a => exact ⟨[], a, events, rfl, .pure a, h⟩
  | perform o next ih =>
    obtain ⟨r, rest, rfl, hr, hrest⟩ := trace_perform.1 h
    obtain ⟨before, a, after, rfl, hfirst, hsecond⟩ := ih r hrest
    exact ⟨⟨o, r⟩ :: before, a, after, rfl, .perform r hr hfirst, hsecond⟩

/-- A run alone has a trace. -/
theorem exists_trace_run {G : Type} {h : (o : I.Op) → G → I.Response o × G}
    (hh : ∀ o g, Answer o (h o g).1) (p : Prog I α) (g : G) :
    ∃ events, Trace Answer p events (p.run h g).1 := by
  induction p generalizing g with
  | pure a => exact ⟨[], .pure a⟩
  | perform o next ih =>
    obtain ⟨events, hevents⟩ := ih (h o g).1 (h o g).2
    exact ⟨⟨o, (h o g).1⟩ :: events, .perform _ (hh o g) hevents⟩

end Prog

/-! ## Places -/

/-- A property of each element of a list, what comes before it and what comes after it. -/
def AtEach {α : Type} (P : List α → α → List α → Prop) (l : List α) : Prop :=
  ∀ before a after, l = before ++ a :: after → P before a after

theorem atEach_nil {α : Type} {P : List α → α → List α → Prop} : AtEach P [] := fun _ _ _ h =>
  nomatch List.append_eq_nil_iff.1 h.symm

/-- The first place, then the others. -/
theorem atEach_cons {α : Type} {P : List α → α → List α → Prop} {a : α} {l : List α} :
    AtEach P (a :: l) ↔ P [] a l ∧ AtEach (fun before => P (a :: before)) l := by
  constructor
  · exact fun h => ⟨h [] a l rfl, fun before b after heq => h (a :: before) b after (by rw [heq]; rfl)⟩
  · rintro ⟨hfirst, hrest⟩ before b after heq
    match before with
    | [] =>
      obtain ⟨rfl, rfl⟩ := List.cons.inj heq
      exact hfirst
    | _ :: before =>
      obtain ⟨rfl, rfl⟩ := List.cons.inj heq
      exact hrest before b after rfl

end Cerbero
