import Cerbero.Lib.Program

/-!
# Lib/RowLock — transactions that lock the row they change

A transaction locks one row, decides from what it reads, and commits a new row or rolls back.  Its
steps interleave with those of every other call; a call may fail, be killed, or lose the reply to
its commit at any point.

While a call holds the lock, the row it read is the row in the table (`Service.Locked`), so to the
rest of the system a transaction is one step.  `Service.Holds` is what a program guarantees with
every transaction taken as one step; **`Service.holds_of_reachable`** carries it to every
interleaving of the real steps.
-/

namespace Cerbero

/-- What a transaction does with the row it locked. -/
inductive Decision (Row R : Type)
  | commit (row : Row) (result : R)
  | rollback (result : R)

/-- **A service**: transactions on the rows of a table, and operations on everything else. -/
structure Service (K Row Ext : Type) where
  Call : Type
  Result : Type
  key : Call → K
  body : Call → Row → Decision Row Result
  effects : Interface
  EffectOutcome : (o : effects.Op) → Ext → effects.Response o → Ext → Prop

namespace Service

variable {K Row Ext : Type} (S : Service K Row Ext)

/-- An operation of a call. -/
inductive Op
  /-- Run a transaction to its end. -/
  | transact (call : S.Call)
  /-- Read the committed row at a key, without a lock. -/
  | read (k : K)
  | effect (o : S.effects.Op)

/-- What an operation answers; a transaction or a query that failed answers nothing. -/
@[reducible] def Response : S.Op → Type
  | .transact _ => Option S.Result
  | .read _ => Option Row
  | .effect o => S.effects.Response o

/-- The interface of a call. -/
@[reducible] def interface : Interface := ⟨S.Op, S.Response⟩

/-- The committed rows, the transactions that committed, and everything else. -/
structure Shared where
  rows : K → Row
  commits : List S.Call
  ext : Ext

variable {S}

/-- Commit a row. -/
def Shared.commit [DecidableEq K] (g : S.Shared) (call : S.Call) (row : Row) : S.Shared :=
  ⟨Function.update g.rows (S.key call) row, g.commits ++ [call], g.ext⟩

/-! ## Operations in steps -/

variable (S) in
/-- How far a call is with its transaction. -/
inductive Phase
  | idle
  | opened
  | locked (row : Row)
  | written (row : Row) (result : S.Result)

variable (S) in
/-- A call under way, and whether it has committed. -/
structure Running (Label α : Type) where
  label : Label
  program : Prog S.interface α
  phase : S.Phase
  committed : Bool

variable (S) in
/-- The shared state, who holds which lock, and the calls under way. -/
structure State (Label α : Type) where
  shared : S.Shared
  holder : K → Option ℕ
  calls : ℕ → Option (S.Running Label α)

/-- The locks without those of call `i`. -/
def release [DecidableEq K] (holder : K → Option ℕ) (i : ℕ) : K → Option ℕ :=
  fun k => if holder k = some i then none else holder k

section

variable {Label α : Type} [DecidableEq K] (program : Label → Prog S.interface α)

/-- **One step of one call.** -/
inductive Step : S.State Label α → S.State Label α → Prop
  | start (s : S.State Label α) (i : ℕ) (l : Label) (hi : s.calls i = none) :
      Step s ⟨s.shared, s.holder, Function.update s.calls i (some ⟨l, program l, .idle, false⟩)⟩
  | read (s : S.State Label α) (i : ℕ) (l : Label) (k : K) (next : Option Row → Prog S.interface α)
      (r : Option Row) (b : Bool) (hi : s.calls i = some ⟨l, .perform (.read k) next, .idle, b⟩)
      (hr : r = none ∨ r = some (s.shared.rows k)) :
      Step s ⟨s.shared, s.holder, Function.update s.calls i (some ⟨l, next r, .idle, b⟩)⟩
  | effect (s : S.State Label α) (i : ℕ) (l : Label) (o : S.effects.Op)
      (next : S.effects.Response o → Prog S.interface α) (r : S.effects.Response o) (ext : Ext)
      (b : Bool) (hi : s.calls i = some ⟨l, .perform (.effect o) next, .idle, b⟩)
      (ho : S.EffectOutcome o s.shared.ext r ext) :
      Step s ⟨{ s.shared with ext := ext }, s.holder,
        Function.update s.calls i (some ⟨l, next r, .idle, b⟩)⟩
  | «open» (s : S.State Label α) (i : ℕ) (l : Label) (call : S.Call)
      (next : Option S.Result → Prog S.interface α) (b : Bool)
      (hi : s.calls i = some ⟨l, .perform (.transact call) next, .idle, b⟩) :
      Step s ⟨s.shared, s.holder,
        Function.update s.calls i (some ⟨l, .perform (.transact call) next, .opened, b⟩)⟩
  | lock (s : S.State Label α) (i : ℕ) (l : Label) (call : S.Call)
      (next : Option S.Result → Prog S.interface α) (b : Bool)
      (hi : s.calls i = some ⟨l, .perform (.transact call) next, .opened, b⟩)
      (hfree : s.holder (S.key call) = none) :
      Step s ⟨s.shared, Function.update s.holder (S.key call) (some i),
        Function.update s.calls i (some ⟨l, .perform (.transact call) next,
          .locked (s.shared.rows (S.key call)), b⟩)⟩
  | write (s : S.State Label α) (i : ℕ) (l : Label) (call : S.Call)
      (next : Option S.Result → Prog S.interface α) (b : Bool) (row row' : Row)
      (result : S.Result)
      (hi : s.calls i = some ⟨l, .perform (.transact call) next, .locked row, b⟩)
      (hbody : S.body call row = .commit row' result) :
      Step s ⟨s.shared, s.holder, Function.update s.calls i
        (some ⟨l, .perform (.transact call) next, .written row' result, b⟩)⟩
  | rollback (s : S.State Label α) (i : ℕ) (l : Label) (call : S.Call)
      (next : Option S.Result → Prog S.interface α) (b : Bool) (row : Row) (result : S.Result)
      (hi : s.calls i = some ⟨l, .perform (.transact call) next, .locked row, b⟩)
      (hbody : S.body call row = .rollback result) :
      Step s ⟨s.shared, release s.holder i,
        Function.update s.calls i (some ⟨l, next (some result), .idle, b⟩)⟩
  | fail (s : S.State Label α) (i : ℕ) (l : Label) (call : S.Call)
      (next : Option S.Result → Prog S.interface α) (phase : S.Phase) (b : Bool)
      (hi : s.calls i = some ⟨l, .perform (.transact call) next, phase, b⟩) :
      Step s ⟨s.shared, release s.holder i,
        Function.update s.calls i (some ⟨l, next none, .idle, b⟩)⟩
  | commit (s : S.State Label α) (i : ℕ) (l : Label) (call : S.Call)
      (next : Option S.Result → Prog S.interface α) (b : Bool) (row : Row) (result : S.Result)
      (r : Option S.Result)
      (hi : s.calls i = some ⟨l, .perform (.transact call) next, .written row result, b⟩)
      (hr : r = some result ∨ r = none) :
      Step s ⟨s.shared.commit call row, release s.holder i,
        Function.update s.calls i (some ⟨l, next r, .idle, true⟩)⟩
  | stop (s : S.State Label α) (i : ℕ) :
      Step s ⟨s.shared, release s.holder i, Function.update s.calls i none⟩

/-- **Only a commit changes a row**: the call that moves has then committed. -/
theorem Step.rows_eq_or_committed : ∀ {s s' : S.State Label α}, Step program s s' →
    (s'.shared.rows = s.shared.rows ∧ s'.shared.commits = s.shared.commits) ∨
      ∃ i run, s'.calls i = some run ∧ run.committed = true ∧
        ∀ j, j ≠ i → s'.calls j = s.calls j
  | _, _, .start _ _ _ _ => .inl ⟨rfl, rfl⟩
  | _, _, .read _ _ _ _ _ _ _ _ _ => .inl ⟨rfl, rfl⟩
  | _, _, .effect _ _ _ _ _ _ _ _ _ _ => .inl ⟨rfl, rfl⟩
  | _, _, .open _ _ _ _ _ _ _ => .inl ⟨rfl, rfl⟩
  | _, _, .lock _ _ _ _ _ _ _ _ => .inl ⟨rfl, rfl⟩
  | _, _, .write _ _ _ _ _ _ _ _ _ _ _ => .inl ⟨rfl, rfl⟩
  | _, _, .rollback _ _ _ _ _ _ _ _ _ _ => .inl ⟨rfl, rfl⟩
  | _, _, .fail _ _ _ _ _ _ _ _ => .inl ⟨rfl, rfl⟩
  | _, _, .commit _ i _ _ _ _ _ _ _ _ _ =>
      .inr ⟨i, _, Function.update_self _ _ _, rfl, fun _ hne => Function.update_of_ne hne _ _⟩
  | _, _, .stop _ _ => .inl ⟨rfl, rfl⟩

omit [DecidableEq K] in
/-- Call `i` moves: what the others have committed stays. -/
theorem committed_update {calls : ℕ → Option (S.Running Label α)} {i : ℕ}
    {run run' : S.Running Label α} (hi : calls i = some run)
    (h : run.committed = true → run'.committed = true) :
    ∀ j r, calls j = some r → r.committed = true →
      ∀ r', Function.update calls i (some run') j = some r' → r'.committed = true := by
  intro j r hj hr r' hr'
  obtain rfl | hne := eq_or_ne j i
  · obtain rfl : run' = r' := by simpa using hr'
    obtain rfl := Option.some.inj (hi.symm.trans hj)
    exact h hr
  · obtain rfl := Option.some.inj (hj.symm.trans (by simpa [hne] using hr'))
    exact hr

/-- A call that has committed stays one that has. -/
theorem Step.committed_stays : ∀ {s s' : S.State Label α}, Step program s s' →
    ∀ j run, s.calls j = some run → run.committed = true →
      ∀ run', s'.calls j = some run' → run'.committed = true
  | _, _, .start s i l hi => by
      intro j run hj hrun run' hrun'
      obtain rfl | hne := eq_or_ne j i
      · exact nomatch hi.symm.trans hj
      · obtain rfl := Option.some.inj (hj.symm.trans (by simpa [hne] using hrun'))
        exact hrun
  | _, _, .read s i l k next r b hi hr => committed_update hi id
  | _, _, .effect s i l o next r ext b hi ho => committed_update hi id
  | _, _, .open s i l call next b hi => committed_update hi id
  | _, _, .lock s i l call next b hi hfree => committed_update hi id
  | _, _, .write s i l call next b row row' result hi hbody => committed_update hi id
  | _, _, .rollback s i l call next b row result hi hbody => committed_update hi id
  | _, _, .fail s i l call next phase b hi => committed_update hi id
  | _, _, .commit s i l call next b row result r hi hr => committed_update hi fun _ => rfl
  | _, _, .stop s i => by
      intro j run hj hrun run' hrun'
      obtain rfl | hne := eq_or_ne j i
      · simp at hrun'
      · obtain rfl := Option.some.inj (hj.symm.trans (by simpa [hne] using hrun'))
        exact hrun

/-- The states a run from `g` reaches. -/
def Reachable (g : S.Shared) : S.State Label α → Prop :=
  Relation.ReflTransGen (Step program) ⟨g, fun _ => none, fun _ => none⟩

end

/-! ## The lock -/

section

variable {Label α : Type}

/-- What the lock of a transaction under way is good for. -/
def Running.Locked (g : S.Shared) (holder : K → Option ℕ) (i : ℕ) (run : S.Running Label α) :
    Prop :=
  ∀ call next, run.program = .perform (.transact call) next →
    match run.phase with
    | .idle => True
    | .opened => True
    | .locked row => holder (S.key call) = some i ∧ row = g.rows (S.key call)
    | .written row result => holder (S.key call) = some i ∧
        S.body call (g.rows (S.key call)) = .commit row result

/-- **Every row that was read under a lock is the row in the table.** -/
def Locked (s : S.State Label α) : Prop :=
  ∀ i run, s.calls i = some run → run.Locked s.shared s.holder i

theorem Running.locked_idle {g : S.Shared} {holder : K → Option ℕ} {i : ℕ} {l : Label}
    {p : Prog S.interface α} {b : Bool} : Running.Locked g holder i ⟨l, p, .idle, b⟩ :=
  fun _ _ _ => trivial

/-- A call keeps its lock if no one takes it away, and what it read if no one else changes it. -/
theorem Running.Locked.of_eq {g g' : S.Shared} {holder holder' : K → Option ℕ} {i : ℕ}
    {run : S.Running Label α} (h : run.Locked g holder i)
    (hkeep : ∀ k, holder k = some i → holder' k = some i ∧ g'.rows k = g.rows k) :
    run.Locked g' holder' i := by
  intro call next hprogram
  have hlocked := h call next hprogram
  obtain ⟨l, p, phase, b⟩ := run
  match phase with
  | .idle => trivial
  | .opened => trivial
  | .locked row =>
    obtain ⟨hholder, hrow⟩ := hlocked
    obtain ⟨hholder', hsame⟩ := hkeep _ hholder
    exact ⟨hholder', hrow.trans hsame.symm⟩
  | .written row result =>
    obtain ⟨hholder, hbody⟩ := hlocked
    obtain ⟨hholder', hsame⟩ := hkeep _ hholder
    exact ⟨hholder', hsame ▸ hbody⟩

/-- Only call `i` moves: the others keep their locks, and the rows under them stay. -/
theorem Locked.update {s : S.State Label α} (h : Locked s) {g : S.Shared} {holder : K → Option ℕ}
    {i : ℕ} {run : Option (S.Running Label α)}
    (hkeep : ∀ j, j ≠ i → ∀ k, s.holder k = some j → holder k = some j ∧
      g.rows k = s.shared.rows k)
    (hrun : ∀ run', run = some run' → run'.Locked g holder i) :
    Locked ⟨g, holder, Function.update s.calls i run⟩ := by
  intro j run' hj
  obtain rfl | hne := eq_or_ne j i
  · exact hrun run' (by simpa using hj)
  · exact (h j run' (by simpa [hne] using hj)).of_eq (hkeep j hne)

/-- The row a call has read is the row in the table. -/
theorem Locked.locked {s : S.State Label α} (h : Locked s) {i : ℕ} {l : Label} {call : S.Call}
    {next : Option S.Result → Prog S.interface α} {row : Row} {b : Bool}
    (hi : s.calls i = some ⟨l, .perform (.transact call) next, .locked row, b⟩) :
    s.holder (S.key call) = some i ∧ row = s.shared.rows (S.key call) :=
  h i _ hi call next rfl

/-- The row a call has written is the one its transaction decides on now. -/
theorem Locked.written {s : S.State Label α} (h : Locked s) {i : ℕ} {l : Label} {call : S.Call}
    {next : Option S.Result → Prog S.interface α} {row : Row} {result : S.Result} {b : Bool}
    (hi : s.calls i = some ⟨l, .perform (.transact call) next, .written row result, b⟩) :
    s.holder (S.key call) = some i ∧
      S.body call (s.shared.rows (S.key call)) = .commit row result :=
  h i _ hi call next rfl

variable [DecidableEq K]

theorem release_of_ne {holder : K → Option ℕ} {i j : ℕ} (hne : j ≠ i) {k : K}
    (h : holder k = some j) : release holder i k = some j := by
  rw [release, if_neg (by rw [h]; exact fun heq => hne (Option.some.inj heq)), h]

/-- A call that gives up its locks and changes no row. -/
theorem Locked.release {s : S.State Label α} (h : Locked s) {i : ℕ}
    {run : Option (S.Running Label α)}
    (hrun : ∀ run', run = some run' → run'.Locked s.shared (release s.holder i) i) :
    Locked ⟨s.shared, Service.release s.holder i, Function.update s.calls i run⟩ :=
  h.update (fun _ hne _ hk => ⟨release_of_ne hne hk, rfl⟩) hrun

variable {program : Label → Prog S.interface α}

theorem locked_step : ∀ {s s' : S.State Label α}, Step program s s' → Locked s → Locked s'
  | _, _, .start s i l hi, h =>
      h.update (fun _ _ _ hk => ⟨hk, rfl⟩) (by rintro _ ⟨⟩; exact Running.locked_idle)
  | _, _, .read s i l k next r b hi hr, h =>
      h.update (fun _ _ _ hk => ⟨hk, rfl⟩) (by rintro _ ⟨⟩; exact Running.locked_idle)
  | _, _, .effect s i l o next r ext b hi ho, h =>
      h.update (fun _ _ _ hk => ⟨hk, rfl⟩) (by rintro _ ⟨⟩; exact Running.locked_idle)
  | _, _, .open s i l call next b hi, h =>
      h.update (fun _ _ _ hk => ⟨hk, rfl⟩) (by rintro _ ⟨⟩ _ _ _; trivial)
  | _, _, .lock s i l call next b hi hfree, h => by
      refine h.update (fun j hne k hk => ?_) ?_
      · have hk' : k ≠ S.key call := fun heq => by
          rw [heq, hfree] at hk
          exact nomatch hk
        exact ⟨by rw [Function.update_of_ne hk', hk], rfl⟩
      · rintro _ ⟨⟩ call' next' hprogram
        cases hprogram
        exact ⟨Function.update_self _ _ _, rfl⟩
  | _, _, .write s i l call next b row row' result hi hbody, h => by
      obtain ⟨hholder, rfl⟩ := h.locked hi
      refine h.update (fun _ _ _ hk => ⟨hk, rfl⟩) ?_
      rintro _ ⟨⟩ call' next' hprogram
      cases hprogram
      exact ⟨hholder, hbody⟩
  | _, _, .rollback s i l call next b row result hi hbody, h =>
      h.release (by rintro _ ⟨⟩; exact Running.locked_idle)
  | _, _, .fail s i l call next phase b hi, h =>
      h.release (by rintro _ ⟨⟩; exact Running.locked_idle)
  | _, _, .commit s i l call next b row result r hi hr, h => by
      refine h.update (fun j hne k hk => ⟨release_of_ne hne hk, ?_⟩)
        (by rintro _ ⟨⟩; exact Running.locked_idle)
      have hk' : k ≠ S.key call := fun heq => by
        rw [heq, (h.written hi).1] at hk
        exact hne (Option.some.inj hk).symm
      exact Function.update_of_ne hk' _ _
  | _, _, .stop s i, h => h.release (by rintro _ ⟨⟩)

end

/-! ## What a program guarantees -/

section

variable {Label α : Type} [DecidableEq K] [Preorder S.Shared] (Inv : S.Shared → Prop)

/-- **What a program guarantees, each transaction taken as one step**: its operations keep `Inv` and
move the shared state up, and its result satisfies `Q` from the end on.  The flag says whether the
call has committed. -/
def Holds (Q : Bool → α → S.Shared → Prop) : Prog S.interface α → Bool → S.Shared → Prop
  | .pure a, b, g => Machine.Always Inv (Q b a) g
  | .perform (.transact call) next, b, g => ∀ t, g ≤ t → Inv t →
      (∀ row result, S.body call (t.rows (S.key call)) = .commit row result →
        Inv (t.commit call row) ∧ t ≤ t.commit call row ∧
        Holds Q (next (some result)) true (t.commit call row) ∧
        Holds Q (next none) true (t.commit call row)) ∧
      (∀ result, S.body call (t.rows (S.key call)) = .rollback result →
        Holds Q (next (some result)) b t) ∧
      Holds Q (next none) b t
  | .perform (.read k) next, b, g => ∀ t, g ≤ t → Inv t →
      Holds Q (next (some (t.rows k))) b t ∧ Holds Q (next none) b t
  | .perform (.effect o) next, b, g => ∀ t, g ≤ t → Inv t → ∀ r ext,
      S.EffectOutcome o t.ext r ext → Inv { t with ext := ext } ∧ t ≤ { t with ext := ext } ∧
      Holds Q (next r) b { t with ext := ext }

variable {Inv}

theorem holds_of_le {Q : Bool → α → S.Shared → Prop} {g t : S.Shared} (hgt : g ≤ t) :
    ∀ {p : Prog S.interface α} {b : Bool}, Holds Inv Q p b g → Holds Inv Q p b t
  | .pure _, _, h => h.of_le hgt
  | .perform (.transact _) _, _, h => fun u hu => h u (le_trans hgt hu)
  | .perform (.read _) _, _, h => fun u hu => h u (le_trans hgt hu)
  | .perform (.effect _) _, _, h => fun u hu => h u (le_trans hgt hu)

variable (Inv) in
/-- What a run keeps: the invariant, the locks, and the guarantee of every call under way. -/
structure Kept (Q : Label → Bool → α → S.Shared → Prop) (s : S.State Label α) : Prop where
  inv : Inv s.shared
  locked : Locked s
  calls : ∀ i run, s.calls i = some run →
    Holds Inv (Q run.label) run.program run.committed s.shared

variable {Q : Label → Bool → α → S.Shared → Prop}

/-- Only call `i` moves, and it moves the shared state up. -/
theorem Kept.update {s : S.State Label α} (h : Kept Inv Q s) {g : S.Shared}
    {holder : K → Option ℕ} {i : ℕ} {run : Option (S.Running Label α)} (hinv : Inv g)
    (hle : s.shared ≤ g) (hlocked : Locked ⟨g, holder, Function.update s.calls i run⟩)
    (hrun : ∀ run', run = some run' → Holds Inv (Q run'.label) run'.program run'.committed g) :
    Kept Inv Q ⟨g, holder, Function.update s.calls i run⟩ ∧ s.shared ≤ g := by
  refine ⟨⟨hinv, hlocked, fun j run' hj => ?_⟩, hle⟩
  obtain rfl | hne := eq_or_ne j i
  · exact hrun run' (by simpa using hj)
  · exact holds_of_le hle (h.calls j run' (by simpa [hne] using hj))

/-- Call `i` moves and leaves the shared state as it is. -/
theorem Kept.move {s : S.State Label α} (h : Kept Inv Q s) {holder : K → Option ℕ} {i : ℕ}
    {l : Label} {p : Prog S.interface α} {phase : S.Phase} {b : Bool}
    (hlocked : Locked ⟨s.shared, holder, Function.update s.calls i (some ⟨l, p, phase, b⟩)⟩)
    (hrun : Holds Inv (Q l) p b s.shared) :
    Kept Inv Q ⟨s.shared, holder, Function.update s.calls i (some ⟨l, p, phase, b⟩)⟩ ∧
      s.shared ≤ s.shared :=
  h.update h.inv le_rfl hlocked (by rintro _ ⟨⟩; exact hrun)

variable {program : Label → Prog S.interface α}

theorem kept_step (hprogram : ∀ l g, Inv g → Holds Inv (Q l) (program l) false g) :
    ∀ {s s' : S.State Label α}, Step program s s' → Locked s' → Kept Inv Q s →
      Kept Inv Q s' ∧ s.shared ≤ s'.shared
  | _, _, .start s i l hi, hlocked, h => h.move hlocked (hprogram l _ h.inv)
  | _, _, .read s i l k next r b hi hr, hlocked, h => by
      obtain ⟨hsome, hnone⟩ := h.calls i _ hi _ le_rfl h.inv
      obtain rfl | rfl := hr
      · exact h.move hlocked hnone
      · exact h.move hlocked hsome
  | _, _, .effect s i l o next r ext b hi ho, hlocked, h => by
      obtain ⟨hinv, hle, hnext⟩ := h.calls i _ hi _ le_rfl h.inv r ext ho
      exact h.update hinv hle hlocked (by rintro _ ⟨⟩; exact hnext)
  | _, _, .open s i l call next b hi, hlocked, h => h.move hlocked (h.calls i _ hi)
  | _, _, .lock s i l call next b hi hfree, hlocked, h => h.move hlocked (h.calls i _ hi)
  | _, _, .write s i l call next b row row' result hi hbody, hlocked, h =>
      h.move hlocked (h.calls i _ hi)
  | _, _, .rollback s i l call next b row result hi hbody, hlocked, h => by
      obtain ⟨-, rfl⟩ := h.locked.locked hi
      exact h.move hlocked ((h.calls i _ hi _ le_rfl h.inv).2.1 result hbody)
  | _, _, .fail s i l call next phase b hi, hlocked, h =>
      h.move hlocked (h.calls i _ hi _ le_rfl h.inv).2.2
  | _, _, .commit s i l call next b row result r hi hr, hlocked, h => by
      obtain ⟨hinv, hle, hsome, hnone⟩ :=
        (h.calls i _ hi _ le_rfl h.inv).1 row result (h.locked.written hi).2
      refine h.update hinv hle hlocked ?_
      rintro _ ⟨⟩
      obtain rfl | rfl := hr
      · exact hsome
      · exact hnone
  | _, _, .stop s i, hlocked, h => h.update h.inv le_rfl hlocked (by rintro _ ⟨⟩)

/-- A run keeps what it has kept so far, and moves the shared state up. -/
theorem Kept.reaches (hprogram : ∀ l g, Inv g → Holds Inv (Q l) (program l) false g)
    {s t : S.State Label α} (h : Kept Inv Q s) (ht : Relation.ReflTransGen (Step program) s t) :
    Kept Inv Q t ∧ s.shared ≤ t.shared := by
  induction ht with
  | refl => exact ⟨h, le_rfl⟩
  | tail _ hstep ih =>
    obtain ⟨hkept, hle⟩ := kept_step hprogram hstep (locked_step hstep ih.1.locked) ih.1
    exact ⟨hkept, le_trans ih.2 hle⟩

variable (Inv Q) in
/-- **What the programs guarantee step by step, every run keeps.** -/
theorem holds_of_reachable (hprogram : ∀ l g, Inv g → Holds Inv (Q l) (program l) false g)
    {g : S.Shared} (hg : Inv g) {s : S.State Label α} (hs : Reachable program g s) :
    Kept Inv Q s :=
  (Kept.reaches hprogram ⟨hg, by rintro _ _ ⟨⟩, by rintro _ _ ⟨⟩⟩ hs).1

end

end Service

end Cerbero
