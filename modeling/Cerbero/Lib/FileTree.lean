import Mathlib.Data.List.Basic
import Mathlib.Data.List.Infix
import Mathlib.Logic.Function.Basic
import Mathlib.Order.Defs.PartialOrder
import Mathlib.Tactic.Common

/-!
# Lib/FileTree — a file tree whose entries reach the disk one directory at a time

A path is the list of its names below the root.  A new entry is visible at once but on disk only
after its directory was synced; a crash may lose every entry that is not.  An entry is **durable**
if it and all directories above it are on disk: that is what no operation and no crash takes back
(`Durable.mono`, `Crash`).
-/

namespace Cerbero

/-- A directory, or a file and its contents. -/
inductive FileNode (C : Type)
  | directory
  | file (contents : C)
  deriving DecidableEq

/-- An entry of a directory, and whether it is on disk. -/
structure FileEntry (C : Type) where
  node : FileNode C
  onDisk : Bool
  deriving DecidableEq

/-- A file tree: the entry at each path below the root. -/
def FileTree (N C : Type) := List N → Option (FileEntry C)

namespace FileTree

variable {N C : Type}

/-- The tree with an empty root. -/
def empty : FileTree N C := fun _ => none

/-- The root, or a directory below it. -/
def IsDirectory (t : FileTree N C) (p : List N) : Prop :=
  p = [] ∨ (t p).map FileEntry.node = some .directory

instance [DecidableEq N] [DecidableEq C] (t : FileTree N C) (p : List N) :
    Decidable (t.IsDirectory p) := inferInstanceAs (Decidable (_ ∨ _))

/-- Add an entry at a path; it is not on disk yet. -/
def create [DecidableEq N] (t : FileTree N C) (p : List N) (node : FileNode C) : FileTree N C :=
  fun q => if q = p then some ⟨node, false⟩ else t q

/-- Write the entries of directory `d` to disk. -/
def sync [DecidableEq N] (t : FileTree N C) (d : List N) : FileTree N C :=
  fun q => (t q).map fun e => ⟨e.node, e.onDisk || decide (q ≠ [] ∧ q.dropLast = d)⟩

/-- What is visible at a path. -/
def node (t : FileTree N C) (p : List N) : Option (FileNode C) := (t p).map FileEntry.node

theorem node_sync [DecidableEq N] (t : FileTree N C) (d : List N) : (t.sync d).node = t.node := by
  funext q
  simp only [node, sync, Option.map_map]
  rfl

theorem node_create [DecidableEq N] (t : FileTree N C) (p : List N) (n : FileNode C) :
    (t.create p n).node = Function.update t.node p (some n) := by
  funext q
  by_cases h : q = p <;> simp [node, create, h]

/-! ## Growth -/

/-- Every entry is kept, with its node, and stays on disk. -/
instance : Preorder (FileTree N C) where
  le t t' := ∀ p e, t p = some e → ∃ e', t' p = some e' ∧ e'.node = e.node ∧
    (e.onDisk → e'.onDisk)
  le_refl _ _ e h := ⟨e, h, rfl, id⟩
  le_trans t t' t'' h h' p e he := by
    obtain ⟨e', he', hnode, hdisk⟩ := h p e he
    obtain ⟨e'', he'', hnode', hdisk'⟩ := h' p e' he'
    exact ⟨e'', he'', hnode'.trans hnode, hdisk' ∘ hdisk⟩

theorem le_create [DecidableEq N] {t : FileTree N C} {p : List N} {node : FileNode C}
    (h : t p = none) : t ≤ t.create p node := by
  intro q e he
  have hne : q ≠ p := by
    rintro rfl
    exact nomatch h.symm.trans he
  exact ⟨e, by rw [create, if_neg hne, he], rfl, id⟩

theorem le_sync [DecidableEq N] (t : FileTree N C) (d : List N) : t ≤ t.sync d := by
  intro q e he
  exact ⟨_, congrArg (Option.map _) he, rfl, fun h => by simp [h]⟩

/-! ## Durability -/

/-- **The node at `p` is durable**: it and every directory above it are on disk. -/
structure Durable (t : FileTree N C) (p : List N) (node : FileNode C) : Prop where
  entry : t p = some ⟨node, true⟩
  above : ∀ q, q ≠ [] → q <+: p → q ≠ p → t q = some ⟨.directory, true⟩

/-- The directory `p` is durable; the root always is. -/
def DurableDirectory (t : FileTree N C) (p : List N) : Prop :=
  ∀ q, q ≠ [] → q <+: p → t q = some ⟨.directory, true⟩

theorem entry_mono {t t' : FileTree N C} (h : t ≤ t') {p : List N} {node : FileNode C}
    (hp : t p = some ⟨node, true⟩) : t' p = some ⟨node, true⟩ := by
  obtain ⟨⟨node', disk⟩, he, hnode, hdisk⟩ := h p _ hp
  obtain rfl : node' = node := hnode
  obtain rfl : disk = true := hdisk rfl
  exact he

theorem Durable.mono {t t' : FileTree N C} (h : t ≤ t') {p : List N} {node : FileNode C}
    (hp : t.Durable p node) : t'.Durable p node :=
  ⟨entry_mono h hp.entry, fun q h1 h2 h3 => entry_mono h (hp.above q h1 h2 h3)⟩

theorem DurableDirectory.mono {t t' : FileTree N C} (h : t ≤ t') {p : List N}
    (hp : t.DurableDirectory p) : t'.DurableDirectory p :=
  fun q h1 h2 => entry_mono h (hp q h1 h2)

theorem durableDirectory_nil (t : FileTree N C) : t.DurableDirectory [] :=
  fun _ hq hp => absurd (List.prefix_nil.1 hp) hq

theorem DurableDirectory.concat {t : FileTree N C} {p : List N} {n : N}
    (hp : t.DurableDirectory p) (h : t (p ++ [n]) = some ⟨.directory, true⟩) :
    t.DurableDirectory (p ++ [n]) := by
  intro q hq hpre
  obtain rfl | hpre := List.prefix_concat_iff.1 hpre
  · exact h
  · exact hp q hq hpre

/-- **A file that is on disk in a durable directory is durable.** -/
theorem DurableDirectory.durable {t : FileTree N C} {p : List N} {n : N} {node : FileNode C}
    (hp : t.DurableDirectory p) (h : t (p ++ [n]) = some ⟨node, true⟩) :
    t.Durable (p ++ [n]) node := by
  refine ⟨h, fun q hq hpre hne => ?_⟩
  obtain rfl | hpre := List.prefix_concat_iff.1 hpre
  · exact absurd rfl hne
  · exact hp q hq hpre

/-- What is visible in a directory is on disk once the directory is synced. -/
theorem sync_concat [DecidableEq N] {t : FileTree N C} {d : List N} {n : N} {e : FileEntry C}
    (h : t (d ++ [n]) = some e) : t.sync d (d ++ [n]) = some ⟨e.node, true⟩ := by
  simp [sync, h]

/-! ## Crashes -/

/-- **What a crash may do**: entries that are not durable may be lost, nothing else changes. -/
structure Crash (t t' : FileTree N C) : Prop where
  visible : ∀ p e', t' p = some e' → ∃ e, t p = some e ∧ e'.node = e.node
  durable : ∀ p node, t.Durable p node → t'.Durable p node

end FileTree

end Cerbero
