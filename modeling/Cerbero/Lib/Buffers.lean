import Mathlib.Logic.Relation
import Mathlib.Tactic.Common

/-!
# Lib/Buffers — slices of shared arrays

A slice is a window of an array, and whoever holds a slice of the same array may change what it
shows.  A slice of an array that others do not have keeps its bytes (**`load_of_changedBy`**), and
so does a copy, which is in an array of its own (**`load_copy_of_changedBy`**).
-/

namespace Cerbero

/-- **The arrays of bytes** that were allocated, in that order. -/
structure Heap where
  arrays : List (List UInt8)
  deriving DecidableEq, Repr

/-- A slice: an array, where the slice starts in it, and how long it is. -/
structure Slice where
  array : ℕ
  start : ℕ
  length : ℕ
  deriving DecidableEq, Repr

namespace Heap

/-- The bytes of an array. -/
def array (heap : Heap) (a : ℕ) : List UInt8 := heap.arrays.getD a []

/-- The bytes a slice shows. -/
def load (heap : Heap) (slice : Slice) : List UInt8 :=
  ((heap.array slice.array).drop slice.start).take slice.length

/-- A new array. -/
def alloc (heap : Heap) (data : List UInt8) : Heap := ⟨heap.arrays ++ [data]⟩

/-- A byte of an array is written. -/
def write (heap : Heap) (a index : ℕ) (byte : UInt8) : Heap :=
  ⟨heap.arrays.modify a fun data => data.set index byte⟩

/-- The array that is allocated next. -/
def next (heap : Heap) : ℕ := heap.arrays.length

/-- **A copy of a slice**: its bytes in an array of their own. -/
def copy (heap : Heap) (slice : Slice) : Slice × Heap :=
  (⟨heap.next, 0, (heap.load slice).length⟩, heap.alloc (heap.load slice))

/-- What is done by someone who has certain arrays: one of them is written, or a new one is
allocated. -/
inductive Change (Has : ℕ → Prop) (heap : Heap) : Heap → Prop
  | write {a : ℕ} (h : Has a) (index : ℕ) (byte : UInt8) : Change Has heap (heap.write a index byte)
  | alloc (data : List UInt8) : Change Has heap (heap.alloc data)

/-- Any number of changes. -/
def ChangedBy (Has : ℕ → Prop) : Heap → Heap → Prop := Relation.ReflTransGen (Change Has)

variable {heap later : Heap} {Has : ℕ → Prop}

theorem array_alloc {a : ℕ} (h : a < heap.next) (data : List UInt8) :
    (heap.alloc data).array a = heap.array a := by
  have h : a < heap.arrays.length := h
  simp only [array, alloc, List.getD_eq_getElem?_getD, List.getElem?_append_left h]

theorem array_write {a b : ℕ} (h : a ≠ b) (index : ℕ) (byte : UInt8) :
    (heap.write a index byte).array b = heap.array b := by
  simp [array, write, List.getD_eq_getElem?_getD, h]

/-- A change leaves the other arrays alone. -/
theorem Change.keeps (h : Change Has heap later) {a : ℕ} (ha : a < heap.next) (hnot : ¬ Has a) :
    a < later.next ∧ later.array a = heap.array a := by
  cases h with
  | write hb index byte =>
    refine ⟨?_, array_write (fun heq => hnot (by rwa [← heq])) index byte⟩
    simpa [next, Heap.write] using ha
  | alloc data =>
    refine ⟨?_, array_alloc ha data⟩
    have ha : a < heap.arrays.length := ha
    simp only [next, Heap.alloc, List.length_append]
    omega

/-- **So do any number of changes.** -/
theorem ChangedBy.keeps (h : ChangedBy Has heap later) {a : ℕ} (ha : a < heap.next)
    (hnot : ¬ Has a) : a < later.next ∧ later.array a = heap.array a := by
  induction h with
  | refl => exact ⟨ha, rfl⟩
  | tail _ hchange ih =>
    obtain ⟨hnext, harray⟩ := hchange.keeps ih.1 hnot
    exact ⟨hnext, harray.trans ih.2⟩

/-- **A slice of an array that others do not have keeps its bytes.** -/
theorem load_of_changedBy (h : ChangedBy Has heap later) {slice : Slice}
    (hslice : slice.array < heap.next) (hnot : ¬ Has slice.array) :
    later.load slice = heap.load slice := by
  rw [load, (h.keeps hslice hnot).2, load]

variable (heap) in
/-- A copy is in an array that was not there. -/
theorem array_copy (slice : Slice) : (heap.copy slice).1.array = heap.next := rfl

variable (heap) in
/-- A copy has the bytes that were copied. -/
theorem load_copy (slice : Slice) :
    (heap.copy slice).2.load (heap.copy slice).1 = heap.load slice := by
  have hcopy : (heap.copy slice).2.array heap.next = heap.load slice := by
    simp [copy, alloc, array, next]
  rw [load, array_copy, hcopy]
  exact List.take_length

variable (heap) in
theorem next_copy (slice : Slice) : (heap.copy slice).2.next = heap.next + 1 := by
  simp [copy, next, alloc]

/-- **A copy keeps its bytes**, whatever is done to any other array. -/
theorem load_copy_of_changedBy {slice : Slice}
    (h : ChangedBy (· ≠ heap.next) (heap.copy slice).2 later) :
    later.load (heap.copy slice).1 = heap.load slice := by
  have hnext : (heap.copy slice).1.array < (heap.copy slice).2.next := by
    rw [array_copy, next_copy]
    exact Nat.lt_succ_self _
  rw [load_of_changedBy h hnext (not_not.2 (array_copy heap slice)), load_copy]

end Heap

end Cerbero
