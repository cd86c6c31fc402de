import Mathlib.Algebra.Order.Group.Int
import Mathlib.Data.Int.Notation
import Mathlib.Tactic.Common

/-!
# Lib/ByteReader — readers, limited readers, and reading all of one

`io.Reader`, `io.LimitReader` and `io.ReadAll`.  A reader gives its bytes in chunks, a part of a
chunk where the buffer has no room for more.  All of a limited reader are the first bytes there
are, however they come in (**`readAll_eq`**).
-/

namespace Cerbero

/-- How a reader ends. -/
inductive ReaderEnd
  | eof
  | failed (text : String)
  deriving DecidableEq, Repr

/-- **A reader**: the chunks it gives, and how it ends. -/
structure Reader where
  chunks : List (List UInt8)
  ending : ReaderEnd
  deriving DecidableEq, Repr

namespace Reader

/-- The bytes there are. -/
def bytes (reader : Reader) : List UInt8 := reader.chunks.flatten

/-- `Read` into a buffer with some room: what is read, the end if it was reached, and the reader
afterwards. -/
def read (room : ℕ) : Reader → List UInt8 × Option ReaderEnd × Reader
  | ⟨[], ending⟩ => ([], some ending, ⟨[], ending⟩)
  | ⟨chunk :: chunks, ending⟩ =>
    if chunk.length ≤ room then (chunk, none, ⟨chunks, ending⟩)
    else (chunk.take room, none, ⟨chunk.drop room :: chunks, ending⟩)

/-- What is left to read; a chunk counts, since it may be empty. -/
def size (reader : Reader) : ℕ := reader.bytes.length + reader.chunks.length

variable {room : ℕ} {reader later : Reader} {data : List UInt8}

/-- A read that does not reach the end gets some bytes, or past a chunk. -/
theorem read_eq_none (hroom : 0 < room) (h : reader.read room = (data, none, later)) :
    reader.bytes = data ++ later.bytes ∧ later.ending = reader.ending ∧
      later.size < reader.size ∧ data.length ≤ room := by
  obtain ⟨chunks, ending⟩ := reader
  match chunks, h with
  | [], h => exact nomatch (Prod.mk.inj (Prod.mk.inj h).2).1
  | chunk :: chunks, h =>
    rw [read] at h
    split_ifs at h with hchunk
    · simp only [Prod.mk.injEq, true_and] at h
      obtain ⟨rfl, rfl⟩ := h
      refine ⟨rfl, rfl, ?_, hchunk⟩
      simp only [size, bytes, List.flatten_cons, List.length_append, List.length_cons]
      omega
    · simp only [Prod.mk.injEq, true_and] at h
      obtain ⟨rfl, rfl⟩ := h
      refine ⟨?_, rfl, ?_, List.length_take_le _ _⟩
      · simp only [bytes, List.flatten_cons]
        rw [← List.append_assoc, List.take_append_drop]
      · simp only [size, bytes, List.flatten_cons, List.length_append, List.length_cons,
          List.length_drop]
        omega

/-- The end is reached when nothing is left. -/
theorem read_eq_some {e : ReaderEnd} (h : reader.read room = (data, some e, later)) :
    data = [] ∧ reader.bytes = [] ∧ reader.ending = e := by
  obtain ⟨chunks, ending⟩ := reader
  match chunks, h with
  | [], h =>
    simp only [read, Prod.mk.injEq, Option.some.injEq] at h
    obtain ⟨rfl, rfl, -⟩ := h
    exact ⟨rfl, rfl, rfl⟩
  | chunk :: chunks, h =>
    rw [read] at h
    split_ifs at h <;> exact nomatch (Prod.mk.inj (Prod.mk.inj h).2).1

end Reader

/-- `io.LimitedReader`. -/
structure LimitedReader where
  reader : Reader
  left : ℤ
  deriving DecidableEq, Repr

namespace LimitedReader

/-- `Read` of a limited reader. -/
def read (room : ℕ) (limited : LimitedReader) : List UInt8 × Option ReaderEnd × LimitedReader :=
  if limited.left ≤ 0 then ([], some .eof, limited)
  else
    let read := limited.reader.read (min room limited.left.toNat)
    (read.1, read.2.1, ⟨read.2.2, limited.left - read.1.length⟩)

variable {room : ℕ} {limited later : LimitedReader} {data : List UInt8}

theorem read_eq_none (hroom : 0 < room) (h : limited.read room = (data, none, later)) :
    limited.reader.bytes = data ++ later.reader.bytes ∧
      later.reader.ending = limited.reader.ending ∧ later.reader.size < limited.reader.size ∧
        (data.length : ℤ) ≤ limited.left ∧ later.left = limited.left - data.length := by
  rw [read] at h
  split_ifs at h with hleft
  · exact nomatch (Prod.mk.inj (Prod.mk.inj h).2).1
  · simp only [Prod.mk.injEq] at h
    obtain ⟨rfl, hend, rfl⟩ := h
    have hpos : 0 < min room limited.left.toNat := by omega
    obtain ⟨hbytes, hending, hsize, hlength⟩ := Reader.read_eq_none hpos (Prod.ext rfl
      (Prod.ext hend rfl))
    have hleast : (min room limited.left.toNat : ℕ) ≤ limited.left := by omega
    exact ⟨hbytes, hending, hsize, (Int.ofNat_le.2 hlength).trans hleast, rfl⟩

/-- The end is reached when no more may be read, or nothing is left. -/
theorem read_eq_some {e : ReaderEnd} (h : limited.read room = (data, some e, later)) :
    data = [] ∧ (limited.left ≤ 0 ∧ e = .eof ∨
      0 < limited.left ∧ limited.reader.bytes = [] ∧ limited.reader.ending = e) := by
  rw [read] at h
  split_ifs at h with hleft
  · simp only [Prod.mk.injEq, Option.some.injEq] at h
    obtain ⟨rfl, rfl, -⟩ := h
    exact ⟨rfl, .inl ⟨hleft, rfl⟩⟩
  · simp only [Prod.mk.injEq] at h
    obtain ⟨rfl, hend, -⟩ := h
    obtain ⟨hdata, hbytes, hending⟩ := Reader.read_eq_some (Prod.ext rfl (Prod.ext hend rfl))
    exact ⟨hdata, .inr ⟨Int.not_le.1 hleft, hbytes, hending⟩⟩

/-- **`io.ReadAll`** of a limited reader.  The buffer of each read has at least room for one
byte. -/
def readAll (room : ℕ → ℕ) (turn : ℕ) (limited : LimitedReader) : Except String (List UInt8) :=
  match _h : limited.read (room turn + 1) with
  | (_, some (.failed text), _) => .error text
  | (data, some .eof, _) => .ok data
  | (data, none, later) => (readAll room (turn + 1) later).map (data ++ ·)
termination_by limited.reader.size
decreasing_by exact (read_eq_none (Nat.succ_pos _) _h).2.2.1

/-- **All of a limited reader are the first bytes there are**; how it ends matters only if there are
not enough of them. -/
theorem readAll_eq (room : ℕ → ℕ) (turn : ℕ) (limited : LimitedReader) :
    readAll room turn limited =
      if limited.left ≤ limited.reader.bytes.length then
        .ok (limited.reader.bytes.take limited.left.toNat)
      else match limited.reader.ending with
        | .eof => .ok limited.reader.bytes
        | .failed text => .error text := by
  fun_induction readAll room turn limited with
  | case1 turn limited data later text h =>
    obtain ⟨-, ⟨-, heq⟩ | ⟨hleft, hbytes, hending⟩⟩ := read_eq_some h
    · exact nomatch heq
    · rw [hbytes, hending]
      exact (if_neg (Int.not_le.2 hleft)).symm
  | case2 turn limited data later h =>
    obtain ⟨rfl, ⟨hleft, -⟩ | ⟨hleft, hbytes, hending⟩⟩ := read_eq_some h
    · rw [if_pos (by omega), Int.toNat_of_nonpos hleft, List.take_zero]
    · rw [hbytes, hending]
      exact (if_neg (Int.not_le.2 hleft)).symm
  | case3 turn limited data later h ih =>
    obtain ⟨hbytes, hending, -, hlength, hleft⟩ := read_eq_none (Nat.succ_pos _) h
    rw [ih, hbytes, hending, hleft, List.length_append]
    by_cases hfits : limited.left - data.length ≤ later.reader.bytes.length
    · have hcount : limited.left.toNat =
          data.length + (limited.left - data.length).toNat := by omega
      rw [if_pos hfits, if_pos (by omega), hcount, List.take_length_add_append]
      rfl
    · rw [if_neg hfits, if_neg (by omega)]
      match limited.reader.ending with
      | .eof => rfl
      | .failed _ => rfl

end LimitedReader

end Cerbero
