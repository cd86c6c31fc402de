import Mathlib.Data.List.Basic
import Cerbero.Lib.Text

/-!
# Lib/Urlencoded — names and values in the query of a URL

Names and values are escaped byte by byte, put together with `=`, and joined with `&`.  Escaped
texts have neither mark, so that the query is taken apart as it was put together
(`decode_encode`).
-/

namespace Cerbero

namespace Urlencoded

open Text

/-! ## Escapes -/

/-- A byte that stands for itself. -/
def isUnreserved (b : UInt8) : Bool :=
  isAsciiDigit b || 0x41 ≤ b && b ≤ 0x5a || 0x61 ≤ b && b ≤ 0x7a ||
    b == 0x2d || b == 0x2e || b == 0x5f || b == 0x7e

/-- A hexadecimal digit in upper case. -/
def hexDigit (n : ℕ) : UInt8 := .ofNat (if n < 10 then 0x30 + n else 0x37 + n)

/-- How a byte is written. -/
def escapeByte (b : UInt8) : List UInt8 :=
  if isUnreserved b then [b]
  else if b = 0x20 then [0x2b]
  else [0x25, hexDigit (b.toNat / 16), hexDigit (b.toNat % 16)]

/-- The escaped text. -/
def escape (text : List UInt8) : List UInt8 := text.flatMap escapeByte

/-- The text that was escaped; a `%` without two digits stays. -/
def unescape : List UInt8 → List UInt8
  | [] => []
  | 0x25 :: high :: low :: rest =>
    match hexValue high, hexValue low with
    | some x, some y => .ofNat (16 * x + y) :: unescape rest
    | _, _ => 0x25 :: unescape (high :: low :: rest)
  | b :: rest => (if b = 0x2b then 0x20 else b) :: unescape rest

theorem hexValue_hexDigit : ∀ n < 16, hexValue (hexDigit n) = some n := by decide

theorem unescape_cons {b : UInt8} (h : b ≠ 0x25) (rest : List UInt8) :
    unescape (b :: rest) = (if b = 0x2b then 0x20 else b) :: unescape rest := by
  rw [unescape]
  rintro high low rest' rfl
  exact absurd rfl h

theorem unescape_escapeByte (b : UInt8) (rest : List UInt8) :
    unescape (escapeByte b ++ rest) = b :: unescape rest := by
  rw [escapeByte]
  split_ifs with hplain hspace
  · have hmarks : b ≠ 0x25 ∧ b ≠ 0x2b := by
      constructor
      · rintro rfl
        exact absurd hplain (by decide)
      · rintro rfl
        exact absurd hplain (by decide)
    rw [List.singleton_append, unescape_cons hmarks.1, if_neg hmarks.2]
  · rw [hspace]
    rfl
  · have hb := b.toNat_lt
    have hsum : 16 * (b.toNat / 16) + b.toNat % 16 = b.toNat := by omega
    simp only [List.cons_append, List.nil_append, unescape,
      hexValue_hexDigit (b.toNat / 16) (by omega), hexValue_hexDigit (b.toNat % 16) (by omega),
      hsum, UInt8.ofNat_toNat]

/-- **An escaped text is read back.** -/
theorem unescape_escape : ∀ text : List UInt8, unescape (escape text) = text
  | [] => rfl
  | b :: text => by
      rw [escape, List.flatMap_cons, unescape_escapeByte, ← escape, unescape_escape text]

/-- An escaped text has no mark between names and values. -/
theorem not_mem_escape {mark : UInt8} (hmark : mark ∈ [0x26, 0x3d]) (text : List UInt8) :
    mark ∉ escape text := by
  have hplain : ∀ mark ∈ ([0x26, 0x3d] : List UInt8), isUnreserved mark = false ∧
      mark ∉ ([0x25, 0x2b] : List UInt8) ∧ ∀ n < 16, hexDigit n ≠ mark := by decide
  obtain ⟨hreserved, hother, hdigit⟩ := hplain mark hmark
  rw [escape, List.mem_flatMap]
  rintro ⟨b, -, hb⟩
  have hlt := b.toNat_lt
  rw [escapeByte] at hb
  split_ifs at hb with hunreserved hspace
  · obtain rfl := List.mem_singleton.1 hb
    exact absurd (hreserved.symm.trans hunreserved) (by decide)
  · exact hother (List.mem_cons_of_mem _ hb)
  · simp only [List.mem_cons, List.not_mem_nil, or_false] at hb
    obtain hb | hb | hb := hb
    · exact hother (hb ▸ List.mem_cons_self)
    · exact hdigit _ (by omega) hb.symm
    · exact hdigit _ (by omega) hb.symm

/-! ## Queries -/

/-- A field of a query. -/
def encodeField (field : List UInt8 × List UInt8) : List UInt8 :=
  escape field.1 ++ 0x3d :: escape field.2

/-- The query. -/
def encode (fields : List (List UInt8 × List UInt8)) : List UInt8 :=
  [0x26].intercalate (fields.map encodeField)

/-- The name and the value of a field. -/
def decodeField (field : List UInt8) : List UInt8 × List UInt8 :=
  (unescape (field.takeWhile (· ≠ 0x3d)), unescape (field.dropWhile (· ≠ 0x3d)).tail)

/-- The names and the values of a query. -/
def decode (query : List UInt8) : List (List UInt8 × List UInt8) :=
  (query.splitOn 0x26).map decodeField

theorem decodeField_encodeField (field : List UInt8 × List UInt8) :
    decodeField (encodeField field) = field := by
  have hname : ∀ b ∈ escape field.1, decide (b ≠ 0x3d) = true := by
    intro b hb
    refine decide_eq_true ?_
    rintro rfl
    exact not_mem_escape (by decide) _ hb
  have hequals : decide ((0x3d : UInt8) ≠ 0x3d) = false := by decide
  rw [decodeField, encodeField, List.takeWhile_append_of_pos hname,
    List.dropWhile_append_of_pos hname, List.takeWhile_cons, List.dropWhile_cons, hequals]
  simp [unescape_escape]

/-- **A query is taken apart as it was put together.** -/
theorem decode_encode {fields : List (List UInt8 × List UInt8)} (h : fields ≠ []) :
    decode (encode fields) = fields := by
  have hsep : ∀ text ∈ fields.map encodeField, (0x26 : UInt8) ∉ text := by
    intro text htext
    obtain ⟨field, -, rfl⟩ := List.mem_map.1 htext
    rw [encodeField, List.mem_append, List.mem_cons]
    rintro (hmem | hmem | hmem)
    · exact not_mem_escape (by decide) _ hmem
    · exact absurd hmem (by decide)
    · exact not_mem_escape (by decide) _ hmem
  rw [decode, encode, List.splitOn_intercalate _ hsep (by simpa using h), List.map_map]
  exact (List.map_congr_left fun field _ => decodeField_encodeField field).trans (List.map_id _)

end Urlencoded

end Cerbero
