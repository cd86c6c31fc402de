import Cerbero.Lib.Text
import Cerbero.Lib.Fallible

/-!
# Lib/ByteIndex — slicing a text by byte index

A text is sliced at a byte index, which panics within a character and past the end (`splitAtByte`).
An index found by looking at the bytes is safe next to an ASCII byte: the character there takes one
byte, so the text may be cut before it and after it (**`exists_splitAtByte_of_ascii`**).
-/

namespace Cerbero

namespace Text

/-! ## The bytes of a list of characters -/

/-- The UTF-8 bytes of a text. -/
def encode (text : List Char) : List UInt8 := text.flatMap String.utf8EncodeChar

theorem bytes_ofList_eq_encode (text : List Char) : bytes (String.ofList text) = encode text := by
  rw [bytes_eq_flatMap, String.toList_ofList, encode]

@[simp] theorem encode_nil : encode [] = [] := rfl

theorem encode_cons (ch : Char) (text : List Char) :
    encode (ch :: text) = String.utf8EncodeChar ch ++ encode text := List.flatMap_cons

@[simp] theorem encode_append (text more : List Char) :
    encode (text ++ more) = encode text ++ encode more := List.flatMap_append

theorem encode_cons_of_lt {ch : Char} (h : ch.toNat < 128) (text : List Char) :
    encode (ch :: text) = ch.toUInt8 :: encode text := by
  rw [encode_cons, utf8EncodeChar_of_lt h, List.singleton_append]

theorem length_bytes (s : String) : (bytes s).length = (encode s.toList).length := by
  rw [bytes_eq_flatMap, encode]

theorem length_encode_concat (before : List Char) (last : Char) :
    (encode (before ++ [last])).length = (encode before).length + last.utf8Size := by
  rw [encode_append, List.length_append, encode_cons, encode_nil, List.append_nil,
    String.length_utf8EncodeChar]

/-- A byte of a text is that of an ASCII character of it or not ASCII. -/
theorem mem_encode {text : List Char} {b : UInt8} (h : b ∈ encode text) :
    (∃ ch ∈ text, ch.toNat < 128 ∧ ch.toUInt8 = b) ∨ 128 ≤ b.toNat := by
  obtain ⟨ch, hch, hb⟩ := List.mem_flatMap.1 h
  by_cases hascii : ch.toNat < 128
  · rw [utf8EncodeChar_of_lt hascii, List.mem_singleton] at hb
    exact .inl ⟨ch, hch, hascii, hb.symm⟩
  · exact .inr (le_toNat_of_mem_utf8EncodeChar (Nat.le_of_not_lt hascii) hb)

/-- A text without an ASCII character does not have its byte. -/
theorem toUInt8_notMem_encode {text : List Char} {ch : Char} (h : ch.toNat < 128)
    (hnot : ch ∉ text) : ch.toUInt8 ∉ encode text := by
  intro hmem
  rcases mem_encode hmem with ⟨c, hc, hlt, heq⟩ | hle
  · rw [← ofNat_toUInt8 hlt, heq, ofNat_toUInt8 h] at hc
    exact hnot hc
  · rw [toNat_toUInt8 h] at hle
    omega

/-! ## Digits -/

theorem toNat_of_isDigit {ch : Char} (h : ch.isDigit) : 48 ≤ ch.toNat ∧ ch.toNat ≤ 57 := by
  simpa [Char.isDigit, UInt32.le_iff_toNat_le] using h

theorem isWhitespace_of_isDigit {ch : Char} (h : ch.isDigit) : isWhitespace ch = false := by
  have hrange := toNat_of_isDigit h
  simp only [isWhitespace, Bool.or_eq_false_iff, Bool.and_eq_false_iff, decide_eq_false_iff_not]
  omega

/-! ## Slicing -/

/-- `&text[..index]` and `&text[index..]`: none, a panic, within a character and past the end. -/
def splitAtByte (index : ℕ) : List Char → Option (List Char × List Char)
  | [] => if index = 0 then some ([], []) else none
  | ch :: text =>
    if index = 0 then some ([], ch :: text)
    else if index < ch.utf8Size then none
    else (splitAtByte (index - ch.utf8Size) text).map fun parts => (ch :: parts.1, parts.2)

@[simp] theorem splitAtByte_zero (text : List Char) : splitAtByte 0 text = some ([], text) := by
  cases text <;> exact if_pos rfl

theorem utf8Size_pos (ch : Char) : 0 < ch.utf8Size := Char.utf8Size_pos ch

/-- **A text may be cut between any two characters.** -/
theorem splitAtByte_append (text more : List Char) :
    splitAtByte (encode text).length (text ++ more) = some (text, more) := by
  induction text with
  | nil => exact splitAtByte_zero more
  | cons ch text ih =>
    have hlength : (encode (ch :: text)).length = ch.utf8Size + (encode text).length := by
      rw [encode_cons, List.length_append, String.length_utf8EncodeChar]
    have hpos := utf8Size_pos ch
    rw [List.cons_append, splitAtByte, hlength, if_neg (by omega), if_neg (by omega),
      Nat.add_sub_cancel_left, ih]
    rfl

/-- **A text may not be cut within a character.** -/
theorem splitAtByte_within {ch : Char} {k : ℕ} (hpos : 0 < k) (hlt : k < ch.utf8Size)
    (before after : List Char) :
    splitAtByte ((encode before).length + k) (before ++ ch :: after) = none := by
  induction before with
  | nil =>
    rw [List.nil_append, splitAtByte, encode_nil, List.length_nil, if_neg (by omega),
      if_pos (by omega)]
  | cons c before ih =>
    have hlength : (encode (c :: before)).length = c.utf8Size + (encode before).length := by
      rw [encode_cons, List.length_append, String.length_utf8EncodeChar]
    rw [List.cons_append, splitAtByte, hlength, if_neg (by omega), if_neg (by omega),
      show c.utf8Size + (encode before).length + k - c.utf8Size = (encode before).length + k by
        omega, ih]
    rfl

/-- The slices of a text are its parts. -/
theorem append_of_splitAtByte {index : ℕ} {text before after : List Char}
    (h : splitAtByte index text = some (before, after)) : before ++ after = text := by
  induction text generalizing index before with
  | nil =>
    rw [splitAtByte] at h
    split_ifs at h
    obtain ⟨rfl, rfl⟩ := Prod.mk.inj (Option.some.inj h)
    rfl
  | cons ch text ih =>
    rw [splitAtByte] at h
    split_ifs at h
    · obtain ⟨rfl, rfl⟩ := Prod.mk.inj (Option.some.inj h)
      rfl
    · obtain ⟨⟨first, second⟩, hparts, heq⟩ := Option.map_eq_some_iff.1 h
      obtain ⟨rfl, rfl⟩ := Prod.mk.inj heq
      rw [List.cons_append, ih hparts]

/-- **Next to an ASCII byte a text may be cut on both sides.** -/
theorem exists_splitAtByte_of_ascii {text : List Char} {index : ℕ} {b : UInt8}
    (hb : (encode text)[index]? = some b) (hascii : b.toNat < 128) :
    ∃ before ch after, text = before ++ ch :: after ∧ ch.toNat < 128 ∧ ch.toUInt8 = b ∧
      index = (encode before).length := by
  induction text generalizing index with
  | nil => exact nomatch hb
  | cons ch text ih =>
    rw [encode_cons] at hb
    rcases Nat.lt_or_ge index (String.utf8EncodeChar ch).length with hlt | hge
    · -- the byte is one of this character, which is ASCII
      rw [List.getElem?_append_left hlt] at hb
      have hch : ch.toNat < 128 := by
        by_contra hlarge
        have := le_toNat_of_mem_utf8EncodeChar (Nat.le_of_not_lt hlarge) (List.mem_of_getElem? hb)
        omega
      rw [utf8EncodeChar_of_lt hch] at hb hlt
      obtain rfl : index = 0 := by simpa using hlt
      exact ⟨[], ch, text, rfl, hch, Option.some.inj hb, rfl⟩
    · rw [List.getElem?_append_right hge] at hb
      obtain ⟨before, c, after, rfl, hc, heq, hindex⟩ := ih hb
      refine ⟨ch :: before, c, after, rfl, hc, heq, ?_⟩
      rw [encode_cons, List.length_append, ← hindex]
      omega

/-- The cut after an ASCII byte. -/
theorem splitAtByte_succ_of_ascii {text : List Char} {index : ℕ} {b : UInt8}
    (hb : (encode text)[index]? = some b) (hascii : b.toNat < 128) :
    ∃ before after, splitAtByte (index + 1) text = some (before, after) := by
  obtain ⟨before, ch, after, rfl, hch, -, rfl⟩ := exists_splitAtByte_of_ascii hb hascii
  have hlength : (encode before).length + 1 = (encode (before ++ [ch])).length := by
    rw [encode_append, encode_cons_of_lt hch, List.length_append]
    rfl
  refine ⟨before ++ [ch], after, ?_⟩
  rw [hlength, List.append_cons before ch after]
  exact splitAtByte_append _ _

/-- **A text is cut after all but its last byte if that is a character.** -/
theorem splitAtByte_last (before : List Char) {last : Char} (hlast : last.toNat < 128) :
    splitAtByte ((encode (before ++ [last])).length - 1) (before ++ [last]) =
      some (before, [last]) := by
  rw [encode_append, encode_cons_of_lt hlast, List.length_append]
  exact splitAtByte_append before [last]

theorem one_lt_utf8Size {ch : Char} (h : 128 ≤ ch.toNat) : 1 < ch.utf8Size := by
  have hne : ch.utf8Size ≠ 1 := by
    rw [Ne, Char.utf8Size_eq_one_iff, UInt32.le_iff_toNat_le, not_le]
    exact h
  have hpos := utf8Size_pos ch
  omega

theorem splitAtByte_last_wide (before : List Char) {last : Char} (hlast : 128 ≤ last.toNat) :
    splitAtByte ((encode (before ++ [last])).length - 1) (before ++ [last]) = none := by
  have hsize := one_lt_utf8Size hlast
  rw [length_encode_concat, Nat.add_sub_assoc hsize.le]
  exact splitAtByte_within (by omega) (by omega) before []

/-! ## Finding a character -/

/-- `str::find` for a character: the byte index of the first one. -/
def findChar (ch : Char) : List Char → Option ℕ
  | [] => none
  | c :: text => if c = ch then some 0 else (findChar ch text).map (c.utf8Size + ·)

/-- **What is found is where the text is split.** -/
theorem findChar_eq (ch : Char) (text : List Char) :
    findChar ch text = (splitOnce [ch] text).map fun parts => (encode parts.1).length := by
  induction text with
  | nil => rfl
  | cons c text ih =>
    rw [findChar, splitOnce]
    by_cases hc : c = ch
    · rw [if_pos hc, if_pos (by simp [hc])]
      rfl
    · rw [if_neg hc, if_neg (by simpa using fun h => hc h.symm), ih, Option.map_map, Option.map_map]
      congr 1
      funext parts
      show _ = (encode (c :: parts.1)).length
      rw [encode_cons, List.length_append, String.length_utf8EncodeChar]
      rfl

/-- A text is split at a character where the character is first. -/
theorem splitOnce_singleton {ch : Char} {before : List Char} (h : ch ∉ before)
    (after : List Char) : splitOnce [ch] (before ++ ch :: after) = some (before, after) := by
  refine (splitOnce_eq_some (List.cons_ne_nil _ _)).2 ⟨List.append_cons _ _ _, fun hinfix => h ?_⟩
  rw [List.dropLast_singleton, List.append_nil] at hinfix
  exact hinfix.subset (List.mem_singleton_self ch)

end Text

/-! ## Computations that may panic -/

/-- An outcome of a computation that may panic, which is none. -/
abbrev Panicking (ε : Type) := ExceptT ε Option

namespace Panicking

variable {ε α β : Type}

/-- The outcome is not a panic. -/
def Safe (x : Panicking ε α) : Prop := x.run ≠ none

/-- An outcome that is no panic. -/
def attempt (x : Except ε α) : Panicking ε α := ExceptT.mk (some x)

/-- A result that may be missing because of a panic. -/
def orPanic (x : Option α) : Panicking ε α := ExceptT.mk (x.map .ok)

theorem attempt_eq_attempt {ε α : Type} {x y : Except ε α} : attempt x = attempt y ↔ x = y :=
  Option.some_inj

-- The parentheses keep `simp` from rewriting by definition: the kernel would have to run whatever
-- comes after.
theorem attempt_ok_bind (a : α) (f : α → Panicking ε β) : attempt (.ok a) >>= f = f a := (rfl)

theorem orPanic_some_bind (a : α) (f : α → Panicking ε β) : orPanic (some a) >>= f = f a := (rfl)

theorem safe_attempt (x : Except ε α) : (attempt x).Safe := fun h => nomatch h

/-- A sequence is safe if its parts are, the second one for the results of the first. -/
theorem safe_bind {x : Panicking ε α} {f : α → Panicking ε β} (hx : x.Safe)
    (hf : ∀ a, x = attempt (.ok a) → (f a).Safe) : (x >>= f).Safe := by
  match x, hx, hf with
  | none, hx, _ => exact absurd rfl hx
  | some (.error e), _, _ => exact safe_attempt (.error e)
  | some (.ok a), _, hf => exact hf a rfl

end Panicking

end Cerbero
