import Mathlib.Algebra.Group.Int.Defs
import Mathlib.Algebra.Group.Nat.Defs
import Mathlib.Data.Int.Notation
import Mathlib.Data.List.Basic
import Mathlib.Data.List.Infix
import Mathlib.Tactic.Common

/-!
# Lib/Text — the bytes of a string

Validators look at the bytes of a string, keys and documents are built from its characters.
`bytes_eq_flatMap` is the bridge: the bytes are the UTF-8 encodings of the characters one after
the other, so an ASCII character of the string is one of its bytes (`mem_bytes_of_mem`).
-/

-- `Char` and `UInt8` are finite, but a statement about a list is decided by going through the list
attribute [instance (1100)] List.decidableBAll List.decidableBEx

namespace Cerbero

namespace Text

/-- The UTF-8 bytes of a string. -/
def bytes (s : String) : List UInt8 := s.toUTF8.data.toList

theorem bytes_eq_flatMap (s : String) : bytes s = s.toList.flatMap String.utf8EncodeChar := by
  have h : s.toByteArray = s.toList.utf8Encode := by rw [String.utf8Encode_toList]
  rw [bytes, String.toUTF8, h, List.utf8Encode, List.toList_data_toByteArray]

@[simp] theorem bytes_append (s t : String) : bytes (s ++ t) = bytes s ++ bytes t := by
  rw [bytes_eq_flatMap, bytes_eq_flatMap, bytes_eq_flatMap, String.toList_append,
    List.flatMap_append]

theorem bytes_injective : Function.Injective bytes := by
  intro s t h
  rw [← String.toByteArray_inj]
  exact ByteArray.ext (Array.toList_inj.1 h)

/-- An ASCII character is encoded as itself. -/
theorem utf8EncodeChar_of_lt {c : Char} (h : c.toNat < 128) :
    String.utf8EncodeChar c = [c.toUInt8] := by
  refine String.utf8EncodeChar_eq_singleton (Char.utf8Size_eq_one_iff.2 ?_)
  show c.val.toNat ≤ 127
  exact Nat.le_of_lt_succ h

theorem toNat_toUInt8 {c : Char} (h : c.toNat < 128) : c.toUInt8.toNat = c.toNat := by
  simp only [Char.toUInt8, UInt32.toNat_toUInt8]
  exact Nat.mod_eq_of_lt (by show c.toNat < 256; omega)

/-- An ASCII character is read off its byte. -/
theorem ofNat_toUInt8 {c : Char} (h : c.toNat < 128) : Char.ofNat c.toUInt8.toNat = c := by
  rw [toNat_toUInt8 h, Char.ofNat_toNat]

/-- The bytes of an ASCII character of a string are among the bytes of the string. -/
theorem mem_bytes_of_mem {c : Char} {s : String} (h : c.toNat < 128) (hc : c ∈ s.toList) :
    c.toUInt8 ∈ bytes s := by
  rw [bytes_eq_flatMap, List.mem_flatMap]
  exact ⟨c, hc, by rw [utf8EncodeChar_of_lt h]; exact List.mem_singleton_self _⟩

theorem le_toNat_or {x k : UInt8} (h : 128 ≤ k.toNat) : 128 ≤ (x ||| k).toNat := by
  rw [UInt8.toNat_or]
  exact Nat.le_trans h Nat.right_le_or

/-- The bytes of a character that is not ASCII are not ASCII either. -/
theorem le_toNat_of_mem_utf8EncodeChar {c : Char} (h : 128 ≤ c.toNat) {b : UInt8}
    (hb : b ∈ String.utf8EncodeChar c) : 128 ≤ b.toNat := by
  have hc : ¬ c.val ≤ 0x7f := by
    rw [UInt32.le_iff_toNat_le]
    exact Nat.not_le.2 h
  rw [String.utf8EncodeChar_eq_utf8EncodeCharFast, String.utf8EncodeCharFast, if_neg hc] at hb
  split at hb
  · simp only [List.mem_cons, List.not_mem_nil, or_false] at hb
    rcases hb with rfl | rfl <;> exact le_toNat_or (by decide)
  · split at hb
    · simp only [List.mem_cons, List.not_mem_nil, or_false] at hb
      rcases hb with rfl | rfl | rfl <;> exact le_toNat_or (by decide)
    · simp only [List.mem_cons, List.not_mem_nil, or_false] at hb
      rcases hb with rfl | rfl | rfl | rfl <;> exact le_toNat_or (by decide)

/-- **A string of ASCII bytes is a string of ASCII characters.** -/
theorem toNat_lt_of_bytes {s : String} (h : ∀ b ∈ bytes s, b.toNat < 128) {c : Char}
    (hc : c ∈ s.toList) : c.toNat < 128 := by
  by_contra hlarge
  obtain ⟨b, hb⟩ := List.exists_mem_of_ne_nil _ (String.utf8EncodeChar_ne_nil (c := c))
  have hmem : b ∈ bytes s := by
    rw [bytes_eq_flatMap]
    exact List.mem_flatMap.2 ⟨c, hc, hb⟩
  exact Nat.not_lt.2 (le_toNat_of_mem_utf8EncodeChar (Nat.le_of_not_lt hlarge) hb) (h b hmem)

/-- A byte below 128 is a character. -/
theorem mem_of_mem_bytes {s : String} {b : UInt8} (hb : b ∈ bytes s) (hlt : b.toNat < 128) :
    Char.ofNat b.toNat ∈ s.toList := by
  rw [bytes_eq_flatMap] at hb
  obtain ⟨ch, hch, hmem⟩ := List.mem_flatMap.1 hb
  have hascii : ch.toNat < 128 := by
    by_contra hlarge
    have := le_toNat_of_mem_utf8EncodeChar (Nat.le_of_not_lt hlarge) hmem
    omega
  rw [utf8EncodeChar_of_lt hascii, List.mem_singleton] at hmem
  rwa [hmem, ofNat_toUInt8 hascii]

/-! ## Decoding -/

/-- `std::str::from_utf8`. -/
def fromUtf8 (raw : List UInt8) : Option String := String.fromUTF8? ⟨raw.toArray⟩

/-- **Decoding undoes encoding**, and accepts nothing else. -/
theorem fromUtf8_eq_some {raw : List UInt8} {s : String} :
    fromUtf8 raw = some s ↔ bytes s = raw := by
  unfold fromUtf8 String.fromUTF8?
  constructor
  · intro h
    split at h
    · obtain rfl := Option.some.inj h
      rfl
    · exact nomatch h
  · rintro rfl
    exact dif_pos s.isValidUTF8

@[simp] theorem fromUtf8_bytes (s : String) : fromUtf8 (bytes s) = some s := fromUtf8_eq_some.2 rfl

/-! ## Numbers -/

theorem repr_injective {n m : ℕ} (h : n.repr = m.repr) : n = m := by
  have hdigits := congrArg (fun s : String => Nat.ofDigitChars 10 s.toList 0) h
  simpa [Nat.toList_repr] using hdigits

/-- A number with at least `width` digits. -/
def zeroPadded (width n : ℕ) : List Char :=
  List.replicate (width - (Nat.toDigits 10 n).length) '0' ++ Nat.toDigits 10 n

theorem isDigit_of_mem_zeroPadded {width n : ℕ} {ch : Char} (h : ch ∈ zeroPadded width n) :
    ch.isDigit := by
  obtain h | h := List.mem_append.1 h
  · rw [List.eq_of_mem_replicate h]
    rfl
  · exact Nat.isDigit_of_mem_toDigits (by decide) (by decide) h

theorem ofDigitChars_zeroPadded (width n : ℕ) :
    Nat.ofDigitChars 10 (zeroPadded width n) 0 = n := by
  rw [zeroPadded, Nat.ofDigitChars_append, Nat.ofDigitChars_replicate_zero, Nat.mul_zero]
  exact Nat.ofDigitChars_toDigits (by decide) (by decide)

theorem zeroPadded_injective (width : ℕ) : Function.Injective (zeroPadded width) := by
  intro n m h
  rw [← ofDigitChars_zeroPadded width n, h, ofDigitChars_zeroPadded]

/-! ## ASCII classes -/

/-- `u8::is_ascii_digit`. -/
def isAsciiDigit (b : UInt8) : Bool := 0x30 ≤ b && b ≤ 0x39

/-- `u8::is_ascii_hexdigit`. -/
def isAsciiHexdigit (b : UInt8) : Bool :=
  isAsciiDigit b || (0x61 ≤ b && b ≤ 0x66) || (0x41 ≤ b && b ≤ 0x46)

/-- The value of a hexadecimal digit. -/
def hexValue (b : UInt8) : Option ℕ :=
  if 0x30 ≤ b && b ≤ 0x39 then some (b.toNat - 0x30)
  else if 0x41 ≤ b && b ≤ 0x46 then some (b.toNat - 0x37)
  else if 0x61 ≤ b && b ≤ 0x66 then some (b.toNat - 0x57)
  else none

/-- `u8::to_ascii_lowercase`. -/
def toAsciiLowercase (b : UInt8) : UInt8 := if 0x41 ≤ b && b ≤ 0x5a then b + 0x20 else b

/-! ## Blank text -/

/-- `char::is_whitespace`: the characters with the Unicode `White_Space` property. -/
def isWhitespace (c : Char) : Bool :=
  let n := c.toNat
  (0x09 ≤ n && n ≤ 0x0d) || n = 0x20 || n = 0x85 || n = 0xa0 || n = 0x1680 ||
    (0x2000 ≤ n && n ≤ 0x200a) || n = 0x2028 || n = 0x2029 || n = 0x202f || n = 0x205f ||
    n = 0x3000

/-- `s.trim().is_empty()`. -/
def isBlank (s : String) : Bool := s.toList.all isWhitespace

/-- `str::trim` on the characters of a string. -/
def trim (text : List Char) : List Char :=
  ((text.dropWhile isWhitespace).reverse.dropWhile isWhitespace).reverse

/-- A string with a character that is not white space is not blank. -/
theorem isBlank_eq_false {s : String} {c : Char} (hc : c ∈ s.toList)
    (h : isWhitespace c = false) : isBlank s = false :=
  List.all_eq_false.2 ⟨c, hc, by simp [h]⟩

/-- A text that begins and ends with other characters has no white space to trim. -/
theorem trim_eq_self {first last : Char} (hfirst : isWhitespace first = false)
    (hlast : isWhitespace last = false) (middle : List Char) :
    trim (first :: middle ++ [last]) = first :: middle ++ [last] := by
  rw [trim, List.cons_append, List.dropWhile_cons_of_neg (by simp [hfirst]), ← List.cons_append,
    List.reverse_append, List.reverse_singleton, List.singleton_append,
    List.dropWhile_cons_of_neg (by simp [hlast]), List.reverse_cons, List.reverse_reverse]

/-! ## Parts of a text -/

/-- `marker` occurs in `text`. -/
def occurs {α : Type} [BEq α] (marker text : List α) : Bool := text.tails.any marker.isPrefixOf

theorem occurs_iff {α : Type} [BEq α] [LawfulBEq α] {marker text : List α} :
    occurs marker text ↔ marker <:+: text := by
  rw [occurs, List.any_eq_true, List.infix_iff_prefix_suffix]
  simp only [List.mem_tails, List.isPrefixOf_iff_prefix]
  exact exists_congr fun _ => And.comm

/-- `str::contains`. -/
def contains (text marker : List Char) : Bool := occurs marker text

/-- `str::split_once`: the parts before and after the first occurrence of `sep`. -/
def splitOnce (sep : List Char) : List Char → Option (List Char × List Char)
  | [] => if sep = [] then some ([], []) else none
  | ch :: text =>
    if sep.isPrefixOf (ch :: text) then some ([], (ch :: text).drop sep.length)
    else (splitOnce sep text).map fun parts => (ch :: parts.1, parts.2)

/-- A marker at the start of a text that goes on with a second marker lies within the first
characters of the latter, all but its last. -/
theorem prefix_append_dropLast {α : Type} {marker before after : List α} (hmarker : marker ≠ [])
    (hbefore : before ≠ []) (h : marker <+: before ++ marker ++ after) :
    marker <+: before ++ marker.dropLast := by
  refine List.prefix_of_prefix_length_le h ?_ ?_
  · rw [List.append_assoc]
    exact (List.prefix_append_right_inj before).2
      ((List.dropLast_prefix marker).trans (List.prefix_append _ _))
  · have := List.length_pos_iff.2 hbefore
    have := List.length_pos_iff.2 hmarker
    rw [List.length_append, List.length_dropLast]
    omega

/-- **`split_once` cuts at the first occurrence**: the separator is in the text, and no occurrence
begins before it. -/
theorem splitOnce_eq_some {sep : List Char} (hsep : sep ≠ []) : ∀ {text before after : List Char},
    splitOnce sep text = some (before, after) ↔
      text = before ++ sep ++ after ∧ ¬ sep <:+: before ++ sep.dropLast
  | [], before, after => by
      rw [splitOnce, if_neg hsep]
      refine iff_of_false (fun h => nomatch h) fun ⟨h, _⟩ => hsep ?_
      exact (List.append_eq_nil_iff.1 (List.append_eq_nil_iff.1 h.symm).1).2
  | ch :: text, before, after => by
      have hshort : ¬ sep <:+: sep.dropLast := fun h => by
        have := h.length_le
        have := List.length_pos_iff.2 hsep
        rw [List.length_dropLast] at *
        omega
      rw [splitOnce]
      split_ifs with hstart
      · obtain ⟨rest, hrest⟩ := List.isPrefixOf_iff_prefix.1 hstart
        rw [← hrest, List.drop_left, Option.some.injEq, Prod.mk.injEq]
        constructor
        · rintro ⟨rfl, rfl⟩
          exact ⟨rfl, hshort⟩
        · rintro ⟨heq, hfirst⟩
          match before with
          | [] => exact ⟨rfl, List.append_cancel_left heq⟩
          | b :: before =>
            refine absurd (List.IsPrefix.isInfix ?_) hfirst
            exact prefix_append_dropLast hsep (List.cons_ne_nil _ _) (heq ▸ List.prefix_append _ _)
      · rw [Option.map_eq_some_iff]
        have hstart' : ¬ sep <+: ch :: text := fun h => hstart (List.isPrefixOf_iff_prefix.2 h)
        match before with
        | [] =>
          refine iff_of_false (fun ⟨_, _, h⟩ => nomatch (Prod.mk.inj h).1) fun ⟨h, _⟩ => hstart' ?_
          exact h ▸ List.prefix_append _ _
        | b :: before =>
          simp only [Prod.exists, Prod.mk.injEq, List.cons.injEq, List.cons_append,
            List.infix_cons_iff]
          constructor
          · rintro ⟨first, second, hsplit, ⟨rfl, rfl⟩, rfl⟩
            obtain ⟨rfl, hfirst⟩ := (splitOnce_eq_some hsep).1 hsplit
            refine ⟨⟨rfl, rfl⟩, fun h => h.elim (fun h => hstart' ?_) hfirst⟩
            refine h.trans ?_
            rw [List.append_assoc]
            exact (List.prefix_append_right_inj (ch :: first)).2
              ((List.dropLast_prefix sep).trans (List.prefix_append _ _))
          · rintro ⟨⟨rfl, rfl⟩, hfirst⟩
            exact ⟨before, after, (splitOnce_eq_some hsep).2 ⟨rfl, fun h => hfirst (.inr h)⟩,
              ⟨rfl, rfl⟩, rfl⟩

/-- `str::split_whitespace().next()`. -/
def firstWord (text : List Char) : Option (List Char) :=
  let word := (text.dropWhile isWhitespace).takeWhile fun ch => !isWhitespace ch
  if word = [] then none else some word

/-- The first word of a text that begins with a word. -/
theorem firstWord_append {word rest : List Char} (hword : word ≠ [])
    (hplain : ∀ ch ∈ word, isWhitespace ch = false)
    (hrest : ∀ ch ∈ rest.head?, isWhitespace ch) : firstWord (word ++ rest) = some word := by
  have htake : (word ++ rest).takeWhile (fun ch => !isWhitespace ch) = word := by
    rw [List.takeWhile_append_of_pos fun ch hch => by simp [hplain ch hch]]
    match rest, hrest with
    | [], _ => rw [List.takeWhile_nil, List.append_nil]
    | ch :: rest, hrest =>
      rw [List.takeWhile_cons_of_neg (by simp [hrest ch rfl]), List.append_nil]
  have hdrop : (word ++ rest).dropWhile isWhitespace = word ++ rest := by
    match word, hword with
    | ch :: word, _ =>
      exact List.dropWhile_cons_of_neg (by simp [hplain ch List.mem_cons_self])
  unfold firstWord
  simp only [hdrop, htake, if_neg hword]

/-- `str::strip_prefix`. -/
def stripPrefix (start text : List Char) : Option (List Char) :=
  if start.isPrefixOf text then some (text.drop start.length) else none

theorem stripPrefix_append (start text : List Char) :
    stripPrefix start (start ++ text) = some text := by
  rw [stripPrefix, if_pos (List.isPrefixOf_iff_prefix.2 (List.prefix_append _ _)),
    List.drop_left]

/-- `str::parse` for an unsigned integer with the given largest value. -/
def parseUnsigned (largest : ℕ) (text : List Char) : Option ℕ :=
  let digits := (stripPrefix ['+'] text).getD text
  if digits ≠ [] ∧ digits.all Char.isDigit then
    let value := Nat.ofDigitChars 10 digits 0
    if value ≤ largest then some value else none
  else none

/-- Digits that write a number. -/
structure IsNumeral (text : List Char) (n : ℕ) : Prop where
  ne_nil : text ≠ []
  isDigit : ∀ ch ∈ text, ch.isDigit
  value : Nat.ofDigitChars 10 text 0 = n

theorem not_isNumeral_plus {digits : List Char} {n : ℕ} : ¬ IsNumeral ('+' :: digits) n :=
  fun h => nomatch h.isDigit '+' List.mem_cons_self

theorem parseUnsigned_of_digits {largest n : ℕ} {text digits : List Char}
    (h : (stripPrefix ['+'] text).getD text = digits) :
    parseUnsigned largest text = some n ↔ IsNumeral digits n ∧ n ≤ largest := by
  rw [parseUnsigned, h]
  constructor
  · intro hparse
    dsimp only at hparse
    split_ifs at hparse with hdigits hle
    obtain rfl := Option.some.inj hparse
    exact ⟨⟨hdigits.1, List.all_eq_true.1 hdigits.2, rfl⟩, hle⟩
  · rintro ⟨⟨hne, hdigits, rfl⟩, hle⟩
    rw [if_pos ⟨hne, List.all_eq_true.2 hdigits⟩]
    exact if_pos hle

theorem parseUnsigned_plus {largest n : ℕ} {digits : List Char} :
    parseUnsigned largest ('+' :: digits) = some n ↔ IsNumeral digits n ∧ n ≤ largest := by
  have hstrip : stripPrefix ['+'] ('+' :: digits) = some digits := stripPrefix_append ['+'] digits
  exact parseUnsigned_of_digits (by rw [hstrip, Option.getD_some])

theorem stripPrefix_plus_of_ne {a : Char} (h : a ≠ '+') (text : List Char) :
    (stripPrefix ['+'] (a :: text)).getD (a :: text) = a :: text := by
  rw [stripPrefix, if_neg (by simpa using fun h' => h h'.symm), Option.getD_none]

/-- **What is read as a number**: digits, or a plus sign and digits. -/
theorem parseUnsigned_eq_some {largest n : ℕ} {text : List Char} :
    parseUnsigned largest text = some n ↔
      (IsNumeral text n ∨ ∃ digits, text = '+' :: digits ∧ IsNumeral digits n) ∧ n ≤ largest := by
  match text with
  | [] =>
    rw [parseUnsigned_of_digits rfl]
    exact and_congr_left' ⟨.inl, fun h => h.resolve_right fun ⟨_, h, _⟩ => nomatch h⟩
  | a :: text =>
    by_cases hplus : a = '+'
    · subst hplus
      rw [parseUnsigned_plus]
      refine and_congr_left' ⟨fun h => .inr ⟨text, rfl, h⟩, ?_⟩
      rintro (h | ⟨digits, hdigits, h⟩)
      · exact absurd h not_isNumeral_plus
      · rwa [(List.cons.inj hdigits).2]
    · rw [parseUnsigned_of_digits (stripPrefix_plus_of_ne hplus text)]
      refine and_congr_left' ⟨.inl, fun h => h.resolve_right ?_⟩
      rintro ⟨digits, hdigits, -⟩
      exact hplus (List.cons.inj hdigits).1

/-- **A number is read off its digits.** -/
theorem parseUnsigned_toDigits {largest n : ℕ} (h : n ≤ largest) :
    parseUnsigned largest (Nat.toDigits 10 n) = some n := by
  refine parseUnsigned_eq_some.2 ⟨.inl ⟨Nat.toDigits_ne_nil, fun ch hch => ?_, ?_⟩, h⟩
  · exact Nat.isDigit_of_mem_toDigits (by decide) (by decide) hch
  · exact Nat.ofDigitChars_toDigits (by decide) (by decide)

end Text

end Cerbero
