import Cerbero.Lib.ByteIndex

/-!
# Lib/Decimal — decimal numbers in bytes

The value of some digits and the digits of a number, and `strconv.ParseUint`.
-/

namespace Cerbero

namespace Text

/-- The value of some digits. -/
def decimalValue (digits : List UInt8) : ℕ :=
  digits.foldl (fun value b => 10 * value + (b.toNat - 0x30)) 0

/-- The digits of a number. -/
def decimalBytes (n : ℕ) : List UInt8 := (Nat.toDigits 10 n).map Char.toUInt8

/-- `strconv.ParseUint(text, 10, 64)`, with the reason of its error. -/
def parseUint (text : List UInt8) : Except String ℕ :=
  if text = [] ∨ ¬ text.all isAsciiDigit then .error "invalid syntax"
  else if 2 ^ 64 ≤ decimalValue text then .error "value out of range"
  else .ok (decimalValue text)

/-- **What is read as a number**: digits and nothing else, at least one of them, with a value that
fits into 64 bits. Leading zeros are digits like others. -/
theorem parseUint_eq_ok {text : List UInt8} {n : ℕ} :
    parseUint text = .ok n ↔
      text ≠ [] ∧ text.all isAsciiDigit ∧ decimalValue text = n ∧ n < 2 ^ 64 := by
  unfold parseUint
  split_ifs with hsyntax hrange
  · refine ⟨fun h => (nomatch h), fun ⟨hne, hall, _⟩ => ?_⟩
    exact absurd hsyntax (not_or.2 ⟨hne, not_not.2 hall⟩)
  · refine ⟨fun h => (nomatch h), fun ⟨_, _, heq, hlt⟩ => ?_⟩
    exact absurd (heq ▸ hrange) (Nat.not_le.2 hlt)
  · obtain ⟨hne, hall⟩ := not_or.1 hsyntax
    rw [Except.ok.injEq]
    exact ⟨fun heq => ⟨hne, not_not.1 hall, heq, heq ▸ Nat.lt_of_not_le hrange⟩,
      fun h => h.2.2.1⟩

/-- A digit is ASCII, so as a byte it keeps its number. -/
theorem toNat_toUInt8_of_isDigit {ch : Char} (h : ch.isDigit) : ch.toUInt8.toNat = ch.toNat := by
  have hdigit := toNat_of_isDigit h
  simp only [Char.toUInt8, UInt32.toNat_toUInt8]
  exact Nat.mod_eq_of_lt (by show ch.toNat < 256; omega)

section

variable (n : ℕ)

/-- Zero has a digit too. -/
theorem decimalBytes_ne_nil : decimalBytes n ≠ [] := by
  simp [decimalBytes]

/-- A number is written in digits. -/
theorem all_isAsciiDigit_decimalBytes : (decimalBytes n).all isAsciiDigit := by
  refine List.all_eq_true.2 fun b hb => ?_
  obtain ⟨ch, hch, rfl⟩ := List.mem_map.1 hb
  have hdigit := Nat.isDigit_of_mem_toDigits (by decide) (by decide) hch
  have hrange := toNat_of_isDigit hdigit
  simp only [isAsciiDigit, Bool.and_eq_true, decide_eq_true_eq, UInt8.le_iff_toNat_le,
    toNat_toUInt8_of_isDigit hdigit]
  exact hrange

/-- **A number is the value of its digits.** -/
theorem decimalValue_decimalBytes : decimalValue (decimalBytes n) = n := by
  have hdigits : ∀ (text : List Char) (value : ℕ), (∀ ch ∈ text, ch.isDigit) →
      (text.map Char.toUInt8).foldl (fun value b => 10 * value + (b.toNat - 0x30)) value =
        Nat.ofDigitChars 10 text value := by
    intro text
    induction text with
    | nil => exact fun _ _ => rfl
    | cons ch text ih =>
      intro value h
      obtain ⟨hch, htext⟩ := List.forall_mem_cons.1 h
      rw [List.map_cons, List.foldl_cons, ih _ htext, toNat_toUInt8_of_isDigit hch,
        Nat.ofDigitChars_cons]
      rfl
  rw [decimalValue, decimalBytes, hdigits _ _ fun ch hch =>
    Nat.isDigit_of_mem_toDigits (by decide) (by decide) hch]
  exact Nat.ofDigitChars_toDigits (by decide) (by decide)

/-- A number below `10 ^ k` has at most `k` digits. -/
theorem length_decimalBytes_le {k : ℕ} (hk : 0 < k) (h : n < 10 ^ k) :
    (decimalBytes n).length ≤ k := by
  rw [decimalBytes, List.length_map]
  exact (Nat.length_toDigits_le_iff (by decide) hk).2 h

end

end Text

end Cerbero
