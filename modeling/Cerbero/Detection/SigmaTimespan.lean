import Cerbero.Lib.ByteIndex

/-!
# Detection/SigmaTimespan — the time window of an imported rule

`parse_timespan_millis` cuts the last byte off the text and parses what is before it as a `u64`.
The cut panics where the last character takes several bytes (`safe_iff`), and the standard parser
takes a plus sign before the digits (`parseTimespanMillis_eq_ok`).  The parser does what is asked of
it exactly on the other texts (**`parsedExactly_iff`**).
-/

namespace Cerbero

namespace Detection

open Text Panicking

/-! ## The parser -/

/-- `SigmaImportError`. -/
structure SigmaImportError where
  message : String
  deriving DecidableEq, Repr

/-- `ok_or_else`. -/
def orImportError {α : Type} (part : Option α) (message : String) : Except SigmaImportError α :=
  part.elim (.error ⟨message⟩) .ok

/-- `u64::checked_mul`. -/
def checkedMul (a b : ℕ) : Option ℕ := if a * b < UInt64.size then some (a * b) else none

/-- The milliseconds of a unit. -/
def unitMultiplier : List Char → Except SigmaImportError ℕ
  | ['s'] => .ok 1000
  | ['m'] => .ok 60000
  | ['h'] => .ok 3600000
  | ['d'] => .ok 86400000
  | _ => .error ⟨"unsupported Sigma timespan unit"⟩

/-- What `parse_timespan_millis` makes of the two slices. -/
def timespanOfParts (number unit : List Char) : Except SigmaImportError ℕ := do
  let amount ← orImportError ((parseUnsigned (UInt64.size - 1) number).filter (0 < ·))
    "invalid Sigma timespan amount"
  let multiplier ← unitMultiplier unit
  orImportError (checkedMul amount multiplier) "Sigma timespan overflows u64 milliseconds"

/-- **`parse_timespan_millis`.** -/
def parseTimespanMillis (value : String) : Panicking SigmaImportError ℕ :=
  if (bytes value).length < 2 then attempt (.error ⟨"invalid Sigma timespan"⟩)
  else do
    let (number, unit) ← orPanic (splitAtByte ((bytes value).length - 1) value.toList)
    attempt (timespanOfParts number unit)

/-! ## The grammar -/

/-- A unit and its milliseconds. -/
inductive TimespanUnit : Char → ℕ → Prop
  | second : TimespanUnit 's' 1000
  | minute : TimespanUnit 'm' 60000
  | hour : TimespanUnit 'h' 3600000
  | day : TimespanUnit 'd' 86400000

/-- **The grammar**: an amount and a unit stand for milliseconds that fit in 64 bits. -/
inductive SigmaTimespan : List Char → ℕ → Prop
  | mk {digits : List Char} {unit : Char} {amount multiplier : ℕ}
      (hamount : IsNumeral digits amount) (hpos : 0 < amount)
      (hunit : TimespanUnit unit multiplier) (hfits : amount * multiplier < UInt64.size) :
      SigmaTimespan (digits ++ [unit]) (amount * multiplier)

/-- What is asked of the parser: it returns, and a result is that of the grammar. -/
structure ParsedExactly (value : String) : Prop where
  safe : (parseTimespanMillis value).Safe
  result : ∀ millis, parseTimespanMillis value = attempt (.ok millis) ↔
    SigmaTimespan value.toList millis

/-- The last character takes several bytes. -/
def EndsWide (text : List Char) : Prop := ∃ before last, text = before ++ [last] ∧ 128 ≤ last.toNat

/-- A plus sign before a timespan. -/
def SignedTimespan (text : List Char) (millis : ℕ) : Prop :=
  ∃ timespan, text = '+' :: timespan ∧ SigmaTimespan timespan millis

theorem sigmaTimespan_concat {digits : List Char} {unit : Char} {millis : ℕ} :
    SigmaTimespan (digits ++ [unit]) millis ↔ ∃ amount multiplier, IsNumeral digits amount ∧
      0 < amount ∧ TimespanUnit unit multiplier ∧ amount * multiplier < UInt64.size ∧
      amount * multiplier = millis := by
  constructor
  · generalize htext : digits ++ [unit] = text
    rintro ⟨hamount, hpos, hunit, hfits⟩
    obtain ⟨rfl, hlast⟩ := List.append_inj' htext rfl
    obtain rfl := List.singleton_inj.1 hlast
    exact ⟨_, _, hamount, hpos, hunit, hfits, rfl⟩
  · rintro ⟨amount, multiplier, hamount, hpos, hunit, hfits, rfl⟩
    exact ⟨hamount, hpos, hunit, hfits⟩

theorem TimespanUnit.pos {unit : Char} {multiplier : ℕ} (h : TimespanUnit unit multiplier) :
    0 < multiplier := by
  cases h <;> decide

theorem TimespanUnit.ascii {unit : Char} {multiplier : ℕ} (h : TimespanUnit unit multiplier) :
    unit.toNat < 128 := by
  cases h <;> decide

/-- A timespan has a digit and an ASCII unit. -/
theorem SigmaTimespan.shape {text : List Char} {millis : ℕ} (h : SigmaTimespan text millis) :
    ∃ digits unit, text = digits ++ [unit] ∧ digits ≠ [] ∧ unit.toNat < 128 := by
  obtain ⟨hamount, -, hunit, -⟩ := h
  exact ⟨_, _, rfl, hamount.ne_nil, hunit.ascii⟩

theorem not_sigmaTimespan_plus {timespan : List Char} {millis : ℕ}
    (hspan : SigmaTimespan timespan millis) (n : ℕ) : ¬ SigmaTimespan ('+' :: timespan) n := by
  intro h
  obtain ⟨digits, unit, rfl, -, -⟩ := hspan.shape
  rw [← List.cons_append, sigmaTimespan_concat] at h
  obtain ⟨amount, multiplier, hamount, -⟩ := h
  exact not_isNumeral_plus hamount

/-! ## The slices -/

theorem orImportError_eq_ok {α : Type} {part : Option α} {message : String} {a : α} :
    orImportError part message = .ok a ↔ part = some a := by
  cases part <;> simp [orImportError]

theorem checkedMul_eq_some {a b n : ℕ} :
    checkedMul a b = some n ↔ a * b < UInt64.size ∧ a * b = n := by
  rw [checkedMul]
  split_ifs with h
  · exact Option.some_inj.trans (and_iff_right h).symm
  · exact iff_of_false (fun h' => nomatch h') fun h' => h h'.1

theorem unitMultiplier_eq_ok {unit : Char} {multiplier : ℕ} :
    unitMultiplier [unit] = .ok multiplier ↔ TimespanUnit unit multiplier := by
  constructor
  · intro h
    unfold unitMultiplier at h
    split at h
    next hunit => cases hunit; cases h; exact .second
    next hunit => cases hunit; cases h; exact .minute
    next hunit => cases hunit; cases h; exact .hour
    next hunit => cases hunit; cases h; exact .day
    next => exact nomatch h
  · rintro (_ | _ | _ | _) <;> rfl

theorem timespanOfParts_eq_ok {number : List Char} {unit : Char} {millis : ℕ} :
    timespanOfParts number [unit] = .ok millis ↔ ∃ amount multiplier,
      parseUnsigned (UInt64.size - 1) number = some amount ∧ 0 < amount ∧
      TimespanUnit unit multiplier ∧ amount * multiplier < UInt64.size ∧
      amount * multiplier = millis := by
  simp only [timespanOfParts, bind_eq_ok, orImportError_eq_ok, Option.filter_eq_some_iff,
    decide_eq_true_eq, unitMultiplier_eq_ok, checkedMul_eq_some, exists_and_left, and_assoc]

/-- A timespan is read with a plus sign before it as without one. -/
theorem timespanOfParts_of_span {number digits : List Char} {unit : Char} {millis : ℕ}
    (hspan : SigmaTimespan (digits ++ [unit]) millis)
    (hnumber : number = digits ∨ number = '+' :: digits) :
    timespanOfParts number [unit] = .ok millis := by
  obtain ⟨amount, multiplier, hamount, hpos, hunit, hfits, hmillis⟩ := sigmaTimespan_concat.1 hspan
  -- an amount fits because its product does
  have hle : amount ≤ UInt64.size - 1 :=
    (Nat.le_mul_of_pos_right amount hunit.pos).trans (Nat.le_sub_one_of_lt hfits)
  refine timespanOfParts_eq_ok.2 ⟨amount, multiplier, parseUnsigned_eq_some.2 ⟨?_, hle⟩, hpos,
    hunit, hfits, hmillis⟩
  obtain rfl | rfl := hnumber
  · exact .inl hamount
  · exact .inr ⟨digits, rfl, hamount⟩

/-- **What is read as a timespan**: one of the grammar, or a plus sign before one. -/
theorem timespanOfParts_eq_ok_iff {number : List Char} {unit : Char} {millis : ℕ} :
    timespanOfParts number [unit] = .ok millis ↔
      SigmaTimespan (number ++ [unit]) millis ∨ SignedTimespan (number ++ [unit]) millis := by
  constructor
  · intro h
    obtain ⟨amount, multiplier, hparse, hpos, hunit, hfits, hmillis⟩ := timespanOfParts_eq_ok.1 h
    obtain ⟨hnumber | ⟨digits, rfl, hnumber⟩, -⟩ := parseUnsigned_eq_some.1 hparse
    · exact .inl (sigmaTimespan_concat.2 ⟨_, _, hnumber, hpos, hunit, hfits, hmillis⟩)
    · exact .inr ⟨digits ++ [unit], rfl,
        sigmaTimespan_concat.2 ⟨_, _, hnumber, hpos, hunit, hfits, hmillis⟩⟩
  · rintro (hspan | ⟨timespan, htext, hspan⟩)
    · exact timespanOfParts_of_span hspan (.inl rfl)
    · obtain ⟨digits, last, rfl, -, -⟩ := hspan.shape
      obtain ⟨rfl, hlast⟩ := List.append_inj' (htext.trans (List.cons_append ..).symm) rfl
      obtain rfl := List.singleton_inj.1 hlast
      exact timespanOfParts_of_span hspan (.inr rfl)

/-! ## The cut -/

/-- A text with an ASCII last character is parsed from its two slices, but for a single one. -/
theorem parseTimespanMillis_of_ascii {value : String} {before : List Char} {last : Char}
    (hvalue : value.toList = before ++ [last]) (hlast : last.toNat < 128) :
    parseTimespanMillis value = attempt (if before = [] then .error ⟨"invalid Sigma timespan"⟩
      else timespanOfParts before [last]) := by
  rw [parseTimespanMillis, length_bytes, hvalue, splitAtByte_last before hlast, orPanic_some_bind]
  cases before with
  | nil => rw [if_pos rfl, List.nil_append, encode_cons_of_lt hlast]; exact if_pos Nat.one_lt_two
  | cons ch before =>
    have hpos := utf8Size_pos ch
    have hone := utf8Size_pos last
    rw [if_neg (List.cons_ne_nil _ _), if_neg]
    rw [length_encode_concat, encode_cons, List.length_append, String.length_utf8EncodeChar]
    omega

/-- **A text that ends within a wide character is a panic.** -/
theorem parseTimespanMillis_of_wide {value : String} {before : List Char} {last : Char}
    (hvalue : value.toList = before ++ [last]) (hlast : 128 ≤ last.toNat) :
    parseTimespanMillis value = none := by
  have hlong : ¬ (encode (before ++ [last])).length < 2 := by
    have hsize := one_lt_utf8Size hlast
    rw [length_encode_concat]
    omega
  rw [parseTimespanMillis, length_bytes, hvalue, if_neg hlong, splitAtByte_last_wide before hlast]
  rfl

/-! ## The parser and the grammar -/

/-- Where the parser returns. -/
theorem safe_iff {value : String} : (parseTimespanMillis value).Safe ↔ ¬ EndsWide value.toList := by
  constructor
  · rintro hsafe ⟨before, last, hvalue, hlast⟩
    exact hsafe (parseTimespanMillis_of_wide hvalue hlast)
  · intro hnarrow
    obtain hvalue | ⟨before, last, hvalue⟩ := List.eq_nil_or_concat value.toList
    · rw [parseTimespanMillis, length_bytes, hvalue, if_pos (by decide)]
      exact safe_attempt _
    · rw [List.concat_eq_append] at hvalue
      have hlast : last.toNat < 128 := Nat.lt_of_not_le fun h => hnarrow ⟨before, last, hvalue, h⟩
      rw [parseTimespanMillis_of_ascii hvalue hlast]
      exact safe_attempt _

/-- What is read has a character before its ASCII unit. -/
theorem shape_of_read {text : List Char} {millis : ℕ}
    (h : SigmaTimespan text millis ∨ SignedTimespan text millis) :
    ∃ before last, text = before ++ [last] ∧ before ≠ [] ∧ last.toNat < 128 := by
  rcases h with hspan | ⟨timespan, rfl, hspan⟩
  · exact hspan.shape
  · obtain ⟨digits, unit, rfl, -, hunit⟩ := hspan.shape
    exact ⟨'+' :: digits, unit, rfl, List.cons_ne_nil _ _, hunit⟩

/-- **What the parser returns**: the milliseconds of the text, or of what is after a plus sign. -/
theorem parseTimespanMillis_eq_ok {value : String} {millis : ℕ} :
    parseTimespanMillis value = attempt (.ok millis) ↔
      SigmaTimespan value.toList millis ∨ SignedTimespan value.toList millis := by
  constructor
  · intro h
    obtain hvalue | ⟨before, last, hvalue⟩ := List.eq_nil_or_concat value.toList
    · rw [parseTimespanMillis, length_bytes, hvalue, if_pos (by decide), attempt_eq_attempt] at h
      exact nomatch h
    · rw [List.concat_eq_append] at hvalue
      by_cases hlast : last.toNat < 128
      · rw [parseTimespanMillis_of_ascii hvalue hlast, attempt_eq_attempt] at h
        split_ifs at h
        rw [hvalue]
        exact timespanOfParts_eq_ok_iff.1 h
      · rw [parseTimespanMillis_of_wide hvalue (Nat.le_of_not_lt hlast)] at h
        exact nomatch h
  · intro h
    obtain ⟨before, last, hvalue, hbefore, hlast⟩ := shape_of_read h
    rw [hvalue] at h
    rw [parseTimespanMillis_of_ascii hvalue hlast, if_neg hbefore, attempt_eq_attempt]
    exact timespanOfParts_eq_ok_iff.2 h

/-- **The parser is exact** but for a wide last character and a plus sign. -/
theorem parsedExactly_iff (value : String) :
    ParsedExactly value ↔
      ¬ EndsWide value.toList ∧ ¬ ∃ millis, SignedTimespan value.toList millis := by
  constructor
  · rintro ⟨hsafe, hresult⟩
    refine ⟨safe_iff.1 hsafe, ?_⟩
    rintro ⟨millis, hsigned⟩
    have hspan := (hresult millis).1 (parseTimespanMillis_eq_ok.2 (.inr hsigned))
    obtain ⟨timespan, htext, hsigned⟩ := hsigned
    exact not_sigmaTimespan_plus hsigned millis (htext ▸ hspan)
  · rintro ⟨hnarrow, hunsigned⟩
    refine ⟨safe_iff.2 hnarrow, fun millis => ?_⟩
    rw [parseTimespanMillis_eq_ok, or_iff_left fun h => hunsigned ⟨millis, h⟩]

/-- A wide last character, and a plus sign before a timespan. -/
theorem not_parsedExactly_samples :
    (parseTimespanMillis "1é" = none ∧ ¬ ParsedExactly "1é") ∧
      (parseTimespanMillis "+5m" = attempt (.ok 300000) ∧ ¬ ParsedExactly "+5m") := by
  have hwide : parseTimespanMillis "1é" = none :=
    parseTimespanMillis_of_wide (show "1é".toList = ['1'] ++ ['é'] from rfl) (by decide)
  have hfive : IsNumeral ['5'] 5 := ⟨by decide, by decide, rfl⟩
  have hspan : SigmaTimespan ['5', 'm'] 300000 := .mk hfive (by decide) .minute (by decide)
  have hsigned : parseTimespanMillis "+5m" = attempt (.ok 300000) :=
    parseTimespanMillis_eq_ok.2 (.inr ⟨['5', 'm'], rfl, hspan⟩)
  refine ⟨⟨hwide, fun h => h.safe hwide⟩, hsigned, fun h => ?_⟩
  exact not_sigmaTimespan_plus hspan _ ((h.result _).1 hsigned)

end Detection

end Cerbero
