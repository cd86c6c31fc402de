import Cerbero.Lib.ByteIndex
import Cerbero.Normalizer.Journald

/-!
# Normalizer/Rfc3164Timestamp — which RFC 3164 times are accepted

`validate_rfc3164_timestamp` and `parse_rfc3164_components` cut the fifteen bytes at the same places
and read the same components (`parseRfc3164Components_of_read`), but both trim a component and take
a sign: a component may be one digit next to a plus sign or white space (`Stray`).  The validator
follows its grammar exactly where no component is written so (**`acceptedExactly_iff`**).
-/

namespace Cerbero

namespace Normalizer

open Text

/-! ## The validator -/

/-- `parse_ascii_u8`. -/
def parseAsciiU8 (value : List UInt8) (component : String) : Except ParseError ℕ :=
  match fromUtf8 value >>= fun text => parseUnsigned (UInt8.size - 1) (trim text.toList) with
  | some n => .ok n
  | none => .error (invalidTimestamp ("invalid RFC3164 " ++ component))

/-- **`validate_rfc3164_timestamp`**: fifteen bytes with separators in fixed places, a month by its
name, and four numbers in their ranges. -/
def validateRfc3164Timestamp (value : String) : Except ParseError Unit := do
  let value := bytes value
  if value.length ≠ 15 ∨ value[3]? ≠ some 0x20 ∨ value[6]? ≠ some 0x20 ∨ value[9]? ≠ some 0x3a ∨
      value[12]? ≠ some 0x3a then
    .error (invalidTimestamp "RFC3164 timestamp must match 'Mmm dd HH:MM:SS'")
  if monthNames.all (fun name => bytes name != value.take 3) then
    .error (invalidTimestamp "invalid RFC3164 month")
  let day ← parseAsciiU8 ((value.drop 4).take 2) "day"
  let hour ← parseAsciiU8 ((value.drop 7).take 2) "hour"
  let minute ← parseAsciiU8 ((value.drop 10).take 2) "minute"
  let second ← parseAsciiU8 ((value.drop 13).take 2) "second"
  if day < 1 ∨ 31 < day ∨ 23 < hour ∨ 59 < minute ∨ 59 < second then
    .error (invalidTimestamp "RFC3164 timestamp component out of range")

/-! ## The grammar -/

/-- The parts of a text between the separators of `Mmm dd HH:MM:SS`. -/
structure Rfc3164Parts where
  month : List Char
  day : List Char
  hour : List Char
  minute : List Char
  second : List Char

/-- The text that has these parts. -/
def Rfc3164Parts.text (parts : Rfc3164Parts) : List Char :=
  parts.month ++ ' ' :: (parts.day ++ ' ' :: (parts.hour ++ ':' :: (parts.minute ++
    ':' :: parts.second)))

/-- The parts stand for a time, each number being written in a given way. -/
structure Rfc3164Parts.Says (day number : List Char → ℕ → Prop) (parts : Rfc3164Parts)
    (time : YearlessTime) : Prop where
  month : ∃ i name, monthNames[i]? = some name ∧ parts.month = name.toList ∧ time.month = i + 1
  day : day parts.day time.day
  hour : number parts.hour time.hour
  minute : number parts.minute time.minute
  second : number parts.second time.second
  one_le_day : 1 ≤ time.day
  day_le : time.day ≤ 31
  hour_le : time.hour ≤ 23
  minute_le : time.minute ≤ 59
  second_le : time.second ≤ 59

/-- A number written as two digits. -/
inductive TwoDigits : List Char → ℕ → Prop
  | mk {tens ones : Char} (htens : tens.isDigit) (hones : ones.isDigit) :
      TwoDigits [tens, ones] (Nat.ofDigitChars 10 [tens, ones] 0)

/-- A number written as a digit next to something else. -/
inductive Stray : List Char → ℕ → Prop
  | plus {digit : Char} (hdigit : digit.isDigit) : Stray ['+', digit] (Nat.ofDigitChars 10 [digit] 0)
  | after {blank digit : Char} (hblank : isWhitespace blank) (hascii : blank.toNat < 128)
      (hdigit : digit.isDigit) : Stray [blank, digit] (Nat.ofDigitChars 10 [digit] 0)
  | before {digit blank : Char} (hdigit : digit.isDigit) (hblank : isWhitespace blank)
      (hascii : blank.toNat < 128) : Stray [digit, blank] (Nat.ofDigitChars 10 [digit] 0)

/-- A day as the grammar has it: two digits, or a space and a digit. -/
def DayForm (text : List Char) (n : ℕ) : Prop :=
  TwoDigits text n ∨ ∃ digit : Char, digit.isDigit ∧ text = [' ', digit] ∧
    n = Nat.ofDigitChars 10 [digit] 0

/-- A number as the code reads it. -/
def ReadableNumber (text : List Char) (n : ℕ) : Prop := TwoDigits text n ∨ Stray text n

/-- **The grammar**: `Mmm dd hh:mm:ss` stands for a time. -/
def Rfc3164Grammar (value : String) (time : YearlessTime) : Prop :=
  ∃ parts : Rfc3164Parts, value.toList = parts.text ∧ parts.Says DayForm TwoDigits time

/-- A text that has a time in its components, however they are written. -/
def Rfc3164Read (value : String) (time : YearlessTime) : Prop :=
  ∃ parts : Rfc3164Parts, value.toList = parts.text ∧ parts.Says ReadableNumber ReadableNumber time

/-- A text that has a time, with a component that is a digit next to a plus sign or white space; the
day may have a space before its digit. -/
def Lax (value : String) : Prop :=
  ∃ (parts : Rfc3164Parts) (time : YearlessTime), value.toList = parts.text ∧
    parts.Says ReadableNumber ReadableNumber time ∧
    (Stray parts.day time.day ∧ parts.day.head? ≠ some ' ' ∨ Stray parts.hour time.hour ∨
      Stray parts.minute time.minute ∨ Stray parts.second time.second)

/-- What is asked of the validator: it follows the grammar, and what it accepts is read as the time
it has. -/
def AcceptedExactly (value : String) : Prop :=
  (validateRfc3164Timestamp value = .ok () ↔ ∃ time, Rfc3164Grammar value time) ∧
    (validateRfc3164Timestamp value = .ok () →
      ∃ time, Rfc3164Read value time ∧ parseRfc3164Components value = .ok time)

/-! ## One component -/

/-- One or two characters are read as a number if they are digits. -/
theorem parseUnsigned_short {text digits : List Char} {n : ℕ}
    (hdigits : (stripPrefix ['+'] text).getD text = digits) (hne : digits ≠ [])
    (hlength : digits.length ≤ 2) :
    parseUnsigned (UInt8.size - 1) text = some n ↔
      (∀ ch ∈ digits, ch.isDigit) ∧ Nat.ofDigitChars 10 digits 0 = n := by
  rw [parseUnsigned_of_digits hdigits]
  refine ⟨fun h => ⟨h.1.isDigit, h.1.value⟩, fun ⟨hall, hvalue⟩ => ⟨⟨hne, hall, hvalue⟩, ?_⟩⟩
  rw [← hvalue]
  match digits, hne, hlength with
  | [a], _, _ =>
    have := toNat_of_isDigit (hall a (by simp))
    show Nat.ofDigitChars 10 [a] 0 ≤ 255
    simp only [Nat.ofDigitChars_cons, Nat.ofDigitChars_nil, Char.reduceToNat]
    omega
  | [a, b], _, _ =>
    have := toNat_of_isDigit (hall a (by simp))
    have := toNat_of_isDigit (hall b (by simp))
    show Nat.ofDigitChars 10 [a, b] 0 ≤ 255
    simp only [Nat.ofDigitChars_cons, Nat.ofDigitChars_nil, Char.reduceToNat]
    omega

theorem parseUnsigned_singleton {a : Char} {n : ℕ} :
    parseUnsigned (UInt8.size - 1) [a] = some n ↔
      a.isDigit ∧ Nat.ofDigitChars 10 [a] 0 = n := by
  by_cases hplus : a = '+'
  · obtain rfl := hplus
    exact iff_of_false (fun h => nomatch h) fun h => nomatch h.1
  · rw [parseUnsigned_short (stripPrefix_plus_of_ne hplus []) (List.cons_ne_nil _ _) (by simp),
      List.forall_mem_singleton]

theorem parseUnsigned_pair {a b : Char} {n : ℕ} :
    parseUnsigned (UInt8.size - 1) [a, b] = some n ↔
      (a.isDigit ∧ b.isDigit) ∧ Nat.ofDigitChars 10 [a, b] 0 = n ∨
        a = '+' ∧ b.isDigit ∧ Nat.ofDigitChars 10 [b] 0 = n := by
  by_cases hplus : a = '+'
  · obtain rfl := hplus
    have hstrip : (stripPrefix ['+'] ['+', b]).getD ['+', b] = [b] := rfl
    rw [parseUnsigned_short hstrip (List.cons_ne_nil _ _) (by simp), List.forall_mem_singleton]
    exact ⟨fun h => .inr ⟨rfl, h⟩, fun h => h.elim (fun h => nomatch h.1.1) And.right⟩
  · rw [parseUnsigned_short (stripPrefix_plus_of_ne hplus [b]) (List.cons_ne_nil _ _) (by simp),
      List.forall_mem_cons, List.forall_mem_singleton]
    exact ⟨.inl, fun h => h.elim id fun h => absurd h.1 hplus⟩

/-- Two bytes are one character or two ASCII characters. -/
theorem text_of_length_encode {text : List Char} (h : (encode text).length = 2) :
    (∃ ch, text = [ch] ∧ 128 ≤ ch.toNat) ∨
      ∃ a b, text = [a, b] ∧ a.toNat < 128 ∧ b.toNat < 128 := by
  have hlength (ch : Char) (rest : List Char) :
      (encode (ch :: rest)).length = ch.utf8Size + (encode rest).length := by
    rw [encode_cons, List.length_append, String.length_utf8EncodeChar]
  have hascii (ch : Char) (hone : ch.utf8Size = 1) : ch.toNat < 128 := by
    have hle := Char.utf8Size_eq_one_iff.1 hone
    rw [UInt32.le_iff_toNat_le] at hle
    exact Nat.lt_succ_of_le hle
  match text with
  | [] => exact nomatch h
  | [ch] =>
    rw [hlength, encode_nil, List.length_nil] at h
    refine .inl ⟨ch, rfl, ?_⟩
    by_contra hlt
    rw [← String.length_utf8EncodeChar, utf8EncodeChar_of_lt (Nat.lt_of_not_le hlt)] at h
    exact nomatch h
  | [a, b] =>
    rw [hlength, hlength, encode_nil, List.length_nil] at h
    have := utf8Size_pos a
    have := utf8Size_pos b
    exact .inr ⟨a, b, rfl, hascii a (by omega), hascii b (by omega)⟩
  | a :: b :: c :: rest =>
    rw [hlength, hlength, hlength] at h
    have := utf8Size_pos a
    have := utf8Size_pos b
    have := utf8Size_pos c
    omega

theorem trim_pair (a b : Char) : trim [a, b] =
    if isWhitespace a then if isWhitespace b then [] else [b]
    else if isWhitespace b then [a] else [a, b] := by
  rw [trim]
  by_cases ha : isWhitespace a <;> by_cases hb : isWhitespace b <;> simp [ha, hb]

theorem readable_pair_iff {a b : Char} {n : ℕ} :
    ReadableNumber [a, b] n ↔
    (a.isDigit ∧ b.isDigit) ∧ Nat.ofDigitChars 10 [a, b] 0 = n ∨
      (a = '+' ∧ b.isDigit ∧ Nat.ofDigitChars 10 [b] 0 = n) ∨
      (isWhitespace a ∧ a.toNat < 128 ∧ b.isDigit ∧ Nat.ofDigitChars 10 [b] 0 = n) ∨
      (a.isDigit ∧ isWhitespace b ∧ b.toNat < 128 ∧ Nat.ofDigitChars 10 [a] 0 = n) := by
  constructor
  · rintro (h | h)
    · cases h with
      | mk ha hb => exact .inl ⟨⟨ha, hb⟩, rfl⟩
    · cases h with
      | plus hb => exact .inr (.inl ⟨rfl, hb, rfl⟩)
      | after ha hascii hb => exact .inr (.inr (.inl ⟨ha, hascii, hb, rfl⟩))
      | before ha hb hascii => exact .inr (.inr (.inr ⟨ha, hb, hascii, rfl⟩))
  · rintro (⟨⟨ha, hb⟩, rfl⟩ | ⟨rfl, hb, rfl⟩ | ⟨ha, hascii, hb, rfl⟩ | ⟨ha, hb, hascii, rfl⟩)
    · exact .inl (.mk ha hb)
    · exact .inr (.plus hb)
    · exact .inr (.after ha hascii hb)
    · exact .inr (.before ha hb hascii)

theorem not_isDigit_of_isWhitespace {ch : Char} (h : isWhitespace ch) : ¬ ch.isDigit :=
  fun hdigit => absurd h (by simp [isWhitespace_of_isDigit hdigit])

/-- One character that is no digit is no number. -/
theorem parseUnsigned_trim_singleton_ne {ch : Char} {n : ℕ} (hdigit : ¬ ch.isDigit) :
    parseUnsigned (UInt8.size - 1) (trim [ch]) ≠ some n := by
  intro hparse
  have htrim : trim [ch] = [] ∨ trim [ch] = [ch] := by
    rw [trim]
    by_cases hblank : isWhitespace ch <;> simp [hblank]
  rcases htrim with htrim | htrim
  · rw [htrim] at hparse
    cases hparse
  · rw [htrim] at hparse
    exact hdigit (parseUnsigned_singleton.1 hparse).1

/-- **Two bytes are read as a number exactly if they are two digits or a stray one.** -/
theorem parseUnsigned_trim_iff {text : List Char} {n : ℕ} (h : (encode text).length = 2) :
    parseUnsigned (UInt8.size - 1) (trim text) = some n ↔ ReadableNumber text n := by
  rcases text_of_length_encode h with ⟨ch, rfl, hch⟩ | ⟨a, b, rfl, ha, hb⟩
  · have hdigit : ¬ ch.isDigit := fun hdigit => by
      have := toNat_of_isDigit hdigit
      omega
    refine iff_of_false (parseUnsigned_trim_singleton_ne hdigit) fun hread => ?_
    rcases hread with hread | hread
    · exact nomatch hread
    · exact nomatch hread
  · rw [trim_pair, readable_pair_iff]
    by_cases hblank : isWhitespace a
    · have ha' := not_isDigit_of_isWhitespace hblank
      have hplus : a ≠ '+' := fun heq => by
        rw [heq] at hblank
        exact nomatch hblank
      rw [if_pos hblank]
      split_ifs with hblank'
      · have hb' := not_isDigit_of_isWhitespace hblank'
        refine iff_of_false (fun hparse => nomatch hparse) ?_
        rintro (⟨⟨h, -⟩, -⟩ | ⟨-, h, -⟩ | ⟨-, -, h, -⟩ | ⟨h, -⟩)
        · exact ha' h
        · exact hb' h
        · exact hb' h
        · exact ha' h
      · rw [parseUnsigned_singleton]
        refine ⟨fun h => .inr (.inr (.inl ⟨hblank, ha, h⟩)), ?_⟩
        rintro (⟨⟨h, -⟩, -⟩ | ⟨h, -⟩ | ⟨-, -, h⟩ | ⟨h, -⟩)
        · exact absurd h ha'
        · exact absurd h hplus
        · exact h
        · exact absurd h ha'
    · rw [if_neg hblank]
      split_ifs with hblank'
      · have hb' := not_isDigit_of_isWhitespace hblank'
        rw [parseUnsigned_singleton]
        refine ⟨fun h => .inr (.inr (.inr ⟨h.1, hblank', hb, h.2⟩)), ?_⟩
        rintro (⟨⟨-, h⟩, -⟩ | ⟨-, h, -⟩ | ⟨h, -⟩ | ⟨h, -, -, hn⟩)
        · exact absurd h hb'
        · exact absurd h hb'
        · exact absurd h hblank
        · exact ⟨h, hn⟩
      · rw [parseUnsigned_pair]
        refine ⟨fun h => h.elim .inl fun h => .inr (.inl h), ?_⟩
        rintro (h | h | ⟨h, -⟩ | ⟨-, h, -⟩)
        · exact .inl h
        · exact .inr h
        · exact absurd h hblank
        · exact absurd h hblank'

/-- What both functions make of the bytes of a component. -/
theorem component_eq_some {piece : List UInt8} {n : ℕ} (h : piece.length = 2) :
    (fromUtf8 piece >>= fun text => parseUnsigned (UInt8.size - 1) (trim text.toList)) = some n ↔
      ∃ text, encode text = piece ∧ ReadableNumber text n := by
  rw [Option.bind_eq_bind, Option.bind_eq_some_iff]
  constructor
  · rintro ⟨text, htext, hparse⟩
    have hbytes : encode text.toList = piece := by
      rw [← bytes_ofList_eq_encode, String.ofList_toList, fromUtf8_eq_some.1 htext]
    exact ⟨text.toList, hbytes, (parseUnsigned_trim_iff (hbytes ▸ h)).1 hparse⟩
  · rintro ⟨text, rfl, hread⟩
    refine ⟨String.ofList text, fromUtf8_eq_some.2 (bytes_ofList_eq_encode text), ?_⟩
    rw [String.toList_ofList]
    exact (parseUnsigned_trim_iff h).2 hread

theorem parseAsciiU8_eq_ok {piece : List UInt8} {name : String} {n : ℕ} (h : piece.length = 2) :
    parseAsciiU8 piece name = .ok n ↔ ∃ text, encode text = piece ∧ ReadableNumber text n := by
  rw [← component_eq_some h, parseAsciiU8]
  split
  · rename_i m hm
    rw [hm, Except.ok.injEq, Option.some_inj]
  · rename_i hnone
    rw [hnone]
    exact iff_of_false (fun h => nomatch h) fun h => nomatch h

theorem parseComponentBytes_eq_ok {piece : List UInt8} {name : String} {n : ℕ}
    (h : piece.length = 2) : parseComponentBytes piece name = .ok n ↔
      ∃ text, encode text = piece ∧ ReadableNumber text n := by
  rw [← component_eq_some h, parseComponentBytes]
  split
  · rename_i m hm
    rw [hm, Except.ok.injEq, Option.some_inj]
  · rename_i hnone
    rw [hnone]
    exact iff_of_false (fun h => nomatch h) fun h => nomatch h

/-! ## The fifteen bytes -/

/-- Where the bytes of a time are cut. -/
structure Cut (value month day hour minute second : List UInt8) : Prop where
  length : value.length = 15
  get_three : value[3]? = some 0x20
  get_six : value[6]? = some 0x20
  get_nine : value[9]? = some 0x3a
  get_twelve : value[12]? = some 0x3a
  month_eq : value.take 3 = month
  day_eq : (value.drop 4).take 2 = day
  hour_eq : (value.drop 7).take 2 = hour
  minute_eq : (value.drop 10).take 2 = minute
  second_eq : (value.drop 13).take 2 = second

/-- The bytes with the separators between them. -/
def joined (month day hour minute second : List UInt8) : List UInt8 :=
  month ++ 0x20 :: (day ++ 0x20 :: (hour ++ 0x3a :: (minute ++ 0x3a :: second)))

theorem cut_joined {month day hour minute second : List UInt8} (hmonth : month.length = 3)
    (hday : day.length = 2) (hhour : hour.length = 2) (hminute : minute.length = 2)
    (hsecond : second.length = 2) :
    Cut (joined month day hour minute second) month day hour minute second := by
  obtain ⟨_, _, _, rfl⟩ := List.length_eq_three.1 hmonth
  obtain ⟨_, _, rfl⟩ := List.length_eq_two.1 hday
  obtain ⟨_, _, rfl⟩ := List.length_eq_two.1 hhour
  obtain ⟨_, _, rfl⟩ := List.length_eq_two.1 hminute
  obtain ⟨_, _, rfl⟩ := List.length_eq_two.1 hsecond
  constructor <;> rfl

theorem eq_take_append_cons_drop {l : List UInt8} {n : ℕ} {b : UInt8} (h : l[n]? = some b) :
    l = l.take n ++ b :: l.drop (n + 1) := by
  obtain ⟨hlt, rfl⟩ := List.getElem?_eq_some_iff.1 h
  rw [← List.drop_eq_getElem_cons hlt, List.take_append_drop]

/-- A cut text is its parts and the separators. -/
theorem Cut.eq_joined {value month day hour minute second : List UInt8}
    (h : Cut value month day hour minute second) :
    value = joined month day hour minute second := by
  have hdrop {k n : ℕ} {b : UInt8} (hget : value[k + n]? = some b) :
      value.drop k = (value.drop k).take n ++ b :: value.drop (k + n + 1) := by
    have := eq_take_append_cons_drop (l := value.drop k) (n := n) (b := b)
      (by rw [List.getElem?_drop, hget])
    rwa [List.drop_drop, ← Nat.add_assoc] at this
  have hlast : (value.drop 13).take 2 = value.drop 13 :=
    List.take_of_length_le (by rw [List.length_drop, h.length])
  rw [joined, ← h.month_eq, ← h.day_eq, ← h.hour_eq, ← h.minute_eq, ← h.second_eq, hlast,
    ← hdrop (k := 10) (n := 2) h.get_twelve, ← hdrop (k := 7) (n := 2) h.get_nine,
    ← hdrop (k := 4) (n := 2) h.get_six]
  exact eq_take_append_cons_drop h.get_three

/-- The bytes of a text with its parts. -/
theorem encode_text (parts : Rfc3164Parts) : encode parts.text =
    joined (encode parts.month) (encode parts.day) (encode parts.hour) (encode parts.minute)
      (encode parts.second) := by
  simp only [Rfc3164Parts.text, encode_append, encode_cons_of_lt (show ' '.toNat < 128 by decide),
    encode_cons_of_lt (show ':'.toNat < 128 by decide)]
  rfl

theorem encode_toList (s : String) : encode s.toList = bytes s := (bytes_eq_flatMap s).symm

theorem encode_injective : Function.Injective encode := by
  intro s t h
  rw [← bytes_ofList_eq_encode, ← bytes_ofList_eq_encode] at h
  exact String.ofList_injective (bytes_injective h)

theorem length_of_readable {text : List Char} {n : ℕ} (h : ReadableNumber text n) :
    (encode text).length = 2 := by
  have hpair {a b : Char} (ha : a.toNat < 128) (hb : b.toNat < 128) :
      (encode [a, b]).length = 2 := by
    rw [encode_cons_of_lt ha, encode_cons_of_lt hb]
    rfl
  have hdigit {ch : Char} (hch : ch.isDigit) : ch.toNat < 128 := by
    have := toNat_of_isDigit hch
    omega
  rcases h with h | h
  · cases h with
    | mk ha hb => exact hpair (hdigit ha) (hdigit hb)
  · cases h with
    | plus hb => exact hpair (by decide) (hdigit hb)
    | after _ ha hb => exact hpair ha (hdigit hb)
    | before ha _ hb => exact hpair (hdigit ha) hb

theorem length_bytes_of_mem_monthNames : ∀ name ∈ monthNames, (bytes name).length = 3 := by
  decide +kernel

theorem findIdx?_monthNames : ∀ i : Fin monthNames.length,
    monthNames.findIdx? (fun name => bytes name == bytes monthNames[i]) = some i.val := by
  decide +kernel

/-- A text that says a time is cut into its parts. -/
theorem cut_of_says {value : String} {parts : Rfc3164Parts} {time : YearlessTime}
    (hvalue : value.toList = parts.text) (h : parts.Says ReadableNumber ReadableNumber time) :
    Cut (bytes value) (encode parts.month) (encode parts.day) (encode parts.hour)
      (encode parts.minute) (encode parts.second) := by
  have hmonth : (encode parts.month).length = 3 := by
    obtain ⟨i, name, hname, hmonth, -⟩ := h.month
    rw [hmonth, encode_toList]
    exact length_bytes_of_mem_monthNames name (List.mem_of_getElem? hname)
  rw [← encode_toList, hvalue, encode_text]
  exact cut_joined hmonth (length_of_readable h.day) (length_of_readable h.hour)
    (length_of_readable h.minute) (length_of_readable h.second)

/-- **The second parser reads the time a text says.** -/
theorem parseRfc3164Components_of_read {value : String} {time : YearlessTime}
    (h : Rfc3164Read value time) : parseRfc3164Components value = .ok time := by
  obtain ⟨parts, hvalue, hspec⟩ := h
  have hcut := cut_of_says hvalue hspec
  have hread {text : List Char} {n : ℕ} (hn : ReadableNumber text n) (name : String) :
      parseComponentBytes (encode text) name = .ok n :=
    (parseComponentBytes_eq_ok (length_of_readable hn)).2 ⟨text, rfl, hn⟩
  obtain ⟨i, name, hname, hmonth, htime⟩ := hspec.month
  obtain ⟨hi, rfl⟩ := List.getElem?_eq_some_iff.1 hname
  have hindex : monthNames.findIdx? (fun name => bytes name == encode parts.month) = some i := by
    rw [hmonth, encode_toList]
    exact findIdx?_monthNames ⟨i, hi⟩
  simp only [parseRfc3164Components, hcut.length, ne_eq, not_true_eq_false, if_false, hcut.month_eq,
    hindex, hcut.day_eq, hcut.hour_eq, hcut.minute_eq, hcut.second_eq, hread hspec.day, hread hspec.hour,
    hread hspec.minute, hread hspec.second, ok_bind]
  rw [← htime]
  rfl

/-- A check at the end has to pass. -/
theorem final_check {c : Prop} [Decidable c] {e : ParseError} :
    (if c then Except.error e else pure ()) = (.ok () : Except ParseError Unit) ↔ ¬ c := by
  by_cases hc : c
  · rw [if_pos hc]
    exact iff_of_false (fun h => nomatch h) fun h => h hc
  · rw [if_neg hc]
    exact iff_of_true rfl hc

theorem exists_rfc3164Read {value : String} (h : validateRfc3164Timestamp value = .ok ()) :
    ∃ time, Rfc3164Read value time := by
  simp only [validateRfc3164Timestamp, guard_eq_ok, bind_eq_ok, final_check] at h
  obtain ⟨hshape, hmonth, day, hday, hour, hhour, minute, hminute, second, hsecond, hrange⟩ := h
  push Not at hshape hmonth hrange
  obtain ⟨hlength, hthree, hsix, hnine, htwelve⟩ := hshape
  have hpiece (k : ℕ) (hk : k ≤ 13) : (((bytes value).drop k).take 2).length = 2 := by
    rw [List.length_take, List.length_drop, hlength]
    omega
  obtain ⟨dayText, hdayText, hday⟩ := (parseAsciiU8_eq_ok (hpiece 4 (by omega))).1 hday
  obtain ⟨hourText, hhourText, hhour⟩ := (parseAsciiU8_eq_ok (hpiece 7 (by omega))).1 hhour
  obtain ⟨minuteText, hminuteText, hminute⟩ := (parseAsciiU8_eq_ok (hpiece 10 (by omega))).1 hminute
  obtain ⟨secondText, hsecondText, hsecond⟩ := (parseAsciiU8_eq_ok (hpiece 13 le_rfl)).1 hsecond
  obtain ⟨name, hname, hmonth⟩ : ∃ name ∈ monthNames, bytes name = (bytes value).take 3 := by
    simpa using hmonth
  obtain ⟨i, hi, rfl⟩ := List.getElem_of_mem hname
  let parts : Rfc3164Parts := ⟨monthNames[i].toList, dayText, hourText, minuteText, secondText⟩
  refine ⟨⟨i + 1, day, hour, minute, second⟩, parts, encode_injective ?_, ?_⟩
  · rw [encode_toList, encode_text]
    refine Cut.eq_joined ⟨hlength, hthree, hsix, hnine, htwelve, ?_, hdayText.symm, hhourText.symm,
      hminuteText.symm, hsecondText.symm⟩
    rw [encode_toList, hmonth]
  · exact ⟨⟨i, monthNames[i], List.getElem?_eq_getElem hi, rfl, rfl⟩, hday, hhour, hminute, hsecond,
      hrange.1, hrange.2.1, hrange.2.2.1, hrange.2.2.2.1, hrange.2.2.2.2⟩

theorem Rfc3164Read.accepted {value : String} {time : YearlessTime}
    (h : Rfc3164Read value time) : validateRfc3164Timestamp value = .ok () := by
  obtain ⟨parts, hvalue, hspec⟩ := h
  have hcut := cut_of_says hvalue hspec
  have hread {text : List Char} {n : ℕ} (hn : ReadableNumber text n) (name : String) :
      parseAsciiU8 (encode text) name = .ok n :=
    (parseAsciiU8_eq_ok (length_of_readable hn)).2 ⟨text, rfl, hn⟩
  obtain ⟨i, name, hname, hmonth, -⟩ := hspec.month
  have hknown : ¬ monthNames.all (fun name => bytes name != encode parts.month) = true := by
    rw [hmonth, encode_toList, List.all_eq_true]
    intro hall
    simpa using hall name (List.mem_of_getElem? hname)
  have hshape : ¬ ((bytes value).length ≠ 15 ∨ (bytes value)[3]? ≠ some 0x20 ∨
      (bytes value)[6]? ≠ some 0x20 ∨ (bytes value)[9]? ≠ some 0x3a ∨
      (bytes value)[12]? ≠ some 0x3a) := by
    push Not
    exact ⟨hcut.length, hcut.get_three, hcut.get_six, hcut.get_nine, hcut.get_twelve⟩
  have hrange : ¬ (time.day < 1 ∨ 31 < time.day ∨ 23 < time.hour ∨ 59 < time.minute ∨
      59 < time.second) := by
    push Not
    exact ⟨hspec.one_le_day, hspec.day_le, hspec.hour_le, hspec.minute_le, hspec.second_le⟩
  simp only [validateRfc3164Timestamp, guard_eq_ok, bind_eq_ok, final_check]
  rw [hcut.month_eq, hcut.day_eq, hcut.hour_eq, hcut.minute_eq, hcut.second_eq]
  exact ⟨hshape, hknown, time.day, hread hspec.day _, time.hour, hread hspec.hour _, time.minute,
    hread hspec.minute _, time.second, hread hspec.second _, hrange⟩

/-- **What is accepted says a time**, its components written in whatever way. -/
theorem validateRfc3164Timestamp_eq_ok {value : String} :
    validateRfc3164Timestamp value = .ok () ↔ ∃ time, Rfc3164Read value time :=
  ⟨exists_rfc3164Read, fun ⟨_, h⟩ => h.accepted⟩

/-! ## The grammar against the code -/

theorem readable_of_dayForm {text : List Char} {n : ℕ} (h : DayForm text n) :
    ReadableNumber text n := by
  rcases h with h | ⟨digit, hdigit, rfl, rfl⟩
  · exact .inl h
  · exact .inr (.after (by decide) (by decide) hdigit)

/-- A readable day is one of the grammar unless its digit is next to something other than a space
before it. -/
theorem dayForm_of_readable {text : List Char} {n : ℕ} (h : ReadableNumber text n)
    (hday : ¬ (Stray text n ∧ text.head? ≠ some ' ')) : DayForm text n := by
  rcases h with h | h
  · exact .inl h
  · have hhead : text.head? = some ' ' := by
      by_contra hne
      exact hday ⟨h, hne⟩
    cases h with
    | plus => exact nomatch hhead
    | after _ _ hdigit =>
      obtain rfl := Option.some.inj hhead
      exact .inr ⟨_, hdigit, rfl, rfl⟩
    | before hdigit =>
      obtain rfl := Option.some.inj hhead
      exact nomatch hdigit

theorem twoDigits_of_readable {text : List Char} {n : ℕ} (h : ReadableNumber text n)
    (hstray : ¬ Stray text n) : TwoDigits text n := h.resolve_right hstray

/-- What the grammar has can be read. -/
theorem Rfc3164Parts.Says.readable {parts : Rfc3164Parts} {time : YearlessTime}
    (h : parts.Says DayForm TwoDigits time) : parts.Says ReadableNumber ReadableNumber time :=
  { h with
    day := readable_of_dayForm h.day
    hour := .inl h.hour
    minute := .inl h.minute
    second := .inl h.second }

/-- The parts of a text are where the separators are. -/
theorem parts_unique {value : String} {parts parts' : Rfc3164Parts} {time time' : YearlessTime}
    (hvalue : value.toList = parts.text) (hvalue' : value.toList = parts'.text)
    (h : parts.Says ReadableNumber ReadableNumber time)
    (h' : parts'.Says ReadableNumber ReadableNumber time') : parts = parts' := by
  have hcut := cut_of_says hvalue h
  have hcut' := cut_of_says hvalue' h'
  obtain ⟨month, day, hour, minute, second⟩ := parts
  obtain ⟨month', day', hour', minute', second'⟩ := parts'
  obtain rfl : month = month' := encode_injective (hcut.month_eq.symm.trans hcut'.month_eq)
  obtain rfl : day = day' := encode_injective (hcut.day_eq.symm.trans hcut'.day_eq)
  obtain rfl : hour = hour' := encode_injective (hcut.hour_eq.symm.trans hcut'.hour_eq)
  obtain rfl : minute = minute' := encode_injective (hcut.minute_eq.symm.trans hcut'.minute_eq)
  obtain rfl : second = second' := encode_injective (hcut.second_eq.symm.trans hcut'.second_eq)
  rfl

/-- Two digits are not a digit next to something else. -/
theorem not_stray_of_twoDigits {text : List Char} {n m : ℕ} (h : TwoDigits text n) :
    ¬ Stray text m := by
  intro hstray
  cases h with
  | mk htens hones =>
    cases hstray with
    | plus => exact nomatch htens
    | after hws => exact not_isDigit_of_isWhitespace hws htens
    | before _ hws => exact not_isDigit_of_isWhitespace hws hones

/-- A text outside the grammar is not in it, whatever time it is said to have. -/
theorem not_grammar_of_lax {value : String} (h : Lax value) (time : YearlessTime) :
    ¬ Rfc3164Grammar value time := by
  rintro ⟨parts, hvalue, hspec⟩
  obtain ⟨parts', time', hvalue', hspec', hstray⟩ := h
  obtain rfl : parts = parts' := parts_unique hvalue hvalue' hspec.readable hspec'
  rcases hstray with ⟨hday, hhead⟩ | hhour | hminute | hsecond
  · rcases hspec.day with htwo | ⟨digit, -, htext, -⟩
    · exact not_stray_of_twoDigits htwo hday
    · rw [htext] at hhead
      exact hhead rfl
  · exact not_stray_of_twoDigits hspec.hour hhour
  · exact not_stray_of_twoDigits hspec.minute hminute
  · exact not_stray_of_twoDigits hspec.second hsecond

/-- A text that is read without a stray component is in the grammar. -/
theorem grammar_of_read {value : String} {time : YearlessTime} (h : Rfc3164Read value time)
    (hlax : ¬ Lax value) : Rfc3164Grammar value time := by
  obtain ⟨parts, hvalue, hspec⟩ := h
  have hplain : ¬ (Stray parts.day time.day ∧ parts.day.head? ≠ some ' ' ∨
      Stray parts.hour time.hour ∨ Stray parts.minute time.minute ∨
      Stray parts.second time.second) := fun hstray => hlax ⟨parts, time, hvalue, hspec, hstray⟩
  obtain ⟨hday, hhour, hminute, hsecond⟩ : _ ∧ _ ∧ _ ∧ _ := by
    simpa only [not_or] using hplain
  exact ⟨parts, hvalue, { hspec with
    day := dayForm_of_readable hspec.day hday
    hour := twoDigits_of_readable hspec.hour hhour
    minute := twoDigits_of_readable hspec.minute hminute
    second := twoDigits_of_readable hspec.second hsecond }⟩

/-- A text with a stray component is accepted although the grammar does not have it. -/
theorem not_acceptedExactly_of_lax {value : String} (h : Lax value) : ¬ AcceptedExactly value := by
  obtain ⟨parts, time, hvalue, hspec, -⟩ := id h
  intro ⟨hgrammar, _⟩
  have haccepted : validateRfc3164Timestamp value = .ok () :=
    validateRfc3164Timestamp_eq_ok.2 ⟨time, parts, hvalue, hspec⟩
  obtain ⟨time', htime'⟩ := hgrammar.1 haccepted
  exact not_grammar_of_lax h time' htime'

/-- **The validator follows the grammar exactly on the texts without a stray component.** -/
theorem acceptedExactly_iff (value : String) : AcceptedExactly value ↔ ¬ Lax value := by
  refine ⟨fun h hlax => not_acceptedExactly_of_lax hlax h, fun hlax => ⟨?_, fun h => ?_⟩⟩
  · rw [validateRfc3164Timestamp_eq_ok]
    exact ⟨fun ⟨time, h⟩ => ⟨time, grammar_of_read h hlax⟩,
      fun ⟨time, parts, hvalue, hspec⟩ => ⟨time, parts, hvalue, hspec.readable⟩⟩
  · obtain ⟨time, hread⟩ := validateRfc3164Timestamp_eq_ok.1 h
    exact ⟨time, hread, parseRfc3164Components_of_read hread⟩

/-- A day with a plus sign is accepted. -/
theorem not_acceptedExactly_plus : ¬ AcceptedExactly "Jan +1 00:00:00" := by
  refine not_acceptedExactly_of_lax
    ⟨⟨"Jan".toList, ['+', '1'], ['0', '0'], ['0', '0'], ['0', '0']⟩, ⟨1, 1, 0, 0, 0⟩, by decide,
      ?_, .inl ⟨.plus rfl, by decide⟩⟩
  have hzero : ReadableNumber ['0', '0'] 0 := .inl (.mk rfl rfl)
  exact ⟨⟨0, "Jan", rfl, rfl, rfl⟩, .inr (.plus rfl), hzero, hzero, hzero, by decide, by decide,
    by decide, by decide, by decide⟩

end Normalizer

end Cerbero
