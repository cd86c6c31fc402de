import Mathlib.Algebra.GroupWithZero.Nat
import Mathlib.Data.Fintype.Basic
import Mathlib.Data.List.Basic

/-!
# Lib/UuidV7 — time-ordered identifiers and their text

A UUID of version 7 begins with 48 bits of time.  Its text has its 32 hexadecimal digits, so the
first twelve of them are the time and nothing else (`take_hexDigits_value`).
-/

namespace Cerbero

/-! ## Hexadecimal digits -/

/-- The last digits of a number, in lower case. -/
def hexDigits : ℕ → ℕ → List Char
  | 0, _ => []
  | width + 1, n => hexDigits width (n / 16) ++ [Nat.digitChar (n % 16)]

theorem length_hexDigits : ∀ width n, (hexDigits width n).length = width
  | 0, _ => rfl
  | width + 1, n => by
      rw [hexDigits, List.length_append, length_hexDigits width, List.length_singleton]

theorem hexDigits_add (width n : ℕ) : ∀ more,
    hexDigits (width + more) n = hexDigits width (n / 16 ^ more) ++ hexDigits more n
  | 0 => by rw [Nat.pow_zero, Nat.div_one, hexDigits, List.append_nil, Nat.add_zero]
  | more + 1 => by
      rw [← Nat.add_assoc, hexDigits, hexDigits, hexDigits_add width (n / 16) more,
        Nat.div_div_eq_div_mul, ← Nat.pow_succ', List.append_assoc]

theorem mem_hexDigits : ∀ {width n : ℕ} {digit : Char}, digit ∈ hexDigits width n →
    ∃ d : Fin 16, Nat.digitChar d = digit
  | width + 1, n, digit, h => by
      rw [hexDigits, List.mem_append, List.mem_singleton] at h
      obtain h | rfl := h
      · exact mem_hexDigits h
      · exact ⟨⟨n % 16, Nat.mod_lt _ (by decide)⟩, rfl⟩

/-- No digit is a hyphen. -/
theorem hyphen_not_mem_hexDigits (width n : ℕ) : '-' ∉ hexDigits width n := by
  intro h
  obtain ⟨d, hd⟩ := mem_hexDigits h
  exact (show ∀ d : Fin 16, Nat.digitChar d ≠ '-' by decide) d hd

theorem filter_hexDigits (width n : ℕ) : (hexDigits width n).filter (· ≠ '-') = hexDigits width n :=
  List.filter_eq_self.2 fun _ hdigit => decide_eq_true fun hhyphen =>
    hyphen_not_mem_hexDigits width n (hhyphen ▸ hdigit)

/-- Numbers that fit are known by digits that a function keeps apart. -/
theorem eq_of_map_hexDigits {f : Char → Char}
    (hf : ∀ d d' : Fin 16, f (Nat.digitChar d) = f (Nat.digitChar d') → d = d') :
    ∀ {width n n' : ℕ}, n < 16 ^ width → n' < 16 ^ width →
      (hexDigits width n).map f = (hexDigits width n').map f → n = n'
  | 0, n, n', hn, hn', _ => by
      rw [Nat.pow_zero] at hn hn'
      omega
  | width + 1, n, n', hn, hn', h => by
      rw [hexDigits, hexDigits, List.map_append, List.map_append] at h
      obtain ⟨hfront, hlast⟩ := List.append_inj' h rfl
      rw [Nat.pow_succ'] at hn hn'
      have hdiv := eq_of_map_hexDigits hf (Nat.div_lt_of_lt_mul hn) (Nat.div_lt_of_lt_mul hn') hfront
      have hmod := hf ⟨n % 16, Nat.mod_lt _ (by decide)⟩ ⟨n' % 16, Nat.mod_lt _ (by decide)⟩
        (List.cons.inj hlast).1
      have := Fin.mk.inj hmod
      omega

/-- The value of a digit. -/
def digitValue (digit : Char) : ℕ := "0123456789abcdef".toList.idxOf digit

/-- The number that digits stand for. -/
def ofHexDigits (digits : List Char) : ℕ :=
  digits.foldl (fun n digit => n * 16 + digitValue digit) 0

theorem digitValue_digitChar : ∀ d : Fin 16, digitValue (Nat.digitChar d) = d := by
  decide +kernel

/-- **Digits are read back.** -/
theorem ofHexDigits_hexDigits : ∀ {width n : ℕ}, n < 16 ^ width →
    ofHexDigits (hexDigits width n) = n
  | 0, n, h => by
      rw [Nat.pow_zero] at h
      obtain rfl : n = 0 := by omega
      rfl
  | width + 1, n, h => by
      rw [Nat.pow_succ'] at h
      have hfront := ofHexDigits_hexDigits (Nat.div_lt_of_lt_mul h)
      have hlast : digitValue (Nat.digitChar (n % 16)) = n % 16 :=
        digitValue_digitChar ⟨n % 16, Nat.mod_lt _ (by decide)⟩
      rw [ofHexDigits] at hfront ⊢
      rw [hexDigits, List.foldl_append, hfront, List.foldl_cons, List.foldl_nil, hlast]
      omega

/-- Upper case keeps digits apart. -/
theorem eq_of_toUpper_digitChar : ∀ d d' : Fin 16,
    (Nat.digitChar d).toUpper = (Nat.digitChar d').toUpper → d = d' := by
  decide +kernel

/-- The text of a UUID: the digits of its 128 bits in five groups. -/
def canonicalText (value : ℕ) : String :=
  String.ofList (hexDigits 8 (value / 16 ^ 24) ++ '-' :: (hexDigits 4 (value / 16 ^ 20) ++
    '-' :: (hexDigits 4 (value / 16 ^ 16) ++ '-' :: (hexDigits 4 (value / 16 ^ 12) ++
      '-' :: hexDigits 12 value))))

/-- The text without hyphens. -/
theorem filter_canonicalText (value : ℕ) :
    (canonicalText value).toList.filter (· ≠ '-') = hexDigits 32 value := by
  have hdigits : hexDigits 32 value = hexDigits 8 (value / 16 ^ 24) ++
      (hexDigits 4 (value / 16 ^ 20) ++ (hexDigits 4 (value / 16 ^ 16) ++
        (hexDigits 4 (value / 16 ^ 12) ++ hexDigits 12 value))) := by
    have hshift : ∀ i, value / 16 ^ i / 16 ^ 4 = value / 16 ^ (i + 4) := by
      intro i
      rw [Nat.div_div_eq_div_mul, ← Nat.pow_add]
    rw [hexDigits_add 20 value 12, hexDigits_add 16 _ 4, hexDigits_add 12 _ 4,
      hexDigits_add 8 _ 4, hshift 12, hshift 16, hshift 20, List.append_assoc, List.append_assoc,
      List.append_assoc]
  have hhyphen : ∀ digits, ('-' :: digits).filter (· ≠ '-') = digits.filter (· ≠ '-') :=
    fun _ => List.filter_cons_of_neg (by simp)
  rw [canonicalText, String.toList_ofList, hdigits]
  simp only [List.filter_append, hhyphen, filter_hexDigits]

/-- The 128 bits of a UUID. -/
abbrev Uuid128 := Fin (2 ^ 128)

instance neZero_uuid128 : NeZero (2 ^ 128) := ⟨by decide⟩

/-- The UUID of a text, if it has the digits of one. -/
def ofCanonicalText (text : String) : Option Uuid128 :=
  let value := ofHexDigits (text.toList.filter (· ≠ '-'))
  if h : value < 2 ^ 128 then some ⟨value, h⟩ else none

/-- **The text of a UUID is read back.** -/
theorem ofCanonicalText_canonicalText (id : Uuid128) :
    ofCanonicalText (canonicalText id) = some id := by
  have hvalue : ofHexDigits ((canonicalText id).toList.filter (· ≠ '-')) = id := by
    rw [filter_canonicalText]
    exact ofHexDigits_hexDigits id.isLt
  simp only [ofCanonicalText, hvalue]
  exact dif_pos id.isLt

/-! ## Identifiers -/

/-- **A UUIDv7**, by what its layout leaves open. -/
structure UuidV7 where
  unixMs : Fin (2 ^ 48)
  randA : Fin (2 ^ 12)
  randB : Fin (2 ^ 62)
  deriving DecidableEq

instance neZero_unixMs : NeZero (2 ^ 48) := ⟨by decide⟩

instance neZero_randA : NeZero (2 ^ 12) := ⟨by decide⟩

instance neZero_randB : NeZero (2 ^ 62) := ⟨by decide⟩

namespace UuidV7

/-- The 128 bits: the time, the version, random bits, the variant, random bits. -/
def value (id : UuidV7) : ℕ :=
  ((id.unixMs * 2 ^ 4 + 7) * 2 ^ 12 + id.randA) * 2 ^ 64 + 2 * 2 ^ 62 + id.randB

def text (id : UuidV7) : String := canonicalText id.value

theorem value_lt (id : UuidV7) : id.value < 16 ^ 32 := by
  have hms := id.unixMs.isLt
  have ha := id.randA.isLt
  have hb := id.randB.isLt
  unfold value
  omega

theorem value_injective : Function.Injective value := by
  intro id id' h
  obtain ⟨⟨ms, hms⟩, ⟨a, ha⟩, ⟨b, hb⟩⟩ := id
  obtain ⟨⟨ms', hms'⟩, ⟨a', ha'⟩, ⟨b', hb'⟩⟩ := id'
  simp only [value] at h
  obtain rfl : ms = ms' := by omega
  obtain rfl : a = a' := by omega
  obtain rfl : b = b' := by omega
  rfl

/-- **The first twelve digits are the time.** -/
theorem take_hexDigits_value (id : UuidV7) :
    (hexDigits 32 id.value).take 12 = hexDigits 12 id.unixMs := by
  have htime : id.value / 16 ^ 20 = id.unixMs := by
    have ha := id.randA.isLt
    have hb := id.randB.isLt
    unfold value
    omega
  rw [show 32 = 12 + 20 from rfl, hexDigits_add, htime, List.take_left' (length_hexDigits _ _)]

theorem filter_text (id : UuidV7) : id.text.toList.filter (· ≠ '-') = hexDigits 32 id.value :=
  filter_canonicalText id.value

theorem text_injective : Function.Injective text := by
  intro id id' h
  have hdigits : hexDigits 32 id.value = hexDigits 32 id'.value := by
    rw [← filter_text, ← filter_text, h]
  exact value_injective (eq_of_map_hexDigits (by decide) id.value_lt id'.value_lt
    (congrArg (List.map fun digit => digit) hdigits))

/-- The time is known by its digits. -/
theorem unixMs_eq_of_map {f : Char → Char}
    (hf : ∀ d d' : Fin 16, f (Nat.digitChar d) = f (Nat.digitChar d') → d = d') {id id' : UuidV7}
    (h : (hexDigits 12 id.unixMs).map f = (hexDigits 12 id'.unixMs).map f) :
    id.unixMs = id'.unixMs := by
  have hlt : ∀ ms : Fin (2 ^ 48), (ms : ℕ) < 16 ^ 12 := fun ms => by omega
  exact Fin.ext (eq_of_map_hexDigits hf (hlt _) (hlt _) h)

end UuidV7

end Cerbero
