import Cerbero.Contracts.Basic
import Cerbero.Lib.UuidV7

/-!
# Contracts/UuidText — the text of a UUIDv7 passes the check of the contracts
-/

namespace Cerbero

open Text

theorem bytes_ofList {text : List Char} (h : ∀ ch ∈ text, ch.toNat < 128) :
    bytes (String.ofList text) = text.map Char.toUInt8 := by
  rw [bytes_eq_flatMap, String.toList_ofList, List.map_eq_flatMap]
  exact List.flatMap_congr fun ch hch => utf8EncodeChar_of_lt (h ch hch)

theorem hexDigits_succ (width n : ℕ) :
    hexDigits (width + 1) n = Nat.digitChar (n / 16 ^ width % 16) :: hexDigits width n := by
  rw [Nat.add_comm, hexDigits_add]
  rfl

theorem isAsciiHexdigit_of_mem_hexDigits {width n : ℕ} {digit : Char}
    (h : digit ∈ hexDigits width n) : digit.toNat < 128 ∧ isAsciiHexdigit digit.toUInt8 := by
  obtain ⟨d, rfl⟩ := mem_hexDigits h
  exact (show ∀ d : Fin 16, (Nat.digitChar d).toNat < 128 ∧
    isAsciiHexdigit (Nat.digitChar d).toUInt8 by decide +kernel) d

/-- The bytes of the text of a UUID. -/
theorem bytes_canonicalText (value : ℕ) :
    bytes (canonicalText value) = (hexDigits 8 (value / 16 ^ 24)).map Char.toUInt8 ++ 0x2d ::
      ((hexDigits 4 (value / 16 ^ 20)).map Char.toUInt8 ++ 0x2d ::
        ((hexDigits 4 (value / 16 ^ 16)).map Char.toUInt8 ++ 0x2d ::
          ((hexDigits 4 (value / 16 ^ 12)).map Char.toUInt8 ++ 0x2d ::
            (hexDigits 12 value).map Char.toUInt8))) := by
  rw [canonicalText, bytes_ofList]
  · simp only [List.map_append, List.map_cons]
    rfl
  · intro ch hch
    simp only [List.mem_append, List.mem_cons] at hch
    have hdigit : ∀ {width n : ℕ}, ch ∈ hexDigits width n → ch.toNat < 128 := fun h =>
      (isAsciiHexdigit_of_mem_hexDigits h).1
    obtain h | rfl | h | rfl | h | rfl | h | rfl | h := hch
    all_goals first | exact hdigit h | decide

theorem any_zipIdx_hexdigits {digits : List UInt8} (h : ∀ b ∈ digits, isAsciiHexdigit b)
    (index : ℕ) : (digits.zipIdx index).any (fun (byte, index) =>
      !isHyphenIndex index && !isAsciiHexdigit byte) = false := by
  rw [List.any_eq_false]
  rintro ⟨byte, i⟩ hmem
  simp [h byte (List.fst_mem_of_mem_zipIdx hmem)]

/-- **Five groups of digits make a UUIDv7**, if the third and the fourth begin as they must. -/
theorem validateUuidV7_of_groups {field value : String} {a b g d e : List UInt8} {variant : UInt8}
    (hvalue : bytes value = a ++ 0x2d :: (b ++ 0x2d :: (0x37 :: g ++ 0x2d ::
      (variant :: d ++ 0x2d :: e))))
    (hlengths : a.length = 8 ∧ b.length = 4 ∧ g.length = 3 ∧ d.length = 3 ∧ e.length = 12)
    (hvariant : variant ∈ [0x38, 0x39, 0x61, 0x62])
    (hdigits : ∀ x ∈ a ++ b ++ g ++ d ++ e, isAsciiHexdigit x) :
    validateUuidV7 field value = .ok () := by
  obtain ⟨ha, hb, hg, hd, he⟩ := hlengths
  simp only [List.mem_append, or_imp, forall_and] at hdigits
  obtain ⟨⟨⟨⟨hda, hdb⟩, hdg⟩, hdd⟩, hde⟩ := hdigits
  rw [validateUuidV7, hvalue]
  simp only [check_bind_eq_ok, rejectIf_eq_ok]
  refine ⟨?_, ?_, ?_, ?_⟩
  · simp [ha, hb, hg, hd, he]
  · have hhex : isAsciiHexdigit variant := by
      simp only [List.mem_cons, List.not_mem_nil, or_false] at hvariant
      obtain rfl | rfl | rfl | rfl := hvariant <;> decide
    simp only [List.cons_append, List.zipIdx_append, List.any_append, List.zipIdx_cons,
      List.any_cons, any_zipIdx_hexdigits hda, any_zipIdx_hexdigits hdb, any_zipIdx_hexdigits hdg,
      any_zipIdx_hexdigits hdd, any_zipIdx_hexdigits hde, ha, hb, hg, hd, hhex]
    decide
  · simp [List.getElem?_append, ha, hb]
  · simp only [List.mem_cons, List.not_mem_nil, or_false] at hvariant
    obtain rfl | rfl | rfl | rfl := hvariant <;>
      simp [List.getElem?_append, ha, hb, hg] <;> decide

/-- The digit that names the version. -/
theorem version_value (id : UuidV7) : id.value / 16 ^ 16 / 16 ^ 3 % 16 = 7 := by
  have ha := id.randA.isLt
  have hb := id.randB.isLt
  have hhigh : id.value / 16 ^ 16 = (id.unixMs * 2 ^ 4 + 7) * 2 ^ 12 + id.randA := by
    unfold UuidV7.value
    omega
  rw [hhigh]
  omega

/-- The digit that names the variant. -/
theorem variant_value (id : UuidV7) :
    ∃ d : Fin 4, id.value / 16 ^ 12 / 16 ^ 3 % 16 = 8 + d := by
  have hb := id.randB.isLt
  have hlow : id.value / 16 ^ 12 / 16 ^ 3 =
      ((id.unixMs * 2 ^ 4 + 7) * 2 ^ 12 + id.randA) * 16 + (8 + id.randB / 2 ^ 60) := by
    rw [Nat.div_div_eq_div_mul]
    unfold UuidV7.value
    omega
  refine ⟨⟨id.randB / 2 ^ 60, by omega⟩, ?_⟩
  rw [hlow]
  show _ = 8 + (id.randB : ℕ) / 2 ^ 60
  omega

/-- **The text of every UUIDv7 passes.** -/
theorem validateUuidV7_text (field : String) (id : UuidV7) :
    validateUuidV7 field id.text = .ok () := by
  obtain ⟨d, hd⟩ := variant_value id
  have hbytes := bytes_canonicalText id.value
  rw [hexDigits_succ 3 (id.value / 16 ^ 16), version_value,
    hexDigits_succ 3 (id.value / 16 ^ 12), hd] at hbytes
  refine validateUuidV7_of_groups hbytes (by simp [length_hexDigits]) ?_ ?_
  · exact (show ∀ d : Fin 4, (Nat.digitChar (8 + d)).toUInt8 ∈ [0x38, 0x39, 0x61, 0x62] by
      decide) d
  · intro x hx
    simp only [← List.map_append, List.mem_map, List.mem_append] at hx
    obtain ⟨ch, hch, rfl⟩ := hx
    obtain (((h | h) | h) | h) | h := hch
    all_goals exact (isAsciiHexdigit_of_mem_hexDigits h).2

end Cerbero
