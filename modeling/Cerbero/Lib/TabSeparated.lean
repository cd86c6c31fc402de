import Cerbero.Lib.Text

/-!
# Lib/TabSeparated — texts with escapes, as fields between tabs

A backslash starts an escape; a tab or a line feed ends the field, so that neither can stand in a
text by itself.  Reading never makes a text longer, and makes it shorter at every backslash: a text
is read as itself exactly if it has none of the three (`decode_eq_self_iff`).
-/

namespace Cerbero

namespace TabSeparated

open Text

/-- The byte an escape stands for. -/
def escapeValue (b : UInt8) : UInt8 :=
  if b = 0x62 then 0x08
  else if b = 0x66 then 0x0c
  else if b = 0x72 then 0x0d
  else if b = 0x6e then 0x0a
  else if b = 0x74 then 0x09
  else if b = 0x30 then 0x00
  else if b = 0x61 then 0x07
  else if b = 0x76 then 0x0b
  else b

/-- **The text a field stands for**, if the field is one whole text. -/
def decode : List UInt8 → Option (List UInt8)
  | [] => some []
  | 0x5c :: 0x78 :: high :: low :: rest =>
    match hexValue high, hexValue low with
    | some x, some y => (decode rest).map (.ofNat (16 * x + y) :: ·)
    | _, _ => (decode (high :: low :: rest)).map (0x78 :: ·)
  | 0x5c :: b :: rest => (decode rest).map (escapeValue b :: ·)
  | b :: rest => if b ∈ ([0x5c, 0x09, 0x0a] : List UInt8) then none else (decode rest).map (b :: ·)

/-- A byte that stands for itself. -/
def Plain (b : UInt8) : Prop := b ∉ ([0x5c, 0x09, 0x0a] : List UInt8)

instance (b : UInt8) : Decidable (Plain b) := inferInstanceAs (Decidable (_ ∉ _))

theorem decode_cons {b : UInt8} (h : Plain b) (rest : List UInt8) :
    decode (b :: rest) = (decode rest).map (b :: ·) := by
  have hslash : b ≠ 0x5c := by
    rintro rfl
    exact h (by decide)
  rw [decode]
  · exact if_neg h
  · rintro high low rest' rfl
    exact absurd rfl hslash
  · rintro other rest' rfl
    exact absurd rfl hslash

theorem decode_of_plain : ∀ {text : List UInt8}, (∀ b ∈ text, Plain b) → decode text = some text
  | [], _ => rfl
  | b :: text, h => by
      obtain ⟨hb, htext⟩ := List.forall_mem_cons.1 h
      rw [decode_cons hb, decode_of_plain htext]
      rfl

/-- **Reading shortens a text at every backslash.** -/
theorem length_decode {text : List UInt8} : ∀ {value : List UInt8}, decode text = some value →
    value.length ≤ text.length ∧ (0x5c ∈ text → value.length < text.length) := by
  induction text using decode.induct with
  | case1 =>
    intro value h
    obtain rfl := Option.some.inj h
    exact ⟨le_rfl, fun hmem => (nomatch hmem)⟩
  | case2 high low rest x y hx hy ih =>
    intro value h
    rw [decode, hx, hy] at h
    obtain ⟨decoded, hdecoded, rfl⟩ := Option.map_eq_some_iff.1 h
    have := (ih hdecoded).1
    simp only [List.length_cons]
    exact ⟨by omega, fun _ => by omega⟩
  | case3 high low rest hdigits ih =>
    intro value h
    simp only [decode] at h
    obtain ⟨decoded, hdecoded, rfl⟩ := Option.map_eq_some_iff.1 h
    have := (ih hdecoded).1
    simp only [List.length_cons] at this ⊢
    exact ⟨by omega, fun _ => by omega⟩
  | case4 b rest hdigits ih =>
    intro value h
    rw [decode] at h
    · obtain ⟨decoded, hdecoded, rfl⟩ := Option.map_eq_some_iff.1 h
      have := (ih hdecoded).1
      simp only [List.length_cons]
      exact ⟨by omega, fun _ => by omega⟩
    · exact hdigits
  | case5 b rest hhex hescape hmark =>
    intro value h
    rw [decode, if_pos hmark] at h
    · exact nomatch h
    · exact hhex
    · exact hescape
  | case6 b rest hhex hescape hplain ih =>
    intro value h
    rw [decode_cons hplain] at h
    obtain ⟨decoded, hdecoded, rfl⟩ := Option.map_eq_some_iff.1 h
    obtain ⟨hle, hlt⟩ := ih hdecoded
    simp only [List.length_cons]
    refine ⟨by omega, fun hmem => ?_⟩
    obtain rfl | hmem := List.mem_cons.1 hmem
    · exact absurd (by decide) hplain
    · have := hlt hmem
      omega

/-- **A text is read as itself exactly if it has no backslash, tab or line feed.** -/
theorem decode_eq_self_iff : ∀ {text : List UInt8},
    decode text = some text ↔ ∀ b ∈ text, Plain b
  | [] => by simp [decode]
  | b :: text => by
      refine ⟨fun h => ?_, decode_of_plain⟩
      have hslash : 0x5c ∉ b :: text := fun hmem => absurd ((length_decode h).2 hmem) (lt_irrefl _)
      have hb : b ≠ 0x5c := fun heq => hslash (heq ▸ List.mem_cons_self)
      by_cases hplain : Plain b
      · rw [decode_cons hplain, Option.map_eq_some_iff] at h
        obtain ⟨decoded, hdecoded, hcons⟩ := h
        rw [(List.cons.inj hcons).2] at hdecoded
        exact List.forall_mem_cons.2 ⟨hplain, decode_eq_self_iff.1 hdecoded⟩
      · rw [decode, if_pos (not_not.1 hplain)] at h
        · exact nomatch h
        · rintro high low rest rfl
          exact absurd rfl hb
        · rintro other rest rfl
          exact absurd rfl hb

end TabSeparated

end Cerbero
