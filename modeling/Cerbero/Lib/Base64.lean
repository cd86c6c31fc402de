import Mathlib.Data.List.TakeWhile
import Mathlib.Tactic.Common

/-!
# Lib/Base64 — three bytes as four symbols

Over any alphabet of 64 symbols, without padding (`encode`, `decode`) or with it (`encodePadded`,
`decodePadded`).  What is encoded decodes to itself: **`decode_encode`**,
**`decodePadded_encodePadded`**.
-/

namespace Cerbero

namespace Base64

/-- 64 symbols, and the number each of them stands for. -/
structure Alphabet (σ : Type) where
  symbol : ℕ → σ
  index : σ → Option ℕ
  index_symbol : ∀ n < 64, index (symbol n) = some n

variable {σ : Type} (alphabet : Alphabet σ)

/-- The symbols of a list of bytes. -/
def encode : List UInt8 → List σ
  | [] => []
  | [a] => [alphabet.symbol (a.toNat / 4), alphabet.symbol (a.toNat % 4 * 16)]
  | [a, b] => [alphabet.symbol (a.toNat / 4),
      alphabet.symbol (a.toNat % 4 * 16 + b.toNat / 16), alphabet.symbol (b.toNat % 16 * 4)]
  | a :: b :: c :: data => alphabet.symbol (a.toNat / 4) ::
      alphabet.symbol (a.toNat % 4 * 16 + b.toNat / 16) ::
      alphabet.symbol (b.toNat % 16 * 4 + c.toNat / 64) :: alphabet.symbol (c.toNat % 64) ::
      encode data

/-- The bytes of a list of symbols.  A strict reader wants the bits that are left over to be zero. -/
def decode (strict : Bool) : List σ → Option (List UInt8)
  | [] => some []
  | [_] => none
  | [s, t] => do
    let s ← alphabet.index s
    let t ← alphabet.index t
    if strict ∧ t % 16 ≠ 0 then none else some [.ofNat (s * 4 + t / 16)]
  | [s, t, u] => do
    let s ← alphabet.index s
    let t ← alphabet.index t
    let u ← alphabet.index u
    if strict ∧ u % 4 ≠ 0 then none
    else some [.ofNat (s * 4 + t / 16), .ofNat (t % 16 * 16 + u / 4)]
  | s :: t :: u :: v :: text => do
    let s ← alphabet.index s
    let t ← alphabet.index t
    let u ← alphabet.index u
    let v ← alphabet.index v
    let data ← decode strict text
    return .ofNat (s * 4 + t / 16) :: .ofNat (t % 16 * 16 + u / 4) :: .ofNat (u % 4 * 64 + v) ::
      data

theorem ofNat_eq {n : ℕ} {b : UInt8} (h : n = b.toNat) : UInt8.ofNat n = b := by
  rw [h, UInt8.ofNat_toNat]

/-- **What is encoded decodes to itself.** -/
theorem decode_encode (strict : Bool) : ∀ data : List UInt8,
    decode alphabet strict (encode alphabet data) = some data
  | [] => rfl
  | [a] => by
      have ha := a.toNat_lt
      simp only [encode, decode, Option.bind_eq_bind, Option.bind_some,
        alphabet.index_symbol (a.toNat / 4) (by omega),
        alphabet.index_symbol (a.toNat % 4 * 16) (by omega)]
      rw [if_neg (by omega), ofNat_eq (b := a) (by omega)]
  | [a, b] => by
      have ha := a.toNat_lt
      have hb := b.toNat_lt
      simp only [encode, decode, Option.bind_eq_bind, Option.bind_some,
        alphabet.index_symbol (a.toNat / 4) (by omega),
        alphabet.index_symbol (a.toNat % 4 * 16 + b.toNat / 16) (by omega),
        alphabet.index_symbol (b.toNat % 16 * 4) (by omega)]
      rw [if_neg (by omega), ofNat_eq (b := a) (by omega), ofNat_eq (b := b) (by omega)]
  | a :: b :: c :: data => by
      have ha := a.toNat_lt
      have hb := b.toNat_lt
      have hc := c.toNat_lt
      simp only [encode, decode, Option.bind_eq_bind, Option.bind_some,
        alphabet.index_symbol (a.toNat / 4) (by omega),
        alphabet.index_symbol (a.toNat % 4 * 16 + b.toNat / 16) (by omega),
        alphabet.index_symbol (b.toNat % 16 * 4 + c.toNat / 64) (by omega),
        alphabet.index_symbol (c.toNat % 64) (by omega), decode_encode strict data]
      rw [ofNat_eq (b := a) (by omega), ofNat_eq (b := b) (by omega),
        ofNat_eq (b := c) (by omega)]
      rfl

/-- Every symbol that is written can be read. -/
theorem isSome_index_of_mem_encode : ∀ {data : List UInt8}, ∀ s ∈ encode alphabet data,
    (alphabet.index s).isSome
  | [], s, h => nomatch h
  | [a], s, h => by
      have ha := a.toNat_lt
      simp only [encode, List.mem_cons, List.not_mem_nil, or_false] at h
      obtain rfl | rfl := h
      all_goals rw [alphabet.index_symbol _ (by omega)]; rfl
  | [a, b], s, h => by
      have ha := a.toNat_lt
      have hb := b.toNat_lt
      simp only [encode, List.mem_cons, List.not_mem_nil, or_false] at h
      obtain rfl | rfl | rfl := h
      all_goals rw [alphabet.index_symbol _ (by omega)]; rfl
  | a :: b :: c :: data, s, h => by
      have ha := a.toNat_lt
      have hb := b.toNat_lt
      have hc := c.toNat_lt
      simp only [encode, List.mem_cons] at h
      obtain rfl | rfl | rfl | rfl | h := h
      · rw [alphabet.index_symbol _ (by omega)]; rfl
      · rw [alphabet.index_symbol _ (by omega)]; rfl
      · rw [alphabet.index_symbol _ (by omega)]; rfl
      · rw [alphabet.index_symbol _ (by omega)]; rfl
      · exact isSome_index_of_mem_encode s h

/-! ## Padding -/

/-- How many symbols are missing to a multiple of four. -/
def missing (data : List UInt8) : ℕ := (3 - data.length % 3) % 3

theorem length_encode : ∀ data : List UInt8,
    (encode alphabet data).length + missing data = (data.length + 2) / 3 * 4
  | [] => rfl
  | [_] => by simp [encode, missing]
  | [_, _] => by simp [encode, missing]
  | a :: b :: c :: data => by
      have ih := length_encode data
      simp only [missing, encode, List.length_cons] at ih ⊢
      omega

section

variable [DecidableEq σ] (pad : σ)

/-- The symbols of a list of bytes, padded to a multiple of four. -/
def encodePadded (data : List UInt8) : List σ :=
  encode alphabet data ++ List.replicate (missing data) pad

/-- The bytes of a padded list of symbols, read strictly. -/
def decodePadded (text : List σ) : Option (List UInt8) :=
  let body := (text.reverse.dropWhile (· = pad)).reverse
  if text.length % 4 ≠ 0 ∨ body.length + 2 < text.length then none
  else decode alphabet true body

variable {pad} in
/-- **What is encoded and padded decodes to itself.** -/
theorem decodePadded_encodePadded (hpad : alphabet.index pad = none) (data : List UInt8) :
    decodePadded alphabet pad (encodePadded alphabet pad data) = some data := by
  have hbody : ((encodePadded alphabet pad data).reverse.dropWhile (· = pad)).reverse =
      encode alphabet data := by
    have hdrop : (encode alphabet data).reverse.dropWhile (· = pad) =
        (encode alphabet data).reverse := by
      refine List.dropWhile_eq_self_iff.2 fun hlength hlast => ?_
      have hmem := List.mem_reverse.1 (List.getElem_mem hlength)
      have hsome := isSome_index_of_mem_encode alphabet _ hmem
      rw [of_decide_eq_true hlast, hpad] at hsome
      exact nomatch hsome
    rw [encodePadded, List.reverse_append, List.reverse_replicate, List.dropWhile_append_of_pos,
      hdrop, List.reverse_reverse]
    exact fun s hs => decide_eq_true (List.eq_of_mem_replicate hs)
  have hlength := length_encode alphabet data
  have hmissing : missing data ≤ 2 := by
    unfold missing
    omega
  unfold decodePadded
  rw [hbody, if_neg, decode_encode]
  rw [encodePadded, List.length_append, List.length_replicate]
  omega

end

end Base64

end Cerbero
