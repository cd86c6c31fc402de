import Cerbero.Lib.ByteReader
import Cerbero.Lib.Decimal
import Cerbero.Search.Query

/-!
# Ingest/HttpBody — reading a body up to a limit

`readBounded` reads one byte more than the limit, to see whether there is one.  The number of bytes
it may read is an `int64`, so a limit from `2 ^ 63 - 1` on, which the configuration accepts
(`requiredUint_decimalBytes`), makes it read nothing at all: **`exact_iff`**.
-/

namespace Cerbero

namespace HttpIngest

open Text

/-! ## The limit -/

/-- `requiredUint`: the value of an environment variable. -/
def requiredUint (getenv : String → Search.GoString) (name : String) : Except String UInt64 :=
  let raw := Search.trimSpace (getenv name)
  if raw = [] then .error (name ++ " is required")
  else match parseUint raw with
    | .error _ => .error (name ++ " must be a positive integer")
    | .ok value =>
      if value = 0 then .error (name ++ " must be a positive integer")
      else .ok (UInt64.ofNat value)

/-- **Every positive number of 64 bits is accepted.** -/
theorem requiredUint_decimalBytes {limit : UInt64} (hpos : limit ≠ 0) (name : String) :
    requiredUint (fun _ => decimalBytes limit.toNat) name = .ok limit := by
  have hraw : Search.trimSpace (decimalBytes limit.toNat) = decimalBytes limit.toNat := by
    refine Search.trimSpace_graphic fun b hb => ?_
    -- a digit is printable and no white space
    have hdigit := List.all_eq_true.1 (all_isAsciiDigit_decimalBytes limit.toNat) b hb
    simp only [isAsciiDigit, Bool.and_eq_true, decide_eq_true_eq, UInt8.le_iff_toNat_le,
      UInt8.reduceToNat] at hdigit
    rw [UInt8.le_iff_toNat_le, UInt8.le_iff_toNat_le]
    exact ⟨le_trans (by decide) hdigit.1, hdigit.2.trans (by decide)⟩
  have hparse : parseUint (decimalBytes limit.toNat) = .ok limit.toNat :=
    parseUint_eq_ok.2 ⟨decimalBytes_ne_nil _, all_isAsciiDigit_decimalBytes _,
      decimalValue_decimalBytes _, limit.toNat_lt⟩
  have hvalue : limit.toNat ≠ 0 := fun h => hpos (UInt64.toNat_inj.1 h)
  rw [requiredUint, hraw, if_neg (decimalBytes_ne_nil _), hparse]
  dsimp only
  rw [if_neg hvalue, UInt64.ofNat_toNat]

/-! ## The body -/

/-- The errors of `readBounded`. -/
inductive BodyError
  | read (text : String)
  | payloadTooLarge (limit : UInt64)
  deriving DecidableEq, Repr

/-- **`readBounded`**, with the rooms of the buffers of its reads. -/
def readBounded (room : ℕ → ℕ) (body : Reader) (limit : UInt64) : Except BodyError (List UInt8) :=
  match LimitedReader.readAll room 0 ⟨body, (limit.toInt64 + 1).toInt⟩ with
  | .error text => .error (.read text)
  | .ok payload =>
    if limit < UInt64.ofNat payload.length then .error (.payloadTooLarge limit) else .ok payload

/-- **A body is read exactly**: it is returned as a whole if it is within the limit, and is too
large if it is not. -/
def Exact (room : ℕ → ℕ) (limit : UInt64) (chunks : List (List UInt8)) : Prop :=
  readBounded room ⟨chunks, .eof⟩ limit =
    if chunks.flatten.length ≤ limit.toNat then .ok chunks.flatten
    else .error (.payloadTooLarge limit)

/-- The number of bytes that may be read. -/
theorem toInt_toInt64_add_one (limit : UInt64) :
    (limit.toInt64 + 1).toInt =
      if limit.toNat < 2 ^ 63 - 1 then (limit.toNat : ℤ) + 1 else limit.toNat + 1 - 2 ^ 64 := by
  have hvalue : limit.toInt64.toInt = (limit.toNat : ℤ).bmod (2 ^ 64) := by
    rw [← Int64.toInt_toBitVec, UInt64.toBitVec_toInt64, BitVec.toInt_eq_toNat_bmod,
      UInt64.toNat_toBitVec]
  have hlimit := limit.toNat_lt
  rw [Int64.toInt_add, hvalue, Int64.toInt_one, Int.bmod_add_bmod, Int.bmod_def]
  omega

/-- All that may be read of a body. -/
theorem readAll_chunks (room : ℕ → ℕ) (chunks : List (List UInt8)) (left : ℤ) :
    LimitedReader.readAll room 0 ⟨⟨chunks, .eof⟩, left⟩ = .ok (chunks.flatten.take left.toNat) := by
  rw [LimitedReader.readAll_eq]
  split_ifs with hleft
  · rfl
  · have hall : chunks.flatten.take left.toNat = chunks.flatten :=
      List.take_of_length_le (by simp only [Reader.bytes] at hleft; omega)
    rw [hall]
    rfl

/-- The length that is compared with the limit fits 64 bits. -/
theorem lt_ofNat_iff {limit : UInt64} {n : ℕ} (h : n < 2 ^ 64) :
    limit < UInt64.ofNat n ↔ limit.toNat < n := by
  rw [UInt64.lt_iff_toNat_lt, UInt64.toNat_ofNat_of_lt' h]

/-- Below `2 ^ 63 - 1`, one byte more than the limit may be read. -/
theorem exact_of_lt (room : ℕ → ℕ) {limit : UInt64} (chunks : List (List UInt8))
    (h : limit.toNat < 2 ^ 63 - 1) : Exact room limit chunks := by
  have hleft : ((limit.toNat : ℤ) + 1).toNat = limit.toNat + 1 := by omega
  rw [Exact, readBounded, readAll_chunks, toInt_toInt64_add_one, if_pos h, hleft]
  dsimp only
  have hlength : (chunks.flatten.take (limit.toNat + 1)).length =
      min (limit.toNat + 1) chunks.flatten.length := List.length_take
  by_cases hfits : chunks.flatten.length ≤ limit.toNat
  · have hnot : ¬ limit < UInt64.ofNat (chunks.flatten.take (limit.toNat + 1)).length := by
      rw [hlength, lt_ofNat_iff (by omega)]
      omega
    rw [if_pos hfits, if_neg hnot, List.take_of_length_le (hfits.trans (Nat.le_succ _))]
  · have hmore : limit < UInt64.ofNat (chunks.flatten.take (limit.toNat + 1)).length := by
      rw [hlength, lt_ofNat_iff (by omega)]
      omega
    rw [if_neg hfits, if_pos hmore]

/-- From there on, nothing is read. -/
theorem readBounded_of_le (room : ℕ → ℕ) {limit : UInt64} (chunks : List (List UInt8))
    (h : ¬ limit.toNat < 2 ^ 63 - 1) : readBounded room ⟨chunks, .eof⟩ limit = .ok [] := by
  have hlimit := limit.toNat_lt
  have hleft : ((limit.toNat : ℤ) + 1 - 2 ^ 64).toNat = 0 := by omega
  have hnot : ¬ limit < UInt64.ofNat 0 := by
    rw [lt_ofNat_iff (by decide)]
    exact Nat.not_lt_zero _
  rw [readBounded, readAll_chunks, toInt_toInt64_add_one, if_neg h, hleft, List.take_zero]
  exact if_neg hnot

/-- **A body is read exactly if the limit is less than `2 ^ 63 - 1`**, or there is nothing to
read. -/
theorem exact_iff (room : ℕ → ℕ) (limit : UInt64) (chunks : List (List UInt8)) :
    Exact room limit chunks ↔ limit.toNat < 2 ^ 63 - 1 ∨ chunks.flatten = [] := by
  by_cases hlimit : limit.toNat < 2 ^ 63 - 1
  · exact iff_of_true (exact_of_lt room chunks hlimit) (.inl hlimit)
  · rw [Exact, readBounded_of_le room chunks hlimit]
    constructor
    · intro h
      split_ifs at h with hfits
      · exact .inr (Except.ok.inj h).symm
    · rintro (h | hempty)
      · exact absurd h hlimit
      · rw [hempty]
        exact (if_pos (Nat.zero_le _)).symm

/-- **With the limit at `2 ^ 63 - 1`, a body is taken for an empty one.** -/
theorem not_exact_maxInt64 :
    requiredUint (fun _ => bytes "9223372036854775807") "CERBERO_INGEST_MAX_PAYLOAD_SIZE" =
        .ok 9223372036854775807 ∧
      readBounded (fun _ => 511) ⟨[bytes "\x7b\x7d"], .eof⟩ 9223372036854775807 = .ok [] ∧
      ¬ Exact (fun _ => 511) 9223372036854775807 [bytes "\x7b\x7d"] := by
  have hread : readBounded (fun _ => 511) ⟨[bytes "\x7b\x7d"], .eof⟩ 9223372036854775807 = .ok [] :=
    readBounded_of_le _ _ (by decide)
  refine ⟨by decide +kernel, hread, fun h => ?_⟩
  rw [Exact, hread] at h
  exact absurd h (by decide)

end HttpIngest

end Cerbero
