import Mathlib.Data.Int.Notation
import Cerbero.Lib.Text
import Cerbero.Lib.Fallible

/-!
# Contracts/Basic — violations, identifiers, clocks, digests

The field checks every v1 contract is built from.  A check returns the violation that names the
field it looked at; `Except.bind` runs the checks of a message in the order of the source.
-/

namespace Cerbero

open Text

/-- A contract field and why it was rejected. -/
structure ContractViolation where
  field : String
  reason : String
  deriving DecidableEq, Repr

/-- The outcome of a contract check. -/
abbrev Check := Except ContractViolation Unit

/-- Reject `field` with `reason` when `bad` holds. -/
def rejectIf (bad : Bool) (field reason : String) : Check :=
  if bad then .error ⟨field, reason⟩ else .ok ()

@[simp] theorem rejectIf_eq_ok {bad : Bool} {field reason : String} {u : Unit} :
    rejectIf bad field reason = .ok u ↔ bad = false := by
  cases bad <;> simp [rejectIf]

/-! ## Identifiers -/

/-- The positions of the hyphens of a UUID. -/
def isHyphenIndex (i : ℕ) : Bool := i == 8 || i == 13 || i == 18 || i == 23

/-- `validate_uuid_v7`. -/
def validateUuidV7 (field value : String) : Check := do
  let bytes := bytes value
  rejectIf (bytes.length != 36 || bytes[8]? != some 0x2d || bytes[13]? != some 0x2d ||
    bytes[18]? != some 0x2d || bytes[23]? != some 0x2d) field "must be a canonical UUID string"
  rejectIf (bytes.zipIdx.any fun (byte, index) =>
    !isHyphenIndex index && !isAsciiHexdigit byte) field "contains non-hexadecimal characters"
  rejectIf (bytes[14]? != some 0x37) field "must use UUID version 7"
  rejectIf (!(bytes[19]?.map toAsciiLowercase).any fun b => 0x38 ≤ b && b ≤ 0x39 ||
    0x61 ≤ b && b ≤ 0x62) field "must use the RFC UUID variant"

/-- The bytes a UUID is written with. -/
def isUuidByte (b : UInt8) : Bool := b == 0x2d || isAsciiHexdigit b

/-- **An accepted UUID is written with hyphens and hexadecimal digits only.** -/
theorem isUuidByte_of_validateUuidV7 {field value : String}
    (h : validateUuidV7 field value = .ok ()) : ∀ b ∈ bytes value, isUuidByte b := by
  simp only [validateUuidV7, check_bind_eq_ok, rejectIf_eq_ok] at h
  obtain ⟨hhyphens, hhex, -⟩ := h
  simp only [Bool.or_eq_false_iff, bne_eq_false_iff_eq] at hhyphens
  obtain ⟨⟨⟨⟨-, h8⟩, h13⟩, h18⟩, h23⟩ := hhyphens
  intro b hb
  obtain ⟨i, hi⟩ := List.mem_iff_getElem?.1 hb
  rw [isUuidByte, Bool.or_eq_true, beq_iff_eq]
  by_cases hidx : isHyphenIndex i
  · left
    simp only [isHyphenIndex, Bool.or_eq_true, beq_iff_eq] at hidx
    rcases hidx with ((rfl | rfl) | rfl) | rfl <;> simp_all
  · right
    have hmem : (b, i) ∈ (bytes value).zipIdx := List.mem_zipIdx_iff_getElem?.2 hi
    have := List.any_eq_false.1 hhex _ hmem
    simpa [hidx] using this

/-- No other ASCII character occurs in an accepted UUID. -/
theorem not_mem_of_validateUuidV7 {field value : String} {c : Char}
    (h : validateUuidV7 field value = .ok ()) (hc : c.toNat < 128)
    (hb : isUuidByte c.toUInt8 = false) : c ∉ value.toList := fun hmem => by
  rw [isUuidByte_of_validateUuidV7 h _ (mem_bytes_of_mem hc hmem)] at hb
  exact Bool.noConfusion hb

theorem toNat_of_isUuidByte {b : UInt8} (h : isUuidByte b) : 0x2d ≤ b.toNat ∧ b.toNat < 0x67 := by
  simp only [isUuidByte, isAsciiHexdigit, isAsciiDigit, Bool.or_eq_true, beq_iff_eq,
    Bool.and_eq_true, decide_eq_true_eq, UInt8.le_iff_toNat_le, ← UInt8.toNat_inj,
    UInt8.reduceToNat] at h
  omega

/-- An accepted UUID is not blank. -/
theorem isBlank_of_validateUuidV7 {field value : String}
    (h : validateUuidV7 field value = .ok ()) : isBlank value = false := by
  have huuid := isUuidByte_of_validateUuidV7 h
  have hlength : (bytes value).length = 36 := by
    simp only [validateUuidV7, check_bind_eq_ok, rejectIf_eq_ok] at h
    simpa using (Bool.or_eq_false_iff.1 (Bool.or_eq_false_iff.1 (Bool.or_eq_false_iff.1
      (Bool.or_eq_false_iff.1 h.1).1).1).1).1
  obtain ⟨c, hc⟩ : ∃ c, c ∈ value.toList := by
    refine List.exists_mem_of_ne_nil _ fun hnil => ?_
    rw [bytes_eq_flatMap, hnil] at hlength
    exact nomatch hlength
  have hascii : c.toNat < 128 := toNat_lt_of_bytes (fun b hb => by
    have := toNat_of_isUuidByte (huuid b hb)
    omega) hc
  have hbyte := toNat_of_isUuidByte (huuid _ (mem_bytes_of_mem hascii hc))
  have hnat : c.toUInt8.toNat = c.toNat := by
    simp only [Char.toUInt8, UInt32.toNat_toUInt8]
    exact Nat.mod_eq_of_lt (by show c.toNat < 256; omega)
  refine isBlank_eq_false hc ?_
  simp only [isWhitespace, Bool.or_eq_false_iff, Bool.and_eq_false_iff, decide_eq_false_iff_not]
  omega

/-- The name of the checked field does not matter. -/
theorem validateUuidV7_field {field field' value : String}
    (h : validateUuidV7 field value = .ok ()) : validateUuidV7 field' value = .ok () := by
  simp only [validateUuidV7, check_bind_eq_ok, rejectIf_eq_ok] at h ⊢
  exact h

/-- The text a PostgreSQL `uuid` column reads back for an accepted UUID: the same digits in lower
case. -/
def uuidText (value : String) : String := String.ofList (value.toList.map Char.toLower)

/-! ## Clocks -/

/-- `google.protobuf.Timestamp`. -/
structure Timestamp where
  seconds : ℤ
  nanos : ℤ
  deriving DecidableEq, Repr

def protoTimestampMinSeconds : ℤ := -62135596800

def protoTimestampMaxSeconds : ℤ := 253402300799

def protoTimestampMaxNanos : ℤ := 999999999

/-- `validate_timestamp`: the range of a protobuf timestamp, from year 1 to year 9999, and
nanoseconds that are fractions of a second. -/
def validateTimestamp (field : String) (timestamp : Timestamp) : Check := do
  rejectIf (!(protoTimestampMinSeconds ≤ timestamp.seconds &&
    timestamp.seconds ≤ protoTimestampMaxSeconds)) field
      "seconds are outside the Protobuf Timestamp range"
  rejectIf (!(0 ≤ timestamp.nanos && timestamp.nanos ≤ protoTimestampMaxNanos)) field
    "nanoseconds must be between 0 and 999999999"

/-- `validate_required_timestamp`. -/
def validateRequiredTimestamp (field : String) : Option Timestamp → Check
  | none => .error ⟨field, "is required"⟩
  | some timestamp => validateTimestamp field timestamp

/-! ## Digests -/

/-- `validate_sha256_metadata`: the one algorithm there is, and a digest in lower-case hexadecimal;
whether it fits any bytes is another check. -/
def validateSha256Metadata (algorithmField hashField algorithm hash : String) : Check := do
  rejectIf (algorithm != "sha256") algorithmField "must equal sha256"
  let hashBytes := bytes hash
  rejectIf (hashBytes.length != 64 ||
    !hashBytes.all fun b => isAsciiDigit b || (0x61 ≤ b && b ≤ 0x66)) hashField
      "must be a 64-character lowercase hexadecimal SHA-256 digest"

/-! ## Wire formats -/

/-- **A protobuf wire format**: what is encoded can be decoded again. -/
structure Wire (M : Type) where
  encode : M → List UInt8
  decode : List UInt8 → Option M
  decode_encode : ∀ m, decode (encode m) = some m

/-! ## Execution modes -/

/-- `ExecutionMode`. -/
inductive ExecutionMode
  | unspecified
  | live
  | replay
  | test
  deriving DecidableEq, Repr

/-- The wire number of an execution mode. -/
def ExecutionMode.number : ExecutionMode → ℤ
  | unspecified => 0
  | live => 1
  | replay => 2
  | test => 3

/-- `ExecutionMode::try_from`. -/
def ExecutionMode.tryFrom (n : ℤ) : Option ExecutionMode :=
  if n = 0 then some unspecified
  else if n = 1 then some live
  else if n = 2 then some replay
  else if n = 3 then some test
  else none

@[simp] theorem ExecutionMode.tryFrom_number (mode : ExecutionMode) :
    tryFrom mode.number = some mode := by
  cases mode <;> rfl

/-- `ExecutionMode::as_str_name`. -/
def ExecutionMode.asStrName : ExecutionMode → String
  | unspecified => "EXECUTION_MODE_UNSPECIFIED"
  | live => "EXECUTION_MODE_LIVE"
  | replay => "EXECUTION_MODE_REPLAY"
  | test => "EXECUTION_MODE_TEST"

end Cerbero
