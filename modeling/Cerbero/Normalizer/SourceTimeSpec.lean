import Cerbero.Lib.Fallible
import Cerbero.Normalizer.SourceTime

/-!
# Normalizer/SourceTimeSpec — the policies of a specification

`parse_spec` of `source_time.rs`: `source=+HH:MM` entries between commas.  The offset of an accepted
policy is read from its text (`parseOffset_of_parseSpec`), so the text says all of it.
-/

namespace Cerbero

namespace Normalizer

open Text

/-- The number two decimal digits stand for. -/
def twoDigits (tens ones : UInt8) : ℤ := (tens.toNat - 0x30 : ℤ) * 10 + (ones.toNat - 0x30 : ℤ)

/-- `UtcOffset::from_hms`, in seconds. -/
def offsetFromHms (hours minutes : ℤ) : SourceTime ℤ :=
  if hours.natAbs ≤ 25 ∧ minutes.natAbs ≤ 59 then .ok (hours * 3600 + minutes * 60)
  else .error "invalid source UTC offset: component out of range"

/-- `parse_offset`: a sign, two digits, a colon and two digits. -/
def parseOffset (value : String) : SourceTime SourceTimePolicy :=
  match bytes value with
  | [sign, h, h', colon, m, m'] =>
    if (sign ≠ 0x2b ∧ sign ≠ 0x2d) ∨ colon ≠ 0x3a ∨ ([h, h', m, m'].all isAsciiDigit) = false then
      .error "source UTC offset must use exact +HH:MM or -HH:MM form"
    else do
      let direction := if sign = 0x2d then -1 else 1
      let offset ← offsetFromHms (direction * twoDigits h h') (direction * twoDigits m m')
      return ⟨offset, value⟩
  | _ => .error "source UTC offset must use exact +HH:MM or -HH:MM form"

/-- One entry of `parse_spec`. -/
def parseEntry (policies : SourceTimePolicyRegistry) (entry : List Char) :
    SourceTime SourceTimePolicyRegistry :=
  match splitOnce ['='] entry with
  | none =>
    .error "source time policy entries must use source_id=+HH:MM or source_id=-HH:MM"
  | some (sourceId, offsetText) =>
    let sourceId := trim sourceId
    if sourceId = [] ∨ ',' ∈ sourceId ∨ '=' ∈ sourceId then
      .error "source time policy source_id must be non-empty and cannot contain ',' or '='"
    else if (policies.get? (String.ofList sourceId)).isSome then
      .error ("duplicate source time policy for source_id " ++ String.ofList sourceId)
    else do
      let policy ← parseOffset (String.ofList (trim offsetText))
      return policies.insert (String.ofList sourceId) policy

/-- The loop of `parse_spec`. -/
def parseEntries : List (List Char) → SourceTimePolicyRegistry → SourceTime SourceTimePolicyRegistry
  | [], policies => .ok policies
  | entry :: entries, policies => do
    let policies ← parseEntry policies entry
    parseEntries entries policies

/-- **`SourceTimePolicyRegistry::parse_spec`.** -/
def parseSpec (spec : String) : SourceTime SourceTimePolicyRegistry :=
  let spec := trim spec.toList
  if spec = [] then .ok .empty else parseEntries (spec.splitOn ',') .empty

/-! ## The text of a policy -/

/-- Every policy was read from its text. -/
def ReadFromText (policies : SourceTimePolicyRegistry) : Prop :=
  ∀ sourceId policy, policies.get? sourceId = some policy →
    parseOffset policy.offsetText = .ok policy

/-- The text is kept as it was read. -/
theorem offsetText_of_parseOffset {value : String} {policy : SourceTimePolicy}
    (h : parseOffset value = .ok policy) : policy.offsetText = value := by
  unfold parseOffset at h
  split at h
  · split at h
    · exact nomatch h
    · obtain ⟨_, -, h⟩ := bind_eq_ok.1 h
      obtain rfl := Except.ok.inj h
      rfl
  · exact nomatch h

theorem readFromText_parseEntry {policies policies' : SourceTimePolicyRegistry}
    {entry : List Char} (hread : ReadFromText policies)
    (h : parseEntry policies entry = .ok policies') : ReadFromText policies' := by
  unfold parseEntry at h
  split at h
  · exact nomatch h
  · dsimp only at h
    split at h
    · exact nomatch h
    · split at h
      · exact nomatch h
      · obtain ⟨policy, hpolicy, h⟩ := bind_eq_ok.1 h
        obtain rfl := Except.ok.inj h
        intro sourceId stored hstored
        rw [SortedMap.get?_insert] at hstored
        split at hstored
        · obtain rfl := Option.some.inj hstored
          rw [offsetText_of_parseOffset hpolicy]
          exact hpolicy
        · exact hread sourceId stored hstored

theorem readFromText_parseEntries : ∀ {entries : List (List Char)}
    {policies policies' : SourceTimePolicyRegistry}, ReadFromText policies →
    parseEntries entries policies = .ok policies' → ReadFromText policies'
  | [], _, _, hread, h => Except.ok.inj h ▸ hread
  | _ :: _, _, _, hread, h => by
      obtain ⟨policies, hentry, hrest⟩ := bind_eq_ok.1 h
      exact readFromText_parseEntries (readFromText_parseEntry hread hentry) hrest

/-- **The policies of a specification are read from their texts.** -/
theorem parseOffset_of_parseSpec {spec : String} {policies : SourceTimePolicyRegistry}
    (h : parseSpec spec = .ok policies) : ReadFromText policies := by
  have hempty : ReadFromText .empty := fun _ _ hget => nomatch hget
  unfold parseSpec at h
  dsimp only at h
  split at h
  · exact Except.ok.inj h ▸ hempty
  · exact readFromText_parseEntries hempty h

/-- Policies with one canonical text are the same. -/
theorem eq_of_canonical {policy policy' : SourceTimePolicy}
    (hread : parseOffset policy.offsetText = .ok policy)
    (hread' : parseOffset policy'.offsetText = .ok policy')
    (h : policy.canonical = policy'.canonical) : policy = policy' := by
  have htext : policy.offsetText = policy'.offsetText :=
    (String.append_right_inj _).1 ((String.append_left_inj _).1 h)
  rw [htext] at hread
  exact Except.ok.inj (hread.symm.trans hread')

example : (parseSpec " source-a=-04:00, source-b=+05:30").map (·.get? "source-a") =
    .ok (some ⟨-14400, "-04:00"⟩) := by decide +kernel

end Normalizer

end Cerbero
