import Mathlib.Data.Countable.Basic
import Mathlib.Data.List.Basic
import Mathlib.Logic.Encodable.Basic
import Mathlib.Logic.Equiv.List
import Cerbero.Contracts.Finding

/-!
# Contracts/Countable — messages can be written as bytes

A wire format is assumed of each message.  There are such formats: a Signal and a Finding are made
of countably many values, and what is countable can be numbered and its number written down
(**`nonempty_wire`**).
-/

namespace Cerbero

/-- **What is countable has a wire format.** -/
theorem nonempty_wire (M : Type) [Countable M] : Nonempty (Wire M) := by
  classical
  obtain ⟨number, hnumber⟩ := exists_injective_nat M
  refine ⟨⟨fun m => List.replicate (number m) 0,
    fun data => if h : ∃ m, number m = data.length then some h.choose else none, fun m => ?_⟩⟩
  have hm : ∃ m', number m' = (List.replicate (number m) (0 : UInt8)).length :=
    ⟨m, (List.length_replicate).symm⟩
  rw [dif_pos hm]
  refine congrArg some (hnumber ?_)
  rw [hm.choose_spec, List.length_replicate]

/-- A character is its code point, so the characters are countable. -/
theorem charToNat_injective : Function.Injective Char.toNat := fun _ _ h =>
  Char.ext (UInt32.toNat_inj.1 h)

instance countable_char : Countable Char := charToNat_injective.countable

/-- Texts are lists of characters and lists over a countable type are countable. -/
instance countable_string : Countable String := Function.Injective.countable (f := String.toList) fun _ _ h =>
  String.toList_inj.1 h

/-! ## Values -/

/-- The number of a text. -/
def textCode (text : String) : ℕ := Encodable.encode (text.toList.map Char.toNat)

/-- No two texts share their number: a text is read back from it. -/
theorem textCode_injective : Function.Injective textCode := by
  intro a b h
  exact String.toList_inj.1 (charToNat_injective.list_map (Encodable.encode_injective h))

mutual

/-- The number of a value. -/
def valueCode : Value → ℕ
  | .unset => Nat.pair 0 0
  | .nullValue number => Nat.pair 1 (Encodable.encode number)
  | .numberValue bits => Nat.pair 2 bits.toNat
  | .stringValue text => Nat.pair 3 (textCode text)
  | .boolValue flag => Nat.pair 4 flag.toNat
  | .structValue fields => Nat.pair 5 (fieldsCode fields)
  | .listValue values => Nat.pair 6 (valuesCode values)

/-- The number of the fields of a struct, in their order; it encodes how many there are. -/
def fieldsCode : List (String × Value) → ℕ
  | [] => 0
  | field :: fields => Nat.pair (fieldCode field) (fieldsCode fields) + 1

/-- The number of the values of a list, in their order. -/
def valuesCode : List Value → ℕ
  | [] => 0
  | value :: values => Nat.pair (valueCode value) (valuesCode values) + 1

/-- The number of a field: the one of its name paired with the one of its value. -/
def fieldCode : String × Value → ℕ
  | (name, value) => Nat.pair (textCode name) (valueCode value)

end

/-- **Values have different numbers**, by induction on one of them. -/
theorem valueCode_injective : Function.Injective valueCode := by
  intro v
  refine @Value.rec (fun v => ∀ w, valueCode v = valueCode w → v = w)
    (fun fields => ∀ fields', fieldsCode fields = fieldsCode fields' → fields = fields')
    (fun values => ∀ values', valuesCode values = valuesCode values' → values = values')
    (fun field => ∀ field', fieldCode field = fieldCode field' → field = field')
    ?_ ?_ ?_ ?_ ?_ ?_ ?_ ?_ ?_ ?_ ?_ ?_ v
  · intro w h
    cases w <;> simp_all [valueCode, Nat.pair_eq_pair]
  · intro number w h
    cases w <;> simp_all [valueCode, Nat.pair_eq_pair]
  · intro bits w h
    cases w <;> simp_all [valueCode, Nat.pair_eq_pair, UInt64.toNat_inj]
  · intro text w h
    cases w <;> simp_all [valueCode, Nat.pair_eq_pair, textCode_injective.eq_iff]
  · intro flag w h
    cases w with
    | boolValue flag' =>
      have hflag : flag.toNat = flag'.toNat := (Nat.pair_eq_pair.1 h).2
      cases flag <;> cases flag' <;> simp_all
    | _ => simp [valueCode, Nat.pair_eq_pair] at h
  · intro fields ih w h
    cases w with
    | structValue fields' => exact congrArg Value.structValue (ih _ (Nat.pair_eq_pair.1 h).2)
    | _ => simp [valueCode, Nat.pair_eq_pair] at h
  · intro values ih w h
    cases w with
    | listValue values' => exact congrArg Value.listValue (ih _ (Nat.pair_eq_pair.1 h).2)
    | _ => simp [valueCode, Nat.pair_eq_pair] at h
  · intro fields' h
    cases fields' <;> simp_all [fieldsCode]
  · intro field fields hfield hfields fields' h
    cases fields' with
    | nil => simp [fieldsCode] at h
    | cons field' rest =>
      obtain ⟨hhead, htail⟩ := Nat.pair_eq_pair.1 (Nat.succ_injective h)
      rw [hfield _ hhead, hfields _ htail]
  · intro values' h
    cases values' <;> simp_all [valuesCode]
  · intro value values hvalue hvalues values' h
    cases values' with
    | nil => simp [valuesCode] at h
    | cons value' rest =>
      obtain ⟨hhead, htail⟩ := Nat.pair_eq_pair.1 (Nat.succ_injective h)
      rw [hvalue _ hhead, hvalues _ htail]
  · intro name value hvalue field' h
    cases field' with
    | mk name' value' =>
      obtain ⟨hname, hrest⟩ := Nat.pair_eq_pair.1 h
      rw [textCode_injective hname, hvalue _ hrest]

/-- Values nest to any depth, so their numbers are what makes them countable. -/
instance countable_value : Countable Value := valueCode_injective.countable

/-! ## Signals and Findings -/

/-- A message with countable fields is countable; the instances below go field by field, from the
parts of a Signal and of a Finding to the messages themselves. -/
instance countable_timestamp : Countable Timestamp := Function.Injective.countable
  (f := fun t : Timestamp => (t.seconds, t.nanos)) fun a b h => by
    cases a
    cases b
    simpa using h

instance countable_signalProvenance : Countable SignalProvenance := Function.Injective.countable
  (f := fun p : SignalProvenance => (p.evaluatedAt, p.executionBackend)) fun a b h => by
    cases a
    cases b
    simpa using h

instance countable_signalInput : Countable SignalInput := Function.Injective.countable
  (f := fun i : SignalInput => (i.signalId, i.inputType, i.inputId, i.relation, i.ordinal))
  fun a b h => by
    cases a
    cases b
    simpa using h

/-- The Signals, so that there is a wire format for them (`nonempty_wire`). -/
instance countable_signal : Countable Signal := Function.Injective.countable
  (f := fun s : Signal => (s.signalId, s.tenantId, s.ruleId, s.ruleVersion, s.ruleType, s.severity,
    s.confidence, s.status, s.firstObservedAt, s.lastObservedAt, s.createdAt, s.executionMode,
    s.sourceCount, s.eventCount, s.summary, s.provenance, s.inputs)) fun a b h => by
    cases a
    cases b
    simpa using h

instance countable_findingInput : Countable FindingInput := Function.Injective.countable
  (f := fun i : FindingInput => (i.findingId, i.inputType, i.inputId, i.relation)) fun a b h => by
    cases a
    cases b
    simpa using h

instance countable_findingCorrelationProvenance : Countable FindingCorrelationProvenance := Function.Injective.countable
  (f := fun p : FindingCorrelationProvenance => (p.correlationRuleId, p.correlationRuleVersion,
    p.windowStart, p.windowEnd, p.inputIds, p.outputFindingId, p.executionBackend,
    p.executionMode, p.configurationHash)) fun a b h => by
    cases a
    cases b
    simpa using h

/-- The Findings, so that there is a wire format for them (`nonempty_wire`). -/
instance countable_finding : Countable Finding := Function.Injective.countable
  (f := fun f : Finding => (f.findingId, f.tenantId, f.findingType, f.status, f.severity,
    f.confidence, f.title, f.description, f.firstSeen, f.lastSeen, f.createdAt, f.updatedAt,
    f.primaryRuleId, f.primaryRuleVersion, f.correlationRuleId, f.correlationRuleVersion,
    f.disposition, f.metadata, f.executionMode, f.inputs, f.correlationProvenance)) fun a b h => by
    cases a
    cases b
    simpa using h

end Cerbero
