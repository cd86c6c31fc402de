import Cerbero.Contracts.NormalizedEvent
import Cerbero.Lib.Fallible
import Cerbero.Lib.Json

/-!
# Contracts/ProstStruct — from a JSON object to a `prost` struct

Three crates have a `json_to_prost_struct` of their own; they differ in their errors.  `prost` keeps
the fields of a struct in an ordered tree map, so the order of the members of an object is
forgotten: the canonical form of an object makes the same struct
(**`prostStructOf_canonicalize`**).
-/

namespace Cerbero

/-- A struct with the fields of a list: one field a name, in the order of the names. -/
def collectFields (fields : List (String × Value)) : Struct := (SortedMap.ofList fields).toList

section

variable {ε : Type} (f64Bits : String → Option UInt64) (numberError : ε)

mutual

/-- `json_to_prost_value`; `f64Bits` gives the bits of the `f64` that a number's text stands for,
and `numberError` is for a text that stands for none. -/
def jsonToProstValue : Json → Except ε Value
  | .null => .ok (.nullValue 0)
  | .bool flag => .ok (.boolValue flag)
  | .number text =>
    match f64Bits text with
    | some bits => .ok (.numberValue bits)
    | none => .error numberError
  | .string text => .ok (.stringValue text)
  | .array values => return .listValue (← jsonToProstValues values)
  | .object members => return .structValue (collectFields (← jsonToProstMembers members))

def jsonToProstValues : List Json → Except ε (List Value)
  | [] => .ok []
  | value :: values => return (← jsonToProstValue value) :: (← jsonToProstValues values)

def jsonToProstMembers : List (String × Json) → Except ε (List (String × Value))
  | [] => .ok []
  | member :: members => return (← jsonToProstMember member) :: (← jsonToProstMembers members)

def jsonToProstMember : String × Json → Except ε (String × Value)
  | (name, value) => return (name, ← jsonToProstValue value)

end

/-- A `json_to_prost_struct`; `rootError` is for what is not an object. -/
def prostStructOf (rootError : ε) : Json → Except ε Struct
  | .object members => return collectFields (← jsonToProstMembers f64Bits numberError members)
  | _ => .error rootError

end

/-! ## The order of members is forgotten -/

section

variable {ε ε' : Type} {f64Bits : String → Option UInt64} {numberError rootError : ε}
  {numberError' rootError' : ε'}

theorem collectFields_ofList (fields : List (String × Value)) :
    collectFields (SortedMap.ofList fields).toList = collectFields fields := by
  rw [collectFields, SortedMap.ofList_toList, collectFields]

/-- The fields of a struct, one for each member. -/
theorem jsonToProstMembers_eq_ok : ∀ {members : List (String × Json)}
    {fields : List (String × Value)}, jsonToProstMembers f64Bits numberError members = .ok fields ↔
      List.Forall₂ (SortedMap.EntryRel fun v x => jsonToProstValue f64Bits numberError v = .ok x)
        members fields
  | [], fields => by
      rw [List.forall₂_nil_left_iff]
      exact ⟨fun h => (Except.ok.inj h).symm, fun h => by rw [h]; rfl⟩
  | (name, value) :: members, fields => by
      rw [jsonToProstMembers, jsonToProstMember, List.forall₂_cons_left_iff]
      constructor
      · intro h
        obtain ⟨field, hfield, h⟩ := bind_eq_ok.1 h
        obtain ⟨x, hx, hfield⟩ := bind_eq_ok.1 hfield
        obtain ⟨fields', hfields, h⟩ := bind_eq_ok.1 h
        obtain rfl := Except.ok.inj hfield
        exact ⟨_, _, ⟨rfl, hx⟩, jsonToProstMembers_eq_ok.1 hfields, (Except.ok.inj h).symm⟩
      · rintro ⟨⟨name', x⟩, fields', ⟨hname, hx⟩, hfields, rfl⟩
        obtain rfl : name = name' := hname
        exact bind_eq_ok.2 ⟨_, bind_eq_ok.2 ⟨x, hx, rfl⟩,
          bind_eq_ok.2 ⟨fields', jsonToProstMembers_eq_ok.2 hfields, rfl⟩⟩

mutual

/-- The canonical form of a value makes the same `prost` value, whatever the error of a bad number
is. -/
theorem jsonToProstValue_canonicalize : ∀ {value : Json} {x : Value},
    jsonToProstValue f64Bits numberError value = .ok x →
      jsonToProstValue f64Bits numberError' value.canonicalize = .ok x
  | .null, _, h | .bool _, _, h | .string _, _, h => by
      obtain rfl := Except.ok.inj h
      rfl
  | .number text, x, h => by
      rw [jsonToProstValue] at h
      rw [Json.canonicalize, jsonToProstValue]
      split at h
      · exact congrArg Except.ok (Except.ok.inj h)
      · exact nomatch h
  | .array values, x, h => by
      rw [jsonToProstValue] at h
      obtain ⟨xs, hxs, h⟩ := bind_eq_ok.1 h
      obtain rfl := Except.ok.inj h
      rw [Json.canonicalize, jsonToProstValue]
      exact bind_eq_ok.2 ⟨xs, jsonToProstValues_canonicalize hxs, rfl⟩
  | .object members, x, h => by
      rw [jsonToProstValue] at h
      obtain ⟨fields, hfields, h⟩ := bind_eq_ok.1 h
      obtain rfl := Except.ok.inj h
      rw [Json.canonicalize, jsonToProstValue]
      refine bind_eq_ok.2 ⟨_, jsonToProstMembers_eq_ok.2 (SortedMap.forall₂_ofList
        (jsonToProstMembers_canonicalize hfields)), ?_⟩
      rw [collectFields_ofList]
      rfl

theorem jsonToProstValues_canonicalize : ∀ {values : List Json} {xs : List Value},
    jsonToProstValues f64Bits numberError values = .ok xs →
      jsonToProstValues f64Bits numberError' (Json.canonicalizeValues values) = .ok xs
  | [], _, h => by
      obtain rfl := Except.ok.inj h
      rfl
  | value :: values, xs, h => by
      obtain ⟨y, hy, h⟩ := bind_eq_ok.1 h
      obtain ⟨ys, hys, h⟩ := bind_eq_ok.1 h
      obtain rfl := Except.ok.inj h
      exact bind_eq_ok.2 ⟨y, jsonToProstValue_canonicalize hy,
        bind_eq_ok.2 ⟨ys, jsonToProstValues_canonicalize hys, rfl⟩⟩

theorem jsonToProstMembers_canonicalize : ∀ {members : List (String × Json)}
    {fields : List (String × Value)}, jsonToProstMembers f64Bits numberError members = .ok fields →
      List.Forall₂ (SortedMap.EntryRel fun v x => jsonToProstValue f64Bits numberError' v = .ok x)
        (Json.canonicalizeMembers members) fields
  | [], fields, h => by
      obtain rfl := Except.ok.inj h
      exact .nil
  | (name, value) :: members, fields, h => by
      obtain ⟨field, hfield, h⟩ := bind_eq_ok.1 h
      obtain ⟨x, hx, hfield⟩ := bind_eq_ok.1 hfield
      obtain ⟨fields', hfields, h⟩ := bind_eq_ok.1 h
      obtain rfl := Except.ok.inj hfield
      obtain rfl := Except.ok.inj h
      exact .cons ⟨rfl, jsonToProstValue_canonicalize hx⟩ (jsonToProstMembers_canonicalize hfields)

end

/-- **The canonical form of a document makes the same struct.** -/
theorem prostStructOf_canonicalize : ∀ {value : Json} {ocsfStruct : Struct},
    prostStructOf f64Bits numberError rootError value = .ok ocsfStruct →
      prostStructOf f64Bits numberError' rootError' value.canonicalize = .ok ocsfStruct
  | .null, _, h | .bool _, _, h | .number _, _, h | .string _, _, h | .array _, _, h => nomatch h
  | .object members, x, h => by
      rw [prostStructOf] at h
      obtain ⟨fields, hfields, h⟩ := bind_eq_ok.1 h
      obtain rfl := Except.ok.inj h
      rw [Json.canonicalize, prostStructOf]
      refine bind_eq_ok.2 ⟨_, jsonToProstMembers_eq_ok.2 (SortedMap.forall₂_ofList
        (jsonToProstMembers_canonicalize hfields)), ?_⟩
      rw [collectFields_ofList]
      rfl

end

end Cerbero
