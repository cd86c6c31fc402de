import Cerbero.Lib.JsonText

/-!
# Lib/JsonOrder — JSON values up to the order of their members

The members of an object come in no order: `UpToOrder` is the equality of values that lets them
change places, at every depth.  Where no object has two members of one name, the canonical form
decides it (**`canonicalize_eq_iff`**), and so does its text (**`render_canonicalize_eq_iff`**).
-/

namespace Cerbero

namespace Json

/-! ## Objects without a repeated name -/

mutual

/-- No object in a value has two members of one name. -/
def Distinct : Json → Prop
  | .null => True
  | .bool _ => True
  | .number _ => True
  | .string _ => True
  | .array values => DistinctValues values
  | .object members => (members.map Prod.fst).Nodup ∧ DistinctMembers members

/-- No object under any value of an array has a name twice. -/
def DistinctValues : List Json → Prop
  | [] => True
  | value :: values => Distinct value ∧ DistinctValues values

/-- No object under any member has a name twice. -/
def DistinctMembers : List (String × Json) → Prop
  | [] => True
  | member :: members => DistinctMember member ∧ DistinctMembers members

/-- No object under the value of a member has a name twice. -/
def DistinctMember : String × Json → Prop
  | (_, value) => Distinct value

end

/-- The values of an array are looked at one by one. -/
theorem distinctValues_iff : ∀ {values : List Json},
    DistinctValues values ↔ ∀ value ∈ values, Distinct value
  | [] => by simp [DistinctValues]
  | value :: values => by rw [DistinctValues, List.forall_mem_cons, distinctValues_iff]

/-- Only the values of the members are looked at. -/
theorem distinctMembers_iff : ∀ {members : List (String × Json)},
    DistinctMembers members ↔ ∀ e ∈ members, Distinct e.2
  | [] => by simp [DistinctMembers]
  | (name, value) :: members => by
      rw [DistinctMembers, DistinctMember, List.forall_mem_cons, distinctMembers_iff]

/-- The values of an array are put in order one by one, and stay where they are. -/
theorem canonicalizeValues_eq_map : ∀ values : List Json,
    canonicalizeValues values = values.map canonicalize
  | [] => rfl
  | value :: values => by rw [canonicalizeValues, canonicalizeValues_eq_map values, List.map_cons]

/-- The values of the members are put in order before the members themselves are. -/
theorem canonicalizeMembers_eq_map : ∀ members : List (String × Json),
    canonicalizeMembers members = members.map fun e => (e.1, e.2.canonicalize)
  | [] => rfl
  | (name, value) :: members => by
      rw [canonicalizeMembers, canonicalizeMember, canonicalizeMembers_eq_map members,
        List.map_cons]

/-- Their names stay. -/
theorem map_fst_canonicalizeMembers (members : List (String × Json)) :
    (canonicalizeMembers members).map Prod.fst = members.map Prod.fst := by
  rw [canonicalizeMembers_eq_map, List.map_map]
  rfl

/-! ## Equality up to order -/

/-- **Equality up to the order of members, at every depth**: the least equivalence that lets the
members of an object change places, and that may be used on an element of an array and on the value
of a member. -/
inductive UpToOrder : Json → Json → Prop
  | refl (value : Json) : UpToOrder value value
  | symm {v w : Json} : UpToOrder v w → UpToOrder w v
  | trans {u v w : Json} : UpToOrder u v → UpToOrder v w → UpToOrder u w
  | permute {members members' : List (String × Json)} :
      members.Perm members' → UpToOrder (.object members) (.object members')
  | element (before : List Json) {v w : Json} (after : List Json) :
      UpToOrder v w → UpToOrder (.array (before ++ v :: after)) (.array (before ++ w :: after))
  | member (before : List (String × Json)) (name : String) {v w : Json}
      (after : List (String × Json)) : UpToOrder v w →
      UpToOrder (.object (before ++ (name, v) :: after)) (.object (before ++ (name, w) :: after))

/-- Changing places leaves names distinct, and the canonical form as it is. -/
theorem UpToOrder.canonicalize_eq {v w : Json} (h : UpToOrder v w) :
    (Distinct v ↔ Distinct w) ∧ (Distinct v → v.canonicalize = w.canonicalize) := by
  induction h with
  | refl => exact ⟨Iff.rfl, fun _ => rfl⟩
  | symm _ ih => exact ⟨ih.1.symm, fun hdistinct => (ih.2 (ih.1.2 hdistinct)).symm⟩
  | trans _ _ ih ih' =>
    exact ⟨ih.1.trans ih'.1, fun hdistinct => (ih.2 hdistinct).trans (ih'.2 (ih.1.1 hdistinct))⟩
  | @permute members members' hperm =>
    refine ⟨?_, fun hdistinct => ?_⟩
    · rw [Distinct, Distinct, distinctMembers_iff, distinctMembers_iff,
        (hperm.map Prod.fst).nodup_iff]
      exact and_congr_right fun _ => forall_congr' fun e => by rw [hperm.mem_iff]
    · rw [Distinct] at hdistinct
      have hnames : ((canonicalizeMembers members).map Prod.fst).Nodup := by
        rw [map_fst_canonicalizeMembers]
        exact hdistinct.1
      have hmembers : (canonicalizeMembers members).Perm (canonicalizeMembers members') := by
        rw [canonicalizeMembers_eq_map, canonicalizeMembers_eq_map]
        exact hperm.map _
      rw [canonicalize, canonicalize, SortedMap.ofList_perm hnames hmembers]
  | element before after _ ih =>
    refine ⟨?_, fun hdistinct => ?_⟩
    · simp only [Distinct, distinctValues_iff, List.forall_mem_append, List.forall_mem_cons, ih.1]
    · rw [Distinct, distinctValues_iff, List.forall_mem_append, List.forall_mem_cons] at hdistinct
      simp only [canonicalize, canonicalizeValues_eq_map, List.map_append, List.map_cons,
        ih.2 hdistinct.2.1]
  | member before name after _ ih =>
    refine ⟨?_, fun hdistinct => ?_⟩
    · simp only [Distinct, distinctMembers_iff, List.forall_mem_append, List.forall_mem_cons, ih.1,
        List.map_append, List.map_cons]
    · rw [Distinct, distinctMembers_iff, List.forall_mem_append, List.forall_mem_cons] at hdistinct
      simp only [canonicalize, canonicalizeMembers_eq_map, List.map_append, List.map_cons,
        ih.2 hdistinct.2.2.1]

/-- Elements may be replaced one after the other. -/
theorem upToOrder_array : ∀ (before : List Json) {values values' : List Json},
    List.Forall₂ UpToOrder values values' →
      UpToOrder (.array (before ++ values)) (.array (before ++ values'))
  | _, _, _, .nil => .refl _
  | before, v :: values, v' :: values', .cons h hrest => by
      have htail := upToOrder_array (before ++ [v']) hrest
      rw [List.append_assoc, List.append_assoc] at htail
      exact (UpToOrder.element before values h).trans htail

/-- Values of members may be replaced one after the other. -/
theorem upToOrder_object : ∀ (before : List (String × Json))
    {members members' : List (String × Json)},
    List.Forall₂ (SortedMap.EntryRel UpToOrder) members members' →
      UpToOrder (.object (before ++ members)) (.object (before ++ members'))
  | _, _, _, .nil => .refl _
  | before, (name, v) :: members, (name', v') :: members', .cons h hrest => by
      obtain ⟨rfl, hvalue⟩ : name = name' ∧ UpToOrder v v' := h
      have htail := upToOrder_object (before ++ [(name, v')]) hrest
      rw [List.append_assoc, List.append_assoc] at htail
      exact (UpToOrder.member before name members hvalue).trans htail

mutual

/-- **A value is its canonical form, up to order.** -/
theorem upToOrder_canonicalize : ∀ {value : Json}, Distinct value →
    UpToOrder value value.canonicalize
  | .null, _ => .refl _
  | .bool _, _ => .refl _
  | .number _, _ => .refl _
  | .string _, _ => .refl _
  | .array _, h => by
      rw [Distinct] at h
      rw [canonicalize]
      exact upToOrder_array [] (forall₂_canonicalizeValues h)
  | .object members, h => by
      rw [Distinct] at h
      have hnames : ((canonicalizeMembers members).map Prod.fst).Nodup := by
        rw [map_fst_canonicalizeMembers]
        exact h.1
      rw [canonicalize]
      exact (upToOrder_object [] (forall₂_canonicalizeMembers h.2)).trans
        (.permute (SortedMap.toList_ofList_perm hnames).symm)

/-- Each value is the one it was, up to the order of members. -/
theorem forall₂_canonicalizeValues : ∀ {values : List Json}, DistinctValues values →
    List.Forall₂ UpToOrder values (canonicalizeValues values)
  | [], _ => .nil
  | _ :: _, ⟨h, h'⟩ => .cons (upToOrder_canonicalize h) (forall₂_canonicalizeValues h')

/-- Each member keeps its name, and its value is the one it was up to order. -/
theorem forall₂_canonicalizeMembers : ∀ {members : List (String × Json)},
    DistinctMembers members →
      List.Forall₂ (SortedMap.EntryRel UpToOrder) members (canonicalizeMembers members)
  | [], _ => .nil
  | (_, _) :: _, ⟨h, h'⟩ => .cons ⟨rfl, upToOrder_canonicalize h⟩ (forall₂_canonicalizeMembers h')

end

/-- A value in order has no name twice either. -/
theorem Distinct.canonicalize {value : Json} (h : Distinct value) : Distinct value.canonicalize :=
  (upToOrder_canonicalize h).canonicalize_eq.1.1 h

/-- **Values with distinct names are equal up to order exactly if their canonical forms are
equal.** -/
theorem canonicalize_eq_iff {v w : Json} (hv : Distinct v) (hw : Distinct w) :
    v.canonicalize = w.canonicalize ↔ UpToOrder v w := by
  refine ⟨fun h => ?_, fun h => h.canonicalize_eq.2 hv⟩
  have hcanonical := upToOrder_canonicalize hv
  rw [h] at hcanonical
  exact hcanonical.trans (upToOrder_canonicalize hw).symm

/-- **A text belongs to one value**, its members in order. -/
theorem render_injective {v w : Json} (hv : WellFormed v) (hw : WellFormed w)
    (h : render v = render w) : v = w := by
  have hread := read_render hv
  rw [h, read_render hw] at hread
  exact (Option.some.inj hread).symm

/-- **The canonical text decides equality up to order.** -/
theorem render_canonicalize_eq_iff {v w : Json} (hv : WellFormed v) (hw : WellFormed w)
    (hv' : Distinct v) (hw' : Distinct w) :
    render v.canonicalize = render w.canonicalize ↔ UpToOrder v w := by
  rw [← canonicalize_eq_iff hv' hw']
  exact ⟨render_injective hv.canonicalize hw.canonicalize, fun h => by rw [h]⟩

end Json

end Cerbero
