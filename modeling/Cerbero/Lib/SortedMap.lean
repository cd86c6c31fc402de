import Mathlib.Order.Defs.LinearOrder
import Mathlib.Data.List.Basic
import Mathlib.Data.List.Nodup
import Mathlib.Order.Basic
import Mathlib.Data.Prod.Lex

/-!
# Lib/SortedMap — finite maps that iterate in key order

A `SortedMap κ ν` is a list of entries whose keys increase strictly: one entry per key, visited in
key order.  It stands for an ordered tree map and for a table with a primary key alike.  Everything
a caller needs is in three facts: `get?_alter` says what an update does to every lookup,
`mem_toList` says that iteration visits exactly the lookups, and `ext_get?` says that a map is its
lookups.
-/

namespace Cerbero

/-- **A finite map, kept in key order.** -/
structure SortedMap (κ ν : Type*) [LinearOrder κ] where
  toList : List (κ × ν)
  sorted : toList.Pairwise fun a b => a.1 < b.1

namespace SortedMap

variable {κ ν : Type*} [LinearOrder κ]

instance [DecidableEq ν] : DecidableEq (SortedMap κ ν) := fun m m' =>
  decidable_of_iff (m.toList = m'.toList)
    ⟨fun h => by cases m; cases m'; cases h; rfl, fun h => by rw [h]⟩

/-- The map with no entry. -/
def empty : SortedMap κ ν := ⟨[], List.Pairwise.nil⟩

instance : Inhabited (SortedMap κ ν) := ⟨empty⟩

/-- The value of the entry with key `k`. -/
def find (k : κ) : List (κ × ν) → Option ν
  | [] => none
  | (a, v) :: l => if a = k then some v else find k l

/-- The value stored under a key. -/
def get? (m : SortedMap κ ν) (k : κ) : Option ν := find k m.toList

/-- The list of entries after the value at `k` went through `f`. -/
def alterList (k : κ) (f : Option ν → Option ν) : List (κ × ν) → List (κ × ν)
  | [] => ((f none).map (k, ·)).toList
  | (a, v) :: l =>
    if k < a then ((f none).map (k, ·)).toList ++ (a, v) :: l
    else if k = a then ((f (some v)).map (k, ·)).toList ++ l
    else (a, v) :: alterList k f l

/-- An entry of the altered list is the altered one or an old one. -/
theorem key_mem_alterList {k : κ} {f : Option ν → Option ν} {p : κ × ν} :
    ∀ {l : List (κ × ν)}, p ∈ alterList k f l → p.1 = k ∨ p ∈ l
  | [], h => by
      obtain ⟨v, -, rfl⟩ := Option.map_eq_some_iff.1 (Option.mem_toList.1 h)
      exact Or.inl rfl
  | (a, v) :: l, h => by
      have hnew : ∀ o : Option ν, p ∈ (o.map (k, ·)).toList → p.1 = k := by
        intro o ho
        obtain ⟨w, -, rfl⟩ := Option.map_eq_some_iff.1 (Option.mem_toList.1 ho)
        rfl
      rw [alterList] at h
      split_ifs at h with h1 h2
      · exact (List.mem_append.1 h).imp (hnew _) id
      · exact (List.mem_append.1 h).imp (hnew _) (List.mem_cons_of_mem _)
      · rcases List.mem_cons.1 h with rfl | h
        · exact Or.inr List.mem_cons_self
        · exact (key_mem_alterList h).imp id (List.mem_cons_of_mem _)

theorem pairwise_toList_append {k : κ} {l : List (κ × ν)} (o : Option ν)
    (hl : l.Pairwise fun a b => a.1 < b.1) (hk : ∀ p ∈ l, k < p.1) :
    ((o.map (k, ·)).toList ++ l).Pairwise fun a b => a.1 < b.1 := by
  cases o with
  | none => simpa using hl
  | some v => simpa using ⟨fun a b hab => hk (a, b) hab, hl⟩

theorem pairwise_alterList (k : κ) (f : Option ν → Option ν) :
    ∀ {l : List (κ × ν)}, l.Pairwise (fun a b => a.1 < b.1) →
      (alterList k f l).Pairwise fun a b => a.1 < b.1
  | [], _ => by
      cases h : f none <;> simp [alterList, h]
  | (a, v) :: l, h => by
      obtain ⟨ha, hl⟩ := List.pairwise_cons.1 h
      rw [alterList]
      split_ifs with h1 h2
      · refine pairwise_toList_append _ h fun p hp => ?_
        rcases List.mem_cons.1 hp with rfl | hp
        · exact h1
        · exact h1.trans (ha p hp)
      · subst h2
        exact pairwise_toList_append _ hl ha
      · refine List.pairwise_cons.2 ⟨fun p hp => ?_, pairwise_alterList k f hl⟩
        rcases key_mem_alterList hp with hk | hp
        · rw [hk]
          exact lt_of_le_of_ne (not_lt.1 h1) (Ne.symm h2)
        · exact ha p hp

/-- **Update the value at one key**: `f` sees the present value and returns the new one. -/
def alter (m : SortedMap κ ν) (k : κ) (f : Option ν → Option ν) : SortedMap κ ν :=
  ⟨alterList k f m.toList, pairwise_alterList k f m.sorted⟩

/-- Store a value, replacing what was there. -/
def insert (m : SortedMap κ ν) (k : κ) (v : ν) : SortedMap κ ν := m.alter k fun _ => some v

/-- Apply a function to every value. -/
def mapVal {ν' : Type*} (g : ν → ν') (m : SortedMap κ ν) : SortedMap κ ν' :=
  ⟨m.toList.map fun p => (p.1, g p.2), by simpa [List.pairwise_map] using m.sorted⟩

/-! ## Lookups -/

@[simp] theorem get?_empty (k : κ) : (empty : SortedMap κ ν).get? k = none := rfl

theorem find_eq_none_of_lt {k : κ} {l : List (κ × ν)} (h : ∀ p ∈ l, k < p.1) :
    find k l = none := by
  induction l with
  | nil => rfl
  | cons p l ih =>
    rw [find, if_neg (h p List.mem_cons_self).ne', ih fun q hq => h q (List.mem_cons_of_mem _ hq)]

theorem find_toList_append_self {k : κ} {l : List (κ × ν)} (o : Option ν)
    (h : ∀ p ∈ l, k < p.1) : find k ((o.map (k, ·)).toList ++ l) = o := by
  cases o with
  | none => simpa using find_eq_none_of_lt h
  | some v => simp [find]

theorem find_toList_append_ne {k k' : κ} (hk : k' ≠ k) (o : Option ν) (l : List (κ × ν)) :
    find k' ((o.map (k, ·)).toList ++ l) = find k' l := by
  cases o <;> simp [find, hk.symm]

theorem find_alterList_self (k : κ) (f : Option ν → Option ν) :
    ∀ {l : List (κ × ν)}, l.Pairwise (fun a b => a.1 < b.1) →
      find k (alterList k f l) = f (find k l)
  | [], _ => by
      cases h : f none <;> simp [alterList, find, h]
  | (a, v) :: l, h => by
      obtain ⟨ha, hl⟩ := List.pairwise_cons.1 h
      rw [alterList]
      split_ifs with h1 h2
      · have hlt : ∀ p ∈ (a, v) :: l, k < p.1 := by
          intro p hp
          rcases List.mem_cons.1 hp with rfl | hp
          · exact h1
          · exact h1.trans (ha p hp)
        rw [find_toList_append_self _ hlt, find_eq_none_of_lt hlt]
      · subst h2
        rw [find_toList_append_self _ ha, find, if_pos rfl]
      · rw [find, if_neg (Ne.symm h2), find_alterList_self k f hl, find, if_neg (Ne.symm h2)]

theorem find_alterList_ne {k k' : κ} (hk : k' ≠ k) (f : Option ν → Option ν) :
    ∀ l : List (κ × ν), find k' (alterList k f l) = find k' l
  | [] => by simpa [alterList] using find_toList_append_ne hk (f none) []
  | (a, v) :: l => by
      rw [alterList]
      split_ifs with h1 h2
      · exact find_toList_append_ne hk _ _
      · subst h2
        rw [find_toList_append_ne hk, find, if_neg hk.symm]
      · rw [find, find, find_alterList_ne hk f l]

/-- **An update changes the lookup at its own key and no other.** -/
theorem get?_alter (m : SortedMap κ ν) (k k' : κ) (f : Option ν → Option ν) :
    (m.alter k f).get? k' = if k' = k then f (m.get? k) else m.get? k' := by
  split_ifs with h
  · subst h
    exact find_alterList_self k' f m.sorted
  · exact find_alterList_ne h f m.toList

theorem get?_insert (m : SortedMap κ ν) (k k' : κ) (v : ν) :
    (m.insert k v).get? k' = if k' = k then some v else m.get? k' := get?_alter m k k' _

@[simp] theorem get?_insert_self (m : SortedMap κ ν) (k : κ) (v : ν) :
    (m.insert k v).get? k = some v := by rw [get?_insert, if_pos rfl]

theorem get?_insert_ne (m : SortedMap κ ν) {k k' : κ} (h : k' ≠ k) (v : ν) :
    (m.insert k v).get? k' = m.get? k' := by rw [get?_insert, if_neg h]

@[simp] theorem get?_mapVal {ν' : Type*} (g : ν → ν') (m : SortedMap κ ν) (k : κ) :
    (m.mapVal g).get? k = (m.get? k).map g := by
  have key : ∀ l : List (κ × ν), find k (l.map fun p => (p.1, g p.2)) = (find k l).map g := by
    intro l
    induction l with
    | nil => rfl
    | cons p l ih => rw [List.map_cons, find, find, ih, apply_ite (Option.map g)]; rfl
  exact key m.toList

/-! ## Iteration -/

theorem mem_of_find_eq_some {k : κ} {v : ν} :
    ∀ {l : List (κ × ν)}, find k l = some v → (k, v) ∈ l
  | (a, w) :: l, h => by
      rw [find] at h
      split_ifs at h with hk
      · subst hk
        rw [Option.some.inj h]
        exact List.mem_cons_self
      · exact List.mem_cons_of_mem _ (mem_of_find_eq_some h)

theorem find_eq_some_of_mem {k : κ} {v : ν} :
    ∀ {l : List (κ × ν)}, l.Pairwise (fun a b => a.1 < b.1) → (k, v) ∈ l → find k l = some v
  | (a, w) :: l, hl, h => by
      obtain ⟨ha, hl⟩ := List.pairwise_cons.1 hl
      rcases List.mem_cons.1 h with heq | h
      · obtain ⟨rfl, rfl⟩ := Prod.mk.inj heq
        rw [find, if_pos rfl]
      · rw [find, if_neg (ha _ h).ne, find_eq_some_of_mem hl h]

/-- **Iteration visits exactly the lookups.** -/
theorem mem_toList {m : SortedMap κ ν} {k : κ} {v : ν} :
    (k, v) ∈ m.toList ↔ m.get? k = some v :=
  ⟨find_eq_some_of_mem m.sorted, mem_of_find_eq_some⟩

/-- No key is visited twice. -/
theorem nodup_keys (m : SortedMap κ ν) : (m.toList.map Prod.fst).Nodup :=
  List.pairwise_map.2 (m.sorted.imp fun h => h.ne)

/-- Two strictly sorted lists with the same members are equal. -/
theorem eq_of_sorted_of_mem_iff : ∀ {l l' : List (κ × ν)},
    l.Pairwise (fun a b => a.1 < b.1) → l'.Pairwise (fun a b => a.1 < b.1) →
      (∀ p, p ∈ l ↔ p ∈ l') → l = l'
  | [], [], _, _, _ => rfl
  | [], q :: l', _, _, h => absurd ((h q).2 List.mem_cons_self) (by simp)
  | p :: l, [], _, _, h => absurd ((h p).1 List.mem_cons_self) (by simp)
  | p :: l, q :: l', hpl, hql, h => by
      obtain ⟨hp, hl⟩ := List.pairwise_cons.1 hpl
      obtain ⟨hq, hl'⟩ := List.pairwise_cons.1 hql
      have hpq : p = q := by
        rcases List.mem_cons.1 ((h p).1 List.mem_cons_self) with heq | hmem
        · exact heq
        · rcases List.mem_cons.1 ((h q).2 List.mem_cons_self) with heq | hmem'
          · exact heq.symm
          · exact absurd (hq p hmem) (lt_asymm (hp q hmem'))
      subst hpq
      refine congrArg (p :: ·) (eq_of_sorted_of_mem_iff hl hl' fun r => ?_)
      have hr := h r
      simp only [List.mem_cons] at hr
      constructor
      · intro hm
        rcases hr.1 (Or.inr hm) with rfl | hm'
        · exact absurd (hp _ hm) (lt_irrefl _)
        · exact hm'
      · intro hm
        rcases hr.2 (Or.inr hm) with rfl | hm'
        · exact absurd (hq _ hm) (lt_irrefl _)
        · exact hm'

/-- **A map is its lookups.** -/
theorem ext_get? {m m' : SortedMap κ ν} (h : ∀ k, m.get? k = m'.get? k) : m = m' := by
  have hlist : m.toList = m'.toList := by
    refine eq_of_sorted_of_mem_iff m.sorted m'.sorted fun p => ?_
    obtain ⟨k, v⟩ := p
    rw [mem_toList, mem_toList, h]
  cases m
  cases m'
  cases hlist
  rfl

/-! ## Maps from entries -/

/-- The map of a list of entries; the last value of a key counts. -/
def ofList (entries : List (κ × ν)) : SortedMap κ ν :=
  entries.foldl (fun m e => m.insert e.1 e.2) empty

theorem find_append (k : κ) : ∀ l l' : List (κ × ν),
    find k (l ++ l') = (find k l).or (find k l')
  | [], _ => rfl
  | (a, v) :: l, l' => by
      rw [List.cons_append, find, find, find_append k l l']
      split_ifs
      · rfl
      · rfl

/-- **The map of a list of entries holds the last value of each key.** -/
theorem get?_ofList (k : κ) (entries : List (κ × ν)) :
    (ofList entries).get? k = find k entries.reverse := by
  have hfold : ∀ m : SortedMap κ ν,
      (entries.foldl (fun m e => m.insert e.1 e.2) m).get? k =
        (find k entries.reverse).or (m.get? k) := by
    induction entries with
    | nil => exact fun _ => rfl
    | cons e entries ih =>
      intro m
      rw [List.foldl_cons, ih, List.reverse_cons, find_append, get?_insert, find, find]
      split_ifs with h h' h'
      · rw [Option.or_assoc]; rfl
      · exact absurd h.symm h'
      · exact absurd h'.symm h
      · rw [Option.or_none]
  rw [ofList, hfold, get?_empty, Option.or_none]

theorem find_eq_some_of_nodup {k : κ} {v : ν} : ∀ {l : List (κ × ν)},
    (l.map Prod.fst).Nodup → (k, v) ∈ l → find k l = some v
  | (a, w) :: l, hl, h => by
      obtain ⟨ha, hl⟩ := List.nodup_cons.1 hl
      rcases List.mem_cons.1 h with heq | h
      · obtain ⟨rfl, rfl⟩ := Prod.mk.inj heq
        rw [find, if_pos rfl]
      · have hne : a ≠ k := by
          rintro rfl
          exact ha (List.mem_map.2 ⟨_, h, rfl⟩)
        rw [find, if_neg hne, find_eq_some_of_nodup hl h]

/-- **A map is the map of its entries.** -/
@[simp] theorem ofList_toList (m : SortedMap κ ν) : ofList m.toList = m :=
  ext_get? fun k => Option.ext fun v => by
    have hnodup : (m.toList.reverse.map Prod.fst).Nodup := by
      rw [List.map_reverse]
      exact List.pairwise_reverse.2 (m.nodup_keys.imp Ne.symm)
    rw [get?_ofList, ← mem_toList, ← List.mem_reverse]
    exact ⟨mem_of_find_eq_some, find_eq_some_of_nodup hnodup⟩

theorem mem_of_mem_ofList {e : κ × ν} {entries : List (κ × ν)}
    (h : e ∈ (ofList entries).toList) : e ∈ entries := by
  rw [mem_toList, get?_ofList] at h
  exact List.mem_reverse.1 (mem_of_find_eq_some h)

/-- The entries of a list without a repeated key are those of its map. -/
theorem mem_ofList_iff {e : κ × ν} {entries : List (κ × ν)}
    (h : (entries.map Prod.fst).Nodup) : e ∈ (ofList entries).toList ↔ e ∈ entries := by
  refine ⟨mem_of_mem_ofList, fun he => ?_⟩
  have hreverse : (entries.reverse.map Prod.fst).Nodup := by
    rw [List.map_reverse]
    exact List.nodup_reverse.2 h
  rw [mem_toList, get?_ofList]
  exact find_eq_some_of_nodup hreverse (List.mem_reverse.2 he)

theorem toList_ofList_perm {entries : List (κ × ν)} (h : (entries.map Prod.fst).Nodup) :
    (ofList entries).toList.Perm entries := by
  have hnodup : ((ofList entries).toList).Nodup := List.Nodup.of_map _ (nodup_keys _)
  exact (List.perm_ext_iff_of_nodup hnodup (List.Nodup.of_map _ h)).2 fun _ => mem_ofList_iff h

/-- **A map does not depend on the order its entries come in.** -/
theorem ofList_perm {l l' : List (κ × ν)} (h : (l.map Prod.fst).Nodup) (hperm : l.Perm l') :
    ofList l = ofList l' := by
  have h' : (l'.map Prod.fst).Nodup := (hperm.map Prod.fst).nodup_iff.1 h
  have hlist : (ofList l).toList = (ofList l').toList :=
    eq_of_sorted_of_mem_iff (ofList l).sorted (ofList l').sorted fun _ =>
      (mem_ofList_iff h).trans (hperm.mem_iff.trans (mem_ofList_iff h').symm)
  rw [← ofList_toList (ofList l), hlist, ofList_toList]

/-- Entries with one key and related values. -/
def EntryRel {ν' : Type*} (r : ν → ν' → Prop) (e : κ × ν) (e' : κ × ν') : Prop :=
  e.1 = e'.1 ∧ r e.2 e'.2

section

variable {ν' : Type*} {r : ν → ν' → Prop} {k : κ} {v : ν} {v' : ν'}

theorem forall₂_alterList (hv : r v v') {l : List (κ × ν)} {l' : List (κ × ν')}
    (h : List.Forall₂ (EntryRel r) l l') :
    List.Forall₂ (EntryRel r) (alterList k (fun _ => some v) l)
      (alterList k (fun _ => some v') l') := by
  have hnew : EntryRel r (k, v) (k, v') := ⟨rfl, hv⟩
  induction h with
  | nil => exact .cons hnew .nil
  | @cons e e' l l' he h ih =>
    obtain ⟨a, w⟩ := e
    obtain ⟨a', w'⟩ := e'
    obtain rfl : a = a' := he.1
    rw [alterList, alterList]
    split_ifs with hlt heq
    · exact .cons hnew (.cons he h)
    · exact .cons hnew h
    · exact .cons he ih

/-- **Related entries make related maps.** -/
theorem forall₂_ofList {l : List (κ × ν)} {l' : List (κ × ν')}
    (h : List.Forall₂ (EntryRel r) l l') :
    List.Forall₂ (EntryRel r) (ofList l).toList (ofList l').toList := by
  have hfold : ∀ (m : SortedMap κ ν) (m' : SortedMap κ ν'),
      List.Forall₂ (EntryRel r) m.toList m'.toList →
        List.Forall₂ (EntryRel r) (l.foldl (fun m e => m.insert e.1 e.2) m).toList
          (l'.foldl (fun m e => m.insert e.1 e.2) m').toList := by
    induction h with
    | nil => exact fun _ _ hm => hm
    | @cons e e' l l' he h ih =>
      intro m m' hm
      refine ih _ _ ?_
      obtain ⟨a, w⟩ := e
      obtain ⟨a', w'⟩ := e'
      obtain ⟨rfl, hval⟩ : a = a' ∧ r w w' := he
      exact forall₂_alterList hval hm
  exact hfold empty empty .nil

end

/-- The entries of which `p` holds. -/
def filter (p : κ → ν → Bool) (m : SortedMap κ ν) : SortedMap κ ν :=
  ⟨m.toList.filter fun e => p e.1 e.2, m.sorted.filter _⟩

@[simp] theorem toList_filter (p : κ → ν → Bool) (m : SortedMap κ ν) :
    (m.filter p).toList = m.toList.filter fun e => p e.1 e.2 := rfl

@[simp] theorem filter_empty (p : κ → ν → Bool) : (empty : SortedMap κ ν).filter p = empty := rfl

theorem get?_filter (p : κ → ν → Bool) (m : SortedMap κ ν) (k : κ) :
    (m.filter p).get? k = (m.get? k).filter (p k) := by
  refine Option.ext fun v => ?_
  rw [← mem_toList, Option.filter_eq_some_iff, toList_filter, List.mem_filter, mem_toList]

/-! ## Grouped values -/

/-- A pair key is its two components. -/
theorem eq_toLex_iff {α β : Type*} {k : α ×ₗ β} {a : α} {b : β} :
    k = toLex (a, b) ↔ a = (ofLex k).1 ∧ b = (ofLex k).2 := by
  rw [← ofLex_inj, ofLex_toLex, Prod.ext_iff, eq_comm, @eq_comm _ (ofLex k).2]

/-- The values of a group; an absent group has none. -/
def members (m : SortedMap κ (List ν)) (k : κ) : List ν := (m.get? k).getD []

/-- Add a value to a group, at its end. -/
def push (m : SortedMap κ (List ν)) (k : κ) (v : ν) : SortedMap κ (List ν) :=
  m.alter k fun vs => some (vs.getD [] ++ [v])

theorem members_of_get? {m : SortedMap κ (List ν)} {k : κ} {vs : List ν} (h : m.get? k = some vs) :
    m.members k = vs := by
  rw [members, h]
  rfl

theorem members_push (m : SortedMap κ (List ν)) (k k' : κ) (v : ν) :
    (m.push k v).members k' = if k' = k then m.members k ++ [v] else m.members k' := by
  rw [members, push, get?_alter]
  split_ifs <;> rfl

/-- **A push adds one value to one group.** -/
theorem mem_members_push {m : SortedMap κ (List ν)} {k k' : κ} {v w : ν} :
    w ∈ (m.push k v).members k' ↔ w ∈ m.members k' ∨ (k' = k ∧ w = v) := by
  rw [members_push]
  split_ifs with h
  · subst h
    simp
  · simp [h]

/-- Groups that were made by pushes are not empty. -/
theorem get?_push_ne_nil {m : SortedMap κ (List ν)} {k k' : κ} {v : ν}
    (h : m.get? k' ≠ some []) : (m.push k v).get? k' ≠ some [] := by
  rw [push, get?_alter]
  split_ifs with hk
  · simp
  · exact h

/-- A push to a group that is kept. -/
theorem filter_push (p : κ → Bool) (m : SortedMap κ (List ν)) {k : κ} (v : ν) (hk : p k = true) :
    (m.push k v).filter (fun k _ => p k) = (m.filter fun k _ => p k).push k v := by
  refine ext_get? fun k' => ?_
  rw [get?_filter, push, push, get?_alter, get?_alter, get?_filter, get?_filter]
  split_ifs with h
  · subst h
    cases m.get? k' <;> simp [hk, Option.filter]
  · rfl

/-- A push to a group that is left out. -/
theorem filter_push_of_not (p : κ → Bool) (m : SortedMap κ (List ν)) {k : κ} (v : ν)
    (hk : p k = false) : (m.push k v).filter (fun k _ => p k) = m.filter fun k _ => p k := by
  refine ext_get? fun k' => ?_
  rw [get?_filter, push, get?_alter, get?_filter]
  split_ifs with h
  · subst h
    cases m.get? k' <;> simp [hk]
  · rfl

/-- A value with a new label keeps the labels of a group distinct. -/
theorem nodup_members_push {β : Type*} (label : ν → β) {m : SortedMap κ (List ν)} {k k' : κ}
    {v : ν} (h : ((m.members k').map label).Nodup) (hv : ∀ w ∈ m.members k', label w ≠ label v) :
    (((m.push k v).members k').map label).Nodup := by
  rw [members_push]
  split_ifs with hk
  · subst hk
    rw [List.map_append, List.nodup_append]
    refine ⟨h, by simp, fun b hb b' hb' => ?_⟩
    obtain ⟨w, hw, rfl⟩ := List.mem_map.1 hb
    rw [List.map_singleton, List.mem_singleton] at hb'
    rw [hb']
    exact hv w hw
  · exact h

end SortedMap

end Cerbero
