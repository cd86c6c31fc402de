import Mathlib.Data.List.Chain
import Cerbero.Lib.Keyset

/-!
# Lib/KeysetGrowth — pages of a list that grows

A reader follows pages of a list while rows are added to it, before and after the key it has come
to.  Its pages are in order (`pairwise_follow`), so no row is in two of them, and once a page is
the last one they have every row that was there at the start (**`exists_mem_follow`**).  Each
page that is not the last has a row, so the last one comes (`length_le_follow`).
-/

namespace Cerbero

namespace Keyset

variable {α κ : Type} [LinearOrder κ] (key : α → κ)

/-! ## One page -/

/-- The rows after a key, in order. -/
def rowsAfter (last : Option κ) (rows : List α) : List α :=
  (orderBy key rows).filter fun row => last.all fun k => decide (k < key row)

/-- Each row is still there, by its key. -/
def Grows (rows rows' : List α) : Prop := ∀ row ∈ rows, ∃ row' ∈ rows', key row' = key row

/-- **Following pages**: the rows, and whether a page was the last one.  A request finds the list as
it is then, and asks for a number of rows. -/
def follow : Option κ → List (List α × ℕ) → List α × Bool
  | _, [] => ([], false)
  | last, (rows, limit) :: requests =>
    let found := rowsAfter key last rows
    if limit < found.length then
      let rest := follow ((found.take limit).getLast?.map key) requests
      (found.take limit ++ rest.1, rest.2)
    else (found, true)

variable {key} {last : Option κ} {rows : List α} {limit : ℕ} {requests : List (List α × ℕ)}

theorem mem_rowsAfter {row : α} :
    row ∈ rowsAfter key last rows ↔ row ∈ rows ∧ ∀ k ∈ last, k < key row := by
  rw [rowsAfter, List.mem_filter, (orderBy_perm key rows).mem_iff, Option.all_eq_true]
  simp only [decide_eq_true_eq, Option.mem_def]

theorem pairwise_rowsAfter (last : Option κ) (h : (rows.map key).Nodup) :
    (rowsAfter key last rows).Pairwise fun a b => key a < key b :=
  (pairwise_orderBy h).filter _

/-- A page that is not the last has a last row. -/
theorem exists_getLast (hpos : 0 < limit) (hmore : limit < (rowsAfter key last rows).length) :
    ∃ row, ((rowsAfter key last rows).take limit).getLast? = some row := by
  have hne : (rowsAfter key last rows).take limit ≠ [] := by
    refine List.ne_nil_of_length_pos ?_
    rw [List.length_take]
    omega
  exact ⟨_, List.getLast?_eq_some_getLast hne⟩

/-- The rows of a page come up to its last row. -/
theorem le_getLast (h : (rows.map key).Nodup) {row : α}
    (hlast : ((rowsAfter key last rows).take limit).getLast? = some row) :
    ∀ other ∈ (rowsAfter key last rows).take limit, key other ≤ key row := by
  obtain ⟨front, hfront⟩ := List.getLast?_eq_some_iff.1 hlast
  have hpairwise := (pairwise_rowsAfter last h).sublist
    (List.take_sublist limit (rowsAfter key last rows))
  rw [hfront] at hpairwise ⊢
  intro other hother
  rw [List.mem_append, List.mem_singleton] at hother
  obtain hother | rfl := hother
  · exact le_of_lt ((List.pairwise_append.1 hpairwise).2.2 other hother row (by simp))
  · exact le_rfl

/-- The rows that a page leaves come after its last row. -/
theorem getLast_lt (h : (rows.map key).Nodup) {row : α}
    (hlast : ((rowsAfter key last rows).take limit).getLast? = some row) :
    ∀ other ∈ (rowsAfter key last rows).drop limit, key row < key other := by
  have hpairwise := pairwise_rowsAfter last h
  rw [← List.take_append_drop limit (rowsAfter key last rows)] at hpairwise
  exact fun other hother =>
    (List.pairwise_append.1 hpairwise).2.2 row (List.mem_of_getLast? hlast) other hother

/-! ## Whole runs -/

theorem follow_of_le (h : (rowsAfter key last rows).length ≤ limit) :
    follow key last ((rows, limit) :: requests) = (rowsAfter key last rows, true) :=
  if_neg (not_lt.2 h)

/-- The next page starts after the last row of the one before. -/
theorem exists_follow_eq (requests : List (List α × ℕ)) (hpos : 0 < limit)
    (hmore : limit < (rowsAfter key last rows).length) :
    ∃ row, ((rowsAfter key last rows).take limit).getLast? = some row ∧
      follow key last ((rows, limit) :: requests) =
        ((rowsAfter key last rows).take limit ++ (follow key (some (key row)) requests).1,
          (follow key (some (key row)) requests).2) := by
  obtain ⟨row, hlast⟩ := exists_getLast hpos hmore
  refine ⟨row, hlast, ?_⟩
  rw [follow, if_pos hmore, hlast, Option.map_some]

/-- What holds of requests that find rows with different keys, and ask for some. -/
def Proper (key : α → κ) (requests : List (List α × ℕ)) : Prop :=
  ∀ request ∈ requests, (request.1.map key).Nodup ∧ 0 < request.2

theorem exists_mem_of_mem_follow : ∀ {requests : List (List α × ℕ)} {last : Option κ},
    Proper key requests → ∀ row ∈ (follow key last requests).1,
      (∃ request ∈ requests, row ∈ request.1) ∧ ∀ k ∈ last, k < key row
  | [], _, _, row, h => nomatch h
  | (rows, limit) :: requests, last, hproper, row, h => by
      obtain ⟨⟨hnodup, hpos⟩, hrest⟩ := List.forall_mem_cons.1 hproper
      have hpage : row ∈ rowsAfter key last rows →
          (∃ request ∈ (rows, limit) :: requests, row ∈ request.1) ∧ ∀ k ∈ last, k < key row :=
        fun hrow => ⟨⟨_, List.mem_cons_self, (mem_rowsAfter.1 hrow).1⟩, (mem_rowsAfter.1 hrow).2⟩
      obtain hmore | hle := lt_or_ge limit (rowsAfter key last rows).length
      · obtain ⟨final, hfinal, hfollow⟩ := exists_follow_eq requests hpos hmore
        rw [hfollow, List.mem_append] at h
        obtain h | h := h
        · exact hpage (List.mem_of_mem_take h)
        · obtain ⟨⟨request, hrequest, hrow⟩, hafter⟩ := exists_mem_of_mem_follow hrest row h
          have hmem := (mem_rowsAfter.1 (List.mem_of_mem_take (List.mem_of_getLast? hfinal))).2
          exact ⟨⟨request, List.mem_cons_of_mem _ hrequest, hrow⟩,
            fun k hk => (hmem k hk).trans (hafter _ rfl)⟩
      · rw [follow_of_le hle] at h
        exact hpage h

/-- **The rows of a run are in order**, so none is there twice. -/
theorem pairwise_follow : ∀ {requests : List (List α × ℕ)} {last : Option κ}, Proper key requests →
    (follow key last requests).1.Pairwise fun a b => key a < key b
  | [], _, _ => List.Pairwise.nil
  | (rows, limit) :: requests, last, hproper => by
      obtain ⟨⟨hnodup, hpos⟩, hrest⟩ := List.forall_mem_cons.1 hproper
      obtain hmore | hle := lt_or_ge limit (rowsAfter key last rows).length
      · obtain ⟨final, hfinal, hfollow⟩ := exists_follow_eq requests hpos hmore
        rw [hfollow]
        refine List.pairwise_append.2 ⟨(pairwise_rowsAfter last hnodup).sublist (List.take_sublist _ _),
          pairwise_follow hrest, fun row hrow other hother => ?_⟩
        have hle := le_getLast hnodup hfinal row hrow
        exact hle.trans_lt ((exists_mem_of_mem_follow hrest other hother).2 _ rfl)
      · rw [follow_of_le hle]
        exact pairwise_rowsAfter last hnodup

theorem nodup_follow (h : Proper key requests) : ((follow key last requests).1.map key).Nodup :=
  List.pairwise_map.2 ((pairwise_follow h).imp ne_of_lt)

/-- **A finished run has every row that was there at the start.** -/
theorem exists_mem_follow : ∀ {requests : List (List α × ℕ)} {last : Option κ} {rows : List α},
    Proper key requests → List.IsChain (Grows key) (rows :: requests.map Prod.fst) →
    (follow key last requests).2 = true → ∀ row ∈ rows, (∀ k ∈ last, k < key row) →
      ∃ row' ∈ (follow key last requests).1, key row' = key row
  | [], _, _, _, _, hdone, _, _, _ => nomatch hdone
  | (rows', limit) :: requests, last, rows, hproper, hchain, hdone, row, hrow, hafter => by
      obtain ⟨⟨hnodup, hpos⟩, hrest⟩ := List.forall_mem_cons.1 hproper
      rw [List.map_cons, List.isChain_cons_cons] at hchain
      obtain ⟨row', hrow', hkey⟩ := hchain.1 row hrow
      have hfound : row' ∈ rowsAfter key last rows' :=
        mem_rowsAfter.2 ⟨hrow', fun k hk => hkey ▸ hafter k hk⟩
      obtain hmore | hle := lt_or_ge limit (rowsAfter key last rows').length
      · obtain ⟨final, hfinal, hfollow⟩ := exists_follow_eq requests hpos hmore
        rw [hfollow] at hdone ⊢
        rw [← List.take_append_drop limit (rowsAfter key last rows'), List.mem_append] at hfound
        obtain hfound | hfound := hfound
        · exact ⟨row', List.mem_append_left _ hfound, hkey⟩
        · have hlt := getLast_lt hnodup hfinal row' hfound
          obtain ⟨other, hother, hother'⟩ := exists_mem_follow hrest hchain.2 hdone row' hrow'
            fun k hk => Option.some.inj hk ▸ hlt
          exact ⟨other, List.mem_append_right _ hother, hother'.trans hkey⟩
      · rw [follow_of_le hle]
        exact ⟨row', hfound, hkey⟩

/-- **A run that is not finished has a row for each page.** -/
theorem length_le_follow : ∀ {requests : List (List α × ℕ)} {last : Option κ}, Proper key requests →
    (follow key last requests).2 = false → requests.length ≤ (follow key last requests).1.length
  | [], _, _, _ => Nat.zero_le _
  | (rows, limit) :: requests, last, hproper, h => by
      obtain ⟨⟨hnodup, hpos⟩, hrest⟩ := List.forall_mem_cons.1 hproper
      obtain hmore | hle := lt_or_ge limit (rowsAfter key last rows).length
      · obtain ⟨final, hfinal, hfollow⟩ := exists_follow_eq requests hpos hmore
        rw [hfollow] at h ⊢
        have hlength := length_le_follow hrest h
        rw [List.length_cons, List.length_append, List.length_take, min_eq_left hmore.le]
        omega
      · rw [follow_of_le hle] at h
        exact nomatch h

omit [LinearOrder κ] in
/-- In a chain of lists that grow, each grows to the last. -/
theorem grows_getLast : ∀ {tables : List (List α)} {final : List α},
    List.IsChain (Grows key) tables → tables.getLast? = some final →
      ∀ rows ∈ tables, Grows key rows final
  | [table], final, _, hlast, rows, hrows => by
      obtain rfl := Option.some.inj hlast
      obtain rfl := List.mem_singleton.1 hrows
      exact fun row hrow => ⟨row, hrow, rfl⟩
  | table :: next :: tables, final, hchain, hlast, rows, hrows => by
      rw [List.getLast?_cons_cons] at hlast
      obtain ⟨hfirst, hrest⟩ := List.isChain_cons_cons.1 hchain
      have hfinal := grows_getLast hrest hlast
      obtain rfl | hrows := List.mem_cons.1 hrows
      · intro row hrow
        obtain ⟨row', hrow', hkey⟩ := hfirst row hrow
        obtain ⟨row'', hrow'', hkey'⟩ := hfinal next List.mem_cons_self row' hrow'
        exact ⟨row'', hrow'', hkey'.trans hkey⟩
      · exact hfinal rows hrows

/-- **A run ends** before it has more pages than the list has rows. -/
theorem follow_done {final : List α} (hproper : Proper key requests)
    (hchain : List.IsChain (Grows key) (requests.map Prod.fst))
    (hfinal : (requests.map Prod.fst).getLast? = some final) (hlength : final.length < requests.length) :
    (follow key last requests).2 = true := by
  by_contra hdone
  have hsubset : (follow key last requests).1.map key ⊆ final.map key := by
    intro k hk
    obtain ⟨row, hrow, rfl⟩ := List.mem_map.1 hk
    obtain ⟨⟨request, hrequest, hmem⟩, -⟩ := exists_mem_of_mem_follow hproper row hrow
    obtain ⟨row', hrow', hkey⟩ :=
      grows_getLast hchain hfinal request.1 (List.mem_map_of_mem hrequest) row hmem
    exact hkey ▸ List.mem_map_of_mem hrow'
  have hle := (nodup_follow hproper).length_le_of_subset hsubset
  have hpages := length_le_follow hproper (Bool.eq_false_iff.2 hdone)
  rw [List.length_map, List.length_map] at hle
  omega

end Keyset

end Cerbero
