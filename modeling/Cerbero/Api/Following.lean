import Cerbero.Lib.Fallible
import Cerbero.Api.Lists

/-!
# Api/Following — lists that grow while they are read

A list is read page by page while rows are added and changed.  In the order of its identifiers it is
a list that grows, and a cursor is the key of a row of it (`page_eq`), so following `next_cursor`
to the last page returns every row that was there before once, in order (**`exists_follow_eq_ok`**).
-/

namespace Cerbero

namespace Api

open Text Keyset Operational
open Search (GoString atoi rawUrlEncoding)

/-! ## The rows of a list -/

section

variable (server : Server)

/-- The rows of a tenant as items of a list. -/
def Server.listed (store : Store) (tenantId : Uuid) : Listing → List (Item × Uuid)
  | .analytical kind => ((store.tableFor kind).kept tenantId fun _ => true).map fun row =>
      (.object ((server.payloadJson kind row.value).getD []), row.id)
  | .incidents => (store.incidents.kept tenantId fun _ => true).map fun row =>
      (.incident row.value, row.id)
  | .cases => (store.cases.kept tenantId fun _ => true).map fun row => (.caseFile row.value, row.id)
  | .audit objectType objectId =>
      (store.audit.kept tenantId (keepAudit objectType objectId)).map fun row =>
        (.audit row.value, row.id)

/-- What the code relies on: `uuid.Parse` reads the text of a UUID. -/
def Server.Reads : Prop := ∀ id : Uuid, server.uuidParse (bytes (canonicalText id)) = some id

/-- The stored payloads are those of signals and findings. -/
def Server.Renders (store : Store) : Prop :=
  ∀ kind, ∀ row ∈ (store.tableFor kind).rows, (server.payloadJson kind row.value).isSome

end

/-- A list that the API serves. -/
def Listing.Accepted : Listing → Prop
  | .audit objectType objectId => ¬ (objectId ≠ "" ∧ objectType = "")
  | _ => True

/-- **The tables grow**: no row is removed, and only incidents and cases are changed. -/
structure Store.Grows (store store' : Store) : Prop where
  signals : store.signals.rows ⊆ store'.signals.rows
  findings : store.findings.rows ⊆ store'.findings.rows
  audit : store.audit.rows ⊆ store'.audit.rows
  incidents : ∀ row ∈ store.incidents.rows, ∃ row' ∈ store'.incidents.rows,
    row'.id = row.id ∧ row'.tenantId = row.tenantId
  cases : ∀ row ∈ store.cases.rows, ∃ row' ∈ store'.cases.rows,
    row'.id = row.id ∧ row'.tenantId = row.tenantId

theorem Store.Grows.refl (store : Store) : store.Grows store where
  signals := List.Subset.refl _
  findings := List.Subset.refl _
  audit := List.Subset.refl _
  incidents := fun row hrow => ⟨row, hrow, rfl, rfl⟩
  cases := fun row hrow => ⟨row, hrow, rfl, rfl⟩

/-! ## One page -/

/-- The key a page starts after. -/
def lastOf (after : Uuid) : Option Uuid := if after = 0 then none else some after

theorem all_lastOf (after id : Uuid) :
    (lastOf after).all (fun k => decide (k < id)) = (after == 0 || decide (after < id)) := by
  rw [lastOf]
  split_ifs with h
  · simp [h]
  · simp [h]

section

variable {α : Type} {table : Table α} {tenantId : Uuid} {keep : α → Bool}

theorem nodup_kept : ((table.kept tenantId keep).map Row.id).Nodup :=
  table.primaryKey.sublist (List.filter_sublist.map Row.id)

/-- **The statement of a list selects the first rows after a key.** -/
theorem map_select {β : Type} {f : Row α → β × Uuid} (hf : ∀ row, (f row).2 = row.id) (limit : ℕ)
    (after : Uuid) : (table.select tenantId keep limit after).map f =
      (rowsAfter Prod.snd (lastOf after) ((table.kept tenantId keep).map f)).take limit := by
  have horder : ∀ rows : List (Row α), (orderBy Row.id rows).map f = orderBy Prod.snd (rows.map f) :=
    fun rows => List.map_mergeSort fun row _ other _ => by rw [hf, hf]
  have hkeys : (((table.kept tenantId keep).map f).map Prod.snd).Nodup := by
    rw [List.map_map, show Prod.snd ∘ f = Row.id from funext hf]
    exact nodup_kept
  rw [Table.select, List.map_take, horder, rowsAfter, ← orderBy_filter hkeys, List.filter_map]
  congr 4
  funext row
  rw [Function.comp_apply, hf, all_lastOf]

end

section

variable {β γ : Type}

/-- One row more than asked for is enough to know whether there are more. -/
theorem cutPage_take (rows : List (β × Uuid)) (limit : ℕ) :
    cutPage (rows.take (limit + 1)) limit = cutPage rows limit := by
  rw [cutPage, cutPage, List.length_take, List.take_take, min_eq_left (Nat.le_succ limit)]
  split_ifs with h h' h'
  · rfl
  · omega
  · omega
  · rw [List.take_of_length_le (by omega)]

theorem cutPage_subset (rows : List (β × Uuid)) (limit : ℕ) : (cutPage rows limit).1 ⊆ rows := by
  rw [cutPage]
  split_ifs
  · exact List.take_subset _ _
  · exact List.Subset.refl _

theorem cutPage_map {f : β × Uuid → γ × Uuid} (hf : ∀ row, (f row).2 = row.2)
    (rows : List (β × Uuid)) (limit : ℕ) :
    cutPage (rows.map f) limit = ((cutPage rows limit).1.map f, (cutPage rows limit).2) := by
  rw [cutPage, cutPage, List.length_map]
  split_ifs
  · rw [← List.map_take, List.getLast?_map, Option.map_map]
    simp only [Function.comp_def, hf]
  · rfl

end

/-! ## Cursors -/

section

variable {server : Server}

theorem encodeCursor_ne_nil (id : Uuid) : encodeCursor id ≠ [] := by
  intro h
  have hdecode := Base64.decode_encode rawUrlEncoding false (bytes (canonicalText id))
  rw [← encodeCursor, h] at hdecode
  have hhyphen : '-' ∈ (canonicalText id).toList := by
    rw [canonicalText, String.toList_ofList]
    simp
  have hmem := mem_bytes_of_mem (by decide) hhyphen
  rw [← Option.some.inj hdecode] at hmem
  exact List.not_mem_nil hmem

/-- **A cursor is read back.** -/
theorem decodeCursor_encodeCursor (hreads : server.Reads) (id : Uuid) :
    server.decodeCursor (encodeCursor id) = some id := by
  have hkeep : (encodeCursor id).filter (fun b => b ≠ 0x0a ∧ b ≠ 0x0d) = encodeCursor id :=
    List.filter_eq_self.2 fun b hmem => decide_eq_true (Search.encode_ne_lineBreak hmem)
  rw [Server.decodeCursor, if_neg (encodeCursor_ne_nil id), hkeep, encodeCursor,
    Base64.decode_encode]
  exact hreads id

/-! ## The handlers -/

variable {store : Store} {tenantId : Uuid} {limit cursor : GoString} {size : ℕ} {after : Uuid}

theorem listParams_eq_ok (hlimit : limitOf limit = .ok size)
    (hcursor : server.decodeCursor cursor = some after) :
    server.listParams limit cursor = .ok (size, after) := by
  rw [Server.listParams, hlimit, ok_bind, hcursor]
  rfl

theorem mapM_scan {α : Type} (hreads : server.Reads) (rows : List (Row α)) :
    rows.mapM server.scan = .ok (rows.map fun row => (row.value, row.id)) :=
  mapM_eq_ok fun row _ => by
    rw [Server.scan, hreads]
    rfl

/-- The items of a page, whatever is shown of a row. -/
theorem cutPage_select {α : Type} {table : Table α} {keep : α → Bool} (item : α → Item) :
    let rows := (table.select tenantId keep (size + 1) after).map fun row => (row.value, row.id)
    let found := rowsAfter Prod.snd (lastOf after)
      ((table.kept tenantId keep).map fun row => (item row.value, row.id))
    ((cutPage rows size).1.map (fun row => (item row.1, row.2)), (cutPage rows size).2) =
      cutPage found size := by
  intro rows found
  have hmap := @cutPage_map _ _ (fun row : α × Uuid => (item row.1, row.2)) (fun _ => rfl) rows size
  rw [← hmap, List.map_map]
  show cutPage ((table.select tenantId keep (size + 1) after).map fun row =>
    (item row.value, row.id)) size = _
  rw [map_select fun _ => rfl, cutPage_take]

/-- The payloads of a page are shown. -/
theorem mapM_payloadItem (hrenders : server.Renders store) (kind : AnalyticalKind) {limit : ℕ} :
    let rows := ((store.tableFor kind).select tenantId (fun _ => true) limit after).map
      fun row => (row.value, row.id)
    (cutPage rows size).1.mapM (server.payloadItem kind) = .ok ((cutPage rows size).1.map fun row =>
      (.object ((server.payloadJson kind row.1).getD []), row.2)) := by
  intro rows
  refine mapM_eq_ok fun row hrow => ?_
  obtain ⟨stored, hstored, rfl⟩ := List.mem_map.1 (cutPage_subset rows size hrow)
  have hmem := (orderBy_perm Row.id _).subset (List.mem_of_mem_take hstored)
  have hsome := hrenders kind stored (List.mem_of_mem_filter (List.mem_of_mem_filter hmem))
  obtain ⟨json, hjson⟩ := Option.isSome_iff_exists.1 hsome
  rw [Server.payloadItem, hjson]
  rfl

/-- **A page is the first rows of the list after its cursor**, with the cursor of the last of them if
there are more. -/
theorem page_eq (hreads : server.Reads) (hrenders : server.Renders store)
    (hlimit : limitOf limit = .ok size) (hcursor : server.decodeCursor cursor = some after) :
    ∀ {listing : Listing}, listing.Accepted →
      let found := rowsAfter Prod.snd (lastOf after) (server.listed store tenantId listing)
      server.page listing store tenantId limit cursor =
        .ok ⟨(cutPage found size).1, (cutPage found size).2⟩
  | .analytical kind, _ => by
      rw [Server.page, Server.list, listParams_eq_ok hlimit hcursor, ok_bind]
      dsimp only
      rw [mapM_payloadItem hrenders, ok_bind, Server.listed,
        ← cutPage_select fun payload => .object ((server.payloadJson kind payload).getD [])]
      rfl
  | .incidents, _ => by
      rw [Server.page, Server.listIncidents, listParams_eq_ok hlimit hcursor, ok_bind]
      dsimp only
      rw [mapM_scan hreads, ok_bind, Server.listed, ← cutPage_select]
      rfl
  | .cases, _ => by
      rw [Server.page, Server.listCases, listParams_eq_ok hlimit hcursor, ok_bind]
      dsimp only
      rw [mapM_scan hreads, ok_bind, Server.listed, ← cutPage_select]
      rfl
  | .audit objectType objectId, haccepted => by
      rw [Server.page, Server.listAudit, listParams_eq_ok hlimit hcursor, ok_bind]
      dsimp only
      rw [if_neg haccepted, Server.listed, ← cutPage_select]
      rfl

/-! ## Following cursors -/

/-- The rows of a list have different identifiers. -/
theorem nodup_listed (store : Store) (tenantId : Uuid) : ∀ listing : Listing,
    ((server.listed store tenantId listing).map Prod.snd).Nodup
  | .analytical _ => by
      rw [Server.listed, List.map_map]
      exact nodup_kept
  | .incidents => by
      rw [Server.listed, List.map_map]
      exact nodup_kept
  | .cases => by
      rw [Server.listed, List.map_map]
      exact nodup_kept
  | .audit _ _ => by
      rw [Server.listed, List.map_map]
      exact nodup_kept

theorem ne_nil_of_mem_listed {item : Item × Uuid} : ∀ {listing : Listing},
    item ∈ server.listed store tenantId listing → item.2 ≠ 0
  | .analytical _, h => by
      obtain ⟨row, -, rfl⟩ := List.mem_map.1 h
      exact row.id_ne_nil
  | .incidents, h => by
      obtain ⟨row, -, rfl⟩ := List.mem_map.1 h
      exact row.id_ne_nil
  | .cases, h => by
      obtain ⟨row, -, rfl⟩ := List.mem_map.1 h
      exact row.id_ne_nil
  | .audit _ _, h => by
      obtain ⟨row, -, rfl⟩ := List.mem_map.1 h
      exact row.id_ne_nil

/-- Rows that stay are listed as they were. -/
theorem exists_listed_of_subset {α : Type} {table table' : Table α} {keep : α → Bool}
    {f : Row α → Item × Uuid} (h : table.rows ⊆ table'.rows) :
    Grows Prod.snd ((table.kept tenantId keep).map f) ((table'.kept tenantId keep).map f) := by
  intro item hitem
  obtain ⟨row, hrow, rfl⟩ := List.mem_map.1 hitem
  rw [Table.kept, List.mem_filter] at hrow
  exact ⟨f row, List.mem_map_of_mem (List.mem_filter.2 ⟨h hrow.1, hrow.2⟩), rfl⟩

/-- Rows that keep their identifier and their tenant are listed still. -/
theorem exists_listed_of_ids {α : Type} {table table' : Table α} {item : α → Item}
    (h : ∀ row ∈ table.rows, ∃ row' ∈ table'.rows, row'.id = row.id ∧ row'.tenantId = row.tenantId) :
    Grows Prod.snd ((table.kept tenantId fun _ => true).map fun row => (item row.value, row.id))
      ((table'.kept tenantId fun _ => true).map fun row => (item row.value, row.id)) := by
  intro listed hlisted
  obtain ⟨row, hrow, rfl⟩ := List.mem_map.1 hlisted
  rw [Table.kept, List.mem_filter] at hrow
  obtain ⟨row', hrow', hid, htenant⟩ := h row hrow.1
  refine ⟨_, List.mem_map_of_mem (List.mem_filter.2 ⟨hrow', ?_⟩), hid⟩
  rw [htenant]
  exact hrow.2

/-- **A list grows with its table.** -/
theorem grows_listed {store store' : Store} (h : store.Grows store') : ∀ listing : Listing,
    Grows Prod.snd (server.listed store tenantId listing) (server.listed store' tenantId listing)
  | .analytical .signals => exists_listed_of_subset h.signals
  | .analytical .findings => exists_listed_of_subset h.findings
  | .incidents => exists_listed_of_ids h.incidents
  | .cases => exists_listed_of_ids h.cases
  | .audit _ _ => exists_listed_of_subset h.audit

theorem pos_of_limitOf (h : limitOf limit = .ok size) : 0 < size := by
  rw [limitOf] at h
  split_ifs at h
  · rw [← Except.ok.inj h]
    decide
  · split at h
    · split_ifs at h
      · rw [← Except.ok.inj h]
        omega
    · exact nomatch h

/-- **A request for a page**: the tables it finds, and a limit that is accepted. -/
structure ListRequest where
  store : Store
  limit : GoString
  size : ℕ
  accepted : limitOf limit = .ok size

def ListRequest.sent (request : ListRequest) : Store × GoString := (request.store, request.limit)

variable (server) in
/-- What a request finds. -/
def ListRequest.found (tenantId : Uuid) (listing : Listing) (request : ListRequest) :
    List (Item × Uuid) × ℕ :=
  (server.listed request.store tenantId listing, request.size)

/-- **Following cursors is following keys.** -/
theorem follow_eq (hreads : server.Reads) {listing : Listing} (haccepted : listing.Accepted) :
    ∀ {requests : List ListRequest} {cursor : GoString} {after : Uuid},
      (∀ request ∈ requests, server.Renders request.store) →
      server.decodeCursor cursor = some after →
      server.follow listing tenantId cursor (requests.map ListRequest.sent) =
        .ok (Keyset.follow Prod.snd (lastOf after)
          (requests.map (ListRequest.found server tenantId listing)))
  | [], _, _, _, _ => rfl
  | request :: requests, cursor, after, hrenders, hcursor => by
      obtain ⟨hfirst, hrest⟩ := List.forall_mem_cons.1 hrenders
      rw [List.map_cons, List.map_cons, ListRequest.sent, Server.follow,
        page_eq hreads hfirst request.accepted hcursor haccepted, ok_bind, ListRequest.found]
      dsimp only
      obtain hmore | hle := lt_or_ge request.size
        (rowsAfter Prod.snd (lastOf after) (server.listed request.store tenantId listing)).length
      · obtain ⟨last, hlast, hfollow⟩ := exists_follow_eq
          (requests.map (ListRequest.found server tenantId listing)) (pos_of_limitOf request.accepted) hmore
        have hmem := (mem_rowsAfter.1 (List.mem_of_mem_take (List.mem_of_getLast? hlast))).1
        have hlastOf : lastOf last.2 = some last.2 := if_neg (ne_nil_of_mem_listed hmem)
        rw [hfollow, cutPage, if_pos hmore, hlast]
        dsimp only [Option.map_some, Option.getD_some]
        rw [if_neg (encodeCursor_ne_nil _), follow_eq hreads haccepted hrest
          (decodeCursor_encodeCursor hreads last.2), hlastOf]
        rfl
      · rw [follow_of_le hle, cutPage, if_neg (not_lt.2 hle)]
        rfl

/-- A page is answered only if its cursor is read. -/
theorem exists_after_of_page {page : Page} : ∀ {listing : Listing},
    server.page listing store tenantId limit cursor = .ok page →
      ∃ after, server.decodeCursor cursor = some after
  | .analytical _, h | .incidents, h | .cases, h | .audit _ _, h => by
      obtain ⟨⟨size, after⟩, hparams, -⟩ := bind_eq_ok.1 h
      obtain ⟨_, -, hparams⟩ := bind_eq_ok.1 hparams
      obtain ⟨after', hafter, -⟩ := bind_eq_ok.1 hparams
      match hdecode : server.decodeCursor cursor with
      | some after => exact ⟨after, rfl⟩
      | none =>
        rw [hdecode] at hafter
        exact nomatch hafter

/-- **The cursor of a page is that of its last row.** -/
theorem exists_decode_nextCursor (hreads : server.Reads) {listing : Listing}
    (haccepted : listing.Accepted) (hrenders : server.Renders store)
    (hlimit : limitOf limit = .ok size) {page : Page}
    (h : server.page listing store tenantId limit cursor = .ok page) (hnext : page.nextCursor ≠ []) :
    ∃ last, page.items.getLast? = some last ∧ server.decodeCursor page.nextCursor = some last.2 := by
  obtain ⟨after, hcursor⟩ := exists_after_of_page h
  obtain rfl :=
    Except.ok.inj (h.symm.trans (page_eq hreads hrenders hlimit hcursor haccepted))
  rw [cutPage] at hnext ⊢
  split_ifs at hnext ⊢ with hmore
  · obtain ⟨last, hlast⟩ := exists_getLast (pos_of_limitOf hlimit) hmore
    refine ⟨last, hlast, ?_⟩
    rw [hlast, Option.map_some, Option.getD_some]
    dsimp only
    exact decodeCursor_encodeCursor hreads last.2
  · exact absurd rfl hnext

/-- **Following `next_cursor` to the last page returns every row that was there before once**, in
order, whatever is added meanwhile; a request more than there are rows is never needed, and every
cursor is read back as the identifier it was made from. -/
theorem exists_follow_eq_ok (hreads : server.Reads) {listing : Listing}
    (haccepted : listing.Accepted) (tenantId : Uuid) {before : Store} {requests : List ListRequest}
    (hrenders : ∀ request ∈ requests, server.Renders request.store)
    (hgrows : List.IsChain Store.Grows (before :: requests.map ListRequest.store)) :
    (∃ items done,
      server.follow listing tenantId [] (requests.map ListRequest.sent) = .ok (items, done) ∧
      (items.map Prod.snd).Pairwise (· < ·) ∧
      (∀ item ∈ items, ∃ request ∈ requests,
        item ∈ server.listed request.store tenantId listing) ∧
      (done = true → ∀ item ∈ server.listed before tenantId listing,
        (items.map Prod.snd).count item.2 = 1) ∧
      ∀ last, requests.getLast? = some last →
        (server.listed last.store tenantId listing).length < requests.length → done = true) ∧
    ∀ request ∈ requests, ∀ cursor page,
      server.page listing request.store tenantId request.limit cursor = .ok page →
      page.nextCursor ≠ [] →
        ∃ last, page.items.getLast? = some last ∧
          server.decodeCursor page.nextCursor = some last.2 := by
  have hproper : Proper Prod.snd (requests.map (ListRequest.found server tenantId listing)) := by
    intro found hfound
    obtain ⟨request, -, rfl⟩ := List.mem_map.1 hfound
    exact ⟨nodup_listed request.store tenantId listing, pos_of_limitOf request.accepted⟩
  have hlists : (requests.map (ListRequest.found server tenantId listing)).map Prod.fst =
      (requests.map ListRequest.store).map fun store => server.listed store tenantId listing := by
    rw [List.map_map, List.map_map]
    rfl
  have hchain : List.IsChain (Grows Prod.snd) (server.listed before tenantId listing ::
      (requests.map (ListRequest.found server tenantId listing)).map Prod.fst) := by
    rw [hlists]
    refine (List.isChain_cons_map fun store => server.listed store tenantId listing).2 ?_
    exact hgrows.imp fun store store' h => grows_listed h listing
  refine ⟨⟨_, _, follow_eq hreads haccepted hrenders rfl,
    List.pairwise_map.2 (pairwise_follow hproper), fun item hitem => ?_, fun hdone item hitem => ?_,
    fun last hlast hlength => ?_⟩, fun request hrequest cursor page hpage hnext =>
      exists_decode_nextCursor hreads haccepted (hrenders request hrequest) request.accepted hpage
        hnext⟩
  · obtain ⟨⟨found, hfound, hmem⟩, -⟩ := exists_mem_of_mem_follow hproper item hitem
    obtain ⟨request, hrequest, rfl⟩ := List.mem_map.1 hfound
    exact ⟨request, hrequest, hmem⟩
  · obtain ⟨item', hitem', hid⟩ :=
      exists_mem_follow hproper hchain hdone item hitem fun k hk => (nomatch hk)
    exact List.count_eq_one_of_mem (nodup_follow hproper) (hid ▸ List.mem_map_of_mem hitem')
  · have hfinal : ((requests.map (ListRequest.found server tenantId listing)).map
        Prod.fst).getLast? = some (server.listed last.store tenantId listing) := by
      rw [List.getLast?_map, List.getLast?_map, hlast]
      rfl
    exact follow_done hproper hchain.tail hfinal (by rwa [List.length_map])

end

/-! ### A list that grows behind its reader -/

/-- `uuid.Parse` on canonical texts. -/
def sampleServer : Server where
  uuidParse text := (fromUtf8 text).bind ofCanonicalText
  payloadJson _ payload := some payload

theorem uuidParse_sampleServer (text : GoString) :
    sampleServer.uuidParse text = (fromUtf8 text).bind ofCanonicalText := rfl

theorem reads_sampleServer : sampleServer.Reads := by
  intro id
  rw [uuidParse_sampleServer, fromUtf8_bytes, Option.bind_some, ofCanonicalText_canonicalText]

/-- A table of signals of one tenant. -/
def signalRow (id : Uuid) (h : id ≠ 0) : Row GoString := ⟨id, 1, bytes "payload", h⟩

def sampleTables (signals : Table GoString) : Store where
  signals := signals
  findings := ⟨[], List.nodup_nil⟩
  incidents := ⟨[], List.nodup_nil⟩
  cases := ⟨[], List.nodup_nil⟩
  audit := ⟨[], List.nodup_nil⟩

/-- Two signals are there; while they are read one at a time, another comes before the first. -/
def earlier : Store :=
  sampleTables ⟨[signalRow 5 (by decide), signalRow 9 (by decide)], by decide⟩

def later : Store :=
  sampleTables ⟨[signalRow 5 (by decide), signalRow 9 (by decide), signalRow 3 (by decide)],
    by decide⟩

theorem grows_earlier : earlier.Grows later where
  signals := by
    intro row hrow
    exact List.mem_append_left [signalRow 3 (by decide)] hrow
  findings := List.Subset.refl _
  audit := List.Subset.refl _
  incidents := fun _ h => (nomatch h)
  cases := fun _ h => (nomatch h)

/-- A request for one row. -/
def oneRow (store : Store) : ListRequest where
  store := store
  limit := bytes "1"
  size := 1
  accepted := by decide +kernel

/-- **The new signal is not returned, and the old ones are returned once.** -/
theorem exists_follow_later :
    (∃ items done,
      sampleServer.follow (.analytical .signals) 1 []
        ([oneRow earlier, oneRow later, oneRow later, oneRow later].map ListRequest.sent) =
          .ok (items, done) ∧
      (items.map Prod.snd).Pairwise (· < ·) ∧
      (∀ item ∈ items, ∃ request ∈ [oneRow earlier, oneRow later, oneRow later, oneRow later],
        item ∈ sampleServer.listed request.store 1 (.analytical .signals)) ∧
      (done = true → ∀ item ∈ sampleServer.listed earlier 1 (.analytical .signals),
        (items.map Prod.snd).count item.2 = 1) ∧
      ∀ last, [oneRow earlier, oneRow later, oneRow later, oneRow later].getLast? = some last →
        (sampleServer.listed last.store 1 (.analytical .signals)).length < 4 → done = true) ∧
    ∀ request ∈ [oneRow earlier, oneRow later, oneRow later, oneRow later], ∀ cursor page,
      sampleServer.page (.analytical .signals) request.store 1 request.limit cursor = .ok page →
      page.nextCursor ≠ [] →
        ∃ last, page.items.getLast? = some last ∧
          sampleServer.decodeCursor page.nextCursor = some last.2 := by
  have hgrows : List.IsChain Store.Grows [earlier, earlier, later, later, later] :=
    .cons_cons (.refl earlier) (.cons_cons grows_earlier (.cons_cons (.refl later)
      (.cons_cons (.refl later) (.singleton later))))
  have haccepted : (Listing.analytical .signals).Accepted := trivial
  exact exists_follow_eq_ok reads_sampleServer haccepted 1 (fun _ _ _ _ _ => rfl) hgrows

end Api

end Cerbero
