import Cerbero.Lib.UuidV7
import Cerbero.Operational.History

/-!
# Operational/CaseNumbers — the numbers of cases

`createCase` numbers a case by the first twelve digits of its identifier.  They are the millisecond
it was made in, and the random bits are gone: two cases of a tenant made in one millisecond get the
same number, and the second breaks `investigation_cases_tenant_number_unique`.  So a run of the
service breaks it exactly if two creations share tenant and millisecond
(`ne_numberUnique_iff`).
-/

namespace Cerbero

namespace Operational

/-! ## Numbers -/

theorem caseNumber_text (id : UuidV7) :
    caseNumber id.text =
      "CASE-" ++ String.ofList ((hexDigits 12 id.unixMs).map Char.toUpper) := by
  rw [caseNumber, id.filter_text, id.take_hexDigits_value]

/-- **A number is a millisecond.** -/
theorem caseNumber_eq_iff (id id' : UuidV7) :
    caseNumber id.text = caseNumber id'.text ↔ id.unixMs = id'.unixMs := by
  refine ⟨fun h => ?_, fun h => by rw [caseNumber_text, caseNumber_text, h]⟩
  rw [caseNumber_text, caseNumber_text] at h
  have hdigits := congrArg String.toList h
  simp only [String.toList_append, String.toList_ofList] at hdigits
  exact UuidV7.unixMs_eq_of_map eq_of_toUpper_digitChar (List.append_cancel_left hdigits)

/-! ## The table of cases -/

/-- A request for a case, with the identifier that `uuid.NewV7` generates for it. -/
structure CaseCreation where
  tenantId : String
  actorId : String
  requestId : String
  caseId : UuidV7
  readings : Readings
  input : CaseCreate
  links : Option IncidentLinks

def CaseCreation.identity (creation : CaseCreation) : Identity where
  tenantId := creation.tenantId
  objectId := creation.caseId.text
  actorId := creation.actorId
  requestId := creation.requestId

/-- What breaks `investigation_cases_tenant_number_unique`. -/
def numberUnique : OperationalError := .database "investigation_cases_tenant_number_unique"

/-- A case of the tenant has the number. -/
def numberTaken (cases : List CaseRow) (row : CaseRow) : Bool :=
  cases.any fun other => other.tenantId == row.tenantId && other.caseNumber == row.caseNumber

/-- The case with an identifier.  Its audit events are left out: no mutation of it reads them. -/
def storedCase (cases : List CaseRow) (caseId : String) : Stored :=
  ⟨(cases.find? fun row => row.caseId == caseId).map Record.caseFile, []⟩

section

variable (lib : Uuids)

/-- `createCase` on the table of all cases. -/
def createCase (creation : CaseCreation) (cases : List CaseRow) : Mutation (List CaseRow) := do
  let new ← checkNewCase lib creation.input
  let inserted ← insertCase lib creation.identity creation.readings new creation.links
    (storedCase cases creation.caseId.text)
  match inserted.1 with
  | .caseFile row => if numberTaken cases row then .error numberUnique else .ok (cases ++ [row])
  | .incident _ => .ok cases

/-- `updateCase` on the table of all cases. -/
def updateCase (identity : Identity) (readings : Readings) (patch : CasePatch)
    (cases : List CaseRow) : Mutation (List CaseRow) := do
  if patch.expectedVersion < 1 then .error (.invalid "expected_version must be >= 1")
  let updated ← mutateCase lib identity readings patch (storedCase cases identity.objectId)
  match updated.1 with
  | .caseFile row => .ok (cases.map fun other => if other.caseId = row.caseId then row else other)
  | .incident _ => .ok cases

/-- A request that writes cases. -/
inductive CaseRequest
  | create (creation : CaseCreation)
  | update (identity : Identity) (readings : Readings) (patch : CasePatch)

def CaseRequest.creation? : CaseRequest → Option CaseCreation
  | .create creation => some creation
  | .update _ _ _ => none

/-- **What the creations of a run result in**: the transactions take effect one after another. -/
def createOutcomes : List CaseRow → List CaseRequest → List (Mutation Unit)
  | _, [] => []
  | cases, .create creation :: requests =>
    match createCase lib creation cases with
    | .ok cases' => .ok () :: createOutcomes cases' requests
    | .error e => .error e :: createOutcomes cases requests
  | cases, .update identity readings patch :: requests =>
    match updateCase lib identity readings patch cases with
    | .ok cases' => createOutcomes cases' requests
    | .error _ => createOutcomes cases requests

/-- **A valid creation**: the request passes the checks of `createCase`, the incident it comes from
is there, and PostgreSQL takes its owner. -/
def CaseCreation.Valid (creation : CaseCreation) : Prop :=
  ∃ new owner, checkNewCase lib creation.input = .ok new ∧
    (new.incidentId.isSome → creation.links.isSome) ∧ storeOwner lib new.owner = .ok owner

end

/-! ## One creation -/

section

variable {lib : Uuids}

theorem storedCase_of_fresh {cases : List CaseRow} {caseId : String}
    (h : ∀ row ∈ cases, row.caseId ≠ caseId) : storedCase cases caseId = ⟨none, []⟩ := by
  rw [storedCase, List.find?_eq_none.2 fun row hrow => by simpa using h row hrow]
  rfl

theorem title_of_checkNewCase {input : CaseCreate} {new : NewCase}
    (h : checkNewCase lib input = .ok new) : new.title ≠ "" := by
  unfold checkNewCase at h
  obtain ⟨htitle, h⟩ := guard_eq_ok.1 h
  obtain ⟨priority, -, h⟩ := bind_eq_ok.1 h
  obtain ⟨-, h⟩ := guard_eq_ok.1 h
  have hnew : new.title = input.title := by
    dsimp only at h
    split at h
    · rw [← Except.ok.inj h]
    · split at h
      · exact nomatch h
      · rw [← Except.ok.inj h]
  rintro hempty
  exact htitle (hnew ▸ hempty ▸ rfl)

theorem violation_newCaseColumns {identity : Identity} {readings : Readings} {new : NewCase}
    {links : Option IncidentLinks} {owner : Option String} (h : new.title ≠ "") :
    (newCaseColumns identity readings new links owner).violation = none := by
  rw [CaseColumns.violation,
    if_neg (show ¬ (newCaseColumns identity readings new links owner).title = "" from h),
    if_neg, if_neg]
  · exact not_not_intro (.inl fun hstatus => (nomatch hstatus))
  · show ¬ ((1 : ℤ) < 1 ∨ maxBigint < 1)
    decide

theorem elim_eq_error {α β : Type} {e e' : OperationalError} {f : α → β} {found : Option α}
    (h : found.elim (.error e) (fun a => .ok (f a)) = (.error e' : Mutation β)) : e = e' := by
  match found with
  | none => exact Except.error.inj h
  | some a => exact nomatch h

/-- The checks of `createCase` find no error of the database. -/
theorem checkNewCase_ne_database {input : CaseCreate} {reason : String} :
    checkNewCase lib input ≠ .error (.database reason) := by
  unfold checkNewCase
  intro h
  obtain ⟨-, h⟩ | ⟨-, h⟩ := guard_eq_error.1 h
  · exact nomatch h
  obtain h | ⟨priority, -, h⟩ := bind_eq_error.1 h
  · exact nomatch elim_eq_error h
  obtain ⟨-, h⟩ | ⟨-, h⟩ := guard_eq_error.1 h
  · exact nomatch h
  dsimp only at h
  split at h
  · exact nomatch h
  · split at h
    · exact nomatch h
    · exact nomatch h

theorem exists_row_of_insertCase (identity : Identity) (readings : Readings) {new : NewCase}
    {links : Option IncidentLinks} {owner : Option String} (htitle : new.title ≠ "")
    (hlinks : new.incidentId.isSome → links.isSome)
    (howner : storeOwner lib new.owner = .ok owner) :
    ∃ row event, insertCase lib identity readings new links ⟨none, []⟩ = .ok (.caseFile row, event) ∧
      row.toCaseColumns = newCaseColumns identity readings new links owner := by
  have hfound : ¬ (new.incidentId.isSome = true ∧ links.isNone = true) := by
    rintro ⟨hgiven, hnone⟩
    rw [Option.isNone_iff_eq_none.1 hnone] at hlinks
    cases hlinks hgiven
  let row : CaseRow :=
    ⟨newCaseColumns identity readings new links owner, violation_newCaseColumns htitle⟩
  refine ⟨row, insertAudit identity readings .caseCreated "case" "" none
    (some (.created (caseCreated identity new))), ?_, rfl⟩
  unfold insertCase
  refine guard_eq_ok.2 ⟨hfound, bind_eq_ok.2 ⟨owner, howner, guard_eq_ok.2 ⟨Bool.noConfusion, ?_⟩⟩⟩
  dsimp only
  split
  · rename_i check hcheck
    cases (violation_newCaseColumns htitle).symm.trans hcheck
  · rfl

/-- **A valid creation adds its row, unless the number of the row is taken.** -/
theorem createCase_of_valid {creation : CaseCreation} {cases : List CaseRow}
    (hfresh : ∀ row ∈ cases, row.caseId ≠ creation.caseId.text) (h : creation.Valid lib) :
    ∃ row : CaseRow, row.tenantId = creation.tenantId ∧ row.caseId = creation.caseId.text ∧
      row.caseNumber = caseNumber creation.caseId.text ∧
      createCase lib creation cases =
        if numberTaken cases row then .error numberUnique else .ok (cases ++ [row]) := by
  obtain ⟨new, owner, hnew, hlinks, howner⟩ := h
  obtain ⟨row, event, hinsert, hcolumns⟩ := exists_row_of_insertCase creation.identity
    creation.readings (title_of_checkNewCase hnew) hlinks howner
  refine ⟨row, by rw [hcolumns]; rfl, by rw [hcolumns]; rfl, by rw [hcolumns]; rfl, ?_⟩
  rw [createCase, hnew, ok_bind, storedCase_of_fresh hfresh, hinsert, ok_bind]

/-- **A creation that is not valid fails, but not on its number.** -/
theorem exists_error_of_not_valid {creation : CaseCreation} (cases : List CaseRow)
    (h : ¬ creation.Valid lib) :
    ∃ e, createCase lib creation cases = .error e ∧ e ≠ numberUnique := by
  match hnew : checkNewCase lib creation.input with
  | .error e =>
    refine ⟨e, by rw [createCase, hnew, error_bind], ?_⟩
    rintro rfl
    exact checkNewCase_ne_database hnew
  | .ok new =>
    by_cases hlinks : new.incidentId.isSome = true ∧ creation.links.isNone = true
    · refine ⟨.notFound, ?_, fun h => (nomatch h)⟩
      have hinsert : insertCase lib creation.identity creation.readings new creation.links
          (storedCase cases creation.caseId.text) = .error .notFound := by
        unfold insertCase
        exact guard_eq_error.2 (.inl ⟨hlinks, rfl⟩)
      rw [createCase, hnew, ok_bind, hinsert, error_bind]
    · match howner : storeOwner lib new.owner with
      | .ok owner =>
        refine absurd ⟨new, owner, hnew, fun hgiven => ?_, howner⟩ h
        exact Option.isSome_iff_ne_none.2 fun hnone =>
          hlinks ⟨hgiven, Option.isNone_iff_eq_none.2 hnone⟩
      | .error e =>
        have hinsert : insertCase lib creation.identity creation.readings new creation.links
            (storedCase cases creation.caseId.text) = .error e := by
          unfold insertCase
          exact guard_eq_error.2 (.inr ⟨hlinks, bind_eq_error.2 (.inl howner)⟩)
        refine ⟨e, by rw [createCase, hnew, ok_bind, hinsert, error_bind], ?_⟩
        rintro rfl
        rw [storeOwner] at howner
        split at howner
        · exact nomatch howner
        · exact nomatch elim_eq_error howner

/-- What no update changes of a case. -/
structure CaseKeys where
  caseId : String
  tenantId : String
  caseNumber : String

def keysOf (row : CaseRow) : CaseKeys := ⟨row.caseId, row.tenantId, row.caseNumber⟩

/-- **An update leaves identifiers, tenants and numbers.** -/
theorem keys_of_updateCase {identity : Identity} {readings : Readings} {patch : CasePatch}
    {cases cases' : List CaseRow} (hkey : ((cases.map keysOf).map CaseKeys.caseId).Nodup)
    (h : updateCase lib identity readings patch cases = .ok cases') :
    cases'.map keysOf = cases.map keysOf := by
  unfold updateCase at h
  obtain ⟨-, h⟩ := guard_eq_ok.1 h
  obtain ⟨⟨record, event⟩, hmutate, h⟩ := bind_eq_ok.1 h
  obtain ⟨row, after, row', hfound, -, -, hrow', rfl, -⟩ := mutateCase_eq_ok hmutate
  obtain ⟨owner, -, hcolumns⟩ := updateCaseRow_eq_ok hrow'
  have hkeys : keysOf row' = keysOf row := by
    rw [keysOf, hcolumns]
    rfl
  have hmem : row ∈ cases := by
    match hfind : cases.find? fun row => row.caseId == identity.objectId with
    | some found =>
      rw [storedCase, hfind] at hfound
      rw [← Record.caseFile.inj (Option.some.inj hfound)]
      exact List.mem_of_find?_eq_some hfind
    | none =>
      rw [storedCase, hfind] at hfound
      exact nomatch hfound
  rw [List.map_map] at hkey
  rw [← Except.ok.inj h, List.map_map]
  refine List.map_congr_left fun other hother => ?_
  rw [Function.comp_apply]
  split_ifs with hid
  · rw [hkeys, List.inj_on_of_nodup_map hkey hother hmem
      (hid.trans (congrArg CaseKeys.caseId hkeys))]
  · rfl

end

/-! ## Runs -/

section

variable (lib : Uuids)

/-- Two creations do not clash: they are not valid creations of a tenant in one millisecond. -/
def Apart (creation creation' : CaseCreation) : Prop :=
  creation.Valid lib → creation'.Valid lib → creation.tenantId = creation'.tenantId →
    creation.caseId.unixMs ≠ creation'.caseId.unixMs

/-- A creation does not clash with the cases that are there. -/
def Free (keys : List CaseKeys) (creation : CaseCreation) : Prop :=
  creation.Valid lib → ∀ key ∈ keys, key.tenantId = creation.tenantId →
    key.caseNumber ≠ caseNumber creation.caseId.text

/-- The identifier of a creation is new. -/
def Fresh (keys : List CaseKeys) (creation : CaseCreation) : Prop :=
  ∀ key ∈ keys, key.caseId ≠ creation.caseId.text

variable {lib} {cases : List CaseRow} {creation : CaseCreation}

theorem nodup_append {row : CaseRow} (hkey : ((cases.map keysOf).map CaseKeys.caseId).Nodup)
    (hid : row.caseId = creation.caseId.text) (hfresh : Fresh (cases.map keysOf) creation) :
    (((cases ++ [row]).map keysOf).map CaseKeys.caseId).Nodup := by
  rw [List.map_append, List.map_append, List.nodup_append']
  refine ⟨hkey, List.nodup_singleton _, List.disjoint_singleton.2 fun hmem => ?_⟩
  obtain ⟨key, hkeymem, hequal⟩ := List.mem_map.1 hmem
  exact hfresh key hkeymem (hequal.trans hid)

theorem fresh_append {row : CaseRow} {creation' : CaseCreation}
    (hid : row.caseId = creation.caseId.text) (hfresh : Fresh (cases.map keysOf) creation')
    (hne : creation'.caseId ≠ creation.caseId) :
    Fresh ((cases ++ [row]).map keysOf) creation' := by
  intro key hkey hequal
  rw [List.map_append, List.mem_append, List.map_singleton, List.mem_singleton] at hkey
  obtain hkey | rfl := hkey
  · exact hfresh key hkey hequal
  · exact hne (UuidV7.text_injective (hequal.symm.trans hid))

/-- The cases with one more: the creation that made it must not clash either. -/
theorem free_append {row : CaseRow} {creation' : CaseCreation} (hvalid : creation.Valid lib)
    (htenant : row.tenantId = creation.tenantId)
    (hnumber : row.caseNumber = caseNumber creation.caseId.text) :
    Free lib ((cases ++ [row]).map keysOf) creation' ↔
      Free lib (cases.map keysOf) creation' ∧ Apart lib creation creation' := by
  rw [List.map_append]
  constructor
  · intro hfree
    refine ⟨fun hvalid' key hkey => hfree hvalid' key (List.mem_append_left _ hkey),
      fun _ hvalid' hsame hms => ?_⟩
    refine hfree hvalid' (keysOf row) (by simp) (htenant.trans hsame) ?_
    exact hnumber.trans ((caseNumber_eq_iff _ _).2 hms)
  · rintro ⟨hfree, hapart⟩ hvalid' key hkey hsame hequal
    rw [List.mem_append, List.map_singleton, List.mem_singleton] at hkey
    obtain hkey | rfl := hkey
    · exact hfree hvalid' key hkey hsame hequal
    · exact hapart hvalid hvalid' (htenant.symm.trans hsame)
        ((caseNumber_eq_iff _ _).1 (hnumber.symm.trans hequal))

theorem numberTaken_iff (cases : List CaseRow) {row : CaseRow} (hvalid : creation.Valid lib)
    (htenant : row.tenantId = creation.tenantId)
    (hnumber : row.caseNumber = caseNumber creation.caseId.text) :
    numberTaken cases row = true ↔ ¬ Free lib (cases.map keysOf) creation := by
  rw [numberTaken, List.any_eq_true]
  constructor
  · rintro ⟨other, hother, hsame⟩ hfree
    rw [Bool.and_eq_true, beq_iff_eq, beq_iff_eq] at hsame
    exact hfree hvalid (keysOf other) (List.mem_map_of_mem hother) (hsame.1.trans htenant)
      (hsame.2.trans hnumber)
  · intro hclash
    simp only [Free, not_forall, not_not] at hclash
    obtain ⟨-, key, hkey, hsame, hequal⟩ := hclash
    obtain ⟨other, hother, rfl⟩ := List.mem_map.1 hkey
    refine ⟨other, hother, ?_⟩
    rw [Bool.and_eq_true, beq_iff_eq, beq_iff_eq]
    exact ⟨hsame.trans htenant.symm, hequal.trans hnumber.symm⟩

/-- The creations of a run. -/
def creationsOf (requests : List CaseRequest) : List CaseCreation :=
  requests.filterMap CaseRequest.creation?

/-- **Over any run**: no creation fails on its number exactly if none clashes with the cases that are
there or with another. -/
theorem ne_numberUnique_iff_apart : ∀ {requests : List CaseRequest} {cases : List CaseRow},
    ((cases.map keysOf).map CaseKeys.caseId).Nodup →
    ((creationsOf requests).map CaseCreation.caseId).Nodup →
    (∀ creation ∈ creationsOf requests, Fresh (cases.map keysOf) creation) →
    ((∀ outcome ∈ createOutcomes lib cases requests, outcome ≠ .error numberUnique) ↔
      (creationsOf requests).Pairwise (Apart lib) ∧
        ∀ creation ∈ creationsOf requests, Free lib (cases.map keysOf) creation)
  | [], cases, _, _, _ => by simp [createOutcomes, creationsOf]
  | .update identity readings patch :: requests, cases, hkey, hids, hfresh => by
      have hcreations : creationsOf (.update identity readings patch :: requests) =
        creationsOf requests := rfl
      rw [hcreations] at hids hfresh ⊢
      rw [createOutcomes]
      match hupdate : updateCase lib identity readings patch cases with
      | .error e => exact ne_numberUnique_iff_apart hkey hids hfresh
      | .ok cases' =>
        have hkeys := keys_of_updateCase hkey hupdate
        have hrest := @ne_numberUnique_iff_apart requests cases'
        rw [hkeys] at hrest
        exact hrest hkey hids hfresh
  | .create creation :: requests, cases, hkey, hids, hfresh => by
      have hcreations : creationsOf (.create creation :: requests) =
        creation :: creationsOf requests := rfl
      rw [hcreations] at hids hfresh ⊢
      rw [List.map_cons, List.nodup_cons] at hids
      rw [List.forall_mem_cons] at hfresh
      rw [List.pairwise_cons, List.forall_mem_cons, createOutcomes]
      by_cases hvalid : creation.Valid lib
      · have hnew : ∀ row ∈ cases, row.caseId ≠ creation.caseId.text :=
          fun row hrow => hfresh.1 (keysOf row) (List.mem_map_of_mem hrow)
        obtain ⟨row, htenant, hid, hnumber, hcreate⟩ := createCase_of_valid hnew hvalid
        have htaken := numberTaken_iff cases hvalid htenant hnumber
        by_cases hfree : Free lib (cases.map keysOf) creation
        · rw [hcreate, if_neg (htaken.not_left.2 hfree)]
          have hrest := ne_numberUnique_iff_apart (nodup_append hkey hid hfresh.1) hids.2
            fun other hother => fresh_append hid (hfresh.2 other hother) fun hsame =>
              hids.1 (hsame ▸ List.mem_map_of_mem hother)
          rw [List.forall_mem_cons, hrest]
          simp only [free_append hvalid htenant hnumber]
          exact ⟨fun ⟨_, hapart, hall⟩ => ⟨⟨fun c hc => (hall c hc).2, hapart⟩, hfree,
            fun c hc => (hall c hc).1⟩, fun ⟨⟨hfirst, hapart⟩, _, hall⟩ =>
              ⟨fun h => (nomatch h), hapart, fun c hc => ⟨hall c hc, hfirst c hc⟩⟩⟩
        · rw [hcreate, if_pos (htaken.2 hfree)]
          exact iff_of_false (fun hall => hall _ List.mem_cons_self rfl) fun h => hfree h.2.1
      · obtain ⟨e, herror, hne⟩ := exists_error_of_not_valid cases hvalid
        rw [herror]
        have hrest := ne_numberUnique_iff_apart hkey hids.2 hfresh.2
        rw [List.forall_mem_cons, hrest]
        exact ⟨fun ⟨_, hapart, hall⟩ => ⟨⟨fun _ _ h => absurd h hvalid, hapart⟩,
          fun h => absurd h hvalid, hall⟩, fun ⟨⟨_, hapart⟩, _, hall⟩ =>
            ⟨fun h => hne (Except.error.inj h), hapart, hall⟩⟩

/-- **A creation never fails on its number exactly if no two valid ones of a tenant are made in one
millisecond**: the number of a case is that of its millisecond. -/
theorem ne_numberUnique_iff (requests : List CaseRequest)
    (hids : ((creationsOf requests).map CaseCreation.caseId).Nodup) :
    (∀ id id' : UuidV7, caseNumber id.text ≠ caseNumber id'.text ↔ id.unixMs ≠ id'.unixMs) ∧
    ((∀ outcome ∈ createOutcomes lib [] requests, outcome ≠ .error numberUnique) ↔
      (creationsOf requests).Pairwise (Apart lib)) := by
  refine ⟨fun id id' => (caseNumber_eq_iff id id').not, ?_⟩
  have hrun := @ne_numberUnique_iff_apart lib requests [] List.nodup_nil hids
    fun _ _ key hkey => (nomatch hkey)
  exact hrun.trans (and_iff_left fun _ _ _ key hkey => (nomatch hkey))

/-- **Two cases of a tenant made in one millisecond**, from identifiers that differ in a random
bit. -/
def sampleCreation (randB : Fin (2 ^ 62)) : CaseCreation where
  tenantId := "0197a000-0000-7000-8000-0000000000aa"
  actorId := "analyst"
  requestId := "request"
  caseId := ⟨1699999998000, 1, randB⟩
  readings := ⟨⟨1, 0⟩, ⟨1, 0⟩, "0197a000-0000-7000-8000-0000000000bb"⟩
  input := ⟨"Brute force", "", "P2_HIGH", none, none⟩
  links := none

theorem valid_sampleCreation (randB : Fin (2 ^ 62)) : (sampleCreation randB).Valid noUuids := by
  have hnew : checkNewCase noUuids ⟨"Brute force", "", "P2_HIGH", none, none⟩ =
      .ok ⟨"Brute force", "", .p2High, "", none, none⟩ := rfl
  exact ⟨_, none, hnew, fun h => (nomatch h), rfl⟩

/-- **The second of two cases of a millisecond fails on its number.** -/
theorem createOutcomes_sampleCreation :
    (sampleCreation 0).Valid noUuids ∧ (sampleCreation 1).Valid noUuids ∧
    (sampleCreation 0).caseId ≠ (sampleCreation 1).caseId ∧
    caseNumber (sampleCreation 0).caseId.text = caseNumber (sampleCreation 1).caseId.text ∧
    createOutcomes noUuids [] [.create (sampleCreation 0), .create (sampleCreation 1)] =
      [.ok (), .error numberUnique] :=
  ⟨valid_sampleCreation 0, valid_sampleCreation 1, by decide, (caseNumber_eq_iff _ _).2 rfl,
    by decide +kernel⟩

theorem ne_numberUnique_sampleCreation :
    (∀ id id' : UuidV7, caseNumber id.text ≠ caseNumber id'.text ↔ id.unixMs ≠ id'.unixMs) ∧
    ((∀ outcome ∈ createOutcomes noUuids [] [.create (sampleCreation 0), .create (sampleCreation 1)],
      outcome ≠ .error numberUnique) ↔
        (creationsOf [.create (sampleCreation 0), .create (sampleCreation 1)]).Pairwise
          (Apart noUuids)) :=
  ne_numberUnique_iff _ (by decide)

end

end Operational

end Cerbero
