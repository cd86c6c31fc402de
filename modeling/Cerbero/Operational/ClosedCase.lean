import Cerbero.Operational.History

/-!
# Operational/ClosedCase — what a closed case has

A closed case has a disposition, a closure reason and the time it was closed at.  `updateCase` checks
this where a case is closed, not where a closed case is patched, so it holds of the cases whose
patches are careful with what closing asked for (`Careful`): `closed_of_caseRun`.
-/

namespace Cerbero

namespace Operational

open Text

/-- **A closed case is complete, and a case that is not closed has no closing time.** -/
def CaseView.ClosedOk (view : CaseView) : Prop :=
  (view.status = .closed → view.disposition ≠ .undetermined ∧
    isBlank view.closureReason = false ∧ view.closedAt.isSome) ∧
  (view.status ≠ .closed → view.closedAt = none)

/-- **A careful patch**: one that leaves a closed case closed neither sets its disposition to
`UNDETERMINED` nor its closure reason to a blank. -/
def Careful (view : CaseView) (patch : CasePatch) : Prop :=
  view.status = .closed → patch.status = none ∨ patch.status = some "CLOSED" →
    patch.disposition ≠ some "UNDETERMINED" ∧
    ∀ reason, patch.closureReason = some reason → isBlank reason = false

/-! ## Named values -/

theorem text_of_named {α : Type} {all : List α} {text : α → String} {value : String} {a : α}
    (h : named all text value = some a) : text a = value := by
  have hfound := List.find?_some h
  exact eq_of_beq hfound

/-- A named value is the old one, or the one the patch names. -/
theorem nextNamed_eq_ok {σ : Type} {parse : String → Option σ} {unsupported : String}
    {before after : σ} {patch : Option String}
    (h : nextNamed parse unsupported before patch = .ok after) :
    (patch = none ∧ after = before) ∨ ∃ text, patch = some text ∧ parse text = some after := by
  match patch with
  | none => exact .inl ⟨rfl, (Except.ok.inj h).symm⟩
  | some text =>
    refine .inr ⟨text, rfl, ?_⟩
    match hparse : parse text with
    | none =>
      rw [nextNamed, hparse] at h
      exact nomatch h
    | some value =>
      rw [nextNamed, hparse] at h
      exact congrArg some (Except.ok.inj h)

theorem nextNamed_of_nextStatus {σ : Type} [DecidableEq σ] {parse : String → Option σ}
    {allowed : σ → σ → Bool} {object : String} {before status : σ} {patch : Option String}
    (h : nextStatus parse allowed object before patch = .ok status) :
    nextNamed parse ("unsupported " ++ object ++ " status") before patch = .ok status := by
  obtain ⟨status', hnamed, h⟩ := bind_eq_ok.1 h
  split at h
  · exact nomatch h
  · obtain rfl := Except.ok.inj h
    exact hnamed

/-- A value is the named one if the patch names it, or names nothing and it was before. -/
theorem nextNamed_eq_iff {σ : Type} {all : List σ} {text : σ → String} {unsupported : String}
    {before after value : σ} {patch : Option String}
    (hvalue : named all text (text value) = some value)
    (h : nextNamed (named all text) unsupported before patch = .ok after) :
    after = value ↔ patch = some (text value) ∨ patch = none ∧ before = value := by
  obtain ⟨rfl, rfl⟩ | ⟨given, rfl, hparse⟩ := nextNamed_eq_ok h
  · simp
  · simp only [Option.some.injEq, reduceCtorEq, false_and, or_false]
    refine ⟨fun heq => ?_, fun heq => ?_⟩
    · rw [← heq]
      exact (text_of_named hparse).symm
    · rw [heq, hvalue] at hparse
      exact (Option.some.inj hparse).symm

theorem status_closed_iff {before after : CaseStatus} {patch : Option String}
    (h : nextStatus caseStatusOf caseTransitionAllowed "case" before patch = .ok after) :
    after = .closed ↔ patch = some "CLOSED" ∨ patch = none ∧ before = .closed :=
  nextNamed_eq_iff rfl (nextNamed_of_nextStatus h)

theorem disposition_undetermined_iff {before after : CaseDisposition} {patch : Option String}
    (h : nextNamed caseDispositionOf "unsupported case disposition" before patch = .ok after) :
    after = .undetermined ↔ patch = some "UNDETERMINED" ∨ patch = none ∧ before = .undetermined :=
  nextNamed_eq_iff rfl h

/-! ## One change -/

section

variable {lib : Uuids} {now : Timestamp} {before after : CaseView} {patch : CasePatch}

/-- A closed case that stays closed keeps what the patch does not set. -/
theorem closedOk_iff_of_stays {disposition : CaseDisposition} (hbefore : before.ClosedOk)
    (hclosed : before.status = .closed)
    (hpatch : patch.status = none ∨ patch.status = some "CLOSED")
    (hdisposition : nextNamed caseDispositionOf "unsupported case disposition" before.disposition
      patch.disposition = .ok disposition) (hstatus : after.status = .closed)
    (hafter : after.disposition = disposition ∧
      after.closureReason = patch.closureReason.getD before.closureReason ∧
      after.closedAt = before.closedAt) : after.ClosedOk ↔ Careful before patch := by
  obtain ⟨rfl, hreason, hclosedAt⟩ := hafter
  obtain ⟨hset, hblank, hat⟩ := hbefore.1 hclosed
  have hundetermined : after.disposition = .undetermined ↔
      patch.disposition = some "UNDETERMINED" :=
    (disposition_undetermined_iff hdisposition).trans
      (or_iff_left fun hkept => hset hkept.2)
  constructor
  · intro h _ _
    obtain ⟨hset', hblank', -⟩ := h.1 hstatus
    refine ⟨fun heq => hset' (hundetermined.2 heq), fun reason heq => ?_⟩
    rw [hreason, heq] at hblank'
    exact hblank'
  · intro h
    obtain ⟨hset', hblank'⟩ := h hclosed hpatch
    refine ⟨fun _ => ⟨fun heq => hset' (hundetermined.1 heq), ?_, hclosedAt ▸ hat⟩,
      fun hne => absurd hstatus hne⟩
    rw [hreason]
    match hgiven : patch.closureReason with
    | none => exact hblank
    | some reason => exact hblank' reason hgiven

/-- **A change keeps a case complete exactly if its patch is careful.** -/
theorem closedOk_iff (hbefore : before.ClosedOk)
    (h : changeCase lib now before patch = .ok after) :
    after.ClosedOk ↔ Careful before patch := by
  obtain ⟨-, patched, closed, reopened, hpatched, hclose, hreopen, rfl⟩ := changeCase_eq_ok h
  obtain ⟨status, priority, title, owner, disposition, hstatus, -, hdisposition, rfl⟩ :=
    patchCase_eq_ok hpatched
  by_cases hclosed : before.status = .closed
  · have hstays : status = .closed ↔ patch.status = none ∨ patch.status = some "CLOSED" := by
      rw [status_closed_iff hstatus, and_iff_left hclosed, or_comm]
    obtain ⟨⟨-, hnot⟩, -⟩ | ⟨-, rfl⟩ := closeCase_eq_ok hclose
    · exact absurd hclosed hnot
    obtain ⟨⟨-, hinvestigating⟩, rfl⟩ | ⟨hnot, rfl⟩ := reopenCase_eq_ok hreopen
    · have hne : status ≠ .closed := fun heq => nomatch heq.symm.trans hinvestigating
      exact ⟨fun _ _ hpatch => absurd (hstays.2 hpatch) hne,
        fun _ => ⟨fun heq => absurd heq hne, fun _ => rfl⟩⟩
    · have heq : status = .closed := by
        obtain heq | hallowed := nextStatus_eq_ok hstatus
        · exact heq.trans hclosed
        · rw [hclosed] at hallowed
          have hinvestigating : status = .investigating := by
            simpa [caseTransitionAllowed] using hallowed
          exact absurd ⟨hclosed, hinvestigating⟩ hnot
      exact closedOk_iff_of_stays hbefore hclosed (hstays.1 heq) hdisposition heq ⟨rfl, rfl, rfl⟩
  · refine iff_of_true ?_ fun heq => absurd heq hclosed
    obtain ⟨⟨heq, -⟩, -⟩ | ⟨-, rfl⟩ := reopenCase_eq_ok hreopen
    · exact absurd heq hclosed
    obtain ⟨⟨heq, -⟩, hset, hblank, rfl⟩ | ⟨hnot, rfl⟩ := closeCase_eq_ok hclose
    · exact ⟨fun _ => ⟨hset, hblank, rfl⟩, fun hne => absurd heq hne⟩
    · exact ⟨fun heq => absurd ⟨heq, hclosed⟩ hnot, fun _ => hbefore.2 hclosed⟩

/-- A complete case passes the check of the table. -/
theorem closedInvariant_of_closedOk {databaseNow : Timestamp} {row : CaseRow}
    {owner : Option String} (h : after.ClosedOk) :
    (caseColumns databaseNow row after owner).closedInvariant := by
  by_cases hclosed : after.status = .closed
  · obtain ⟨hset, hblank, hat⟩ := h.1 hclosed
    have hreason : after.closureReason ≠ "" := fun heq => by
      rw [heq] at hblank
      exact nomatch hblank
    refine .inr ⟨hset, ?_, ?_, ?_⟩
    · simp [caseColumns, nullIf, hreason]
    · simp [caseColumns, nullIf, hreason]
    · simpa [caseColumns] using hat
  · exact .inl hclosed

/-- A closure reason survives storing. -/
theorem closureReason_stored {databaseNow : Timestamp} {row row' : CaseRow} {owner : Option String}
    (hrow : row'.toCaseColumns = caseColumns databaseNow row after owner) :
    row'.view.closureReason = after.closureReason := by
  rw [CaseRow.view, hrow]
  unfold caseColumns nullIf
  split
  · rename_i heq
    exact heq.symm
  · rfl

/-- What is stored is as complete as what was written. -/
theorem closedOk_stored {databaseNow : Timestamp} {row row' : CaseRow} {owner : Option String}
    (h : after.ClosedOk) (hrow : row'.toCaseColumns = caseColumns databaseNow row after owner) :
    row'.view.ClosedOk := by
  have hreason := closureReason_stored hrow
  have hclosedAt : row'.view.closedAt = after.closedAt.map toMicroseconds :=
    congrArg CaseColumns.closedAt hrow
  have hstatus : row'.view.status = after.status := congrArg CaseColumns.status hrow
  have hdisposition : row'.view.disposition = after.disposition :=
    congrArg CaseColumns.disposition hrow
  unfold CaseView.ClosedOk
  rw [hreason, hclosedAt, hstatus, hdisposition, Option.isSome_map, Option.map_eq_none_iff]
  exact h

/-! ## The life of a case -/

/-- A new case is complete. -/
theorem closedOk_insertCase {identity : Identity} {readings : Readings} {new : NewCase}
    {links : Option IncidentLinks} {stored : Stored} {record : Record} {event : AuditEvent}
    (h : insertCase lib identity readings new links stored = .ok (record, event)) :
    ∃ row, record = .caseFile row ∧ row.view.ClosedOk := by
  unfold insertCase at h
  obtain ⟨-, h⟩ := guard_eq_ok.1 h
  obtain ⟨owner, -, h⟩ := bind_eq_ok.1 h
  obtain ⟨-, h⟩ := guard_eq_ok.1 h
  dsimp only at h
  split at h
  · exact nomatch h
  · obtain ⟨rfl, -⟩ := Prod.mk.inj (Except.ok.inj h)
    refine ⟨_, rfl, ?_⟩
    exact ⟨fun heq => (nomatch heq), fun _ => rfl⟩

theorem closedOk_of_caseRun {stored : Stored}
    (h : CaseRun lib (fun _ view patch => Careful view patch) stored) :
    ∃ row, stored.record = some (.caseFile row) ∧ row.view.ClosedOk := by
  induction h with
  | create _ _ _ _ _ hcall =>
    obtain ⟨row, rfl, hok⟩ := closedOk_insertCase hcall
    exact ⟨row, rfl, hok⟩
  | update _ _ _ _ hmeets hcall ih =>
    obtain ⟨row, hrecord, hok⟩ := ih
    obtain ⟨found, after, row', hfound, -, hafter, hrow', rfl, -⟩ := mutateCase_eq_ok hcall
    obtain rfl : row = found := Record.caseFile.inj (Option.some.inj (hrecord.symm.trans hfound))
    obtain ⟨owner, -, hcolumns⟩ := updateCaseRow_eq_ok hrow'
    exact ⟨row', rfl, closedOk_stored ((closedOk_iff hok hafter).2 (hmeets row hrecord)) hcolumns⟩

/-- **A case whose patches are careful is complete, and its careful patches pass the check of the
table**; a patch that is not careful and passes the checks of `updateCase` would leave it
incomplete. -/
theorem closed_of_caseRun {stored : Stored}
    (h : CaseRun lib (fun _ view patch => Careful view patch) stored) :
    ∃ row, stored.record = some (.caseFile row) ∧ row.view.ClosedOk ∧
      ∀ now patch after, changeCase lib now row.view patch = .ok after →
        (Careful row.view patch → ∀ databaseNow owner,
          (caseColumns databaseNow row after owner).closedInvariant) ∧
        (after.ClosedOk ↔ Careful row.view patch) := by
  obtain ⟨row, hrecord, hok⟩ := closedOk_of_caseRun h
  refine ⟨row, hrecord, hok, fun now patch after hafter => ⟨fun hcareful _ _ => ?_, ?_⟩⟩
  · exact closedInvariant_of_closedOk ((closedOk_iff hok hafter).2 hcareful)
  · exact closedOk_iff hok hafter

end

/-! ### A closed case -/

/-- A request for a case. -/
def sampleInput : CaseCreate := ⟨"Brute force", "", "P2_HIGH", none, none⟩

/-- A patch of the status alone. -/
def statusPatch (version : ℤ) (status : String) : CasePatch :=
  ⟨version, some status, none, none, none, none, none, none, "", ""⟩

/-- A patch that closes a case. -/
def closingPatch : CasePatch :=
  ⟨3, some "CLOSED", none, none, none, none, some "FALSE_POSITIVE", some "scanner", "", ""⟩

/-- A patch that takes the disposition of a closed case back. -/
def undeterminedPatch : CasePatch :=
  ⟨4, none, none, none, none, none, some "UNDETERMINED", none, "", ""⟩

/-- A patch that blanks the reason of a closed case. -/
def blankPatch : CasePatch := ⟨4, none, none, none, none, none, none, some "   ", "", ""⟩

/-- A patch of the title of a closed case. -/
def titlePatch : CasePatch := ⟨4, none, none, some "Port scan", none, none, none, none, "", ""⟩

def sampleIdentity : Identity :=
  ⟨"0197a000-0000-7000-8000-0000000000aa", "0197a000-0000-7000-8000-0000000000cc", "analyst",
    "request"⟩

def sampleReadings : Readings := ⟨⟨1, 0⟩, ⟨1, 0⟩, "0197a000-0000-7000-8000-0000000000bb"⟩

/-- The case once it was closed. -/
def closedRow : CaseRow where
  caseId := sampleIdentity.objectId
  tenantId := sampleIdentity.tenantId
  caseNumber := caseNumber sampleIdentity.objectId
  status := .closed
  priority := .p2High
  title := "Brute force"
  description := ""
  ownerUserId := none
  createdBy := "analyst"
  createdAt := ⟨1, 0⟩
  updatedAt := ⟨1, 0⟩
  closedAt := some ⟨1, 0⟩
  disposition := .falsePositive
  closureReason := some "scanner"
  version := 4
  incidentIds := []
  findingIds := []
  entityIds := []
  checked := rfl

/-- The case is created, triaged, resolved and closed. -/
theorem caseRun_closedRow (meets : Readings → CaseView → CasePatch → Prop)
    (hmeets : ∀ view patch, view.status ≠ .closed → patch.ownerUserId = none →
      meets sampleReadings view patch) :
    ∃ audit, CaseRun noUuids meets ⟨some (.caseFile closedRow), audit⟩ := by
  have h₁ : CaseRun noUuids meets _ := .create sampleIdentity sampleReadings sampleInput none rfl rfl
  have h₂ := h₁.update sampleIdentity sampleReadings (statusPatch 1 "TRIAGE")
    (by rintro _ ⟨⟩; exact hmeets _ _ (fun h => nomatch h) rfl) rfl
  have h₃ := h₂.update sampleIdentity sampleReadings (statusPatch 2 "RESOLVED")
    (by rintro _ ⟨⟩; exact hmeets _ _ (fun h => nomatch h) rfl) rfl
  have h₄ := h₃.update sampleIdentity sampleReadings closingPatch
    (by rintro _ ⟨⟩; exact hmeets _ _ (fun h => nomatch h) rfl) rfl
  exact ⟨_, h₄⟩

/-- The closed case is complete, and a patch of its title leaves it so. -/
theorem closed_of_caseRun_closedRow : closedRow.view.ClosedOk ∧
    ∃ audit after, CaseRun noUuids (fun _ view patch => Careful view patch)
        ⟨some (.caseFile closedRow), audit⟩ ∧
      changeCase noUuids sampleReadings.now closedRow.view titlePatch = .ok after ∧
      after.title = "Port scan" ∧ after.ClosedOk ∧
      (caseColumns sampleReadings.databaseNow closedRow after none).closedInvariant := by
  obtain ⟨audit, hrun⟩ := caseRun_closedRow (fun _ view patch => Careful view patch)
    fun _ _ hopen _ hclosed => absurd hclosed hopen
  obtain ⟨row, hrecord, hok, hpatch⟩ := closed_of_caseRun hrun
  cases hrecord
  have hcareful : Careful closedRow.view titlePatch := fun _ _ => ⟨by decide, nofun⟩
  obtain ⟨hcolumns, hafter⟩ := hpatch sampleReadings.now titlePatch _ rfl
  exact ⟨hok, audit, _, hrun, rfl, rfl, hafter.2 hcareful, hcolumns hcareful _ _⟩

/-- **A closed case may be left incomplete**: the reason of the closed case can be blanked, and a
patch that takes its disposition back passes the checks of `updateCase` and breaks the check of the
table. -/
theorem not_closed_of_caseRun :
    (∃ row audit, CaseRun noUuids (fun _ _ _ => True) ⟨some (.caseFile row), audit⟩ ∧
      ¬ row.view.ClosedOk) ∧
    ∃ audit after, CaseRun noUuids (fun _ _ _ => True) ⟨some (.caseFile closedRow), audit⟩ ∧
      changeCase noUuids sampleReadings.now closedRow.view undeterminedPatch = .ok after ∧
      ¬ (caseColumns sampleReadings.databaseNow closedRow after none).closedInvariant ∧
      updateCaseRow noUuids sampleReadings.databaseNow closedRow after =
        .error (.database "investigation_cases_closed_invariant") := by
  obtain ⟨audit, hrun⟩ := caseRun_closedRow (fun _ _ _ => True) fun _ _ _ _ => trivial
  refine ⟨⟨_, _, hrun.update sampleIdentity sampleReadings blankPatch (fun _ _ => trivial) rfl, ?_⟩,
    audit, _, hrun, rfl, by decide, rfl⟩
  intro hok
  exact nomatch (hok.1 rfl).2.1

end Operational

end Cerbero
