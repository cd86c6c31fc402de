import Mathlib.Data.List.Nodup
import Cerbero.Detection.Repository

/-!
# Detection/Ledger — the tables of the analytical runtime as one list of objects

What the repository is for: a list of Signals and Findings, each of them recorded once under its
logical identity and announced once (`record`).  The tables are an image of that list
(`Represents`): one row an object, the rows of its inputs, and one message of the outbox, in the
order in which the objects were recorded.  **A call of the repository is a record in that list**
(`persistSignal_record`, `persistFinding_record`).
-/

namespace Cerbero

namespace Detection

/-! ## Objects -/

/-- What the repository stores. -/
inductive AnalyticalObject
  | signal (signal : Signal)
  | finding (finding : Finding)

section

variable (repository : AnalyticalRepository)

/-- The logical identity of an object: its key among the objects of its kind. -/
def AnalyticalObject.identity : AnalyticalObject → Option (String ⊕ String)
  | .signal s => some (.inl (signalLogicalKey repository s))
  | .finding f => (findingLogicalKey repository f).toOption.map .inr

/-- The row of a Signal. -/
def signalRow (signal : Signal) : AnalyticalRow where
  objectId := uuidText signal.signalId
  tenantId := uuidText signal.tenantId
  createdAt := signal.createdAt.getD ⟨0, 0⟩
  payload := repository.signalWire.encode signal

/-- The row of a Finding. -/
def findingRow (finding : Finding) : AnalyticalRow where
  objectId := uuidText finding.findingId
  tenantId := uuidText finding.tenantId
  createdAt := finding.createdAt.getD ⟨0, 0⟩
  payload := repository.findingWire.encode finding

/-- The row of an object in `detection.signals`. -/
def AnalyticalObject.signalEntry : AnalyticalObject → Option (String × AnalyticalRow)
  | .signal s => some (signalLogicalKey repository s, signalRow repository s)
  | .finding _ => none

/-- The row of an object in `investigation.findings`. -/
def AnalyticalObject.findingEntry : AnalyticalObject → Option (String × AnalyticalRow)
  | .signal _ => none
  | .finding f => (findingLogicalKey repository f).toOption.map fun key =>
      (key, findingRow repository f)

/-- The rows of an object in `detection.signal_inputs`. -/
def AnalyticalObject.signalInputs : AnalyticalObject → List (String × SignalInput)
  | .signal s => s.inputs.map fun input => (uuidText s.signalId, input)
  | .finding _ => []

/-- The rows of an object in the table of the inputs of Findings. -/
def AnalyticalObject.findingInputs : AnalyticalObject → List (String × FindingInput)
  | .signal _ => []
  | .finding f => f.inputs.map fun input => (uuidText f.findingId, input)

/-- The row of an object in the table of the provenance of Findings. -/
def AnalyticalObject.findingProvenance :
    AnalyticalObject → List (String × FindingCorrelationProvenance)
  | .signal _ => []
  | .finding f => f.correlationProvenance.toList.map fun p =>
      (uuidText f.findingId, p)

/-- What a message announces: its subject, tenant, time and payload. -/
structure Announcement where
  subject : String
  tenantId : String
  emittedAt : Option Timestamp
  payload : Option AnyMessage

/-- What a row of the outbox announces. -/
def OutboxRow.announcement (row : OutboxRow) : Announcement :=
  ⟨row.subject, row.envelope.tenantId, row.envelope.emittedAt, row.envelope.payload⟩

/-- The announcement of an object. -/
def AnalyticalObject.announcement : AnalyticalObject → Announcement
  | .signal s => ⟨"cerbero.v1.signal.created", s.tenantId, s.createdAt,
      some ⟨"type.googleapis.com/cerbero.contracts.v1.Signal",
        repository.signalWire.encode s⟩⟩
  | .finding f => ⟨"cerbero.v1.finding.created", f.tenantId, f.createdAt,
      some ⟨"type.googleapis.com/cerbero.contracts.v1.Finding",
        repository.findingWire.encode f⟩⟩

/-- What a call checks of an object. -/
def AnalyticalObject.Accepted : AnalyticalObject → Prop
  | .signal s => validateSignal s = .ok ()
  | .finding f => validateFinding f = .ok () ∧ f.correlationProvenance.isSome

/-! ## The ledger -/

/-- **Record an object**: if its identity is taken, the object recorded under it is returned. -/
def record (ledger : List AnalyticalObject) (object : AnalyticalObject) :
    List AnalyticalObject × AnalyticalObject :=
  match ledger.find? fun o => o.identity repository = object.identity repository with
  | some recorded => (ledger, recorded)
  | none => (ledger ++ [object], object)

/-- **The tables are the image of a ledger** that has each identity once. -/
structure Represents (ledger : List AnalyticalObject) (store : AnalyticalStore) : Prop where
  nodup : (ledger.map (AnalyticalObject.identity repository)).Nodup
  accepted : ∀ object ∈ ledger, object.Accepted
  signals : store.signals =
    SortedMap.ofList (ledger.filterMap (AnalyticalObject.signalEntry repository))
  signalInputs : store.signalInputs = ledger.flatMap AnalyticalObject.signalInputs
  findings : store.findings =
    SortedMap.ofList (ledger.filterMap (AnalyticalObject.findingEntry repository))
  findingInputs : store.findingInputs = ledger.flatMap AnalyticalObject.findingInputs
  findingProvenance : store.findingProvenance = ledger.flatMap AnalyticalObject.findingProvenance
  outbox : store.outbox.map OutboxRow.announcement =
    ledger.map (AnalyticalObject.announcement repository)

theorem represents_empty : Represents repository [] .empty :=
  ⟨List.nodup_nil, List.forall_mem_nil _, rfl, rfl, rfl, rfl, rfl, rfl⟩

end

/-! ## What a call does, in full -/

/-- An insertion finds the row of the key or adds one. -/
theorem insertOnce_cases {table table' : SortedMap String AnalyticalRow} {logicalKey : String}
    {row : AnalyticalRow} {inserted : Bool}
    (h : insertOnce table logicalKey row = .ok (inserted, table')) :
    (inserted = false ∧ table' = table ∧ table.get? logicalKey ≠ none) ∨
      (inserted = true ∧ table' = table.insert logicalKey row ∧ table.get? logicalKey = none) := by
  rw [insertOnce] at h
  cases hget : table.get? logicalKey with
  | some taken =>
    simp only [hget] at h
    obtain ⟨rfl, rfl⟩ := Prod.mk.inj (Except.ok.inj h)
    exact .inl ⟨rfl, rfl, Option.some_ne_none taken⟩
  | none =>
    simp only [hget] at h
    split_ifs at h
    obtain ⟨rfl, rfl⟩ := Prod.mk.inj (Except.ok.inj h)
    exact .inr ⟨rfl, rfl, rfl⟩

theorem timestampParts_eq_ok {value : Option Timestamp} {field : String} {timestamp : Timestamp}
    (h : timestampParts value field = .ok timestamp) : value = some timestamp := by
  cases value with
  | none => cases h
  | some t => exact congrArg some (Except.ok.inj h)

theorem signalInputRows_eq_ok {signal : Signal} {rows : List (String × SignalInput)}
    (h : signalInputRows signal = .ok rows) : rows = (AnalyticalObject.signal signal).signalInputs := by
  rw [signalInputRows] at h
  split_ifs at h
  exact (Except.ok.inj h).symm

section

variable {repository : AnalyticalRepository} {messageId : String}
  {store store' : AnalyticalStore}

theorem envelope_eq_ok {spec : EnvelopeSpec} {tenantId : String} {emittedAt : Option Timestamp}
    {value : List UInt8} {message : CerberoEnvelope}
    (h : envelope repository messageId spec tenantId emittedAt value = .ok message)
    (subject : String) : (OutboxRow.mk subject message).announcement =
      ⟨subject, tenantId, emittedAt, some ⟨spec.typeUrl, value⟩⟩ := by
  obtain ⟨-, h⟩ := check_bind_eq_ok.1 h
  obtain rfl := Except.ok.inj h
  rfl

/-- **All that `persist_signal` does**: nothing if the key is taken, else it writes the row, the
inputs and the message. -/
theorem persistSignal_cases {signal stored : Signal}
    (h : persistSignal repository messageId store signal = .ok (store', stored)) :
    validateSignal signal = .ok () ∧
      ((store.signals.get? (signalLogicalKey repository signal) ≠ none ∧ store' = store ∧
          readBack repository.signalWire store.signals (signalLogicalKey repository signal) =
            .ok stored) ∨
        (store.signals.get? (signalLogicalKey repository signal) = none ∧ stored = signal ∧
          ∃ message : OutboxRow,
            message.announcement = (AnalyticalObject.signal signal).announcement repository ∧
            store' = { store with
              signals := store.signals.insert (signalLogicalKey repository signal)
                (signalRow repository signal)
              signalInputs := store.signalInputs ++ (AnalyticalObject.signal signal).signalInputs
              outbox := store.outbox ++ [message] })) := by
  rw [persistSignal, check_bind_eq_ok, mapError_eq_ok] at h
  obtain ⟨hvalid, h⟩ := h
  obtain ⟨createdAt, hcreated, h⟩ := bind_eq_ok.1 h
  have hrow : (⟨uuidText signal.signalId, uuidText signal.tenantId, createdAt,
      repository.signalWire.encode signal⟩ : AnalyticalRow) = signalRow repository signal := by
    rw [signalRow, timestampParts_eq_ok hcreated]
    rfl
  obtain ⟨⟨inserted, signals⟩, hinsert, h⟩ := bind_eq_ok.1 h
  rw [hrow] at hinsert
  refine ⟨hvalid, ?_⟩
  obtain ⟨rfl, rfl, hkey⟩ | ⟨rfl, rfl, hkey⟩ := insertOnce_cases hinsert
  · obtain ⟨object, hread, h⟩ := bind_eq_ok.1 h
    obtain ⟨rfl, rfl⟩ := Prod.mk.inj (Except.ok.inj h)
    exact .inl ⟨hkey, rfl, hread⟩
  · obtain ⟨inputs, hinputs, h⟩ := bind_eq_ok.1 h
    obtain ⟨message, hmessage, h⟩ := bind_eq_ok.1 h
    obtain ⟨object, hread, h⟩ := bind_eq_ok.1 h
    obtain ⟨rfl, rfl⟩ := Prod.mk.inj (Except.ok.inj h)
    have hobject : object = signal := by
      obtain ⟨row, hget, hdecode⟩ := readBack_eq_ok hread
      rw [SortedMap.get?_insert_self] at hget
      obtain rfl := Option.some.inj hget
      rw [signalRow, repository.signalWire.decode_encode] at hdecode
      exact (Option.some.inj hdecode).symm
    refine .inr ⟨hkey, hobject, ⟨"cerbero.v1.signal.created", message⟩,
      envelope_eq_ok hmessage _, ?_⟩
    rw [signalInputRows_eq_ok hinputs]

/-- **All that `persist_finding` does.** -/
theorem persistFinding_cases {finding stored : Finding}
    (h : persistFinding repository messageId store finding = .ok (store', stored)) :
    validateFinding finding = .ok () ∧ ∃ key, findingLogicalKey repository finding = .ok key ∧
      ((store.findings.get? key ≠ none ∧ store' = store ∧
          readBack repository.findingWire store.findings key = .ok stored) ∨
        (store.findings.get? key = none ∧ stored = finding ∧ ∃ message : OutboxRow,
            message.announcement = (AnalyticalObject.finding finding).announcement repository ∧
            store' = { store with
              findings := store.findings.insert key (findingRow repository finding)
              findingInputs := store.findingInputs ++
                (AnalyticalObject.finding finding).findingInputs
              findingProvenance := store.findingProvenance ++
                (AnalyticalObject.finding finding).findingProvenance
              outbox := store.outbox ++ [message] })) := by
  rw [persistFinding, check_bind_eq_ok, mapError_eq_ok] at h
  obtain ⟨hvalid, h⟩ := h
  obtain ⟨key, hlogical, h⟩ := bind_eq_ok.1 h
  obtain ⟨createdAt, hcreated, h⟩ := bind_eq_ok.1 h
  have hrow : (⟨uuidText finding.findingId, uuidText finding.tenantId, createdAt,
      repository.findingWire.encode finding⟩ : AnalyticalRow) = findingRow repository finding := by
    rw [findingRow, timestampParts_eq_ok hcreated]
    rfl
  obtain ⟨⟨inserted, findings⟩, hinsert, h⟩ := bind_eq_ok.1 h
  rw [hrow] at hinsert
  refine ⟨hvalid, key, hlogical, ?_⟩
  obtain ⟨rfl, rfl, hkey⟩ | ⟨rfl, rfl, hkey⟩ := insertOnce_cases hinsert
  · obtain ⟨object, hread, h⟩ := bind_eq_ok.1 h
    obtain ⟨rfl, rfl⟩ := Prod.mk.inj (Except.ok.inj h)
    exact .inl ⟨hkey, rfl, hread⟩
  · obtain ⟨message, hmessage, h⟩ := bind_eq_ok.1 h
    obtain ⟨object, hread, h⟩ := bind_eq_ok.1 h
    obtain ⟨rfl, rfl⟩ := Prod.mk.inj (Except.ok.inj h)
    have hobject : object = finding := by
      obtain ⟨row, hget, hdecode⟩ := readBack_eq_ok hread
      rw [SortedMap.get?_insert_self] at hget
      obtain rfl := Option.some.inj hget
      rw [findingRow, repository.findingWire.decode_encode] at hdecode
      exact (Option.some.inj hdecode).symm
    exact .inr ⟨hkey, hobject, ⟨"cerbero.v1.finding.created", message⟩,
      envelope_eq_ok hmessage _, rfl⟩

end

/-! ## Looking an object up -/

section

variable {repository : AnalyticalRepository} {ledger : List AnalyticalObject}
  {object : AnalyticalObject} {key : String} {row : AnalyticalRow}

theorem identity_eq_inl : object.identity repository = some (.inl key) ↔
    ∃ s, object = .signal s ∧ signalLogicalKey repository s = key := by
  cases object with
  | signal s => simp [AnalyticalObject.identity]
  | finding f => simp [AnalyticalObject.identity]

theorem identity_eq_inr : object.identity repository = some (.inr key) ↔
    ∃ f, object = .finding f ∧ findingLogicalKey repository f = .ok key := by
  cases object with
  | signal s => simp [AnalyticalObject.identity]
  | finding f =>
    cases hkey : findingLogicalKey repository f with
    | error e => simp [AnalyticalObject.identity, hkey, Except.toOption]
    | ok k => simp [AnalyticalObject.identity, hkey, Except.toOption]

theorem eq_ok_of_toOption {ε α : Type} {x : Except ε α} {a : α} (h : x.toOption = some a) :
    x = .ok a := by
  cases x with
  | error e => cases h
  | ok b => exact congrArg Except.ok (Option.some.inj h)

theorem map_fst_signalEntry : (object.signalEntry repository).map Prod.fst =
    (object.identity repository).bind Sum.getLeft? := by
  cases object with
  | signal s => rfl
  | finding f =>
    cases hkey : findingLogicalKey repository f with
    | error e => simp [AnalyticalObject.identity, AnalyticalObject.signalEntry, hkey, Except.toOption]
    | ok k => simp [AnalyticalObject.identity, AnalyticalObject.signalEntry, hkey, Except.toOption]

theorem map_fst_findingEntry : (object.findingEntry repository).map Prod.fst =
    (object.identity repository).bind Sum.getRight? := by
  cases object with
  | signal s => rfl
  | finding f =>
    cases hkey : findingLogicalKey repository f with
    | error e => simp [AnalyticalObject.identity, AnalyticalObject.findingEntry, hkey, Except.toOption]
    | ok k => simp [AnalyticalObject.identity, AnalyticalObject.findingEntry, hkey, Except.toOption]

/-- Keys of one kind are apart if identities are. -/
theorem nodup_map_fst {entry : AnalyticalObject → Option (String × AnalyticalRow)}
    {side : String ⊕ String → Option String}
    (hside : ∀ a b k, side a = some k → side b = some k → a = b)
    (hentry : ∀ o, (entry o).map Prod.fst = (o.identity repository).bind side)
    (h : (ledger.map (AnalyticalObject.identity repository)).Nodup) :
    ((ledger.filterMap entry).map Prod.fst).Nodup := by
  have hkeys : (ledger.filterMap entry).map Prod.fst =
      (ledger.map (AnalyticalObject.identity repository)).filterMap (Option.bind · side) := by
    rw [List.map_filterMap, List.filterMap_map]
    exact List.filterMap_congr fun o _ => hentry o
  rw [hkeys]
  refine h.filterMap fun a b k ha hb => ?_
  obtain ⟨x, rfl, hx⟩ := Option.bind_eq_some_iff.1 ha
  obtain ⟨y, rfl, hy⟩ := Option.bind_eq_some_iff.1 hb
  rw [hside x y k hx hy]

theorem getLeft?_inj (a b : String ⊕ String) (k : String) (ha : a.getLeft? = some k)
    (hb : b.getLeft? = some k) : a = b := by
  rw [Sum.getLeft?_eq_some_iff] at ha hb
  rw [ha, hb]

theorem getRight?_inj (a b : String ⊕ String) (k : String) (ha : a.getRight? = some k)
    (hb : b.getRight? = some k) : a = b := by
  rw [Sum.getRight?_eq_some_iff] at ha hb
  rw [ha, hb]

theorem get?_ofList_eq_some {entries : List (String × AnalyticalRow)}
    (h : (entries.map Prod.fst).Nodup) :
    (SortedMap.ofList entries).get? key = some row ↔ (key, row) ∈ entries :=
  SortedMap.mem_toList.symm.trans (SortedMap.mem_ofList_iff h)

variable {store : AnalyticalStore}

/-- **The rows of `detection.signals`** are those of the recorded Signals. -/
theorem Represents.get?_signals (h : Represents repository ledger store) :
    store.signals.get? key = some row ↔ ∃ s, .signal s ∈ ledger ∧
      signalLogicalKey repository s = key ∧ signalRow repository s = row := by
  rw [h.signals, get?_ofList_eq_some
    (nodup_map_fst getLeft?_inj (fun _ => map_fst_signalEntry) h.nodup), List.mem_filterMap]
  constructor
  · rintro ⟨o, ho, hentry⟩
    cases o with
    | signal s =>
      obtain ⟨hkey, hrow⟩ := Prod.mk.inj (Option.some.inj hentry)
      exact ⟨s, ho, hkey, hrow⟩
    | finding f => cases hentry
  · rintro ⟨s, hs, rfl, rfl⟩
    exact ⟨.signal s, hs, rfl⟩

/-- **The rows of `investigation.findings`** are those of the recorded Findings. -/
theorem Represents.get?_findings (h : Represents repository ledger store) :
    store.findings.get? key = some row ↔ ∃ f, .finding f ∈ ledger ∧
      findingLogicalKey repository f = .ok key ∧ findingRow repository f = row := by
  rw [h.findings, get?_ofList_eq_some
    (nodup_map_fst getRight?_inj (fun _ => map_fst_findingEntry) h.nodup), List.mem_filterMap]
  constructor
  · rintro ⟨o, ho, hentry⟩
    cases o with
    | signal s => cases hentry
    | finding f =>
      obtain ⟨k, hk, heq⟩ := Option.map_eq_some_iff.1 hentry
      obtain ⟨rfl, hrow⟩ := Prod.mk.inj heq
      exact ⟨f, ho, eq_ok_of_toOption hk, hrow⟩
  · rintro ⟨f, hf, hkey, rfl⟩
    refine ⟨.finding f, hf, ?_⟩
    rw [AnalyticalObject.findingEntry, hkey]
    rfl

/-- An object whose identity is recorded is not recorded again. -/
theorem record_of_mem {taken : AnalyticalObject}
    (hnodup : (ledger.map (AnalyticalObject.identity repository)).Nodup) (htaken : taken ∈ ledger)
    (hidentity : taken.identity repository = object.identity repository) :
    record repository ledger object = (ledger, taken) := by
  rw [record]
  cases hfind : ledger.find? fun o => o.identity repository = object.identity repository with
  | none => exact absurd (decide_eq_true hidentity) (List.find?_eq_none.1 hfind taken htaken)
  | some found =>
    have hsame : found.identity repository = object.identity repository := by
      simpa using List.find?_some hfind
    rw [List.inj_on_of_nodup_map hnodup (List.mem_of_find?_eq_some hfind) htaken
      (hsame.trans hidentity.symm)]

theorem record_of_forall_ne
    (h : ∀ o ∈ ledger, o.identity repository ≠ object.identity repository) :
    record repository ledger object = (ledger ++ [object], object) := by
  rw [record]
  cases hfind : ledger.find? fun o => o.identity repository = object.identity repository with
  | none => rfl
  | some found =>
    have hsame : found.identity repository = object.identity repository := by
      simpa using List.find?_some hfind
    exact absurd hsame (h found (List.mem_of_find?_eq_some hfind))

theorem ofList_concat (entries : List (String × AnalyticalRow)) (key : String)
    (row : AnalyticalRow) :
    SortedMap.ofList (entries ++ [(key, row)]) = (SortedMap.ofList entries).insert key row := by
  rw [SortedMap.ofList, SortedMap.ofList, List.foldl_concat]

end

/-! ## Calls are records -/

section

variable {repository : AnalyticalRepository} {messageId : String} {ledger : List AnalyticalObject}
  {store store' : AnalyticalStore}

theorem nodup_concat {object : AnalyticalObject}
    (h : (ledger.map (AnalyticalObject.identity repository)).Nodup)
    (hnew : ∀ o ∈ ledger, o.identity repository ≠ object.identity repository) :
    ((ledger ++ [object]).map (AnalyticalObject.identity repository)).Nodup := by
  rw [List.map_append, List.map_singleton, ← List.concat_eq_append]
  refine h.concat fun hmem => ?_
  obtain ⟨o, ho, hsame⟩ := List.mem_map.1 hmem
  exact hnew o ho hsame

theorem accepted_concat {object : AnalyticalObject}
    (h : ∀ o ∈ ledger, o.Accepted) (hobject : object.Accepted) :
    ∀ o ∈ ledger ++ [object], o.Accepted := by
  intro o ho
  obtain ho | ho := List.mem_append.1 ho
  · exact h o ho
  · rw [List.mem_singleton.1 ho]
    exact hobject

/-- **`persist_signal` is a record in the ledger.** -/
theorem persistSignal_record {signal stored : Signal} (h : Represents repository ledger store)
    (hcall : persistSignal repository messageId store signal = .ok (store', stored)) :
    Represents repository (record repository ledger (.signal signal)).1 store' ∧
      (record repository ledger (.signal signal)).2 = .signal stored := by
  obtain ⟨hvalid, ⟨hkey, rfl, hread⟩ | ⟨hkey, rfl, message, hmessage, rfl⟩⟩ :=
    persistSignal_cases hcall
  · obtain ⟨row, hrow, hdecode⟩ := readBack_eq_ok hread
    obtain ⟨s, hs, hsame, rfl⟩ := h.get?_signals.1 hrow
    rw [signalRow, repository.signalWire.decode_encode] at hdecode
    obtain rfl := Option.some.inj hdecode
    have hidentity : (AnalyticalObject.signal s).identity repository =
        (AnalyticalObject.signal signal).identity repository :=
      identity_eq_inl.2 ⟨s, rfl, hsame⟩
    rw [record_of_mem h.nodup hs hidentity]
    exact ⟨h, rfl⟩
  · have hnew : ∀ o ∈ ledger,
        o.identity repository ≠ (AnalyticalObject.signal stored).identity repository := by
      intro o ho hsame
      obtain ⟨s, rfl, hs⟩ := identity_eq_inl.1 hsame
      rw [h.get?_signals.2 ⟨s, ho, hs, rfl⟩] at hkey
      cases hkey
    rw [record_of_forall_ne hnew]
    refine ⟨?_, rfl⟩
    exact
      { nodup := nodup_concat h.nodup hnew
        accepted := accepted_concat h.accepted hvalid
        signals := by
          rw [List.filterMap_append, h.signals]
          exact (ofList_concat _ _ _).symm
        signalInputs := by
          rw [List.flatMap_append, h.signalInputs, List.flatMap_singleton]
        findings := by
          rw [List.filterMap_append, h.findings]
          exact congrArg SortedMap.ofList (List.append_nil _).symm
        findingInputs := by
          rw [List.flatMap_append, h.findingInputs]
          exact (List.append_nil _).symm
        findingProvenance := by
          rw [List.flatMap_append, h.findingProvenance]
          exact (List.append_nil _).symm
        outbox := by
          rw [List.map_append, List.map_append, h.outbox, List.map_singleton, hmessage]
          rfl }

/-- **`persist_finding` is a record in the ledger.** -/
theorem persistFinding_record {finding stored : Finding} (h : Represents repository ledger store)
    (hcall : persistFinding repository messageId store finding = .ok (store', stored)) :
    Represents repository (record repository ledger (.finding finding)).1 store' ∧
      (record repository ledger (.finding finding)).2 = .finding stored := by
  obtain ⟨hvalid, key, hlogical, hcases⟩ := persistFinding_cases hcall
  have hidentity : (AnalyticalObject.finding finding).identity repository = some (.inr key) :=
    identity_eq_inr.2 ⟨finding, rfl, hlogical⟩
  obtain ⟨hkey, rfl, hread⟩ | ⟨hkey, rfl, message, hmessage, rfl⟩ := hcases
  · obtain ⟨row, hrow, hdecode⟩ := readBack_eq_ok hread
    obtain ⟨f, hf, hsame, rfl⟩ := h.get?_findings.1 hrow
    rw [findingRow, repository.findingWire.decode_encode] at hdecode
    obtain rfl := Option.some.inj hdecode
    rw [record_of_mem h.nodup hf ((identity_eq_inr.2 ⟨f, rfl, hsame⟩).trans hidentity.symm)]
    exact ⟨h, rfl⟩
  · have hnew : ∀ o ∈ ledger,
        o.identity repository ≠ (AnalyticalObject.finding stored).identity repository := by
      intro o ho hsame
      obtain ⟨f, rfl, hf⟩ := identity_eq_inr.1 (hsame.trans hidentity)
      rw [h.get?_findings.2 ⟨f, ho, hf, rfl⟩] at hkey
      cases hkey
    have hprovenance : stored.correlationProvenance.isSome := by
      rw [findingLogicalKey] at hlogical
      cases hp : stored.correlationProvenance with
      | none => simp [hp] at hlogical
      | some provenance => rfl
    rw [record_of_forall_ne hnew]
    refine ⟨?_, rfl⟩
    exact
      { nodup := nodup_concat h.nodup hnew
        accepted := accepted_concat h.accepted ⟨hvalid, hprovenance⟩
        signals := by
          rw [List.filterMap_append, h.signals]
          exact congrArg SortedMap.ofList (List.append_nil _).symm
        signalInputs := by
          rw [List.flatMap_append, h.signalInputs]
          exact (List.append_nil _).symm
        findings := by
          have hentry : [AnalyticalObject.finding stored].filterMap
              (AnalyticalObject.findingEntry repository) = [(key, findingRow repository stored)] := by
            simp [AnalyticalObject.findingEntry, hlogical, Except.toOption]
          rw [List.filterMap_append, h.findings, hentry]
          exact (ofList_concat _ _ _).symm
        findingInputs := by
          rw [List.flatMap_append, h.findingInputs, List.flatMap_singleton]
        findingProvenance := by
          rw [List.flatMap_append, h.findingProvenance, List.flatMap_singleton]
        outbox := by
          rw [List.map_append, List.map_append, h.outbox, List.map_singleton, hmessage]
          rfl }

/-! ## New objects -/

/-- An insertion under a new key, of a new identifier. -/
theorem insertOnce_of_new {table : SortedMap String AnalyticalRow} {logicalKey : String}
    (hkey : table.get? logicalKey = none) (row : AnalyticalRow)
    (hid : ∀ key taken, table.get? key = some taken → taken.objectId ≠ row.objectId) :
    insertOnce table logicalKey row = .ok (true, table.insert logicalKey row) := by
  have hany : (table.toList.any fun entry => entry.2.objectId == row.objectId) = false := by
    rw [List.any_eq_false]
    intro entry hentry hsame
    exact hid entry.1 entry.2 (SortedMap.mem_toList.1 hentry) (eq_of_beq hsame)
  rw [insertOnce, hkey]
  simp only [hany, Bool.false_eq_true, if_false]

/-- What was inserted is read back. -/
theorem readBack_insert {M : Type} (wire : Wire M) (table : SortedMap String AnalyticalRow)
    (logicalKey : String) {row : AnalyticalRow} {object : M} (hrow : row.payload = wire.encode object) :
    readBack wire (table.insert logicalKey row) logicalKey = .ok object := by
  rw [readBack, SortedMap.get?_insert_self]
  simp only [hrow, wire.decode_encode]

theorem exists_of_validateRequiredTimestamp {field : String} {value : Option Timestamp}
    (h : validateRequiredTimestamp field value = .ok ()) : ∃ timestamp, value = some timestamp := by
  cases value with
  | none => cases h
  | some timestamp => exact ⟨timestamp, rfl⟩

/-- The message of an object is a valid envelope. -/
theorem exists_envelope_eq_ok {emittedAt : Option Timestamp}
    (hversion : repository.componentVersion ≠ "")
    (hmessage : validateUuidV7 "message_id" messageId = .ok ()) (spec : EnvelopeSpec)
    (htype : spec.messageType ≠ "") (hschema : spec.payloadSchema ≠ "") (tenantId : String)
    (hemitted : validateRequiredTimestamp "emitted_at" emittedAt = .ok ()) (value : List UInt8) :
    ∃ message, envelope repository messageId spec tenantId emittedAt value = .ok message := by
  simp only [envelope, validateEnvelope, hmessage, hemitted, rejectIf, ok_bind, beq_iff_eq, htype,
    hschema, hversion, Option.isNone_some, bne_self_eq_false, Bool.false_eq_true, if_false]
  exact ⟨_, rfl⟩

variable (hversion : repository.componentVersion ≠ "")
  (hmessage : validateUuidV7 "message_id" messageId = .ok ())

include hversion hmessage

/-- **A Signal is made durable** if it is valid and neither its key nor its identifier is taken. -/
theorem exists_persistSignal_eq_ok {signal : Signal} (h : Represents repository ledger store)
    (hvalid : validateSignal signal = .ok ())
    (hemitted : validateRequiredTimestamp "emitted_at" signal.createdAt = .ok ())
    (hordinals : ∀ input ∈ signal.inputs, input.ordinal < 2 ^ 31)
    (hnew : ∀ s, .signal s ∈ ledger → signalLogicalKey repository s ≠ signalLogicalKey repository signal ∧
      uuidText s.signalId ≠ uuidText signal.signalId) :
    ∃ store', persistSignal repository messageId store signal = .ok (store', signal) ∧
      Represents repository (ledger ++ [.signal signal]) store' := by
  obtain ⟨createdAt, hcreated⟩ := exists_of_validateRequiredTimestamp hemitted
  have hkey : store.signals.get? (signalLogicalKey repository signal) = none := by
    cases hget : store.signals.get? (signalLogicalKey repository signal) with
    | none => rfl
    | some row =>
      obtain ⟨s, hs, hsame, -⟩ := h.get?_signals.1 hget
      exact absurd hsame (hnew s hs).1
  have hinsert := insertOnce_of_new hkey ⟨uuidText signal.signalId, uuidText signal.tenantId,
      createdAt, repository.signalWire.encode signal⟩ fun key taken htaken => by
    obtain ⟨s, hs, -, rfl⟩ := h.get?_signals.1 htaken
    exact (hnew s hs).2
  have hinputs : signalInputRows signal = .ok (AnalyticalObject.signal signal).signalInputs := by
    rw [signalInputRows, if_neg]
    · rfl
    · simpa using hordinals
  obtain ⟨message, henvelope⟩ := exists_envelope_eq_ok hversion hmessage ⟨"SignalCreated",
    "cerbero.signal.v1", "type.googleapis.com/cerbero.contracts.v1.Signal"⟩ (by decide) (by decide)
    signal.tenantId hemitted (repository.signalWire.encode signal)
  rw [hcreated] at henvelope
  have hcall : ∃ store', persistSignal repository messageId store signal = .ok (store', signal) := by
    simp only [persistSignal, hvalid, Except.mapError, hcreated, timestampParts, ok_bind, hinsert,
      if_true, hinputs, henvelope]
    rw [readBack_insert repository.signalWire _ _ rfl]
    exact ⟨_, rfl⟩
  obtain ⟨store', hcall⟩ := hcall
  have hrecord := (persistSignal_record h hcall).1
  rw [record_of_forall_ne] at hrecord
  · exact ⟨store', hcall, hrecord⟩
  · intro o ho hsame
    obtain ⟨s, rfl, hs⟩ := identity_eq_inl.1 hsame
    exact (hnew s ho).1 hs

/-- **A Finding is made durable** if it is valid and neither its key nor its identifier is taken. -/
theorem exists_persistFinding_eq_ok {finding : Finding} (h : Represents repository ledger store)
    (hvalid : validateFinding finding = .ok ())
    (hemitted : validateRequiredTimestamp "emitted_at" finding.createdAt = .ok ()) {key : String}
    (hlogical : findingLogicalKey repository finding = .ok key)
    (hnew : ∀ f, .finding f ∈ ledger → findingLogicalKey repository f ≠ .ok key ∧
      uuidText f.findingId ≠ uuidText finding.findingId) :
    ∃ store', persistFinding repository messageId store finding = .ok (store', finding) ∧
      Represents repository (ledger ++ [.finding finding]) store' := by
  obtain ⟨createdAt, hcreated⟩ := exists_of_validateRequiredTimestamp hemitted
  have hkey : store.findings.get? key = none := by
    cases hget : store.findings.get? key with
    | none => rfl
    | some row =>
      obtain ⟨f, hf, hsame, -⟩ := h.get?_findings.1 hget
      exact absurd hsame (hnew f hf).1
  have hinsert := insertOnce_of_new hkey ⟨uuidText finding.findingId, uuidText finding.tenantId,
      createdAt, repository.findingWire.encode finding⟩ fun key taken htaken => by
    obtain ⟨f, hf, -, rfl⟩ := h.get?_findings.1 htaken
    exact (hnew f hf).2
  obtain ⟨message, henvelope⟩ := exists_envelope_eq_ok hversion hmessage ⟨"FindingCreated",
    "cerbero.finding.v1", "type.googleapis.com/cerbero.contracts.v1.Finding"⟩ (by decide) (by decide)
    finding.tenantId hemitted (repository.findingWire.encode finding)
  rw [hcreated] at henvelope
  have hcall : ∃ store', persistFinding repository messageId store finding =
      .ok (store', finding) := by
    simp only [persistFinding, hvalid, Except.mapError, hlogical, hcreated, timestampParts, ok_bind,
      hinsert, if_true, henvelope]
    rw [readBack_insert repository.findingWire _ _ rfl]
    exact ⟨_, rfl⟩
  obtain ⟨store', hcall⟩ := hcall
  have hrecord := (persistFinding_record h hcall).1
  rw [record_of_forall_ne] at hrecord
  · exact ⟨store', hcall, hrecord⟩
  · intro o ho hsame
    obtain ⟨f, rfl, hf⟩ := identity_eq_inr.1
      (hsame.trans (identity_eq_inr.2 ⟨finding, rfl, hlogical⟩))
    exact (hnew f ho).1 hf

end

end Detection

end Cerbero
