import Cerbero.Contracts.Countable
import Cerbero.Detection.Ledger
import Cerbero.Detection.MvpBatch
import Cerbero.Detection.MvpSequence
import Cerbero.Detection.Restamp
import Cerbero.Lib.Rerun
import Cerbero.Lib.Sha256

/-!
# Detection/BatchRuns — batch runs of several processes over one repository

Any number of runs of the MVP rule pack share the tables; their operations interleave, a database
may fail before or after a transaction, and a process may stop.  The tables stay the image of a
ledger in every state, and what a run returns is recorded there
(**`represented_of_reachable`**).  Once a run has ended, every run over the same range leaves the
tables as they are and returns the same objects, whatever its clocks and identifiers
(**`rerun_settled`**).
-/

namespace Cerbero

namespace Detection

open Prog (attempt checked)
open Machine (Grows Ends Settled Again Repeats Holds OnOk Always)

/-! ## The shared tables -/

/-- The rows of a table stay. -/
def Extends (table table' : SortedMap String AnalyticalRow) : Prop :=
  ∀ key row, table.get? key = some row → table'.get? key = some row

/-- A later state has the rows of an earlier one. -/
instance : Preorder AnalyticalStore where
  le store store' := Extends store.signals store'.signals ∧ Extends store.findings store'.findings
  le_refl store := ⟨fun _ _ h => h, fun _ _ h => h⟩
  le_trans _ _ _ h h' :=
    ⟨fun key row hrow => h'.1 key row (h.1 key row hrow),
      fun key row hrow => h'.2 key row (h.2 key row hrow)⟩

theorem extends_insert {table : SortedMap String AnalyticalRow} {key : String}
    (h : table.get? key = none) (row : AnalyticalRow) : Extends table (table.insert key row) := by
  intro k r hr
  rw [SortedMap.get?_insert, if_neg]
  · exact hr
  · rintro rfl
    rw [h] at hr
    cases hr

section

variable {repository : AnalyticalRepository} {messageId : String} {store store' : AnalyticalStore}

theorem le_of_persistSignal {signal stored : Signal}
    (h : persistSignal repository messageId store signal = .ok (store', stored)) :
    store ≤ store' := by
  obtain ⟨-, ⟨-, rfl, -⟩ | ⟨hkey, -, message, -, rfl⟩⟩ := persistSignal_cases h
  · exact le_rfl
  · exact ⟨extends_insert hkey _, fun _ _ hrow => hrow⟩

theorem le_of_persistFinding {finding stored : Finding}
    (h : persistFinding repository messageId store finding = .ok (store', stored)) :
    store ≤ store' := by
  obtain ⟨-, key, -, ⟨-, rfl, -⟩ | ⟨hkey, -, message, -, rfl⟩⟩ := persistFinding_cases h
  · exact le_rfl
  · exact ⟨fun _ _ hrow => hrow, extends_insert hkey _⟩

theorem le_afterCall {M : Type} {result : Except RuntimeError (AnalyticalStore × M)}
    (h : ∀ store' stored, result = .ok (store', stored) → store ≤ store') :
    store ≤ afterCall store result := by
  cases result with
  | error e => exact le_rfl
  | ok r => exact h r.1 r.2 rfl

/-- **A Signal that was made durable is found again**, by every Signal with its identity. -/
theorem persistSignal_again {signal stored again : Signal} {t : AnalyticalStore}
    (h : persistSignal repository messageId store signal = .ok (store', stored)) (ht : store' ≤ t)
    (hvalid : validateSignal again = .ok ()) (hkey : signalKeyText again = signalKeyText signal)
    (messageId' : String) : persistSignal repository messageId' t again = .ok (t, stored) := by
  obtain ⟨-, ⟨row, hrow, hdecode⟩, -⟩ := persistSignal_eq_ok h
  have hlogical : signalLogicalKey repository again = signalLogicalKey repository signal := by
    rw [signalLogicalKey, signalLogicalKey, hkey]
  have hget : t.signals.get? (signalLogicalKey repository again) = some row := by
    rw [hlogical]
    exact ht.1 _ _ hrow
  obtain ⟨createdAt, hcreated⟩ : ∃ createdAt, again.createdAt = some createdAt := by
    simp only [validateSignal, check_bind_eq_ok] at hvalid
    obtain ⟨-, htimes, -⟩ := hvalid
    cases hc : again.createdAt with
    | some createdAt => exact ⟨createdAt, rfl⟩
    | none =>
      rw [validateSignalTimes, hc] at htimes
      split at htimes <;> simp [validateRequiredTimestamp, error_bind] at htimes
  rw [persistSignal, hvalid, hcreated]
  simp only [Except.mapError, ok_bind, timestampParts, insertOnce, hget]
  rw [if_neg Bool.false_ne_true, readBack, hget]
  simp only [hdecode]
  rfl

/-- **A Finding that was made durable is found again.** -/
theorem persistFinding_again {finding stored again : Finding} {t : AnalyticalStore}
    (h : persistFinding repository messageId store finding = .ok (store', stored)) (ht : store' ≤ t)
    (hvalid : validateFinding again = .ok ()) {createdAt : Timestamp}
    (hcreated : again.createdAt = some createdAt)
    (hkey : findingLogicalKey repository again = findingLogicalKey repository finding)
    (messageId' : String) : persistFinding repository messageId' t again = .ok (t, stored) := by
  obtain ⟨-, key, hlogical, ⟨row, hrow, hdecode⟩, -⟩ := persistFinding_eq_ok h
  have hget : t.findings.get? key = some row := ht.2 _ _ hrow
  rw [persistFinding, hvalid, hkey, hlogical, hcreated]
  simp only [Except.mapError, ok_bind, timestampParts, insertOnce, hget]
  rw [if_neg Bool.false_ne_true, readBack, hget]
  simp only [hdecode]
  rfl

end

/-! ## The machine of batch runs -/

section

variable (repository : AnalyticalRepository)
  (rowsOf : String → ExecutionMode → ℤ → ℤ → ℕ → Except RuntimeError (List StoredNormalizedRow))
  (Fault : RuntimeError → Prop)

/-- What a call of the repository may come to: its transaction takes place and its result or a fault
is returned, or it does not take place and a fault is returned. -/
def CallOutcome {M : Type}
    (persist : String → AnalyticalStore → M → Except RuntimeError (AnalyticalStore × M))
    (object : M) (store : AnalyticalStore) (answer : Except RuntimeError M)
    (store' : AnalyticalStore) : Prop :=
  (∃ messageId, store' = afterCall store (persist messageId store object) ∧
      (answer = (persist messageId store object).map Prod.snd ∨
        ∃ e, Fault e ∧ answer = .error e)) ∨
    store' = store ∧ ∃ e, Fault e ∧ answer = .error e

/-- What an operation may come to; the stored events do not change. -/
def batchOutcome : (o : BatchOp) → AnalyticalStore → o.Response → AnalyticalStore → Prop
  | .queryRows tenantId executionMode startMillis endMillis maxEvents, store, answer, store' =>
    store' = store ∧ (answer = rowsOf tenantId executionMode startMillis endMillis maxEvents ∨
      ∃ e, Fault e ∧ answer = .error e)
  | .nowV7, store, answer, store' => store' = store ∧ validateUuidV7 "signal_id" answer = .ok ()
  | .persistSignal signal, store, answer, store' =>
    CallOutcome Fault (persistSignal repository) signal store answer store'
  | .persistFinding finding, store, answer, store' =>
    CallOutcome Fault (persistFinding repository) finding store answer store'

/-- **Batch runs over one repository**; a crash takes the runs, not the tables. -/
def batchMachine (lib : BatchLibraries)
    (thresholdPlan : Except RuntimeError MvpCompiledThresholdPlan) :
    Machine batchInterface AnalyticalStore MvpBatchRequest (Except RuntimeError MvpBatchResult) where
  program request := (execute lib request thresholdPlan).run
  Outcome := batchOutcome repository rowsOf Fault
  Crash store store' := store' = store

end

section

variable {repository : AnalyticalRepository}
  {rowsOf : String → ExecutionMode → ℤ → ℤ → ℕ → Except RuntimeError (List StoredNormalizedRow)}
  {Fault : RuntimeError → Prop}

theorem le_of_callOutcome {M : Type}
    {persist : String → AnalyticalStore → M → Except RuntimeError (AnalyticalStore × M)}
    {object : M} {store store' : AnalyticalStore} {answer : Except RuntimeError M}
    (hpersist : ∀ messageId store' stored, persist messageId store object = .ok (store', stored) →
      store ≤ store') (h : CallOutcome Fault persist object store answer store') :
    store ≤ store' := by
  obtain ⟨messageId, rfl, -⟩ | ⟨rfl, -⟩ := h
  · exact le_afterCall (hpersist messageId)
  · exact le_rfl

theorem grows_batchOutcome :
    Grows (I := batchInterface) (batchOutcome repository rowsOf Fault) := by
  intro o store answer store' h
  cases o with
  | queryRows tenantId executionMode startMillis endMillis maxEvents =>
    obtain ⟨rfl, -⟩ := h
    exact le_rfl
  | nowV7 =>
    obtain ⟨rfl, -⟩ := h
    exact le_rfl
  | persistSignal signal => exact le_of_callOutcome (fun _ _ _ => le_of_persistSignal) h
  | persistFinding finding => exact le_of_callOutcome (fun _ _ _ => le_of_persistFinding) h

/-! ## Runs over the same range -/

/-- A call for an object that was made durable changes nothing and returns it. -/
theorem again_of_callOutcome {M : Type}
    {persist : String → AnalyticalStore → M → Except RuntimeError (AnalyticalStore × M)}
    {object again stored : M} {t t' u u' : AnalyticalStore} {answer : Except RuntimeError M}
    (hagain : ∀ messageId t', persist messageId t object = .ok (t', stored) → t' ≤ u →
      ∀ messageId', persist messageId' u again = .ok (u, stored))
    (h : CallOutcome Fault persist object t (.ok stored) t') (hu : t' ≤ u)
    (h' : CallOutcome Fault persist again u answer u') :
    u' = u ∧ Again Fault (stored = ·) answer := by
  have hfound : ∀ messageId', persist messageId' u again = .ok (u, stored) := by
    obtain ⟨messageId, rfl, hanswer | ⟨e, -, hanswer⟩⟩ | ⟨-, e, -, hanswer⟩ := h
    · cases hcall : persist messageId t object with
      | error e =>
        rw [hcall] at hanswer
        cases hanswer
      | ok r =>
        obtain ⟨after, object'⟩ := r
        rw [hcall] at hanswer hu
        obtain rfl : stored = object' := Except.ok.inj hanswer
        exact hagain messageId after hcall hu
    · cases hanswer
    · cases hanswer
  obtain ⟨messageId', rfl, rfl | ⟨e, he, rfl⟩⟩ | ⟨rfl, e, he, rfl⟩ := h'
  · rw [hfound messageId']
    exact ⟨rfl, rfl⟩
  · rw [hfound messageId']
    exact ⟨rfl, he⟩
  · exact ⟨rfl, he⟩

theorem repeats_collectRounds {α α' β : Type} {round : α → BatchTask (List β)}
    {round' : α' → BatchTask (List β)} {as : List α} {as' : List α'}
    (h : List.Forall₂ (fun a a' =>
      Repeats (batchOutcome repository rowsOf Fault) Fault Eq (round a) (round' a')) as as') :
    Repeats (batchOutcome repository rowsOf Fault) Fault Eq (collectRounds round as)
      (collectRounds round' as') := by
  induction h with
  | nil => exact Machine.repeats_pure rfl
  | cons hround _ ih =>
    refine Machine.repeats_try grows_batchOutcome hround fun made made' hmade => ?_
    subst hmade
    refine Machine.repeats_try grows_batchOutcome ih fun more more' hmore => ?_
    subst hmore
    exact Machine.repeats_pure rfl

/-- Another identifier is drawn. -/
theorem repeats_nowV7 : Repeats (batchOutcome repository rowsOf Fault) Fault
    (fun _ id => validateUuidV7 "signal_id" id = .ok ()) nowV7 nowV7 := by
  refine Machine.repeats_call (I := batchInterface) (G := AnalyticalStore) .nowV7 .nowV7
    Except.ok Except.ok fun t r t' id _ _ u _ r' u' ho => ?_
  exact ⟨ho.1, ho.2⟩

theorem repeats_persistSignal {signal again : Signal} (hvalid : validateSignal again = .ok ())
    (hkey : signalKeyText again = signalKeyText signal) :
    Repeats (batchOutcome repository rowsOf Fault) Fault Eq
      (attempt (perform (.persistSignal signal))) (attempt (perform (.persistSignal again))) := by
  refine Machine.repeats_call (I := batchInterface) (G := AnalyticalStore)
    (.persistSignal signal) (.persistSignal again) (fun r => r) (fun r => r)
    fun t r t' stored ho hr u hu r' u' ho' => ?_
  obtain rfl : r = .ok stored := hr
  exact again_of_callOutcome
    (fun messageId t' hcall hle => persistSignal_again hcall hle hvalid hkey) ho hu ho'

theorem repeats_persistFinding {finding again : Finding} (hvalid : validateFinding again = .ok ())
    {createdAt : Timestamp} (hcreated : again.createdAt = some createdAt)
    (hkey : ∀ repository : AnalyticalRepository,
      findingLogicalKey repository again = findingLogicalKey repository finding) :
    Repeats (batchOutcome repository rowsOf Fault) Fault Eq
      (attempt (perform (.persistFinding finding))) (attempt (perform (.persistFinding again))) := by
  refine Machine.repeats_call (I := batchInterface) (G := AnalyticalStore)
    (.persistFinding finding) (.persistFinding again) (fun r => r) (fun r => r)
    fun t r t' stored ho hr u hu r' u' ho' => ?_
  obtain rfl : r = .ok stored := hr
  exact again_of_callOutcome (fun messageId t' hcall hle =>
    persistFinding_again hcall hle hvalid hcreated (hkey repository)) ho hu ho'

variable {lib : BatchLibraries} {request : MvpBatchRequest} {evaluatedAt createdAt : Timestamp}

/-- The request of another run over the same range. -/
def MvpBatchRequest.restamp (request : MvpBatchRequest) (evaluatedAt createdAt : Timestamp) :
    MvpBatchRequest :=
  { request with evaluatedAt := evaluatedAt, createdAt := createdAt }

section

variable (hevaluated : validateTimestamp "evaluated_at" evaluatedAt = .ok ())
  (hcreated : validateTimestamp "created_at" createdAt = .ok ())

include hevaluated hcreated

theorem repeats_signalOfRule (batchEvent : BatchEvent) (rule : EventRule) :
    Repeats (batchOutcome repository rowsOf Fault) Fault Eq (signalOfRule request batchEvent rule)
      (signalOfRule (request.restamp evaluatedAt createdAt) batchEvent rule) := by
  refine Machine.repeats_try (R := fun o o' => o' = o.map fun p => { p with evaluatedAt := evaluatedAt })
    grows_batchOutcome (Machine.repeats_checked fun o ho => ?_) fun o o' ho => ?_
  · exact ⟨_, mapError_eq_ok.2
      (evaluateNormalizedEventForSignal_restamp hevaluated (mapError_eq_ok.1 ho)), rfl⟩
  subst ho
  cases o with
  | none => exact Machine.repeats_pure rfl
  | some provenance =>
    refine Machine.repeats_try grows_batchOutcome repeats_nowV7 fun id id' hid => ?_
    refine Machine.repeats_try
      (R := fun s s' => s' = restampSignal id' evaluatedAt createdAt s ∧ validateSignal s' = .ok ())
      grows_batchOutcome (Machine.repeats_checked fun s hs => ?_) fun s s' hs => ?_
    · have hmade := materializeEventSignal_restamp hid (validateTimestamp_field hevaluated) hcreated
        (mapError_eq_ok.1 hs)
      refine ⟨_, mapError_eq_ok.2 hmade, rfl, ?_⟩
      obtain ⟨-, hmade⟩ := check_bind_eq_ok.1 hmade
      obtain ⟨hvalid, hmade⟩ := check_bind_eq_ok.1 hmade
      rw [← Except.ok.inj hmade]
      exact hvalid
    · obtain ⟨rfl, hvalid⟩ := hs
      refine Machine.repeats_try grows_batchOutcome
        (repeats_persistSignal hvalid signalKeyText_restamp) fun stored stored' hstored => ?_
      subst hstored
      exact Machine.repeats_pure rfl

theorem repeats_eventSignals (rules : List EventRule) (events : List BatchEvent) :
    Repeats (batchOutcome repository rowsOf Fault) Fault Eq (eventSignals request rules events)
      (eventSignals (request.restamp evaluatedAt createdAt) rules events) :=
  repeats_collectRounds (List.forall₂_same.2 fun batchEvent _ =>
    repeats_collectRounds (List.forall₂_same.2 fun rule _ =>
      repeats_signalOfRule hevaluated hcreated batchEvent rule))

theorem repeats_signalOfThreshold (provenance : ThresholdSignalProvenance String) :
    Repeats (batchOutcome repository rowsOf Fault) Fault Eq (signalOfThreshold request provenance)
      (signalOfThreshold (request.restamp evaluatedAt createdAt)
        { provenance with evaluatedAt := evaluatedAt }) := by
  refine Machine.repeats_try grows_batchOutcome repeats_nowV7 fun id id' hid => ?_
  refine Machine.repeats_try
    (R := fun s s' => s' = restampSignal id' evaluatedAt createdAt s ∧ validateSignal s' = .ok ())
    grows_batchOutcome (Machine.repeats_checked fun s hs => ?_) fun s s' hs => ?_
  · have hmade := materializeThresholdSignal_restamp hid (validateTimestamp_field hevaluated)
      hcreated (mapError_eq_ok.1 hs)
    refine ⟨_, mapError_eq_ok.2 hmade, rfl, ?_⟩
    obtain ⟨-, hmade⟩ := check_bind_eq_ok.1 hmade
    obtain ⟨-, hmade⟩ := check_bind_eq_ok.1 hmade
    obtain ⟨inputs, -, hmade⟩ := bind_eq_ok.1 hmade
    obtain ⟨hvalid, hmade⟩ := check_bind_eq_ok.1 hmade
    rw [← Except.ok.inj hmade]
    exact hvalid
  · obtain ⟨rfl, hvalid⟩ := hs
    refine Machine.repeats_try grows_batchOutcome
      (repeats_persistSignal hvalid signalKeyText_restamp) fun stored stored' hstored => ?_
    subst hstored
    exact Machine.repeats_pure rfl

omit hevaluated in
theorem repeats_findingOfSequence (correlationMatch : SequenceCorrelationMatch) :
    Repeats (batchOutcome repository rowsOf Fault) Fault Eq
      (findingOfSequence request correlationMatch)
      (findingOfSequence (request.restamp evaluatedAt createdAt) correlationMatch) := by
  refine Machine.repeats_try grows_batchOutcome repeats_nowV7 fun id id' hid => ?_
  refine Machine.repeats_try
    (R := fun f f' => f' = restampFinding id' createdAt f ∧ validateFinding f' = .ok ())
    grows_batchOutcome (Machine.repeats_checked fun f hf => ?_) fun f f' hf => ?_
  · have hmade := materializeSequenceCorrelationFinding_restamp (validateUuidV7_field hid) hcreated
      (validateTimestamp_field hcreated) (mapError_eq_ok.1 hf)
    refine ⟨_, mapError_eq_ok.2 hmade, rfl, ?_⟩
    obtain ⟨hvalid, hmade⟩ := check_bind_eq_ok.1 hmade
    rw [← Except.ok.inj hmade]
    exact hvalid
  · obtain ⟨rfl, hvalid⟩ := hf
    refine Machine.repeats_try grows_batchOutcome
      (repeats_persistFinding hvalid rfl fun r => findingLogicalKey_restamp r)
      fun stored stored' hstored => ?_
    subst hstored
    exact Machine.repeats_pure rfl

omit hevaluated hcreated in
theorem repeats_load : Repeats (batchOutcome repository rowsOf Fault) Fault Eq (load lib request)
    (load lib (request.restamp evaluatedAt createdAt)) := by
  refine Machine.repeats_try (R := Eq) grows_batchOutcome (Machine.repeats_call (I := batchInterface)
    (G := AnalyticalStore) (.queryRows request.tenantId request.executionMode request.startMillis
      request.endMillis request.maxEvents) (.queryRows request.tenantId request.executionMode
      request.startMillis request.endMillis request.maxEvents) (fun r => r) (fun r => r)
    fun t r t' rows ho hr u hu r' u' ho' => ?_) fun rows rows' hrows => ?_
  · obtain rfl : r = .ok rows := hr
    obtain ⟨-, hfirst | ⟨e, -, hfirst⟩⟩ := ho
    · obtain ⟨hsame, rfl | ⟨e, he, rfl⟩⟩ := ho'
      · rw [← hfirst]
        exact ⟨hsame, rfl⟩
      · exact ⟨hsame, he⟩
    · cases hfirst
  · subst hrows
    exact Machine.repeats_checked fun events hevents => ⟨events, hevents, rfl⟩

omit hevaluated hcreated in
theorem validateRequest_restamp (hevaluated : validateTimestamp "evaluated_at" evaluatedAt = .ok ())
    (hcreated : validateTimestamp "created_at" createdAt = .ok ())
    (h : validateRequest request = .ok ()) :
    validateRequest (request.restamp evaluatedAt createdAt) = .ok () := by
  simp only [validateRequest, check_bind_eq_ok, mapError_eq_ok] at h ⊢
  exact ⟨h.1, hevaluated, hcreated, h.2.2.2⟩

omit hcreated in
theorem thresholdMatches_restamp {plan : MvpCompiledThresholdPlan} {events : List BatchEvent}
    {found : List (ThresholdSignalProvenance String)}
    (h : thresholdMatches request plan events = .ok found) :
    thresholdMatches (request.restamp evaluatedAt createdAt) plan events =
      .ok (found.map fun m => { m with evaluatedAt := evaluatedAt }) := by
  rw [thresholdMatches, mapError_eq_ok] at h ⊢
  exact evaluateThreshold_restamp hevaluated h

/-- **A batch run repeats every run over the same range.** -/
theorem repeats_execute (thresholdPlan : Except RuntimeError MvpCompiledThresholdPlan) :
    Repeats (batchOutcome repository rowsOf Fault) Fault Eq (execute lib request thresholdPlan)
      (execute lib (request.restamp evaluatedAt createdAt) thresholdPlan) := by
  rw [execute, execute]
  refine Machine.repeats_try (R := Eq) grows_batchOutcome (Machine.repeats_checked fun _ h =>
    ⟨(), validateRequest_restamp hevaluated hcreated h, rfl⟩) fun _ _ _ => ?_
  refine Machine.repeats_try grows_batchOutcome repeats_load fun events events' hevents => ?_
  subst hevents
  refine Machine.repeats_try (R := Eq) grows_batchOutcome (Machine.repeats_checked fun rules h =>
    ⟨rules, h, rfl⟩) fun rules rules' hrules => ?_
  subst hrules
  refine Machine.repeats_try grows_batchOutcome (repeats_eventSignals hevaluated hcreated rules events)
    fun signals signals' hsignals => ?_
  subst hsignals
  refine Machine.repeats_try (R := Eq) grows_batchOutcome (Machine.repeats_checked fun plan h =>
    ⟨plan, h, rfl⟩) fun plan plan' hplan => ?_
  subst hplan
  refine Machine.repeats_try
    (R := fun found found' => found' = found.map fun m => { m with evaluatedAt := evaluatedAt })
    grows_batchOutcome (Machine.repeats_checked fun found h =>
      ⟨_, thresholdMatches_restamp hevaluated h, rfl⟩) fun found found' hfound => ?_
  subst hfound
  refine Machine.repeats_try grows_batchOutcome (repeats_collectRounds (List.forall₂_map_right_iff.2
    (List.forall₂_same.2 fun m _ => repeats_signalOfThreshold hevaluated hcreated m)))
    fun more more' hmore => ?_
  subst hmore
  refine Machine.repeats_try (R := Eq) grows_batchOutcome (Machine.repeats_checked fun sequences h =>
    ⟨sequences, h, rfl⟩) fun sequences sequences' hsequences => ?_
  subst hsequences
  refine Machine.repeats_try grows_batchOutcome (repeats_collectRounds
    (List.forall₂_same.2 fun m _ => repeats_findingOfSequence hcreated m))
    fun findings findings' hfindings => ?_
  subst hfindings
  exact Machine.repeats_pure rfl

/-- **Once a run has ended, every run over the same range is settled**: whatever other runs do in
between and meanwhile, none of its operations changes the tables, and it returns the objects of the
first one unless an operation fails. -/
theorem rerun_settled (thresholdPlan : Except RuntimeError MvpCompiledThresholdPlan)
    {store : AnalyticalStore}
    {s s' : Machine.State batchInterface AnalyticalStore MvpBatchRequest
      (Except RuntimeError MvpBatchResult)}
    (hs : (batchMachine repository rowsOf Fault lib thresholdPlan).Reachable store s) {i : ℕ}
    {result : MvpBatchResult} (hi : s.calls i = some (request, .pure (.ok result)))
    (hsteps : Relation.ReflTransGen (batchMachine repository rowsOf Fault lib thresholdPlan).Step
      s s') :
    Settled (batchOutcome repository rowsOf Fault) (Again Fault (result = ·))
      (execute lib (request.restamp evaluatedAt createdAt) thresholdPlan).run s'.shared :=
  Machine.settled_of_steps (M := batchMachine repository rowsOf Fault lib thresholdPlan)
    grows_batchOutcome (fun _ _ h => le_of_eq (Eq.symm h))
    (repeats_execute hevaluated hcreated thresholdPlan) hs hi hsteps

end

/-! ## The tables in every state -/

variable (repository) in
/-- The tables are the image of some ledger. -/
def Represented (store : AnalyticalStore) : Prop := ∃ ledger, Represents repository ledger store

variable (repository) in
/-- A row of `detection.signals` holds the Signal. -/
def SignalStored (signal : Signal) (store : AnalyticalStore) : Prop :=
  ∃ key row, store.signals.get? key = some row ∧
    repository.signalWire.decode row.payload = some signal

variable (repository) in
/-- A row of `investigation.findings` holds the Finding. -/
def FindingStored (finding : Finding) (store : AnalyticalStore) : Prop :=
  ∃ key row, store.findings.get? key = some row ∧
    repository.findingWire.decode row.payload = some finding

theorem SignalStored.of_le {signal : Signal} {store store' : AnalyticalStore} (hle : store ≤ store')
    (h : SignalStored repository signal store) : SignalStored repository signal store' := by
  obtain ⟨key, row, hrow, hdecode⟩ := h
  exact ⟨key, row, hle.1 key row hrow, hdecode⟩

theorem FindingStored.of_le {finding : Finding} {store store' : AnalyticalStore}
    (hle : store ≤ store') (h : FindingStored repository finding store) :
    FindingStored repository finding store' := by
  obtain ⟨key, row, hrow, hdecode⟩ := h
  exact ⟨key, row, hle.2 key row hrow, hdecode⟩

/-- A stored Signal is one of the ledger. -/
theorem SignalStored.mem {signal : Signal} {store : AnalyticalStore} {ledger : List AnalyticalObject}
    (h : SignalStored repository signal store) (hledger : Represents repository ledger store) :
    .signal signal ∈ ledger := by
  obtain ⟨key, row, hrow, hdecode⟩ := h
  obtain ⟨s, hs, -, rfl⟩ := hledger.get?_signals.1 hrow
  rw [signalRow, repository.signalWire.decode_encode] at hdecode
  rwa [← Option.some.inj hdecode]

/-- A stored Finding is one of the ledger. -/
theorem FindingStored.mem {finding : Finding} {store : AnalyticalStore}
    {ledger : List AnalyticalObject} (h : FindingStored repository finding store)
    (hledger : Represents repository ledger store) : .finding finding ∈ ledger := by
  obtain ⟨key, row, hrow, hdecode⟩ := h
  obtain ⟨f, hf, -, rfl⟩ := hledger.get?_findings.1 hrow
  rw [findingRow, repository.findingWire.decode_encode] at hdecode
  rwa [← Option.some.inj hdecode]

/-- A call keeps the tables the image of a ledger, and what it returns is stored. -/
theorem represented_of_callOutcome {M : Type}
    {persist : String → AnalyticalStore → M → Except RuntimeError (AnalyticalStore × M)}
    {object : M} {P : M → AnalyticalStore → Prop} {t t' : AnalyticalStore}
    {answer : Except RuntimeError M}
    (hpersist : ∀ messageId t' stored, persist messageId t object = .ok (t', stored) →
      Represented repository t' ∧ P stored t')
    (ht : Represented repository t) (h : CallOutcome Fault persist object t answer t') :
    Represented repository t' ∧ OnOk P answer t' := by
  obtain ⟨messageId, rfl, hanswer⟩ | ⟨rfl, e, -, rfl⟩ := h
  · cases hcall : persist messageId t object with
    | error e =>
      rw [hcall] at hanswer
      obtain rfl | ⟨e', -, rfl⟩ := hanswer
      · exact ⟨ht, trivial⟩
      · exact ⟨ht, trivial⟩
    | ok r =>
      obtain ⟨hkept, hstored⟩ := hpersist messageId r.1 r.2 hcall
      rw [hcall] at hanswer
      obtain rfl | ⟨e', -, rfl⟩ := hanswer
      · exact ⟨hkept, hstored⟩
      · exact ⟨hkept, trivial⟩
  · exact ⟨ht, trivial⟩

theorem onOk_of_le {α : Type} {P : α → AnalyticalStore → Prop}
    (hP : ∀ a t u, t ≤ u → P a t → P a u) {r : Except RuntimeError α} {t u : AnalyticalStore}
    (hle : t ≤ u) (h : OnOk P r t) : OnOk P r u := by
  cases r with
  | error e => trivial
  | ok a => exact hP a t u hle h

/-- What a program of batch runs guarantees. -/
abbrev Guarantees {α : Type} (repository : AnalyticalRepository)
    (rowsOf : String → ExecutionMode → ℤ → ℤ → ℕ → Except RuntimeError (List StoredNormalizedRow))
    (Fault : RuntimeError → Prop) (P : α → AnalyticalStore → Prop) (p : BatchTask α)
    (store : AnalyticalStore) : Prop :=
  Holds (batchOutcome repository rowsOf Fault) (Represented repository) (OnOk P) p.run store

theorem guarantees_persistSignal (signal : Signal) (store : AnalyticalStore) :
    Guarantees repository rowsOf Fault (SignalStored repository)
      (attempt (perform (.persistSignal signal))) store := by
  refine Machine.holds_call fun t r t' _ ht ho => ?_
  have hcall := represented_of_callOutcome (P := SignalStored repository)
    (fun messageId t' stored hpersist => ?_) ht ho
  · exact ⟨hcall.1, grows_batchOutcome _ _ _ _ ho, fun u hu _ =>
      onOk_of_le (P := SignalStored repository) (fun _ _ _ => SignalStored.of_le) hu hcall.2⟩
  · obtain ⟨ledger, hledger⟩ := ht
    obtain ⟨-, ⟨row, hrow, hdecode⟩, -⟩ := persistSignal_eq_ok hpersist
    exact ⟨⟨_, (persistSignal_record hledger hpersist).1⟩, _, row, hrow, hdecode⟩

theorem guarantees_persistFinding (finding : Finding) (store : AnalyticalStore) :
    Guarantees repository rowsOf Fault (FindingStored repository)
      (attempt (perform (.persistFinding finding))) store := by
  refine Machine.holds_call fun t r t' _ ht ho => ?_
  have hcall := represented_of_callOutcome (P := FindingStored repository)
    (fun messageId t' stored hpersist => ?_) ht ho
  · exact ⟨hcall.1, grows_batchOutcome _ _ _ _ ho, fun u hu _ =>
      onOk_of_le (P := FindingStored repository) (fun _ _ _ => FindingStored.of_le) hu hcall.2⟩
  · obtain ⟨ledger, hledger⟩ := ht
    obtain ⟨-, key, -, ⟨row, hrow, hdecode⟩, -⟩ := persistFinding_eq_ok hpersist
    exact ⟨⟨_, (persistFinding_record hledger hpersist).1⟩, key, row, hrow, hdecode⟩

theorem guarantees_checked {α : Type} (x : Except RuntimeError α) (store : AnalyticalStore) :
    Guarantees repository rowsOf Fault (fun _ _ => True) (checked x) store :=
  Machine.holds_checked fun _ _ _ => Machine.onOk_true _ _

theorem guarantees_nowV7 (store : AnalyticalStore) :
    Guarantees repository rowsOf Fault (fun _ _ => True) nowV7 store := by
  intro t _ ht r t' ho
  obtain ⟨rfl, -⟩ := ho
  exact ⟨ht, le_rfl, fun _ _ _ => trivial⟩

theorem guarantees_load (store : AnalyticalStore) :
    Guarantees repository rowsOf Fault (fun _ _ => True) (load lib request) store := by
  refine Machine.holds_try (Q := fun _ _ => True) ?_ fun rows t _ _ _ => guarantees_checked _ t
  intro t _ ht r t' ho
  obtain ⟨rfl, -⟩ := ho
  exact ⟨ht, le_rfl, fun _ _ _ => Machine.onOk_true _ _⟩

theorem guarantees_collectRounds {α β : Type} {P : β → AnalyticalStore → Prop}
    {round : α → BatchTask (List β)} (hround : ∀ a t, Guarantees repository rowsOf Fault (fun made u => ∀ b ∈ made, P b u)
      (round a) t) (as : List α) :
    ∀ store, Guarantees repository rowsOf Fault (fun made u => ∀ b ∈ made, P b u)
      (collectRounds round as) store := by
  induction as with
  | nil =>
    intro store t _ _ b hb
    cases hb
  | cons a as ih =>
    intro store
    refine Machine.holds_try (hround a store) fun made t _ ht hmade => ?_
    refine Machine.holds_try (ih t) fun more u htu hu hmore => ?_
    intro v huv hv b hb
    obtain hb | hb := List.mem_append.1 hb
    · exact hmade v (le_trans htu huv) hv b hb
    · exact hmore v huv hv b hb

theorem guarantees_singleton {β : Type} {P : β → AnalyticalStore → Prop} {p : BatchTask β}
    {store : AnalyticalStore} (h : Guarantees repository rowsOf Fault P p store) :
    Guarantees repository rowsOf Fault (fun made u => ∀ b ∈ made, P b u)
      (do let durable ← p; return [durable]) store := by
  refine Machine.holds_try h fun durable t _ _ hdurable => ?_
  intro u htu hu b hb
  obtain rfl := List.mem_singleton.1 hb
  exact hdurable u htu hu

/-- The Signals of a list are stored. -/
abbrev SignalsStored (repository : AnalyticalRepository) (signals : List Signal)
    (store : AnalyticalStore) : Prop := ∀ signal ∈ signals, SignalStored repository signal store

theorem guarantees_signalOfRule (batchEvent : BatchEvent) (rule : EventRule)
    (store : AnalyticalStore) : Guarantees repository rowsOf Fault (SignalsStored repository)
      (signalOfRule request batchEvent rule) store := by
  refine Machine.holds_try (guarantees_checked _ store) fun outcome t _ _ _ => ?_
  cases outcome with
  | none =>
    intro u _ _ signal hsignal
    cases hsignal
  | some provenance =>
    refine Machine.holds_try (guarantees_nowV7 t) fun id u _ _ _ => ?_
    refine Machine.holds_try (guarantees_checked _ u) fun signal v _ _ _ => ?_
    exact guarantees_singleton (guarantees_persistSignal signal v)

theorem guarantees_signalOfThreshold (provenance : ThresholdSignalProvenance String)
    (store : AnalyticalStore) : Guarantees repository rowsOf Fault (SignalsStored repository)
      (signalOfThreshold request provenance) store := by
  refine Machine.holds_try (guarantees_nowV7 store) fun id t _ _ _ => ?_
  refine Machine.holds_try (guarantees_checked _ t) fun signal u _ _ _ => ?_
  exact guarantees_singleton (guarantees_persistSignal signal u)

theorem guarantees_findingOfSequence (correlationMatch : SequenceCorrelationMatch)
    (store : AnalyticalStore) : Guarantees repository rowsOf Fault
      (fun made u => ∀ finding ∈ made, FindingStored repository finding u)
      (findingOfSequence request correlationMatch) store := by
  refine Machine.holds_try (guarantees_nowV7 store) fun id t _ _ _ => ?_
  refine Machine.holds_try (guarantees_checked _ t) fun finding u _ _ _ => ?_
  exact guarantees_singleton (guarantees_persistFinding finding u)

/-- What a run returns is stored. -/
def ResultStored (repository : AnalyticalRepository) (result : MvpBatchResult)
    (store : AnalyticalStore) : Prop :=
  SignalsStored repository result.signals store ∧
    ∀ finding ∈ result.findings, FindingStored repository finding store

theorem guarantees_execute (thresholdPlan : Except RuntimeError MvpCompiledThresholdPlan)
    (store : AnalyticalStore) : Guarantees repository rowsOf Fault (ResultStored repository)
      (execute lib request thresholdPlan) store := by
  rw [execute]
  refine Machine.holds_try (guarantees_checked _ store) fun _ t _ _ _ => ?_
  refine Machine.holds_try (guarantees_load t) fun events t _ _ _ => ?_
  refine Machine.holds_try (guarantees_checked _ t) fun rules t _ _ _ => ?_
  refine Machine.holds_try (guarantees_collectRounds (P := SignalStored repository)
    (fun batchEvent t => guarantees_collectRounds (P := SignalStored repository)
      (guarantees_signalOfRule batchEvent) rules t) events t) fun signals u _ _ hsignals => ?_
  refine Machine.holds_try (guarantees_checked _ u) fun plan v huv _ _ => ?_
  refine Machine.holds_try (guarantees_checked _ v) fun found w hvw _ _ => ?_
  refine Machine.holds_try (guarantees_collectRounds (P := SignalStored repository)
    guarantees_signalOfThreshold found w) fun more x hwx _ hmore => ?_
  refine Machine.holds_try (guarantees_checked _ x) fun sequences y hxy _ _ => ?_
  refine Machine.holds_try (guarantees_collectRounds (P := FindingStored repository)
    guarantees_findingOfSequence sequences y) fun findings z hyz _ hfindings => ?_
  intro last hz hlast
  have hx : x ≤ last := le_trans hxy (le_trans hyz hz)
  have hu : u ≤ last := le_trans huv (le_trans hvw (le_trans hwx hx))
  refine ⟨fun signal hsignal => ?_, fun finding hfinding => ?_⟩
  · obtain hsignal | hsignal := List.mem_append.1 ((List.mem_insertionSort _).1 hsignal)
    · exact hsignals last hu hlast signal hsignal
    · exact hmore last hx hlast signal hsignal
  · exact hfindings last hz hlast finding ((List.mem_insertionSort _).1 hfinding)

variable (repository rowsOf Fault lib) in
/-- **In every state of any interleaving of batch runs the tables are the image of a ledger**: each
identity has one row and one message of the outbox, in the order in which the objects were made
durable, and every object a run has returned is the one the ledger has. -/
theorem represented_of_reachable (thresholdPlan : Except RuntimeError MvpCompiledThresholdPlan)
    {s : Machine.State batchInterface AnalyticalStore MvpBatchRequest
      (Except RuntimeError MvpBatchResult)}
    (hs : (batchMachine repository rowsOf Fault lib thresholdPlan).Reachable .empty s) :
    ∃ ledger, Represents repository ledger s.shared ∧
      ∀ i request result, s.calls i = some (request, .pure (.ok result)) →
        (∀ signal ∈ result.signals, .signal signal ∈ ledger) ∧
          ∀ finding ∈ result.findings, .finding finding ∈ ledger := by
  have hkept := Machine.holds_of_reachable (M := batchMachine repository rowsOf Fault lib thresholdPlan)
    (Represented repository) (fun _ => OnOk (ResultStored repository))
    (fun request store _ => guarantees_execute thresholdPlan store)
    (fun _ _ hinv hcrash => hcrash ▸ hinv) ⟨[], represents_empty repository⟩ hs
  obtain ⟨⟨ledger, hledger⟩, hcalls⟩ := hkept
  refine ⟨ledger, hledger, fun i request result hi => ?_⟩
  have hstored : ResultStored repository result s.shared :=
    hcalls i request _ hi s.shared le_rfl ⟨ledger, hledger⟩
  exact ⟨fun signal hsignal => (hstored.1 signal hsignal).mem hledger,
    fun finding hfinding => (hstored.2 finding hfinding).mem hledger⟩

end

/-! ## A run that makes three Signals and a Finding durable -/

/-- Identifiers that are generated in order. -/
def sampleId (group : String) (n : ℕ) : String :=
  "01890a5d-ac96-774b-bcce-b302099a8" ++ group ++ toString (n % 10)

theorem sampleId_mod (group : String) (n : ℕ) : sampleId group (n % 10) = sampleId group n :=
  congrArg (fun m => "01890a5d-ac96-774b-bcce-b302099a8" ++ group ++ toString m) (Nat.mod_mod n 10)

theorem validateUuidV7_sampleId (n : ℕ) :
    validateUuidV7 "signal_id" (sampleId "30" n) = .ok () ∧
      validateUuidV7 "message_id" (sampleId "40" n) = .ok () := by
  have hall : ∀ d < 10, validateUuidV7 "signal_id" (sampleId "30" d) = .ok () ∧
      validateUuidV7 "message_id" (sampleId "40" d) = .ok () := by
    decide +kernel
  rw [← sampleId_mod "30", ← sampleId_mod "40"]
  exact hall (n % 10) (Nat.mod_lt n (by decide))

/-- A repository with some wire formats. -/
def sampleRepository (signalWire : Wire Signal) (findingWire : Wire Finding) :
    AnalyticalRepository :=
  ⟨"1", "sample", sha256LowerHex, signalWire, findingWire⟩

/-- A batch over the rows of the compromise, answered by the repository itself. -/
def sampleHandler (repository : AnalyticalRepository) :
    (o : BatchOp) → AnalyticalStore → o.Response × AnalyticalStore
  | .queryRows _ _ _ _ _, store => (.ok sampleRows, store)
  | .nowV7, store => (sampleId "30" store.outbox.length, store)
  | .persistSignal signal, store =>
    let call := persistSignal repository (sampleId "40" store.outbox.length) store signal
    (call.map Prod.snd, afterCall store call)
  | .persistFinding finding, store =>
    let call := persistFinding repository (sampleId "40" store.outbox.length) store finding
    (call.map Prod.snd, afterCall store call)

/-- The machine of the sample; its database does not fail. -/
abbrev sampleMachine (repository : AnalyticalRepository)
    (plan : Except RuntimeError MvpCompiledThresholdPlan) :
    Machine batchInterface AnalyticalStore MvpBatchRequest (Except RuntimeError MvpBatchResult) :=
  batchMachine repository (fun _ _ _ _ _ => .ok sampleRows) (fun _ => False) sampleBatchLibraries plan

theorem outcome_sampleHandler (repository : AnalyticalRepository) (o : BatchOp)
    (store : AnalyticalStore) :
    batchOutcome repository (fun _ _ _ _ _ => .ok sampleRows) (fun _ => False) o store
      (sampleHandler repository o store).1 (sampleHandler repository o store).2 := by
  cases o with
  | queryRows tenantId executionMode startMillis endMillis maxEvents => exact ⟨rfl, .inl rfl⟩
  | nowV7 => exact ⟨rfl, (validateUuidV7_sampleId _).1⟩
  | persistSignal signal => exact .inl ⟨_, rfl, .inl rfl⟩
  | persistFinding finding => exact .inl ⟨_, rfl, .inl rfl⟩

/-- Two objects with different identities and identifiers, as far as their tables go. -/
def apart : AnalyticalObject → AnalyticalObject → Bool
  | .signal s, .signal t =>
    sha256LowerHex (Text.bytes (signalKeyText s)) ≠ sha256LowerHex (Text.bytes (signalKeyText t)) ∧
      uuidText s.signalId ≠ uuidText t.signalId
  | .finding _, .finding _ => false
  | _, _ => true

/-- The batch over a ledger, which refuses what it cannot record as something new. -/
def sampleRecords : (o : BatchOp) → List AnalyticalObject →
    Option (o.Response × List AnalyticalObject)
  | .queryRows _ _ _ _ _, ledger => some (.ok sampleRows, ledger)
  | .nowV7, ledger => some (sampleId "30" ledger.length, ledger)
  | .persistSignal signal, ledger =>
    if validateSignal signal = .ok () ∧
        validateRequiredTimestamp "emitted_at" signal.createdAt = .ok () ∧
        (∀ input ∈ signal.inputs, input.ordinal < 2 ^ 31) ∧
        ledger.all fun object => apart object (.signal signal) then
      some (.ok signal, ledger ++ [.signal signal])
    else none
  | .persistFinding finding, ledger =>
    if validateFinding finding = .ok () ∧ finding.correlationProvenance.isSome ∧
        validateRequiredTimestamp "emitted_at" finding.createdAt = .ok () ∧
        ledger.all fun object => apart object (.finding finding) then
      some (.ok finding, ledger ++ [.finding finding])
    else none

/-- **What is new in the ledger is made durable.** -/
theorem represents_sampleRecords (signalWire : Wire Signal) (findingWire : Wire Finding)
    (o : BatchOp) (ledger : List AnalyticalObject) (r : o.Response)
    (ledger' : List AnalyticalObject) (store : AnalyticalStore)
    (hledger : Represents (sampleRepository signalWire findingWire) ledger store)
    (hr : sampleRecords o ledger = some (r, ledger')) :
    (sampleHandler (sampleRepository signalWire findingWire) o store).1 = r ∧
      Represents (sampleRepository signalWire findingWire) ledger'
        (sampleHandler (sampleRepository signalWire findingWire) o store).2 := by
  have hlength : store.outbox.length = ledger.length := by
    simpa using congrArg List.length hledger.outbox
  have hmessage := (validateUuidV7_sampleId store.outbox.length).2
  have hversion : (sampleRepository signalWire findingWire).componentVersion ≠ "" := by
    show "1" ≠ ""
    decide
  cases o with
  | queryRows tenantId executionMode startMillis endMillis maxEvents =>
    obtain ⟨rfl, rfl⟩ := Prod.mk.inj (Option.some.inj hr)
    exact ⟨rfl, hledger⟩
  | nowV7 =>
    obtain ⟨rfl, rfl⟩ := Prod.mk.inj (Option.some.inj hr)
    exact ⟨congrArg (sampleId "30") hlength, hledger⟩
  | persistSignal signal =>
    simp only [sampleRecords] at hr
    split at hr
    · rename_i hnew
      obtain ⟨hvalid, hemitted, hordinals, hapart⟩ := hnew
      obtain ⟨rfl, rfl⟩ := Prod.mk.inj (Option.some.inj hr)
      obtain ⟨store', hcall, hledger'⟩ := exists_persistSignal_eq_ok hversion hmessage hledger
        hvalid hemitted hordinals fun s hs => of_decide_eq_true (List.all_eq_true.1 hapart _ hs)
      simp only [sampleHandler, hcall]
      exact ⟨rfl, hledger'⟩
    · cases hr
  | persistFinding finding =>
    simp only [sampleRecords] at hr
    split at hr
    · rename_i hnew
      obtain ⟨hvalid, hprovenance, hemitted, hapart⟩ := hnew
      obtain ⟨rfl, rfl⟩ := Prod.mk.inj (Option.some.inj hr)
      obtain ⟨provenance, hprovenance⟩ := Option.isSome_iff_exists.1 hprovenance
      have hlogical : findingLogicalKey (sampleRepository signalWire findingWire) finding =
          .ok (sha256LowerHex (Text.bytes (findingKeyText finding provenance))) := by
        rw [findingLogicalKey, hprovenance]
        rfl
      obtain ⟨store', hcall, hledger'⟩ := exists_persistFinding_eq_ok hversion hmessage hledger
        hvalid hemitted hlogical fun f hf =>
          absurd (List.all_eq_true.1 hapart _ hf) Bool.false_ne_true
      simp only [sampleHandler, hcall]
      exact ⟨rfl, hledger'⟩
    · cases hr

/-- Ten events of a filter within five minutes. -/
def sampleThresholdPlan (filter : CompiledEventExecutionPlan MvpExecutionPlan MvpProfile) :
    MvpCompiledThresholdPlan where
  filter := filter
  groupBy := ["src_endpoint.ip", "user.name"]
  aggregation := .count
  threshold := 10
  window := ⟨300000, .eventTime, "time", .accept⟩
  supportedBackends := ⟨true, false⟩
  groupBy_ne_nil := List.cons_ne_nil _ _
  groupBy_nodup := by decide
  threshold_pos := by decide
  threshold_lt := by decide
  duration_pos := by decide
  duration_lt := by decide
  accepts_late := rfl

/-- The burst rule next to the sequence. -/
def sampleBurstPlan : Except RuntimeError MvpCompiledThresholdPlan :=
  .ok (sampleThresholdPlan (failedLoginPlan sampleBatchLibraries.sha256LowerHex))

/-- The run of the batch over a ledger. -/
def sampleBatchRun : Option (Except RuntimeError MvpBatchResult × List AnalyticalObject) :=
  (execute sampleBatchLibraries sampleRequest sampleBurstPlan).run.tryRun sampleRecords []

theorem sampleBatchRun_eq : sampleBatchRun.bind (fun made => made.1.toOption.map fun result =>
      (result.eventsLoaded, result.signals.map Signal.signalId,
        result.findings.map Finding.findingId, made.2.length)) =
    some (3, sampleSignalIds, ["01890a5d-ac96-774b-bcce-b302099a8303"], 4) := by
  decide +kernel

/-- What the run returns. -/
structure SampleResult (result : MvpBatchResult) : Prop where
  eventsLoaded : result.eventsLoaded = 3
  signals : result.signals.map Signal.signalId = sampleSignalIds
  findings : result.findings.map Finding.findingId = ["01890a5d-ac96-774b-bcce-b302099a8303"]

/-- The run alone over the empty tables: a message in the outbox for each object. -/
theorem exists_run_sample (signalWire : Wire Signal) (findingWire : Wire Finding) :
    ∃ result store, (execute sampleBatchLibraries sampleRequest sampleBurstPlan).run.run
        (sampleHandler (sampleRepository signalWire findingWire)) .empty = (.ok result, store) ∧
      SampleResult result ∧ store.outbox.length = 4 := by
  obtain ⟨⟨made, ledger⟩, hrun, hmade⟩ := Option.bind_eq_some_iff.1 sampleBatchRun_eq
  obtain ⟨result, hresult, heq⟩ := Option.map_eq_some_iff.1 hmade
  obtain rfl := eq_ok_of_toOption hresult
  simp only [Prod.mk.injEq] at heq
  obtain ⟨hevents, hsignals, hfindings, hlength⟩ := heq
  obtain ⟨hanswer, hledger⟩ := Prog.run_of_tryRun (h := sampleHandler _)
    (represents_sampleRecords signalWire findingWire) (represents_empty _) hrun
  have houtbox := congrArg List.length hledger.outbox
  rw [List.length_map, List.length_map, hlength] at houtbox
  refine ⟨result, _, ?_, ⟨hevents, hsignals, hfindings⟩, houtbox⟩
  rw [← hanswer, Prod.mk.eta]

theorem represented_of_reachable_sample : ∃ repository s ledger result,
    (sampleMachine repository sampleBurstPlan).Reachable .empty s ∧
      Represents repository ledger s.shared ∧ ledger.length = 4 ∧ SampleResult result ∧
      s.calls 0 = some (sampleRequest, .pure (.ok result)) ∧
      (∀ signal ∈ result.signals, .signal signal ∈ ledger) ∧
      ∀ finding ∈ result.findings, .finding finding ∈ ledger := by
  obtain ⟨signalWire⟩ := nonempty_wire Signal
  obtain ⟨findingWire⟩ := nonempty_wire Finding
  obtain ⟨result, store, hrun, hresult, houtbox⟩ := exists_run_sample signalWire findingWire
  obtain ⟨calls, hs, hcall⟩ := Machine.exists_reachable_run (M := sampleMachine _ sampleBurstPlan)
    (outcome_sampleHandler _) (l := sampleRequest) hrun
  obtain ⟨ledger, hledger, hstored⟩ := represented_of_reachable
    (sampleRepository signalWire findingWire) _ _ sampleBatchLibraries sampleBurstPlan hs
  obtain ⟨hsignals, hfindings⟩ := hstored 0 sampleRequest result hcall
  have hlength := congrArg List.length hledger.outbox
  rw [List.length_map, List.length_map, houtbox] at hlength
  exact ⟨_, _, ledger, result, hs, hledger, hlength.symm, hresult, hcall, hsignals, hfindings⟩

/-- The request of the run, ten seconds later. -/
def laterRequest : MvpBatchRequest := sampleRequest.restamp ⟨1789000010, 0⟩ ⟨1789000010, 5⟩

/-- A second run over the tables the first one has left. -/
theorem rerun_settled_sample : ∃ repository s result,
    (sampleMachine repository sampleBurstPlan).Reachable .empty s ∧ s.shared.outbox.length = 4 ∧
      SampleResult result ∧ s.calls 0 = some (sampleRequest, .pure (.ok result)) ∧
      s.calls 1 = some (laterRequest, .pure (.ok result)) := by
  obtain ⟨signalWire⟩ := nonempty_wire Signal
  obtain ⟨findingWire⟩ := nonempty_wire Finding
  obtain ⟨result, store, hrun, hresult, houtbox⟩ := exists_run_sample signalWire findingWire
  have hhandler := outcome_sampleHandler (sampleRepository signalWire findingWire)
  obtain ⟨calls, hs, hcall⟩ := Machine.exists_reachable_run (M := sampleMachine _ sampleBurstPlan)
    hhandler (l := sampleRequest) hrun
  have hsettled : Settled _ _ (execute sampleBatchLibraries laterRequest sampleBurstPlan).run store :=
    rerun_settled (by decide) (by decide) sampleBurstPlan hs hcall .refl
  obtain ⟨hsame, hagain⟩ := hsettled.run hhandler
  generalize hlater : (execute sampleBatchLibraries laterRequest sampleBurstPlan).run.run
    (sampleHandler (sampleRepository signalWire findingWire)) store = made at hsame hagain
  obtain ⟨answer, store'⟩ := made
  obtain rfl : store' = store := hsame
  cases answer with
  | error e => exact hagain.elim
  | ok again =>
    obtain rfl : result = again := hagain
    obtain ⟨calls, hs, hcall, hcall'⟩ := Machine.exists_reachable_runs
      (M := sampleMachine _ sampleBurstPlan) hhandler hrun hlater
    exact ⟨_, _, result, hs, houtbox, hresult, hcall, hcall'⟩

end Detection

end Cerbero
