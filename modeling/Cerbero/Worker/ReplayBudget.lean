import Mathlib.Data.Finset.Card
import Mathlib.Data.Finset.Image
import Cerbero.Lib.Fallible
import Cerbero.Worker.Replay

/-!
# Worker/ReplayBudget — automatic replay stays within its budget

The counter of a lifecycle, its ledger of attempts and the messages published for its root are
written at different times, by any number of workers.  `LifecycleOk` keeps counter and ledger in
step, `Sent` ties each published message to the attempt that was reserved for it, and
**`withinBudget_of_reachable`** is what follows for every run.
-/

namespace Cerbero

namespace Worker

open Text

/-! ## Reservations, inverted -/

theorem store_eq_ok {columns : ReplayColumns} {state : ReplayState}
    (h : columns.store = .ok state) : state.toReplayColumns = columns := by
  unfold ReplayColumns.store at h
  split at h
  · obtain rfl := Except.ok.inj h
    rfl
  · exact nomatch h

theorem ReplayState.budget (state : ReplayState) : 0 ≤ state.consumedAttempts ∧
    state.consumedAttempts ≤ state.maxAttempts ∧ state.maxAttempts ≤ 4294967295 := by
  have h := state.checked
  unfold ReplayColumns.violation at h
  split_ifs at h
  omega

/-- The state a transaction reads is the stored one, or a new one. -/
theorem initialState_eq_ok {request : ReservationRequest} {lifecycle : Lifecycle}
    {state : ReplayState} (h : initialState request lifecycle = .ok state) :
    lifecycle.state = some state ∨ lifecycle.state = none ∧ state.consumedAttempts = 0 := by
  unfold initialState at h
  split at h
  · rename_i stored hstate
    obtain rfl := Except.ok.inj h
    exact .inl hstate
  · rename_i hstate
    exact .inr ⟨hstate, by rw [store_eq_ok h]⟩

/-- The rows of a new attempt. -/
theorem nextAttempt_eq_ok {request : ReservationRequest} {state state' : ReplayState}
    {ledger : List LedgerRow} {entry : LedgerRow}
    (h : nextAttempt request state ledger = .ok (state', entry)) :
    state'.replayRootDlqRecordId = state.replayRootDlqRecordId ∧
      state'.maxAttempts = state.maxAttempts ∧
      state'.consumedAttempts = state.consumedAttempts + 1 ∧
      entry = ⟨request.sourceDlqRecordId, state'.consumedAttempts,
        request.sourceStreamSequence.toNat⟩ := by
  obtain ⟨stored, hstored, h⟩ := bind_eq_ok.1 h
  have hcolumns := store_eq_ok hstored
  dsimp only at h
  split at h
  · cases h
  · obtain ⟨rfl, rfl⟩ := Prod.mk.inj (Except.ok.inj h)
    exact ⟨by rw [hcolumns], by rw [hcolumns], by rw [hcolumns], rfl⟩

/-- **What a reservation commits**: the next attempt, for a source that has none. -/
structure Reserved (request : ReservationRequest) (lifecycle lifecycle' : Lifecycle)
    (state state' : ReplayState) : Prop where
  before : lifecycle.state = some state ∨ lifecycle.state = none ∧ state.consumedAttempts = 0
  after : lifecycle' = ⟨some state', lifecycle.ledger ++
    [⟨request.sourceDlqRecordId, state.consumedAttempts + 1,
      request.sourceStreamSequence.toNat⟩]⟩
  root : state.replayRootDlqRecordId = request.replayRootDlqRecordId ∧
    state'.replayRootDlqRecordId = request.replayRootDlqRecordId
  max : state.maxAttempts = request.maxAttempts.toNat ∧
    state'.maxAttempts = request.maxAttempts.toNat
  consumed : state'.consumedAttempts = state.consumedAttempts + 1
  source : ∀ entry ∈ lifecycle.ledger, entry.sourceDlqRecordId ≠ request.sourceDlqRecordId

theorem reserve_eq_commit {request : ReservationRequest} {lifecycle lifecycle' : Lifecycle}
    {result : Except ReserveError Reservation}
    (h : reserve request lifecycle = .commit lifecycle' result) :
    ∃ state state', Reserved request lifecycle lifecycle' state state' ∧
      result = .ok (reservationFor request true (state.consumedAttempts + 1)) := by
  unfold reserve at h
  split at h
  · exact nomatch h
  · rename_i state hstate
    split at h
    · exact nomatch h
    · rename_i hmatches
      push Not at hmatches
      split at h
      · exact nomatch h
      · split at h
        · exact nomatch h
        · rename_i hfind
          split at h
          · exact nomatch h
          · split at h
            · exact nomatch h
            · rename_i state' entry hnext
              obtain ⟨hroot, hmax, hconsumed, rfl⟩ := nextAttempt_eq_ok hnext
              cases h
              refine ⟨state, state', ?_, by rw [hconsumed]⟩
              exact
                { before := initialState_eq_ok hstate
                  after := by rw [hconsumed]
                  root := ⟨hmatches.1, hroot.trans hmatches.1⟩
                  max := ⟨hmatches.2, hmax.trans hmatches.2⟩
                  consumed := hconsumed
                  source := fun entry hentry heq => by
                    have := List.find?_eq_none.1 hfind entry hentry
                    exact this (by simpa using heq) }

/-- An attempt that is reserved without a commit is in the ledger, and within the budget. -/
theorem reserve_eq_rollback {request : ReservationRequest} {lifecycle : Lifecycle}
    {reservation : Reservation} (h : reserve request lifecycle = .rollback (.ok reservation))
    (hreserved : reservation.reserved = true) : ∃ entry ∈ lifecycle.ledger,
      entry.sourceDlqRecordId = request.sourceDlqRecordId ∧
      (0 < entry.attempt ∧ entry.attempt ≤ request.maxAttempts.toNat) ∧
      reservation = reservationFor request true entry.attempt := by
  unfold reserve at h
  split at h
  · cases h
  · split at h
    · cases h
    · rename_i hmatches
      push Not at hmatches
      split at h
      · cases h
      · split at h
        · rename_i entry hfind
          obtain hreuse := Decision.rollback.inj h
          unfold LedgerRow.reuse at hreuse
          split at hreuse
          · exact nomatch hreuse
          · rename_i hentry
            push Not at hentry
            obtain rfl := Except.ok.inj hreuse
            have hsource := List.find?_some hfind
            exact ⟨entry, List.mem_of_find?_eq_some hfind, eq_of_beq hsource,
              ⟨hentry.2.1, hmatches.2 ▸ hentry.2.2.1⟩, rfl⟩
        · split at h
          · obtain rfl := Except.ok.inj (Decision.rollback.inj h)
            exact nomatch hreserved
          · split at h
            · cases h
            · exact nomatch h

/-! ## Counter and ledger -/

/-- **Counter and ledger in step**: the attempts of a lifecycle are numbered from one on, one for
each source. -/
structure LifecycleOk (k : String) (lifecycle : Lifecycle) : Prop where
  missing : lifecycle.state = none → lifecycle.ledger = []
  counted : ∀ state, lifecycle.state = some state →
    state.consumedAttempts = lifecycle.ledger.length ∧
      k = replayLifecycleKey state.replayRootDlqRecordId
  attempts : lifecycle.ledger.map LedgerRow.attempt =
    (List.range lifecycle.ledger.length).map fun i : ℕ => (i : ℤ) + 1
  sources : (lifecycle.ledger.map LedgerRow.sourceDlqRecordId).Nodup

theorem lifecycleOk_empty (k : String) : LifecycleOk k ⟨none, []⟩ :=
  ⟨fun _ => rfl, fun _ h => (nomatch h), rfl, List.nodup_nil⟩

/-- A state that counts the ledger, also where it is new. -/
theorem LifecycleOk.consumed_eq {k : String} {lifecycle : Lifecycle} (h : LifecycleOk k lifecycle)
    {state : ReplayState}
    (hstate : lifecycle.state = some state ∨ lifecycle.state = none ∧ state.consumedAttempts = 0) :
    state.consumedAttempts = lifecycle.ledger.length := by
  obtain hstate | ⟨hnone, hzero⟩ := hstate
  · exact (h.counted state hstate).1
  · rw [hzero, h.missing hnone]
    rfl

theorem lifecycleOk_reserved {request : ReservationRequest} {lifecycle lifecycle' : Lifecycle}
    {state state' : ReplayState}
    (hkey : request.lifecycleKey = replayLifecycleKey request.replayRootDlqRecordId)
    (h : LifecycleOk request.lifecycleKey lifecycle)
    (hreserved : Reserved request lifecycle lifecycle' state state') :
    LifecycleOk request.lifecycleKey lifecycle' := by
  have hcount := h.consumed_eq hreserved.before
  obtain rfl := hreserved.after
  constructor
  case missing => exact fun hnone => nomatch hnone
  case counted =>
    rintro _ ⟨⟩
    refine ⟨?_, by rw [hreserved.root.2, hkey]⟩
    rw [hreserved.consumed, hcount]
    simp
  case attempts =>
    simp only [List.map_append, List.length_append, List.length_singleton, List.range_succ,
      h.attempts, hcount, List.map_cons, List.map_nil]
  case sources =>
    rw [List.map_append, List.nodup_append]
    refine ⟨h.sources, by simp, fun source hsource new hnew heq => ?_⟩
    obtain ⟨entry, hentry, rfl⟩ := List.mem_map.1 hsource
    obtain rfl : new = request.sourceDlqRecordId := by simpa using hnew
    exact hreserved.source entry hentry heq

/-- The attempts of a ledger lie between one and its length. -/
theorem LifecycleOk.attempt_mem {k : String} {lifecycle : Lifecycle} (h : LifecycleOk k lifecycle)
    {entry : LedgerRow} (hentry : entry ∈ lifecycle.ledger) :
    1 ≤ entry.attempt ∧ entry.attempt ≤ lifecycle.ledger.length := by
  have hmem : entry.attempt ∈ lifecycle.ledger.map LedgerRow.attempt :=
    List.mem_map_of_mem hentry
  rw [h.attempts] at hmem
  obtain ⟨i, hi, heq⟩ := List.mem_map.1 hmem
  have := List.mem_range.1 hi
  omega

/-- A ledger with an entry has a state that counts it. -/
theorem LifecycleOk.state_of_mem {k : String} {lifecycle : Lifecycle} (h : LifecycleOk k lifecycle)
    {entry : LedgerRow} (hentry : entry ∈ lifecycle.ledger) : ∃ state,
      lifecycle.state = some state ∧ state.consumedAttempts = lifecycle.ledger.length := by
  match hstate : lifecycle.state with
  | none =>
    rw [h.missing hstate] at hentry
    exact nomatch hentry
  | some state => exact ⟨state, rfl, (h.counted state hstate).1⟩

/-- An attempt fits in the number the worker keeps it in. -/
theorem LifecycleOk.toNat_attempt {k : String} {lifecycle : Lifecycle} (h : LifecycleOk k lifecycle)
    {entry : LedgerRow} (hentry : entry ∈ lifecycle.ledger) :
    (UInt32.ofNat entry.attempt.toNat).toNat = entry.attempt.toNat := by
  obtain ⟨state, -, hcount⟩ := h.state_of_mem hentry
  have hbudget := state.budget
  have hmem := h.attempt_mem hentry
  rw [UInt32.toNat_ofNat']
  omega

/-! ## What stays -/

/-- A state that captures the same lifecycle later on. -/
structure Captured (state state' : ReplayState) : Prop where
  root : state'.replayRootDlqRecordId = state.replayRootDlqRecordId
  max : state'.maxAttempts = state.maxAttempts
  consumed : state.consumedAttempts ≤ state'.consumedAttempts

/-- **What came later**: lifecycles keep what they captured and the attempts they gave. -/
structure Later (g g' : replayService.Shared) : Prop where
  ledger : ∀ k, (g.rows k).ledger <+: (g'.rows k).ledger
  state : ∀ k state, (g.rows k).state = some state →
    ∃ state', (g'.rows k).state = some state' ∧ Captured state state'
  sent : g.ext <+: g'.ext

theorem later_refl (g : replayService.Shared) : Later g g :=
  ⟨fun _ => List.prefix_rfl, fun _ state h => ⟨state, h, rfl, rfl, le_rfl⟩, List.prefix_rfl⟩

theorem later_trans {g g' g'' : replayService.Shared} (h : Later g g') (h' : Later g' g'') :
    Later g g'' := by
  refine ⟨fun k => (h.ledger k).trans (h'.ledger k), fun k state hstate => ?_,
    h.sent.trans h'.sent⟩
  obtain ⟨state', hstate', hroot, hmax, hconsumed⟩ := h.state k state hstate
  obtain ⟨state'', hstate'', hroot', hmax', hconsumed'⟩ := h'.state k state' hstate'
  exact ⟨state'', hstate'', hroot'.trans hroot, hmax'.trans hmax, hconsumed.trans hconsumed'⟩

instance : Preorder replayService.Shared where
  le := Later
  le_refl := later_refl
  le_trans _ _ _ := later_trans

/-- A source has an attempt. -/
def Recorded (g : replayService.Shared) (k source : String) (attempt : ℤ) : Prop :=
  ∃ entry ∈ (g.rows k).ledger, entry.sourceDlqRecordId = source ∧ entry.attempt = attempt

theorem recorded_of_later {g g' : replayService.Shared} (h : Later g g') {k source : String}
    {attempt : ℤ} (hrecorded : Recorded g k source attempt) : Recorded g' k source attempt := by
  obtain ⟨entry, hentry, hsource⟩ := hrecorded
  exact ⟨entry, (h.ledger k).subset hentry, hsource⟩

/-- **A published message belongs to an attempt of its root.** -/
def Sent (g : replayService.Shared) (message : ReplayMessage) : Prop :=
  ∃ attempt : ℤ, Recorded g (replayLifecycleKey message.replayRootDlqRecordId)
      message.sourceDlqRecordId attempt ∧
    message.attempt = toString attempt.toNat ∧
    message.messageId = replayNatsMessageId message.replayRootDlqRecordId attempt.toNat

theorem sent_of_later {g g' : replayService.Shared} (h : Later g g') {message : ReplayMessage}
    (hsent : Sent g message) : Sent g' message := by
  obtain ⟨attempt, hrecorded, hnames⟩ := hsent
  exact ⟨attempt, recorded_of_later h hrecorded, hnames⟩

/-- What a run keeps. -/
structure ReplayInv (g : replayService.Shared) : Prop where
  lifecycles : ∀ k, LifecycleOk k (g.rows k)
  sent : ∀ message ∈ g.ext, Sent g message

/-! ## Steps -/

theorem later_commit {g : replayService.Shared} {request : ReservationRequest}
    {lifecycle : Lifecycle} {state state' : ReplayState}
    (hreserved : Reserved request (g.rows request.lifecycleKey) lifecycle state state') :
    Later g (g.commit request lifecycle) := by
  refine ⟨fun k => ?_, fun k stored hstored => ?_, List.prefix_rfl⟩
  · by_cases hk : k = request.lifecycleKey
    · subst hk
      rw [show (g.commit request lifecycle).rows _ = _ from Function.update_self _ _ _,
        hreserved.after]
      exact List.prefix_append _ _
    · rw [show (g.commit request lifecycle).rows k = g.rows k from Function.update_of_ne hk _ _]
  · by_cases hk : k = request.lifecycleKey
    · subst hk
      rw [show (g.commit request lifecycle).rows _ = _ from Function.update_self _ _ _,
        hreserved.after]
      have hsame : stored = state := by
        obtain hbefore | ⟨hnone, -⟩ := hreserved.before
        · exact Option.some.inj (hstored.symm.trans hbefore)
        · exact nomatch hnone.symm.trans hstored
      subst hsame
      exact ⟨state', rfl, hreserved.root.2.trans hreserved.root.1.symm,
        hreserved.max.2.trans hreserved.max.1.symm, by rw [hreserved.consumed]; omega⟩
    · rw [show (g.commit request lifecycle).rows k = g.rows k from Function.update_of_ne hk _ _]
      exact ⟨stored, hstored, rfl, rfl, le_rfl⟩

/-- A commit keeps counters and ledgers in step. -/
theorem replayInv_commit {g : replayService.Shared} (h : ReplayInv g)
    {request : ReservationRequest} {lifecycle : Lifecycle} {state state' : ReplayState}
    (hkey : request.lifecycleKey = replayLifecycleKey request.replayRootDlqRecordId)
    (hreserved : Reserved request (g.rows request.lifecycleKey) lifecycle state state') :
    ReplayInv (g.commit request lifecycle) := by
  refine ⟨fun k => ?_, fun message hmessage => ?_⟩
  · by_cases hk : k = request.lifecycleKey
    · subst hk
      rw [show (g.commit request lifecycle).rows _ = _ from Function.update_self _ _ _]
      exact lifecycleOk_reserved hkey (h.lifecycles _) hreserved
    · rw [show (g.commit request lifecycle).rows k = g.rows k from Function.update_of_ne hk _ _]
      exact h.lifecycles k
  · exact sent_of_later (later_commit hreserved) (h.sent message hmessage)

/-- The attempt that was committed is recorded. -/
theorem recorded_commit {g : replayService.Shared} {request : ReservationRequest}
    {lifecycle : Lifecycle} {state state' : ReplayState}
    (hreserved : Reserved request (g.rows request.lifecycleKey) lifecycle state state') :
    Recorded (g.commit request lifecycle) request.lifecycleKey request.sourceDlqRecordId
      (state.consumedAttempts + 1) := by
  unfold Recorded
  rw [show (g.commit request lifecycle).rows request.lifecycleKey = _ from
    Function.update_self _ _ _, hreserved.after]
  exact ⟨_, List.mem_append_right _ (List.mem_singleton_self _), rfl, rfl⟩

theorem replayInv_publish {g : replayService.Shared} (h : ReplayInv g) {message : ReplayMessage}
    (hsent : Sent g message) : ReplayInv { g with ext := g.ext ++ [message] } := by
  refine ⟨h.lifecycles, fun sent hmem => ?_⟩
  obtain hmem | hmem := List.mem_append.1 hmem
  · exact h.sent sent hmem
  · obtain rfl := List.mem_singleton.1 hmem
    exact hsent

/-! ## Calls -/

/-- Nothing is asked of the answer of a delivery. -/
abbrev Anything : Bool → Except String Unit → replayService.Shared → Prop := fun _ _ _ => True

/-- An operation that publishes nothing. -/
theorem holds_effect {o : Effect}
    {next : o.Response → Prog replayService.interface (Except String Unit)} {b : Bool} {g : replayService.Shared}
    (hquiet : ∀ sent reply sent', o.Outcome sent reply sent' → sent' = sent)
    (hnext : ∀ reply t, g ≤ t → Service.Holds ReplayInv Anything (next reply) b t) :
    Service.Holds ReplayInv Anything (.perform (.effect o) next) b g := by
  intro t hgt ht reply ext houtcome
  obtain rfl : ext = t.ext := hquiet _ _ _ houtcome
  exact ⟨ht, le_rfl, hnext reply t hgt⟩

theorem holds_pure (result : Except String Unit) (b : Bool) (g : replayService.Shared) :
    Service.Holds ReplayInv Anything (pure result) b g := fun _ _ _ => trivial

theorem holds_ack (b : Bool) (g : replayService.Shared) :
    Service.Holds ReplayInv Anything ack b g :=
  holds_effect (fun _ _ _ h => h) fun
    | true, t, _ => holds_pure _ b t
    | false, t, _ => holds_pure _ b t

theorem holds_nak {stage : String} (b : Bool) (g : replayService.Shared) :
    Service.Holds ReplayInv Anything (nak stage) b g :=
  holds_effect (fun _ _ _ h => h) fun
    | true, t, _ => holds_pure _ b t
    | false, t, _ => holds_pure _ b t

section

variable {sha256LowerHex : List UInt8 → String}

/-- The headers of a replay message. -/
theorem buildSelectiveReplayMessage_eq_ok {source : RawMessage} {decision : ReplayDecision}
    {reservation : Reservation} {message : ReplayMessage}
    (h : buildSelectiveReplayMessage sha256LowerHex source decision reservation = .ok message) :
    message.replayRootDlqRecordId = decision.replayRootDlqRecordId ∧
      message.sourceDlqRecordId = decision.sourceDlqRecordId ∧
      message.attempt = toString reservation.attempt.toNat ∧
      message.messageId =
        replayNatsMessageId decision.replayRootDlqRecordId reservation.attempt.toNat := by
  unfold buildSelectiveReplayMessage at h
  obtain ⟨-, h⟩ := guard_eq_ok.1 h
  obtain ⟨-, h⟩ := guard_eq_ok.1 h
  obtain ⟨-, h⟩ := guard_eq_ok.1 h
  obtain ⟨-, h⟩ := guard_eq_ok.1 h
  obtain ⟨-, h⟩ := check_bind_eq_ok.1 h
  obtain rfl := Except.ok.inj h
  exact ⟨rfl, rfl, rfl, rfl⟩

/-- **An attempt that is recorded may be published.** -/
theorem holds_handOff {source : RawMessage} {decision : ReplayDecision}
    {request : ReservationRequest} {attempt : ℤ} {b : Bool} {g : replayService.Shared}
    (hkey : request.lifecycleKey = replayLifecycleKey decision.replayRootDlqRecordId)
    (hsource : request.sourceDlqRecordId = decision.sourceDlqRecordId)
    (hrecorded : Recorded g request.lifecycleKey request.sourceDlqRecordId attempt) :
    Service.Holds ReplayInv Anything
      (handOff sha256LowerHex source decision (reservationFor request true attempt)) b g := by
  unfold handOff
  split
  · exact holds_ack b g
  · rename_i message hmessage
    obtain ⟨hroot, hsource', hattempt, hid⟩ := buildSelectiveReplayMessage_eq_ok hmessage
    intro t hgt ht reply ext houtcome
    have hsent : Sent t message := by
      obtain ⟨entry, hentry, -, heq⟩ := recorded_of_later hgt hrecorded
      have hfits := (ht.lifecycles _).toNat_attempt hentry
      rw [heq] at hfits
      refine ⟨attempt, ?_, hattempt.trans (congrArg toString hfits), ?_⟩
      · rw [hroot, hsource', ← hkey, ← hsource]
        exact recorded_of_later hgt hrecorded
      · rw [hid, hroot]
        exact congrArg _ hfits
    have hnext : ∀ t', Service.Holds ReplayInv Anything
        (match reply with
          | none => nak "publish selective replay"
          | some pubAck =>
            if pubAck.stream ≠ "CERBERO_RAW" ∨ pubAck.sequence = 0 then
              nak "validate selective replay PubAck"
            else ack) b t' := by
      intro t'
      split
      · exact holds_nak b t'
      · split
        · exact holds_nak b t'
        · exact holds_ack b t'
    obtain rfl | ⟨-, rfl⟩ := houtcome
    · refine ⟨replayInv_publish ht hsent, ?_, hnext _⟩
      exact ⟨fun _ => List.prefix_rfl, fun _ state h => ⟨state, h, rfl, rfl, le_rfl⟩,
        List.prefix_append _ _⟩
    · exact ⟨ht, le_rfl, hnext _⟩

/-- A request that is sent is a valid one, for the lifecycle of its root. -/
theorem request_eq_ok {decision : ReplayDecision} {request : ReservationRequest}
    (h : replayReservationRequestFromDecision decision = .ok request) :
    validateReplayReservationRequest request = .ok () ∧
      request.lifecycleKey = replayLifecycleKey request.replayRootDlqRecordId ∧
      request.replayRootDlqRecordId = decision.replayRootDlqRecordId ∧
      request.sourceDlqRecordId = decision.sourceDlqRecordId := by
  unfold replayReservationRequestFromDecision at h
  split at h
  · exact nomatch h
  · dsimp only at h
    match hvalid : validateReplayReservationRequest ⟨decision.lifecycleKey,
      decision.replayRootDlqRecordId, decision.sourceDlqRecordId, decision.sourceStreamSequence,
      decision.maxAttempts⟩ with
    | .error _ =>
      rw [hvalid] at h
      exact nomatch h
    | .ok () =>
      rw [hvalid] at h
      obtain rfl := Except.ok.inj h
      refine ⟨hvalid, ?_, rfl, rfl⟩
      unfold validateReplayReservationRequest at hvalid
      split_ifs at hvalid with _ hkey
      exact not_not.1 hkey

/-- A valid request goes to the database. -/
theorem reserveAttempt_eq {request : ReservationRequest}
    (h : validateReplayReservationRequest request = .ok ()) :
    reserveAttempt request = .perform (.transact request) fun
      | none => pure (.error (.database "transaction"))
      | some result => pure result := by
  unfold reserveAttempt
  rw [h]
  rfl

theorem holds_replaySource (source : RawMessage) (decision : ReplayDecision)
    (g : replayService.Shared) : Service.Holds ReplayInv Anything
      (replaySource sha256LowerHex source decision) false g := by
  unfold replaySource
  split
  · exact holds_ack false g
  · split
    · exact holds_ack false g
    · rename_i request hrequest
      obtain ⟨hvalid, hkey, hroot, hsource⟩ := request_eq_ok hrequest
      rw [reserveAttempt_eq hvalid]
      intro t _ ht
      refine ⟨fun lifecycle result hcommit => ?_, fun result hrollback => ?_, holds_nak false t⟩
      · obtain ⟨state, state', hreserved, rfl⟩ := reserve_eq_commit hcommit
        exact ⟨replayInv_commit ht hkey hreserved, later_commit hreserved,
          holds_handOff (hkey.trans (congrArg _ hroot)) hsource (recorded_commit hreserved),
          holds_nak true _⟩
      · match result with
        | .error .conflict => exact holds_ack false t
        | .error (.invalid _) => exact holds_nak false t
        | .error (.database _) => exact holds_nak false t
        | .ok reservation =>
          change Service.Holds ReplayInv Anything (if reservation.reserved = false then ack
            else handOff sha256LowerHex source decision reservation) false t
          split
          · exact holds_ack false t
          · rename_i hreserved
            obtain ⟨entry, hentry, hsame, -, rfl⟩ :=
              reserve_eq_rollback hrollback (by simpa using hreserved)
            exact holds_handOff (hkey.trans (congrArg _ hroot)) hsource
              ⟨entry, hentry, hsame, rfl⟩

/-- **One delivery keeps counters, ledgers and published messages in step.** -/
theorem holds_handle (delivery : Delivery) (g : replayService.Shared) :
    Service.Holds ReplayInv Anything (handle sha256LowerHex delivery) false g := by
  unfold handle
  split
  · exact holds_ack false g
  · dsimp only
    split
    · exact holds_ack false g
    · refine holds_effect (fun _ _ _ h => h) fun
        | .notFound, t, _ => holds_ack false t
        | .nothing, t, _ => holds_ack false t
        | .failed, t, _ => holds_nak false t
        | .found source, t, _ => holds_replaySource source _ t

end

/-! ## The budget -/

/-- The identifiers published for a root. -/
def publishedIds (g : replayService.Shared) (root : String) : Finset String :=
  ((g.ext.filter fun message => message.replayRootDlqRecordId = root).map
    ReplayMessage.messageId).toFinset

/-- **Within the budget**: counters count their ledgers and stay below what was captured, and the
messages published for a root are those of its attempts. -/
structure WithinBudget (g : replayService.Shared) : Prop where
  lifecycles : ∀ k, LifecycleOk k (g.rows k)
  budget : ∀ k state, (g.rows k).state = some state →
    state.consumedAttempts = (g.rows k).ledger.length ∧
      state.consumedAttempts ≤ state.maxAttempts
  published : ∀ root, publishedIds g root = ∅ ∨
    ∃ state, (g.rows (replayLifecycleKey root)).state = some state ∧
      ((publishedIds g root).card : ℤ) ≤ state.maxAttempts
  attempts : ∀ message ∈ g.ext, Sent g message
  ids : ∀ message ∈ g.ext, ∀ message' ∈ g.ext,
    message.replayRootDlqRecordId = message'.replayRootDlqRecordId →
    (message.messageId = message'.messageId ↔ message.attempt = message'.attempt)

/-- The identifiers of a root are those of its attempts. -/
theorem publishedIds_subset {g : replayService.Shared} (h : ReplayInv g) (root : String) :
    publishedIds g root ⊆ ((g.rows (replayLifecycleKey root)).ledger.map fun entry =>
      replayNatsMessageId root entry.attempt.toNat).toFinset := by
  intro id hid
  obtain ⟨message, hmessage, rfl⟩ := List.mem_map.1 (List.mem_toFinset.1 hid)
  obtain ⟨hmem, hroot⟩ := List.mem_filter.1 hmessage
  obtain rfl := of_decide_eq_true hroot
  obtain ⟨attempt, ⟨entry, hentry, -, rfl⟩, -, heq⟩ := h.sent message hmem
  exact List.mem_toFinset.2 (List.mem_map.2 ⟨entry, hentry, heq.symm⟩)

theorem card_publishedIds_le {g : replayService.Shared} (h : ReplayInv g) (root : String) :
    (publishedIds g root).card ≤ (g.rows (replayLifecycleKey root)).ledger.length :=
  calc (publishedIds g root).card
      ≤ _ := Finset.card_le_card (publishedIds_subset h root)
    _ ≤ _ := List.toFinset_card_le _
    _ = _ := List.length_map _

/-- An identifier is its root and its attempt. -/
theorem messageId_of_sent {g : replayService.Shared} {message : ReplayMessage}
    (h : Sent g message) : message.messageId = "normalization-replay:v1:" ++
      message.replayRootDlqRecordId ++ ":" ++ message.attempt := by
  obtain ⟨attempt, -, hattempt, hid⟩ := h
  rw [hid, hattempt]
  rfl

theorem withinBudget_of_replayInv {g : replayService.Shared} (h : ReplayInv g) :
    WithinBudget g where
  lifecycles := h.lifecycles
  budget k state hstate := ⟨((h.lifecycles k).counted state hstate).1, state.budget.2.1⟩
  published root := by
    have hcard := card_publishedIds_le h root
    match hstate : (g.rows (replayLifecycleKey root)).state with
    | none =>
      rw [(h.lifecycles _).missing hstate] at hcard
      exact .inl (Finset.card_eq_zero.1 (Nat.le_zero.1 hcard))
    | some state =>
      refine .inr ⟨state, rfl, ?_⟩
      have hcount := ((h.lifecycles _).counted state hstate).1
      have hbudget := state.budget
      omega
  attempts := h.sent
  ids message hmem message' hmem' hroot := by
    rw [messageId_of_sent (h.sent message hmem), messageId_of_sent (h.sent message' hmem'), hroot,
      ← String.toList_inj, ← String.toList_inj]
    simp

/-- No lifecycle, and nothing published. -/
def emptyTables : replayService.Shared := ⟨fun _ => ⟨none, []⟩, [], []⟩

theorem replayInv_emptyTables : ReplayInv emptyTables :=
  ⟨fun k => lifecycleOk_empty k, fun _ h => nomatch h⟩

/-- **Automatic replay stays within its budget**, whatever the workers, their policies, the
deliveries and the failures: in every state of a run the counters, the ledgers and the published
messages are in step, and what a lifecycle captured and the attempts it gave stay. -/
theorem withinBudget_of_reachable {sha256LowerHex : List UInt8 → String}
    {s t : replayService.State Delivery (Except String Unit)}
    (hs : Service.Reachable (handle sha256LowerHex) emptyTables s)
    (hst : Relation.ReflTransGen (Service.Step (handle sha256LowerHex)) s t) :
    WithinBudget t.shared ∧ Later s.shared t.shared ∧
      ∀ k, ∀ entry ∈ (s.shared.rows k).ledger, ∀ entry' ∈ (t.shared.rows k).ledger,
        entry'.sourceDlqRecordId = entry.sourceDlqRecordId → entry' = entry := by
  have hcalls (delivery : Delivery) (g : replayService.Shared) (_ : ReplayInv g) :
      Service.Holds ReplayInv Anything (handle sha256LowerHex delivery) false g :=
    holds_handle delivery g
  have hkept := Service.holds_of_reachable ReplayInv (fun _ => Anything) hcalls
    replayInv_emptyTables hs
  obtain ⟨hkept', hlater⟩ := hkept.reaches hcalls hst
  refine ⟨withinBudget_of_replayInv hkept'.inv, hlater, fun k entry hentry entry' hentry' heq => ?_⟩
  exact List.inj_on_of_nodup_map (hkept'.inv.lifecycles k).sources hentry'
    ((hlater.ledger k).subset hentry) heq

/-! ### A replay -/

/-- The digest of the empty message. -/
def emptyDigest : String := "e3b0c44298fc1c149afbf4c8996fb92427ae41e4649b934ca495991b7852b855"

/-- A dead letter that may be replayed twice. -/
def sampleDelivery : Delivery where
  policy := ⟨2⟩
  letter := some ⟨normalizationDlqSchema, "dlq-1", none, rawPersistedSubject, emptyDigest, true,
    some 7, none⟩

/-- A dead letter of its replay. -/
def laterDelivery : Delivery where
  policy := ⟨2⟩
  letter := some ⟨normalizationDlqSchema, "dlq-2", none, rawPersistedSubject, emptyDigest, true,
    some 8, some "dlq-1"⟩

/-- The raw message it came from. -/
def sampleSource : RawMessage := ⟨7, rawPersistedSubject, "", []⟩

/-- The replay, back in the stream. -/
def laterSource : RawMessage := { sampleSource with sequence := 8 }

/-- The dead letter is delivered to two workers, and both publish the one attempt that is reserved;
the reply to the second publication is lost.  A dead letter of the replay gets the other attempt. -/
theorem withinBudget_of_reachable_sample :
    ∃ t : replayService.State Delivery (Except String Unit), WithinBudget t.shared ∧
      t.shared.ext.map ReplayMessage.messageId =
        ["normalization-replay:v1:dlq-1:1", "normalization-replay:v1:dlq-1:1",
          "normalization-replay:v1:dlq-1:2"] ∧
      (t.shared.rows "normalization-replay:v1:dlq:dlq-1").ledger =
        [⟨"dlq-1", 1, 7⟩, ⟨"dlq-2", 2, 8⟩] := by
  have hfound (source : RawMessage) (sent : List ReplayMessage) :
      Effect.Outcome (.getSource source.sequence) sent (.found source) sent := rfl
  have hsent (message : ReplayMessage) (sent : List ReplayMessage) (reply : Option PubAck) :
      Effect.Outcome (.publish message) sent reply (sent ++ [message]) := .inl rfl
  let s : replayService.State Delivery (Except String Unit) :=
    ⟨emptyTables, fun _ => none, fun _ => none⟩
  have hrun : Relation.ReflTransGen (Service.Step (handle fun _ => emptyDigest)) s _ :=
    .single (.start s 0 sampleDelivery rfl)
  replace hrun := hrun.tail (.start _ 1 sampleDelivery rfl)
  replace hrun := hrun.tail (.effect _ 0 sampleDelivery _ _
    (SourceReply.found sampleSource) _ false rfl (hfound sampleSource _))
  replace hrun := hrun.tail (.effect _ 1 sampleDelivery _ _
    (SourceReply.found sampleSource) _ false rfl (hfound sampleSource _))
  replace hrun := hrun.tail (.open _ 0 sampleDelivery _ _ false rfl)
  replace hrun := hrun.tail (.open _ 1 sampleDelivery _ _ false rfl)
  -- the first worker reserves, and the second one finds the reservation
  replace hrun := hrun.tail (.lock _ 0 sampleDelivery _ _ false rfl rfl)
  replace hrun := hrun.tail (.write _ 0 sampleDelivery _ _ false _ _ _ rfl rfl)
  replace hrun := hrun.tail (.commit _ 0 sampleDelivery _ _ false _ _ _ rfl (.inl rfl))
  replace hrun := hrun.tail (.lock _ 1 sampleDelivery _ _ false rfl rfl)
  replace hrun := hrun.tail (.rollback _ 1 sampleDelivery _ _ false _ _ rfl rfl)
  replace hrun := hrun.tail (.effect _ 1 sampleDelivery _ _
    (some (PubAck.mk "CERBERO_RAW" 8)) _ false rfl (hsent _ _ _))
  replace hrun := hrun.tail (.effect _ 0 sampleDelivery _ _ (none : Option PubAck) _ true rfl
    (hsent _ _ _))
  -- the replay has failed as well
  replace hrun := hrun.tail (.start _ 2 laterDelivery rfl)
  replace hrun := hrun.tail (.effect _ 2 laterDelivery _ _
    (SourceReply.found laterSource) _ false rfl (hfound laterSource _))
  replace hrun := hrun.tail (.open _ 2 laterDelivery _ _ false rfl)
  replace hrun := hrun.tail (.lock _ 2 laterDelivery _ _ false rfl rfl)
  replace hrun := hrun.tail (.write _ 2 laterDelivery _ _ false _ _ _ rfl rfl)
  replace hrun := hrun.tail (.commit _ 2 laterDelivery _ _ false _ _ _ rfl (.inl rfl))
  replace hrun := hrun.tail (.effect _ 2 laterDelivery _ _
    (some (PubAck.mk "CERBERO_RAW" 9)) _ true rfl (hsent _ _ _))
  exact ⟨_, (withinBudget_of_reachable .refl hrun).1, rfl, rfl⟩

end Worker

end Cerbero
