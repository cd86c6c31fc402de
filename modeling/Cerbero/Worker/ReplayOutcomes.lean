import Cerbero.Lib.Trace
import Cerbero.Worker.Lineage

/-!
# Worker/ReplayOutcomes — no attempt is wasted, and none is skipped

How one delivery of a dead letter can end, whatever the raw stream, the tables and the publisher
answer.  What was checked before the reservation is what the builder checks again
(`exists_buildSelectiveReplayMessage_eq_ok`), so an attempt that is reserved is published, and the
dead letter stays until its publication is confirmed: **`settled_handle`**.
-/

namespace Cerbero

namespace Worker

open Prog Text

/-! ## Reservations -/

/-- A reservation may end with `result`, for some state of its lifecycle. -/
def MayEnd (request : ReservationRequest) (result : Except ReserveError Reservation) : Prop :=
  ∃ lifecycle, (∃ lifecycle', reserve request lifecycle = .commit lifecycle' result) ∨
    reserve request lifecycle = .rollback result

/-- A reserved attempt, old or new, is within the budget. -/
theorem attempt_of_mayEnd {request : ReservationRequest} {reservation : Reservation}
    (h : MayEnd request (.ok reservation)) (hreserved : reservation.reserved = true) :
    ∃ attempt : ℤ, (0 < attempt ∧ attempt ≤ request.maxAttempts.toNat) ∧
      reservation = reservationFor request true attempt := by
  obtain ⟨lifecycle, ⟨lifecycle', hcommit⟩ | hrollback⟩ := h
  · obtain ⟨state, state', hnew, heq⟩ := reserve_eq_commit hcommit
    refine ⟨state.consumedAttempts + 1, ?_, Except.ok.inj heq⟩
    have hmax := hnew.max.2
    have hconsumed := hnew.consumed
    have hbefore := state.budget
    have hafter := state'.budget
    omega
  · obtain ⟨entry, -, -, hbudget, heq⟩ := reserve_eq_rollback hrollback hreserved
    exact ⟨entry.attempt, hbudget, heq⟩

/-- The number of an attempt fits in 32 bits. -/
theorem reservationFor_attempt {request : ReservationRequest} {attempt : ℤ} (hpos : 0 < attempt)
    (hmax : attempt ≤ request.maxAttempts.toNat) :
    (reservationFor request true attempt).attempt ≠ 0 ∧
      (reservationFor request true attempt).attempt ≤ request.maxAttempts := by
  have hbound : request.maxAttempts.toNat < 2 ^ 32 := request.maxAttempts.toNat_lt
  have htoNat : (reservationFor request true attempt).attempt.toNat = attempt.toNat := by
    rw [reservationFor, UInt32.toNat_ofNat']
    omega
  constructor
  · intro hzero
    rw [hzero, UInt32.toNat_zero] at htoNat
    omega
  · rw [UInt32.le_iff_toNat_le, htoNat]
    omega

/-! ## Before the reservation -/

/-- The request a decision makes. -/
def ReplayDecision.request (decision : ReplayDecision) : ReservationRequest :=
  ⟨decision.lifecycleKey, decision.replayRootDlqRecordId, decision.sourceDlqRecordId,
    decision.sourceStreamSequence, decision.maxAttempts⟩

theorem isBlank_of_trimmed {text : String} (h : trimSpace text = text ∧ text ≠ "") :
    isBlank text = false := by
  obtain ⟨htrimmed, hne⟩ := h
  refine Bool.eq_false_iff.2 fun hblank => hne ?_
  have hdrop : text.toList.dropWhile isWhitespace = [] :=
    List.dropWhile_eq_nil_iff.2 (List.all_eq_true.1 hblank)
  rw [← htrimmed, trimSpace, trim, hdrop]
  rfl

/-- The request of an eligible decision is valid. -/
theorem request_of_eligible {letter : NormalizationDeadLetter} {policy : ReplayPolicy}
    (h : (evaluateNormalizationReplay letter policy).eligible = true) :
    let decision := evaluateNormalizationReplay letter policy
    validateReplayReservationRequest decision.request = .ok () ∧
      replayReservationRequestFromDecision decision = .ok decision.request := by
  intro decision
  obtain ⟨hpolicy, sequence, root, hletter⟩ := replayable_of_eligible h
  have hdecision : decision = _ := hletter.evaluate hpolicy
  have hroot : isBlank root = false := isBlank_of_trimmed
    (trimmed_replayRoot hletter.dlqRecordId hletter.root_eq)
  have hvalid : validateReplayReservationRequest decision.request = .ok () := by
    rw [hdecision]
    simp [validateReplayReservationRequest, ReplayDecision.request, hroot, hletter.dlqRecordId,
      hletter.sequence_ne, hpolicy]
  refine ⟨hvalid, ?_⟩
  unfold replayReservationRequestFromDecision
  rw [if_neg (by rw [h]; exact Bool.noConfusion)]
  change (validateReplayReservationRequest decision.request).map _ = _
  rw [hvalid]
  rfl

section

variable {sha256LowerHex : List UInt8 → String}

/-- **The builder takes whatever was reserved.** -/
theorem exists_buildSelectiveReplayMessage_eq_ok {source : RawMessage} {decision : ReplayDecision}
    {reservation : Reservation} (heligible : decision.eligible = true)
    (hsource : validateReplaySource sha256LowerHex source decision = .ok ())
    (h : MayEnd decision.request (.ok reservation)) (hreserved : reservation.reserved = true) :
    ∃ message,
      buildSelectiveReplayMessage sha256LowerHex source decision reservation = .ok message := by
  obtain ⟨attempt, ⟨hpos, hmax⟩, rfl⟩ := attempt_of_mayEnd h hreserved
  obtain ⟨hne, hle⟩ := reservationFor_attempt hpos hmax
  have hbudget : ¬ ((reservationFor decision.request true attempt).attempt = 0 ∨
      decision.maxAttempts < (reservationFor decision.request true attempt).attempt) :=
    not_or.2 ⟨hne, UInt32.not_lt.2 hle⟩
  have hmatch : ¬ (decision.request.lifecycleKey ≠ decision.lifecycleKey ∨
      decision.request.replayRootDlqRecordId ≠ decision.replayRootDlqRecordId ∨
      decision.request.maxAttempts ≠ decision.maxAttempts) := by
    rintro (hne | hne | hne) <;> exact hne rfl
  match hbuild : buildSelectiveReplayMessage sha256LowerHex source decision
    (reservationFor decision.request true attempt) with
  | .ok message => exact ⟨message, rfl⟩
  | .error _ =>
    unfold buildSelectiveReplayMessage at hbuild
    obtain ⟨hno, -⟩ | ⟨-, hbuild⟩ := guard_eq_error.1 hbuild
    · exact nomatch heligible.symm.trans hno
    obtain ⟨hno, -⟩ | ⟨-, hbuild⟩ := guard_eq_error.1 hbuild
    · exact nomatch hno
    obtain ⟨hno, -⟩ | ⟨-, hbuild⟩ := guard_eq_error.1 hbuild
    · exact absurd hno hmatch
    obtain ⟨hno, -⟩ | ⟨-, hbuild⟩ := guard_eq_error.1 hbuild
    · exact absurd hno hbudget
    obtain hno | ⟨_, -, hbuild⟩ := bind_eq_error.1 hbuild
    · exact nomatch hsource.symm.trans hno
    · exact nomatch hbuild

end

/-! ## One delivery -/

/-- What the operations of a delivery may answer: a transaction what it ends with for some state of
its lifecycle, unless it fails; every other operation anything. -/
def MayAnswer : (o : replayService.interface.Op) → replayService.interface.Response o → Prop
  | .transact request, some result => MayEnd request result
  | _, _ => True

abbrev ReplayEvent : Type := Prog.Event replayService.interface

abbrev lookedUp (sequence : UInt64) (reply : SourceReply) : ReplayEvent :=
  ⟨.effect (.getSource sequence), reply⟩

abbrev transacted (request : ReservationRequest)
    (answer : Option (Except ReserveError Reservation)) : ReplayEvent :=
  ⟨.transact request, answer⟩

abbrev published (message : ReplayMessage) (reply : Option PubAck) : ReplayEvent :=
  ⟨.effect (.publish message), reply⟩

abbrev acknowledged (done : Bool) : ReplayEvent := ⟨.effect .doubleAck, done⟩

abbrev deferred (done : Bool) : ReplayEvent := ⟨.effect .nakWithDelay, done⟩

/-- An attempt is reserved. -/
def Reserves : ReplayEvent → Prop
  | ⟨.transact _, some (.ok reservation)⟩ => reservation.reserved = true
  | _ => False

/-- A publication that the raw stream confirmed. -/
def PubAck.Valid (pubAck : PubAck) : Prop := pubAck.stream = "CERBERO_RAW" ∧ pubAck.sequence ≠ 0

section

variable (sha256LowerHex : List UInt8 → String) (delivery : Delivery)

/-- The source of a dead letter. -/
structure SourceOf (letter : NormalizationDeadLetter) (source : RawMessage) : Prop where
  sequence : letter.streamSequence = some source.sequence
  subject : source.subject = rawPersistedSubject
  digest : sha256LowerHex source.data = letter.originalPayloadSha256

/-- **Why a dead letter is acknowledged without a replay**, and what was done until then. -/
inductive Terminal : ReplayReason → List ReplayEvent → Prop
  | unreadable (h : delivery.letter = none) : Terminal .invalidRecord []
  | rejected (letter : NormalizationDeadLetter) (reason : ReplayReason)
      (h : delivery.letter = some letter)
      (hreason : (evaluateNormalizationReplay letter delivery.policy).reason = reason)
      (hterminal : reason ∈ [.disabled, .invalidRecord, .unsupportedOrigin, .permanentFailure,
        .sourceUnavailable]) : Terminal reason []
  | missing (sequence : UInt64) (reply : SourceReply)
      (hreply : reply = .notFound ∨ reply = .nothing) :
      Terminal .sourceUnavailable [lookedUp sequence reply]
  | mismatching (letter : NormalizationDeadLetter) (source : RawMessage) (sequence : UInt64)
      (h : delivery.letter = some letter) (hsource : ¬ SourceOf sha256LowerHex letter source) :
      Terminal .sourceUnavailable [lookedUp sequence (.found source)]
  | conflict (source : RawMessage) (request : ReservationRequest) :
      Terminal .invalidRecord [lookedUp source.sequence (.found source),
        transacted request (some (.error .conflict))]
  | exhausted (source : RawMessage) (request : ReservationRequest) (reservation : Reservation)
      (hreserved : reservation.reserved = false) :
      Terminal .budgetExhausted [lookedUp source.sequence (.found source),
        transacted request (some (.ok reservation))]

/-- The publication before an acknowledgement. -/
def Confirmed (before : List ReplayEvent) : Prop :=
  ∃ earlier message pubAck, before = earlier ++ [published message (some pubAck)] ∧ pubAck.Valid

/-- **What follows a reserved attempt**: its message is built and published; then the dead letter is
acknowledged if this was confirmed, and deferred if not. -/
def HandedOff (source : RawMessage) (decision : ReplayDecision) (reservation : Reservation)
    (after : List ReplayEvent) : Prop :=
  ∃ message,
    buildSelectiveReplayMessage sha256LowerHex source decision reservation = .ok message ∧
    ((∃ pubAck done, pubAck.Valid ∧
        after = [published message (some pubAck), acknowledged done]) ∨
      ∃ reply done, (∀ pubAck, reply = some pubAck → ¬ pubAck.Valid) ∧
        after = [published message reply, deferred done])

/-- **Neither wasted nor skipped**, at each operation of a delivery. -/
def SettledAt (before : List ReplayEvent) (event : ReplayEvent) (after : List ReplayEvent) :
    Prop :=
  match event with
  | ⟨.effect .doubleAck, _⟩ => Confirmed before ∨
      (∃ reason, Terminal sha256LowerHex delivery reason before) ∧
        ∀ earlier ∈ before, ¬ Reserves earlier
  | ⟨.transact _, answer⟩ => ∃ letter source, delivery.letter = some letter ∧
      before = [lookedUp source.sequence (.found source)] ∧
      SourceOf sha256LowerHex letter source ∧
      ∀ reservation, answer = some (.ok reservation) → reservation.reserved = true →
        HandedOff sha256LowerHex source (evaluateNormalizationReplay letter delivery.policy)
          reservation after
  | _ => True

end

section

variable {sha256LowerHex : List UInt8 → String}

theorem trace_ack {events : List ReplayEvent} {result : Except String Unit}
    (h : Trace MayAnswer ack events result) : ∃ done, events = [acknowledged done] := by
  obtain ⟨done, rest, rfl, -, h⟩ := trace_perform.1 h
  refine ⟨done, ?_⟩
  match done with
  | true => rw [(trace_pure.1 h).1]
  | false => rw [(trace_pure.1 h).1]

theorem trace_nak {stage : String} {events : List ReplayEvent} {result : Except String Unit}
    (h : Trace MayAnswer (nak stage) events result) : ∃ done, events = [deferred done] := by
  obtain ⟨done, rest, rfl, -, h⟩ := trace_perform.1 h
  refine ⟨done, ?_⟩
  match done with
  | true => rw [(trace_pure.1 h).1]
  | false => rw [(trace_pure.1 h).1]

/-- A reserved attempt is published. -/
theorem handedOff_of_trace {source : RawMessage} {decision : ReplayDecision}
    {reservation : Reservation} {message : ReplayMessage}
    (hmessage : buildSelectiveReplayMessage sha256LowerHex source decision reservation =
      .ok message)
    {events : List ReplayEvent} {result : Except String Unit}
    (h : Trace MayAnswer (handOff sha256LowerHex source decision reservation) events result) :
    HandedOff sha256LowerHex source decision reservation events := by
  unfold handOff at h
  rw [hmessage] at h
  obtain ⟨reply, rest, rfl, -, h⟩ := trace_perform.1 h
  refine ⟨message, hmessage, ?_⟩
  match reply with
  | none =>
    obtain ⟨done, rfl⟩ := trace_nak h
    exact .inr ⟨none, done, fun _ heq => (nomatch heq), rfl⟩
  | some pubAck =>
    change Trace MayAnswer
      (if pubAck.stream ≠ "CERBERO_RAW" ∨ pubAck.sequence = 0 then
        nak "validate selective replay PubAck" else ack) rest result at h
    split at h
    · rename_i hinvalid
      obtain ⟨done, rfl⟩ := trace_nak h
      refine .inr ⟨some pubAck, done, ?_, rfl⟩
      rintro _ ⟨⟩ ⟨hstream, hsequence⟩
      exact hinvalid.elim (fun hne => hne hstream) hsequence
    · rename_i hvalid
      obtain ⟨hstream, hsequence⟩ := not_or.1 hvalid
      obtain ⟨done, rfl⟩ := trace_ack h
      exact .inl ⟨pubAck, done, ⟨not_not.1 hstream, hsequence⟩, rfl⟩

theorem validateReplaySource_eq_ok {source : RawMessage} {decision : ReplayDecision} :
    validateReplaySource sha256LowerHex source decision = .ok () ↔
      source.sequence = decision.sourceStreamSequence ∧ source.subject = rawPersistedSubject ∧
        sha256LowerHex source.data = decision.sourcePayloadSha256 := by
  unfold validateReplaySource
  constructor
  · intro h
    split_ifs at h with hsequence hsubject hdigest
    exact ⟨not_not.1 hsequence, not_not.1 hsubject, not_not.1 hdigest⟩
  · rintro ⟨hsequence, hsubject, hdigest⟩
    rw [if_neg (not_not.2 hsequence), if_neg (not_not.2 hsubject), if_neg (not_not.2 hdigest)]

/-- What is checked of a source is that it is the one of the dead letter. -/
theorem validateReplaySource_iff {letter : NormalizationDeadLetter} {source : RawMessage}
    {policy : ReplayPolicy} (h : (evaluateNormalizationReplay letter policy).eligible = true) :
    validateReplaySource sha256LowerHex source (evaluateNormalizationReplay letter policy) =
        .ok () ↔ SourceOf sha256LowerHex letter source := by
  obtain ⟨hpolicy, sequence, root, hletter⟩ := replayable_of_eligible h
  rw [validateReplaySource_eq_ok, hletter.evaluate hpolicy]
  constructor
  · rintro ⟨hsequence, hsubject, hdigest⟩
    exact ⟨hletter.streamSequence.trans (congrArg some hsequence.symm), hsubject, hdigest⟩
  · rintro ⟨hsequence, hsubject, hdigest⟩
    exact ⟨Option.some.inj (hsequence.symm.trans hletter.streamSequence), hsubject, hdigest⟩

/-- The reasons of a decision that is not eligible. -/
theorem reason_of_not_eligible {letter : NormalizationDeadLetter} {policy : ReplayPolicy}
    (h : (evaluateNormalizationReplay letter policy).eligible = false) :
    (evaluateNormalizationReplay letter policy).reason ∈ [ReplayReason.disabled, .invalidRecord,
      .unsupportedOrigin, .permanentFailure, .sourceUnavailable] := by
  unfold evaluateNormalizationReplay at h ⊢
  split
  · simp
  · rename_i hmax
    rw [if_neg hmax] at h
    split
    · simp
    · rename_i hrecord
      rw [if_neg hrecord] at h
      split
      · simp
      · rename_i hsubject
        rw [if_neg hsubject] at h
        split
        · simp
        · rename_i sequence hsequence
          rw [hsequence] at h
          split
          · simp
          · rename_i hzero
            split
            · simp
            · rename_i root hroot
              simp only [hzero, if_false, hroot] at h
              simp [h]

theorem not_reserves_of_terminal {delivery : Delivery} {reason : ReplayReason}
    {before : List ReplayEvent} (h : Terminal sha256LowerHex delivery reason before) :
    ∀ earlier ∈ before, ¬ Reserves earlier := by
  match h with
  | .unreadable _ => simp
  | .rejected .. => simp
  | .missing .. => simp [Reserves]
  | .mismatching .. => simp [Reserves]
  | .conflict .. => simp [Reserves]
  | .exhausted _ _ _ hreserved => simp [Reserves, hreserved]

/-- A terminal reason settles a dead letter. -/
theorem settledAt_of_terminal {delivery : Delivery} {reason : ReplayReason}
    {before after : List ReplayEvent} {done : Bool}
    (h : Terminal sha256LowerHex delivery reason before) :
    SettledAt sha256LowerHex delivery before (acknowledged done) after :=
  .inr ⟨⟨reason, h⟩, not_reserves_of_terminal h⟩

/-- After the lookup of a source that is acknowledged for a terminal reason. -/
theorem atEach_ack {delivery : Delivery} {reason : ReplayReason} (before : List ReplayEvent)
    {events : List ReplayEvent} {result : Except String Unit} (h : Trace MayAnswer ack events result)
    (hterminal : Terminal sha256LowerHex delivery reason before) :
    AtEach (fun earlier => SettledAt sha256LowerHex delivery (before ++ earlier)) events := by
  obtain ⟨done, rfl⟩ := trace_ack h
  refine atEach_cons.2 ⟨?_, atEach_nil⟩
  rw [List.append_nil]
  exact settledAt_of_terminal hterminal

/-- A deferred dead letter is settled later. -/
theorem atEach_nak {stage : String} {delivery : Delivery} (before : List ReplayEvent)
    {events : List ReplayEvent} {result : Except String Unit}
    (h : Trace MayAnswer (nak stage) events result) :
    AtEach (fun earlier => SettledAt sha256LowerHex delivery (before ++ earlier)) events := by
  obtain ⟨done, rfl⟩ := trace_nak h
  exact atEach_cons.2 ⟨trivial, atEach_nil⟩

/-- What follows a reserved attempt settles the dead letter. -/
theorem atEach_handedOff {delivery : Delivery} {source : RawMessage} {decision : ReplayDecision}
    {reservation : Reservation} (before : List ReplayEvent) {events : List ReplayEvent}
    (h : HandedOff sha256LowerHex source decision reservation events) :
    AtEach (fun earlier => SettledAt sha256LowerHex delivery (before ++ earlier)) events := by
  obtain ⟨message, -, ⟨pubAck, done, hvalid, rfl⟩ | ⟨reply, done, -, rfl⟩⟩ := h
  · exact atEach_cons.2 ⟨trivial, atEach_cons.2 ⟨.inl ⟨before, message, pubAck, rfl, hvalid⟩,
      atEach_nil⟩⟩
  · exact atEach_cons.2 ⟨trivial, atEach_cons.2 ⟨trivial, atEach_nil⟩⟩

/-- The part of a delivery after its source was found. -/
theorem atEach_replaySource {delivery : Delivery} {letter : NormalizationDeadLetter}
    (hletter : delivery.letter = some letter)
    (heligible : (evaluateNormalizationReplay letter delivery.policy).eligible = true)
    {source : RawMessage} {events : List ReplayEvent} {result : Except String Unit}
    (h : Trace MayAnswer (replaySource sha256LowerHex source
      (evaluateNormalizationReplay letter delivery.policy)) events result) :
    AtEach (fun earlier => SettledAt sha256LowerHex delivery (lookedUp
      (evaluateNormalizationReplay letter delivery.policy).sourceStreamSequence (.found source) ::
        earlier)) events := by
  obtain ⟨hvalid, hrequest⟩ := request_of_eligible heligible
  unfold replaySource at h
  split at h
  · rename_i _ hinvalid
    refine atEach_ack _ h (.mismatching letter source _ hletter fun hsource => ?_)
    rw [(validateReplaySource_iff heligible).2 hsource] at hinvalid
    exact nomatch hinvalid
  · rename_i hfound
    have hsource := (validateReplaySource_iff heligible).1 hfound
    rw [← (validateReplaySource_eq_ok.1 hfound).1]
    rw [hrequest] at h
    dsimp only at h
    rw [reserveAttempt_eq hvalid] at h
    obtain ⟨answer, rest, rfl, hanswer, h⟩ := trace_perform.1 h
    refine atEach_cons.2 ⟨⟨letter, source, hletter, rfl, hsource, ?_⟩, ?_⟩
    · rintro reservation rfl hreserved
      obtain ⟨message, hmessage⟩ :=
        exists_buildSelectiveReplayMessage_eq_ok heligible hfound hanswer hreserved
      change Trace MayAnswer (if reservation.reserved = false then ack
        else handOff sha256LowerHex source _ reservation) rest result at h
      rw [if_neg (by rw [hreserved]; exact Bool.noConfusion)] at h
      exact handedOff_of_trace hmessage h
    · match answer with
      | none => exact atEach_nak [_, _] h
      | some (.error .conflict) => exact atEach_ack _ h (.conflict source _)
      | some (.error (.invalid _)) => exact atEach_nak [_, _] h
      | some (.error (.database _)) => exact atEach_nak [_, _] h
      | some (.ok reservation) =>
        change Trace MayAnswer (if reservation.reserved = false then ack
          else handOff sha256LowerHex source _ reservation) rest result at h
        split at h
        · rename_i hreserved
          exact atEach_ack _ h (.exhausted source _ reservation hreserved)
        · rename_i hreserved
          obtain ⟨message, hmessage⟩ := exists_buildSelectiveReplayMessage_eq_ok heligible hfound
            hanswer (Bool.not_eq_false _ ▸ hreserved)
          exact atEach_handedOff [_, _] (handedOff_of_trace hmessage h)

/-- **The worker neither wastes nor skips an attempt**, whatever it is answered: at every operation
of a delivery, an acknowledgement comes after a confirmed publication, or for a terminal reason and
before the delivery reserved any attempt; an attempt is only asked for after the source was matched
with the dead letter; and one that is reserved is published and then acknowledged, or deferred. -/
theorem settled_handle {delivery : Delivery} {events : List ReplayEvent}
    {result : Except String Unit}
    (h : Trace MayAnswer (handle sha256LowerHex delivery) events result) :
    AtEach (SettledAt sha256LowerHex delivery) events := by
  unfold handle at h
  split at h
  · rename_i hunreadable
    exact atEach_ack [] h (.unreadable hunreadable)
  · rename_i letter hletter
    dsimp only at h
    split at h
    · rename_i hrejected
      exact atEach_ack [] h
        (.rejected letter _ hletter rfl (reason_of_not_eligible hrejected))
    · rename_i heligible
      obtain ⟨reply, rest, rfl, -, h⟩ := trace_perform.1 h
      refine atEach_cons.2 ⟨trivial, ?_⟩
      match reply with
      | .found source =>
        exact atEach_replaySource hletter (Bool.not_eq_false _ ▸ heligible) h
      | .nothing => exact atEach_ack _ h (.missing _ _ (.inr rfl))
      | .notFound => exact atEach_ack _ h (.missing _ _ (.inl rfl))
      | .failed => exact atEach_nak [_] h

end

/-! ### A replay -/

/-- The dead letter is published and acknowledged. -/
theorem settled_handle_sample : ∃ message, AtEach (SettledAt (fun _ => emptyDigest) sampleDelivery)
    [lookedUp 7 (.found sampleSource),
      transacted ⟨replayLifecycleKey "dlq-1", "dlq-1", "dlq-1", 7, 2⟩
        (some (.ok ⟨true, 1, 2, replayLifecycleKey "dlq-1", "dlq-1"⟩)),
      published message (some ⟨"CERBERO_RAW", 8⟩), acknowledged true] :=
  ⟨_, settled_handle (.perform _ trivial (.perform _ ⟨⟨none, []⟩, .inl ⟨_, rfl⟩⟩
    (.perform _ trivial (.perform _ trivial (.pure _)))))⟩

end Worker

end Cerbero
