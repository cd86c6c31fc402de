import Cerbero.Contracts.UuidText
import Cerbero.Lib.Separated
import Cerbero.Normalizer.RetrySafety

/-!
# Normalizer/DeadLetterIdentity — which dead letters the stream takes for the same

The identifier of a dead letter has one of four forms.  Each ends with a field that has no colon,
and only a replay has another colon before it; that is enough to read the form and its fields back
(`text_eq_text`), and to say which failures get one identifier: **`natsMessageId_eq_iff`**.
-/

namespace Cerbero

namespace Normalizer

open Separated Text

/-! ## Identifiers -/

/-- `NormalizationDeadLetter::nats_message_id`, the identifier the stream deduplicates by: the
attempt of a replay, else the original message, else its place in the stream, else the digest of its
payload. -/
def NormalizationDeadLetter.natsMessageId (letter : NormalizationDeadLetter) : String :=
  match letter.replayRootDlqRecordId, letter.replayAttempt with
  | some root, some attempt => "normalization-dlq:v1:replay:" ++ root ++ ":" ++ toString attempt ++
      ":" ++ letter.originalPayloadSha256
  | _, _ => match letter.originalMessageId with
    | some id => "normalization-dlq:v1:" ++ id ++ ":" ++ letter.originalPayloadSha256
    | none => match letter.streamSequence with
      | some sequence => "normalization-dlq:v1:stream:" ++ toString sequence
      | none => "normalization-dlq:v1:payload:" ++ letter.originalPayloadSha256

/-- What an identifier is made of. -/
inductive DlqIdentity
  | replay (root : String) (attempt : ℕ) (digest : String)
  | message (id digest : String)
  | stream (sequence : ℕ)
  | payload (digest : String)
  deriving DecidableEq, Repr

namespace DlqIdentity

/-- What stands before the last colon. -/
def head : DlqIdentity → String
  | replay root attempt _ => "replay:" ++ root ++ ":" ++ toString attempt
  | message id _ => id
  | stream _ => "stream"
  | payload _ => "payload"

/-- What stands after it. -/
def last : DlqIdentity → String
  | replay _ _ digest => digest
  | message _ digest => digest
  | stream sequence => toString sequence
  | payload digest => digest

/-- The text of an identifier. -/
def text (identity : DlqIdentity) : String :=
  "normalization-dlq:v1:" ++ (identity.head ++ ":" ++ identity.last)

section

variable (root id digest : String) (attempt sequence : ℕ)

theorem head_replay :
    (replay root attempt digest).head = "replay:" ++ root ++ ":" ++ toString attempt := rfl

theorem head_message : (message id digest).head = id := rfl

theorem head_stream : (stream sequence).head = "stream" := rfl

theorem head_payload : (payload digest).head = "payload" := rfl

theorem last_replay : (replay root attempt digest).last = digest := rfl

theorem last_message : (message id digest).last = digest := rfl

theorem last_stream : (stream sequence).last = toString sequence := rfl

theorem last_payload : (payload digest).last = digest := rfl

theorem text_eq (identity : DlqIdentity) : identity.text =
    "normalization-dlq:v1:" ++ (identity.head ++ ":" ++ identity.last) := rfl

end

/-- What is known of the parts of an identifier. -/
def Valid : DlqIdentity → Prop
  | replay _ _ digest => isLowerHex digest
  | message id digest => ':' ∉ id.toList ∧ isLowerHex digest
  | stream sequence => sequence < 2 ^ 64
  | payload digest => isLowerHex digest

end DlqIdentity

/-- What the identifier of a dead letter is made of. -/
def NormalizationDeadLetter.identity (letter : NormalizationDeadLetter) : DlqIdentity :=
  match letter.replayRootDlqRecordId, letter.replayAttempt with
  | some root, some attempt => .replay root attempt letter.originalPayloadSha256
  | _, _ => match letter.originalMessageId with
    | some id => .message id letter.originalPayloadSha256
    | none => match letter.streamSequence with
      | some sequence => .stream sequence
      | none => .payload letter.originalPayloadSha256

/-- The constant parts of a text may be taken apart. -/
theorem append_of_eq {whole first second : String} (h : whole = first ++ second) (rest : String) :
    whole ++ rest = first ++ (second ++ rest) := by rw [h, String.append_assoc]

theorem natsMessageId_eq_text (letter : NormalizationDeadLetter) :
    letter.natsMessageId = letter.identity.text := by
  have hreplay : "normalization-dlq:v1:replay:" = "normalization-dlq:v1:" ++ "replay:" := by decide
  unfold NormalizationDeadLetter.natsMessageId NormalizationDeadLetter.identity
  split
  · rw [DlqIdentity.text_eq, DlqIdentity.head_replay, DlqIdentity.last_replay]
    repeat rw [String.append_assoc]
    rw [append_of_eq hreplay]
  · split
    · rw [DlqIdentity.text_eq, DlqIdentity.head_message, DlqIdentity.last_message]
      repeat rw [String.append_assoc]
    · split
      · rw [DlqIdentity.text_eq, DlqIdentity.head_stream, DlqIdentity.last_stream,
          append_of_eq (show _ = "normalization-dlq:v1:" ++ ("stream" ++ ":") by decide)]
      · rw [DlqIdentity.text_eq, DlqIdentity.head_payload, DlqIdentity.last_payload,
          append_of_eq (show _ = "normalization-dlq:v1:" ++ ("payload" ++ ":") by decide)]

/-! ## Reading them back -/

theorem colon_not_mem_digest {digest : String} (h : isLowerHex digest) : ':' ∉ digest.toList := by
  intro hmem
  have hbyte : ':'.toUInt8 ∈ bytes digest := mem_bytes_of_mem (by decide) hmem
  have hhex := List.all_eq_true.1 (Bool.and_eq_true_iff.1 h).2 _ hbyte
  exact absurd hhex (by decide)

theorem colon_not_mem_toString (n : ℕ) : ':' ∉ (toString n).toList := by
  intro h
  rw [Nat.toString_eq_repr, Nat.toList_repr] at h
  exact absurd (Nat.isDigit_of_mem_toDigits (by decide) (by decide) h) (by decide)

/-- A digest is longer than a sequence. -/
theorem toString_ne_digest {digest : String} {sequence : ℕ} (hdigest : isLowerHex digest)
    (hrange : sequence < 2 ^ 64) : toString sequence ≠ digest := by
  rintro rfl
  have hlength : (bytes (toString sequence)).length = 64 :=
    eq_of_beq (Bool.and_eq_true_iff.1 hdigest).1
  have hdigits : ∀ ch ∈ Nat.toDigits 10 sequence, ch.toNat < 128 := by
    intro ch hch
    have hdigit := Nat.isDigit_of_mem_toDigits (by decide) (by decide) hch
    exact (Char.isDigit_iff_toNat.1 hdigit).2.trans_lt (by decide)
  have hshort : (Nat.toDigits 10 sequence).length ≤ 20 := by
    rw [Nat.length_toDigits_le_iff (by decide) (by decide)]
    omega
  rw [Nat.toString_eq_repr, ← String.ofList_toList (s := sequence.repr), Nat.toList_repr,
    bytes_ofList hdigits, List.length_map] at hlength
  omega

namespace DlqIdentity

theorem colon_not_mem_last {identity : DlqIdentity} (h : identity.Valid) :
    ':' ∉ identity.last.toList := by
  match identity with
  | replay _ _ _ => exact colon_not_mem_digest h
  | message _ _ => exact colon_not_mem_digest h.2
  | stream sequence => exact colon_not_mem_toString sequence
  | payload _ => exact colon_not_mem_digest h

/-- Equal identifiers are equal on both sides of the last colon. -/
theorem head_last_of_text_eq {x y : DlqIdentity} (hx : x.Valid) (hy : y.Valid)
    (h : x.text = y.text) : x.head = y.head ∧ x.last = y.last := by
  have hlist : x.head.toList ++ ':' :: x.last.toList = y.head.toList ++ ':' :: y.last.toList := by
    have htoList := congrArg String.toList h
    simp only [text_eq, String.toList_append, List.append_cancel_left_eq, List.append_assoc]
      at htoList
    exact htoList
  obtain ⟨hhead, hlast⟩ :=
    append_cons_inj_right (colon_not_mem_last hx) (colon_not_mem_last hy) hlist
  exact ⟨String.toList_inj.1 hhead, String.toList_inj.1 hlast⟩

/-- Only a replay has another colon. -/
theorem colon_mem_head_replay (root digest : String) (attempt : ℕ) :
    ':' ∈ (replay root attempt digest).head.toList := by
  rw [head_replay, String.toList_append, String.toList_append]
  exact List.mem_append_left _ (List.mem_append_right _ (List.mem_singleton_self _))

theorem replay_of_head_eq {root digest : String} {attempt : ℕ} {y : DlqIdentity} (hy : y.Valid)
    (h : (replay root attempt digest).head = y.head) : ∃ root' attempt' digest',
      y = replay root' attempt' digest' := by
  have hcolon : ':' ∈ y.head.toList := h ▸ colon_mem_head_replay root digest attempt
  match y with
  | replay root' attempt' digest' => exact ⟨root', attempt', digest', rfl⟩
  | message _ _ => exact absurd hcolon hy.1
  | stream _ => exact absurd hcolon (by rw [head_stream]; decide)
  | payload _ => exact absurd hcolon (by rw [head_payload]; decide)

theorem replay_inj {root root' digest digest' : String} {attempt attempt' : ℕ}
    (hhead : (replay root attempt digest).head = (replay root' attempt' digest').head)
    (hlast : (replay root attempt digest).last = (replay root' attempt' digest').last) :
    replay root attempt digest = replay root' attempt' digest' := by
  have hlist : ("replay:" ++ root).toList ++ ':' :: (toString attempt).toList =
      ("replay:" ++ root').toList ++ ':' :: (toString attempt').toList := by
    have htoList := congrArg String.toList hhead
    simp only [head_replay, String.toList_append, List.append_assoc] at htoList
    simp only [String.toList_append, List.append_assoc]
    exact htoList
  obtain ⟨hroot, hattempt⟩ := append_cons_inj_right (colon_not_mem_toString attempt)
    (colon_not_mem_toString attempt') hlist
  obtain rfl : attempt = attempt' := repr_injective (String.toList_inj.1 hattempt)
  obtain rfl : digest = digest' := hlast
  rw [String.toList_append, String.toList_append, List.append_cancel_left_eq,
    String.toList_inj] at hroot
  rw [hroot]

/-- **An identifier is read back**, but for a message that calls itself `payload`. -/
theorem text_eq_text {x y : DlqIdentity} (hx : x.Valid) (hy : y.Valid) (h : x.text = y.text) :
    x = y ∨ ∃ digest, (x = message "payload" digest ∧ y = payload digest) ∨
      (x = payload digest ∧ y = message "payload" digest) := by
  obtain ⟨hhead, hlast⟩ := head_last_of_text_eq hx hy h
  match x, y with
  | replay _ _ _, y =>
    obtain ⟨_, _, _, rfl⟩ := replay_of_head_eq hy hhead
    exact .inl (replay_inj hhead hlast)
  | x, replay _ _ _ =>
    obtain ⟨_, _, _, rfl⟩ := replay_of_head_eq hx hhead.symm
    exact .inl (replay_inj hhead hlast)
  | message _ _, message _ _ =>
    obtain rfl := hhead
    obtain rfl := hlast
    exact .inl rfl
  | message _ _, stream sequence => exact absurd hlast.symm (toString_ne_digest hx.2 hy)
  | stream sequence, message _ _ => exact absurd hlast (toString_ne_digest hy.2 hx)
  | message id digest, payload digest' =>
    obtain rfl : id = "payload" := hhead
    obtain rfl : digest = digest' := hlast
    exact .inr ⟨digest, .inl ⟨rfl, rfl⟩⟩
  | payload digest, message id digest' =>
    obtain rfl : "payload" = id := hhead
    obtain rfl : digest = digest' := hlast
    exact .inr ⟨digest, .inr ⟨rfl, rfl⟩⟩
  | stream sequence, stream sequence' =>
    obtain rfl : sequence = sequence' := repr_injective hlast
    exact .inl rfl
  | stream _, payload _ => exact absurd hhead (show "stream" ≠ "payload" by decide)
  | payload _, stream _ => exact absurd hhead (show "payload" ≠ "stream" by decide)
  | payload _, payload _ =>
    obtain rfl := hlast
    exact .inl rfl

end DlqIdentity

/-! ## Failures -/

/-- A delivery of a message that ends in a dead letter, with everything its dead letter is made
of. -/
structure FailedDelivery where
  message : RawMessage
  consumer : String
  failure : DeadLetterFailure
  parserIdentity : Option (String × String)
  consumerSequence : Option ℕ
  dlqRecordId : String

section

variable (lib : Libraries) (codecs : Codecs)

/-- The dead letter of a delivery. -/
def FailedDelivery.letter (delivery : FailedDelivery) : NormalizationDeadLetter :=
  deadLetterOf lib codecs delivery.message delivery.consumer delivery.failure
    delivery.parserIdentity delivery.consumerSequence delivery.dlqRecordId

/-- The replay a delivery belongs to. -/
def FailedDelivery.Replays (delivery : FailedDelivery) (root : String) (attempt : ℕ) : Prop :=
  (delivery.letter lib codecs).replayRootDlqRecordId = some root ∧
    (delivery.letter lib codecs).replayAttempt = some attempt

/-- Two deliveries that are not replays. -/
def NoReplays (first second : FailedDelivery) : Prop :=
  ∀ root attempt, ¬ first.Replays lib codecs root attempt ∧ ¬ second.Replays lib codecs root attempt

/-- **One failure**: a replay with the same root, attempt and payload, or the same payload, and the
same sequence if the payload has no identifier. -/
def SameFailure (first second : FailedDelivery) : Prop :=
  (∃ root attempt, first.Replays lib codecs root attempt ∧ second.Replays lib codecs root attempt ∧
      first.message.payload = second.message.payload) ∨
    NoReplays lib codecs first second ∧ first.message.payload = second.message.payload ∧
      ((first.letter lib codecs).originalMessageId = none →
        (first.letter lib codecs).streamSequence = (second.letter lib codecs).streamSequence)

/-- Messages without an identifier, at one place of a stream. -/
def SamePlace (first second : FailedDelivery) : Prop :=
  NoReplays lib codecs first second ∧ (first.letter lib codecs).originalMessageId = none ∧
    (second.letter lib codecs).originalMessageId = none ∧
    ∃ sequence, (first.letter lib codecs).streamSequence = some sequence ∧
      (second.letter lib codecs).streamSequence = some sequence

end

section

variable {lib : Libraries} {codecs : Codecs}

/-- The identifier of a message is part of its payload. -/
theorem originalMessageId_congr {first second : FailedDelivery}
    (h : first.message.payload = second.message.payload) :
    (first.letter lib codecs).originalMessageId = (second.letter lib codecs).originalMessageId := by
  unfold FailedDelivery.letter deadLetterOf
  rw [h]

theorem identity_replay {delivery : FailedDelivery} {root : String} {attempt : ℕ}
    (h : delivery.Replays lib codecs root attempt) : (delivery.letter lib codecs).identity =
      .replay root attempt (lib.sha256LowerHex delivery.message.payload) := by
  unfold NormalizationDeadLetter.identity
  rw [h.1, h.2]
  rfl

theorem identity_of_not_replays {delivery : FailedDelivery}
    (h : ∀ root attempt, ¬ delivery.Replays lib codecs root attempt) :
    (delivery.letter lib codecs).identity =
      match (delivery.letter lib codecs).originalMessageId with
      | some id => .message id (lib.sha256LowerHex delivery.message.payload)
      | none => match (delivery.letter lib codecs).streamSequence with
        | some sequence => .stream sequence
        | none => .payload (lib.sha256LowerHex delivery.message.payload) := by
  unfold NormalizationDeadLetter.identity
  split
  · rename_i root attempt hroot hattempt
    exact absurd ⟨hroot, hattempt⟩ (h root attempt)
  · rfl

/-- Where the parts of an identifier come from. -/
inductive Identified (lib : Libraries) (codecs : Codecs) (delivery : FailedDelivery) :
    DlqIdentity → Prop
  | replay (root : String) (attempt : ℕ) (h : delivery.Replays lib codecs root attempt) :
      Identified lib codecs delivery
        (.replay root attempt (lib.sha256LowerHex delivery.message.payload))
  | message (id : String) (h : ∀ root attempt, ¬ delivery.Replays lib codecs root attempt)
      (hid : (delivery.letter lib codecs).originalMessageId = some id) :
      Identified lib codecs delivery (.message id (lib.sha256LowerHex delivery.message.payload))
  | stream (sequence : ℕ) (h : ∀ root attempt, ¬ delivery.Replays lib codecs root attempt)
      (hid : (delivery.letter lib codecs).originalMessageId = none)
      (hsequence : (delivery.letter lib codecs).streamSequence = some sequence) :
      Identified lib codecs delivery (.stream sequence)
  | payload (h : ∀ root attempt, ¬ delivery.Replays lib codecs root attempt)
      (hid : (delivery.letter lib codecs).originalMessageId = none)
      (hsequence : (delivery.letter lib codecs).streamSequence = none) :
      Identified lib codecs delivery (.payload (lib.sha256LowerHex delivery.message.payload))

variable (lib codecs) in
theorem identified_identity (delivery : FailedDelivery) :
    Identified lib codecs delivery (delivery.letter lib codecs).identity := by
  by_cases hreplay : ∃ root attempt, delivery.Replays lib codecs root attempt
  · obtain ⟨root, attempt, h⟩ := hreplay
    rw [identity_replay h]
    exact .replay root attempt h
  · push Not at hreplay
    rw [identity_of_not_replays hreplay]
    match hid : (delivery.letter lib codecs).originalMessageId with
    | some id => exact .message id hreplay hid
    | none =>
      match hsequence : (delivery.letter lib codecs).streamSequence with
      | some sequence => exact .stream sequence hreplay hid hsequence
      | none => exact .payload hreplay hid hsequence

/-- A message that is not a replay keeps its place in the stream. -/
theorem streamSequence_of_not_replays {delivery : FailedDelivery}
    (h : ∀ root attempt, ¬ delivery.Replays lib codecs root attempt) :
    (delivery.letter lib codecs).streamSequence = delivery.message.streamSequence := by
  change (dlqSourceIdentity _ _ (delivery.letter lib codecs).replayRootDlqRecordId
    (delivery.letter lib codecs).replayAttempt _).2 = _
  unfold dlqSourceIdentity
  split
  · rename_i hreplay
    obtain ⟨root, hroot⟩ := Option.isSome_iff_exists.1 hreplay.2.1
    obtain ⟨attempt, hattempt⟩ := Option.isSome_iff_exists.1 hreplay.2.2.1
    exact absurd ⟨hroot, hattempt⟩ (h root attempt)
  · rfl

theorem valid_identity {delivery : FailedDelivery}
    (hid : ∀ id ∈ (delivery.letter lib codecs).originalMessageId, ':' ∉ id.toList)
    (hrange : ∀ n ∈ delivery.message.streamSequence, n < 2 ^ 64) :
    (delivery.letter lib codecs).identity.Valid := by
  match (delivery.letter lib codecs).identity, identified_identity lib codecs delivery with
  | _, .replay _ _ _ => exact lib.isLowerHex_sha256 _
  | _, .message id _ heq => exact ⟨hid id heq, lib.isLowerHex_sha256 _⟩
  | _, .stream sequence h _ heq =>
    exact hrange sequence ((streamSequence_of_not_replays h).symm.trans heq)
  | _, .payload _ _ _ => exact lib.isLowerHex_sha256 _

/-- Equal parts come from one failure, or from one place of a stream. -/
theorem sameFailure_of_identity {first second : FailedDelivery}
    (hcollision : lib.sha256LowerHex first.message.payload =
      lib.sha256LowerHex second.message.payload → first.message.payload = second.message.payload)
    (h : (first.letter lib codecs).identity = (second.letter lib codecs).identity) :
    SameFailure lib codecs first second ∨ SamePlace lib codecs first second := by
  have hfirst := identified_identity lib codecs first
  have hsecond := identified_identity lib codecs second
  rw [← h] at hsecond
  generalize (first.letter lib codecs).identity = identity at hfirst hsecond
  match identity, hfirst with
  | _, .replay root attempt hreplays =>
    generalize hdigest : lib.sha256LowerHex first.message.payload = digest at hsecond
    obtain ⟨_, _, hreplays'⟩ := hsecond
    exact .inl (.inl ⟨root, attempt, hreplays, hreplays', hcollision hdigest⟩)
  | _, .message id hno hid =>
    generalize hdigest : lib.sha256LowerHex first.message.payload = digest at hsecond
    obtain _ | ⟨_, hno', hid'⟩ := hsecond
    exact .inl (.inr ⟨fun root attempt => ⟨hno root attempt, hno' root attempt⟩, hcollision hdigest,
      fun hnone => nomatch hid.symm.trans hnone⟩)
  | _, .stream sequence hno hid hsequence =>
    obtain _ | _ | ⟨_, hno', hid', hsequence'⟩ := hsecond
    exact .inr ⟨fun root attempt => ⟨hno root attempt, hno' root attempt⟩, hid, hid', sequence,
      hsequence, hsequence'⟩
  | _, .payload hno hid hsequence =>
    generalize hdigest : lib.sha256LowerHex first.message.payload = digest at hsecond
    obtain _ | _ | _ | ⟨hno', hid', hsequence'⟩ := hsecond
    exact .inl (.inr ⟨fun root attempt => ⟨hno root attempt, hno' root attempt⟩, hcollision hdigest,
      fun _ => hsequence.trans hsequence'.symm⟩)

theorem identity_of_sameFailure {first second : FailedDelivery}
    (h : SameFailure lib codecs first second) :
    (first.letter lib codecs).identity = (second.letter lib codecs).identity := by
  obtain ⟨root, attempt, hfirst, hsecond, hpayload⟩ | ⟨hno, hpayload, hsequence⟩ := h
  · rw [identity_replay hfirst, identity_replay hsecond, hpayload]
  · rw [identity_of_not_replays fun root attempt => (hno root attempt).1,
      identity_of_not_replays fun root attempt => (hno root attempt).2,
      ← originalMessageId_congr hpayload, hpayload]
    split
    · rfl
    · rename_i hid
      rw [hsequence hid]

theorem identity_of_samePlace {first second : FailedDelivery}
    (h : SamePlace lib codecs first second) :
    (first.letter lib codecs).identity = (second.letter lib codecs).identity := by
  obtain ⟨hno, hid, hid', sequence, hsequence, hsequence'⟩ := h
  rw [identity_of_not_replays fun root attempt => (hno root attempt).1,
    identity_of_not_replays fun root attempt => (hno root attempt).2, hid, hid', hsequence,
    hsequence']

/-- A payload has an identifier or has none. -/
theorem not_identified_message_payload {first second : FailedDelivery} {id digest : String}
    (hcollision : lib.sha256LowerHex first.message.payload =
      lib.sha256LowerHex second.message.payload → first.message.payload = second.message.payload)
    (hfirst : Identified lib codecs first (.message id digest)) :
    ¬ Identified lib codecs second (.payload digest) := by
  intro hsecond
  obtain _ | ⟨_, _, hid⟩ := hfirst
  generalize hdigest : lib.sha256LowerHex first.message.payload = digest at hsecond
  obtain _ | _ | _ | ⟨_, hid', _⟩ := hsecond
  rw [originalMessageId_congr (hcollision hdigest)] at hid
  exact nomatch hid.symm.trans hid'

/-- The exception of `text_eq_text` does not occur. -/
theorem identity_of_text_eq {first second : FailedDelivery}
    (hcollision : lib.sha256LowerHex first.message.payload =
      lib.sha256LowerHex second.message.payload → first.message.payload = second.message.payload)
    (hvalid : (first.letter lib codecs).identity.Valid)
    (hvalid' : (second.letter lib codecs).identity.Valid)
    (h : (first.letter lib codecs).identity.text = (second.letter lib codecs).identity.text) :
    (first.letter lib codecs).identity = (second.letter lib codecs).identity := by
  have hfirst := identified_identity lib codecs first
  have hsecond := identified_identity lib codecs second
  obtain heq | ⟨digest, ⟨heq, heq'⟩ | ⟨heq, heq'⟩⟩ := DlqIdentity.text_eq_text hvalid hvalid' h
  · exact heq
  · rw [heq] at hfirst
    rw [heq'] at hsecond
    exact absurd hsecond (not_identified_message_payload hcollision hfirst)
  · rw [heq] at hfirst
    rw [heq'] at hsecond
    exact absurd hfirst
      (not_identified_message_payload (fun hdigest => (hcollision hdigest.symm).symm) hsecond)

/-- **Which dead letters get one identifier**: those of one failure, and those of messages without
an identifier at one place of a stream; the latter are of one failure too if a place of the stream
holds one message.  Nothing else of a delivery matters. -/
theorem natsMessageId_eq_iff {first second : FailedDelivery}
    (hid : ∀ id ∈ (first.letter lib codecs).originalMessageId, ':' ∉ id.toList)
    (hid' : ∀ id ∈ (second.letter lib codecs).originalMessageId, ':' ∉ id.toList)
    (hrange : ∀ n ∈ first.message.streamSequence, n < 2 ^ 64)
    (hrange' : ∀ n ∈ second.message.streamSequence, n < 2 ^ 64)
    (hcollision : lib.sha256LowerHex first.message.payload =
      lib.sha256LowerHex second.message.payload →
      first.message.payload = second.message.payload) :
    ((first.letter lib codecs).natsMessageId = (second.letter lib codecs).natsMessageId ↔
      SameFailure lib codecs first second ∨ SamePlace lib codecs first second) ∧
    ((∀ sequence, first.message.streamSequence = some sequence →
        second.message.streamSequence = some sequence →
        first.message.payload = second.message.payload) →
      ((first.letter lib codecs).natsMessageId = (second.letter lib codecs).natsMessageId ↔
        SameFailure lib codecs first second)) := by
  have hiff : (first.letter lib codecs).natsMessageId = (second.letter lib codecs).natsMessageId ↔
      SameFailure lib codecs first second ∨ SamePlace lib codecs first second := by
    rw [natsMessageId_eq_text, natsMessageId_eq_text]
    constructor
    · intro h
      exact sameFailure_of_identity hcollision
        (identity_of_text_eq hcollision (valid_identity hid hrange) (valid_identity hid' hrange') h)
    · rintro (h | h)
      · rw [identity_of_sameFailure h]
      · rw [identity_of_samePlace h]
  refine ⟨hiff, fun hstream => hiff.trans (or_iff_left_of_imp ?_)⟩
  rintro ⟨hno, hnone, -, sequence, hsequence, hsequence'⟩
  refine .inr ⟨hno, hstream sequence ?_ ?_, fun _ => hsequence.trans hsequence'.symm⟩
  · rw [← streamSequence_of_not_replays fun root attempt => (hno root attempt).1, hsequence]
  · rw [← streamSequence_of_not_replays fun root attempt => (hno root attempt).2, hsequence']

end

/-! ### Messages that cannot be decoded -/

/-- A delivery of a message with one byte, the seventh of its stream. -/
def undecodedDelivery (byte : UInt8) (dlqRecordId : String) (attemptCount : ℕ) :
    FailedDelivery where
  message := ⟨"cerbero.v1.raw.persisted", [byte], some 7, none, none, none, none⟩
  consumer := "normalizer-1"
  failure := ⟨"CER-NORM-ENVELOPE-DECODE", "invalid tag value: 0", false, attemptCount, 0, 0⟩
  parserIdentity := none
  consumerSequence := some attemptCount
  dlqRecordId := dlqRecordId

theorem not_replays_undecodedDelivery (byte : UInt8) (dlqRecordId : String) (attemptCount : ℕ)
    (root : String) (attempt : ℕ) : ¬ (undecodedDelivery byte dlqRecordId attemptCount).Replays
      undecodableLibraries undecodableCodecs root attempt := fun h => nomatch h.1

/-- A redelivery gets the identifier of the first delivery. -/
theorem natsMessageId_eq_iff_redelivered :
    ((undecodedDelivery 0 "dlq-1" 1).letter undecodableLibraries undecodableCodecs).natsMessageId =
      ((undecodedDelivery 0 "dlq-2" 2).letter undecodableLibraries
        undecodableCodecs).natsMessageId := by
  have hid : ∀ {byte dlqRecordId attemptCount},
      ∀ id ∈ ((undecodedDelivery byte dlqRecordId attemptCount).letter undecodableLibraries
        undecodableCodecs).originalMessageId, ':' ∉ id.toList := fun id h =>
    absurd h (Option.not_mem_none id)
  have hrange : ∀ n ∈ some 7, n < 2 ^ 64 := by
    rintro _ ⟨⟩
    decide
  exact (natsMessageId_eq_iff hid hid hrange hrange fun _ => rfl).1.2
    (.inl (.inr ⟨fun root attempt => ⟨not_replays_undecodedDelivery _ _ _ _ _,
      not_replays_undecodedDelivery _ _ _ _ _⟩, rfl, fun _ => rfl⟩))

/-- Two messages without an identifier, at one place of two streams, get one identifier though their
payloads and digests differ. -/
theorem not_sameFailure_undecoded :
    let first := undecodedDelivery 0 "dlq-1" 1
    let second := undecodedDelivery 1 "dlq-2" 1
    (first.letter undecodableLibraries undecodableCodecs).originalMessageId = none ∧
      (second.letter undecodableLibraries undecodableCodecs).originalMessageId = none ∧
      undecodableLibraries.sha256LowerHex first.message.payload ≠
        undecodableLibraries.sha256LowerHex second.message.payload ∧
      ¬ ((first.letter undecodableLibraries undecodableCodecs).natsMessageId =
          (second.letter undecodableLibraries undecodableCodecs).natsMessageId ↔
        SameFailure undecodableLibraries undecodableCodecs first second) := by
  refine ⟨rfl, rfl, by decide, fun h => ?_⟩
  obtain ⟨root, attempt, hreplay, -⟩ | ⟨-, hpayload, -⟩ := h.1 rfl
  · exact not_replays_undecodedDelivery _ _ _ _ _ hreplay
  · exact absurd hpayload (by decide)

end Normalizer

end Cerbero
