import Cerbero.Ingest.SyslogFraming

/-!
# Ingest/SyslogCalls — what the admission boundary of a connection is called with

The boundary of a connection is watched: every call of `Begin`, `Prepare` and `Accept` is noted with
what it was given and what it answered.  Watching changes nothing of what the handler does, and the
calls are those of the frames that were sent, one round after the other, up to the first call that
fails (**`exactlySerial_sent`**).
-/

namespace Cerbero

namespace SyslogIngest

open Text
open Journald (AdmissionMetadata ioEof)
open Ingest (Request)

variable {σ ε Result : Type}

/-! ## Watching the boundary -/

/-- A call of the admission boundary: what it was given, and what it answered. -/
inductive Call (ε Result : Type)
  | begin (metadata : AdmissionMetadata) (answer : Except ε Unit)
  | prepare (request : Request (List UInt8)) (answer : Except ε Result)
  | accept (result : Result) (answer : Except ε Unit)

/-- An admission whose calls are noted. -/
def Admission.recorded (admission : Admission σ ε Result) :
    Admission (σ × List (Call ε Result)) ε Result where
  prepare request := (admission.prepare request).recorded (.prepare request)

/-- A preparer whose calls are noted, as are those of the admissions it returns. -/
def Preparer.recorded (preparer : Preparer σ ε Result) :
    Preparer (σ × List (Call ε Result)) ε Result where
  begin metadata := do
    let admission ← (preparer.begin metadata).recorded fun answer =>
      .begin metadata (answer.map fun _ => ())
    return admission.recorded

/-- An acceptor whose calls are noted. -/
def DurableAcceptor.recorded (acceptor : DurableAcceptor σ ε Result) :
    DurableAcceptor (σ × List (Call ε Result)) ε Result where
  accept result := (acceptor.accept result).recorded (.accept result)

def Adapter.recorded (adapter : Adapter σ ε Result) :
    Adapter (σ × List (Call ε Result)) ε Result :=
  ⟨adapter.preparer.recorded, adapter.acceptor.recorded⟩

/-- A configuration whose boundary is watched. -/
def TcpConfig.recorded (config : TcpConfig σ ε Result) :
    TcpConfig (σ × List (Call ε Result)) ε Result :=
  { config with
    preparer := config.preparer.map Preparer.recorded
    acceptor := config.acceptor.map DurableAcceptor.recorded }

/-! ## The specification -/

/-- The metadata every round begins with: those of the configuration, over `syslog`. -/
def sessionMetadata (metadata : AdmissionMetadata) : AdmissionMetadata :=
  { metadata with transport := "syslog" }

/-- **The request of a frame**: the identity of the configuration and the bytes of the frame. -/
def requestOf (metadata : AdmissionMetadata) (frame : List UInt8) : Request (List UInt8) where
  requestId := metadata.requestId
  tenantId := metadata.tenantId
  sourceId := metadata.sourceId
  sensorId := metadata.sensorId
  remoteIdentity := metadata.remoteIdentity
  transport := "syslog"
  contentType := "application/syslog"
  encoding := if (fromUtf8 frame).isSome then "utf-8" else "binary"
  eventTime := none
  sequenceNumber := none
  rawPayload := frame

/-- **The calls of some frames that are accepted**: for each of them `Begin` succeeds, the request of
the frame is prepared, and what `Prepare` returned is accepted. -/
inductive Rounds (metadata : AdmissionMetadata) : List (List UInt8) → List (Call ε Result) → Prop
  | nil : Rounds metadata [] []
  | cons {frame : List UInt8} {frames : List (List UInt8)} {result : Result}
      {calls : List (Call ε Result)} (h : Rounds metadata frames calls) :
      Rounds metadata (frame :: frames) (.begin (sessionMetadata metadata) (.ok ()) ::
        .prepare (requestOf metadata frame) (.ok result) :: .accept result (.ok ()) :: calls)

/-- **The calls of a round that fails**, when some frames are left: up to the one that failed, and
of no frame but the next. -/
inductive Fails (metadata : AdmissionMetadata) :
    List (List UInt8) → List (Call ε Result) → ε → Prop
  | begin {frames : List (List UInt8)} {e : ε} :
      Fails metadata frames [.begin (sessionMetadata metadata) (.error e)] e
  | prepare {frame : List UInt8} {frames : List (List UInt8)} {e : ε} :
      Fails metadata (frame :: frames) [.begin (sessionMetadata metadata) (.ok ()),
        .prepare (requestOf metadata frame) (.error e)] e
  | accept {frame : List UInt8} {frames : List (List UInt8)} {result : Result} {e : ε} :
      Fails metadata (frame :: frames) [.begin (sessionMetadata metadata) (.ok ()),
        .prepare (requestOf metadata frame) (.ok result), .accept result (.error e)] e

/-- **The frames are handled exactly and one after the other.**  Either all of them are accepted, one
more `Begin` succeeds and the handler returns without an error; or the frames of the rounds before
were accepted, a round fails, nothing is called any more and the handler returns the error. -/
inductive ExactlySerial (metadata : AdmissionMetadata) :
    List (List UInt8) → List (Call ε Result) → Except (HandlerError ε) Unit → Prop
  | all {frames : List (List UInt8)} {calls : List (Call ε Result)}
      (h : Rounds metadata frames calls) : ExactlySerial metadata frames
        (calls ++ [.begin (sessionMetadata metadata) (.ok ())]) (.ok ())
  | failed {before after : List (List UInt8)} {calls round : List (Call ε Result)} {e : ε}
      (hbefore : Rounds metadata before calls) (hfails : Fails metadata after round e) :
      ExactlySerial metadata (before ++ after) (calls ++ round) (.error (.admission e))

/-! ## One round -/

section

variable {adapter : Adapter σ ε Result} {session : Session σ ε Result}
  {admission : Admission σ ε Result} {metadata : AdmissionMetadata} {message : Message}
  {frame : List UInt8} {s s₁ s₂ : σ} {e : ε} {result : Result}

/-- The session of a round. -/
def sessionOf (adapter : Adapter σ ε Result) (metadata : AdmissionMetadata)
    (admission : Admission σ ε Result) : Session σ ε Result :=
  ⟨admission, adapter.acceptor, sessionMetadata metadata⟩

theorem Adapter.on_begin_ok
    (h : (adapter.preparer.begin (sessionMetadata metadata)).on s = (.ok admission, s₁)) :
    (adapter.begin metadata).on s = (.ok (sessionOf adapter metadata admission), s₁) :=
  Stateful.on_bind_of_ok h

theorem Adapter.on_begin_error
    (h : (adapter.preparer.begin (sessionMetadata metadata)).on s = (.error e, s₁)) :
    (adapter.begin metadata).on s = (.error e, s₁) :=
  Stateful.on_bind_of_error h

theorem sessionOf_accept_ok
    (hprepare : (admission.prepare (requestOf metadata frame)).on s = (.ok result, s₁))
    (haccept : (adapter.acceptor.accept result).on s₁ = (.ok (), s₂)) :
    ((sessionOf adapter metadata admission).accept (messageOf frame)).on s = (.ok result, s₂) :=
  (Stateful.on_bind_of_ok hprepare).trans (Stateful.on_bind_of_ok haccept)

theorem sessionOf_prepare_error
    (hprepare : (admission.prepare (requestOf metadata frame)).on s = (.error e, s₁)) :
    ((sessionOf adapter metadata admission).accept (messageOf frame)).on s = (.error e, s₁) :=
  Stateful.on_bind_of_error hprepare

theorem sessionOf_accept_error
    (hprepare : (admission.prepare (requestOf metadata frame)).on s = (.ok result, s₁))
    (haccept : (adapter.acceptor.accept result).on s₁ = (.error e, s₂)) :
    ((sessionOf adapter metadata admission).accept (messageOf frame)).on s = (.error e, s₂) :=
  (Stateful.on_bind_of_ok hprepare).trans (Stateful.on_bind_of_error haccept)

variable (calls : List (Call ε Result))

theorem Preparer.on_recorded_ok {preparer : Preparer σ ε Result}
    (h : (preparer.begin metadata).on s = (.ok admission, s₁)) :
    (preparer.recorded.begin metadata).on (s, calls) =
      (.ok admission.recorded, (s₁, calls ++ [.begin metadata (.ok ())])) := by
  refine Stateful.on_bind_of_ok (a := admission) ?_
  rw [Stateful.on_recorded, h]
  rfl

theorem Preparer.on_recorded_error {preparer : Preparer σ ε Result}
    (h : (preparer.begin metadata).on s = (.error e, s₁)) :
    (preparer.recorded.begin metadata).on (s, calls) =
      (.error e, (s₁, calls ++ [.begin metadata (.error e)])) := by
  refine Stateful.on_bind_of_error ?_
  rw [Stateful.on_recorded, h]
  rfl

theorem Admission.on_recorded {request : Request (List UInt8)} {answer : Except ε Result}
    (h : (admission.prepare request).on s = (answer, s₁)) :
    (admission.recorded.prepare request).on (s, calls) =
      (answer, (s₁, calls ++ [.prepare request answer])) := by
  rw [Admission.recorded, Stateful.on_recorded, h]

theorem DurableAcceptor.on_recorded {acceptor : DurableAcceptor σ ε Result}
    {answer : Except ε Unit} (h : (acceptor.accept result).on s = (answer, s₁)) :
    (acceptor.recorded.accept result).on (s, calls) =
      (answer, (s₁, calls ++ [.accept result answer])) := by
  rw [DurableAcceptor.recorded, Stateful.on_recorded, h]

end

/-! ## Connections -/

/-- A connection, for a state with a history. -/
def Connection.recorded (connection : Connection σ) : Connection (σ × List (Call ε Result)) where
  data := connection.data
  ending := connection.ending
  setReadDeadline s := connection.setReadDeadline s.1

/-- **The watched handler does what the handler does**, and the calls it has noted, after those noted
before, are those of the frames. -/
def Watched (metadata : AdmissionMetadata) (frames : List (List UInt8))
    (calls : List (Call ε Result)) (outcome : Outcome σ ε)
    (watched : Outcome (σ × List (Call ε Result)) ε) : Prop :=
  ∃ more, watched = ⟨outcome.result, outcome.state, calls ++ more⟩ ∧
    ExactlySerial metadata frames more outcome.result

/-- One more frame was accepted before. -/
theorem ExactlySerial.cons {metadata : AdmissionMetadata} {frame : List UInt8}
    {frames : List (List UInt8)} {calls : List (Call ε Result)}
    {outcome : Except (HandlerError ε) Unit} (h : ExactlySerial metadata frames calls outcome)
    (result : Result) :
    ExactlySerial metadata (frame :: frames) (.begin (sessionMetadata metadata) (.ok ()) ::
      .prepare (requestOf metadata frame) (.ok result) :: .accept result (.ok ()) :: calls)
      outcome := by
  cases h with
  | all h => exact .all h.cons
  | failed hbefore hfails => exact .failed hbefore.cons hfails

/-- The calls of a round come before those of the rest. -/
theorem Watched.cons {metadata : AdmissionMetadata} {frame : List UInt8}
    {frames : List (List UInt8)} {result : Result} {calls : List (Call ε Result)}
    {outcome : Outcome σ ε} {watched : Outcome (σ × List (Call ε Result)) ε}
    (h : Watched metadata frames (calls ++ [.begin (sessionMetadata metadata) (.ok ()),
      .prepare (requestOf metadata frame) (.ok result), .accept result (.ok ())]) outcome watched) :
    Watched metadata (frame :: frames) calls outcome watched := by
  obtain ⟨more, rfl, hserial⟩ := h
  refine ⟨_, ?_, hserial.cons result⟩
  rw [List.append_assoc]
  rfl

/-- A round that fails is the last one. -/
theorem watched_failed {metadata : AdmissionMetadata} {frames : List (List UInt8)}
    {calls round : List (Call ε Result)} {e : ε} {s : σ} (h : Fails metadata frames round e) :
    Watched metadata frames calls ⟨.error (.admission e), s⟩
      ⟨.error (.admission e), s, calls ++ round⟩ :=
  ⟨round, rfl, ExactlySerial.failed Rounds.nil h⟩

variable {adapter : Adapter σ ε Result} {connection : Connection σ} {config : TcpConfig σ ε Result}

section

variable {s s₁ : σ} {admission : Admission σ ε Result} {e : ε} {calls : List (Call ε Result)}
  (hdeadline : ∀ s, connection.setReadDeadline s = none)

include hdeadline

/-- A round begins, watched or not. -/
theorem begun_recorded (calls : List (Call ε Result))
    (h : (adapter.preparer.begin (sessionMetadata config.metadata)).on s = (.ok admission, s₁)) :
    Begun adapter connection config s (sessionOf adapter config.metadata admission) s₁ ∧
      Begun adapter.recorded connection.recorded config.recorded (s, calls)
        (sessionOf adapter.recorded config.metadata admission.recorded)
        (s₁, calls ++ [.begin (sessionMetadata config.metadata) (.ok ())]) :=
  ⟨⟨hdeadline s, Adapter.on_begin_ok h⟩,
    ⟨hdeadline s, Adapter.on_begin_ok (Preparer.on_recorded_ok calls h)⟩⟩

/-- `Begin` fails, watched or not. -/
theorem watched_notBegun {frames : List (List UInt8)} {data : List UInt8}
    (h : (adapter.preparer.begin (sessionMetadata config.metadata)).on s = (.error e, s₁)) :
    Watched config.metadata frames calls (serve adapter connection config s data)
      (serve adapter.recorded connection.recorded config.recorded (s, calls) data) := by
  have hdeadline' : connection.recorded.setReadDeadline (s, calls) = none := hdeadline s
  have hbegin : (adapter.recorded.begin config.recorded.metadata).on (s, calls) =
      (.error e, s₁, calls ++ [.begin (sessionMetadata config.metadata) (.error e)]) :=
    Adapter.on_begin_error (Preparer.on_recorded_error calls h)
  rw [serve_notBegun (hdeadline s) (Adapter.on_begin_error h), serve_notBegun hdeadline' hbegin]
  exact watched_failed .begin

/-- **Frames on the wire are handled one after the other.**  By induction on the frames: the calls of
a round are those of its frame, and the round either fails or leaves the rest to be served. -/
theorem watched_serve (hending : connection.ending = .eof) {frames : List WireFrame}
    (hvalid : ∀ f ∈ frames, f.Valid)
    (hwithin : ∀ f ∈ frames, WireFrame.Within config.maxFrameSize f.digits) (s : σ)
    (calls : List (Call ε Result)) :
    Watched config.metadata (frames.map WireFrame.payload) calls
      (serve adapter connection config s (wire frames))
      (serve adapter.recorded connection.recorded config.recorded (s, calls) (wire frames)) := by
  induction frames generalizing s calls with
  | nil =>
    rcases hbegin : (adapter.preparer.begin (sessionMetadata config.metadata)).on s with
      ⟨e | admission, s₁⟩
    · exact watched_notBegun hdeadline hbegin
    · obtain ⟨hbegun, hbegun'⟩ := begun_recorded hdeadline calls hbegin
      have hread : readOctetCountingFrame config.maxFrameSize connection.ending (wire []) =
          .error ioEof := by
        rw [hending]
        rfl
      rw [serve_end hbegun hread, serve_end hbegun' hread]
      exact ⟨_, rfl, .all .nil⟩
  | cons f frames ih =>
    obtain ⟨hf, hframes⟩ := List.forall_mem_cons.1 hvalid
    obtain ⟨hfits, hrest⟩ := List.forall_mem_cons.1 hwithin
    rcases hbegin : (adapter.preparer.begin (sessionMetadata config.metadata)).on s with
      ⟨e | admission, s₁⟩
    · exact watched_notBegun hdeadline hbegin
    · obtain ⟨hbegun, hbegun'⟩ := begun_recorded hdeadline calls hbegin
      have hread := @readOctetCountingFrame_encode _ connection.ending _ hf hfits
        (wire frames)
      rw [← wire_cons] at hread
      rcases hprepare : (admission.prepare (requestOf config.metadata f.payload)).on s₁ with
        ⟨e | result, s₂⟩
      · rw [serve_refused hbegun hread (sessionOf_prepare_error hprepare), serve_refused hbegun'
          hread (sessionOf_prepare_error (Admission.on_recorded _ hprepare)), List.append_assoc]
        exact watched_failed .prepare
      rcases haccept : (adapter.acceptor.accept result).on s₂ with ⟨e | _, s₃⟩
      · rw [serve_refused hbegun hread (sessionOf_accept_error hprepare haccept),
          serve_refused hbegun' hread (sessionOf_accept_error (Admission.on_recorded _ hprepare)
            (DurableAcceptor.on_recorded _ haccept)), List.append_assoc, List.append_assoc]
        exact watched_failed .accept
      · rw [serve_accepted hbegun hread (sessionOf_accept_ok hprepare haccept),
          serve_accepted hbegun' hread (sessionOf_accept_ok (Admission.on_recorded _ hprepare)
            (DurableAcceptor.on_recorded _ haccept)), List.append_assoc, List.append_assoc]
        exact Watched.cons (ih hframes hrest s₃ _)

end

/-! ## Frames that are sent -/

/-- A valid configuration has both boundaries, and is valid when they are watched. -/
theorem exists_of_validateTcpConfig (h : validateTcpConfig config = .ok ()) :
    ∃ adapter : Adapter σ ε Result, newAdapter config.preparer config.acceptor = .ok adapter ∧
      validateTcpConfig config.recorded = .ok () ∧
      newAdapter config.recorded.preparer config.recorded.acceptor = .ok adapter.recorded := by
  obtain ⟨preparer, acceptor, metadata, maxFrameSize, readTimeout, rate, concurrent⟩ := config
  cases preparer with
  | none => exact nomatch h
  | some preparer =>
    cases acceptor with
    | none => exact nomatch h
    | some acceptor => exact ⟨⟨preparer, acceptor⟩, rfl, h, rfl⟩

/-- **Frames that are sent are handled exactly and one after the other**, whatever the preparer and
the acceptor do.  Watching the boundary changes neither what the handler returns nor the state it
leaves, and the calls it shows are those of the frames in order, up to the first one that fails. -/
theorem exactlySerial_sent (config : TcpConfig σ ε Result)
    (hconfig : validateTcpConfig config = .ok ()) {frames : List Frame}
    (hsize : ∀ frame ∈ frames, frame.bytes.length ≤ config.maxFrameSize) (s : σ) :
    ∃ calls, handleTcpConnection (some (sent frames)) config.recorded (s, []) =
        ⟨(handleTcpConnection (some (sent frames)) config s).result,
          (handleTcpConnection (some (sent frames)) config s).state, calls⟩ ∧
      ExactlySerial config.metadata (frames.map Frame.bytes) calls
        (handleTcpConnection (some (sent frames)) config s).result := by
  have hpayloads : (frames.map Frame.wire).map WireFrame.payload = frames.map Frame.bytes := by
    rw [List.map_map]
    rfl
  obtain ⟨adapter, hadapter, hconfig', hadapter'⟩ := exists_of_validateTcpConfig hconfig
  have hvalid : ∀ f ∈ frames.map Frame.wire, f.Valid := fun f hf => by
    obtain ⟨frame, -, rfl⟩ := List.mem_map.1 hf
    exact frame.valid_wire
  have hwithin : ∀ f ∈ frames.map Frame.wire, WireFrame.Within config.maxFrameSize f.digits :=
    fun f hf => by
      obtain ⟨frame, hframe, rfl⟩ := List.mem_map.1 hf
      exact frame.within_wire (hsize frame hframe)
  have hdeadline : ∀ s, (sent frames : Connection σ).setReadDeadline s = none := fun _ => rfl
  have hwatched : Watched config.metadata (frames.map Frame.bytes) []
      (serve adapter (sent frames) config s (sent frames : Connection σ).data)
      (serve adapter.recorded (sent frames).recorded config.recorded (s, [])
        (sent frames : Connection σ).data) :=
    hpayloads ▸ watched_serve hdeadline rfl hvalid hwithin s []
  rw [handleTcpConnection, handleTcpConnection, hconfig, hconfig']
  dsimp only
  rw [hadapter, hadapter']
  exact hwatched

/-! ## A full stream -/

/-- A frame that looks like the start of another one. -/
def sampleFrame : Frame := ⟨bytes "5 ", by decide, by decide⟩

/-- The calls of a round whose frame is the sample. -/
def sampleRound (answer : Except String Unit) : List (Call String (List UInt8)) :=
  [.begin (sessionMetadata sampleConfig.metadata) (.ok ()),
    .prepare (requestOf sampleConfig.metadata (bytes "5 ")) (.ok (bytes "5 ")),
    .accept (bytes "5 ") answer]

/-- The second frame of three is refused, and the third one is not offered. -/
theorem handleTcpConnection_sampleFrames :
    handleTcpConnection (some (sent [sampleFrame, sampleFrame, sampleFrame]))
      sampleConfig.recorded ([], []) = ⟨.error (.admission "the stream is full"), [bytes "5 "],
        sampleRound (.ok ()) ++ sampleRound (.error "the stream is full")⟩ := by
  have hread : ∀ rest, readOctetCountingFrame sampleConfig.recorded.maxFrameSize .eof
      (sampleFrame.wire.encode ++ rest) = .ok (bytes "5 ", rest) := fun rest =>
    readOctetCountingFrame_encode sampleFrame.valid_wire (sampleFrame.within_wire (by decide)) rest
  exact (serve_accepted ⟨rfl, rfl⟩ (hread _) rfl).trans (serve_refused ⟨rfl, rfl⟩ (hread _) rfl)

/-- The calls of the sample are those of its frames up to the second one. -/
theorem exactlySerial_sent_sample :
    validateTcpConfig sampleConfig = .ok () ∧
      (∀ frame ∈ [sampleFrame, sampleFrame, sampleFrame],
        frame.bytes.length ≤ sampleConfig.maxFrameSize) ∧
      handleTcpConnection (some (sent [sampleFrame, sampleFrame, sampleFrame])) sampleConfig [] =
        ⟨.error (.admission "the stream is full"), [bytes "5 "]⟩ ∧
      ExactlySerial sampleConfig.metadata [bytes "5 ", bytes "5 ", bytes "5 "]
        (sampleRound (.ok ()) ++ sampleRound (.error "the stream is full"))
        (.error (.admission "the stream is full")) := by
  have hsize : ∀ frame ∈ [sampleFrame, sampleFrame, sampleFrame],
      frame.bytes.length ≤ sampleConfig.maxFrameSize := by
    simp only [List.forall_mem_cons]
    exact ⟨by decide, by decide, by decide, fun _ hframe => nomatch hframe⟩
  obtain ⟨calls, hwatched, hserial⟩ := exactlySerial_sent sampleConfig rfl hsize []
  rw [handleTcpConnection_sampleFrames] at hwatched
  obtain ⟨hresult, hstate⟩ := Outcome.mk.inj hwatched
  obtain ⟨hkept, rfl⟩ := Prod.mk.inj hstate
  rw [← hresult] at hserial
  exact ⟨rfl, hsize, (congrArg₂ Outcome.mk hresult hkept).symm, hserial⟩

end SyslogIngest

end Cerbero
