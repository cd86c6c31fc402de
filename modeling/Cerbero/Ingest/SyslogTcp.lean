import Cerbero.Ingest.Core
import Cerbero.Lib.Decimal

/-!
# Ingest/SyslogTcp — syslog frames over TCP

`HandleTCPConnection` reads frames in octet counting (a decimal length, a space, and that many
bytes) one after the other, each only after the one before it was admitted.  The preparer and the
acceptor are interfaces: all that is known of them is that they have a state and may fail.  A
connection is the bytes that arrive on it before it ends or a read deadline expires.
-/

namespace Cerbero

namespace SyslogIngest

open Text
open Journald (AdmissionMetadata Cause ReadError failure ioEof readFull)
open Ingest (Instant Request)

/-! ## Connections -/

/-- How the bytes of a connection end. -/
inductive Ending
  | eof
  | failed (text : String)
  deriving DecidableEq, Repr

/-- **A connection**: the bytes that arrive, how they end, and in which states a deadline cannot be
set. -/
structure Connection (σ : Type) where
  data : List UInt8
  ending : Ending
  setReadDeadline : σ → Option String

/-- What an error at the end of the bytes wraps. -/
def Ending.wrapped : Ending → Cause → Option Cause
  | .eof, cause => some cause
  | .failed _, _ => none

/-! ## Frames -/

/-- The byte after the length of a frame. -/
def space : UInt8 := 0x20

/-- The loop over the length prefix: its digits and what is left. -/
def prefixLoop (ending : Ending) (digits : List UInt8) :
    List UInt8 → Except ReadError (List UInt8 × List UInt8)
  | [] =>
    if ending = .eof ∧ digits = [] then .error ioEof
    else .error ⟨"read RFC6587 length prefix", ending.wrapped .eof⟩
  | value :: rest =>
    if value = space then .ok (digits, rest)
    else if ¬ isAsciiDigit value then
      .error (failure "RFC6587 octet-counting prefix must contain only decimal digits")
    else if 20 ≤ digits.length then
      .error (failure "RFC6587 octet-counting length prefix is too long")
    else prefixLoop ending (digits ++ [value]) rest

/-- **`readOctetCountingFrame`**: the frame and what is left. -/
def readOctetCountingFrame (limit : ℕ) (ending : Ending) (data : List UInt8) :
    Except ReadError (List UInt8 × List UInt8) := do
  let (digits, rest) ← prefixLoop ending [] data
  if digits = [] then
    .error (failure "RFC6587 octet-counting length prefix is empty")
  let length ← (parseUint digits).mapError fun cause =>
    failure ("parse RFC6587 length prefix: " ++ cause)
  if length = 0 then
    .error (failure "RFC6587 octet-counted syslog frame must not be empty")
  if limit < length then
    .error (failure ("RFC6587 frame length " ++ toString length ++ " exceeds configured limit " ++
      toString limit))
  -- `intFromUint64`
  if 2 ^ 63 ≤ length then
    .error (failure "RFC6587 frame length exceeds platform integer range")
  (readFull length rest).mapError fun cause =>
    ⟨"read RFC6587 frame payload", ending.wrapped cause⟩

/-! ## The adapter -/

/-- `Transport`. -/
def transport : String := "syslog"

/-- `Message`. -/
structure Message where
  contentType : String
  encoding : String
  eventTime : Option Instant
  sequenceNumber : Option ℕ
  rawPayload : List UInt8
  deriving DecidableEq, Repr

section

variable {σ ε Result : Type}

variable (σ ε Result) in
/-- `ingestcore.Admission`. -/
structure Admission where
  prepare : Request (List UInt8) → Stateful σ ε Result

variable (σ ε Result) in
/-- `Preparer`. -/
structure Preparer where
  begin : AdmissionMetadata → Stateful σ ε (Admission σ ε Result)

variable (σ ε Result) in
/-- `DurableAcceptor`. -/
structure DurableAcceptor where
  accept : Result → Stateful σ ε Unit

variable (σ ε Result) in
/-- `Adapter`. -/
structure Adapter where
  preparer : Preparer σ ε Result
  acceptor : DurableAcceptor σ ε Result

variable (σ ε Result) in
/-- `Session`. -/
structure Session where
  admission : Admission σ ε Result
  acceptor : DurableAcceptor σ ε Result
  metadata : AdmissionMetadata

/-- `New`: an adapter has both its boundaries. -/
def newAdapter (preparer : Option (Preparer σ ε Result))
    (acceptor : Option (DurableAcceptor σ ε Result)) : Except ReadError (Adapter σ ε Result) :=
  match preparer, acceptor with
  | none, _ => .error (failure "ingest preparer is required")
  | some _, none => .error (failure "durable acceptor is required")
  | some preparer, some acceptor => .ok ⟨preparer, acceptor⟩

/-- `Adapter.Begin`. -/
def Adapter.begin (adapter : Adapter σ ε Result) (metadata : AdmissionMetadata) :
    Stateful σ ε (Session σ ε Result) := do
  let metadata := { metadata with transport := transport }
  let admission ← adapter.preparer.begin metadata
  return ⟨admission, adapter.acceptor, metadata⟩

/-- `Session.Accept`: a message is prepared under the metadata of its session, and its result handed
to the durable acceptor; an error of either ends the session. -/
def Session.accept (session : Session σ ε Result) (message : Message) :
    Stateful σ ε Result := do
  let result ← session.admission.prepare
    { requestId := session.metadata.requestId
      tenantId := session.metadata.tenantId
      sourceId := session.metadata.sourceId
      sensorId := session.metadata.sensorId
      remoteIdentity := session.metadata.remoteIdentity
      transport := session.metadata.transport
      contentType := message.contentType
      encoding := message.encoding
      eventTime := message.eventTime
      sequenceNumber := message.sequenceNumber
      rawPayload := message.rawPayload }
  session.acceptor.accept result
  return result

/-! ## The handler -/

variable (σ ε Result) in
/-- `TCPConfig`: the boundaries of the adapter, the identity of the source and the limits of a
connection. -/
structure TcpConfig where
  preparer : Option (Preparer σ ε Result)
  acceptor : Option (DurableAcceptor σ ε Result)
  metadata : AdmissionMetadata
  maxFrameSize : ℕ
  readTimeout : ℤ
  maxConnectionRate : ℕ
  concurrentConnections : ℕ

/-- `validateTCPConfig`: the boundaries, the limits and the identity of the source, each with its
own error. -/
def validateTcpConfig (config : TcpConfig σ ε Result) : Except ReadError Unit :=
  if config.preparer.isNone ∨ config.acceptor.isNone then
    .error (failure "syslog TCP ingest boundaries are required")
  else if config.maxFrameSize = 0 then
    .error (failure "syslog TCP max frame size must be greater than zero")
  else if config.readTimeout ≤ 0 then
    .error (failure "syslog TCP read timeout must be positive")
  else if config.maxConnectionRate = 0 then
    .error (failure "syslog TCP connection-rate limit must be greater than zero")
  else if config.concurrentConnections = 0 then
    .error (failure "syslog TCP concurrent connection limit must be greater than zero")
  else if config.metadata.tenantId = "" ∨ config.metadata.sourceId = "" ∨
      config.metadata.sensorId = "" ∨ config.metadata.remoteIdentity = "" then
    .error (failure "syslog TCP source identity metadata are required")
  else .ok ()

/-- An error of the handler: its own, or that of the preparer or of the acceptor. -/
inductive HandlerError (ε : Type)
  | own (e : ReadError)
  | admission (e : ε)
  deriving DecidableEq, Repr

variable (σ ε) in
/-- What the handler returns, and the state it leaves. -/
structure Outcome where
  result : Except (HandlerError ε) Unit
  state : σ

/-- The message of a frame. -/
def messageOf (frame : List UInt8) : Message where
  contentType := "application/syslog"
  encoding := if (fromUtf8 frame).isSome then "utf-8" else "binary"
  eventTime := none
  sequenceNumber := none
  rawPayload := frame

/-! ## The loop -/

theorem length_prefixLoop {ending : Ending} {digits digits' rest : List UInt8} :
    ∀ {data : List UInt8}, prefixLoop ending digits data = .ok (digits', rest) →
      rest.length < data.length
  | [], h => by
      unfold prefixLoop at h
      split at h <;> exact nomatch h
  | value :: data, h => by
      rw [prefixLoop] at h
      split_ifs at h
      · obtain ⟨-, rfl⟩ := Prod.mk.inj (Except.ok.inj h)
        exact Nat.lt_succ_self _
      · exact (length_prefixLoop h).trans (Nat.lt_succ_self _)

/-- A frame takes up some of the bytes. -/
theorem length_readOctetCountingFrame {limit : ℕ} {ending : Ending} {data frame rest : List UInt8}
    (h : readOctetCountingFrame limit ending data = .ok (frame, rest)) :
    rest.length < data.length := by
  simp only [readOctetCountingFrame, bind_eq_ok, guard_eq_ok, Prod.exists] at h
  obtain ⟨digits, left, hprefix, -, length, -, -, -, -, hpayload⟩ := h
  have hleft := length_prefixLoop hprefix
  have hparts := Journald.readFull_eq_ok (mapError_eq_ok.1 hpayload)
  have htotal := congrArg List.length hparts.1
  rw [List.length_append] at htotal
  omega

/-- **The loop of `HandleTCPConnection`.** -/
def serve (adapter : Adapter σ ε Result) (connection : Connection σ)
    (config : TcpConfig σ ε Result) (s : σ) (data : List UInt8) : Outcome σ ε :=
  match connection.setReadDeadline s with
  | some text => ⟨.error (.own (failure ("set syslog TCP read deadline: " ++ text))), s⟩
  | none =>
    match (adapter.begin config.metadata).on s with
    | (.error e, s) => ⟨.error (.admission e), s⟩
    | (.ok session, s) =>
      match _h : readOctetCountingFrame config.maxFrameSize connection.ending data with
      | .error e => ⟨if e.isEof then .ok () else .error (.own e), s⟩
      | .ok (frame, rest) =>
        match (session.accept (messageOf frame)).on s with
        | (.error e, s) => ⟨.error (.admission e), s⟩
        | (.ok _, s) => serve adapter connection config s rest
termination_by data.length
decreasing_by exact length_readOctetCountingFrame _h

/-- **`HandleTCPConnection`**: the configuration is checked before the connection is touched, and
then frames are served until the stream ends or a call fails. -/
def handleTcpConnection (connection : Option (Connection σ)) (config : TcpConfig σ ε Result)
    (s : σ) : Outcome σ ε :=
  match connection with
  | none => ⟨.error (.own (failure "syslog TCP connection is required")), s⟩
  | some connection =>
    match validateTcpConfig config with
    | .error e => ⟨.error (.own e), s⟩
    | .ok () =>
      match newAdapter config.preparer config.acceptor with
      | .error e => ⟨.error (.own e), s⟩
      | .ok adapter => serve adapter connection config s connection.data

end

end SyslogIngest

end Cerbero
