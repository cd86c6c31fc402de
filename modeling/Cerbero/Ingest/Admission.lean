import Cerbero.Ingest.Core
import Cerbero.Preserver.Core

/-!
# Ingest/Admission — an admitted event is the preserver's to keep

A session prepares only requests with the metadata that was authorized, and what it returns is bound
to them and to the bytes that were submitted, whatever becomes of the caller's buffer.  The ingest
service and the raw preserver check the message each for itself; what passes the checks of the one
passes those of the other (**`bound_of_prepare`**).
-/

namespace Cerbero

namespace Ingest

open Journald (AdmissionMetadata)
open Preserver (Codec Delivery validateDelivery)

/-! ## What a call does -/

section

variable {σ : Type} {w w' : World σ}

/-- An answer leaves the arrays alone. -/
theorem heap_of_ask {α : Type} {answer : σ → α × σ} {a : α}
    (h : (ask answer).on w = (.ok a, w')) : w'.heap = w.heap := by
  obtain ⟨-, rfl⟩ := Prod.mk.inj h
  rfl

theorem appendNil_eq_ok {slice copied : Slice} {bytes : List UInt8}
    (h : (appendNil slice).on w = (.ok (copied, bytes), w')) :
    copied = (w.heap.copy slice).1 ∧ bytes = w.heap.load slice ∧
      w'.heap = (w.heap.copy slice).2 := by
  obtain ⟨hok, rfl⟩ := Prod.mk.inj h
  obtain ⟨rfl, rfl⟩ := Prod.mk.inj (Except.ok.inj hok)
  exact ⟨rfl, rfl, rfl⟩

theorem checked_eq_ok {α : Type} {x : Except Error α} {a : α} :
    (Stateful.checked x : Call σ α).on w = (.ok a, w') ↔ x = .ok a ∧ w = w' := by
  rw [Stateful.on_checked, Prod.mk.injEq]

theorem fail_ne_ok {α : Type} {e : Error} {a : α} :
    (fail e : Call σ α).on w ≠ (.ok a, w') := fun h => nomatch (Prod.mk.inj h).1

variable {core : Core σ}

theorem heap_of_generateId {requestId field value : String}
    (h : (core.generateId requestId field).on w = (.ok value, w')) : w'.heap = w.heap := by
  rw [Core.generateId, Stateful.on_bind_eq_ok] at h
  obtain ⟨answer, w₁, hask, h⟩ := h
  match answer, hask, h with
  | .error cause, _, h => exact absurd h fail_ne_ok
  | .ok generated, hask, h =>
    simp only [Stateful.on_bind_eq_ok, checked_eq_ok, Stateful.on_pure, Prod.mk.injEq] at h
    obtain ⟨_, _, ⟨_, rfl⟩, _, rfl⟩ := h
    exact heap_of_ask hask

/-- `Begin` binds a session to metadata that has what is required. -/
theorem begin_eq_ok {metadata : AdmissionMetadata} {admission : AuthorizedAdmission σ}
    (h : (core.begin metadata).on w = (.ok admission, w')) :
    admission = ⟨core, metadata⟩ ∧ core.validateAdmissionMetadata metadata = .ok () := by
  rw [Core.begin, Stateful.on_bind_eq_ok] at h
  obtain ⟨authenticated, w₁, -, h⟩ := h
  cases authenticated with
  | error cause => exact absurd h fail_ne_ok
  | ok principal =>
    dsimp only at h
    split at h
    · exact absurd h fail_ne_ok
    rw [Stateful.on_bind_eq_ok] at h
    obtain ⟨authorized, w₂, -, h⟩ := h
    cases authorized with
    | error cause => exact absurd h fail_ne_ok
    | ok =>
      simp only [Stateful.on_bind_eq_ok, checked_eq_ok] at h
      obtain ⟨_, _, ⟨hmetadata, rfl⟩, allowed, w₃, _, h⟩ := h
      cases allowed with
      | false => exact absurd h fail_ne_ok
      | true => exact ⟨(Except.ok.inj (Prod.mk.inj h).1).symm, hmetadata⟩

/-- The metadata of a session has a tenant. -/
theorem tenantId_ne_of_validate {metadata : AdmissionMetadata}
    (h : core.validateAdmissionMetadata metadata = .ok ()) : metadata.tenantId ≠ "" := by
  intro hempty
  rw [Core.validateAdmissionMetadata, List.find?_cons_of_pos (by simpa using hempty)] at h
  exact nomatch h

/-! ## What is prepared -/

variable {codec : Codec} {marshal : RawEvent → Except String (List UInt8)}

/-- What was packed is unpacked again. -/
theorem unmarshalTo_pack
    (hpack : ∀ event data, marshal event = .ok data → codec.unmarshalRawEvent data = some event)
    {event : RawEvent} {payload : AnyMessage} (h : Core.pack marshal event = .ok payload) :
    Preserver.unmarshalTo codec (some payload) = .ok event := by
  obtain ⟨data, hdata, rfl⟩ := exceptMap_eq_ok.1 h
  have hname : Preserver.messageName ⟨"type.googleapis.com/cerbero.contracts.v1.RawEvent", data⟩ =
      "cerbero.contracts.v1.RawEvent" := by
    simp only [Preserver.messageName]
    decide +kernel
  simp only [Preserver.unmarshalTo, hname, ne_eq, not_true_eq_false, if_false,
    hpack event data hdata]

/-- What `prepare` has checked of a request, and what it returns for it. -/
structure Prepared (core : Core σ) (codec : Codec)
    (marshal : RawEvent → Except String (List UInt8)) (request : Request Slice) (w w' : World σ)
    (result : Result) : Prop where
  heap : w'.heap = (w.heap.copy request.rawPayload).2
  rawPayload : result.rawEvent.rawPayload = (w.heap.copy request.rawPayload).1
  requestId : result.requestId = request.requestId
  message : ∃ eventId ingestAt, result.rawEvent.message =
    core.rawEvent codec request eventId ingestAt (w.heap.load request.rawPayload)
  messageValid : Validation.rawEvent codec.sha256LowerHex result.rawEvent.message = .ok ()
  envelope : ∃ messageId traceId ingestAt payload,
    Core.pack marshal result.rawEvent.message = .ok payload ∧
      result.envelope = core.envelope request messageId traceId ingestAt payload
  envelopeValid : Validation.envelope (some result.envelope) = .ok ()

/-- **What a prepared request was checked for.** -/
theorem prepared_of_prepare {request : Request Slice} {result : Result}
    (h : (core.prepare codec marshal request).on w = (.ok result, w')) :
    Prepared core codec marshal request w w' result := by
  simp only [Core.prepare, Stateful.on_bind_eq_ok, checked_eq_ok, mapError_eq_ok] at h
  obtain ⟨_, _, ⟨_, rfl⟩, eventId, w₁, hevent, messageId, w₂, hmessage, traceId, w₃, htrace,
    ingestAt, w₄, hnow, _, _, ⟨_, rfl⟩, _, _, ⟨_, rfl⟩, ⟨copied, bytes⟩, w₅, hcopy, _, _,
    ⟨hvalid, rfl⟩, payload, _, ⟨hpack, rfl⟩, _, _, ⟨henvelope, rfl⟩, h⟩ := h
  obtain ⟨hresult, rfl⟩ := Prod.mk.inj h
  obtain rfl := Except.ok.inj hresult
  have hheap : w₄.heap = w.heap := by
    rw [heap_of_ask hnow, heap_of_generateId htrace, heap_of_generateId hmessage,
      heap_of_generateId hevent]
  obtain ⟨rfl, rfl, hafter⟩ := appendNil_eq_ok hcopy
  rw [hheap] at hvalid hpack hafter ⊢
  exact ⟨hafter, rfl, rfl, ⟨eventId, ingestAt, rfl⟩, hvalid,
    ⟨messageId, traceId, ingestAt, payload, hpack, rfl⟩, henvelope⟩

/-- A session prepares a request with the metadata it is bound to. -/
theorem prepare_eq_ok {admission : AuthorizedAdmission σ} {request : Request Slice}
    {result : Result} (h : (admission.prepare codec marshal request).on w = (.ok result, w')) :
    request.admissionMetadata = admission.metadata ∧
      Prepared admission.core codec marshal request w w' result := by
  rw [AuthorizedAdmission.prepare] at h
  split at h
  · exact absurd h fail_ne_ok
  · rename_i hmetadata
    exact ⟨not_not.1 hmetadata, prepared_of_prepare h⟩

namespace Prepared

variable {request : Request Slice} {result : Result}

/-- The payload of a result is in an array that was not there. -/
theorem array_rawPayload (h : Prepared core codec marshal request w w' result) :
    result.rawEvent.rawPayload.array = w.heap.next := by
  rw [h.rawPayload, Heap.array_copy]

/-- The payload keeps the bytes that were submitted. -/
theorem load_rawPayload (h : Prepared core codec marshal request w w' result) {later : Heap}
    (hlater : Heap.ChangedBy (· ≠ result.rawEvent.rawPayload.array) w'.heap later) :
    later.load result.rawEvent.rawPayload = w.heap.load request.rawPayload := by
  rw [h.array_rawPayload, h.heap] at hlater
  rw [h.rawPayload, Heap.load_copy_of_changedBy hlater]

/-- So the message is the one that was checked and packed. -/
theorem load_rawEvent (h : Prepared core codec marshal request w w' result) {later : Heap}
    (hlater : Heap.ChangedBy (· ≠ result.rawEvent.rawPayload.array) w'.heap later) :
    result.rawEvent.load later = result.rawEvent.message := by
  obtain ⟨eventId, ingestAt, hmessage⟩ := h.message
  rw [RawEventRef.load, h.load_rawPayload hlater, hmessage]
  rfl

/-- **The preserver accepts a prepared message**, if the request has a tenant and its identifier is
one, or is absent. -/
theorem validateDelivery_eq_ok (h : Prepared core codec marshal request w w' result)
    (hpack : ∀ event data, marshal event = .ok data → codec.unmarshalRawEvent data = some event)
    (htenant : request.tenantId ≠ "")
    (hrequest : result.requestId ≠ "" → Validation.uuidV7 "request_id" result.requestId = .ok ()) :
    validateDelivery codec ⟨some result.envelope, result.requestId⟩ =
      .ok (result.envelope, result.rawEvent.message) := by
  obtain ⟨eventId, eventAt, hmessage⟩ := h.message
  obtain ⟨messageId, traceId, ingestAt, payload, hpayload, henvelope⟩ := h.envelope
  have hevent : result.rawEvent.message.tenantId = request.tenantId := by rw [hmessage]; rfl
  have hunpack : Preserver.unmarshalTo codec result.envelope.payload =
      .ok result.rawEvent.message := by
    rw [henvelope]
    exact unmarshalTo_pack hpack hpayload
  rw [validateDelivery, check_bind_eq_ok, Preserver.wrapCheck_eq_ok]
  refine ⟨h.envelopeValid, ?_⟩
  simp only [check_bind_eq_ok, Preserver.failIf_eq_ok, Preserver.checkOptionalId_eq_ok,
    hunpack, ok_bind, Preserver.wrapCheck_eq_ok, hevent]
  refine ⟨?_, ?_, ?_, hrequest, h.messageValid, ?_, ?_, rfl⟩
  · rw [henvelope]; rfl
  · rw [henvelope]; rfl
  · simpa [henvelope, Core.envelope] using htenant
  · simpa using htenant
  · simp [henvelope, Core.envelope]

end Prepared

/-! ## What an admitted event is bound to -/

/-- An event carries the metadata that was authorized and the bytes that were submitted. -/
structure AdmittedEvent (codec : Codec) (metadata : AdmissionMetadata) (submitted : List UInt8)
    (event : RawEvent) : Prop where
  tenantId : event.tenantId = metadata.tenantId
  sourceId : event.sourceId = metadata.sourceId
  sensorId : event.sensorId = metadata.sensorId
  remoteIdentity : event.remoteIdentity = metadata.remoteIdentity
  transport : event.transport = metadata.transport
  rawPayload : event.rawPayload = submitted
  rawSize : event.rawSize = submitted.length
  rawHashAlgorithm : event.rawHashAlgorithm = "sha256"
  rawHash : event.rawHash = codec.sha256LowerHex submitted

/-- A result is bound to metadata and to what a request submitted, and is the preserver's to
keep. -/
structure Bound (codec : Codec) (metadata : AdmissionMetadata) (request : Request Slice)
    (w w' : World σ) (result : Result) : Prop where
  /-- The request has the metadata. -/
  authorized : request.admissionMetadata = metadata
  /-- The payload is in an array that was not there. -/
  fresh : w.heap.next ≤ result.rawEvent.rawPayload.array
  /-- Whatever is done to other arrays, the event stays what was submitted. -/
  event : ∀ later, Heap.ChangedBy (· ≠ result.rawEvent.rawPayload.array) w'.heap later →
    AdmittedEvent codec metadata (w.heap.load request.rawPayload) (result.rawEvent.load later)
  /-- The preserver accepts the envelope with its identifier, and finds the event in it. -/
  accepted : result.requestId = "" ∨ Validation.uuidV7 "request_id" result.requestId = .ok () →
    validateDelivery codec ⟨some result.envelope, result.requestId⟩ =
      .ok (result.envelope, result.rawEvent.load w'.heap)

/-- **An admitted event is bound to its authorization, and the preserver accepts it.** -/
theorem bound_of_prepare
    (hpack : ∀ event data, marshal event = .ok data → codec.unmarshalRawEvent data = some event)
    {metadata : AdmissionMetadata} {admission : AuthorizedAdmission σ} {w₀ w₁ : World σ}
    (hbegin : (core.begin metadata).on w₀ = (.ok admission, w₁))
    {request : Request Slice} {result : Result}
    (hprepare : (admission.prepare codec marshal request).on w = (.ok result, w')) :
    Bound codec metadata request w w' result := by
  obtain ⟨rfl, hmetadata⟩ := begin_eq_ok hbegin
  obtain ⟨rfl, h⟩ := prepare_eq_ok hprepare
  refine ⟨rfl, h.array_rawPayload.ge, fun later hlater => ?_, fun hrequest => ?_⟩
  · obtain ⟨eventId, ingestAt, hmessage⟩ := h.message
    rw [h.load_rawEvent hlater, hmessage]
    exact ⟨rfl, rfl, rfl, rfl, rfl, rfl, rfl, rfl, rfl⟩
  · rw [h.load_rawEvent .refl]
    exact h.validateDelivery_eq_ok hpack (tenantId_ne_of_validate hmetadata)
      fun hne => hrequest.resolve_left hne

end

/-! ## A sample -/

/-- A core whose identifiers are given. -/
def sampleCore : Core (List String) where
  maxPayloadSize := 1048576
  allowMissingSensorId := true
  componentVersion := "1"
  pipelineVersion := "1"
  instanceId := "cerbero-ingest-a"
  now ids := (⟨1789322400, 0⟩, ids)
  newId
    | [] => (.error "no identifier is left", [])
    | id :: ids => (.ok id, ids)
  authenticate _ ids := (.ok ⟨"principal-a"⟩, ids)
  authorize _ _ _ ids := (.ok (), ids)
  allow _ _ ids := (true, ids)

/-- A request whose payload is the middle of the caller's buffer. -/
def sampleRequest : Request Slice where
  requestId := "01890a5d-ac96-774b-bcce-b302099a8054"
  tenantId := "tenant-a"
  sourceId := "source-a"
  sensorId := ""
  remoteIdentity := "192.0.2.10"
  transport := "syslog"
  contentType := "text/plain"
  encoding := "utf-8"
  eventTime := none
  sequenceNumber := none
  rawPayload := ⟨0, 1, 1⟩

def sampleWorld : World (List String) where
  heap := ⟨[[0x5b, 0x61, 0x5d]]⟩
  sources := ["01890a5d-ac96-774b-bcce-b302099a8055", "01890a5d-ac96-774b-bcce-b302099a8056",
    "01890a5d-ac96-774b-bcce-b302099a8057"]

/-- The message that is prepared for the request. -/
def sampleMessage : RawEvent :=
  sampleCore.rawEvent Preserver.sampleCodec sampleRequest "01890a5d-ac96-774b-bcce-b302099a8055"
    ⟨1789322400, 0⟩ [0x61]

/-- The libraries on one message. -/
def sampleCodec (message : RawEvent) : Codec where
  sha256LowerHex := Preserver.sampleCodec.sha256LowerHex
  unmarshalRawEvent data :=
    if data = Protobuf.marshalRawEvent message then some message else none
  unmarshalEnvelope := Preserver.sampleCodec.unmarshalEnvelope
  marshalManifest := Preserver.sampleCodec.marshalManifest
  unmarshalManifest := Preserver.sampleCodec.unmarshalManifest

def sampleMarshal (message event : RawEvent) : Except String (List UInt8) :=
  if event = message then .ok (Protobuf.marshalRawEvent message) else .error "another message"

theorem unmarshal_sampleMarshal {message event : RawEvent} {data : List UInt8}
    (h : sampleMarshal message event = .ok data) :
    (sampleCodec message).unmarshalRawEvent data = some event := by
  rw [sampleMarshal] at h
  split at h
  · rename_i hevent
    obtain rfl := Except.ok.inj h
    simp only [sampleCodec, hevent, if_true]
  · exact nomatch h

def sampleResult : Result where
  requestId := "01890a5d-ac96-774b-bcce-b302099a8054"
  rawEvent := ⟨sampleMessage, 1, 0, 1⟩
  envelope := sampleCore.envelope sampleRequest "01890a5d-ac96-774b-bcce-b302099a8056"
    "01890a5d-ac96-774b-bcce-b302099a8057" ⟨1789322400, 0⟩
    ⟨"type.googleapis.com/cerbero.contracts.v1.RawEvent", Protobuf.marshalRawEvent sampleMessage⟩

theorem bound_of_prepare_sample :
    Bound (sampleCodec sampleMessage) sampleRequest.admissionMetadata sampleRequest sampleWorld
      ⟨⟨[[0x5b, 0x61, 0x5d], [0x61]]⟩, []⟩ sampleResult := by
  have hbegin : (sampleCore.begin sampleRequest.admissionMetadata).on sampleWorld =
      (.ok ⟨sampleCore, sampleRequest.admissionMetadata⟩, sampleWorld) := rfl
  have hprepare : ((⟨sampleCore, sampleRequest.admissionMetadata⟩ :
      AuthorizedAdmission (List String)).prepare (sampleCodec sampleMessage)
        (sampleMarshal sampleMessage) sampleRequest).on sampleWorld =
      (.ok sampleResult, ⟨⟨[[0x5b, 0x61, 0x5d], [0x61]]⟩, []⟩) := by
    decide +kernel
  exact bound_of_prepare (fun _ _ => unmarshal_sampleMarshal) hbegin hprepare

end Ingest

end Cerbero
