import Cerbero.Ingest.HttpHandler
import Cerbero.Lib.Sha256

/-!
# Ingest/HttpRuns — what every interleaving of requests keeps

The core never writes an array that is there (`heap_le_begin`, `heap_le_prepare`), so the body of a
request keeps its bytes while others are served.  What passes the handler is sound for the raw
preserver (`carries_of_prepared`), and so is the stream, whatever the order of the steps
(**`carried_of_reachable`**).
-/

namespace Cerbero

namespace HttpIngest

open Ingest (AdmittedEvent AuthorizedAdmission Call Core Error Prepared Result World)
open Journald (AdmissionMetadata)
open Machine (Always Holds)
open Preserver (PubAck validateDelivery)

/-! ## Arrays -/

theorem heap_le_alloc (heap : Heap) (data : List UInt8) : heap ≤ heap.alloc data :=
  List.prefix_append heap.arrays [data]

/-- **A slice shows the same bytes later.** -/
theorem load_of_le {heap later : Heap} (h : heap ≤ later) {slice : Slice}
    (hslice : slice.array < heap.next) : later.load slice = heap.load slice := by
  obtain ⟨more, hmore⟩ := h
  have harray : later.array slice.array = heap.array slice.array := by
    rw [Heap.array, Heap.array, ← hmore, List.getD_eq_getElem?_getD, List.getD_eq_getElem?_getD,
      List.getElem?_append_left hslice]
  rw [Heap.load, Heap.load, harray]

/-- The array of a body that was just read. -/
theorem load_alloc (heap : Heap) (data : List UInt8) :
    (heap.alloc data).load ⟨heap.next, 0, data.length⟩ = data := by
  simp [Heap.load, Heap.array, Heap.alloc, Heap.next]

theorem next_le {heap later : Heap} (h : heap ≤ later) : heap.next ≤ later.next :=
  h.length_le

section

variable {σ α β : Type}

/-- A call of the core writes no array that is there. -/
abbrev KeepsArrays (x : Call σ α) : Prop := x.Moves fun w w' => w.heap ≤ w'.heap

theorem keepsArrays_checked (x : Except Error α) : KeepsArrays (σ := σ) (.checked x) :=
  Stateful.moves_checked (fun w => le_refl w.heap) x

theorem keepsArrays_bind {x : Call σ α} {f : α → Call σ β} (hx : KeepsArrays x)
    (hf : ∀ a, KeepsArrays (f a)) : KeepsArrays (x >>= f) :=
  Stateful.moves_bind (R := fun w w' : World σ => w.heap ≤ w'.heap)
    (fun _ _ _ hst htu => le_trans hst htu) hx hf

theorem keepsArrays_ask (answer : σ → α × σ) : KeepsArrays (Ingest.ask answer) :=
  fun w => le_refl w.heap

variable {core : Core σ}

theorem keepsArrays_generateId (requestId field : String) :
    KeepsArrays (core.generateId requestId field) := by
  refine keepsArrays_bind (keepsArrays_ask _) fun answer => ?_
  cases answer with
  | error cause => exact keepsArrays_checked _
  | ok value => exact keepsArrays_bind (keepsArrays_checked _) fun _ => keepsArrays_checked _

theorem keepsArrays_begin (metadata : AdmissionMetadata) : KeepsArrays (core.begin metadata) := by
  refine keepsArrays_bind (keepsArrays_ask _) fun authenticated => ?_
  cases authenticated with
  | error cause => exact keepsArrays_checked _
  | ok principal =>
    dsimp only
    split
    · exact keepsArrays_checked _
    · refine keepsArrays_bind (keepsArrays_ask _) fun authorized => ?_
      cases authorized with
      | error cause => exact keepsArrays_checked _
      | ok =>
        refine keepsArrays_bind (keepsArrays_checked _) fun _ => ?_
        refine keepsArrays_bind (keepsArrays_ask _) fun allowed => ?_
        cases allowed with
        | true => exact keepsArrays_checked _
        | false => exact keepsArrays_checked _

theorem keepsArrays_prepare {codec : Preserver.Codec}
    {marshal : RawEvent → Except String (List UInt8)} (admission : AuthorizedAdmission σ)
    (request : Ingest.Request Slice) : KeepsArrays (admission.prepare codec marshal request) := by
  rw [AuthorizedAdmission.prepare]
  split
  · exact keepsArrays_checked _
  refine keepsArrays_bind (keepsArrays_checked _) fun _ => ?_
  refine keepsArrays_bind (keepsArrays_generateId _ _) fun eventId => ?_
  refine keepsArrays_bind (keepsArrays_generateId _ _) fun messageId => ?_
  refine keepsArrays_bind (keepsArrays_generateId _ _) fun traceId => ?_
  refine keepsArrays_bind (keepsArrays_ask _) fun ingestAt => ?_
  refine keepsArrays_bind (keepsArrays_checked _) fun _ => ?_
  refine keepsArrays_bind (keepsArrays_checked _) fun _ => ?_
  refine keepsArrays_bind (fun w => heap_le_alloc w.heap _) fun copied => ?_
  refine keepsArrays_bind (keepsArrays_checked _) fun _ => ?_
  refine keepsArrays_bind (keepsArrays_checked _) fun payload => ?_
  exact keepsArrays_bind (keepsArrays_checked _) fun _ => keepsArrays_checked _

/-! ## Checks -/

/-- **A session is begun only for a source that was authenticated, authorized and let in.** -/
theorem authorized_of_begin {w w' : World σ} {metadata : AdmissionMetadata}
    {admission : AuthorizedAdmission σ} (h : (core.begin metadata).on w = (.ok admission, w')) :
    Authorized core metadata := by
  have hrequired := (Ingest.begin_eq_ok h).2
  rw [Core.begin, Stateful.on_bind_eq_ok] at h
  obtain ⟨authenticated, w₁, hauthenticate, h⟩ := h
  cases authenticated with
  | error cause => exact absurd h Ingest.fail_ne_ok
  | ok principal =>
    dsimp only at h
    split at h
    · exact absurd h Ingest.fail_ne_ok
    rename_i hprincipal
    rw [Stateful.on_bind_eq_ok] at h
    obtain ⟨authorized, w₂, hauthorize, h⟩ := h
    cases authorized with
    | error cause => exact absurd h Ingest.fail_ne_ok
    | ok =>
      simp only [Stateful.on_bind_eq_ok, Ingest.checked_eq_ok] at h
      obtain ⟨_, _, ⟨_, rfl⟩, allowed, w₃, hallow, h⟩ := h
      cases allowed with
      | false => exact absurd h Ingest.fail_ne_ok
      | true =>
        have hauthenticate := Except.ok.inj (Prod.mk.inj hauthenticate).1
        have hauthorize := Except.ok.inj (Prod.mk.inj hauthorize).1
        have hallow := Except.ok.inj (Prod.mk.inj hallow).1
        exact ⟨⟨principal, hprincipal, ⟨_, hauthenticate⟩, ⟨_, hauthorize⟩, ⟨_, hallow⟩⟩,
          hrequired⟩

/-- What `readBounded` returns is the whole body, unless it is nothing at all. -/
theorem readBounded_eq_ok {room : ℕ → ℕ} {body : Reader} {limit : UInt64} {data : List UInt8}
    (h : readBounded room body limit = .ok data) :
    data = [] ∨ body.ending = .eof ∧ data = body.bytes ∧ data.length ≤ limit.toNat := by
  rw [readBounded, LimitedReader.readAll_eq, toInt_toInt64_add_one] at h
  have hlimit := limit.toNat_lt
  by_cases hsmall : limit.toNat < 2 ^ 63 - 1
  · rw [if_pos hsmall] at h
    right
    by_cases hlong : (limit.toNat : ℤ) + 1 ≤ body.bytes.length
    · have hleft : ((limit.toNat : ℤ) + 1).toNat = limit.toNat + 1 := by omega
      have hlength : (body.bytes.take (limit.toNat + 1)).length = limit.toNat + 1 := by
        rw [List.length_take]
        omega
      rw [if_pos hlong, hleft] at h
      dsimp only at h
      rw [hlength, if_pos ((lt_ofNat_iff (by omega)).2 (Nat.lt_succ_self _))] at h
      cases h
    · rw [if_neg hlong] at h
      cases hending : body.ending with
      | failed text =>
        rw [hending] at h
        cases h
      | eof =>
        rw [hending] at h
        dsimp only at h
        split at h
        · cases h
        · obtain rfl := Except.ok.inj h
          exact ⟨rfl, rfl, by omega⟩
  · left
    have hnothing : (limit.toNat : ℤ) + 1 - 2 ^ 64 ≤ body.bytes.length := by omega
    rw [if_neg hsmall, if_pos hnothing] at h
    have hleft : ((limit.toNat : ℤ) + 1 - 2 ^ 64).toNat = 0 := by omega
    rw [hleft, List.take_zero] at h
    dsimp only at h
    split at h
    · cases h
    · exact (Except.ok.inj h).symm

variable {h : Handler σ}

theorem uuidV7_of_suppliedId {request : HttpRequest} {supplied : String}
    (hsupplied : Handler.suppliedId request = some supplied) :
    Validation.uuidV7 "request_id" supplied = .ok () := by
  rw [Handler.suppliedId] at hsupplied
  split at hsupplied
  · rename_i hvalid
    obtain rfl := Option.some.inj hsupplied
    cases hcheck : Validation.uuidV7 "request_id"
        (String.ofList (Text.trim (request.get "X-Request-Id").toList)) with
    | ok u => rfl
    | error e =>
      rw [hcheck] at hvalid
      cases hvalid.2
  · cases hsupplied

/-- The message of a result. -/
theorem messageOf_eq_ok {result : Result} {message : StreamMessage}
    (hmessage : h.messageOf result = .ok message) :
    ∃ wire, h.marshalEnvelope result.envelope = .ok wire ∧
      message = ⟨result.envelope.messageId, Preserver.rawReceivedSubject, wire,
        if result.requestId = "" then none else some result.requestId⟩ := by
  rw [Handler.messageOf, check_bind_eq_ok] at hmessage
  obtain ⟨-, hmessage⟩ := hmessage
  obtain ⟨u, -, hmessage⟩ := bind_eq_ok.1 hmessage
  obtain ⟨wire, hwire, hmessage⟩ := bind_eq_ok.1 hmessage
  exact ⟨wire, mapError_eq_ok.1 hwire, (Except.ok.inj hmessage).symm⟩

/-! ## A prepared result -/

/-- The libraries read back what they wrote. -/
structure Handler.Libraries (h : Handler σ) : Prop where
  rawEvent : ∀ event data, h.marshalRawEvent event = .ok data →
    h.codec.unmarshalRawEvent data = some event
  envelope : ∀ envelope data, h.marshalEnvelope envelope = .ok data →
    h.codec.unmarshalEnvelope data = some envelope

/-- What is known of a request whose body was received. -/
structure Received (h : Handler σ) (request : HttpRequest) (requestId : String)
    (metadata : AdmissionMetadata) : Prop where
  requestIdValid : Validation.uuidV7 "request_id" requestId = .ok ()
  supplied : ∀ supplied, Handler.suppliedId request = some supplied → requestId = supplied
  body : request.body.ending = .eof ∧ request.body.bytes.length ≤ h.maxPayloadSize.toNat ∧
    JsonScanner.valid request.body.bytes = true
  resolved : ∃ resolved, (∃ s, (h.resolve request s).1 = .ok resolved) ∧
    metadata = Handler.metadataOf requestId resolved
  authorized : Authorized h.core metadata

/-- **The message of a prepared result carries its request.** -/
theorem carries_of_prepared (hlib : h.Libraries) {request : HttpRequest} {requestId : String}
    {metadata : AdmissionMetadata} (hreceived : Received h request requestId metadata)
    {rawPayload : Slice} {w w' : World σ} (hbody : w.heap.load rawPayload = request.body.bytes)
    {result : Result}
    (hprepared : Prepared h.core h.codec h.marshalRawEvent (Handler.requestOf metadata rawPayload)
      w w' result)
    {message : StreamMessage} (hmessage : h.messageOf result = .ok message) :
    Carries h request requestId result.rawEvent.message.eventId message := by
  obtain ⟨resolved, hresolved, rfl⟩ := hreceived.resolved
  obtain ⟨wire, hwire, rfl⟩ := messageOf_eq_ok hmessage
  have hid : result.requestId = requestId := hprepared.requestId
  have hne : requestId ≠ "" := by
    rintro rfl
    exact absurd hreceived.requestIdValid (by decide)
  have htenant : (Handler.metadataOf requestId resolved).tenantId ≠ "" :=
    Ingest.tenantId_ne_of_validate hreceived.authorized.required
  have haccepted := hprepared.validateDelivery_eq_ok hlib.rawEvent htenant fun _ => by
    rw [hid]
    exact hreceived.requestIdValid
  rw [hid] at haccepted ⊢
  obtain ⟨eventId, ingestAt, hevent⟩ := hprepared.message
  refine ⟨hreceived.requestIdValid, hreceived.supplied, hreceived.body, rfl, if_neg hne,
    resolved, result.envelope, result.rawEvent.message, hresolved, hreceived.authorized,
    hlib.envelope _ _ hwire, rfl, haccepted, ?_, rfl, by rw [hevent]; rfl⟩
  rw [hevent]
  have hload : w.heap.load (Handler.requestOf (Handler.metadataOf requestId resolved)
      rawPayload).rawPayload = request.body.bytes := hbody
  rw [hload]
  exact ⟨rfl, rfl, rfl, rfl, rfl, rfl, rfl, rfl, rfl⟩

/-! ## What a request guarantees -/

/-- A program of the handler under interference. -/
abbrev Guarantees (h : Handler σ) (requests : Set HttpRequest) {α : Type} (P : α → Shared → Prop)
    (p : Serving σ α) (g : Shared) : Prop := Holds (outcome h) (Sound h requests) P p g

variable {requests : Set HttpRequest}

theorem Stored.of_le {message : StreamMessage} {g t : Shared} (hle : g ≤ t)
    (hstored : Stored message g) : Stored message t := by
  obtain hmem | ⟨kept, hkept, hne, hid⟩ := hstored
  · exact .inl (hle.2.subset hmem)
  · exact .inr ⟨kept, hle.2.subset hkept, hne, hid⟩

/-- A response that is not 202 promises nothing. -/
theorem guarantees_refusal {request : HttpRequest} {response : HttpResponse}
    (hstatus : response.status ≠ 202) (g : Shared) :
    Guarantees h requests (Answered h request) (pure response) g :=
  fun _ _ _ h202 => absurd h202 hstatus

/-- **`Accept` keeps the stream sound**, and succeeds only if the message of the result is stored. -/
theorem guarantees_accept {request : HttpRequest} (hrequest : request ∈ requests)
    {requestId eventId : String} {result : Result}
    (hcarries : ∀ message, h.messageOf result = .ok message →
      Carries h request requestId eventId message) (g : Shared) :
    Guarantees h requests (fun answer t => answer = .ok () →
      ∃ message, h.messageOf result = .ok message ∧ Stored message t) (h.accept result) g := by
  rw [Handler.accept]
  cases hmessage : h.messageOf result with
  | error e =>
    intro t _ _ hok
    cases hok
  | ok message =>
    intro t _ ht answer t' ho
    obtain rfl | ⟨rfl, hkept⟩ := ho
    · refine ⟨?_, ⟨le_refl t.heap, List.prefix_append t.stream [message]⟩, fun u hu _ _ => ?_⟩
      · intro m hm
        obtain hm | hm := List.mem_append.1 hm
        · exact ht m hm
        · obtain rfl := List.mem_singleton.1 hm
          exact ⟨request, hrequest, requestId, eventId, hcarries m hmessage⟩
      · have hmem : message ∈ t.stream ++ [message] :=
          List.mem_append.2 (.inr (List.mem_singleton_self message))
        exact ⟨message, rfl, .inl (hu.2.subset hmem)⟩
    · refine ⟨ht, le_rfl, fun u hu _ hok => ⟨message, rfl, Stored.of_le hu ?_⟩⟩
      obtain ⟨ack, hack⟩ := acknowledged_eq_ok hok
      obtain hlost | ⟨kept, hmem, hid⟩ := hkept
      · exact absurd hack (hlost ack)
      · by_cases heq : kept = message
        · exact .inl (heq ▸ hmem)
        · exact .inr ⟨kept, hmem, heq, hid⟩

/-- The metadata of a request is what the resolver says. -/
theorem guarantees_resolve (request : HttpRequest) (g : Shared) :
    Guarantees h requests (fun answer _ => ∀ resolved, answer = .ok resolved →
      ∃ s, (h.resolve request s).1 = .ok resolved) (perform (.resolve request)) g := by
  intro t _ ht answer t' ho
  obtain ⟨rfl, s, rfl⟩ := ho
  exact ⟨ht, le_rfl, fun _ _ _ resolved hresolved => ⟨s, hresolved⟩⟩

/-- A session is begun for an authorized source. -/
theorem guarantees_begin (metadata : AdmissionMetadata) (g : Shared) :
    Guarantees h requests (fun answer _ => ∀ admission, answer = .ok admission →
      admission = ⟨h.core, metadata⟩ ∧ Authorized h.core metadata) (perform (.begin metadata)) g := by
  intro t _ ht answer t' ho
  obtain ⟨s, w, hbegin, rfl⟩ := ho
  have hheap : t.heap ≤ w.heap := by
    have hmoves : t.heap ≤ ((h.core.begin metadata).on ⟨t.heap, s⟩).2.heap :=
      keepsArrays_begin metadata ⟨t.heap, s⟩
    rwa [hbegin] at hmoves
  refine ⟨ht, ⟨hheap, List.prefix_rfl⟩, fun _ _ _ admission hadmission => ?_⟩
  subst hadmission
  exact ⟨(Ingest.begin_eq_ok hbegin).1, authorized_of_begin hbegin⟩

/-- A body that was read stays in its array. -/
theorem guarantees_readBody (body : Reader) (g : Shared) :
    Guarantees h requests (fun answer t => ∀ rawPayload data, answer = .ok (rawPayload, data) →
      rawPayload.array < t.heap.next ∧ t.heap.load rawPayload = data ∧
        (data = [] ∨ body.ending = .eof ∧ data = body.bytes ∧
          data.length ≤ h.maxPayloadSize.toNat)) (perform (.readBody body)) g := by
  intro t _ ht answer t' ho
  obtain ⟨room, ho⟩ := ho
  cases hread : readBounded room body h.maxPayloadSize with
  | error e =>
    rw [hread] at ho
    obtain ⟨rfl, rfl⟩ := ho
    refine ⟨ht, le_rfl, fun _ _ _ rawPayload data hok => ?_⟩
    cases hok
  | ok bytes =>
    rw [hread] at ho
    obtain ⟨rfl, rfl⟩ := ho
    refine ⟨ht, ⟨heap_le_alloc t.heap bytes, List.prefix_rfl⟩, fun u hu _ rawPayload data hok => ?_⟩
    obtain ⟨rfl, rfl⟩ := Prod.mk.inj (Except.ok.inj hok)
    have hnext : t.heap.next < (t.heap.alloc bytes).next := by simp [Heap.next, Heap.alloc]
    refine ⟨hnext.trans_le (next_le hu.1), ?_, readBounded_eq_ok hread⟩
    rw [load_of_le hu.1 hnext, load_alloc]

/-- What is prepared of a body that is still there carries the request. -/
theorem guarantees_prepare (hlib : h.Libraries) {request : HttpRequest} {requestId : String}
    {metadata : AdmissionMetadata} (hreceived : Received h request requestId metadata)
    {rawPayload : Slice} {g : Shared} (harray : rawPayload.array < g.heap.next)
    (hbody : g.heap.load rawPayload = request.body.bytes) :
    Guarantees h requests (fun answer _ => ∀ result, answer = .ok result →
        ∀ message, h.messageOf result = .ok message →
          Carries h request requestId result.rawEvent.message.eventId message)
      (perform (.prepare ⟨h.core, metadata⟩ (Handler.requestOf metadata rawPayload))) g := by
  intro t hgt ht answer t' ho
  obtain ⟨s, w, hprepare, rfl⟩ := ho
  have hheap : t.heap ≤ w.heap := by
    have hmoves : t.heap ≤ ((AuthorizedAdmission.prepare h.codec h.marshalRawEvent
        ⟨h.core, metadata⟩ (Handler.requestOf metadata rawPayload)).on ⟨t.heap, s⟩).2.heap :=
      keepsArrays_prepare _ _ ⟨t.heap, s⟩
    rwa [hprepare] at hmoves
  refine ⟨ht, ⟨hheap, List.prefix_rfl⟩, fun _ _ _ result hresult message hmessage => ?_⟩
  subst hresult
  have hload : t.heap.load rawPayload = request.body.bytes := by
    rw [load_of_le hgt.1 harray, hbody]
  exact carries_of_prepared hlib hreceived (w := ⟨t.heap, s⟩) hload
    (Ingest.prepare_eq_ok hprepare).2 hmessage

/-- A body that was received and is still there is prepared and published. -/
theorem guarantees_submit (hlib : h.Libraries) {request : HttpRequest}
    (hrequest : request ∈ requests) {requestId : String} {metadata : AdmissionMetadata} (hreceived : Received h request requestId metadata)
    {rawPayload : Slice} {g : Shared} (harray : rawPayload.array < g.heap.next)
    (hbody : g.heap.load rawPayload = request.body.bytes) :
    Guarantees h requests (Answered h request)
      (h.submit requestId metadata ⟨h.core, metadata⟩ rawPayload) g := by
  refine Machine.holds_bind (guarantees_prepare hlib hreceived harray hbody)
    fun answer t _ ht hprepared => ?_
  cases answer with
  | error e => exact guarantees_refusal (status_writePrepareError requestId e) t
  | ok result =>
    have hcarries := hprepared.now ht result rfl
    refine Machine.holds_bind (guarantees_accept hrequest hcarries t) fun accepted u _ _ haccepted => ?_
    cases accepted with
    | error e => exact guarantees_refusal (by decide : (503 : ℕ) ≠ 202) u
    | ok =>
      intro v huv hv _
      obtain ⟨message, hmessage, hstored⟩ := haccepted v huv hv rfl
      refine ⟨requestId, _, message, rfl, ?_, hcarries message hmessage, hstored⟩
      obtain ⟨wire, -, rfl⟩ := messageOf_eq_ok hmessage
      rfl

/-- The body of an authorized source is received. -/
theorem guarantees_receive (hlib : h.Libraries) {request : HttpRequest}
    (hrequest : request ∈ requests) {requestId : String} {metadata : AdmissionMetadata}
    (hreceived : (request.body.ending = .eof ∧
      request.body.bytes.length ≤ h.maxPayloadSize.toNat ∧ JsonScanner.valid request.body.bytes = true) →
      Received h request requestId metadata) (g : Shared) :
    Guarantees h requests (Answered h request)
      (h.receive requestId metadata ⟨h.core, metadata⟩ request.body) g := by
  refine Machine.holds_bind (guarantees_readBody request.body g) fun answer t _ ht hread => ?_
  cases answer with
  | error e =>
    cases e with
    | read text => exact guarantees_refusal (by decide : (500 : ℕ) ≠ 202) t
    | payloadTooLarge limit => exact guarantees_refusal (by decide : (413 : ℕ) ≠ 202) t
  | ok body =>
    obtain ⟨harray, hload, hdata⟩ := hread.now ht body.1 body.2 rfl
    dsimp only
    split
    · rename_i hjson
      obtain hempty | ⟨hending, heq, hlength⟩ := hdata
      · rw [hempty, JsonScanner.valid_nil] at hjson
        cases hjson
      · rw [heq] at hload hlength hjson
        exact guarantees_submit hlib hrequest (hreceived ⟨hending, hlength, hjson⟩) harray hload
    · exact guarantees_refusal (by decide : (400 : ℕ) ≠ 202) t

theorem guarantees_authorize (hlib : h.Libraries) {request : HttpRequest}
    (hrequest : request ∈ requests) {requestId : String}
    (hvalid : Validation.uuidV7 "request_id" requestId = .ok ())
    (hsupplied : ∀ supplied, Handler.suppliedId request = some supplied → requestId = supplied)
    (g : Shared) : Guarantees h requests (Answered h request) (h.authorize requestId request) g := by
  refine Machine.holds_bind (guarantees_resolve request g) fun answer t _ ht hresolve => ?_
  cases answer with
  | error e => exact guarantees_refusal (by decide : (401 : ℕ) ≠ 202) t
  | ok resolved =>
    have hresolved := hresolve.now ht resolved rfl
    refine Machine.holds_bind (guarantees_begin _ t) fun answer u _ hu hbegin => ?_
    cases answer with
    | error e => exact guarantees_refusal (status_writePrepareError requestId e) u
    | ok admission =>
      obtain ⟨rfl, hauthorized⟩ := hbegin.now hu admission rfl
      exact guarantees_receive hlib hrequest (fun hbody =>
        ⟨hvalid, hsupplied, hbody, ⟨resolved, hresolved, rfl⟩, hauthorized⟩) u

/-- The identifier of a request is one, and the one the request came with if that is one. -/
theorem guarantees_requestId (request : HttpRequest) (g : Shared) :
    Guarantees h requests (Machine.OnOk fun requestId _ =>
      Validation.uuidV7 "request_id" requestId = .ok () ∧
        ∀ supplied, Handler.suppliedId request = some supplied → requestId = supplied)
      (Handler.requestId (σ := σ) request).run g := by
  rw [Handler.requestId]
  cases hsupplied : Handler.suppliedId request with
  | some supplied =>
    intro t _ _
    refine ⟨uuidV7_of_suppliedId hsupplied, fun other hother => ?_⟩
    exact Option.some.inj hother
  | none =>
    refine Machine.holds_try (Q := fun _ _ => True) ?_ fun generated t _ _ _ => ?_
    · intro t _ ht answer t' ho
      obtain ⟨rfl, -⟩ := ho
      exact ⟨ht, le_rfl, fun _ _ _ => Machine.onOk_true _ _⟩
    · refine Machine.holds_try (Q := fun _ _ => Validation.uuidV7 "request_id" generated = .ok ())
        (Machine.holds_checked fun u _ _ => ?_) fun _ u _ hu hcheck => fun v _ _ => ?_
      · cases hcheck : Preserver.wrapCheck "generated request_id is not UUIDv7: "
            (Validation.uuidV7 "request_id" generated) with
        | error e => trivial
        | ok => exact Preserver.wrapCheck_eq_ok.1 hcheck
      · refine ⟨hcheck.now hu, fun other hother => ?_⟩
        cases hother

/-- **What serving a request guarantees**, whatever is done meanwhile. -/
theorem guarantees_serveHttp (hlib : h.Libraries) {request : HttpRequest}
    (hrequest : request ∈ requests) (g : Shared) :
    Guarantees h requests (Answered h request) (h.serveHttp request) g := by
  have hid : Guarantees h requests _ _ g := guarantees_requestId request g
  rw [Handler.serveHttp]
  -- what the identifier comes from does not matter
  generalize (Handler.requestId request).run = drawn at hid ⊢
  refine Machine.holds_bind hid fun answer t _ ht hanswer => ?_
  cases answer with
  | error e => exact guarantees_refusal (by decide : (500 : ℕ) ≠ 202) t
  | ok requestId =>
    obtain ⟨hvalid, hsupplied⟩ := hanswer.now ht
    dsimp only
    split
    · exact guarantees_refusal (by decide : (405 : ℕ) ≠ 202) t
    split
    · exact guarantees_refusal (by decide : (415 : ℕ) ≠ 202) t
    exact guarantees_authorize hlib hrequest hvalid hsupplied t

/-! ## Every run -/

/-- **The stream holds only what was admitted, and 202 is only said of what it holds.**  However
the steps of the requests interleave, and whenever requests are given up or the process crashes,
each message of the stream carries one of the requests, and each request that was answered 202 has
its message there, or one that has its identifier. -/
theorem carried_of_reachable (hlib : h.Libraries) {heap : Heap}
    {s : Machine.State (handlerInterface σ) Shared { request // request ∈ requests } HttpResponse}
    (hs : (ingestMachine h requests).Reachable ⟨heap, []⟩ s) :
    Sound h requests s.shared ∧
      ∀ i request response, s.calls i = some (request, .pure response) →
        Answered h request.1 response s.shared := by
  have hkept := Machine.holds_of_reachable (M := ingestMachine h requests) (Sound h requests)
    (fun request => Answered h request.1)
    (fun request g _ => guarantees_serveHttp hlib request.2 g)
    (fun g g' hg hcrash message hmessage => hg message (hcrash ▸ hmessage))
    (fun message hmessage => by cases hmessage) hs
  refine ⟨hkept.1, fun i request response hcall => ?_⟩
  exact (hkept.2 i request _ hcall) _ le_rfl hkept.1

/-! ## A request served alone -/

/-- **What an operation does when nothing goes wrong**, with what was injected in a certain state; a
message whose identifier the stream has is dropped. -/
def Handler.effect (h : Handler σ) (s : σ) : (o : HandlerOp σ) → Shared → o.Response × Shared
  | .newRequestId, g => ((h.newRequestId s).1, g)
  | .resolve request, g => ((h.resolve request s).1, g)
  | .begin metadata, g =>
    let call := (h.core.begin metadata).on ⟨g.heap, s⟩
    (call.1, ⟨call.2.heap, g.stream⟩)
  | .readBody body, g => match readBounded (fun _ => 511) body h.maxPayloadSize with
    | .error e => (.error e, g)
    | .ok data => (.ok (⟨g.heap.next, 0, data.length⟩, data), ⟨g.heap.alloc data, g.stream⟩)
  | .prepare admission request, g =>
    let call := (admission.prepare h.codec h.marshalRawEvent request).on ⟨g.heap, s⟩
    (call.1, ⟨call.2.heap, g.stream⟩)
  | .publish message, g =>
    (.ok (some ⟨"CERBERO_RAW", 1⟩),
      if ∃ kept ∈ g.stream, kept.messageId = message.messageId then g
      else ⟨g.heap, g.stream ++ [message]⟩)

theorem outcome_effect (h : Handler σ) (s : σ) (o : HandlerOp σ) (g : Shared) :
    outcome h o g (h.effect s o g).1 (h.effect s o g).2 := by
  cases o with
  | newRequestId => exact ⟨rfl, s, rfl⟩
  | resolve request => exact ⟨rfl, s, rfl⟩
  | begin metadata => exact ⟨s, _, rfl, rfl⟩
  | readBody body =>
    refine ⟨fun _ => 511, ?_⟩
    cases hread : readBounded (fun _ => 511) body h.maxPayloadSize with
    | error e => simp [Handler.effect, hread]
    | ok data => simp [Handler.effect, hread]
  | prepare admission request => exact ⟨s, _, rfl, rfl⟩
  | publish message =>
    by_cases hkept : ∃ kept ∈ g.stream, kept.messageId = message.messageId
    · exact .inr ⟨if_pos hkept, .inr hkept⟩
    · exact .inl (if_neg hkept)

end

/-! ## Two requests that are given one identifier of a message -/

def sampleRequestId : String := "01890a5d-ac96-774b-bcce-b302099a8054"

def laterRequestId : String := "01890a5d-ac96-774b-bcce-b302099a8058"

/-- The body is an empty array, in two chunks. -/
def sampleRequest : HttpRequest where
  method := "POST"
  header := [("Content-Type", "application/json"), ("X-Request-Id", sampleRequestId)]
  body := ⟨[[0x5b], [0x5d]], .eof⟩

/-- The body is an array of a number. -/
def laterRequest : HttpRequest where
  method := "POST"
  header := [("Content-Type", "Application/JSON; charset=utf-8"), ("X-Request-Id", laterRequestId)]
  body := ⟨[[0x5b, 0x31, 0x5d]], .eof⟩

def sampleRequests : Set HttpRequest := {sampleRequest, laterRequest}

def sampleResolved : AdmissionMetadata :=
  ⟨"", "tenant-a", "source-a", "sensor-a", "192.0.2.10", ""⟩

def sampleSources : List String :=
  ["01890a5d-ac96-774b-bcce-b302099a8055", "01890a5d-ac96-774b-bcce-b302099a8056",
    "01890a5d-ac96-774b-bcce-b302099a8057"]

/-- What is prepared for the core; the payload is read elsewhere. -/
def samplePrepared (requestId : String) : Ingest.Request Slice :=
  Handler.requestOf (Handler.metadataOf requestId sampleResolved) ⟨0, 0, 0⟩

def sampleHashes : Preserver.Codec where
  sha256LowerHex := sha256LowerHex
  unmarshalRawEvent _ := none
  unmarshalEnvelope _ := none
  marshalManifest _ := []
  unmarshalManifest _ := none

/-- The event of a body. -/
def sampleEventOf (requestId : String) (body : List UInt8) : RawEvent :=
  Ingest.sampleCore.rawEvent sampleHashes (samplePrepared requestId)
    "01890a5d-ac96-774b-bcce-b302099a8055" ⟨1789322400, 0⟩ body

/-- The envelope of an event. -/
def sampleEnvelopeOf (requestId : String) (event : RawEvent) : CerberoEnvelope :=
  Ingest.sampleCore.envelope (samplePrepared requestId) "01890a5d-ac96-774b-bcce-b302099a8056"
    "01890a5d-ac96-774b-bcce-b302099a8057" ⟨1789322400, 0⟩
    ⟨"type.googleapis.com/cerbero.contracts.v1.RawEvent", Protobuf.marshalRawEvent event⟩

def sampleEvents : List RawEvent :=
  [sampleEventOf sampleRequestId [0x5b, 0x5d], sampleEventOf laterRequestId [0x5b, 0x31, 0x5d]]

def sampleEnvelopes : List CerberoEnvelope :=
  [sampleEnvelopeOf sampleRequestId (sampleEventOf sampleRequestId [0x5b, 0x5d]),
    sampleEnvelopeOf laterRequestId (sampleEventOf laterRequestId [0x5b, 0x31, 0x5d])]

/-- The protobuf libraries on the messages of the two requests. -/
def sampleHandler : Handler (List String) where
  maxPayloadSize := 1048576
  core := Ingest.sampleCore
  resolve _ s := (.ok sampleResolved, s)
  newRequestId s := (.error "no identifier is left", s)
  codec := { sampleHashes with
    unmarshalRawEvent := fun data =>
      sampleEvents.find? fun event => Protobuf.marshalRawEvent event = data
    unmarshalEnvelope := fun data =>
      sampleEnvelopes.find? fun envelope => Protobuf.marshalEnvelope envelope = data }
  marshalRawEvent event :=
    if event ∈ sampleEvents then .ok (Protobuf.marshalRawEvent event) else .error "another event"
  marshalEnvelope envelope :=
    if envelope ∈ sampleEnvelopes then .ok (Protobuf.marshalEnvelope envelope)
    else .error "another envelope"

theorem unmarshalRawEvent_marshal : ∀ event ∈ sampleEvents,
    sampleHandler.codec.unmarshalRawEvent (Protobuf.marshalRawEvent event) = some event := by
  decide +kernel

theorem unmarshalEnvelope_marshal : ∀ envelope ∈ sampleEnvelopes,
    sampleHandler.codec.unmarshalEnvelope (Protobuf.marshalEnvelope envelope) = some envelope := by
  decide +kernel

theorem libraries_sampleHandler : sampleHandler.Libraries where
  rawEvent event data hdata := by
    rw [sampleHandler] at hdata
    by_cases hevent : event ∈ sampleEvents
    · rw [← Except.ok.inj ((if_pos hevent).symm.trans hdata)]
      exact unmarshalRawEvent_marshal event hevent
    · exact nomatch (if_neg hevent).symm.trans hdata
  envelope envelope data hdata := by
    rw [sampleHandler] at hdata
    by_cases henvelope : envelope ∈ sampleEnvelopes
    · rw [← Except.ok.inj ((if_pos henvelope).symm.trans hdata)]
      exact unmarshalEnvelope_marshal envelope henvelope
    · exact nomatch (if_neg henvelope).symm.trans hdata

/-- A request that is served alone, with the identifiers of the sample. -/
def sampleServed (request : HttpRequest) (g : Shared) : HttpResponse × Shared :=
  (sampleHandler.serveHttp request).run (sampleHandler.effect sampleSources) g

/-- What is left by the first request. -/
def sampleShared : Shared := (sampleServed sampleRequest ⟨⟨[]⟩, []⟩).2

theorem status_sampleRequest : (sampleServed sampleRequest ⟨⟨[]⟩, []⟩).1.status = 202 := by
  decide +kernel

/-- The second request is answered 202 as well, for a message that is dropped. -/
theorem status_laterRequest : (sampleServed laterRequest sampleShared).1.status = 202 ∧
    (sampleServed laterRequest sampleShared).2.stream.map StreamMessage.messageId =
      ["01890a5d-ac96-774b-bcce-b302099a8056"] := by
  decide +kernel

theorem carried_of_reachable_sample : ∃ g, g.stream.map StreamMessage.messageId =
      ["01890a5d-ac96-774b-bcce-b302099a8056"] ∧ Sound sampleHandler sampleRequests g ∧
    ∃ first later, first.status = 202 ∧ Answered sampleHandler sampleRequest first g ∧
      later.status = 202 ∧ Answered sampleHandler laterRequest later g := by
  obtain ⟨first, hfirst⟩ : ∃ first, sampleServed sampleRequest ⟨⟨[]⟩, []⟩ = first := ⟨_, rfl⟩
  obtain ⟨later, hlater⟩ : ∃ later, sampleServed laterRequest first.2 = later := ⟨_, rfl⟩
  have hfirstStatus := status_sampleRequest
  have hlaterStatus := status_laterRequest
  rw [hfirst] at hfirstStatus
  rw [sampleShared, hfirst, hlater] at hlaterStatus
  have hrun (request : {request // request ∈ sampleRequests}) (g : Shared) :
      ((ingestMachine sampleHandler sampleRequests).program request).run
        (sampleHandler.effect sampleSources) g = sampleServed request g := rfl
  obtain ⟨calls, hreach, hfirstCall, hlaterCall⟩ := Machine.exists_reachable_runs
    (outcome_effect sampleHandler sampleSources) ((hrun ⟨sampleRequest, .inl rfl⟩ _).trans hfirst)
    ((hrun ⟨laterRequest, .inr rfl⟩ _).trans hlater)
  obtain ⟨hsound, hanswered⟩ := carried_of_reachable libraries_sampleHandler hreach
  exact ⟨_, hlaterStatus.2, hsound, _, _, hfirstStatus, hanswered 0 _ _ hfirstCall,
    hlaterStatus.1, hanswered 1 _ _ hlaterCall⟩

end HttpIngest

end Cerbero
