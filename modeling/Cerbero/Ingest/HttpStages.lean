import Cerbero.Ingest.HttpRuns
import Cerbero.Lib.Trace

/-!
# Ingest/HttpStages — the order in which a request is served

Serving a request goes through stages, each only after the one before has succeeded: its identifier
is known before its source is resolved, the source is admitted before the body is received, and the
body is prepared before anything is published.  A request that is answered 202 went through all of them, and one that is answered
neither 202 nor 503 has published nothing (**`staged_of_trace`**).
-/

namespace Cerbero

namespace HttpIngest

open Ingest (AuthorizedAdmission Error Result)
open Journald (AdmissionMetadata)
open Preserver (PubAck)
open Prog (Event Trace)

/-- The stages of a request. -/
inductive Stage
  | requestId
  | resolve
  | begin
  | readBody
  | prepare
  | publish
  deriving DecidableEq, Repr

section

variable {σ : Type}

/-- The stage an operation belongs to. -/
def HandlerOp.stage : HandlerOp σ → Stage
  | .newRequestId => .requestId
  | .resolve _ => .resolve
  | .begin _ => .begin
  | .readBody _ => .readBody
  | .prepare _ _ => .prepare
  | .publish _ => .publish

/-- An answer with which a request goes on: an identifier that is drawn is a UUID of version 7, and
the answer of the stream is an acknowledgement. -/
def HandlerOp.Succeeds : (o : HandlerOp σ) → o.Response → Prop
  | .newRequestId, answer => ∃ id, answer = .ok id ∧ Validation.uuidV7 "request_id" id = .ok ()
  | .resolve _, answer => ∃ resolved, answer = .ok resolved
  | .begin _, answer => ∃ admission, answer = .ok admission
  | .readBody _, answer => ∃ body, answer = .ok body
  | .prepare _ _, answer => ∃ result, answer = .ok result
  | .publish _, answer => ∃ ack, answer = .ok (some ack)

/-- The stages of what was done. -/
def stagesOf (events : List (Event (handlerInterface σ))) : List Stage :=
  events.map fun event => event.1.stage

/-- **What was done of the stages ahead**: the first ones, each after the one before has succeeded,
and all of them only if the answer is 202. -/
structure Staged (ahead : List Stage) (events : List (Event (handlerInterface σ)))
    (response : HttpResponse) : Prop where
  stages : stagesOf events <+: ahead
  succeeded : ∀ event ∈ events.dropLast, event.1.Succeeds event.2
  published : .publish ∈ stagesOf events → response.status = 202 ∨ response.status = 503
  accepted : response.status = 202 →
    stagesOf events = ahead ∧ ∀ event ∈ events, event.1.Succeeds event.2

variable {ahead : List Stage} {events : List (Event (handlerInterface σ))}
  {response : HttpResponse}

/-- A request that is refused goes no further. -/
theorem staged_nil (hstatus : response.status ≠ 202) :
    Staged (σ := σ) ahead [] response where
  stages := List.nil_prefix
  succeeded event hevent := by cases hevent
  published hpublish := by cases hpublish
  accepted h202 := absurd h202 hstatus

/-- A stage that is not the last, after which a request is refused. -/
theorem staged_singleton {o : HandlerOp σ} (answer : o.Response) (hpublish : o.stage ≠ .publish)
    (hstatus : response.status ≠ 202) : Staged (o.stage :: ahead) [⟨o, answer⟩] response where
  stages := List.prefix_append [o.stage] ahead
  succeeded event hevent := by cases hevent
  published hmem := absurd (List.mem_singleton.1 hmem).symm hpublish
  accepted h202 := absurd h202 hstatus

/-- A stage that succeeds, and what is done of the stages after it. -/
theorem Staged.cons {o : HandlerOp σ} {answer : o.Response} (hok : o.Succeeds answer)
    (hpublish : o.stage ≠ .publish) (h : Staged ahead events response) :
    Staged (o.stage :: ahead) (⟨o, answer⟩ :: events) response where
  stages := List.cons_prefix_cons.2 ⟨rfl, h.stages⟩
  succeeded event hevent := by
    cases events with
    | nil => cases hevent
    | cons next rest =>
      obtain rfl | hevent := List.mem_cons.1 hevent
      · exact hok
      · exact h.succeeded event hevent
  published hmem := by
    obtain heq | hmem := List.mem_cons.1 hmem
    · exact absurd heq.symm hpublish
    · exact h.published hmem
  accepted h202 := by
    obtain ⟨hstages, hall⟩ := h.accepted h202
    refine ⟨congrArg (o.stage :: ·) hstages, fun event hevent => ?_⟩
    obtain rfl | hevent := List.mem_cons.1 hevent
    · exact hok
    · exact hall event hevent

variable {h : Handler σ} {Answer : (o : HandlerOp σ) → o.Response → Prop}

/-- `Accept` publishes once, or refuses before it does. -/
theorem trace_accept {result : Result} {answer : Except String Unit}
    (htrace : Trace Answer (h.accept result) events answer) :
    (events = [] ∧ answer ≠ .ok ()) ∨ ∃ message r, events = [⟨.publish message, r⟩] ∧
      answer = Handler.acknowledged r := by
  rw [Handler.accept] at htrace
  split at htrace
  · obtain ⟨rfl, rfl⟩ := Prog.trace_pure.1 htrace
    refine .inl ⟨rfl, fun hok => ?_⟩
    cases hok
  · rename_i message _
    obtain ⟨r, rest, rfl, -, htrace⟩ := Prog.trace_perform.1 htrace
    obtain ⟨rfl, rfl⟩ := Prog.trace_pure.1 htrace
    exact .inr ⟨message, r, rfl, rfl⟩

/-- The last stage: a request is answered 202 if its message is acknowledged. -/
theorem staged_publish {result : Result} {before after : List (Event (handlerInterface σ))}
    {answer : Except String Unit} (haccept : Trace Answer (h.accept result) before answer)
    (hafter : after = []) (hok : answer = .ok () → response.status = 202)
    (herror : answer ≠ .ok () → response.status = 503) :
    Staged [.publish] (before ++ after) response := by
  subst hafter
  rw [List.append_nil]
  obtain ⟨rfl, hne⟩ | ⟨message, r, rfl, rfl⟩ := trace_accept haccept
  · exact staged_nil (by rw [herror hne]; decide)
  · refine ⟨List.prefix_rfl, fun event hevent => ?_, fun _ => ?_, fun h202 => ?_⟩
    · cases hevent
    · by_cases hanswer : Handler.acknowledged r = .ok ()
      · exact .inl (hok hanswer)
      · exact .inr (herror hanswer)
    · refine ⟨rfl, fun event hevent => ?_⟩
      obtain rfl := List.mem_singleton.1 hevent
      by_cases hanswer : Handler.acknowledged r = .ok ()
      · exact acknowledged_eq_ok hanswer
      · rw [herror hanswer] at h202
        exact absurd h202 (by decide)

theorem staged_submit {requestId : String} {metadata : AdmissionMetadata}
    {admission : AuthorizedAdmission σ} {rawPayload : Slice}
    (htrace : Trace Answer (h.submit requestId metadata admission rawPayload) events response) :
    Staged [.prepare, .publish] events response := by
  obtain ⟨answer, rest, rfl, -, htrace⟩ := Prog.trace_perform.1 htrace
  have hstage : ∀ request, (HandlerOp.prepare admission request).stage ≠ .publish := by
    intro request hstage
    cases hstage
  cases answer with
  | error e =>
    obtain ⟨rfl, rfl⟩ := Prog.trace_pure.1 htrace
    exact staged_singleton (o := .prepare _ _) _ (hstage _) (status_writePrepareError requestId e)
  | ok result =>
    refine Staged.cons (o := .prepare _ _) ⟨result, rfl⟩ (hstage _) ?_
    replace htrace : Trace Answer (h.accept result >>= fun _ => _) rest response := htrace
    obtain ⟨before, answer, after, rfl, haccept, htrace⟩ := Prog.trace_bind htrace
    cases answer with
    | error e =>
      obtain ⟨rfl, rfl⟩ := Prog.trace_pure.1 htrace
      refine staged_publish haccept rfl (fun hok => ?_) fun _ => rfl
      cases hok
    | ok =>
      obtain ⟨rfl, rfl⟩ := Prog.trace_pure.1 htrace
      exact staged_publish haccept rfl (fun _ => rfl) fun hne => absurd rfl hne

theorem staged_receive {requestId : String} {metadata : AdmissionMetadata}
    {admission : AuthorizedAdmission σ} {body : Reader}
    (htrace : Trace Answer (h.receive requestId metadata admission body) events response) :
    Staged [.readBody, .prepare, .publish] events response := by
  obtain ⟨answer, rest, rfl, -, htrace⟩ := Prog.trace_perform.1 htrace
  have hstage : (HandlerOp.readBody (σ := σ) body).stage ≠ .publish := by
    intro hstage
    cases hstage
  cases answer with
  | error e =>
    cases e with
    | read text =>
      obtain ⟨rfl, rfl⟩ := Prog.trace_pure.1 htrace
      exact staged_singleton (o := .readBody body) _ hstage (by decide : (500 : ℕ) ≠ 202)
    | payloadTooLarge limit =>
      obtain ⟨rfl, rfl⟩ := Prog.trace_pure.1 htrace
      exact staged_singleton (o := .readBody body) _ hstage (by decide : (413 : ℕ) ≠ 202)
  | ok received =>
    replace htrace : Trace Answer (if JsonScanner.valid received.2 then
        h.submit requestId metadata admission received.1
      else pure (writeError 400 (newWireError "CER-ING-INVALID-PAYLOAD" (.of .validation)
        "request body must contain valid JSON" false requestId) requestId)) rest response := htrace
    split at htrace
    · exact Staged.cons (o := .readBody body) ⟨received, rfl⟩ hstage (staged_submit htrace)
    · obtain ⟨rfl, rfl⟩ := Prog.trace_pure.1 htrace
      exact staged_singleton (o := .readBody body) _ hstage (by decide : (400 : ℕ) ≠ 202)

theorem staged_authorize {requestId : String} {request : HttpRequest}
    (htrace : Trace Answer (h.authorize requestId request) events response) :
    Staged [.resolve, .begin, .readBody, .prepare, .publish] events response := by
  obtain ⟨answer, rest, rfl, -, htrace⟩ := Prog.trace_perform.1 htrace
  have hresolve : (HandlerOp.resolve (σ := σ) request).stage ≠ .publish := by
    intro hstage
    cases hstage
  cases answer with
  | error e =>
    obtain ⟨rfl, rfl⟩ := Prog.trace_pure.1 htrace
    exact staged_singleton (o := .resolve request) _ hresolve (by decide : (401 : ℕ) ≠ 202)
  | ok resolved =>
    refine Staged.cons (o := .resolve request) ⟨resolved, rfl⟩ hresolve ?_
    obtain ⟨answer, rest, rfl, -, htrace⟩ := Prog.trace_perform.1 htrace
    have hbegin : (HandlerOp.begin (σ := σ) (Handler.metadataOf requestId resolved)).stage ≠
        .publish := by
      intro hstage
      cases hstage
    cases answer with
    | error e =>
      obtain ⟨rfl, rfl⟩ := Prog.trace_pure.1 htrace
      exact staged_singleton (o := .begin _) _ hbegin (status_writePrepareError requestId e)
    | ok admission =>
      exact Staged.cons (o := .begin _) ⟨admission, rfl⟩ hbegin (staged_receive htrace)

/-- An identifier is drawn for a request that comes with none, and it is one if the request goes
on. -/
theorem drawn_of_trace {request : HttpRequest} {answer : Except String String}
    (htrace : Trace Answer (Handler.requestId request).run events answer) :
    stagesOf events = (if (Handler.suppliedId request).isSome then [] else [.requestId]) ∧
      ∀ id, answer = .ok id → ∀ event ∈ events, event.1.Succeeds event.2 := by
  rw [Handler.requestId] at htrace
  cases hsupplied : Handler.suppliedId request with
  | some supplied =>
    rw [hsupplied] at htrace
    obtain ⟨rfl, rfl⟩ := Prog.trace_pure.1 htrace
    exact ⟨rfl, fun _ _ event hevent => by cases hevent⟩
  | none =>
    rw [hsupplied] at htrace
    obtain ⟨generated, rest, rfl, -, htrace⟩ := Prog.trace_perform.1 htrace
    cases generated with
    | error e =>
      obtain ⟨rfl, rfl⟩ := Prog.trace_pure.1 htrace
      exact ⟨rfl, fun id hid => by cases hid⟩
    | ok id =>
      replace htrace : Trace Answer (ExceptT.run (Prog.checked (I := handlerInterface σ)
        (Preserver.wrapCheck "generated request_id is not UUIDv7: "
          (Validation.uuidV7 "request_id" id)) >>= fun _ => pure id)) rest answer := htrace
      cases hcheck : Preserver.wrapCheck "generated request_id is not UUIDv7: "
          (Validation.uuidV7 "request_id" id) with
      | error e =>
        rw [hcheck] at htrace
        obtain ⟨rfl, rfl⟩ := Prog.trace_pure.1 htrace
        exact ⟨rfl, fun id hid => by cases hid⟩
      | ok =>
        rw [hcheck] at htrace
        obtain ⟨rfl, rfl⟩ := Prog.trace_pure.1 htrace
        refine ⟨rfl, fun _ _ event hevent => ?_⟩
        obtain rfl := List.mem_singleton.1 hevent
        exact ⟨id, rfl, Preserver.wrapCheck_eq_ok.1 hcheck⟩

/-- **A request is served in stages.**  Whatever it is answered, it draws an identifier if it needs
one, and then, if that is one, goes through the stages in order, each only after the one before has
succeeded.  It publishes at most once, with 202 or 503 to follow, and is answered 202 only if it
went through all of them. -/
theorem staged_of_trace {request : HttpRequest}
    (htrace : Trace Answer (h.serveHttp request) events response) :
    ∃ drawn served, events = drawn ++ served ∧
      stagesOf drawn = (if (Handler.suppliedId request).isSome then [] else [.requestId]) ∧
      (served ≠ [] → ∀ event ∈ drawn, event.1.Succeeds event.2) ∧
      Staged [.resolve, .begin, .readBody, .prepare, .publish] served response := by
  obtain ⟨drawn, answer, served, rfl, hid, htrace⟩ := Prog.trace_bind htrace
  obtain ⟨hstages, hdrawn⟩ := drawn_of_trace hid
  refine ⟨drawn, served, rfl, hstages, ?_⟩
  cases answer with
  | error e =>
    obtain ⟨rfl, rfl⟩ := Prog.trace_pure.1 htrace
    exact ⟨fun hne => absurd rfl hne, staged_nil (by decide : (500 : ℕ) ≠ 202)⟩
  | ok requestId =>
    refine ⟨fun _ => hdrawn requestId rfl, ?_⟩
    dsimp only at htrace
    split at htrace
    · obtain ⟨rfl, rfl⟩ := Prog.trace_pure.1 htrace
      exact staged_nil (by decide : (405 : ℕ) ≠ 202)
    split at htrace
    · obtain ⟨rfl, rfl⟩ := Prog.trace_pure.1 htrace
      exact staged_nil (by decide : (415 : ℕ) ≠ 202)
    exact staged_authorize htrace

end

theorem staged_of_trace_sample : ∃ (events : List (Event (handlerInterface (List String))))
    (response : HttpResponse), response.status = 202 ∧
      ∃ drawn served, events = drawn ++ served ∧
        stagesOf drawn =
          (if (Handler.suppliedId sampleRequest).isSome then [] else [.requestId]) ∧
        (served ≠ [] → ∀ event ∈ drawn, event.1.Succeeds event.2) ∧
        Staged [.resolve, .begin, .readBody, .prepare, .publish] served response := by
  have htrace : ∃ events, Trace (fun _ _ => True) (sampleHandler.serveHttp sampleRequest) events
      (sampleServed sampleRequest ⟨⟨[]⟩, []⟩).1 :=
    Prog.exists_trace_run (fun _ _ => trivial) _ _
  obtain ⟨events, hevents⟩ := htrace
  exact ⟨events, _, status_sampleRequest, staged_of_trace hevents⟩

end HttpIngest

end Cerbero
