import FourthServer.Client.Steady
import FourthServer.Library.Comparable

/-!
# What the client does not look at

The client task passes its processor on and sends and receives what the
processor makes of a message, but looks at neither.  `erase` takes both out of a
control point and out of an event, and what is left is a step of the same task
(`next_erase`).  So two clients with different processors are compared through
the runs that are left of theirs.
-/

namespace FourthServer

open Resumption Trace Comparison

/-- The variables of a client task without its processor. -/
def ClientState.erase {P : Type} (st : ClientState P) : ClientState Unit :=
  ⟨(), st.knownRoutes⟩

namespace Client

variable {A : App} {P : Type} {utils : Utils A}

/-- A control point without the processor and the frames. -/
def Point.erase : Point A P → Point A Unit
  | .top st => .top st.erase
  | .routing st request name message => .routing st.erase request name message
  | .routeSending st request name _ => .routeSending st.erase request name []
  | .routeWaiting st request name => .routeWaiting st.erase request name
  | .routeIn st request name _ => .routeIn st.erase request name []
  | .learning st request name id => .learning st.erase request name id
  | .preparing st request id message => .preparing st.erase request id message
  | .preparingData st request id _ => .preparingData st.erase request id []
  | .metaSending st request id _ _ => .metaSending st.erase request id [] []
  | .payloadSending st request id _ => .payloadSending st.erase request id []
  | .waiting st request id => .waiting st.erase request id
  | .responseIn st request id _ => .responseIn st.erase request id []
  | .delivering st request id response => .delivering st.erase request id response
  | .warning st error => .warning st.erase error
  | .returned => .returned

/-- An event without the processor and the frames, and without the answer of a
consumer, which the code drops. -/
@[simp] def erase : ClientEvent A P → ClientEvent A Unit
  | ⟨.recv, answer⟩ => ⟨.recv, answer⟩
  | ⟨.send site _, res⟩ => ⟨.send site [], res⟩
  | ⟨.next, some (.ok _)⟩ => ⟨.next, some (.ok [])⟩
  | ⟨.next, some (.error kind)⟩ => ⟨.next, some (.error kind)⟩
  | ⟨.next, none⟩ => ⟨.next, none⟩
  | ⟨.preProcess _ _, (_, data)⟩ => ⟨.preProcess () [], ((), data)⟩
  | ⟨.postProcess _ message, _⟩ => ⟨.postProcess () message, ((), [])⟩
  | ⟨.insertRoute name id, _⟩ => ⟨.insertRoute name id, ()⟩
  | ⟨.deliver consumer data, _⟩ => ⟨.deliver consumer data, .ok ()⟩
  | ⟨.warn error, _⟩ => ⟨.warn error, ()⟩

theorem erase_afterId (st : ClientState P) (request : ClientRequest A) (id : ℕ) :
    (afterId utils st request id).erase = afterId utils st.erase request id := by
  unfold afterId
  cases utils.toBytesMeta (metaOf request id) <;> rfl

theorem erase_afterName (st : ClientState P) (request : ClientRequest A) (name : String) :
    (afterName utils st request name).erase = afterName utils st.erase request name := by
  have hroutes : st.erase.knownRoutes = st.knownRoutes := rfl
  unfold afterName
  rw [hroutes]
  cases lookupRoute st.knownRoutes name with
  | some id => exact erase_afterId st request id
  | none =>
      dsimp only
      cases utils.toBytesReq ⟨.handlerMetaReq, name⟩ <;> rfl

theorem erase_entry (st : ClientState P) (request : ClientRequest A) :
    (entry utils st request).erase = entry utils st.erase request := by
  unfold entry
  cases request.req.handlerInfo.id with
  | some id => exact erase_afterId st request id
  | none =>
      dsimp only
      cases request.req.handlerInfo.named with
      | some name => exact erase_afterName st request name
      | none => rfl

theorem erase_afterAnswer (st : ClientState P) (request : ClientRequest A) (name : String)
    (response : Bytes) :
    (afterAnswer utils st request name response).erase =
      afterAnswer utils st.erase request name response := by
  unfold afterAnswer
  cases utils.accessAns response <;> rfl

variable {pt next next' : Point A P} {e e' : ClientEvent A P} {tr : List (ClientEvent A P)}

/-- Nothing the task does depends on what is erased. -/
theorem next_erase (h : Next utils pt e next) : Next utils pt.erase (erase e) next.erase := by
  cases h with
  | taken st request =>
      rw [erase_entry]
      exact .taken st.erase request
  | drained st => exact .drained st.erase
  | asked st request name message => exact .asked st.erase request name message () []
  | routeSent st request name wire => exact .routeSent st.erase request name []
  | routeUnsent st request name wire kind => exact .routeUnsent st.erase request name [] kind
  | routeFrame st request name raw => exact .routeFrame st.erase request name []
  | routeError st request name kind => exact .routeError st.erase request name kind
  | routeEnd st request name => exact .routeEnd st.erase request name
  | answered st request name raw processor response =>
      rw [erase_afterAnswer]
      exact .answered st.erase request name [] () response
  | learned st request name id =>
      rw [erase_afterId]
      exact .learned st.erase request name id
  | prepared st request id message => exact .prepared st.erase request id message () []
  | preparedData st request id => exact .preparedData st.erase request id [] () []
  | metaSent st request id => exact .metaSent st.erase request id [] []
  | metaUnsent st request id metaBytes payload kind =>
      exact .metaUnsent st.erase request id [] [] kind
  | payloadSent st request id => exact .payloadSent st.erase request id []
  | payloadUnsent st request id payload kind => exact .payloadUnsent st.erase request id [] kind
  | responseFrame st request id => exact .responseFrame st.erase request id []
  | responseError st request id kind => exact .responseError st.erase request id kind
  | responseEnd st request id => exact .responseEnd st.erase request id
  | responseRead st request id raw processor response =>
      exact .responseRead st.erase request id [] () response
  | delivered st request id response => exact .delivered st.erase request id response (.ok ())
  | warned st error => exact .warned st.erase error

theorem run_erase {start : Point A P} (run : Run (Next utils) start tr pt) :
    Run (Next utils) start.erase (tr.map erase) pt.erase := by
  induction run with
  | nil => exact Run.nil
  | snoc _ hnext ih =>
      rw [List.map_append]
      exact ih.snoc (next_erase hnext)

/-! ## What is left of a history -/

@[simp] def pull? : ClientEvent A P → Option (Option (ClientRequest A))
  | ⟨.recv, answer⟩ => some answer
  | _ => none

/-- The answers of `rx.recv()`. -/
def pulls (tr : List (ClientEvent A P)) : List (Option (ClientRequest A)) := tr.filterMap pull?

@[simp] theorem pulls_snoc (e : ClientEvent A P) :
    pulls (tr ++ [e]) = pulls tr ++ (pull? e).toList :=
  filterMap_snoc _ tr e

/-- The requests among the answers. -/
theorem taken_eq : taken tr = (pulls tr).filterMap id := by
  rw [taken, pulls, List.filterMap_filterMap]
  refine List.filterMap_congr fun e _ => ?_
  obtain ⟨op, answer⟩ := e
  cases op with
  | recv => cases answer <;> rfl
  | _ => rfl

/-- What does not look at the erased parts of an event shows the same afterwards. -/
theorem filterMap_erase {α : Type} (f : ClientEvent A P → Option α)
    (g : ClientEvent A Unit → Option α) (h : ∀ e, g (erase e) = f e) :
    (tr.map erase).filterMap g = tr.filterMap f := by
  rw [List.filterMap_map]
  exact List.filterMap_congr fun e _ => h e

/-- A case analysis on events that suits `erase`. -/
theorem forall_event {motive : ClientEvent A P → Prop}
    (recv : ∀ answer, motive ⟨.recv, answer⟩)
    (send : ∀ site wire res, motive ⟨.send site wire, res⟩)
    (frame : ∀ raw, motive ⟨.next, some (.ok raw)⟩)
    (error : ∀ kind, motive ⟨.next, some (.error kind)⟩) (ends : motive ⟨.next, none⟩)
    (preProcess : ∀ before raw after data, motive ⟨.preProcess before raw, (after, data)⟩)
    (postProcess : ∀ before message after wire,
      motive ⟨.postProcess before message, (after, wire)⟩)
    (insertRoute : ∀ name id, motive ⟨.insertRoute name id, ()⟩)
    (deliver : ∀ consumer data res, motive ⟨.deliver consumer data, res⟩)
    (warn : ∀ error, motive ⟨.warn error, ()⟩) (e : ClientEvent A P) : motive e := by
  obtain ⟨op, answer⟩ := e
  cases op with
  | recv => exact recv answer
  | send site wire => exact send site wire answer
  | next =>
      match answer with
      | some (.ok raw) => exact frame raw
      | some (.error kind) => exact error kind
      | none => exact ends
  | preProcess before raw => exact preProcess before raw answer.1 answer.2
  | postProcess before message => exact postProcess before message answer.1 answer.2
  | insertRoute name id => exact insertRoute name id
  | deliver consumer data => exact deliver consumer data answer
  | warn error => exact warn error

theorem pulls_erase : pulls (tr.map erase) = pulls tr := by
  refine filterMap_erase _ _ fun e => ?_
  cases e using forall_event <;> rfl

theorem learnt_erase : learnt (tr.map erase) = learnt tr := by
  refine filterMap_erase _ _ fun e => ?_
  cases e using forall_event <;> rfl

theorem deliveries_erase : deliveries (tr.map erase) = deliveries tr := by
  refine filterMap_erase _ _ fun e => ?_
  cases e using forall_event <;> rfl

theorem posts_erase : posts (tr.map erase) = posts tr := by
  induction tr using List.reverseRecOn with
  | nil => rfl
  | append_singleton tr e ih =>
      rw [List.map_append, List.map_singleton, posts_snoc, posts_snoc, ih]
      cases e using forall_event <;> rfl

theorem responses_erase : responses (tr.map erase) = responses tr := by
  induction tr using List.reverseRecOn with
  | nil => rfl
  | append_singleton tr e ih =>
      rw [List.map_append, List.map_singleton, responses_snoc, responses_snoc, ih]
      cases e using forall_event <;> rfl

theorem posts_mono {first second : List (ClientEvent A P)} (h : first <+: second) :
    posts first <+: posts second := by
  obtain ⟨rest, rfl⟩ := h
  simp only [posts, hooks, List.filterMap_append, Hooks.sent_append]
  exact List.prefix_append _ _

theorem length_received_erase : (received (tr.map erase)).length = (received tr).length := by
  induction tr using List.reverseRecOn with
  | nil => rfl
  | append_singleton tr e ih =>
      rw [List.map_append, List.map_singleton, received_snoc, received_snoc, List.length_append,
        List.length_append, ih]
      cases e using forall_event <;> rfl

theorem length_wires_erase : (wires (tr.map erase)).length = (wires tr).length := by
  induction tr using List.reverseRecOn with
  | nil => rfl
  | append_singleton tr e ih =>
      rw [List.map_append, List.map_singleton, wires_snoc, wires_snoc, List.length_append,
        List.length_append, ih]
      cases e using forall_event with
      | send site wire res => cases res <;> rfl
      | _ => rfl

end Client

end FourthServer
