import FourthServer.Library.Comparable
import FourthServer.Server.Steady

/-!
# What the server does not look at

As for the client: `erase` takes the processor and what it makes of frames out
of the control points and events of a connection task, and what is left is a
step of the same task (`next_erase`).
-/

namespace FourthServer

open Resumption Trace Comparison

/-- The variables of a connection task without its processor. -/
def ConnectionState.erase {P : Type} (st : ConnectionState P) : ConnectionState Unit :=
  ⟨(), st.moveTx, st.moveRx⟩

/-- The call of an `AcceptFn` without the processor that goes with it. -/
def AcceptCall.erase {A : App} {P : Type} (call : AcceptCall A P) : AcceptCall A Unit :=
  ⟨call.accept, call.state, call.addr, ()⟩

namespace Connection

open TfServerRouter

variable {A : App} {P : Type} {utils : Utils A} {router : TfServerRouter A} {addr : SocketAddr}

/-- A control point without the processor and the frames. -/
def Point.erase : Point A P → Point A Unit
  | .top st => .top st.erase
  | .metaIn st _ => .metaIn st.erase []
  | .payloadWait st metaData => .payloadWait st.erase metaData
  | .payloadIn st metaData _ => .payloadIn st.erase metaData []
  | .calling st metaData payload => .calling st.erase metaData payload
  | .serving st call => .serving st.erase call
  | .replying st message => .replying st.erase message
  | .sending st _ => .sending st.erase []
  | .checking st sent => .checking st.erase sent
  | .accepting call => .accepting call.erase
  | .closing => .closing
  | .returned => .returned
  | .unwound => .unwound

/-- An event without the processor and the frames. -/
@[simp] def erase : ServerEvent A P → ServerEvent A Unit
  | ⟨.next, some (.ok _)⟩ => ⟨.next, some (.ok [])⟩
  | ⟨.next, some (.error kind)⟩ => ⟨.next, some (.error kind)⟩
  | ⟨.next, none⟩ => ⟨.next, none⟩
  | ⟨.preProcess _ _, (_, data)⟩ => ⟨.preProcess () [], ((), data)⟩
  | ⟨.postProcess _ message, _⟩ => ⟨.postProcess () message, ((), [])⟩
  | ⟨.send _, res⟩ => ⟨.send [], res⟩
  | ⟨.close, _⟩ => ⟨.close, ()⟩
  | ⟨.servePacket metaData payload, _⟩ => ⟨.servePacket metaData payload, ()⟩
  | ⟨.serve call, outcome⟩ => ⟨.serve call, outcome⟩
  | ⟨.tryRecv channel, answer⟩ => ⟨.tryRecv channel, answer⟩
  | ⟨.accept call, _⟩ => ⟨.accept call.erase, ()⟩
  | ⟨.unwind, answer⟩ => nomatch answer

theorem erase_afterServed (st : ConnectionState P) (served : Served) :
    (afterServed (A := A) utils st served).erase = afterServed utils st.erase served := by
  unfold afterServed
  cases replyMessage utils served.1 <;> rfl

theorem erase_afterDispatch (st : ConnectionState P) (dispatched : Dispatch A) :
    (afterDispatch utils st dispatched).erase = afterDispatch utils st.erase dispatched := by
  cases dispatched with
  | answered res => exact erase_afterServed st _
  | handled call => rfl
  | unwound => rfl

theorem erase_afterOutcome (st : ConnectionState P) (outcome : ServeOutcome A) :
    (afterOutcome utils st outcome).erase = afterOutcome utils st.erase outcome := by
  unfold afterOutcome
  cases outcomeServed outcome with
  | none => rfl
  | some served => exact erase_afterServed st served

variable {pt next next' : Point A P} {e e' : ServerEvent A P} {tr : List (ServerEvent A P)}

/-- Nothing the task does depends on what is erased. -/
theorem next_erase (h : Next utils router addr pt e next) :
    Next utils router addr pt.erase (erase e) next.erase := by
  cases h with
  | metaFrame st raw => exact .metaFrame st.erase []
  | metaGone st kind gone => exact .metaGone st.erase kind gone
  | metaError st kind stays => exact .metaError st.erase kind stays
  | metaEnd st => exact .metaEnd st.erase
  | announced st raw processor metaData more => exact .announced st.erase [] () metaData more
  | alone st raw processor metaData more => exact .alone st.erase [] () metaData more
  | payloadFrame st metaData raw => exact .payloadFrame st.erase metaData []
  | payloadGone st metaData kind gone => exact .payloadGone st.erase metaData kind gone
  | payloadError st metaData kind stays => exact .payloadError st.erase metaData kind stays
  | payloadEnd st metaData => exact .payloadEnd st.erase metaData
  | payloadRead st metaData raw processor payload =>
      exact .payloadRead st.erase metaData [] () payload
  | called st metaData payload =>
      rw [erase_afterDispatch]
      exact .called st.erase metaData payload
  | served st call outcome =>
      rw [erase_afterOutcome]
      exact .served st.erase call outcome
  | processed st message processor wire => exact .processed st.erase message () []
  | sent st wire res => exact .sent st.erase [] res
  | handedOver st res value => exact .handedOver st.erase res value
  | senderGone st res gone => exact .senderGone st.erase res gone
  | sendFailed st kind kept => exact .sendFailed st.erase kind kept
  | again st kept => exact .again st.erase kept
  | accepted call => exact .accepted call.erase
  | closed => exact .closed

theorem run_erase {start : Point A P} (run : Run (Next utils router addr) start tr pt) :
    Run (Next utils router addr) start.erase (tr.map erase) pt.erase := by
  induction run with
  | nil => exact Run.nil
  | snoc _ hnext ih =>
      rw [List.map_append]
      exact ih.snoc (next_erase hnext)

/-- A case analysis on events that suits `erase`. -/
theorem forall_event {motive : ServerEvent A P → Prop}
    (frame : ∀ raw, motive ⟨.next, some (.ok raw)⟩)
    (error : ∀ kind, motive ⟨.next, some (.error kind)⟩) (ends : motive ⟨.next, none⟩)
    (preProcess : ∀ before raw after data, motive ⟨.preProcess before raw, (after, data)⟩)
    (postProcess : ∀ before message after wire,
      motive ⟨.postProcess before message, (after, wire)⟩)
    (send : ∀ wire res, motive ⟨.send wire, res⟩) (close : motive ⟨.close, ()⟩)
    (servePacket : ∀ metaData payload, motive ⟨.servePacket metaData payload, ()⟩)
    (serve : ∀ call outcome, motive ⟨.serve call, outcome⟩)
    (tryRecv : ∀ channel answer, motive ⟨.tryRecv channel, answer⟩)
    (accept : ∀ call, motive ⟨.accept call, ()⟩) (e : ServerEvent A P) : motive e := by
  obtain ⟨op, answer⟩ := e
  cases op with
  | next =>
      match answer with
      | some (.ok raw) => exact frame raw
      | some (.error kind) => exact error kind
      | none => exact ends
  | preProcess before raw => exact preProcess before raw answer.1 answer.2
  | postProcess before message => exact postProcess before message answer.1 answer.2
  | send wire => exact send wire answer
  | close => exact close
  | servePacket metaData payload => exact servePacket metaData payload
  | serve call => exact serve call answer
  | tryRecv channel => exact tryRecv channel answer
  | accept call => exact accept call
  | unwind => exact nomatch answer

/-! ## What is left of a history -/

theorem calls_erase : calls (tr.map erase) = calls tr := by
  induction tr using List.reverseRecOn with
  | nil => rfl
  | append_singleton tr e ih =>
      rw [List.map_append, List.map_singleton, calls_snoc, calls_snoc, ih]
      cases e using forall_event <;> rfl

theorem frames_erase : frames (tr.map erase) = frames tr := by
  induction tr using List.reverseRecOn with
  | nil => rfl
  | append_singleton tr e ih =>
      rw [List.map_append, List.map_singleton, frames_snoc, frames_snoc, ih]
      cases e using forall_event <;> rfl

theorem replies_erase : replies (tr.map erase) = replies tr := by
  induction tr using List.reverseRecOn with
  | nil => rfl
  | append_singleton tr e ih =>
      rw [List.map_append, List.map_singleton, replies_snoc, replies_snoc, ih]
      cases e using forall_event <;> rfl

theorem replies_mono {first second : List (ServerEvent A P)} (h : first <+: second) :
    replies first <+: replies second := by
  obtain ⟨rest, rfl⟩ := h
  simp only [replies, hooks, List.filterMap_append, Hooks.sent_append]
  exact List.prefix_append _ _

theorem length_received_erase : (received (tr.map erase)).length = (received tr).length := by
  induction tr using List.reverseRecOn with
  | nil => rfl
  | append_singleton tr e ih =>
      rw [List.map_append, List.map_singleton, received_snoc, received_snoc, List.length_append,
        List.length_append, ih]
      cases e using forall_event <;> rfl

theorem length_wires_erase : (wires (tr.map erase)).length = (wires tr).length := by
  induction tr using List.reverseRecOn with
  | nil => rfl
  | append_singleton tr e ih =>
      rw [List.map_append, List.map_singleton, wires_snoc, wires_snoc, List.length_append,
        List.length_append, ih]
      cases e using forall_event with
      | send wire res => cases res <;> rfl
      | _ => rfl

end Connection

end FourthServer
