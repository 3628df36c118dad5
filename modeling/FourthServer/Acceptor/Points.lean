import FourthServer.Model.Acceptor

/-!
# Control points of the acceptor task

As for the two connection loops: `Point` lists the places where the acceptor
can be suspended, `Next` is the transition table between them, and
`step_task_iff` says that the code moves exactly as the table does.
-/

namespace FourthServer

open Resumption Trace

namespace Acceptor

variable {S T C P : Type}

/-- The places where an acceptor task can be. -/
inductive Point (S T C P : Type)
  /-- At `select!`. -/
  | top (processor : P)
  | tls (processor : P) (addr : SocketAddr) (stream : S)
  | webSocket (processor : P) (addr : SocketAddr) (transport : T)
  /-- About to call `initial_setup` on a clone of the codec. -/
  | setup (processor : P) (addr : SocketAddr) (transport : T)
  | connecting (processor : P) (addr : SocketAddr) (transport : T) (codec : C)
  | framing (processor : P) (addr : SocketAddr) (framed : T × C)
  | starting (start : Start T C P)
  /-- About to log the end of a setup that has failed. -/
  | warning (processor : P) (line : AcceptorWarning)
  /-- About to log that `initial_connect` has refused a connection. -/
  | rejecting (processor : P) (addr : SocketAddr) (transport : T)
  | shutting (processor : P) (transport : T)
  | returned

variable (config : AcceptorConfig S T) (codec : C)

/-- The task at a control point. -/
def Point.task : Point S T C P → AcceptorM S T C P (P ⊕ Unit)
  | .top processor => turn config codec processor
  | .tls processor addr stream =>
    .op (.tlsAccept stream) fun res => afterTls config codec res >>= afterAccept processor addr
  | .webSocket processor addr transport =>
    .op (.acceptWebsocket transport) fun res =>
      afterWebsocket codec res >>= afterAccept processor addr
  | .setup processor addr transport =>
    afterHandshakes codec transport >>= afterAccept processor addr
  | .connecting processor addr transport codec =>
    .op (.initialConnect processor transport) fun res =>
      afterConnect addr res.1 res.2.1 codec res.2.2
  | .framing processor addr framed =>
    .op (.initialFramedConnect processor framed) fun res =>
      afterFramedConnect addr res.1 res.2.1 res.2.2
  | .starting start => .op (.spawn start) fun _ => .ret (.inl start.processor)
  | .warning processor line => .op (.warn line) fun _ => .ret (.inl processor)
  | .rejecting processor addr transport =>
    .op (.warn (.processorRejected addr)) fun _ =>
      .op (.shutdown transport) fun _ => .ret (.inl processor)
  | .shutting processor transport => .op (.shutdown transport) fun _ => .ret (.inl processor)
  | .returned => .ret (.inr ())

/-- Where the task is once it has a transport. -/
def afterStream (processor : P) (addr : SocketAddr) (transport : T) : Point S T C P :=
  match config.mode with
  | .tcp => .setup processor addr transport
  | .webSocket => .webSocket processor addr transport

/-- Where the task is once it has accepted a connection. -/
def entry (processor : P) (addr : SocketAddr) (stream : S) : Point S T C P :=
  if config.tls then .tls processor addr stream
  else afterStream config processor addr (config.plain stream)

/-- The transition table of the acceptor task. -/
inductive Next : Point S T C P → AcceptorEvent S T C P → Point S T C P → Prop
  | accepted (processor : P) (stream : S) (addr : SocketAddr) :
      Next (.top processor) ⟨.select, .accepted stream addr⟩ (entry config processor addr stream)
  | failed (processor : P) (kind : ErrorKind) :
      Next (.top processor) ⟨.select, .failed kind⟩ (.warning processor (.acceptError kind))
  | notified (processor : P) : Next (.top processor) ⟨.select, .notified⟩ .returned
  | secured (processor : P) (addr : SocketAddr) (stream : S) (transport : T) :
      Next (.tls processor addr stream) ⟨.tlsAccept stream, .ok transport⟩
        (afterStream config processor addr transport)
  | unsecured (processor : P) (addr : SocketAddr) (stream : S) (error : String) :
      Next (.tls processor addr stream) ⟨.tlsAccept stream, .error error⟩
        (.warning processor (.tlsHandshake error))
  | upgraded (processor : P) (addr : SocketAddr) (transport upgrade : T) :
      Next (.webSocket processor addr transport) ⟨.acceptWebsocket transport, .ok upgrade⟩
        (.setup processor addr upgrade)
  | notUpgraded (processor : P) (addr : SocketAddr) (transport : T) (error : String) :
      Next (.webSocket processor addr transport) ⟨.acceptWebsocket transport, .error error⟩
        (.warning processor (.webSocketHandshake error))
  | setUp (processor : P) (addr : SocketAddr) (transport transport' : T) (codec' : C) :
      Next (.setup processor addr transport)
        ⟨.initialSetup codec transport, (codec', transport', true)⟩
        (.connecting processor addr transport' codec')
  | notSetUp (processor : P) (addr : SocketAddr) (transport transport' : T) (codec' : C) :
      Next (.setup processor addr transport)
        ⟨.initialSetup codec transport, (codec', transport', false)⟩
        (.warning processor .codecRejected)
  | connected (processor processor' : P) (addr : SocketAddr) (transport transport' : T)
      (codec : C) :
      Next (.connecting processor addr transport codec)
        ⟨.initialConnect processor transport, (processor', transport', true)⟩
        (.framing processor' addr (transport', codec))
  | notConnected (processor processor' : P) (addr : SocketAddr) (transport transport' : T)
      (codec : C) :
      Next (.connecting processor addr transport codec)
        ⟨.initialConnect processor transport, (processor', transport', false)⟩
        (.rejecting processor' addr transport')
  | framed (processor processor' : P) (addr : SocketAddr) (framed framed' : T × C) :
      Next (.framing processor addr framed)
        ⟨.initialFramedConnect processor framed, (processor', framed', true)⟩
        (.starting ⟨addr, framed', processor'⟩)
  | notFramed (processor processor' : P) (addr : SocketAddr) (framed framed' : T × C) :
      Next (.framing processor addr framed)
        ⟨.initialFramedConnect processor framed, (processor', framed', false)⟩
        (.warning processor' (.framedRejected addr))
  | started (start : Start T C P) : Next (.starting start) ⟨.spawn start, ()⟩ (.top start.processor)
  | warned (processor : P) (line : AcceptorWarning) :
      Next (.warning processor line) ⟨.warn line, ()⟩ (.top processor)
  | rejected (processor : P) (addr : SocketAddr) (transport : T) :
      Next (.rejecting processor addr transport) ⟨.warn (.processorRejected addr), ()⟩
        (.shutting processor transport)
  | shut (processor : P) (transport : T) (res : Except ErrorKind Unit) :
      Next (.shutting processor transport) ⟨.shutdown transport, res⟩ (.top processor)

variable {config codec}

theorem afterStream_eq (processor : P) (addr : SocketAddr) (transport : T) :
    afterTransport config codec transport >>= afterAccept processor addr =
      (afterStream config processor addr transport).task config codec := by
  unfold afterTransport afterStream
  cases config.mode <;> rfl

theorem entry_eq (processor : P) (addr : SocketAddr) (stream : S) :
    initialAccept config stream codec >>= afterAccept processor addr =
      (entry config processor addr stream).task config codec := by
  unfold initialAccept entry
  cases config.tls with
  | false => exact afterStream_eq processor addr _
  | true => rfl

@[simp] theorem settle_task (pt : Point S T C P) :
    settle (turn config codec) (pt.task config codec) = pt.task config codec := by
  cases pt <;> rfl

/-- Every step of the code is in the transition table. -/
theorem next_of_step {pt : Point S T C P} {e : AcceptorEvent S T C P}
    {task : AcceptorM S T C P (P ⊕ Unit)} (h : Step config codec (pt.task config codec) e task) :
    ∃ next, Next config codec pt e next ∧ task = next.task config codec := by
  cases pt with
  | top processor =>
      obtain ⟨answer, rfl, rfl⟩ := loopStep_op.mp h
      match answer with
      | .accepted stream addr =>
          refine ⟨_, .accepted processor stream addr, ?_⟩
          rw [← settle_task, ← entry_eq]
          rfl
      | .failed kind => exact ⟨_, .failed processor kind, rfl⟩
      | .notified => exact ⟨_, .notified processor, rfl⟩
  | tls processor addr stream =>
      obtain ⟨answer, rfl, rfl⟩ := loopStep_op.mp h
      match answer with
      | .ok transport =>
          refine ⟨_, .secured processor addr stream transport, ?_⟩
          rw [← settle_task, ← afterStream_eq]
          rfl
      | .error error => exact ⟨_, .unsecured processor addr stream error, rfl⟩
  | webSocket processor addr transport =>
      obtain ⟨answer, rfl, rfl⟩ := loopStep_op.mp h
      match answer with
      | .ok upgrade => exact ⟨_, .upgraded processor addr transport upgrade, rfl⟩
      | .error error => exact ⟨_, .notUpgraded processor addr transport error, rfl⟩
  | setup processor addr transport =>
      obtain ⟨⟨codec', transport', accepted⟩, rfl, rfl⟩ := loopStep_op.mp h
      cases accepted with
      | true => exact ⟨_, .setUp processor addr transport transport' codec', rfl⟩
      | false => exact ⟨_, .notSetUp processor addr transport transport' codec', rfl⟩
  | connecting processor addr transport codec =>
      obtain ⟨⟨processor', transport', accepted⟩, rfl, rfl⟩ := loopStep_op.mp h
      cases accepted with
      | true => exact ⟨_, .connected processor processor' addr transport transport' codec, rfl⟩
      | false => exact ⟨_, .notConnected processor processor' addr transport transport' codec, rfl⟩
  | framing processor addr framed =>
      obtain ⟨⟨processor', framed', accepted⟩, rfl, rfl⟩ := loopStep_op.mp h
      cases accepted with
      | true => exact ⟨_, .framed processor processor' addr framed framed', rfl⟩
      | false => exact ⟨_, .notFramed processor processor' addr framed framed', rfl⟩
  | starting start =>
      obtain ⟨answer, rfl, rfl⟩ := loopStep_op.mp h
      exact ⟨_, .started start, rfl⟩
  | warning processor line =>
      obtain ⟨answer, rfl, rfl⟩ := loopStep_op.mp h
      exact ⟨_, .warned processor line, rfl⟩
  | rejecting processor addr transport =>
      obtain ⟨answer, rfl, rfl⟩ := loopStep_op.mp h
      exact ⟨_, .rejected processor addr transport, rfl⟩
  | shutting processor transport =>
      obtain ⟨answer, rfl, rfl⟩ := loopStep_op.mp h
      exact ⟨_, .shut processor transport answer, rfl⟩
  | returned => exact absurd h not_loopStep_ret

/-- Every entry of the transition table is a step of the code. -/
theorem step_of_next {pt next : Point S T C P} {e : AcceptorEvent S T C P}
    (h : Next config codec pt e next) :
    Step config codec (pt.task config codec) e (next.task config codec) := by
  cases h with
  | accepted processor stream addr =>
      refine loopStep_op.mpr ⟨.accepted stream addr, rfl, ?_⟩
      rw [← settle_task, ← entry_eq]
      rfl
  | secured processor addr stream transport =>
      refine loopStep_op.mpr ⟨.ok transport, rfl, ?_⟩
      rw [← settle_task, ← afterStream_eq]
      rfl
  | _ => exact loopStep_op.mpr ⟨_, rfl, rfl⟩

/-- **The code moves as the transition table does.** -/
theorem step_task_iff {pt : Point S T C P} {e : AcceptorEvent S T C P}
    {task : AcceptorM S T C P (P ⊕ Unit)} :
    Step config codec (pt.task config codec) e task ↔
      ∃ next, Next config codec pt e next ∧ task = next.task config codec := by
  constructor
  · exact next_of_step
  · rintro ⟨next, h, rfl⟩
    exact step_of_next h

/-- A run of the code is a run through the transition table. -/
theorem run_points {processor : P} {tr : List (AcceptorEvent S T C P)}
    {task : AcceptorM S T C P (P ⊕ Unit)}
    (run : Run (Step config codec) (turn config codec processor) tr task) :
    ∃ pt, Run (Next config codec) (.top processor) tr pt ∧ task = pt.task config codec :=
  Run.lift (f := Point.task config codec) (fun _ _ _ => next_of_step) run

/-- A run through the transition table is a run of the code. -/
theorem run_of_points {start pt : Point S T C P} {tr : List (AcceptorEvent S T C P)}
    (run : Run (Next config codec) start tr pt) :
    Run (Step config codec) (start.task config codec) tr (pt.task config codec) :=
  run.map fun _ _ _ => step_of_next

end Acceptor

end FourthServer
