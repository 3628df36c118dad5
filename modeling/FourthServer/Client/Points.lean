import FourthServer.Model.Client

/-!
# Control points of the client task

As for the server: `Point` lists the places where `connection_main` can be
suspended, `Next` is the transition table between them, and `step_task_iff`
says that the code moves exactly as the table does.  What `process_request`
does with a request before its first await is the pure function `entry`.
-/

namespace FourthServer

open Resumption Trace

namespace Client

variable {A : App} {P : Type}

/-- The places where a client task can be. -/
inductive Point (A : App) (P : Type)
  /-- At `rx.recv()`. -/
  | top (st : ClientState P)
  /-- About to post-process the question for the id of a name. -/
  | routing (st : ClientState P) (request : ClientRequest A) (name : String) (message : Bytes)
  | routeSending (st : ClientState P) (request : ClientRequest A) (name : String) (wire : Bytes)
  | routeWaiting (st : ClientState P) (request : ClientRequest A) (name : String)
  | routeIn (st : ClientState P) (request : ClientRequest A) (name : String) (raw : Bytes)
  /-- About to insert the id into the known routes. -/
  | learning (st : ClientState P) (request : ClientRequest A) (name : String) (id : ℕ)
  /-- About to post-process the meta of a request. -/
  | preparing (st : ClientState P) (request : ClientRequest A) (id : ℕ) (message : Bytes)
  /-- About to post-process the data of a request. -/
  | preparingData (st : ClientState P) (request : ClientRequest A) (id : ℕ) (metaBytes : Bytes)
  | metaSending (st : ClientState P) (request : ClientRequest A) (id : ℕ)
      (metaBytes payload : Bytes)
  | payloadSending (st : ClientState P) (request : ClientRequest A) (id : ℕ) (payload : Bytes)
  | waiting (st : ClientState P) (request : ClientRequest A) (id : ℕ)
  | responseIn (st : ClientState P) (request : ClientRequest A) (id : ℕ) (raw : Bytes)
  | delivering (st : ClientState P) (request : ClientRequest A) (id : ℕ) (response : Bytes)
  | warning (st : ClientState P) (error : ClientError)
  | returned

variable (utils : Utils A)

/-- From the end of `process_request` on. -/
def finish (res : ClientState P × Except ClientError Unit) :
    ClientM A P (ClientState P ⊕ Unit) :=
  afterRequest res.1 res.2

/-- From the end of `request_route` on. -/
def routed (request : ClientRequest A) (res : ClientState P × Except RouterError ℕ) :
    ClientM A P (ClientState P ⊕ Unit) :=
  afterRoute utils res.1 request res.2 >>= finish

/-- From the end of `request_route_from_server` on. -/
def found (st : ClientState P) (request : ClientRequest A) (name : String)
    (res : P × Except RouterError ℕ) : ClientM A P (ClientState P ⊕ Unit) :=
  learnRoute { st with processor := res.1 } name res.2 >>= routed utils request

/-- The task at a control point. -/
def Point.task : Point A P → ClientM A P (ClientState P ⊕ Unit)
  | .top st => turn utils st
  | .routing st request name message =>
    .op (.postProcess st.processor message) fun res => .op (.send .route res.2) fun sent =>
      afterRouteSend utils res.1 sent >>= found utils st request name
  | .routeSending st request name wire =>
    .op (.send .route wire) fun sent =>
      afterRouteSend utils st.processor sent >>= found utils st request name
  | .routeWaiting st request name =>
    (waitForData >>= afterRouteWait utils st.processor) >>= found utils st request name
  | .routeIn st request name raw =>
    afterRouteWait utils st.processor (.ok raw) >>= found utils st request name
  | .learning st request name handlerId =>
    learnRoute st name (.ok handlerId) >>= routed utils request
  | .preparing st request _ message =>
    .op (.postProcess st.processor message) fun res =>
      .op (.postProcess res.1 request.req.data) fun res' => .op (.send .metaFrame res.2) fun sent =>
        afterMetaSend { st with processor := res'.1 } request.consumer res'.2 sent >>= finish
  | .preparingData st request _ metaBytes =>
    .op (.postProcess st.processor request.req.data) fun res =>
      .op (.send .metaFrame metaBytes) fun sent =>
        afterMetaSend { st with processor := res.1 } request.consumer res.2 sent >>= finish
  | .metaSending st request _ metaBytes payload =>
    .op (.send .metaFrame metaBytes) fun sent =>
      afterMetaSend st request.consumer payload sent >>= finish
  | .payloadSending st request _ payload =>
    .op (.send .payload payload) fun sent => afterPayloadSend st request.consumer sent >>= finish
  | .waiting st request _ => (waitForData >>= afterWait st request.consumer) >>= finish
  | .responseIn st request _ raw => afterWait st request.consumer (.ok raw) >>= finish
  | .delivering st request _ response =>
    .op (.deliver request.consumer response) fun _ => .ret (.inl st)
  | .warning st error => .op (.warn error) fun _ => .ret (.inl st)
  | .returned => .ret (.inr ())

/-- Where the task is once the id of the handler is known. -/
def afterId (st : ClientState P) (request : ClientRequest A) (id : ℕ) : Point A P :=
  match utils.toBytesMeta (metaOf request id) with
  | none => .warning st (.protocol "PacketMeta serialization failed")
  | some message => .preparing st request id message

/-- Where the task is once the name of the handler is known. -/
def afterName (st : ClientState P) (request : ClientRequest A) (name : String) : Point A P :=
  match lookupRoute st.knownRoutes name with
  | some id => afterId utils st request id
  | none =>
    match utils.toBytesReq ⟨.handlerMetaReq, name⟩ with
    | none => .warning st (.router (.protocol "serialization failed"))
    | some message => .routing st request name message

/-- Where the task is once it has taken a request. -/
def entry (st : ClientState P) (request : ClientRequest A) : Point A P :=
  match request.req.handlerInfo.id with
  | some id => afterId utils st request id
  | none =>
    match request.req.handlerInfo.named with
    | none => .warning st (.protocol "Missing handler name")
    | some name => afterName utils st request name

/-- Where the task is once it has read the answer to its question. -/
def afterAnswer (st : ClientState P) (request : ClientRequest A) (name : String)
    (response : Bytes) : Point A P :=
  match utils.accessAns response with
  | .error text => .warning st (.router (.protocol text))
  | .ok metaAns => .learning st request name metaAns.id

/-- The transition table of the client task. -/
inductive Next : Point A P → ClientEvent A P → Point A P → Prop
  | taken (st : ClientState P) (request : ClientRequest A) :
      Next (.top st) ⟨.recv, some request⟩ (entry utils st request)
  | drained (st : ClientState P) : Next (.top st) ⟨.recv, none⟩ .returned
  | asked (st : ClientState P) (request : ClientRequest A) (name : String) (message : Bytes)
      (processor : P) (wire : Bytes) :
      Next (.routing st request name message)
        ⟨.postProcess st.processor message, (processor, wire)⟩
        (.routeSending { st with processor := processor } request name wire)
  | routeSent (st : ClientState P) (request : ClientRequest A) (name : String) (wire : Bytes) :
      Next (.routeSending st request name wire) ⟨.send .route wire, .ok ()⟩
        (.routeWaiting st request name)
  | routeUnsent (st : ClientState P) (request : ClientRequest A) (name : String) (wire : Bytes)
      (kind : ErrorKind) :
      Next (.routeSending st request name wire) ⟨.send .route wire, .error kind⟩
        (.warning st (.router (.io kind)))
  | routeFrame (st : ClientState P) (request : ClientRequest A) (name : String) (raw : Bytes) :
      Next (.routeWaiting st request name) ⟨.next, some (.ok raw)⟩
        (.routeIn st request name raw)
  | routeError (st : ClientState P) (request : ClientRequest A) (name : String)
      (kind : ErrorKind) :
      Next (.routeWaiting st request name) ⟨.next, some (.error kind)⟩
        (.warning st (.router .connectionClosed))
  | routeEnd (st : ClientState P) (request : ClientRequest A) (name : String) :
      Next (.routeWaiting st request name) ⟨.next, none⟩ (.warning st (.router .connectionClosed))
  | answered (st : ClientState P) (request : ClientRequest A) (name : String) (raw : Bytes)
      (processor : P) (response : Bytes) :
      Next (.routeIn st request name raw) ⟨.preProcess st.processor raw, (processor, response)⟩
        (afterAnswer utils { st with processor := processor } request name response)
  | learned (st : ClientState P) (request : ClientRequest A) (name : String) (id : ℕ) :
      Next (.learning st request name id) ⟨.insertRoute name id, ()⟩
        (afterId utils { st with knownRoutes := rememberRoute st.knownRoutes name id } request id)
  | prepared (st : ClientState P) (request : ClientRequest A) (id : ℕ) (message : Bytes)
      (processor : P) (wire : Bytes) :
      Next (.preparing st request id message)
        ⟨.postProcess st.processor message, (processor, wire)⟩
        (.preparingData { st with processor := processor } request id wire)
  | preparedData (st : ClientState P) (request : ClientRequest A) (id : ℕ) (metaBytes : Bytes)
      (processor : P) (wire : Bytes) :
      Next (.preparingData st request id metaBytes)
        ⟨.postProcess st.processor request.req.data, (processor, wire)⟩
        (.metaSending { st with processor := processor } request id metaBytes wire)
  | metaSent (st : ClientState P) (request : ClientRequest A) (id : ℕ)
      (metaBytes payload : Bytes) :
      Next (.metaSending st request id metaBytes payload) ⟨.send .metaFrame metaBytes, .ok ()⟩
        (.payloadSending st request id payload)
  | metaUnsent (st : ClientState P) (request : ClientRequest A) (id : ℕ)
      (metaBytes payload : Bytes) (kind : ErrorKind) :
      Next (.metaSending st request id metaBytes payload)
        ⟨.send .metaFrame metaBytes, .error kind⟩ (.warning st (.io kind))
  | payloadSent (st : ClientState P) (request : ClientRequest A) (id : ℕ) (payload : Bytes) :
      Next (.payloadSending st request id payload) ⟨.send .payload payload, .ok ()⟩
        (.waiting st request id)
  | payloadUnsent (st : ClientState P) (request : ClientRequest A) (id : ℕ) (payload : Bytes)
      (kind : ErrorKind) :
      Next (.payloadSending st request id payload) ⟨.send .payload payload, .error kind⟩
        (.warning st (.io kind))
  | responseFrame (st : ClientState P) (request : ClientRequest A) (id : ℕ) (raw : Bytes) :
      Next (.waiting st request id) ⟨.next, some (.ok raw)⟩ (.responseIn st request id raw)
  | responseError (st : ClientState P) (request : ClientRequest A) (id : ℕ) (kind : ErrorKind) :
      Next (.waiting st request id) ⟨.next, some (.error kind)⟩ (.warning st (.codec kind))
  | responseEnd (st : ClientState P) (request : ClientRequest A) (id : ℕ) :
      Next (.waiting st request id) ⟨.next, none⟩ (.warning st (.protocol "Connection closed"))
  | responseRead (st : ClientState P) (request : ClientRequest A) (id : ℕ) (raw : Bytes)
      (processor : P) (response : Bytes) :
      Next (.responseIn st request id raw) ⟨.preProcess st.processor raw, (processor, response)⟩
        (.delivering { st with processor := processor } request id response)
  | delivered (st : ClientState P) (request : ClientRequest A) (id : ℕ) (response : Bytes)
      (res : Except Bytes Unit) :
      Next (.delivering st request id response) ⟨.deliver request.consumer response, res⟩ (.top st)
  | warned (st : ClientState P) (error : ClientError) :
      Next (.warning st error) ⟨.warn error, ()⟩ (.top st)

variable {utils}

theorem afterId_eq (st : ClientState P) (request : ClientRequest A) (id : ℕ) :
    sendRequest utils st request id >>= finish = (afterId utils st request id).task utils := by
  unfold sendRequest afterId
  cases utils.toBytesMeta (metaOf request id) <;> rfl

theorem afterName_eq (st : ClientState P) (request : ClientRequest A) (name : String) :
    requestRoute utils st name >>= routed utils request =
      (afterName utils st request name).task utils := by
  unfold requestRoute afterName
  cases lookupRoute st.knownRoutes name with
  | some id => exact afterId_eq st request id
  | none =>
      dsimp only
      rw [Prog.bind_assoc]
      show requestRouteFromServer utils st.processor name >>= found utils st request name = _
      unfold requestRouteFromServer
      cases utils.toBytesReq ⟨.handlerMetaReq, name⟩ <;> rfl

theorem entry_eq (st : ClientState P) (request : ClientRequest A) :
    processRequest utils st request >>= finish = (entry utils st request).task utils := by
  unfold processRequest entry
  cases request.req.handlerInfo.id with
  | some id => exact afterId_eq st request id
  | none =>
      dsimp only
      cases request.req.handlerInfo.named with
      | none => rfl
      | some name =>
          dsimp only
          rw [Prog.bind_assoc]
          exact afterName_eq st request name

theorem afterAnswer_eq (st : ClientState P) (request : ClientRequest A) (name : String)
    (response : Bytes) :
    (match utils.accessAns response with
      | .error text => (.ret (st.processor, .error (.protocol text)) :
          ClientM A P (P × Except RouterError ℕ))
      | .ok metaAns => .ret (st.processor, .ok metaAns.id)) >>= found utils st request name =
      (afterAnswer utils st request name response).task utils := by
  unfold afterAnswer
  cases utils.accessAns response <;> rfl

@[simp] theorem settle_task (pt : Point A P) :
    settle (turn utils) (pt.task utils) = pt.task utils := by
  cases pt <;> rfl

/-- Every step of the code is in the transition table. -/
theorem next_of_step {pt : Point A P} {e : ClientEvent A P}
    {task : ClientM A P (ClientState P ⊕ Unit)} (h : Step utils (pt.task utils) e task) :
    ∃ next, Next utils pt e next ∧ task = next.task utils := by
  cases pt with
  | top st =>
      obtain ⟨answer, rfl, rfl⟩ := loopStep_op.mp h
      cases answer with
      | none => exact ⟨_, .drained st, rfl⟩
      | some request =>
          refine ⟨_, .taken st request, ?_⟩
          rw [← settle_task, ← entry_eq]
          rfl
  | routing st request name message =>
      obtain ⟨⟨processor, wire⟩, rfl, rfl⟩ := loopStep_op.mp h
      exact ⟨_, .asked st request name message processor wire, rfl⟩
  | routeSending st request name wire =>
      obtain ⟨answer, rfl, rfl⟩ := loopStep_op.mp h
      match answer with
      | .ok () => exact ⟨_, .routeSent st request name wire, rfl⟩
      | .error kind => exact ⟨_, .routeUnsent st request name wire kind, rfl⟩
  | routeWaiting st request name =>
      obtain ⟨answer, rfl, rfl⟩ := loopStep_op.mp h
      match answer with
      | some (.ok raw) => exact ⟨_, .routeFrame st request name raw, rfl⟩
      | some (.error kind) => exact ⟨_, .routeError st request name kind, rfl⟩
      | none => exact ⟨_, .routeEnd st request name, rfl⟩
  | routeIn st request name raw =>
      obtain ⟨⟨processor, response⟩, rfl, rfl⟩ := loopStep_op.mp h
      refine ⟨_, .answered st request name raw processor response, ?_⟩
      rw [← settle_task, ← afterAnswer_eq]
      rfl
  | learning st request name id =>
      obtain ⟨answer, rfl, rfl⟩ := loopStep_op.mp h
      refine ⟨_, .learned st request name id, ?_⟩
      rw [← settle_task, ← afterId_eq]
      rfl
  | preparing st request id message =>
      obtain ⟨⟨processor, wire⟩, rfl, rfl⟩ := loopStep_op.mp h
      exact ⟨_, .prepared st request id message processor wire, rfl⟩
  | preparingData st request id metaBytes =>
      obtain ⟨⟨processor, wire⟩, rfl, rfl⟩ := loopStep_op.mp h
      exact ⟨_, .preparedData st request id metaBytes processor wire, rfl⟩
  | metaSending st request id metaBytes payload =>
      obtain ⟨answer, rfl, rfl⟩ := loopStep_op.mp h
      match answer with
      | .ok () => exact ⟨_, .metaSent st request id metaBytes payload, rfl⟩
      | .error kind => exact ⟨_, .metaUnsent st request id metaBytes payload kind, rfl⟩
  | payloadSending st request id payload =>
      obtain ⟨answer, rfl, rfl⟩ := loopStep_op.mp h
      match answer with
      | .ok () => exact ⟨_, .payloadSent st request id payload, rfl⟩
      | .error kind => exact ⟨_, .payloadUnsent st request id payload kind, rfl⟩
  | waiting st request id =>
      obtain ⟨answer, rfl, rfl⟩ := loopStep_op.mp h
      match answer with
      | some (.ok raw) => exact ⟨_, .responseFrame st request id raw, rfl⟩
      | some (.error kind) => exact ⟨_, .responseError st request id kind, rfl⟩
      | none => exact ⟨_, .responseEnd st request id, rfl⟩
  | responseIn st request id raw =>
      obtain ⟨⟨processor, response⟩, rfl, rfl⟩ := loopStep_op.mp h
      exact ⟨_, .responseRead st request id raw processor response, rfl⟩
  | delivering st request id response =>
      obtain ⟨answer, rfl, rfl⟩ := loopStep_op.mp h
      exact ⟨_, .delivered st request id response answer, rfl⟩
  | warning st error =>
      obtain ⟨answer, rfl, rfl⟩ := loopStep_op.mp h
      exact ⟨_, .warned st error, rfl⟩
  | returned => exact absurd h not_loopStep_ret

/-- Every entry of the transition table is a step of the code. -/
theorem step_of_next {pt next : Point A P} {e : ClientEvent A P} (h : Next utils pt e next) :
    Step utils (pt.task utils) e (next.task utils) := by
  cases h with
  | taken st request =>
      refine loopStep_op.mpr ⟨some request, rfl, ?_⟩
      rw [← settle_task, ← entry_eq]
      rfl
  | answered st request name raw processor response =>
      refine loopStep_op.mpr ⟨(processor, response), rfl, ?_⟩
      rw [← settle_task, ← afterAnswer_eq]
      rfl
  | learned st request name id =>
      refine loopStep_op.mpr ⟨(), rfl, ?_⟩
      rw [← settle_task, ← afterId_eq]
      rfl
  | _ => exact loopStep_op.mpr ⟨_, rfl, rfl⟩

/-- **The code moves as the transition table does.** -/
theorem step_task_iff {pt : Point A P} {e : ClientEvent A P}
    {task : ClientM A P (ClientState P ⊕ Unit)} :
    Step utils (pt.task utils) e task ↔ ∃ next, Next utils pt e next ∧ task = next.task utils := by
  constructor
  · exact next_of_step
  · rintro ⟨next, h, rfl⟩
    exact step_of_next h

theorem eq_returned_of_task {pt : Point A P} (h : pt.task utils = .ret (.inr ())) :
    pt = .returned := by
  have hop := congrArg Prog.awaits h
  cases pt with
  | returned => rfl
  | _ => cases hop

/-- A run of the code is a run through the transition table. -/
theorem run_points {processor : P} {tr : List (ClientEvent A P)}
    {task : ClientM A P (ClientState P ⊕ Unit)}
    (run : Run (Step utils) (connectionMain utils processor) tr task) :
    ∃ pt, Run (Next utils) (.top (initial processor)) tr pt ∧ task = pt.task utils :=
  Run.lift (f := Point.task utils) (fun _ _ _ => next_of_step) run

/-- A run through the transition table is a run of the code. -/
theorem run_of_points {start pt : Point A P} {tr : List (ClientEvent A P)}
    (run : Run (Next utils) start tr pt) :
    Run (Step utils) (start.task utils) tr (pt.task utils) :=
  run.map fun _ _ _ => step_of_next

end Client

end FourthServer
