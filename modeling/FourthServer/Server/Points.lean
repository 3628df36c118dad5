import FourthServer.Model.Connection

/-!
# Control points of the connection loop

`Point` lists the places where `handle_connection` can be suspended, together
with the variables that are live there, and `Next` is the transition table
between them: every operation of the loop with every answer appears in it once.
`step_task_iff` says that the code moves exactly as the table does, so a later
proof analyses a step of the server by cases on `Next` and never unfolds the
code.

What `serve_packet` does before it calls user code is the pure function
`dispatch`.
-/

namespace FourthServer

open Resumption Trace

namespace TfServerRouter

variable {A : App} {P : Type}

/-- What `serve_packet` does up to its first operation. -/
inductive Dispatch (A : App)
  | answered (res : Except ServerError Bytes)
  | handled (call : ServeCall A)
  | unwound

/-- The answer to a name that some peer asks the id of. -/
def answerName (utils : Utils A) (router : TfServerRouter A) (name : String) : Dispatch A :=
  match router.idOfName name with
  | some routeId =>
    match utils.toBytesAns ⟨.handlerMetaAns, routeId⟩ with
    | some bytes => .answered (.ok bytes)
    | none => .unwound
  | none => .answered (.error ⟨.noSuchHandler none⟩)

/-- `serve_packet` up to the call of a handler. -/
def dispatch (utils : Utils A) (router : TfServerRouter A) (metaData payload : Bytes)
    (addr : SocketAddr) (routeTx : Option Sender) : Dispatch A :=
  match utils.accessMeta metaData with
  | .ok metaPack =>
    match router.deserialize metaPack.sTypeReq with
    | none => .unwound
    | some sType =>
      match router.routeOf utils ⟨{sType}, metaPack.handlerId⟩ with
      | none => .answered (.error ⟨.noSuchHandler none⟩)
      | some handler =>
        .handled ⟨handler.serve, handler.state, addr, routeTx, sType, payload⟩
  | .error _ =>
    match utils.accessReq metaData with
    | .ok metaReq => router.answerName utils metaReq.handlerName
    | .error _ => .answered (.error ⟨.malformedMetaInfo none⟩)

/-- What `serve_packet` returns for the outcome of a handler, unless it unwinds. -/
def outcomeServed : ServeOutcome A → Option Served
  | .unwound => none
  | .finished (.ok data) returnedTx _ => some (.ok data, returnedTx)
  | .finished (.error err) returnedTx _ =>
    some (.error ⟨.internalError (some err)⟩, returnedTx)
  | .panicked _ => some (.error ⟨.internalError (some handlerDied)⟩, none)

theorem servePacket_eq (utils : Utils A) (router : TfServerRouter A) (metaData payload : Bytes)
    (addr : SocketAddr) (routeTx : Option Sender) :
    servePacket (P := P) utils router metaData payload addr routeTx =
      match dispatch utils router metaData payload addr routeTx with
      | .answered res => .ret (res, routeTx)
      | .handled call => .op (.serve call) afterServe
      | .unwound => ServerM.unwind := by
  unfold servePacket dispatch answerName
  cases utils.accessMeta metaData with
  | ok metaPack =>
      dsimp only
      cases router.deserialize metaPack.sTypeReq with
      | none => rfl
      | some sType =>
          dsimp only
          cases router.routeOf utils ⟨{sType}, metaPack.handlerId⟩ <;> rfl
  | error text =>
      dsimp only
      cases utils.accessReq metaData with
      | error text => rfl
      | ok metaReq =>
          dsimp only
          cases router.idOfName metaReq.handlerName with
          | none => rfl
          | some routeId =>
              dsimp only
              cases utils.toBytesAns ⟨.handlerMetaAns, routeId⟩ <;> rfl

theorem afterServe_eq (outcome : ServeOutcome A) :
    afterServe (P := P) outcome =
      match outcomeServed outcome with
      | some served => .ret served
      | none => ServerM.unwind := by
  cases outcome with
  | unwound => rfl
  | panicked sent => rfl
  | finished data routeTx sent => cases data <;> rfl

/-- A handler is called with the sender and the payload `serve_packet` was given. -/
theorem dispatch_handled {utils : Utils A} {router : TfServerRouter A}
    {metaData payload : Bytes} {addr : SocketAddr} {routeTx : Option Sender} {call : ServeCall A}
    (h : dispatch utils router metaData payload addr routeTx = .handled call) :
    call.routeTx = routeTx ∧ call.data = payload ∧ call.addr = addr := by
  unfold dispatch answerName at h
  repeat' split at h
  all_goals first
    | cases h; exact ⟨rfl, rfl, rfl⟩
    | cases h

end TfServerRouter

namespace Connection

open TfServerRouter

variable {A : App} {P : Type}

/-- The places where a connection task can be. -/
inductive Point (A : App) (P : Type)
  /-- At `stream.next()` for a meta frame. -/
  | top (st : ConnectionState P)
  | metaIn (st : ConnectionState P) (raw : Bytes)
  /-- At `stream.next()` for the payload of a meta frame. -/
  | payloadWait (st : ConnectionState P) (metaData : Bytes)
  | payloadIn (st : ConnectionState P) (metaData raw : Bytes)
  /-- About to call `serve_packet`. -/
  | calling (st : ConnectionState P) (metaData payload : Bytes)
  | serving (st : ConnectionState P) (call : ServeCall A)
  /-- About to post-process a reply. -/
  | replying (st : ConnectionState P) (message : Bytes)
  | sending (st : ConnectionState P) (wire : Bytes)
  /-- At `try_recv`, with the result of the send. -/
  | checking (st : ConnectionState P) (sent : Except ErrorKind Unit)
  | accepting (call : AcceptCall A P)
  | closing
  | returned
  | unwound

variable (utils : Utils A) (router : TfServerRouter A) (addr : SocketAddr)

/-- The task at a control point. -/
def Point.task : Point A P → ServerM A P (ConnectionState P ⊕ Unit)
  | .top st => turn utils router addr st
  | .metaIn st raw =>
    .op (.preProcess st.processor raw) fun res =>
      afterMeta utils router addr { st with processor := res.1 } (.ok (some res.2))
  | .payloadWait st metaData =>
    receiveMessage st.processor >>= fun res =>
      afterPayload utils router addr { st with processor := res.1 } metaData res.2
  | .payloadIn st metaData raw =>
    .op (.preProcess st.processor raw) fun res =>
      afterPayload utils router addr { st with processor := res.1 } metaData (.ok (some res.2))
  | .calling st metaData payload => serveAndReply utils router addr st metaData payload
  | .serving st call => .op (.serve call) fun outcome => afterServe outcome >>= reply utils addr st
  | .replying st message =>
    .op (.postProcess st.processor message) fun res =>
      .op (.send res.2) fun sent => conclude addr { st with processor := res.1 } sent
  | .sending st wire => .op (.send wire) fun sent => conclude addr st sent
  | .checking st sent => conclude addr st sent
  | .accepting call => .op (.accept call) fun _ => .ret (.inr ())
  | .closing => .op .close fun _ => .ret (.inr ())
  | .returned => .ret (.inr ())
  | .unwound => ServerM.unwind

/-- Where the loop is once `serve_packet` has returned. -/
def afterServed (st : ConnectionState P) (served : Served) : Point A P :=
  match replyMessage utils served.1 with
  | none => .unwound
  | some message => .replying { st with moveTx := served.2 } message

/-- Where the loop is once `serve_packet` has been called. -/
def afterDispatch (st : ConnectionState P) : Dispatch A → Point A P
  | .answered res => afterServed utils st (res, st.moveTx)
  | .handled call => .serving st call
  | .unwound => .unwound

/-- Where the loop is once a handler has come to its outcome. -/
def afterOutcome (st : ConnectionState P) (outcome : ServeOutcome A) : Point A P :=
  match outcomeServed outcome with
  | some served => afterServed utils st served
  | none => .unwound

/-- The transition table of the connection loop. -/
inductive Next : Point A P → ServerEvent A P → Point A P → Prop
  | metaFrame (st : ConnectionState P) (raw : Bytes) :
      Next (.top st) ⟨.next, some (.ok raw)⟩ (.metaIn st raw)
  | metaGone (st : ConnectionState P) (kind : ErrorKind) (gone : disconnected kind = true) :
      Next (.top st) ⟨.next, some (.error kind)⟩ .closing
  | metaError (st : ConnectionState P) (kind : ErrorKind) (stays : disconnected kind = false) :
      Next (.top st) ⟨.next, some (.error kind)⟩ (.top st)
  | metaEnd (st : ConnectionState P) : Next (.top st) ⟨.next, none⟩ .closing
  | announced (st : ConnectionState P) (raw : Bytes) (processor : P) (metaData : Bytes)
      (more : hasPayload utils metaData = true) :
      Next (.metaIn st raw) ⟨.preProcess st.processor raw, (processor, metaData)⟩
        (.payloadWait { st with processor := processor } metaData)
  | alone (st : ConnectionState P) (raw : Bytes) (processor : P) (metaData : Bytes)
      (more : hasPayload utils metaData = false) :
      Next (.metaIn st raw) ⟨.preProcess st.processor raw, (processor, metaData)⟩
        (.calling { st with processor := processor } metaData [])
  | payloadFrame (st : ConnectionState P) (metaData raw : Bytes) :
      Next (.payloadWait st metaData) ⟨.next, some (.ok raw)⟩ (.payloadIn st metaData raw)
  | payloadGone (st : ConnectionState P) (metaData : Bytes) (kind : ErrorKind)
      (gone : disconnected kind = true) :
      Next (.payloadWait st metaData) ⟨.next, some (.error kind)⟩ .closing
  | payloadError (st : ConnectionState P) (metaData : Bytes) (kind : ErrorKind)
      (stays : disconnected kind = false) :
      Next (.payloadWait st metaData) ⟨.next, some (.error kind)⟩ (.top st)
  | payloadEnd (st : ConnectionState P) (metaData : Bytes) :
      Next (.payloadWait st metaData) ⟨.next, none⟩ .closing
  | payloadRead (st : ConnectionState P) (metaData raw : Bytes) (processor : P)
      (payload : Bytes) :
      Next (.payloadIn st metaData raw) ⟨.preProcess st.processor raw, (processor, payload)⟩
        (.calling { st with processor := processor } metaData payload)
  | called (st : ConnectionState P) (metaData payload : Bytes) :
      Next (.calling st metaData payload) ⟨.servePacket metaData payload, ()⟩
        (afterDispatch utils st (dispatch utils router metaData payload addr st.moveTx))
  | served (st : ConnectionState P) (call : ServeCall A) (outcome : ServeOutcome A) :
      Next (.serving st call) ⟨.serve call, outcome⟩ (afterOutcome utils st outcome)
  | processed (st : ConnectionState P) (message : Bytes) (processor : P) (wire : Bytes) :
      Next (.replying st message) ⟨.postProcess st.processor message, (processor, wire)⟩
        (.sending { st with processor := processor } wire)
  | sent (st : ConnectionState P) (wire : Bytes) (res : Except ErrorKind Unit) :
      Next (.sending st wire) ⟨.send wire, res⟩ (.checking st res)
  | handedOver (st : ConnectionState P) (res : Except ErrorKind Unit) (value : Accept A) :
      Next (.checking st res) ⟨.tryRecv st.moveRx, some value⟩
        (.accepting ⟨value.1, value.2, addr, st.processor⟩)
  | senderGone (st : ConnectionState P) (res : Except ErrorKind Unit) (gone : st.moveTx = none) :
      Next (.checking st res) ⟨.tryRecv st.moveRx, none⟩ .closing
  | sendFailed (st : ConnectionState P) (kind : ErrorKind) (kept : st.moveTx.isSome) :
      Next (.checking st (.error kind)) ⟨.tryRecv st.moveRx, none⟩ .returned
  | again (st : ConnectionState P) (kept : st.moveTx.isSome) :
      Next (.checking st (.ok ())) ⟨.tryRecv st.moveRx, none⟩ (.top st)
  | accepted (call : AcceptCall A P) : Next (.accepting call) ⟨.accept call, ()⟩ .returned
  | closed : Next .closing ⟨.close, ()⟩ .returned

variable {utils router addr}

theorem unwind_bind {α β : Type} (f : α → ServerM A P β) :
    ((ServerM.unwind : ServerM A P α) >>= f) = ServerM.unwind := by
  show Prog.op _ _ = Prog.op _ _
  congr
  funext answer
  exact nomatch answer

theorem reply_eq (st : ConnectionState P) (served : Served) :
    reply utils addr st served = (afterServed utils st served).task utils router addr := by
  unfold reply afterServed
  cases replyMessage utils served.1 <;> rfl

theorem servePacket_reply_eq (st : ConnectionState P) (metaData payload : Bytes) :
    (router.servePacket utils metaData payload addr st.moveTx >>= reply utils addr st) =
      (afterDispatch utils st (dispatch utils router metaData payload addr st.moveTx)).task
        utils router addr := by
  rw [servePacket_eq]
  cases dispatch utils router metaData payload addr st.moveTx with
  | answered res => exact reply_eq st _
  | handled call => rfl
  | unwound => exact unwind_bind _

theorem afterServe_reply_eq (st : ConnectionState P) (outcome : ServeOutcome A) :
    (afterServe outcome >>= reply utils addr st) =
      (afterOutcome utils st outcome).task utils router addr := by
  rw [afterServe_eq]
  unfold afterOutcome
  cases outcomeServed outcome with
  | none => exact unwind_bind _
  | some served => exact reply_eq st served

@[simp] theorem settle_task (pt : Point A P) :
    settle (turn utils router addr) (pt.task utils router addr) = pt.task utils router addr := by
  cases pt <;> rfl

theorem settle_afterTryRecv_gone (st : ConnectionState P) (sent : Except ErrorKind Unit)
    (gone : st.moveTx = none) :
    settle (turn utils router addr) (afterTryRecv addr st sent none) =
      Point.closing.task utils router addr := by
  simp only [afterTryRecv, gone, Option.isNone_none, if_true]
  rfl

theorem settle_afterTryRecv_failed (st : ConnectionState P) (kind : ErrorKind)
    (kept : st.moveTx.isSome) :
    settle (turn utils router addr) (afterTryRecv addr st (.error kind) none) =
      Point.returned.task utils router addr := by
  simp only [afterTryRecv, Option.isNone_eq_false_iff.mpr kept, Bool.false_eq_true, if_false]
  rfl

theorem settle_afterTryRecv_ok (st : ConnectionState P) (kept : st.moveTx.isSome) :
    settle (turn utils router addr) (afterTryRecv addr st (.ok ()) none) =
      (Point.top st).task utils router addr := by
  simp only [afterTryRecv, Option.isNone_eq_false_iff.mpr kept, Bool.false_eq_true, if_false]
  rfl

/-- Every step of the code is in the transition table. -/
theorem next_of_step {pt : Point A P} {e : ServerEvent A P}
    {task : ServerM A P (ConnectionState P ⊕ Unit)}
    (h : Step utils router addr (pt.task utils router addr) e task) :
    ∃ next, Next utils router addr pt e next ∧ task = next.task utils router addr := by
  cases pt with
  | top st =>
      obtain ⟨answer, rfl, rfl⟩ := loopStep_op.mp h
      match answer with
      | some (.ok raw) => exact ⟨_, .metaFrame st raw, rfl⟩
      | none => exact ⟨_, .metaEnd st, rfl⟩
      | some (.error kind) =>
          -- only an error that means a lost connection ends the loop
          show ∃ next, _ ∧
            settle _ (afterMeta utils router addr st (.error (disconnected kind))) = _
          cases hkind : disconnected kind with
          | true => exact ⟨_, .metaGone st kind hkind, rfl⟩
          | false => exact ⟨_, .metaError st kind hkind, rfl⟩
  | metaIn st raw =>
      obtain ⟨⟨processor, metaData⟩, rfl, rfl⟩ := loopStep_op.mp h
      show ∃ next, _ ∧ settle _ (if hasPayload utils metaData then _ else _) = _
      cases hmore : hasPayload utils metaData with
      | true => exact ⟨_, .announced st raw processor metaData hmore, rfl⟩
      | false => exact ⟨_, .alone st raw processor metaData hmore, rfl⟩
  | payloadWait st metaData =>
      obtain ⟨answer, rfl, rfl⟩ := loopStep_op.mp h
      match answer with
      | some (.ok raw) => exact ⟨_, .payloadFrame st metaData raw, rfl⟩
      | none => exact ⟨_, .payloadEnd st metaData, rfl⟩
      | some (.error kind) =>
          show ∃ next, _ ∧
            settle _ (afterPayload utils router addr st metaData (.error (disconnected kind))) = _
          cases hkind : disconnected kind with
          | true => exact ⟨_, .payloadGone st metaData kind hkind, rfl⟩
          | false => exact ⟨_, .payloadError st metaData kind hkind, rfl⟩
  | payloadIn st metaData raw =>
      obtain ⟨⟨processor, payload⟩, rfl, rfl⟩ := loopStep_op.mp h
      exact ⟨_, .payloadRead st metaData raw processor payload, rfl⟩
  | calling st metaData payload =>
      obtain ⟨answer, rfl, rfl⟩ := loopStep_op.mp h
      refine ⟨_, .called st metaData payload, ?_⟩
      rw [← settle_task, ← servePacket_reply_eq]
      rfl
  | serving st call =>
      obtain ⟨outcome, rfl, rfl⟩ := loopStep_op.mp h
      exact ⟨_, .served st call outcome,
        (congrArg (settle _) (afterServe_reply_eq st outcome)).trans (settle_task _)⟩
  | replying st message =>
      obtain ⟨⟨processor, wire⟩, rfl, rfl⟩ := loopStep_op.mp h
      exact ⟨_, .processed st message processor wire, rfl⟩
  | sending st wire =>
      obtain ⟨res, rfl, rfl⟩ := loopStep_op.mp h
      exact ⟨_, .sent st wire res, rfl⟩
  | checking st sent =>
      obtain ⟨answer, rfl, rfl⟩ := loopStep_op.mp h
      match answer with
      | some value => exact ⟨_, .handedOver st sent value, rfl⟩
      | none =>
          cases htx : st.moveTx with
          | none => exact ⟨_, .senderGone st sent htx, settle_afterTryRecv_gone st sent htx⟩
          | some tx =>
              have kept : st.moveTx.isSome := by simp [htx]
              match sent with
              | .error kind =>
                  exact ⟨_, .sendFailed st kind kept, settle_afterTryRecv_failed st kind kept⟩
              | .ok () => exact ⟨_, .again st kept, settle_afterTryRecv_ok st kept⟩
  | accepting call =>
      obtain ⟨answer, rfl, rfl⟩ := loopStep_op.mp h
      exact ⟨_, .accepted call, rfl⟩
  | closing =>
      obtain ⟨answer, rfl, rfl⟩ := loopStep_op.mp h
      exact ⟨_, .closed, rfl⟩
  | returned => exact absurd h not_loopStep_ret
  | unwound =>
      obtain ⟨answer, rfl, rfl⟩ := loopStep_op.mp h
      exact nomatch answer

theorem afterMeta_read (st : ConnectionState P) (metaData : Bytes) :
    afterMeta utils router addr st (.ok (some metaData)) =
      (if hasPayload utils metaData then Point.payloadWait st metaData
        else .calling st metaData []).task utils router addr := by
  show (if hasPayload utils metaData then _ else _) = _
  split <;> rfl

/-- Every entry of the transition table is a step of the code. -/
theorem step_of_next {pt next : Point A P} {e : ServerEvent A P}
    (h : Next utils router addr pt e next) :
    Step utils router addr (pt.task utils router addr) e (next.task utils router addr) := by
  cases h with
  | metaFrame st raw => exact loopStep_op.mpr ⟨some (.ok raw), rfl, rfl⟩
  | metaGone st kind gone =>
      refine loopStep_op.mpr ⟨some (.error kind), rfl, ?_⟩
      show _ = settle _ (afterMeta utils router addr st (.error (disconnected kind)))
      rw [gone]
      rfl
  | metaError st kind stays =>
      refine loopStep_op.mpr ⟨some (.error kind), rfl, ?_⟩
      show _ = settle _ (afterMeta utils router addr st (.error (disconnected kind)))
      rw [stays]
      rfl
  | metaEnd st => exact loopStep_op.mpr ⟨none, rfl, rfl⟩
  | announced st raw processor metaData more =>
      refine loopStep_op.mpr ⟨(processor, metaData), rfl, ?_⟩
      rw [afterMeta_read, settle_task, if_pos more]
  | alone st raw processor metaData more =>
      refine loopStep_op.mpr ⟨(processor, metaData), rfl, ?_⟩
      rw [afterMeta_read, settle_task, if_neg (by simp [more])]
  | payloadFrame st metaData raw => exact loopStep_op.mpr ⟨some (.ok raw), rfl, rfl⟩
  | payloadGone st metaData kind gone =>
      refine loopStep_op.mpr ⟨some (.error kind), rfl, ?_⟩
      show _ = settle _ (afterPayload utils router addr st metaData (.error (disconnected kind)))
      rw [gone]
      rfl
  | payloadError st metaData kind stays =>
      refine loopStep_op.mpr ⟨some (.error kind), rfl, ?_⟩
      show _ = settle _ (afterPayload utils router addr st metaData (.error (disconnected kind)))
      rw [stays]
      rfl
  | payloadEnd st metaData => exact loopStep_op.mpr ⟨none, rfl, rfl⟩
  | payloadRead st metaData raw processor payload =>
      exact loopStep_op.mpr ⟨(processor, payload), rfl, rfl⟩
  | called st metaData payload =>
      refine loopStep_op.mpr ⟨(), rfl, ?_⟩
      rw [← settle_task, ← servePacket_reply_eq]
      rfl
  | served st call outcome =>
      refine loopStep_op.mpr ⟨outcome, rfl, ?_⟩
      rw [afterServe_reply_eq, settle_task]
  | processed st message processor wire => exact loopStep_op.mpr ⟨(processor, wire), rfl, rfl⟩
  | sent st wire res => exact loopStep_op.mpr ⟨res, rfl, (settle_task (.checking st res)).symm⟩
  | handedOver st res value => exact loopStep_op.mpr ⟨some value, rfl, rfl⟩
  | senderGone st res gone =>
      exact loopStep_op.mpr ⟨none, rfl, (settle_afterTryRecv_gone st res gone).symm⟩
  | sendFailed st kind kept =>
      exact loopStep_op.mpr ⟨none, rfl, (settle_afterTryRecv_failed st kind kept).symm⟩
  | again st kept => exact loopStep_op.mpr ⟨none, rfl, (settle_afterTryRecv_ok st kept).symm⟩
  | accepted call => exact loopStep_op.mpr ⟨(), rfl, rfl⟩
  | closed => exact loopStep_op.mpr ⟨(), rfl, rfl⟩

/-- **The code moves as the transition table does.** -/
theorem step_task_iff {pt : Point A P} {e : ServerEvent A P}
    {task : ServerM A P (ConnectionState P ⊕ Unit)} :
    Step utils router addr (pt.task utils router addr) e task ↔
      ∃ next, Next utils router addr pt e next ∧ task = next.task utils router addr := by
  constructor
  · exact next_of_step
  · rintro ⟨next, h, rfl⟩
    exact step_of_next h

/-- A run of the code is a run through the transition table. -/
theorem points_of_run {start : Point A P} {tr : List (ServerEvent A P)}
    {task : ServerM A P (ConnectionState P ⊕ Unit)}
    (run : Run (Step utils router addr) (start.task utils router addr) tr task) :
    ∃ pt, Run (Next utils router addr) start tr pt ∧ task = pt.task utils router addr :=
  Run.lift (f := Point.task utils router addr) (fun _ _ _ => next_of_step) run

theorem run_points {processor : P} {channel : ℕ} {tr : List (ServerEvent A P)}
    {task : ServerM A P (ConnectionState P ⊕ Unit)}
    (run : Run (Step utils router addr) (handleConnection utils router addr processor channel)
      tr task) :
    ∃ pt, Run (Next utils router addr) (.top (initial processor channel)) tr pt ∧
      task = pt.task utils router addr :=
  points_of_run run

/-- A run through the transition table is a run of the code. -/
theorem run_of_points {start pt : Point A P} {tr : List (ServerEvent A P)}
    (run : Run (Next utils router addr) start tr pt) :
    Run (Step utils router addr) (start.task utils router addr) tr
      (pt.task utils router addr) :=
  run.map fun _ _ _ => step_of_next

end Connection

end FourthServer
