import FourthServer.Model.Reference
import FourthServer.Server.Tally

/-!
# Reply discipline

While handlers give back the sender they got, the connection loop has two kinds
of moments at which nothing is owed except possibly one unsent reply: when it
polls the stream and when it has returned.  `Disciplined` states the account at
these moments and at each call of `serve_packet`, so that between two polls or
calls at most the one packet between them was served and answered.
-/

namespace FourthServer

open Resumption Trace

namespace Connection

open TfServerRouter

variable {A : App} {P : Type}

/-- The number of packets that are being worked on. -/
def Owed.packets (owed : Owed A) : ℕ :=
  owed.uncalled.length + owed.unreplied.length + owed.unattempted.length

/-- When the stream is polled, every frame was read, every packet served, and
one reply given to `send` and sent for each. -/
def pollLaw (utils : Utils A) (router : TfServerRouter A) (addr : SocketAddr)
    (before : List (ServerEvent A P)) : ServerEvent A P → Prop
  | ⟨.next, _⟩ => Tally utils router addr before {}
  | _ => True

/-- When a packet is passed to `serve_packet`, it is the last of the packets
received, and each earlier one has been served and its one reply sent. -/
def callLaw (utils : Utils A) (router : TfServerRouter A) (addr : SocketAddr)
    (before : List (ServerEvent A P)) : ServerEvent A P → Prop
  | ⟨.servePacket metaData payload, _⟩ =>
      Tally utils router addr before { uncalled := [(metaData, payload)] } ∧
        awaited utils (frames before) = none
  | _ => True

/-- The history of a loop that answers each packet once, before it reads on. -/
structure Disciplined (utils : Utils A) (router : TfServerRouter A) (addr : SocketAddr)
    (tr : List (ServerEvent A P)) (task : ServerM A P (ConnectionState P ⊕ Unit)) : Prop where
  /-- At every moment at most one packet is being worked on. -/
  account : ∃ owed : Owed A, Tally utils router addr tr owed ∧ owed.packets ≤ 1
  polling : Along (pollLaw utils router addr) tr
  calling : Along (callLaw utils router addr) tr
  /-- The loop returns with no more than one reply unsent. -/
  returned : task = .ret (.inr ()) →
    ∃ lost, lost.length ≤ 1 ∧ Tally utils router addr tr { unsent := lost }
  /-- The loop does not panic. -/
  alive : task ≠ ServerM.unwind

variable {utils : Utils A} {router : TfServerRouter A} {addr : SocketAddr}
  {tr : List (ServerEvent A P)} {pt next : Point A P} {e : ServerEvent A P}

/-! ## Panics -/

theorem replyMessage_ne_none (htotal : utils.Total) (res : Except ServerError Bytes) :
    replyMessage utils res ≠ none := by
  cases res with
  | ok data => simp [replyMessage]
  | error err =>
      obtain ⟨bytes, hbytes⟩ := htotal.errBytes err
      simp [replyMessage, hbytes]

theorem afterServed_ne_unwound (htotal : utils.Total) (st : ConnectionState P) (served : Served) :
    afterServed (A := A) utils st served ≠ .unwound := by
  unfold afterServed
  cases h : replyMessage utils served.1 with
  | none => exact absurd h (replyMessage_ne_none htotal _)
  | some message => simp

theorem answerName_ne_unwound (htotal : utils.Total) (name : String) :
    router.answerName utils name ≠ .unwound := by
  unfold answerName
  cases router.idOfName name with
  | none => simp
  | some routeId =>
      obtain ⟨bytes, hbytes⟩ := htotal.ansBytes ⟨.handlerMetaAns, routeId⟩
      simp [hbytes]

/-- The deserialise function does not panic on the structure type that a meta frame
asks for. -/
def ReadsMeta (utils : Utils A) (router : TfServerRouter A) (metaData : Bytes) : Prop :=
  ∀ packet, utils.accessMeta metaData = .ok packet → router.deserialize packet.sTypeReq ≠ none

/-- Only the structure-type deserialise function can make `serve_packet` unwind
before it calls a handler. -/
theorem dispatch_ne_unwound (htotal : utils.Total) {metaData : Bytes}
    (hreads : ReadsMeta utils router metaData) (payload : Bytes) (routeTx : Option Sender) :
    router.dispatch utils metaData payload addr routeTx ≠ .unwound := by
  unfold dispatch
  cases hread : utils.accessMeta metaData with
  | ok metaPack =>
      cases hs : router.deserialize metaPack.sTypeReq with
      | none => exact absurd hs (hreads metaPack hread)
      | some sType =>
          simp only [hs]
          split <;> simp
  | error text =>
      dsimp only
      cases utils.accessReq metaData with
      | error text => simp
      | ok metaReq => exact answerName_ne_unwound htotal _

theorem afterDispatch_ne_unwound (htotal : utils.Total)
    (hdeserialize : ∀ number, router.deserialize number ≠ none) (st : ConnectionState P)
    (metaData payload : Bytes) :
    afterDispatch utils st (router.dispatch utils metaData payload addr st.moveTx) ≠ .unwound := by
  cases h : router.dispatch utils metaData payload addr st.moveTx with
  | answered res => exact afterServed_ne_unwound htotal st _
  | handled call => simp [afterDispatch]
  | unwound => exact absurd h (dispatch_ne_unwound htotal (fun _ _ => hdeserialize _) _ _)

/-- The loop unwinds only where a handler panics before it returns its future. -/
theorem next_ne_unwound (htotal : utils.Total)
    (hdeserialize : ∀ number, router.deserialize number ≠ none)
    (hnext : Next utils router addr pt e next)
    (hfuture : ∀ call, e ≠ ⟨.serve call, .unwound⟩) : next ≠ .unwound := by
  cases hnext with
  | called st metaData payload => exact afterDispatch_ne_unwound htotal hdeserialize st _ _
  | served st call outcome =>
      cases outcome with
      | unwound => exact absurd rfl (hfuture call)
      | panicked sent => exact afterServed_ne_unwound htotal st _
      | finished data routeTx sent =>
          unfold afterOutcome
          cases data <;> exact afterServed_ne_unwound htotal st _
  | _ => simp

/-! ## Where the loop is -/

theorem task_ne_unwind (h : pt ≠ .unwound) : pt.task utils router addr ≠ ServerM.unwind := by
  intro htask
  have hop := congrArg Prog.awaits htask
  cases pt with
  | unwound => exact h rfl
  | _ => cases hop

theorem eq_unwound_of_task (h : pt.task utils router addr = ServerM.unwind) : pt = .unwound := by
  by_contra hne
  exact task_ne_unwind hne h

theorem eq_returned_of_task (h : pt.task utils router addr = .ret (.inr ())) :
    pt = .returned := by
  have hop := congrArg Prog.awaits h
  cases pt with
  | returned => rfl
  | _ => cases hop

theorem At.account (h : At utils router addr tr pt) :
    ∃ owed : Owed A, Tally utils router addr tr owed ∧ owed.packets ≤ 1 := by
  cases h with
  | top tally ready => exact ⟨_, tally, by simp [Owed.packets]⟩
  | metaIn tally ready => exact ⟨_, tally, by simp [Owed.packets]⟩
  | payloadWait tally head => exact ⟨_, tally, by simp [Owed.packets]⟩
  | payloadIn tally head => exact ⟨_, tally, by simp [Owed.packets]⟩
  | calling tally ready => exact ⟨_, tally, by simp [Owed.packets]⟩
  | serving packet tally ready handled => exact ⟨_, tally, by simp [Owed.packets]⟩
  | replying round tally ready valid => exact ⟨_, tally, by simp [Owed.packets]⟩
  | sending tally ready => exact ⟨_, tally, by simp [Owed.packets]⟩
  | sent tally ready => exact ⟨_, tally, by simp [Owed.packets]⟩
  | unsent wire tally => exact ⟨_, tally, by simp [Owed.packets]⟩
  | accepting lost hlost tally => exact ⟨_, tally, by simp [Owed.packets]⟩
  | closing lost hlost tally => exact ⟨_, tally, by simp [Owed.packets]⟩
  | returned lost hlost tally => exact ⟨_, tally, by simp [Owed.packets]⟩
  | unwound packet handled tally => exact ⟨_, tally, by simp [Owed.packets]⟩

theorem next_pollLaw (h : At utils router addr tr pt) (hnext : Next utils router addr pt e next) :
    pollLaw utils router addr tr e := by
  cases hnext with
  | metaFrame | metaGone | metaError | metaEnd =>
      cases h with
      | top tally ready => exact tally
  | payloadFrame | payloadGone | payloadError | payloadEnd =>
      cases h with
      | payloadWait tally head => exact tally
  | _ => trivial

theorem next_callLaw (h : At utils router addr tr pt) (hnext : Next utils router addr pt e next) :
    callLaw utils router addr tr e := by
  cases hnext with
  | called st =>
      cases h with
      | calling tally ready => exact ⟨tally, ready⟩
  | _ => trivial

/-- The loop keeps to the discipline as long as the stream is framed. -/
theorem run_laws {st : ConnectionState P} (run : Run (Next utils router addr) (.top st) tr pt)
    (hframed : Along framedLaw tr) :
    Along (pollLaw utils router addr) tr ∧ Along (callLaw utils router addr) tr := by
  induction run with
  | nil => exact ⟨along_nil, along_nil⟩
  | snoc hrun hnext ih =>
      obtain ⟨hbefore, -⟩ := along_snoc.mp hframed
      obtain ⟨hpolls, hcalls⟩ := ih hbefore
      have hat := run_at hrun hbefore
      exact ⟨along_snoc.mpr ⟨hpolls, next_pollLaw hat hnext⟩,
        along_snoc.mpr ⟨hcalls, next_callLaw hat hnext⟩⟩

theorem run_ne_unwound (htotal : utils.Total)
    (hdeserialize : ∀ number, router.deserialize number ≠ none) {st : ConnectionState P}
    (run : Run (Next utils router addr) (.top st) tr pt) (hreturns : Along returnsSender tr) :
    pt ≠ .unwound := by
  refine run.invariant_along (I := fun _ pt => pt ≠ .unwound) (by simp) ?_ hreturns
  intro tr pt e next _ hnext hlaw
  refine next_ne_unwound htotal hdeserialize hnext ?_
  rintro call rfl
  obtain ⟨data, hdata⟩ := hlaw
  cases hdata

/-- **Reply discipline.**  Whatever the stream yields, whatever becomes of the
sends, and whatever the router holds, the connection loop passes exactly the
packets of the frames it has received to `serve_packet`, and gives one reply for
each of them to `send` before it reads on; a packet whose reply is not sent, or
whose payload does not come, is the last one. -/
theorem handleConnection_disciplined (htotal : utils.Total)
    (hdeserialize : ∀ number, router.deserialize number ≠ none) {processor : P} {channel : ℕ}
    {task : ServerM A P (ConnectionState P ⊕ Unit)}
    (run : Run (Step utils router addr) (handleConnection utils router addr processor channel)
      tr task)
    (hframed : Along framedLaw tr) (hreturns : Along returnsSender tr) :
    Disciplined utils router addr tr task := by
  obtain ⟨pt, hrun, rfl⟩ := run_points run
  have hat := run_at hrun hframed
  obtain ⟨hpolls, hcalls⟩ := run_laws hrun hframed
  refine ⟨hat.account, hpolls, hcalls, ?_, ?_⟩
  · intro htask
    cases eq_returned_of_task htask
    cases hat with
    | returned lost hlost tally => exact ⟨lost, hlost, tally⟩
  · exact task_ne_unwind (run_ne_unwound htotal hdeserialize hrun hreturns)

section Example

open Reference

/-- A packet without a payload, served and answered. -/
def echoRound : List (ServerEvent app Unit) :=
  [⟨.next, some (.ok echoFrame)⟩, ⟨.preProcess () echoFrame, ((), echoFrame)⟩,
    ⟨.servePacket echoFrame [], ()⟩, ⟨.serve echoCall, .finished (.ok [7]) (some ⟨0⟩) none⟩,
    ⟨.postProcess () [7], ((), [7])⟩, ⟨.send [7], .ok ()⟩, ⟨.tryRecv 0, none⟩]

/-- A meta frame that announces a payload for the handler `"echo"`. -/
def announcingFrame : Bytes := metaBytes ⟨.packetMeta, 1, 0, true⟩

/-- A packet with a payload, served and answered with an error. -/
def payloadRound : List (ServerEvent app Unit) :=
  [⟨.next, some (.ok announcingFrame)⟩, ⟨.preProcess () announcingFrame, ((), announcingFrame)⟩,
    ⟨.next, some (.ok [5])⟩, ⟨.preProcess () [5], ((), [5])⟩,
    ⟨.servePacket announcingFrame [5], ()⟩,
    ⟨.serve { echoCall with data := [5] }, .finished (.error [6]) (some ⟨0⟩) none⟩,
    ⟨.postProcess () (errBytes ⟨.internalError (some [6])⟩), ((), [8])⟩, ⟨.send [8], .ok ()⟩,
    ⟨.tryRecv 0, none⟩]

/-- The stream comes to an error, and the loop closes the connection. -/
def brokenEnd : List (ServerEvent app Unit) :=
  [⟨.next, some (.error .invalidData)⟩, ⟨.next, none⟩, ⟨.close, ()⟩]

theorem echoRound_run :
    Run (Next Reference.utils Reference.router ⟨0, 0⟩) (.top (initial () 0)) echoRound
      (.top (initial () 0)) :=
  Run.cons (.metaFrame _ _) <| Run.cons (.alone _ _ _ _ rfl) <| Run.cons (.called _ _ _) <|
    Run.cons (.served _ echoCall _) <| Run.cons (.processed _ _ _ _) <| Run.cons (.sent _ _ _) <|
    Run.cons (.again _ rfl) Run.nil

theorem payloadRound_run :
    Run (Next Reference.utils Reference.router ⟨0, 0⟩) (.top (initial () 0)) payloadRound
      (.top (initial () 0)) :=
  Run.cons (.metaFrame _ _) <| Run.cons (.announced _ _ _ _ rfl) <|
    Run.cons (.payloadFrame _ _ _) <| Run.cons (.payloadRead _ _ _ _ _) <|
    Run.cons (.called _ _ _) <| Run.cons (.served _ { echoCall with data := [5] } _) <|
    Run.cons (.processed _ _ _ _) <| Run.cons (.sent _ _ _) <| Run.cons (.again _ rfl) Run.nil

theorem brokenEnd_run :
    Run (Next Reference.utils Reference.router ⟨0, 0⟩) (.top (initial () 0)) brokenEnd .returned :=
  Run.cons (.metaError _ _ rfl) <| Run.cons (.metaEnd _) <| Run.single .closed

theorem brokenEnd_framed : Along framedLaw (echoRound ++ payloadRound ++ brokenEnd) := by
  have hcalm : Along framedLaw (echoRound ++ payloadRound) := by
    refine framedLaw_of_no_error ?_
    simp [polls, echoRound, payloadRound]
  refine along_append.mpr ⟨hcalm, ?_⟩
  simp only [brokenEnd, along_cons, along_nil]
  refine ⟨?_, fun _ => rfl, trivial, trivial⟩
  rintro ⟨kind, hkind⟩
  have hlast : (polls (echoRound ++ payloadRound)).getLast? = some (some (.ok [5])) := rfl
  cases hlast.symm.trans hkind

theorem handleConnection_disciplined_echo :
    Disciplined Reference.utils Reference.router ⟨0, 0⟩ (echoRound ++ payloadRound ++ brokenEnd)
      (.ret (.inr ())) := by
  refine handleConnection_disciplined Reference.total deserialize_router
    (run_of_points ((echoRound_run.append payloadRound_run).append brokenEnd_run)) brokenEnd_framed
    ?_
  simp only [echoRound, payloadRound, brokenEnd, along_append, along_cons, along_nil]
  simp only [returnsSender, echoCall, and_true, true_and]
  exact ⟨⟨.ok [7], rfl⟩, ⟨.error [6], rfl⟩⟩

end Example

end Connection

end FourthServer
