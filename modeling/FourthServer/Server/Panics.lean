import FourthServer.Server.Discipline

/-!
# User code that panics

For a packet with a `PacketMeta`, `serve_packet` runs three pieces of user code:
the deserialise function of the structure types, the serve function of the
handler, and the future that function returns.  Only the future is polled
inside `catch_unwind`.

`Contained` says what a panic is to cost: one error reply.  `contained_iff`
says for which packets the code keeps to this.  They are those for which the
first two pieces of user code do not panic (`Caught`); a panic of one of these
unwinds through `serve_packet` and `handle_connection` and ends the task.
-/

namespace FourthServer

open Resumption Trace

/-- The handler panicked, before it returned its future or in it. -/
def ServeOutcome.Panics {A : App} : ServeOutcome A → Prop
  | .unwound => True
  | .panicked _ => True
  | .finished _ _ _ => False

namespace Connection

open TfServerRouter

variable {A : App} {P : Type}

/-- The handlers come to what `behaviour` makes of their calls. -/
def behaves (behaviour : ServeCall A → ServeOutcome A) : ServerEvent A P → Prop
  | ⟨.serve call, outcome⟩ => outcome = behaviour call
  | _ => True

/-- The operations with which the loop leaves a packet behind: it reads on,
closes the stream, or hands it over. -/
def leaves : ServerOp A P → Bool
  | .next => true
  | .close => true
  | .accept _ => true
  | _ => false

/-- The loop is through with its packet. -/
def Through (task : ServerM A P (ConnectionState P ⊕ Unit)) : Prop :=
  task = .ret (.inr ()) ∨ ∃ op, task.awaits = some op ∧ leaves op = true

section Packet

variable (P) (utils : Utils A) (router : TfServerRouter A) (addr : SocketAddr)
  (behaviour : ServeCall A → ServeOutcome A) (routeTx : Option Sender) (metaData payload : Bytes)

/-- `serve_packet` can return this pair. -/
def Returns (served : Served) : Prop :=
  ∃ tr : List (ServerEvent A P),
    Run Prog.Step (router.servePacket utils metaData payload addr routeTx) tr (.ret served) ∧
      ∀ e ∈ tr, behaves behaviour e

/-- Some user code that `serve_packet` runs for the packet panics. -/
def UserPanics : Prop :=
  ∃ metaPack, utils.accessMeta metaData = .ok metaPack ∧
    (router.deserialize metaPack.sTypeReq = none ∨
      ∃ sType handler, router.deserialize metaPack.sTypeReq = some sType ∧
        router.routeOf utils ⟨{sType}, metaPack.handlerId⟩ = some handler ∧
        (behaviour ⟨handler.serve, handler.state, addr, routeTx, sType, payload⟩).Panics)

/-- No user code panics outside `catch_unwind`: the number in the meta frame is
that of a structure type, and the serve function returns its future. -/
def Caught : Prop :=
  ∀ metaPack, utils.accessMeta metaData = .ok metaPack →
    ∃ sType, router.deserialize metaPack.sTypeReq = some sType ∧
      ∀ handler, router.routeOf utils ⟨{sType}, metaPack.handlerId⟩ = some handler →
        behaviour ⟨handler.serve, handler.state, addr, routeTx, sType, payload⟩ ≠ .unwound

/-- The one reply to the packet has been made of what `serve_packet` returned,
and given to `send`. -/
structure Answered (tr : List (ServerEvent A P)) (served : Served) (message wire : Bytes) :
    Prop where
  returned : Returns P utils router addr behaviour routeTx metaData payload served
  encoded : replyMessage utils served.1 = some message
  replied : replies tr = [message]
  processed : outputs tr = [wire]
  attempted : attempts tr = [wire]

end Packet

/-- A panic of user code costs the packet one error reply, and nothing else. -/
structure Contained (utils : Utils A) (router : TfServerRouter A) (addr : SocketAddr)
    (behaviour : ServeCall A → ServeOutcome A) (st : ConnectionState P)
    (metaData payload : Bytes) : Prop where
  /-- `serve_packet` returns a pair. -/
  returns : ∃ served, Returns P utils router addr behaviour st.moveTx metaData payload served
  /-- `serve_packet` does not unwind. -/
  whole : ∀ (tr : List (ServerEvent A P)) (task : ServerM A P Served),
    Run Prog.Step (router.servePacket utils metaData payload addr st.moveTx) tr task →
      (∀ e ∈ tr, behaves behaviour e) → task ≠ ServerM.unwind
  /-- The reply reports a panic. -/
  reported : UserPanics utils router addr behaviour st.moveTx metaData payload →
    ∀ served, Returns P utils router addr behaviour st.moveTx metaData payload served →
      ∃ data, served.1 = .error ⟨.internalError data⟩
  /-- From the call of `serve_packet` on the loop gives at most one reply to
  `send`, and exactly one by the time it is through with the packet. -/
  answered : ∀ (tr : List (ServerEvent A P)) (task : ServerM A P (ConnectionState P ⊕ Unit)),
    Run (Step utils router addr) (serveAndReply utils router addr st metaData payload) tr task →
      (∀ e ∈ tr, behaves behaviour e ∧ leaves e.op = false) →
      task ≠ ServerM.unwind ∧ (attempts tr).length ≤ 1 ∧
        (Through task → ∃ served message wire,
          Answered P utils router addr behaviour st.moveTx metaData payload tr served message
            wire)

variable {utils : Utils A} {router : TfServerRouter A} {addr : SocketAddr}
  {behaviour : ServeCall A → ServeOutcome A} {routeTx : Option Sender} {metaData payload : Bytes}
  {st : ConnectionState P} {tr : List (ServerEvent A P)} {pt next : Point A P}
  {e : ServerEvent A P} {served : Served}

/-! ## What `serve_packet` returns -/

/-- The pair `serve_packet` returns, unless it unwinds. -/
def servedOf (utils : Utils A) (router : TfServerRouter A) (addr : SocketAddr)
    (behaviour : ServeCall A → ServeOutcome A) (routeTx : Option Sender)
    (metaData payload : Bytes) : Option Served :=
  match dispatch utils router metaData payload addr routeTx with
  | .answered res => some (res, routeTx)
  | .handled call => outcomeServed (behaviour call)
  | .unwound => none

/-- Where a run of `serve_packet` can be: at the call of the handler, or at the
end. -/
theorem servePacket_run {task : ServerM A P Served}
    (run : Run Prog.Step (router.servePacket utils metaData payload addr routeTx) tr task)
    (hbehaves : ∀ e ∈ tr, behaves behaviour e) :
    (∃ call, task = .op (.serve call) afterServe) ∨
      servedOf utils router addr behaviour routeTx metaData payload = none ∧
        task = ServerM.unwind ∨
      ∃ served, servedOf utils router addr behaviour routeTx metaData payload = some served ∧
        task = .ret served := by
  rw [servePacket_eq] at run
  unfold servedOf
  cases hdispatch : dispatch utils router metaData payload addr routeTx with
  | answered res =>
      rw [hdispatch] at run
      obtain ⟨-, rfl⟩ := Prog.run_ret.mp run
      exact .inr (.inr ⟨_, rfl, rfl⟩)
  | unwound =>
      rw [hdispatch] at run
      rcases Prog.run_op.mp run with ⟨-, rfl⟩ | ⟨answer, -⟩
      · exact .inr (.inl ⟨rfl, rfl⟩)
      · exact nomatch answer
  | handled call =>
      rw [hdispatch] at run
      rcases Prog.run_op.mp run with ⟨-, rfl⟩ | ⟨outcome, rest, rfl, hrest⟩
      · exact .inl ⟨call, rfl⟩
      · obtain rfl : outcome = behaviour call := hbehaves ⟨.serve call, outcome⟩ (by simp)
        rw [afterServe_eq] at hrest
        dsimp only
        cases hserved : outcomeServed (behaviour call) with
        | none =>
            rw [hserved] at hrest
            rcases Prog.run_op.mp hrest with ⟨-, rfl⟩ | ⟨answer, -⟩
            · exact .inr (.inl ⟨rfl, rfl⟩)
            · exact nomatch answer
        | some served =>
            rw [hserved] at hrest
            obtain ⟨-, rfl⟩ := Prog.run_ret.mp hrest
            exact .inr (.inr ⟨served, rfl, rfl⟩)

theorem returns_of_servedOf
    (h : servedOf utils router addr behaviour routeTx metaData payload = some served) :
    Returns P utils router addr behaviour routeTx metaData payload served := by
  unfold Returns
  unfold servedOf at h
  rw [servePacket_eq]
  cases hdispatch : dispatch utils router metaData payload addr routeTx with
  | answered res =>
      rw [hdispatch] at h
      cases h
      exact ⟨[], Run.nil, by simp⟩
  | unwound =>
      rw [hdispatch] at h
      cases h
  | handled call =>
      rw [hdispatch] at h
      refine ⟨[⟨.serve call, behaviour call⟩], ?_, List.forall_mem_singleton.mpr rfl⟩
      refine Prog.run_op.mpr (.inr ⟨behaviour call, [], rfl, ?_⟩)
      rw [afterServe_eq]
      dsimp only at h
      rw [h]
      exact Run.nil

theorem returns_iff :
    Returns P utils router addr behaviour routeTx metaData payload served ↔
      servedOf utils router addr behaviour routeTx metaData payload = some served := by
  constructor
  · rintro ⟨tr, run, hbehaves⟩
    rcases servePacket_run run hbehaves with ⟨call, htask⟩ | ⟨-, htask⟩ | ⟨served, h, htask⟩
    · cases htask
    · cases htask
    · cases htask
      exact h
  · exact returns_of_servedOf

/-! ## When it returns -/

theorem outcomeServed_eq_none {outcome : ServeOutcome A} :
    outcomeServed outcome = none ↔ outcome = .unwound := by
  cases outcome with
  | unwound => simp [outcomeServed]
  | panicked sent => simp [outcomeServed]
  | finished data returnedTx sent => cases data <;> simp [outcomeServed]

/-- `serve_packet` returns exactly when no user code panics outside
`catch_unwind`. -/
theorem servedOf_eq_none (htotal : utils.Total) :
    servedOf utils router addr behaviour routeTx metaData payload ≠ none ↔
      Caught utils router addr behaviour routeTx metaData payload := by
  unfold servedOf Caught dispatch
  cases utils.accessMeta metaData with
  | ok metaPack =>
      cases hsType : router.deserialize metaPack.sTypeReq with
      | none => simp [hsType]
      | some sType =>
          cases hhandler : router.routeOf utils ⟨{sType}, metaPack.handlerId⟩ with
          | none => simp [hsType, hhandler]
          | some handler => simp [hsType, hhandler, outcomeServed_eq_none]
  | error text =>
      cases utils.accessReq metaData with
      | error text => simp
      | ok metaReq =>
          have hname : router.answerName utils metaReq.handlerName ≠ .unwound :=
            answerName_ne_unwound htotal metaReq.handlerName
          cases h : router.answerName utils metaReq.handlerName with
          | answered res => simp [h]
          | unwound => exact absurd h hname
          | handled call =>
              unfold answerName at h
              repeat' split at h
              all_goals cases h

/-- What `serve_packet` returns after a panic is an `InternalError`. -/
theorem reported_of_servedOf
    (hpanics : UserPanics utils router addr behaviour routeTx metaData payload)
    (h : servedOf utils router addr behaviour routeTx metaData payload = some served) :
    ∃ data, served.1 = .error ⟨.internalError data⟩ := by
  obtain ⟨metaPack, haccess, hpanics⟩ := hpanics
  unfold servedOf dispatch at h
  rw [haccess] at h
  rcases hpanics with hnone | ⟨sType, handler, hsType, hhandler, hpanics⟩
  · simp [hnone] at h
  · simp only [hsType, hhandler] at h
    cases houtcome : behaviour ⟨handler.serve, handler.state, addr, routeTx, sType, payload⟩ with
    | unwound =>
        rw [houtcome] at h
        cases h
    | panicked sent =>
        rw [houtcome] at h
        cases h
        exact ⟨_, rfl⟩
    | finished data returnedTx sent =>
        rw [houtcome] at hpanics
        exact absurd hpanics id

/-! ## The reply -/

/-- How far the reply to a packet has come. -/
inductive Stage (utils : Utils A) (router : TfServerRouter A) (addr : SocketAddr)
    (behaviour : ServeCall A → ServeOutcome A) (st : ConnectionState P)
    (metaData payload : Bytes) (tr : List (ServerEvent A P)) : Point A P → Prop
  | calling (replied : replies tr = []) (processed : outputs tr = [])
      (attempted : attempts tr = []) :
      Stage utils router addr behaviour st metaData payload tr (.calling st metaData payload)
  | serving {call : ServeCall A} (replied : replies tr = []) (processed : outputs tr = [])
      (attempted : attempts tr = [])
      (handled : dispatch utils router metaData payload addr st.moveTx = .handled call) :
      Stage utils router addr behaviour st metaData payload tr (.serving st call)
  | replying {after : ConnectionState P} {message : Bytes} (served : Served)
      (replied : replies tr = []) (processed : outputs tr = []) (attempted : attempts tr = [])
      (returned : servedOf utils router addr behaviour st.moveTx metaData payload = some served)
      (encoded : replyMessage utils served.1 = some message) :
      Stage utils router addr behaviour st metaData payload tr (.replying after message)
  | sending {after : ConnectionState P} {wire : Bytes} (served : Served) (message : Bytes)
      (replied : replies tr = [message]) (processed : outputs tr = [wire])
      (attempted : attempts tr = [])
      (returned : servedOf utils router addr behaviour st.moveTx metaData payload = some served)
      (encoded : replyMessage utils served.1 = some message) :
      Stage utils router addr behaviour st metaData payload tr (.sending after wire)
  | checking {after : ConnectionState P} {sent : Except ErrorKind Unit} (served : Served)
      (message wire : Bytes)
      (answered : Answered P utils router addr behaviour st.moveTx metaData payload tr served
        message wire) :
      Stage utils router addr behaviour st metaData payload tr (.checking after sent)
  | through {pt : Point A P} (served : Served) (message wire : Bytes)
      (answered : Answered P utils router addr behaviour st.moveTx metaData payload tr served
        message wire) (hthrough : Through (pt.task utils router addr)) :
      Stage utils router addr behaviour st metaData payload tr pt

theorem stage_afterServed (htotal : utils.Total) (after : ConnectionState P)
    (hreplied : replies tr = []) (hprocessed : outputs tr = []) (hattempted : attempts tr = [])
    (hreturned : servedOf utils router addr behaviour st.moveTx metaData payload = some served) :
    Stage utils router addr behaviour st metaData payload tr (afterServed utils after served) := by
  unfold afterServed
  cases hencoded : replyMessage utils served.1 with
  | none => exact absurd hencoded (replyMessage_ne_none htotal _)
  | some message => exact .replying served hreplied hprocessed hattempted hreturned hencoded

/-- The step lemma: until the loop leaves the packet behind, every step brings
the reply further. -/
theorem next_stage (htotal : utils.Total)
    (hcaught : Caught utils router addr behaviour st.moveTx metaData payload)
    (h : Stage utils router addr behaviour st metaData payload tr pt)
    (hnext : Next utils router addr pt e next) (hbehaves : behaves behaviour e)
    (hleaves : leaves e.op = false) :
    Stage utils router addr behaviour st metaData payload (tr ++ [e]) next := by
  have hserved := (servedOf_eq_none htotal).mpr hcaught
  cases h with
  | calling replied processed attempted =>
      cases hnext with
      | called =>
          unfold afterDispatch
          cases hdispatch : dispatch utils router metaData payload addr st.moveTx with
          | answered res =>
              refine stage_afterServed htotal _ ?_ ?_ ?_ ?_
              · simpa using replied
              · simpa using processed
              · simpa using attempted
              · simp [servedOf, hdispatch]
          | handled call =>
              refine .serving ?_ ?_ ?_ hdispatch
              · simpa using replied
              · simpa using processed
              · simpa using attempted
          | unwound =>
              -- the packet does not panic outside of `catch_unwind`
              unfold servedOf at hserved
              rw [hdispatch] at hserved
              exact absurd rfl hserved
  | @serving call replied processed attempted handled =>
      cases hnext with
      | served _ _ outcome =>
          obtain rfl : outcome = behaviour call := hbehaves
          have hreturned : servedOf utils router addr behaviour st.moveTx metaData payload =
              outcomeServed (behaviour call) := by
            unfold servedOf
            rw [handled]
          unfold afterOutcome
          cases houtcome : outcomeServed (behaviour call) with
          | none => exact absurd (hreturned.trans houtcome) hserved
          | some served =>
              refine stage_afterServed htotal _ ?_ ?_ ?_ (hreturned.trans houtcome)
              · simpa using replied
              · simpa using processed
              · simpa using attempted
  | @replying after message served replied processed attempted returned encoded =>
      cases hnext with
      | processed _ _ processor wire =>
          refine .sending served message ?_ ?_ ?_ returned encoded
          · simpa using replied
          · simpa using processed
          · simpa using attempted
  | @sending after wire served message replied processed attempted returned encoded =>
      cases hnext with
      | sent _ _ res =>
          refine .checking served message wire
            ⟨returns_iff.mpr returned, encoded, ?_, ?_, ?_⟩
          · simpa using replied
          · simpa using processed
          · simpa using attempted
  | @checking after sent served message wire answered =>
      obtain ⟨returned, encoded, replied, processed, attempted⟩ := answered
      have hstill : ∀ answer : Option (Accept A),
          Answered P utils router addr behaviour st.moveTx metaData payload
            (tr ++ [⟨.tryRecv after.moveRx, answer⟩]) served message wire := by
        intro answer
        refine ⟨returned, encoded, ?_, ?_, ?_⟩
        · simpa using replied
        · simpa using processed
        · simpa using attempted
      cases hnext with
      | handedOver | senderGone | again =>
          exact .through served message wire (hstill _) (.inr ⟨_, rfl, rfl⟩)
      | sendFailed => exact .through served message wire (hstill _) (.inl rfl)
  | through served message wire answered hthrough =>
      -- the operation of this step is one with which the loop leaves the packet
      have hstep := step_of_next hnext
      cases hthrough with
      | inl hret =>
          rw [hret] at hstep
          exact absurd hstep not_loopStep_ret
      | inr hop =>
          obtain ⟨op, hawaits, hop⟩ := hop
          rw [awaits_of_loopStep hstep, Option.some.injEq] at hawaits
          rw [hawaits, hop] at hleaves
          cases hleaves

theorem run_stage (htotal : utils.Total)
    (hcaught : Caught utils router addr behaviour st.moveTx metaData payload)
    (run : Run (Next utils router addr) (.calling st metaData payload) tr pt)
    (hpacket : ∀ e ∈ tr, behaves behaviour e ∧ leaves e.op = false) :
    Stage utils router addr behaviour st metaData payload tr pt := by
  induction run with
  | nil => exact .calling rfl rfl rfl
  | snoc _ hnext ih =>
      rw [List.forall_mem_append] at hpacket
      obtain ⟨hbefore, hlast⟩ := hpacket
      obtain ⟨hbehaves, hleaves⟩ := List.forall_mem_singleton.mp hlast
      exact next_stage htotal hcaught (ih hbefore) hnext hbehaves hleaves

theorem Stage.attempts_le (h : Stage utils router addr behaviour st metaData payload tr pt) :
    (attempts tr).length ≤ 1 := by
  cases h with
  | calling _ _ attempted => simp [attempted]
  | serving _ _ attempted _ => simp [attempted]
  | replying _ _ _ attempted _ _ => simp [attempted]
  | sending _ _ _ _ attempted _ _ => simp [attempted]
  | checking _ _ _ answered => simp [answered.attempted]
  | through _ _ _ answered _ => simp [answered.attempted]

/-- A loop that is through with its packet has answered it. -/
theorem Stage.answered (h : Stage utils router addr behaviour st metaData payload tr pt)
    (hthrough : Through (pt.task utils router addr)) : ∃ served message wire,
      Answered P utils router addr behaviour st.moveTx metaData payload tr served message wire := by
  cases h with
  | checking served message wire answered => exact ⟨served, message, wire, answered⟩
  | through served message wire answered _ => exact ⟨served, message, wire, answered⟩
  | calling | serving | replying | sending =>
      -- the operation awaited at this point is none of the three
      rcases hthrough with hret | ⟨op, hawaits, hleaves⟩
      · cases hret
      · cases hawaits
        cases hleaves

theorem Stage.ne_unwound (h : Stage utils router addr behaviour st metaData payload tr pt) :
    pt ≠ .unwound := by
  rintro rfl
  cases h with
  | through served message wire answered hthrough =>
      rcases hthrough with hret | ⟨op, hawaits, hleaves⟩
      · cases hret
      · cases hawaits
        cases hleaves

/-! ## Containment -/

/-- **Contained panics.**  For every packet and every behaviour of the user
code, a panic costs one error reply if and only if it does not happen in the
deserialise function or in the serve function itself, which are called outside
`catch_unwind`. -/
theorem contained_iff (htotal : utils.Total) :
    Contained utils router addr behaviour st metaData payload ↔
      Caught utils router addr behaviour st.moveTx metaData payload := by
  constructor
  · intro h
    obtain ⟨served, hreturns⟩ := h.returns
    refine (servedOf_eq_none htotal).mp ?_
    rw [returns_iff.mp hreturns]
    simp
  · intro hcaught
    have hserved := (servedOf_eq_none htotal).mpr hcaught
    refine ⟨?_, ?_, ?_, ?_⟩
    · obtain ⟨served, hreturned⟩ := Option.ne_none_iff_exists'.mp hserved
      exact ⟨served, returns_iff.mpr hreturned⟩
    · intro tr task run hbehaves
      rcases servePacket_run run hbehaves with ⟨call, rfl⟩ | ⟨hnone, -⟩ | ⟨served, -, rfl⟩
      · intro hunwind
        cases congrArg Prog.awaits hunwind
      · exact absurd hnone hserved
      · intro hunwind
        cases congrArg Prog.awaits hunwind
    · intro hpanics served hreturns
      exact reported_of_servedOf hpanics (returns_iff.mp hreturns)
    · intro tr task run hpacket
      have hcalling : Run (Step utils router addr)
        ((Point.calling st metaData payload).task utils router addr) tr task := run
      obtain ⟨pt, hrun, rfl⟩ := points_of_run hcalling
      have hstage := run_stage htotal hcaught hrun hpacket
      exact ⟨task_ne_unwind hstage.ne_unwound, hstage.attempts_le, hstage.answered⟩

/-- A future that panics is contained. -/
theorem contained_iff_panicked :
    Contained Reference.utils Reference.router ⟨0, 0⟩ (fun _ => .panicked none) (initial () 0)
      Reference.echoFrame [] := by
  refine (contained_iff Reference.total).mpr ?_
  intro metaPack _
  obtain ⟨sType, hsType⟩ :=
    Option.ne_none_iff_exists'.mp (Reference.deserialize_router metaPack.sTypeReq)
  exact ⟨sType, hsType, fun _ _ => by simp⟩

/-- A deserialise function that knows two structure types. -/
def strict (number : ℕ) : Option Reference.app.SType :=
  if number ≤ 1 then some (number == 1) else none

/-- The reference router with it. -/
def strictRouter : TfServerRouter Reference.app :=
  ((TfServerRouter.new strict).addRoute Reference.echo "echo" [true]).commitRoutes Reference.utils

/-- A number that is no structure type, and a serve function that panics, make
`serve_packet` unwind. -/
theorem containment_fails :
    strictRouter.routesCommited = true ∧
      ¬ Contained Reference.utils strictRouter ⟨0, 0⟩
        (fun call => .finished (.ok call.data) call.routeTx none) (initial () 0)
        (Reference.metaBytes ⟨.packetMeta, 2, 0, false⟩) [] ∧
      ¬ Contained Reference.utils Reference.router ⟨0, 0⟩ (fun _ => .unwound) (initial () 0)
        Reference.echoFrame [] := by
  refine ⟨rfl, ?_, ?_⟩
  · intro h
    obtain ⟨served, hreturns⟩ := h.returns
    cases returns_iff.mp hreturns
  · intro h
    obtain ⟨served, hreturns⟩ := h.returns
    cases returns_iff.mp hreturns

end Connection

end FourthServer
