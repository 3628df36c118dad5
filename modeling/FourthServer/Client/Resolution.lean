import FourthServer.Client.Custody
import FourthServer.Client.Erasure

/-!
# What comes of a request

A dispatch does not fail before the connection task has been dropped
(`run_closed`).  A request whose dispatch has succeeded is resolved after a
bounded number of steps (`run_resolves`).
-/

namespace FourthServer

open Resumption Trace

namespace CallState

variable {A : App} {P : Type} {utils : Utils A} {maxRequestInTime : ℕ} {processor : P}
  {tr : List (CallEvent A P)} {ev : CallEvent A P} {pt next : Client.Point A P}
  {state : CallState A P}

open Client

/-! ## The end of the task -/

/-- How the task has ended, if it has. -/
structure Ended (tr : List (CallEvent A P)) (state : CallState A P) : Prop where
  alive : state.dispatcher.rx = true → state.task ≠ .ret (.inr ())
  ended : state.dispatcher.rx = false → .abort ∈ tr ∨
    state.task = .ret (.inr ()) ∧ state.dispatcher.tx = false ∧ accepted tr = taken (tasks tr)
  refused : ∀ request back, .send request (.error back) ∈ tr → .abort ∈ tr

theorem callerStep_ended (h : Ended tr state) {dispatcher : Dispatcher A}
    (own : ∀ e, ev ≠ .task e)
    (step : Dispatcher.Step maxRequestInTime state.dispatcher ev dispatcher) :
    Ended (tr ++ [ev]) { state with dispatcher := dispatcher } := by
  have hquiet (hrx : dispatcher.rx = state.dispatcher.rx)
      (htx : state.dispatcher.tx = false → dispatcher.tx = false)
      (haccepted : accepted? ev = none) (htask : task? ev = none)
      (hsent : ∀ request back, ev = .send request (.error back) → .abort ∈ tr) :
      Ended (tr ++ [ev]) { state with dispatcher := dispatcher } := by
    refine ⟨fun halive => h.alive (hrx ▸ halive), fun hgone => ?_, fun request back hmem => ?_⟩
    · rcases h.ended (hrx ▸ hgone) with habort | ⟨htask', hreleased, hall⟩
      · exact .inl (List.mem_append_left _ habort)
      · refine .inr ⟨htask', htx hreleased, ?_⟩
        rw [accepted_snoc, tasks_snoc, haccepted, htask]
        simpa using hall
    · rcases List.mem_append.mp hmem with hmem | hmem
      · exact List.mem_append_left _ (h.refused request back hmem)
      · exact List.mem_append_left _ (hsent request back (List.mem_singleton.mp hmem).symm)
  cases step with
  | sent handle receiver room fresh =>
      refine ⟨h.alive, fun hgone => ?_, fun request back hmem => ?_⟩
      · cases receiver.symm.trans hgone
      · have hmem' : .send request (.error back) ∈ tr := by simpa using hmem
        exact List.mem_append_left _ (h.refused request back hmem')
  | refused handle receiver fresh =>
      refine hquiet rfl id rfl rfl fun request back hsent => ?_
      -- a task that has ended by itself has no callers left
      rcases h.ended receiver with habort | ⟨-, hreleased, -⟩
      · exact habort
      · cases handle.symm.trans hreleased
  | cancelled handle fresh => exact hquiet rfl id rfl rfl (by simp)
  | released handle => exact hquiet rfl (fun _ => rfl) rfl rfl (by simp)
  | closed consumer => exact hquiet rfl id rfl rfl (by simp)
  | task receiver step => exact absurd rfl (own _)
  | aborted receiver =>
      have habort : CallEvent.abort ∈ tr ++ [.abort] := by simp
      exact ⟨fun halive => (by cases halive), fun _ => .inl habort, fun _ _ _ => habort⟩

theorem taskStep_ended (h : Ended tr state)
    (hcustody : Custody maxRequestInTime tr state.dispatcher pt) {e : ClientEvent A P}
    {dispatcher : Dispatcher A} (receiver : state.dispatcher.rx = true)
    (step : Dispatcher.TaskStep state.dispatcher e dispatcher) (hnext : Next utils pt e next) :
    Ended (tr ++ [.task e]) ⟨dispatcher, next.task utils⟩ := by
  have hrefused : ∀ request back, .send request (.error back) ∈ tr ++ [.task e] →
      .abort ∈ tr ++ [.task e] := by
    intro request back hmem
    have hmem' : .send request (.error back) ∈ tr := by simpa using hmem
    exact List.mem_append_left _ (h.refused request back hmem')
  have hgoes (hrecv : e.op ≠ .recv) (hrx : dispatcher.rx = state.dispatcher.rx) :
      Ended (tr ++ [.task e]) ⟨dispatcher, next.task utils⟩ := by
    refine ⟨fun _ hreturned => ?_, fun hgone => ?_, hrefused⟩
    · rw [hnext.of_returned (Client.eq_returned_of_task hreturned)] at hrecv
      exact hrecv rfl
    · cases (receiver.symm.trans hrx.symm).trans hgone
  cases step with
  | take head =>
      refine ⟨fun _ hreturned => ?_, fun hgone => ?_, hrefused⟩
      · have hworking := hnext.take.2
        rw [Client.eq_returned_of_task hreturned] at hworking
        exact hworking.1 trivial
      · cases receiver.symm.trans hgone
  | drained empty gone =>
      refine ⟨fun halive => (by cases halive), fun _ => .inr ⟨?_, gone, ?_⟩, hrefused⟩
      · rw [hnext.drain.2]
        rfl
      · have htaken : taken (tasks tr ++ [(⟨.recv, none⟩ : ClientEvent A P)]) =
            taken (tasks tr) := by
          rw [taken_snoc]
          exact List.append_nil _
        rw [accepted_task, tasks_task, htaken, hcustody.inOrder receiver, empty, List.append_nil]
  | deliver | warn | next | send | preProcess | postProcess | insertRoute =>
      exact hgoes (by simp) rfl

theorem run_ended
    (run : Run (CallState.Step utils maxRequestInTime) (.initial utils processor) tr state) :
    Ended tr state := by
  refine run.invariant (I := Ended) ⟨fun _ hreturned => ?_, fun hgone => (by cases hgone), by simp⟩
    ?_
  · have hawaits : some ClientOp.recv = none := congrArg Prog.awaits hreturned
    cases hawaits
  intro tr state ev after hrun h step
  obtain ⟨pt, htask, -, hcustody⟩ := run_placed hrun
  cases step with
  | caller own step => exact callerStep_ended h own step
  | task step resume =>
      cases step with
      | task receiver step =>
          rw [htask] at resume
          obtain ⟨next, hnext, hafter⟩ := next_of_step resume
          have hended := taskStep_ended h hcustody receiver step hnext
          rwa [← hafter] at hended

/-- What the task has pulled from the channel. -/
theorem run_pulls
    (run : Run (CallState.Step utils maxRequestInTime) (.initial utils processor) tr state) :
    (state.dispatcher.rx = true → pulls (tasks tr) = (taken (tasks tr)).map some) ∧
      (state.dispatcher.rx = false → .abort ∉ tr →
        pulls (tasks tr) = (taken (tasks tr)).map some ++ [none]) := by
  refine run.invariant (I := fun tr state =>
    (state.dispatcher.rx = true → pulls (tasks tr) = (taken (tasks tr)).map some) ∧
      (state.dispatcher.rx = false → .abort ∉ tr →
        pulls (tasks tr) = (taken (tasks tr)).map some ++ [none]))
    ⟨fun _ => rfl, fun hgone => by cases hgone⟩ ?_
  rintro tr state ev ⟨dispatcher, next⟩ - ⟨halive, hgone⟩ step
  cases step with
  | caller own step =>
      have htasks : tasks (tr ++ [ev]) = tasks tr := tasks_of_caller own
      have hbefore (hnot : .abort ∉ tr ++ [ev]) : .abort ∉ tr := fun habort =>
        hnot (List.mem_append_left _ habort)
      rw [htasks]
      cases step with
      | sent handle receiver =>
          exact ⟨fun _ => halive receiver, fun hrx => by cases receiver.symm.trans hrx⟩
      | refused | cancelled | released | closed =>
          exact ⟨halive, fun hrx hnot => hgone hrx (hbefore hnot)⟩
      | task receiver step => exact absurd rfl (own _)
      | aborted receiver =>
          exact ⟨fun hrx => (by cases hrx), fun _ hnot => absurd (by simp) hnot⟩
  | @task _ e step resume =>
      cases step with
      | task receiver step =>
          have hpulls := halive receiver
          rw [tasks_task, pulls_snoc, taken_snoc, List.map_append, hpulls]
          cases step with
          | take head => exact ⟨fun _ => rfl, fun hrx => by cases receiver.symm.trans hrx⟩
          | drained empty gone =>
              refine ⟨fun hrx => (by cases hrx), fun _ _ => ?_⟩
              rw [List.append_assoc]
              rfl
          | deliver | warn | next | send | preProcess | postProcess | insertRoute =>
              exact ⟨fun _ => rfl, fun hrx => by cases receiver.symm.trans hrx⟩

/-- **The end of a client.**  A dispatch fails only if the connection task has
been dropped; neither a failed request nor a dead connection makes it fail.  Once
the task is gone no consumer hangs, and if it has not been dropped, the client
had been, and every accepted request had been processed. -/
theorem run_closed
    (run : Run (CallState.Step utils maxRequestInTime) (.initial utils processor) tr state) :
    (∀ request res, .send request res ∈ tr →
        ClientConnect.dispatchRequest res = .error .channelClosed → .abort ∈ tr) ∧
      (state.dispatcher.rx = false → (∀ consumer, state.dispatcher.consumers consumer ≠ .held) ∧
        (.abort ∉ tr → state.dispatcher.tx = false ∧ accepted tr = taken (tasks tr))) ∧
      (state.task = .ret (.inr ()) → state.dispatcher.rx = false) := by
  have hended := run_ended run
  obtain ⟨pt, -, -, hcustody⟩ := run_placed run
  refine ⟨?_, ?_, ?_⟩
  · intro request res hmem hclosed
    cases res with
    | ok => cases hclosed
    | error back => exact hended.refused request back hmem
  · intro hgone
    refine ⟨fun consumer hheld => ?_, fun hnot => ?_⟩
    · have hmem := (hcustody.sound.held consumer).mp hheld
      rw [hcustody.sound.gone hgone] at hmem
      cases hmem
    · exact ((hended.ended hgone).resolve_left hnot).2
  · intro hreturned
    cases hrx : state.dispatcher.rx with
    | true => exact absurd hreturned (hended.alive hrx)
    | false => rfl

section Example

/-- A request fails, and the client is dropped after it. -/
def failedAndReleased : List (CallEvent Reference.app Unit) :=
  failing 0 ++ [.release, .task ⟨.recv, none⟩]

theorem failedAndReleased_run : ∃ state,
    Run (CallState.Step Reference.utils 1) (.initial Reference.utils ()) failedAndReleased state ∧
      state.dispatcher.rx = false :=
  ⟨_, (failing_run (Client.initial ()) rfl rfl rfl rfl).append <|
    Run.cons (.caller (by simp) (.released rfl)) <|
    Run.single (step_of_points rfl (.drained (Client.initial ())) (.drained rfl rfl)), rfl⟩

theorem run_closed_failedAndReleased :
    accepted failedAndReleased = taken (tasks failedAndReleased) := by
  obtain ⟨state, run, hgone⟩ := failedAndReleased_run
  exact (((run_closed run).2.1 hgone).2 (by simp [failedAndReleased, failing, shipping])).2

end Example

/-! ## Every request is resolved -/

/-- A task that works on a request can go on. -/
theorem exists_goes_on (utils : Utils A) (s : Dispatcher A) (hidle : ¬Idle pt) :
    ∃ e next t, Next utils pt e next ∧ Dispatcher.TaskStep s e t := by
  cases pt with
  | top | returned => exact absurd trivial hidle
  | routing st request name message =>
      exact ⟨_, _, _, .asked st request name message st.processor message, .postProcess ..⟩
  | routeSending st request name wire =>
      exact ⟨_, _, _, .routeSent st request name wire, .send ..⟩
  | routeWaiting st request name => exact ⟨_, _, _, .routeEnd st request name, .next _⟩
  | routeIn st request name raw =>
      exact ⟨_, _, _, .answered st request name raw st.processor raw, .preProcess ..⟩
  | learning st request name id =>
      exact ⟨_, _, _, .learned st request name id, .insertRoute ..⟩
  | preparing st request id message =>
      exact ⟨_, _, _, .prepared st request id message st.processor message, .postProcess ..⟩
  | preparingData st request id metaBytes =>
      exact ⟨_, _, _, .preparedData st request id metaBytes st.processor request.req.data,
        .postProcess ..⟩
  | metaSending st request id metaBytes payload =>
      exact ⟨_, _, _, .metaSent st request id metaBytes payload, .send ..⟩
  | payloadSending st request id payload =>
      exact ⟨_, _, _, .payloadSent st request id payload, .send ..⟩
  | waiting st request id => exact ⟨_, _, _, .responseEnd st request id, .next _⟩
  | responseIn st request id raw =>
      exact ⟨_, _, _, .responseRead st request id raw st.processor raw, .preProcess ..⟩
  | delivering st request id response =>
      exact ⟨_, _, _, .delivered st request id response _, .deliver request.consumer response⟩
  | warning st error => exact ⟨_, _, _, .warned st error, .warn error⟩

/-- **Every request is resolved.**  The connection task does no more than
fourteen steps for each accepted request, and one at its end; and where no step
of it is left, no consumer hangs. -/
theorem run_resolves
    (run : Run (CallState.Step utils maxRequestInTime) (.initial utils processor) tr state) :
    (tasks tr).length ≤ 14 * (accepted tr).length + 1 ∧
      ((∀ e t, ¬CallState.Step utils maxRequestInTime state (.task e) t) →
        ∀ consumer, state.dispatcher.consumers consumer ≠ .held) := by
  have hended := run_ended run
  obtain ⟨pt, htask, hrun, hcustody⟩ := run_placed run
  refine ⟨?_, fun hstuck consumer hheld => ?_⟩
  · have hlength := Client.run_length hrun
    have htakes := hcustody.takes.length_le
    have hspent : pt.spent ≤ 15 := by cases pt <;> simp [Point.spent]
    omega
  have hgoes {e : ClientEvent A P} {next : Client.Point A P} {t : Dispatcher A}
      (receiver : state.dispatcher.rx = true) (hnext : Next utils pt e next)
      (step : Dispatcher.TaskStep state.dispatcher e t) : False := by
    have hstate : state = ⟨state.dispatcher, pt.task utils⟩ := by rw [← htask]
    rw [hstate] at hstuck
    exact hstuck e _ (step_of_points receiver hnext step)
  have hmem := (hcustody.sound.held consumer).mp hheld
  have receiver : state.dispatcher.rx = true := by
    cases hrx : state.dispatcher.rx with
    | true => rfl
    | false =>
        rw [hcustody.sound.gone hrx] at hmem
        cases hmem
  have howned := hcustody.owned receiver
  rw [Dispatcher.unresolved] at hmem
  cases hcurrent : state.dispatcher.current with
  | some working =>
      rw [hcurrent] at howned
      obtain ⟨e, next, t, hnext, step⟩ := exists_goes_on utils state.dispatcher howned.1
      exact hgoes receiver hnext step
  | none =>
      -- the task waits for a request, and there is one in the channel
      rw [hcurrent] at howned hmem
      cases pt with
      | top st =>
          cases hqueue : state.dispatcher.queue with
          | nil =>
              rw [hqueue] at hmem
              cases hmem
          | cons head rest => exact hgoes receiver (.taken st head) (.take hqueue)
      | returned => exact hended.alive receiver htask
      | _ => exact howned.elim

/-- The task can go on with the request that is in the channel. -/
theorem run_resolves_answeredOnce : ∃ state, Run (CallState.Step Reference.utils 1)
    (.initial Reference.utils ()) answeredOnce state ∧
      state.dispatcher.consumers 0 = .answered [7] ∧
      (tasks answeredOnce).length ≤ 14 * (accepted answeredOnce).length + 1 ∧
      ∃ e t, CallState.Step Reference.utils 1 state (.task e) t := by
  obtain ⟨state, run, hanswered, hunresolved⟩ := answeredOnce_run
  obtain ⟨hlength, hresolved⟩ := run_resolves run
  refine ⟨state, run, hanswered, hlength, ?_⟩
  by_contra hstuck
  push Not at hstuck
  obtain ⟨pt, -, -, hcustody⟩ := run_placed run
  have hheld : state.dispatcher.consumers 1 = .held :=
    (hcustody.sound.held 1).mpr (by rw [hunresolved]; exact List.mem_singleton_self _)
  exact hresolved hstuck 1 hheld

end CallState

end FourthServer
