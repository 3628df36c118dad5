import FourthServer.Client.Resolution
import FourthServer.Client.Routes

/-!
# A client without a connection

The connection task does not look at its socket between two requests, and an
error of a request does not end it.  So a client whose stream has ended goes on
taking requests; each of them fails, and no dispatch does (`run_disconnected`).
-/

namespace FourthServer

open Resumption Trace

namespace Client

variable {A : App} {P : Type} {utils : Utils A} {pt next start : Point A P}
  {e : ClientEvent A P} {tr before after : List (ClientEvent A P)}

/-- A stream that has ended stays so. -/
def endedLaw (before : List (ClientEvent A P)) : ClientEvent A P → Prop
  | ⟨.next, answer⟩ => none ∈ polls before → answer = none
  | _ => True

/-- The task has no frame in hand that it has not used. -/
def HoldsNoFrame : Point A P → Prop
  | .routeIn _ _ _ _ => False
  | .learning _ _ _ _ => False
  | .responseIn _ _ _ _ => False
  | .delivering _ _ _ _ => False
  | _ => True

theorem holdsNoFrame_afterId (st : ClientState P) (request : ClientRequest A) (id : ℕ) :
    HoldsNoFrame (afterId utils st request id) := by
  unfold afterId
  cases utils.toBytesMeta (metaOf request id) <;> trivial

theorem holdsNoFrame_entry (st : ClientState P) (request : ClientRequest A) :
    HoldsNoFrame (entry utils st request) := by
  unfold entry afterName
  repeat' split
  all_goals first
    | exact holdsNoFrame_afterId st request _
    | trivial

/-- The number of requests that are being worked on. -/
def Point.busy : Point A P → ℕ
  | .top _ => 0
  | .returned => 0
  | _ => 1

theorem busy_of_not_idle (h : ¬Idle pt) : pt.busy = 1 := by
  cases pt with
  | top | returned => exact absurd trivial h
  | _ => rfl

/-- Without a frame a request can only fail. -/
theorem next_holdsNoFrame (h : HoldsNoFrame pt) (hframe : frame? e = none)
    (hnext : Next utils pt e next) :
    HoldsNoFrame next ∧ delivery? e = none ∧ learnt? e = none ∧
      (failure? e).toList.length + next.busy = (taken? e).toList.length + pt.busy := by
  cases hnext with
  | taken st request =>
      exact ⟨holdsNoFrame_entry st request, rfl, rfl,
        congrArg (0 + ·) (busy_of_not_idle (not_idle_entry st request))⟩
  | routeFrame | responseFrame => cases hframe
  | answered | learned | responseRead | delivered => exact h.elim
  | _ => exact ⟨trivial, rfl, rfl, rfl⟩

theorem run_holdsNoFrame (run : Run (Next utils) start tr pt) (h : HoldsNoFrame start)
    (hframes : ∀ e ∈ tr, frame? e = none) :
    HoldsNoFrame pt ∧ deliveries tr = [] ∧ learnt tr = [] ∧
      (failures tr).length + pt.busy = (taken tr).length + start.busy := by
  induction run with
  | nil => exact ⟨h, rfl, rfl, rfl⟩
  | @snoc tr pt e next _ hnext ih =>
      obtain ⟨hempty, hdeliveries, hlearnt, hcount⟩ := ih fun e he => hframes e (by simp [he])
      obtain ⟨hempty', hdelivery, hlearn, hone⟩ :=
        next_holdsNoFrame hempty (hframes e (by simp)) hnext
      refine ⟨hempty', ?_, ?_, ?_⟩
      · rw [deliveries_snoc, hdeliveries, hdelivery]
        rfl
      · rw [learnt_snoc, hlearnt, hlearn]
        rfl
      · rw [failures_snoc, taken_snoc, List.length_append, List.length_append]
        omega

/-- After its end a stream yields no frame. -/
theorem no_frame_after (hlaw : Along endedLaw tr) (hsplit : tr = before ++ ⟨.next, none⟩ :: after) :
    ∀ e ∈ after, frame? e = none := by
  intro e he
  obtain ⟨first, rest, rfl⟩ := List.append_of_mem he
  have hended := hlaw (before ++ ⟨.next, none⟩ :: first) e rest (by simp [hsplit])
  have hpolled : none ∈ polls (before ++ (⟨.next, none⟩ : ClientEvent A P) :: first) :=
    List.mem_filterMap.mpr ⟨⟨.next, none⟩, by simp, rfl⟩
  cases e using forall_event with
  | frame raw => cases hended hpolled
  | _ => rfl

end Client

namespace CallState

variable {A : App} {P : Type} {utils : Utils A} {maxRequestInTime : ℕ} {processor : P}
  {tr : List (CallEvent A P)} {state : CallState A P} {before after : List (ClientEvent A P)}

open Client

/-- **A client without a connection.**  From the end of its stream on a client
delivers and learns nothing.  Its connection task goes on nevertheless: it takes
further requests, each of which fails once, and the consumer of a request that has
been taken is dropped when its processing is over, whereas no dispatch fails unless
the task is dropped. -/
theorem run_disconnected
    (run : Run (CallState.Step utils maxRequestInTime) (.initial utils processor) tr state)
    (hlaw : Along endedLaw (tasks tr)) (hsplit : tasks tr = before ++ ⟨.next, none⟩ :: after) :
    deliveries (tasks tr) = deliveries before ∧ learnt (tasks tr) = learnt before ∧
      (state.dispatcher.rx = true →
        (failures after).length + state.dispatcher.current.toList.length =
          (taken after).length + 1) ∧
      (∀ request ∈ accepted tr, (∀ data, (request.consumer, data) ∉ deliveries before) →
        state.dispatcher.consumers request.consumer = .held ∨
          state.dispatcher.consumers request.consumer = .dropped) ∧
      (∀ request ∈ taken (tasks tr), (∀ data, (request.consumer, data) ∉ deliveries before) →
        state.dispatcher.current ≠ some request.consumer →
          state.dispatcher.consumers request.consumer = .dropped) ∧
      ∀ request back, .send request (.error back) ∈ tr → .abort ∈ tr := by
  obtain ⟨pt, -, hrun, hcustody⟩ := run_placed run
  rw [hsplit] at hrun
  obtain ⟨first, hbefore, hrest⟩ := hrun.of_append
  obtain ⟨second, hend, hafter⟩ := hrest.of_cons
  have hstart : HoldsNoFrame second ∧ second.busy = 1 := by
    cases hend <;> exact ⟨trivial, rfl⟩
  obtain ⟨-, hdeliveries, hlearnt, hcount⟩ :=
    run_holdsNoFrame hafter hstart.1 (no_frame_after hlaw hsplit)
  have hall : deliveries (tasks tr) = deliveries before := by
    have happend : deliveries (tasks tr) = deliveries before ++ deliveries after := by
      rw [hsplit]
      exact List.filterMap_append
    rw [happend, hdeliveries, List.append_nil]
  have hunanswered (request : ClientRequest A) (hrequest : request ∈ accepted tr)
      (hnot : ∀ data, (request.consumer, data) ∉ deliveries before) :
      state.dispatcher.consumers request.consumer = .held ∨
        state.dispatcher.consumers request.consumer = .dropped := by
    cases hconsumer : state.dispatcher.consumers request.consumer with
    | unused => exact absurd hconsumer (hcustody.used request hrequest)
    | held => exact .inl rfl
    | answered data => exact absurd (hall ▸ hcustody.answered _ _ hconsumer) (hnot data)
    | dropped => exact .inr rfl
  refine ⟨hall, ?_, fun receiver => ?_, hunanswered, fun request htaken hnot hcurrent => ?_,
    (run_ended run).refused⟩
  · have happend : learnt (tasks tr) = learnt before ++ learnt after := by
      rw [hsplit]
      exact List.filterMap_append
    rw [happend, hlearnt, List.append_nil]
  · have howned := hcustody.owned receiver
    have hbusy : state.dispatcher.current.toList.length = pt.busy := by
      cases hcurrent : state.dispatcher.current with
      | none =>
          rw [hcurrent] at howned
          cases pt with
          | top | returned => rfl
          | _ => exact howned.elim
      | some consumer =>
          rw [hcurrent] at howned
          exact (busy_of_not_idle howned.1).symm
    rw [hbusy, hcount, hstart.2]
  · refine (hunanswered request (hcustody.takes.subset htaken) hnot).resolve_left fun hheld => ?_
    exact hcustody.not_held htaken hcurrent hheld

section Example

open Reference

/-- The stream ends while a request is waiting for its response.  Another one is
taken after that. -/
def streamEnded : List (CallEvent app Unit) := failing 0 ++ failing 1

theorem streamEnded_run : ∃ state,
    Run (CallState.Step Reference.utils 1) (.initial Reference.utils ()) streamEnded state ∧
      state.dispatcher.current = none :=
  ⟨_, (failing_run (Client.initial ()) rfl rfl rfl rfl).append
    (failing_run (Client.initial ()) rfl rfl rfl rfl), rfl⟩

/-- What the task does from the end of its stream on. -/
def afterStreamEnd : List (ClientEvent app Unit) :=
  ⟨.warn (.protocol "Connection closed"), ()⟩ :: tasks (failing 1)

theorem streamEnded_ended : Along endedLaw (tasks streamEnded) := by
  have hpolls : ∀ e ∈ tasks streamEnded, ∀ polled, poll? e = some polled → polled = none := by
    intro e he polled hpoll
    have hmem : polled ∈ polls (tasks streamEnded) := List.mem_filterMap.mpr ⟨e, he, hpoll⟩
    have hall : polls (tasks streamEnded) = [none, none] := rfl
    simpa [hall] using hmem
  refine (along_const.mpr hpolls).mono fun before e he => ?_
  cases e using forall_event with
  | frame raw => cases he _ rfl
  | error kind => cases he _ rfl
  | ends => exact fun _ => rfl
  | _ => trivial

theorem run_disconnected_streamEnded : ∃ state,
    Run (CallState.Step Reference.utils 1) (.initial Reference.utils ()) streamEnded state ∧
      taken afterStreamEnd = [toSomebody 1] ∧ (failures afterStreamEnd).length = 2 ∧
      deliveries (tasks streamEnded) = [] ∧ state.dispatcher.consumers 1 = .dropped := by
  obtain ⟨state, run, hcurrent⟩ := streamEnded_run
  have hsplit : tasks streamEnded =
      shipping 0 ++ (⟨.next, none⟩ : ClientEvent app Unit) :: afterStreamEnd := rfl
  obtain ⟨hdeliveries, -, -, -, hdropped, -⟩ := run_disconnected run streamEnded_ended hsplit
  have htaken : taken (tasks streamEnded) = [toSomebody 0, toSomebody 1] := rfl
  refine ⟨state, run, rfl, rfl, hdeliveries, hdropped (toSomebody 1) ?_ ?_ ?_⟩
  · simp [htaken]
  · exact fun _ => List.not_mem_nil
  · simp [hcurrent]

end Example

end CallState

end FourthServer
