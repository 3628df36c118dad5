import FourthServer.Client.Custody

/-!
# Once a request is resolved

A consumer that does not hang any more stays as it is (`run_keeps`), and none hangs
for longer than until the task takes the request after its own (`length_taken_le`).
-/

namespace FourthServer

open Resumption Trace

namespace CallState

variable {A : App} {P : Type} {utils : Utils A} {maxRequestInTime : ℕ} {processor : P}
  {tr rest : List (CallEvent A P)} {ev : CallEvent A P} {s t : Dispatcher A}
  {pt next : Client.Point A P} {state after : CallState A P} {consumer : ℕ}

open Client

theorem taskStep_keeps (h : Custody maxRequestInTime tr s pt) {e : ClientEvent A P}
    (receiver : s.rx = true) (step : Dispatcher.TaskStep s e t) (hnext : Next utils pt e next)
    (hused : s.consumers consumer ≠ .unused) (hheld : s.consumers consumer ≠ .held) :
    t.consumers consumer = s.consumers consumer := by
  cases step with
  | drained => exact h.sound.later_dropReceiver.keeps consumer hused hheld
  | deliver other data =>
      have hcurrent := h.current_of_deliver receiver hnext
      refine Function.update_of_ne ?_ ..
      rintro rfl
      exact hheld ((h.sound.held _).mpr (by simp [Dispatcher.unresolved, hcurrent]))
  | warn error => exact h.sound.later_dropCurrent.keeps consumer hused hheld
  | _ => rfl

theorem callerStep_keeps (h : Custody maxRequestInTime tr s pt) (own : ∀ e, ev ≠ .task e)
    (step : Dispatcher.Step maxRequestInTime s ev t) (hused : s.consumers consumer ≠ .unused)
    (hheld : s.consumers consumer ≠ .held) : t.consumers consumer = s.consumers consumer := by
  cases step with
  | sent _ _ _ fresh | refused _ _ fresh | cancelled _ fresh =>
      refine Function.update_of_ne ?_ ..
      rintro rfl
      exact hused fresh
  | released | closed => rfl
  | task => exact absurd rfl (own _)
  | aborted receiver =>
      have hsound := h.sound.dropCurrent receiver
      have hlater := h.sound.later_dropCurrent.trans hsound.later_dropReceiver
      exact hlater.keeps consumer hused hheld

/-- Who does not hang any more stays as it is. -/
theorem run_keeps
    (run : Run (CallState.Step utils maxRequestInTime) (.initial utils processor) tr state)
    (hrest : Run (CallState.Step utils maxRequestInTime) state rest after)
    (hused : state.dispatcher.consumers consumer ≠ .unused)
    (hheld : state.dispatcher.consumers consumer ≠ .held) :
    after.dispatcher.consumers consumer = state.dispatcher.consumers consumer := by
  induction hrest with
  | nil => rfl
  | snoc hbefore step ih =>
      obtain ⟨pt, htask, -, h⟩ := run_placed (run.append hbefore)
      rw [← ih] at hused hheld ⊢
      cases step with
      | caller own step => exact callerStep_keeps h own step hused hheld
      | task step resume =>
          cases step with
          | task receiver step =>
              rw [htask] at resume
              obtain ⟨next, hnext, -⟩ := next_of_step resume
              exact taskStep_keeps h receiver step hnext hused hheld

theorem taskStep_current {e : ClientEvent A P} (step : Dispatcher.TaskStep s e t)
    (hcurrent : t.current = some consumer) :
    (∃ request, taken? e = some request ∧ request.consumer = consumer) ∨
      taken? e = none ∧ s.current = some consumer := by
  cases step with
  | take => exact .inl ⟨_, rfl, Option.some_injective _ hcurrent⟩
  | deliver | warn => cases hcurrent
  | _ => exact .inr ⟨rfl, hcurrent⟩

/-- The request that is being processed is the last one taken. -/
theorem run_current
    (run : Run (CallState.Step utils maxRequestInTime) (.initial utils processor) tr state) :
    ∀ consumer, state.dispatcher.current = some consumer →
      ∃ before request, taken (tasks tr) = before ++ [request] ∧ request.consumer = consumer := by
  refine run.invariant (I := fun tr state => ∀ consumer, state.dispatcher.current = some consumer →
    ∃ before request, taken (tasks tr) = before ++ [request] ∧ request.consumer = consumer)
    (fun _ h => by cases h) ?_
  intro tr state ev after _ ih step consumer hcurrent
  cases step with
  | caller own step =>
      rw [tasks_of_caller own]
      cases step with
      | task => exact absurd rfl (own _)
      | aborted => cases hcurrent
      | _ => exact ih consumer hcurrent
  | task step resume =>
      cases step with
      | task receiver step =>
          rw [tasks_task, taken_snoc]
          rcases taskStep_current step hcurrent with ⟨request, htaken, hconsumer⟩ | ⟨htaken, hsame⟩
          · rw [htaken]
            exact ⟨_, request, rfl, hconsumer⟩
          · rw [htaken, Option.toList_none, List.append_nil]
            exact ih consumer hsame

/-- A consumer hangs no longer than until a request is taken that was accepted after its
own. -/
theorem length_taken_le
    (run : Run (CallState.Step utils maxRequestInTime) (.initial utils processor) tr state)
    {requests : List (ClientRequest A)} (hrequests : requests <+: accepted tr)
    {request : ClientRequest A} (hmem : request ∈ requests)
    (hheld : state.dispatcher.consumers request.consumer = .held) :
    (taken (tasks tr)).length ≤ requests.length := by
  obtain ⟨pt, -, -, h⟩ := run_placed run
  have hunresolved := (h.sound.held _).mp hheld
  have halive : state.dispatcher.rx = true := by
    cases hrx : state.dispatcher.rx with
    | true => rfl
    | false =>
        rw [h.sound.gone hrx] at hunresolved
        cases hunresolved
  have horder := h.inOrder halive
  have hdistinct := h.distinct
  by_contra hlonger
  -- the request has been taken, and another one after it
  obtain ⟨between, hbetween⟩ := List.prefix_of_prefix_length_le hrequests h.takes (by omega)
  rw [horder, List.map_append, ← hbetween, List.map_append, List.append_assoc] at hdistinct
  have hlater := List.disjoint_of_nodup_append hdistinct (List.mem_map_of_mem hmem)
  refine hlater (List.mem_append.mpr ?_)
  rcases List.mem_append.mp hunresolved with hcurrent | hqueue
  · obtain ⟨before, last, hlast, hconsumer⟩ := run_current run _ (Option.mem_toList.mp hcurrent)
    rcases List.eq_nil_or_concat between with rfl | ⟨others, final, rfl⟩
    · rw [List.append_nil] at hbetween
      exact absurd (congrArg List.length hbetween).ge hlonger
    · rw [List.concat_eq_append, ← List.append_assoc] at hbetween
      obtain ⟨-, hfinal⟩ := List.append_inj' (hbetween.trans hlast) rfl
      cases hfinal
      exact .inl (List.mem_map.mpr ⟨last, by simp, hconsumer⟩)
  · exact .inr hqueue

end CallState

end FourthServer
