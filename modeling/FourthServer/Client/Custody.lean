import FourthServer.Client.Channels
import FourthServer.Model.Reference

/-!
# Where a request is

A request whose dispatch has succeeded is in the channel, or is being processed,
or its consumer has been resolved, and never two of these (`run_custody`).
-/

namespace FourthServer

open Resumption Trace

/-! ## Reading a history -/

namespace CallState

variable {A : App} {P : Type}

@[simp] def task? : CallEvent A P → Option (ClientEvent A P)
  | .task e => some e
  | _ => none

/-- The history of the connection task. -/
def tasks (tr : List (CallEvent A P)) : List (ClientEvent A P) := tr.filterMap task?

@[simp] def accepted? : CallEvent A P → Option (ClientRequest A)
  | .send request (.ok ()) => some request
  | _ => none

/-- The requests whose dispatch has succeeded. -/
def accepted (tr : List (CallEvent A P)) : List (ClientRequest A) := tr.filterMap accepted?

section Snoc

variable (tr : List (CallEvent A P)) (ev : CallEvent A P)

@[simp] theorem tasks_nil : tasks ([] : List (CallEvent A P)) = [] := rfl

@[simp] theorem tasks_snoc : tasks (tr ++ [ev]) = tasks tr ++ (task? ev).toList :=
  Trace.filterMap_snoc _ tr ev

@[simp] theorem accepted_nil : accepted ([] : List (CallEvent A P)) = [] := rfl

@[simp] theorem accepted_snoc : accepted (tr ++ [ev]) = accepted tr ++ (accepted? ev).toList :=
  Trace.filterMap_snoc _ tr ev

end Snoc

end CallState

/-! ## Custody -/

namespace CallState

variable {A : App} {P : Type} {utils : Utils A} {maxRequestInTime : ℕ} {processor : P}
  {tr : List (CallEvent A P)} {ev : CallEvent A P} {s t : Dispatcher A}
  {pt next : Client.Point A P} {state : CallState A P}

open Client

/-- The dispatcher knows whose request the task works on. -/
def Owned : Option ℕ → Client.Point A P → Prop
  | none, pt => Idle pt
  | some consumer, pt => Working consumer pt

/-- Where the accepted requests and their consumers are. -/
structure Custody (maxRequestInTime : ℕ) (tr : List (CallEvent A P)) (s : Dispatcher A)
    (pt : Client.Point A P) : Prop where
  sound : s.Sound maxRequestInTime
  /-- The task takes the requests in the order in which they were accepted. -/
  inOrder : s.rx = true → accepted tr = taken (tasks tr) ++ s.queue
  /-- No consumer is accepted twice. -/
  distinct : ((accepted tr).map (·.consumer)).Nodup
  used : ∀ request ∈ accepted tr, s.consumers request.consumer ≠ .unused
  owned : s.rx = true → Owned s.current pt
  /-- The task answers in the order in which it takes. -/
  answers : ((deliveries (tasks tr)).map Prod.fst ++ s.current.toList).Sublist
    ((taken (tasks tr)).map (·.consumer))
  takes : taken (tasks tr) <+: accepted tr
  answered : ∀ consumer data, s.consumers consumer = .answered data →
    (consumer, data) ∈ deliveries (tasks tr)
  /-- A response that has not been handed over had no receiver. -/
  delivered : ∀ consumer data, (consumer, data) ∈ deliveries (tasks tr) →
    s.consumers consumer = .answered data ∨
      s.consumers consumer = .dropped ∧ s.closed consumer = true

theorem initial_custody (st : ClientState P) :
    Custody maxRequestInTime ([] : List (CallEvent A P)) .initial (.top st) where
  sound := Dispatcher.initial_sound
  inOrder _ := rfl
  distinct := List.nodup_nil
  used _ h := by cases h
  owned _ := trivial
  answers := List.Sublist.refl _
  takes := List.prefix_rfl
  answered _ _ h := by cases h
  delivered _ _ h := by cases h

/-- The consumer of a request that has been taken hangs only while the request is
being processed. -/
theorem Custody.not_held (h : Custody maxRequestInTime tr s pt) {request : ClientRequest A}
    (htaken : request ∈ taken (tasks tr)) (hcurrent : s.current ≠ some request.consumer) :
    s.consumers request.consumer ≠ .held := by
  intro hheld
  have hmem := (h.sound.held _).mp hheld
  cases hrx : s.rx with
  | false =>
      rw [h.sound.gone hrx] at hmem
      cases hmem
  | true =>
      rw [Dispatcher.unresolved, List.mem_append, Option.mem_toList] at hmem
      rcases hmem with hmem | hqueue
      · exact hcurrent hmem
      · -- the same consumer cannot belong to a request in the channel
        have hdistinct := h.distinct
        rw [h.inOrder hrx, List.map_append] at hdistinct
        exact (List.nodup_append.mp hdistinct).2.2 _ (List.mem_map_of_mem htaken) _ hqueue rfl

/-- What was accepted and what was answered stays so. -/
theorem Custody.later (h : Custody maxRequestInTime tr s pt) (hlater : Dispatcher.Later s t) :
    (∀ request ∈ accepted tr, t.consumers request.consumer ≠ .unused) ∧
      (∀ consumer data, t.consumers consumer = .answered data →
        (consumer, data) ∈ deliveries (tasks tr)) ∧
      ∀ consumer data, (consumer, data) ∈ deliveries (tasks tr) →
        t.consumers consumer = .answered data ∨
          t.consumers consumer = .dropped ∧ t.closed consumer = true := by
  refine ⟨?_, ?_, ?_⟩
  · intro request hrequest hunused
    rcases hlater.fresh request.consumer with hsame | hheld | hdropped
    · exact h.used request hrequest (hsame ▸ hunused)
    · cases hheld.symm.trans hunused
    · cases hdropped.symm.trans hunused
  · intro consumer data hanswered
    rcases hlater.fresh consumer with hsame | hheld | hdropped
    · exact h.answered consumer data (hsame ▸ hanswered)
    · cases hheld.symm.trans hanswered
    · cases hdropped.symm.trans hanswered
  · intro consumer data hdelivery
    rcases h.delivered consumer data hdelivery with hanswered | ⟨hdropped, hclosed⟩
    · have hkeeps := hlater.keeps consumer (by simp [hanswered]) (by simp [hanswered])
      exact .inl (hkeeps.trans hanswered)
    · have hkeeps := hlater.keeps consumer (by simp [hdropped]) (by simp [hdropped])
      exact .inr ⟨hkeeps.trans hdropped, hlater.closed consumer hclosed⟩

theorem Custody.sent (h : Custody maxRequestInTime tr s pt) {request : ClientRequest A}
    (receiver : s.rx = true) (room : s.queue.length < maxRequestInTime)
    (fresh : s.consumers request.consumer = .unused) :
    Custody maxRequestInTime (tr ++ [.send request (.ok ())])
      { s with
        queue := s.queue ++ [request]
        consumers := Function.update s.consumers request.consumer .held } pt := by
  have haccepted : accepted (tr ++ [.send request (.ok ())]) = accepted tr ++ [request] :=
    accepted_snoc _ _
  have htasks : tasks (tr ++ [.send request (.ok ())]) = tasks tr := by simp
  have hlater : Dispatcher.Later s
      { s with
        queue := s.queue ++ [request]
        consumers := Function.update s.consumers request.consumer .held } :=
    Dispatcher.later_update (.inl fresh) (.inl rfl) rfl rfl
  obtain ⟨hused, hanswered, hdelivered⟩ := h.later hlater
  refine ⟨h.sound.send receiver room fresh, ?_, ?_, ?_, h.owned, ?_, ?_, ?_, ?_⟩
  · intro hrx
    rw [haccepted, htasks, h.inOrder hrx, List.append_assoc]
  · rw [haccepted, List.map_append, List.map_singleton]
    refine List.nodup_append'.mpr ⟨h.distinct, List.nodup_singleton _, ?_⟩
    rw [List.disjoint_singleton, List.mem_map]
    rintro ⟨earlier, hearlier, hconsumer⟩
    exact h.used earlier hearlier (hconsumer ▸ fresh)
  · intro request' hrequest'
    rw [haccepted, List.mem_append, List.mem_singleton] at hrequest'
    rcases hrequest' with hrequest' | rfl
    · exact hused request' hrequest'
    · show Function.update s.consumers request'.consumer .held request'.consumer ≠ .unused
      rw [Function.update_self]
      simp
  · rw [htasks]
    exact h.answers
  · rw [haccepted, htasks]
    exact h.takes.trans (List.prefix_append _ _)
  · rw [htasks]
    exact hanswered
  · rw [htasks]
    exact hdelivered

/-- An event by which no request is accepted, taken or answered. -/
theorem Custody.quiet (h : Custody maxRequestInTime tr s pt) (haccepted : accepted? ev = none)
    (htaken : taken (tasks (tr ++ [ev])) = taken (tasks tr))
    (hdeliveries : deliveries (tasks (tr ++ [ev])) = deliveries (tasks tr))
    (hsound : t.Sound maxRequestInTime) (hlater : Dispatcher.Later s t)
    (hqueue : t.rx = true → s.rx = true ∧ t.queue = s.queue)
    (howned : t.rx = true → Owned t.current next)
    (hcurrent : t.current.toList.Sublist s.current.toList) :
    Custody maxRequestInTime (tr ++ [ev]) t next := by
  obtain ⟨hused, hanswered, hdelivered⟩ := h.later hlater
  have hsame : accepted (tr ++ [ev]) = accepted tr := by
    rw [accepted_snoc, haccepted, Option.toList_none, List.append_nil]
  refine ⟨hsound, ?_, ?_, ?_, howned, ?_, ?_, ?_, ?_⟩
  · intro hrx
    obtain ⟨hrx', hqueue⟩ := hqueue hrx
    rw [hsame, htaken, hqueue]
    exact h.inOrder hrx'
  · rw [hsame]
    exact h.distinct
  · rw [hsame]
    exact hused
  · rw [htaken, hdeliveries]
    exact (List.Sublist.append_left hcurrent _).trans h.answers
  · rw [hsame, htaken]
    exact h.takes
  · rw [hdeliveries]
    exact hanswered
  · rw [hdeliveries]
    exact hdelivered

theorem accepted_task (e : ClientEvent A P) : accepted (tr ++ [.task e]) = accepted tr := by
  rw [accepted_snoc]
  exact List.append_nil _

theorem tasks_task (e : ClientEvent A P) : tasks (tr ++ [.task e]) = tasks tr ++ [e] :=
  tasks_snoc _ _

theorem tasks_of_caller (own : ∀ e, ev ≠ .task e) : tasks (tr ++ [ev]) = tasks tr := by
  rw [tasks_snoc]
  cases ev with
  | task e => exact absurd rfl (own e)
  | _ => exact List.append_nil _

theorem Custody.take (h : Custody maxRequestInTime tr s pt) {request : ClientRequest A}
    {rest : List (ClientRequest A)} (receiver : s.rx = true) (head : s.queue = request :: rest)
    (hnext : Next utils pt ⟨.recv, some request⟩ next) :
    Custody maxRequestInTime (tr ++ [.task ⟨.recv, some request⟩])
      { s with queue := rest, current := some request.consumer } next := by
  obtain ⟨hidle, hworking⟩ := hnext.take
  have hcurrent : s.current = none := by
    cases hcurrent : s.current with
    | none => rfl
    | some consumer =>
        have howned := h.owned receiver
        rw [hcurrent] at howned
        exact absurd hidle howned.1
  have htaken : taken (tasks tr ++ [⟨.recv, some request⟩]) = taken (tasks tr) ++ [request] :=
    taken_snoc _ _
  have hdeliveries : deliveries (tasks tr ++ [(⟨.recv, some request⟩ : ClientEvent A P)]) =
      deliveries (tasks tr) := by
    rw [deliveries_snoc]
    exact List.append_nil _
  have horder : accepted tr = taken (tasks tr) ++ [request] ++ rest := by
    rw [h.inOrder receiver, head, List.append_assoc, List.singleton_append]
  refine ⟨h.sound.take hcurrent head receiver, ?_, ?_, ?_, fun _ => hworking, ?_, ?_, ?_, ?_⟩
  · intro _
    rw [accepted_task, tasks_task, htaken, horder]
  · rw [accepted_task]
    exact h.distinct
  · rw [accepted_task]
    exact h.used
  · rw [tasks_task, htaken, hdeliveries, List.map_append, List.map_singleton]
    have hbefore := h.answers
    rw [hcurrent, Option.toList_none, List.append_nil] at hbefore
    exact hbefore.append (List.Sublist.refl _)
  · rw [accepted_task, tasks_task, htaken, horder]
    exact List.prefix_append _ _
  · rw [tasks_task, hdeliveries]
    exact h.answered
  · rw [tasks_task, hdeliveries]
    exact h.delivered

/-- A response is for the request that is being processed. -/
theorem Custody.current_of_deliver (h : Custody maxRequestInTime tr s pt) {consumer : ℕ}
    {data : Bytes} {res : Except Bytes Unit} (receiver : s.rx = true)
    (hnext : Next utils pt ⟨.deliver consumer data, res⟩ next) : s.current = some consumer := by
  have howned := h.owned receiver
  cases hcurrent : s.current with
  | none =>
      rw [hcurrent] at howned
      exact absurd howned hnext.not_idle_of_deliver
  | some consumer' =>
      rw [hcurrent] at howned
      rw [(hnext.deliver howned).1]

theorem Custody.deliver (h : Custody maxRequestInTime tr s pt) {consumer : ℕ} {data : Bytes}
    {res : Except Bytes Unit} (receiver : s.rx = true)
    (hnext : Next utils pt ⟨.deliver consumer data, res⟩ next) :
    Custody maxRequestInTime (tr ++ [.task ⟨.deliver consumer data, res⟩])
      (s.answer consumer data) next := by
  have hcurrent := h.current_of_deliver receiver hnext
  have hidle : Idle next := by
    have howned := h.owned receiver
    rw [hcurrent] at howned
    exact (hnext.deliver howned).2
  have htaken : taken (tasks tr ++ [⟨.deliver consumer data, res⟩]) = taken (tasks tr) := by
    rw [taken_snoc]
    exact List.append_nil _
  have hdeliveries : deliveries (tasks tr ++ [⟨.deliver consumer data, res⟩]) =
      deliveries (tasks tr) ++ [(consumer, data)] := deliveries_snoc _ _
  have hheld : s.consumers consumer = .held :=
    (h.sound.held consumer).mpr (by simp [Dispatcher.unresolved, hcurrent])
  have hsound : (s.answer consumer data).Sound maxRequestInTime := by
    refine h.sound.resolve hcurrent ?_ receiver
    split <;> simp
  have hself : (s.answer consumer data).consumers consumer =
      if s.closed consumer then .dropped else .answered data := Function.update_self ..
  have hother {consumer' : ℕ} (hne : consumer' ≠ consumer) :
      (s.answer consumer data).consumers consumer' = s.consumers consumer' :=
    Function.update_of_ne hne ..
  refine ⟨hsound, ?_, ?_, ?_, fun _ => hidle, ?_, ?_, ?_, ?_⟩
  · intro hrx
    rw [accepted_task, tasks_task, htaken]
    exact h.inOrder hrx
  · rw [accepted_task]
    exact h.distinct
  · intro request hrequest
    rw [accepted_task] at hrequest
    by_cases hconsumer : request.consumer = consumer
    · rw [hconsumer, hself]
      split <;> simp
    · rw [hother hconsumer]
      exact h.used request hrequest
  · rw [tasks_task, htaken, hdeliveries, List.map_append, List.map_singleton]
    have hbefore := h.answers
    rw [hcurrent] at hbefore
    exact (List.append_nil _).symm ▸ hbefore
  · rw [accepted_task, tasks_task, htaken]
    exact h.takes
  · intro consumer' data' hanswered
    rw [tasks_task, hdeliveries, List.mem_append, List.mem_singleton]
    by_cases hconsumer : consumer' = consumer
    · subst hconsumer
      rw [hself] at hanswered
      split at hanswered
      · cases hanswered
      · cases hanswered
        exact .inr rfl
    · rw [hother hconsumer] at hanswered
      exact .inl (h.answered consumer' data' hanswered)
  · intro consumer' data' hdelivery
    rw [tasks_task, hdeliveries, List.mem_append, List.mem_singleton] at hdelivery
    rcases hdelivery with hdelivery | hdelivery
    · have hbefore := h.delivered consumer' data' hdelivery
      have hne : consumer' ≠ consumer := by
        rintro rfl
        rw [hheld] at hbefore
        simp at hbefore
      rw [hother hne]
      exact hbefore
    · cases hdelivery
      rw [hself]
      cases hclosed : s.closed consumer with
      | true => exact .inr ⟨rfl, hclosed⟩
      | false => exact .inl rfl

theorem taskStep_custody (h : Custody maxRequestInTime tr s pt) {e : ClientEvent A P}
    (receiver : s.rx = true) (step : Dispatcher.TaskStep s e t) (hnext : Next utils pt e next) :
    Custody maxRequestInTime (tr ++ [.task e]) t next := by
  have howned := h.owned receiver
  have hquiet (htaken : taken? e = none) (hdelivery : delivery? e = none)
      (hsound : t.Sound maxRequestInTime) (hlater : Dispatcher.Later s t)
      (hqueue : t.rx = true → t.queue = s.queue) (howned : t.rx = true → Owned t.current next)
      (hcurrent : t.current.toList.Sublist s.current.toList) :
      Custody maxRequestInTime (tr ++ [.task e]) t next := by
    refine h.quiet rfl ?_ ?_ hsound hlater (fun hrx => ⟨receiver, hqueue hrx⟩) howned hcurrent
    · rw [tasks_task, taken_snoc, htaken, Option.toList_none, List.append_nil]
    · rw [tasks_task, deliveries_snoc, hdelivery, Option.toList_none, List.append_nil]
  have hsilent (hsame : t = s) (htaken : taken? e = none) (hdelivery : delivery? e = none)
      (hsilent : Silent e) : Custody maxRequestInTime (tr ++ [.task e]) t next := by
    subst hsame
    refine hquiet htaken hdelivery h.sound (Dispatcher.later_refl t) (fun _ => rfl) (fun _ => ?_)
      (List.Sublist.refl _)
    obtain ⟨hidle, hworking⟩ := hnext.silent hsilent
    cases hcurrent : t.current with
    | none =>
        rw [hcurrent] at howned
        exact absurd howned hidle
    | some consumer =>
        rw [hcurrent] at howned
        exact hworking consumer howned
  cases step with
  | take head => exact h.take receiver head hnext
  | drained empty gone =>
      obtain ⟨hidle, rfl⟩ := hnext.drain
      have hcurrent : s.current = none := by
        cases hcurrent : s.current with
        | none => rfl
        | some consumer =>
            rw [hcurrent] at howned
            exact absurd hidle howned.1
      refine hquiet rfl rfl (h.sound.dropReceiver hcurrent) h.sound.later_dropReceiver
        (fun _ => empty.symm) (fun hrx => by cases hrx) (List.Sublist.refl _)
  | deliver consumer data => exact h.deliver receiver hnext
  | warn error =>
      refine hquiet rfl rfl (h.sound.dropCurrent receiver) h.sound.later_dropCurrent (fun _ => rfl)
        (fun _ => hnext.warn.2) (List.nil_sublist _)
  | next | send | preProcess | postProcess | insertRoute => exact hsilent rfl rfl rfl trivial

theorem callerStep_custody (h : Custody maxRequestInTime tr s pt) (own : ∀ e, ev ≠ .task e)
    (step : Dispatcher.Step maxRequestInTime s ev t) :
    Custody maxRequestInTime (tr ++ [ev]) t pt := by
  have htasks : tasks (tr ++ [ev]) = tasks tr := tasks_of_caller own
  have hquiet (haccepted : accepted? ev = none) (hsound : t.Sound maxRequestInTime)
      (hlater : Dispatcher.Later s t) (hqueue : t.rx = true → s.rx = true ∧ t.queue = s.queue)
      (howned : t.rx = true → t.current = s.current)
      (hcurrent : t.current.toList.Sublist s.current.toList) :
      Custody maxRequestInTime (tr ++ [ev]) t pt := by
    refine h.quiet haccepted (by rw [htasks]) (by rw [htasks]) hsound hlater hqueue (fun hrx => ?_)
      hcurrent
    rw [howned hrx]
    exact h.owned (hqueue hrx).1
  cases step with
  | sent handle receiver room fresh => exact h.sent receiver room fresh
  | refused handle receiver fresh =>
      exact hquiet rfl (h.sound.reject fresh)
        (Dispatcher.later_update (.inl fresh) (.inr rfl) rfl rfl) (fun hrx => ⟨hrx, rfl⟩)
        (fun _ => rfl) (List.Sublist.refl _)
  | cancelled handle fresh =>
      exact hquiet rfl (h.sound.reject fresh)
        (Dispatcher.later_update (.inl fresh) (.inr rfl) rfl rfl) (fun hrx => ⟨hrx, rfl⟩)
        (fun _ => rfl) (List.Sublist.refl _)
  | released handle =>
      exact hquiet rfl ⟨h.sound.room, h.sound.distinct, h.sound.held, h.sound.gone⟩
        ⟨fun _ _ _ => rfl, fun _ => .inl rfl, fun _ h => h⟩ (fun hrx => ⟨hrx, rfl⟩)
        (fun _ => rfl) (List.Sublist.refl _)
  | closed consumer =>
      refine hquiet rfl ⟨h.sound.room, h.sound.distinct, h.sound.held, h.sound.gone⟩
        ⟨fun _ _ _ => rfl, fun _ => .inl rfl, fun other hother => ?_⟩ (fun hrx => ⟨hrx, rfl⟩)
        (fun _ => rfl) (List.Sublist.refl _)
      show Function.update s.closed consumer true other = true
      rw [Function.update_apply, hother, ite_self]
  | task receiver step => exact absurd rfl (own _)
  | aborted receiver =>
      have hsound := h.sound.dropCurrent receiver
      exact hquiet rfl (hsound.dropReceiver rfl)
        (h.sound.later_dropCurrent.trans hsound.later_dropReceiver) (fun hrx => by cases hrx)
        (fun hrx => by cases hrx) (List.nil_sublist _)

/-- The connection task is always at a control point, and the requests are
accounted for. -/
theorem run_placed
    (run : Run (CallState.Step utils maxRequestInTime) (.initial utils processor) tr state) :
    ∃ pt, state.task = pt.task utils ∧
      Run (Next utils) (.top (Client.initial processor)) (tasks tr) pt ∧
      Custody maxRequestInTime tr state.dispatcher pt := by
  refine run.invariant (I := fun tr state => ∃ pt, state.task = Client.Point.task utils pt ∧
      Run (Next utils) (.top (Client.initial processor)) (tasks tr) pt ∧
      Custody maxRequestInTime tr state.dispatcher pt)
    ⟨.top (Client.initial processor), rfl, Run.nil, initial_custody _⟩ ?_
  rintro tr state ev after - ⟨pt, htask, hrun, hcustody⟩ step
  cases step with
  | caller own step =>
      rw [tasks_of_caller own]
      exact ⟨pt, htask, hrun, callerStep_custody hcustody own step⟩
  | task step resume =>
      cases step with
      | task receiver step =>
          rw [htask] at resume
          obtain ⟨next, hnext, hafter⟩ := next_of_step resume
          refine ⟨next, hafter, ?_, taskStep_custody hcustody receiver step hnext⟩
          rw [tasks_task]
          exact hrun.snoc hnext

theorem step_of_points {e : ClientEvent A P} (receiver : s.rx = true)
    (hnext : Next utils pt e next) (step : Dispatcher.TaskStep s e t) :
    CallState.Step utils maxRequestInTime ⟨s, pt.task utils⟩ (.task e) ⟨t, next.task utils⟩ :=
  .task (.task receiver step) (step_of_next hnext)

/-- **Custody.**  However the callers and the task take turns, the task takes
the requests in the order in which they were accepted and hands responses over
in that order, at most one for each.  The consumers that hang are exactly those of
the requests in the channel and of the one being processed, at most
`max_request_in_time + 1` of them.  Any other accepted request has had its
response, or its consumer has been dropped; a response in hand is dropped only
if its receiver is gone. -/
theorem run_custody
    (run : Run (CallState.Step utils maxRequestInTime) (.initial utils processor) tr state) :
    ((accepted tr).map (·.consumer)).Nodup ∧
      taken (tasks tr) <+: accepted tr ∧
      ((deliveries (tasks tr)).map Prod.fst).Sublist ((accepted tr).map (·.consumer)) ∧
      (state.dispatcher.rx = true → accepted tr = taken (tasks tr) ++ state.dispatcher.queue) ∧
      state.dispatcher.unresolved.Nodup ∧
      state.dispatcher.unresolved.length ≤ maxRequestInTime + 1 ∧
      (∀ consumer, state.dispatcher.consumers consumer = .held ↔
        consumer ∈ state.dispatcher.unresolved) ∧
      ∀ request ∈ accepted tr, match state.dispatcher.consumers request.consumer with
        | .unused => False
        | .held => request.consumer ∈ state.dispatcher.unresolved
        | .answered data => (request.consumer, data) ∈ deliveries (tasks tr)
        | .dropped => ∀ data, (request.consumer, data) ∈ deliveries (tasks tr) →
            state.dispatcher.closed request.consumer = true := by
  obtain ⟨pt, -, -, h⟩ := run_placed run
  refine ⟨h.distinct, h.takes, ?_, h.inOrder, h.sound.distinct, ?_, h.sound.held, ?_⟩
  · exact ((List.sublist_append_left _ _).trans h.answers).trans
      (h.takes.sublist.map (·.consumer))
  · have hroom := h.sound.room
    have hone : state.dispatcher.current.toList.length ≤ 1 := by
      cases state.dispatcher.current <;> simp
    rw [Dispatcher.unresolved, List.length_append, List.length_map]
    omega
  · intro request hrequest
    cases hconsumer : state.dispatcher.consumers request.consumer with
    | unused => exact h.used request hrequest hconsumer
    | held => exact (h.sound.held _).mp hconsumer
    | answered data => exact h.answered _ _ hconsumer
    | dropped =>
        intro data hdelivery
        rcases h.delivered _ _ hdelivery with hanswered | ⟨-, hclosed⟩
        · cases hconsumer.symm.trans hanswered
        · exact hclosed

section Example

open Reference

/-- A request with one byte of data for the handler with the id 0. -/
def toSomebody (consumer : ℕ) : ClientRequest app := ⟨⟨.newId 0, [1], true⟩, consumer⟩

/-- What the task does for it up to the wait for a response. -/
def shipping (consumer : ℕ) : List (ClientEvent app Unit) :=
  [⟨.recv, some (toSomebody consumer)⟩,
    ⟨.postProcess () (metaBytes (metaOf (toSomebody consumer) 0)),
      ((), metaBytes (metaOf (toSomebody consumer) 0))⟩,
    ⟨.postProcess () [1], ((), [1])⟩,
    ⟨.send .metaFrame (metaBytes (metaOf (toSomebody consumer) 0)), .ok ()⟩,
    ⟨.send .payload [1], .ok ()⟩]

theorem shipping_run {s : Dispatcher app} {consumer : ℕ} {rest : List (ClientRequest app)}
    (st : ClientState Unit) (receiver : s.rx = true)
    (head : s.queue = toSomebody consumer :: rest) :
    Run (CallState.Step Reference.utils maxRequestInTime)
      ⟨s, (Point.top st).task Reference.utils⟩ ((shipping consumer).map .task)
      ⟨{ s with queue := rest, current := some consumer },
        (Point.waiting st (toSomebody consumer) 0).task Reference.utils⟩ :=
  Run.cons (step_of_points receiver (.taken st (toSomebody consumer)) (.take head)) <|
  Run.cons (step_of_points receiver (.prepared st (toSomebody consumer) 0 _ _ _)
    (.postProcess ..)) <|
  Run.cons (step_of_points receiver (.preparedData st (toSomebody consumer) 0 _ _ _)
    (.postProcess ..)) <|
  Run.cons (step_of_points receiver (.metaSent st (toSomebody consumer) 0 _ _) (.send ..)) <|
  Run.single (step_of_points receiver (.payloadSent st (toSomebody consumer) 0 _) (.send ..))

/-- One request is answered, and another one is in the channel. -/
def answeredOnce : List (CallEvent app Unit) :=
  [.send (toSomebody 0) (.ok ())] ++ (shipping 0).map .task ++
    [.task ⟨.next, some (.ok [7])⟩, .task ⟨.preProcess () [7], ((), [7])⟩,
      .task ⟨.deliver 0 [7], .ok ()⟩, .send (toSomebody 1) (.ok ())]

/-- The channel has room for one request. -/
theorem sent_step (s : CallState app Unit) (request : ClientRequest app)
    (handle : s.dispatcher.tx = true) (receiver : s.dispatcher.rx = true)
    (hempty : s.dispatcher.queue = [])
    (fresh : s.dispatcher.consumers request.consumer = .unused) :
    CallState.Step Reference.utils 1 s (.send request (.ok ()))
      { s with
        dispatcher := { s.dispatcher with
          queue := s.dispatcher.queue ++ [request]
          consumers := Function.update s.dispatcher.consumers request.consumer .held } } :=
  .caller (by simp) (.sent handle receiver (by simp [hempty]) fresh)

theorem answeredOnce_run : ∃ state,
    Run (CallState.Step Reference.utils 1) (.initial Reference.utils ()) answeredOnce state ∧
      state.dispatcher.consumers 0 = .answered [7] ∧ state.dispatcher.unresolved = [1] :=
  ⟨_, ((Run.single (sent_step _ (toSomebody 0) rfl rfl rfl rfl)).append
    (shipping_run (Client.initial ()) rfl rfl)).append <|
    Run.cons (step_of_points rfl (.responseFrame (Client.initial ()) _ 0 [7]) (.next _)) <|
    Run.cons (step_of_points rfl (.responseRead (Client.initial ()) _ 0 [7] () [7])
      (.preProcess ..)) <|
    Run.cons (step_of_points rfl (.delivered (Client.initial ()) _ 0 [7] _) (.deliver 0 [7])) <|
    Run.single (sent_step _ (toSomebody 1) rfl rfl rfl rfl), rfl, rfl⟩

/-- The stream ends before the request is answered, and the request fails. -/
def failing (consumer : ℕ) : List (CallEvent app Unit) :=
  .send (toSomebody consumer) (.ok ()) :: (shipping consumer ++ ([⟨.next, none⟩,
    ⟨.warn (.protocol "Connection closed"), ()⟩] : List (ClientEvent app Unit))).map .task

theorem failing_run {s : Dispatcher app} {consumer : ℕ} (st : ClientState Unit)
    (handle : s.tx = true) (receiver : s.rx = true) (hempty : s.queue = [])
    (fresh : s.consumers consumer = .unused) :
    Run (CallState.Step Reference.utils 1) ⟨s, (Point.top st).task Reference.utils⟩
      (failing consumer)
      ⟨Dispatcher.dropCurrent { s with
          queue := []
          current := some consumer
          consumers := Function.update s.consumers consumer .held },
        (Point.top st).task Reference.utils⟩ := by
  obtain ⟨queue, tx, rx, current, consumers, closed⟩ := s
  obtain rfl : queue = [] := hempty
  obtain rfl : rx = true := receiver
  rw [failing, List.map_append]
  exact Run.cons (sent_step _ (toSomebody consumer) handle rfl rfl fresh) <|
    (shipping_run st rfl rfl).append <|
    Run.cons (step_of_points rfl (.responseEnd st (toSomebody consumer) 0) (.next _)) <|
    Run.single (step_of_points rfl (.warned st _) (.warn _))

theorem run_custody_answeredOnce : ∃ state, Run (CallState.Step Reference.utils 1)
    (.initial Reference.utils ()) answeredOnce state ∧
      state.dispatcher.consumers 0 = .answered [7] ∧
      (0, [7]) ∈ deliveries (tasks answeredOnce) ∧
      ∀ consumer, state.dispatcher.consumers consumer = .held ↔ consumer = 1 := by
  obtain ⟨state, run, hanswered, hunresolved⟩ := answeredOnce_run
  obtain ⟨-, -, -, -, -, -, hheld, hcases⟩ := run_custody run
  have hresponse := hcases (toSomebody 0) (by simp [answeredOnce, accepted, accepted?])
  have hfirst : state.dispatcher.consumers (toSomebody 0).consumer = .answered [7] := hanswered
  rw [hfirst] at hresponse
  refine ⟨state, run, hanswered, hresponse, fun consumer => ?_⟩
  rw [hheld, hunresolved, List.mem_singleton]

end Example

end CallState

end FourthServer
