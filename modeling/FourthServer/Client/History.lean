import FourthServer.Client.Points
import FourthServer.Library.Hooks

/-!
# Histories of a client task

What can be read off the events of `connection_main`: the requests taken, the
messages given to the traffic hooks, the frames sent and received, the ids
learnt and the responses delivered.  The `TargetRouter` of the task is a
function of the history: it is what the ids learnt so far add up to
(`run_knownRoutes`).
-/

namespace FourthServer

open Resumption Trace

namespace Client

variable {A : App} {P : Type}

/-! ## Reading a history -/

@[simp] def taken? : ClientEvent A P → Option (ClientRequest A)
  | ⟨.recv, some request⟩ => some request
  | _ => none

/-- The requests taken off the channel. -/
def taken (tr : List (ClientEvent A P)) : List (ClientRequest A) := tr.filterMap taken?

/-- The answer of a poll of the socket. -/
@[simp] def poll? : ClientEvent A P → Option (Option (Except ErrorKind Bytes))
  | ⟨.next, answer⟩ => some answer
  | _ => none

/-- The answers of `socket.next()`. -/
def polls (tr : List (ClientEvent A P)) : List (Option (Except ErrorKind Bytes)) :=
  tr.filterMap poll?

@[simp] def frame? : ClientEvent A P → Option Bytes
  | ⟨.next, some (.ok frame)⟩ => some frame
  | _ => none

/-- What takes a frame is a poll. -/
theorem frame?_of_poll? {e : ClientEvent A P} (h : poll? e = none) : frame? e = none := by
  obtain ⟨op, answer⟩ := e
  cases op with
  | next => simp at h
  | _ => rfl

/-- The frames `socket.next()` has yielded. -/
def received (tr : List (ClientEvent A P)) : List Bytes := tr.filterMap frame?

/-- The frame an event puts on the wire. -/
@[simp] def wire? : ClientEvent A P → Option Bytes
  | ⟨.send _ wire, .ok ()⟩ => some wire
  | _ => none

/-- The frames sent. -/
def wires (tr : List (ClientEvent A P)) : List Bytes := tr.filterMap wire?

@[simp] def learnt? : ClientEvent A P → Option (String × ℕ)
  | ⟨.insertRoute name id, _⟩ => some (name, id)
  | _ => none

/-- The ids inserted into the known routes. -/
def learnt (tr : List (ClientEvent A P)) : List (String × ℕ) := tr.filterMap learnt?

@[simp] def delivery? : ClientEvent A P → Option (ℕ × Bytes)
  | ⟨.deliver consumer response, _⟩ => some (consumer, response)
  | _ => none

/-- The responses handed to consumers. -/
def deliveries (tr : List (ClientEvent A P)) : List (ℕ × Bytes) := tr.filterMap delivery?

/-- The call of a traffic hook. -/
@[simp] def hook? : ClientEvent A P → Option (Hooks.Call P Bytes)
  | ⟨.preProcess before data, (after, read)⟩ => some ⟨false, before, data, after, read⟩
  | ⟨.postProcess before message, (after, wire)⟩ => some ⟨true, before, message, after, wire⟩
  | _ => none

/-- The calls of traffic hooks. -/
def hooks (tr : List (ClientEvent A P)) : List (Hooks.Call P Bytes) := tr.filterMap hook?

/-- The frames given to `pre_process_traffic`. -/
def inputs (tr : List (ClientEvent A P)) : List Bytes := Hooks.received (hooks tr)

/-- The responses, as `pre_process_traffic` returned them. -/
def responses (tr : List (ClientEvent A P)) : List Bytes := Hooks.receivedOutputs (hooks tr)

/-- The messages given to `post_process_traffic`. -/
def posts (tr : List (ClientEvent A P)) : List Bytes := Hooks.sent (hooks tr)

/-- The messages, as `post_process_traffic` returned them. -/
def outputs (tr : List (ClientEvent A P)) : List Bytes := Hooks.sentOutputs (hooks tr)

section Snoc

variable (tr : List (ClientEvent A P)) (e : ClientEvent A P)

@[simp] theorem taken_nil : taken ([] : List (ClientEvent A P)) = [] := rfl

@[simp] theorem taken_snoc : taken (tr ++ [e]) = taken tr ++ (taken? e).toList :=
  Trace.filterMap_snoc _ tr e

@[simp] theorem polls_nil : polls ([] : List (ClientEvent A P)) = [] := rfl

@[simp] theorem polls_snoc : polls (tr ++ [e]) = polls tr ++ (poll? e).toList :=
  Trace.filterMap_snoc _ tr e

@[simp] theorem received_nil : received ([] : List (ClientEvent A P)) = [] := rfl

@[simp] theorem received_snoc : received (tr ++ [e]) = received tr ++ (frame? e).toList :=
  Trace.filterMap_snoc _ tr e

@[simp] theorem wires_nil : wires ([] : List (ClientEvent A P)) = [] := rfl

@[simp] theorem wires_snoc : wires (tr ++ [e]) = wires tr ++ (wire? e).toList :=
  Trace.filterMap_snoc _ tr e

@[simp] theorem learnt_nil : learnt ([] : List (ClientEvent A P)) = [] := rfl

@[simp] theorem learnt_snoc : learnt (tr ++ [e]) = learnt tr ++ (learnt? e).toList :=
  Trace.filterMap_snoc _ tr e

@[simp] theorem deliveries_nil : deliveries ([] : List (ClientEvent A P)) = [] := rfl

@[simp] theorem deliveries_snoc :
    deliveries (tr ++ [e]) = deliveries tr ++ (delivery? e).toList :=
  Trace.filterMap_snoc _ tr e

@[simp] theorem hooks_nil : hooks ([] : List (ClientEvent A P)) = [] := rfl

@[simp] theorem hooks_snoc : hooks (tr ++ [e]) = hooks tr ++ (hook? e).toList :=
  Trace.filterMap_snoc _ tr e

@[simp] theorem inputs_nil : inputs ([] : List (ClientEvent A P)) = [] := rfl

@[simp] theorem inputs_snoc :
    inputs (tr ++ [e]) = inputs tr ++ Hooks.received (hook? e).toList := by
  simp only [inputs, hooks_snoc, Hooks.received_append]

@[simp] theorem responses_nil : responses ([] : List (ClientEvent A P)) = [] := rfl

@[simp] theorem responses_snoc :
    responses (tr ++ [e]) = responses tr ++ Hooks.receivedOutputs (hook? e).toList := by
  simp only [responses, hooks_snoc, Hooks.receivedOutputs_append]

@[simp] theorem posts_nil : posts ([] : List (ClientEvent A P)) = [] := rfl

@[simp] theorem posts_snoc :
    posts (tr ++ [e]) = posts tr ++ Hooks.sent (hook? e).toList := by
  simp only [posts, hooks_snoc, Hooks.sent_append]

@[simp] theorem outputs_nil : outputs ([] : List (ClientEvent A P)) = [] := rfl

@[simp] theorem outputs_snoc :
    outputs (tr ++ [e]) = outputs tr ++ Hooks.sentOutputs (hook? e).toList := by
  simp only [outputs, hooks_snoc, Hooks.sentOutputs_append]

end Snoc

/-! ## The variables of the task -/

/-- The variables that are live at a control point. -/
def Point.state? : Point A P → Option (ClientState P)
  | .top st => some st
  | .routing st _ _ _ => some st
  | .routeSending st _ _ _ => some st
  | .routeWaiting st _ _ => some st
  | .routeIn st _ _ _ => some st
  | .learning st _ _ _ => some st
  | .preparing st _ _ _ => some st
  | .preparingData st _ _ _ => some st
  | .metaSending st _ _ _ _ => some st
  | .payloadSending st _ _ _ => some st
  | .waiting st _ _ => some st
  | .responseIn st _ _ _ => some st
  | .delivering st _ _ _ => some st
  | .warning st _ => some st
  | .returned => none

variable {utils : Utils A} {tr : List (ClientEvent A P)} {pt next : Point A P}
  {e : ClientEvent A P}

theorem state?_afterId (st : ClientState P) (request : ClientRequest A) (id : ℕ) :
    (afterId utils st request id).state? = some st := by
  unfold afterId
  cases utils.toBytesMeta (metaOf request id) <;> rfl

theorem state?_entry (st : ClientState P) (request : ClientRequest A) :
    (entry utils st request).state? = some st := by
  unfold entry afterName
  repeat' split
  all_goals first
    | rfl
    | exact state?_afterId st request _

theorem state?_afterAnswer (st : ClientState P) (request : ClientRequest A) (name : String)
    (response : Bytes) : (afterAnswer utils st request name response).state? = some st := by
  unfold afterAnswer
  cases utils.accessAns response <;> rfl

/-- The known routes after a list of insertions. -/
def cacheOf (pairs : List (String × ℕ)) : List (String × ℕ) :=
  pairs.foldl (fun cache pair => rememberRoute cache pair.1 pair.2) []

@[simp] theorem cacheOf_nil : cacheOf [] = [] := rfl

@[simp] theorem cacheOf_snoc (pairs : List (String × ℕ)) (name : String) (id : ℕ) :
    cacheOf (pairs ++ [(name, id)]) = rememberRoute (cacheOf pairs) name id := by
  simp [cacheOf]

theorem lookupRoute_rememberRoute (cache : List (String × ℕ)) (route : String) (id : ℕ)
    (name : String) :
    lookupRoute (rememberRoute cache route id) name =
      if name = route then some id else lookupRoute cache name :=
  AssocMap.get?_insert route name id cache

/-- The variables of the task are what the history makes them. -/
structure Holds (processor : P) (tr : List (ClientEvent A P)) (pt : Point A P) : Prop where
  chained : Hooks.Chained processor (hooks tr)
  current : ∀ st, pt.state? = some st →
    st.processor = Hooks.last processor (hooks tr) ∧ st.knownRoutes = cacheOf (learnt tr)

theorem next_holds {processor : P} (h : Holds processor tr pt) (hnext : Next utils pt e next) :
    Holds processor (tr ++ [e]) next := by
  obtain ⟨hchained, hcurrent⟩ := h
  have hsilent {next : Point A P} (hhook : hook? e = none) (hlearnt : learnt? e = none)
      (hsame : ∀ st, next.state? = some st → pt.state? = some st) :
      Holds processor (tr ++ [e]) next := by
    have hhooks : hooks (tr ++ [e]) = hooks tr := by
      rw [hooks_snoc, hhook, Option.toList_none, List.append_nil]
    have hpairs : learnt (tr ++ [e]) = learnt tr := by
      rw [learnt_snoc, hlearnt, Option.toList_none, List.append_nil]
    refine ⟨?_, fun st hst => ?_⟩
    · rw [hhooks]
      exact hchained
    · rw [hhooks, hpairs]
      exact hcurrent st (hsame st hst)
  have hcalled {st : ClientState P} {call : Hooks.Call P Bytes} {next : Point A P}
      (hhook : hook? e = some call) (hlearnt : learnt? e = none) (hst : pt.state? = some st)
      (hbefore : call.before = st.processor)
      (hafter : next.state? = some { st with processor := call.after }) :
      Holds processor (tr ++ [e]) next := by
    obtain ⟨hprocessor, hroutes⟩ := hcurrent st hst
    have hpairs : learnt (tr ++ [e]) = learnt tr := by
      rw [learnt_snoc, hlearnt, Option.toList_none, List.append_nil]
    have hhooks : hooks (tr ++ [e]) = hooks tr ++ [call] := by
      rw [hooks_snoc, hhook, Option.toList_some]
    refine ⟨?_, fun st' hst' => ?_⟩
    · rw [hhooks]
      exact Hooks.chained_snoc.mpr ⟨hchained, hbefore.trans hprocessor⟩
    · rw [hafter] at hst'
      cases hst'
      rw [hhooks, hpairs]
      exact ⟨(Hooks.last_snoc _ _ _).symm, hroutes⟩
  cases hnext with
  | taken st request =>
      exact hsilent rfl rfl fun st' hst' => (state?_entry st request).symm.trans hst' ▸ rfl
  | drained st => exact hsilent rfl rfl fun st' hst' => nomatch hst'
  | answered st request name raw processor response =>
      exact hcalled rfl rfl rfl rfl (state?_afterAnswer _ _ _ _)
  | asked | prepared | preparedData | responseRead => exact hcalled rfl rfl rfl rfl rfl
  | learned st request name id =>
      obtain ⟨hprocessor, hroutes⟩ := hcurrent st rfl
      refine ⟨by simpa using hchained, fun st' hst' => ?_⟩
      rw [state?_afterId] at hst'
      cases hst'
      refine ⟨by simpa using hprocessor, ?_⟩
      show rememberRoute st.knownRoutes name id = _
      rw [hroutes, learnt_snoc]
      exact (cacheOf_snoc _ _ _).symm
  | _ => exact hsilent rfl rfl fun st' hst' => hst'

theorem run_holds {st : ClientState P} {processor : P} (hprocessor : st.processor = processor)
    (hroutes : st.knownRoutes = []) (run : Run (Next utils) (.top st) tr pt) :
    Holds processor tr pt := by
  refine run.invariant (I := Holds processor) ⟨trivial, ?_⟩ ?_
  · intro st' hst'
    cases hst'
    exact ⟨hprocessor, hroutes⟩
  · intro tr pt e next _ h hnext
    exact next_holds h hnext

/-! ## The request that is being worked on -/

/-- The request that is being worked on. -/
def Point.request? : Point A P → Option (ClientRequest A)
  | .top _ => none
  | .routing _ request _ _ => some request
  | .routeSending _ request _ _ => some request
  | .routeWaiting _ request _ => some request
  | .routeIn _ request _ _ => some request
  | .learning _ request _ _ => some request
  | .preparing _ request _ _ => some request
  | .preparingData _ request _ _ => some request
  | .metaSending _ request _ _ _ => some request
  | .payloadSending _ request _ _ => some request
  | .waiting _ request _ => some request
  | .responseIn _ request _ _ => some request
  | .delivering _ request _ _ => some request
  | .warning _ _ => none
  | .returned => none

/-- The request that is being worked on is the last one taken. -/
def Current (tr : List (ClientEvent A P)) (pt : Point A P) : Prop :=
  ∀ request, pt.request? = some request → ∃ earlier, taken tr = earlier ++ [request]

theorem request?_afterId (st : ClientState P) (request : ClientRequest A) (id : ℕ) :
    (afterId utils st request id).request? = none ∨
      (afterId utils st request id).request? = some request := by
  unfold afterId
  cases utils.toBytesMeta (metaOf request id) <;> simp [Point.request?]

theorem request?_entry (st : ClientState P) (request : ClientRequest A) :
    (entry utils st request).request? = none ∨
      (entry utils st request).request? = some request := by
  unfold entry afterName
  repeat' split
  all_goals first
    | exact request?_afterId st request _
    | simp [Point.request?]

theorem request?_afterAnswer (st : ClientState P) (request : ClientRequest A) (name : String)
    (response : Bytes) :
    (afterAnswer utils st request name response).request? = none ∨
      (afterAnswer utils st request name response).request? = some request := by
  unfold afterAnswer
  cases utils.accessAns response <;> simp [Point.request?]

theorem next_current (h : Current tr pt) (hnext : Next utils pt e next) :
    Current (tr ++ [e]) next := by
  intro request hrequest
  have hsame (htaken : taken? e = none)
      (hpoint : next.request? = none ∨ next.request? = pt.request?) :
      ∃ earlier, taken (tr ++ [e]) = earlier ++ [request] := by
    rw [taken_snoc, htaken, Option.toList_none, List.append_nil]
    rcases hpoint with hnone | hsome
    · exact absurd (hnone.symm.trans hrequest) (by simp)
    · exact h request (hsome ▸ hrequest)
  cases hnext with
  | taken st taken =>
      have hentry : _ ∨ (entry utils st taken).request? = some taken := request?_entry st taken
      rcases hentry with hnone | hsome
      · exact absurd (hnone.symm.trans hrequest) (by simp)
      · cases hsome.symm.trans hrequest
        exact ⟨_, taken_snoc _ _⟩
  | answered st taken name raw processor response =>
      exact hsame rfl (request?_afterAnswer _ _ _ _)
  | learned st taken name id => exact hsame rfl (request?_afterId _ _ _)
  | drained | routeUnsent | routeError | routeEnd | metaUnsent | payloadUnsent | responseError
  | responseEnd | delivered | warned => exact hsame rfl (.inl rfl)
  | _ => exact hsame rfl (.inr rfl)

theorem run_current {st : ClientState P} (run : Run (Next utils) (.top st) tr pt) :
    Current tr pt := by
  refine run.invariant (I := Current) (fun request hrequest => by cases hrequest) ?_
  intro tr pt e next _ h hnext
  exact next_current h hnext

/-! ## The length of a history -/

theorem length_posts_le (tr : List (ClientEvent A P)) : (posts tr).length ≤ tr.length := by
  unfold posts hooks
  rw [Hooks.sent, List.length_map]
  exact (List.length_filter_le _ _).trans (List.length_filterMap_le _ _)

/-- How far into the work on a request a control point is. -/
def Point.spent : Point A P → ℕ
  | .routing _ _ _ _ => 1
  | .routeSending _ _ _ _ => 2
  | .routeWaiting _ _ _ => 3
  | .routeIn _ _ _ _ => 4
  | .learning _ _ _ _ => 5
  | .preparing _ _ _ _ => 6
  | .preparingData _ _ _ _ => 7
  | .metaSending _ _ _ _ _ => 8
  | .payloadSending _ _ _ _ => 9
  | .waiting _ _ _ => 10
  | .responseIn _ _ _ _ => 11
  | .delivering _ _ _ _ => 12
  | .warning _ _ => 13
  | .top _ => 14
  | .returned => 15

theorem spent_afterId (utils : Utils A) (st : ClientState P) (request : ClientRequest A) (id : ℕ) :
    6 ≤ (afterId utils st request id).spent := by
  unfold afterId
  cases utils.toBytesMeta (metaOf request id) <;> simp [Point.spent]

theorem spent_entry (utils : Utils A) (st : ClientState P) (request : ClientRequest A) :
    1 ≤ (entry utils st request).spent := by
  have hid (id : ℕ) : 1 ≤ (afterId utils st request id).spent :=
    le_trans (by omega) (spent_afterId utils st request id)
  unfold entry afterName
  repeat' split
  all_goals first
    | exact hid _
    | simp [Point.spent]

theorem spent_afterAnswer (utils : Utils A) (st : ClientState P) (request : ClientRequest A)
    (name : String) (response : Bytes) :
    5 ≤ (afterAnswer utils st request name response).spent := by
  unfold afterAnswer
  cases utils.accessAns response <;> simp [Point.spent]

/-- The work on a request takes no more than fourteen steps. -/
theorem run_length {st : ClientState P} (run : Run (Next utils) (.top st) tr pt) :
    tr.length + 14 ≤ 14 * (taken tr).length + pt.spent := by
  refine run.invariant (I := fun tr pt => tr.length + 14 ≤ 14 * (taken tr).length + pt.spent)
    (by simp [Point.spent]) ?_
  intro tr pt e next _ h hnext
  rw [List.length_append, List.length_singleton, taken_snoc, List.length_append]
  cases hnext with
  | taken st request =>
      have hentry : 1 ≤ (entry utils st request).spent := spent_entry utils st request
      have hone : (taken? (⟨.recv, some request⟩ : ClientEvent A P)).toList.length = 1 := rfl
      have htop : (Point.top st : Point A P).spent = 14 := rfl
      omega
  | answered st request name raw processor response =>
      have hafter := spent_afterAnswer utils { st with processor := processor } request
        name response
      have hin : (Point.routeIn st request name raw : Point A P).spent = 4 := rfl
      omega
  | learned st request name id =>
      have hafter := spent_afterId utils
        { st with knownRoutes := rememberRoute st.knownRoutes name id } request id
      have hlearning : (Point.learning st request name id : Point A P).spent = 5 := rfl
      omega
  | _ =>
      simp only [Point.spent] at h ⊢
      omega

end Client

end FourthServer
