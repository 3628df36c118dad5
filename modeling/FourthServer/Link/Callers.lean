import FourthServer.Client.Resolution
import FourthServer.Link.Sequential

/-!
# From caller to handler and back

Callers dispatch requests to a client, whose connection task is connected with a
connection task of a server.  What a caller gets is what the sequential program
gives for the requests accepted by then, whatever the turns of the callers and of
the two tasks, and where neither task can go on every caller has got it
(`run_callers`).
-/

namespace FourthServer

open Resumption Trace Duplex Comparison Client Connection CallState

namespace Link

/-- The channels of the callers, and the two tasks with the connection between
them. -/
structure CallLink (A : App) (P Q : Type) where
  dispatcher : Dispatcher A
  link : State (ClientM A P (ClientState P ⊕ Unit)) (ServerM A Q (ConnectionState Q ⊕ Unit)) Bytes
    Bytes

abbrev CallLinkEvent (A : App) (P Q : Type) := CallEvent A P ⊕ ServerEvent A Q

namespace CallLink

variable {A : App} {P Q : Type} (utils : Utils A) (router : TfServerRouter A) (addr : SocketAddr)
  (maxRequestInTime : ℕ)

/-- Both tasks before their loops, and the callers before their first request. -/
def start (processor : P) (holder : Q) (channel : ℕ) : CallLink A P Q where
  dispatcher := .initial
  link := Link.start utils router addr processor holder channel

/-- The callers act alone, the client with its end of the channels, the server
alone. -/
inductive Step : CallLink A P Q → CallLinkEvent A P Q → CallLink A P Q → Prop
  | caller {s : CallLink A P Q} {dispatcher : Dispatcher A} {ev : CallEvent A P}
      (own : ∀ e, ev ≠ .task e)
      (step : Dispatcher.Step maxRequestInTime s.dispatcher ev dispatcher) :
      Step s (.inl ev) { s with dispatcher := dispatcher }
  | client {s t : CallLink A P Q} {e : ClientEvent A P}
      (step : Dispatcher.Step maxRequestInTime s.dispatcher (.task e) t.dispatcher)
      (move : Duplex.Step (client utils) (server utils router addr) s.link (.inl e) t.link) :
      Step s (.inl (.task e)) t
  | server {s : CallLink A P Q} {e : ServerEvent A Q}
      {link : State (ClientM A P (ClientState P ⊕ Unit)) (ServerM A Q (ConnectionState Q ⊕ Unit))
        Bytes Bytes}
      (move : Duplex.Step (client utils) (server utils router addr) s.link (.inr e) link) :
      Step s (.inr e) { s with link := link }

end CallLink

variable {A : App} {P Q : Type}

@[simp] def linkEvent? : CallLinkEvent A P Q → Option (LinkEvent A P Q)
  | .inl (.task e) => some (.inl e)
  | .inl _ => none
  | .inr e => some (.inr e)

/-- The events of the two tasks. -/
def linked (tr : List (CallLinkEvent A P Q)) : List (LinkEvent A P Q) := tr.filterMap linkEvent?

@[simp] theorem linked_nil : linked ([] : List (CallLinkEvent A P Q)) = [] := rfl

@[simp] theorem linked_snoc (tr : List (CallLinkEvent A P Q)) (ev : CallLinkEvent A P Q) :
    linked (tr ++ [ev]) = linked tr ++ (linkEvent? ev).toList :=
  filterMap_snoc _ tr ev

theorem lefts_linked (tr : List (CallLinkEvent A P Q)) : lefts (linked tr) = tasks (lefts tr) := by
  rw [lefts, linked, tasks, lefts, List.filterMap_filterMap, List.filterMap_filterMap]
  refine List.filterMap_congr fun ev _ => ?_
  rcases ev with ev | e
  · cases ev <;> rfl
  · rfl

theorem rights_linked (tr : List (CallLinkEvent A P Q)) : rights (linked tr) = rights tr := by
  rw [rights, linked, rights, List.filterMap_filterMap]
  refine List.filterMap_congr fun ev _ => ?_
  rcases ev with ev | e
  · cases ev <;> rfl
  · rfl

/-! ## The two parts -/

section Parts

variable {utils : Utils A} {router : TfServerRouter A} {addr : SocketAddr} {channel : ℕ}
  {maxRequestInTime : ℕ} {processor : P} {holder : Q} {tr : List (CallLinkEvent A P Q)}
  {s : CallLink A P Q}

/-- The callers and the client. -/
theorem run_calls {s' : CallLink A P Q}
    (run : Run (CallLink.Step utils router addr maxRequestInTime) s tr s') :
    Run (CallState.Step utils maxRequestInTime) ⟨s.dispatcher, s.link.left⟩ (lefts tr)
      ⟨s'.dispatcher, s'.link.left⟩ := by
  refine run.invariant (I := fun tr s' => Run (CallState.Step utils maxRequestInTime)
    ⟨s.dispatcher, s.link.left⟩ (lefts tr) ⟨s'.dispatcher, s'.link.left⟩) Run.nil ?_
  rintro tr s ev ⟨dispatcher, after⟩ - hrun step
  cases step with
  | caller own step =>
      rw [lefts_append, lefts_inl]
      exact hrun.snoc (.caller own step)
  | client step move =>
      rw [lefts_append, lefts_inl]
      cases move with
      | left resume _ _ => exact hrun.snoc (.task step resume)
  | server move =>
      rw [lefts_append, lefts_inr, List.append_nil]
      cases move with
      | right => exact hrun

theorem run_client (run : Run (CallLink.Step utils router addr maxRequestInTime)
      (.start utils router addr processor holder channel) tr s) :
    Run (CallState.Step utils maxRequestInTime) (.initial utils processor) (lefts tr)
      ⟨s.dispatcher, s.link.left⟩ :=
  run_calls run

/-- The two tasks. -/
theorem run_tasks (run : Run (CallLink.Step utils router addr maxRequestInTime)
      (.start utils router addr processor holder channel) tr s) :
    LinkRun utils router addr processor holder channel (linked tr) s.link := by
  refine run.invariant (I := fun tr s =>
    LinkRun utils router addr processor holder channel (linked tr) s.link) Run.nil ?_
  rintro tr s ev ⟨dispatcher, after⟩ - hrun step
  cases step with
  | @caller _ ev own step =>
      have hnone : linkEvent? (.inl ev : CallLinkEvent A P Q) = none := by
        cases ev with
        | task e => exact absurd rfl (own e)
        | _ => rfl
      rw [linked_snoc, hnone, Option.toList_none, List.append_nil]
      exact hrun
  | client step move =>
      rw [linked_snoc]
      exact hrun.snoc move
  | server move =>
      rw [linked_snoc]
      exact hrun.snoc move

/-- A history leads to one state only. -/
theorem linkRun_unique {tr : List (LinkEvent A P Q)}
    {s s' : State (ClientM A P (ClientState P ⊕ Unit)) (ServerM A Q (ConnectionState Q ⊕ Unit))
      Bytes Bytes} (run : LinkRun utils router addr processor holder channel tr s)
    (run' : LinkRun utils router addr processor holder channel tr s') : s = s' := by
  have h := project run
  have h' := project run'
  have hleft := Run.unique (loopStep_deterministic _) h.left_run h'.left_run
  have hright := Run.unique (loopStep_deterministic _) h.right_run h'.right_run
  have htoRight := List.append_cancel_left (h.toRight_eq.symm.trans h'.toRight_eq)
  have htoLeft := List.append_cancel_left (h.toLeft_eq.symm.trans h'.toLeft_eq)
  obtain ⟨left, right, toRight, toLeft⟩ := s
  obtain ⟨left', right', toRight', toLeft'⟩ := s'
  subst hleft hright htoRight htoLeft
  rfl

theorem taskStep_deterministic : Deterministic (Dispatcher.TaskStep (A := A) (P := P)) := by
  intro d e t t' step step'
  cases step with
  | take head =>
      cases step' with
      | take head' =>
          cases head.symm.trans head'
          rfl
  | _ =>
      cases step'
      rfl

theorem dispatcherStep_deterministic :
    Deterministic (Dispatcher.Step (A := A) (P := P) maxRequestInTime) := by
  intro d ev t t' step step'
  cases step with
  | task receiver step =>
      cases step' with
      | task receiver' step' => exact taskStep_deterministic _ _ _ _ step step'
  | _ =>
      cases step'
      rfl

theorem run_dispatcher (run : Run (CallLink.Step utils router addr maxRequestInTime)
      (.start utils router addr processor holder channel) tr s) :
    Run (Dispatcher.Step maxRequestInTime) .initial (lefts tr) s.dispatcher := by
  refine run.invariant (I := fun tr s =>
    Run (Dispatcher.Step maxRequestInTime) .initial (lefts tr) s.dispatcher) Run.nil ?_
  intro tr s ev after _ hrun step
  rw [lefts_append]
  cases step with
  | caller own step => exact hrun.snoc step
  | client step move => exact hrun.snoc step
  | server move =>
      rw [lefts_inr, List.append_nil]
      exact hrun

/-- With the callers too. -/
theorem callRun_unique {s' : CallLink A P Q}
    (run : Run (CallLink.Step utils router addr maxRequestInTime)
      (.start utils router addr processor holder channel) tr s)
    (run' : Run (CallLink.Step utils router addr maxRequestInTime)
      (.start utils router addr processor holder channel) tr s') : s = s' := by
  have hdispatcher :=
    Run.unique dispatcherStep_deterministic (run_dispatcher run) (run_dispatcher run')
  have hlink := linkRun_unique (run_tasks run) (run_tasks run')
  obtain ⟨dispatcher, link⟩ := s
  obtain ⟨dispatcher', link'⟩ := s'
  subst hdispatcher hlink
  rfl

end Parts

/-! ## The conversation about the accepted requests -/

variable {SndC RcvC SndS RcvS : Type} {setting : Setting A} {maxRequestInTime : ℕ}
  {Tc : Hooks.Pair SndC RcvC Bytes} {Ts : Hooks.Pair SndS RcvS Bytes}
  {processor : SndC × RcvC} {holder : SndS × RcvS}
  {tr : List (CallLinkEvent A (SndC × RcvC) (SndS × RcvS))}
  {s : CallLink A (SndC × RcvC) (SndS × RcvS)}

/-- The setting in which the accepted requests are those on the channel, closed if
the client has been dropped. -/
def Setting.asked (setting : Setting A) (tr : List (CallLinkEvent A P Q)) (s : CallLink A P Q) :
    Setting A :=
  { setting with requests := accepted (lefts tr), closes := !s.dispatcher.tx }

/-- A run of callers and tasks on an undisturbed connection, by whose end the
connection task has not been dropped.  The requests of the setting do not matter
here; the handlers do. -/
structure CallRun (setting : Setting A) (maxRequestInTime : ℕ) (Tc : Hooks.Pair SndC RcvC Bytes)
    (Ts : Hooks.Pair SndS RcvS Bytes) (processor : SndC × RcvC) (holder : SndS × RcvS)
    (tr : List (CallLinkEvent A (SndC × RcvC) (SndS × RcvS)))
    (s : CallLink A (SndC × RcvC) (SndS × RcvS)) : Prop where
  run : Run (CallLink.Step setting.utils setting.router setting.addr maxRequestInTime)
    (.start setting.utils setting.router setting.addr processor holder setting.channel) tr s
  calm : Calm Tc Ts (linked tr)
  handled : Along (handledLaw setting) (rights tr)
  kept : .abort ∉ lefts tr

theorem CallRun.pulls (h : CallRun setting maxRequestInTime Tc Ts processor holder tr s) :
    Client.pulls (tasks (lefts tr)) = (taken (tasks (lefts tr))).map some ++
      if s.dispatcher.rx then [] else [none] := by
  obtain ⟨halive, hgone⟩ := run_pulls (run_client h.run)
  cases hrx : s.dispatcher.rx with
  | true => simpa using halive hrx
  | false => exact hgone hrx h.kept

/-- What the tasks do is a conversation about the requests accepted. -/
theorem CallRun.conversation (h : CallRun setting maxRequestInTime Tc Ts processor holder tr s) :
    Conversation (setting.asked tr s) Tc Ts processor holder (linked tr) s.link := by
  refine ⟨run_tasks h.run, h.calm, ?_, rights_linked tr ▸ h.handled⟩
  rw [lefts_linked, h.pulls]
  have hended := run_ended (run_client h.run)
  cases hrx : s.dispatcher.rx with
  | true =>
      obtain ⟨pt, -, -, hcustody⟩ := run_placed (run_client h.run)
      have htakes := hcustody.takes.map some
      refine List.IsPrefix.trans ?_ (List.prefix_append _ _)
      rwa [if_pos rfl, List.append_nil]
  | false =>
      obtain ⟨-, hreleased, hall⟩ := (hended.ended hrx).resolve_left h.kept
      replace hreleased : s.dispatcher.tx = false := hreleased
      simp [Setting.queue, Setting.asked, hreleased, hall]

/-! ## Where neither task can go on -/

/-- An event of one of the two tasks. -/
def OfTask (ev : CallLinkEvent A P Q) : Prop := (linkEvent? ev).isSome

/-- Neither task can go on. -/
def Rests (setting : Setting A) (maxRequestInTime : ℕ) (Tc : Hooks.Pair SndC RcvC Bytes)
    (Ts : Hooks.Pair SndS RcvS Bytes) (processor : SndC × RcvC) (holder : SndS × RcvS)
    (tr : List (CallLinkEvent A (SndC × RcvC) (SndS × RcvS))) : Prop :=
  ∀ ev s, OfTask ev → ¬CallRun setting maxRequestInTime Tc Ts processor holder (tr ++ [ev]) s

theorem CallRun.server_moves (h : CallRun setting maxRequestInTime Tc Ts processor holder tr s)
    {e : ServerEvent A (SndS × RcvS)}
    {link : State (ClientM A (SndC × RcvC) (ClientState (SndC × RcvC) ⊕ Unit))
      (ServerM A (SndS × RcvS) (ConnectionState (SndS × RcvS) ⊕ Unit)) Bytes Bytes}
    (hlonger : Conversation (setting.asked tr s) Tc Ts processor holder (linked tr ++ [.inr e])
      link) :
    ∃ t, CallRun setting maxRequestInTime Tc Ts processor holder (tr ++ [.inr e]) t := by
  obtain ⟨before, hbefore, move⟩ := hlonger.of_snoc
  rw [linkRun_unique hbefore.run (run_tasks h.run)] at move
  have hlinked : linked (tr ++ [.inr e]) = linked tr ++ [.inr e] := linked_snoc _ _
  refine ⟨{ s with link := link }, h.run.snoc (.server move), hlinked ▸ hlonger.calm, ?_, ?_⟩
  · rw [← rights_linked, hlinked]
    exact hlonger.handled
  · rw [lefts_append, lefts_inr, List.append_nil]
    exact h.kept

/-- What the client does next, its channels allow; for a response the answer is
theirs. -/
theorem CallRun.client_moves (h : CallRun setting maxRequestInTime Tc Ts processor holder tr s)
    {e : ClientEvent A (SndC × RcvC)}
    {link : State (ClientM A (SndC × RcvC) (ClientState (SndC × RcvC) ⊕ Unit))
      (ServerM A (SndS × RcvS) (ConnectionState (SndS × RcvS) ⊕ Unit)) Bytes Bytes}
    (hlonger : Conversation (setting.asked tr s) Tc Ts processor holder (linked tr ++ [.inl e])
      link) :
    ∃ ev t, OfTask ev ∧
      CallRun setting maxRequestInTime Tc Ts processor holder (tr ++ [ev]) t := by
  obtain ⟨before, hbefore, move⟩ := hlonger.of_snoc
  rw [linkRun_unique hbefore.run (run_tasks h.run)] at move
  obtain ⟨pt, htask, -, hcustody⟩ := run_placed (run_client h.run)
  replace htask : s.link.left = pt.task setting.utils := htask
  have hended := run_ended (run_client h.run)
  -- the task is there
  have receiver : s.dispatcher.rx = true := by
    cases hrx : s.dispatcher.rx with
    | true => rfl
    | false =>
        obtain ⟨hreturned, -⟩ := (hended.ended hrx).resolve_left h.kept
        cases move with
        | left resume _ _ => exact absurd resume (client_stuck _ _ _ _ hreturned)
  -- an event that the channels allow
  have hallowed {e' : ClientEvent A (SndC × RcvC)} {dispatcher : Dispatcher A}
      {link' : State (ClientM A (SndC × RcvC) (ClientState (SndC × RcvC) ⊕ Unit))
        (ServerM A (SndS × RcvS) (ConnectionState (SndS × RcvS) ⊕ Unit)) Bytes Bytes}
      (step : Dispatcher.TaskStep s.dispatcher e' dispatcher)
      (move : Duplex.Step (client setting.utils)
        (server setting.utils setting.router setting.addr) s.link (.inl e') link')
      (hcalm : Calm Tc Ts (linked tr ++ [.inl e'])) :
      ∃ ev t, OfTask ev ∧
        CallRun setting maxRequestInTime Tc Ts processor holder (tr ++ [ev]) t := by
    have hlinked : linked (tr ++ [.inl (.task e')]) = linked tr ++ [.inl e'] := linked_snoc _ _
    refine ⟨.inl (.task e'), ⟨dispatcher, link'⟩, rfl,
      h.run.snoc (.client (.task receiver step) move), hlinked ▸ hcalm, ?_, ?_⟩
    · rw [rights_append, rights_inl, List.append_nil]
      exact h.handled
    · rw [lefts_append, lefts_inl]
      simpa using h.kept
  -- what is pulled next is what the channel holds
  have hpulls : (pull? e).toList <+: s.dispatcher.queue.map some ++
      if s.dispatcher.tx then [] else [none] := by
    have hfed := hlonger.fed
    have horder := hcustody.inOrder receiver
    rw [lefts_append, lefts_inl, pulls_snoc, lefts_linked, h.pulls, receiver] at hfed
    have hqueue : (setting.asked tr s).queue = (taken (tasks (lefts tr))).map some ++
        (s.dispatcher.queue.map some ++ if s.dispatcher.tx then [] else [none]) := by
      rw [Setting.queue, Setting.asked]
      simp only [horder, List.map_append, List.append_assoc]
      cases s.dispatcher.tx <;> rfl
    rw [hqueue, if_pos rfl, List.append_nil] at hfed
    exact (List.prefix_append_right_inj _).mp hfed
  cases e using Client.forall_event with
  | recv answer =>
      replace hpulls : [answer] <+: _ := hpulls
      cases hqueue : s.dispatcher.queue with
      | nil =>
          cases htx : s.dispatcher.tx with
          | true =>
              rw [hqueue, htx] at hpulls
              exact absurd hpulls.length_le (Nat.not_succ_le_zero 0)
          | false =>
              rw [hqueue, htx] at hpulls
              obtain rfl : answer = none := (List.cons_prefix_cons.mp hpulls).1
              exact hallowed (.drained hqueue htx) move hlonger.calm
      | cons head rest =>
          rw [hqueue] at hpulls
          obtain rfl : answer = some head := (List.cons_prefix_cons.mp hpulls).1
          exact hallowed (.take hqueue) move hlonger.calm
  | send site wire res => exact hallowed (.send site wire res) move hlonger.calm
  | frame raw => exact hallowed (.next _) move hlonger.calm
  | error kind => exact hallowed (.next _) move hlonger.calm
  | ends => exact hallowed (.next _) move hlonger.calm
  | preProcess before raw after data => exact hallowed (.preProcess ..) move hlonger.calm
  | postProcess before message after wire => exact hallowed (.postProcess ..) move hlonger.calm
  | insertRoute name id => exact hallowed (.insertRoute name id) move hlonger.calm
  | deliver consumer data res =>
      cases move with
      | left resume take eof =>
          rw [htask] at resume
          obtain ⟨next, hnext, -⟩ := next_of_step resume
          cases hnext with
          | delivered st request id response =>
              have hnext' : Client.Next setting.utils _ _ _ := .delivered st request id data
                (if s.dispatcher.closed request.consumer then .error data else .ok ())
              have resume' := step_of_next hnext'
              rw [← htask] at resume'
              exact hallowed (.deliver request.consumer data)
                (.left resume' take (fun h => by cases h))
                (calm_left h.calm trivial (Client.obeys_of_unhooked _ rfl))
  | warn error => exact hallowed (.warn error) move hlonger.calm

/-- Where neither task can go on, neither can in the conversation. -/
theorem CallRun.complete (h : CallRun setting maxRequestInTime Tc Ts processor holder tr s)
    (hrests : Rests setting maxRequestInTime Tc Ts processor holder tr) :
    Complete (setting.asked tr s) Tc Ts processor holder (linked tr) := by
  intro ev link hlonger
  cases ev with
  | inl e =>
      obtain ⟨ev, t, hev, hafter⟩ := h.client_moves hlonger
      exact hrests ev t hev hafter
  | inr e =>
      obtain ⟨t, hafter⟩ := h.server_moves hlonger
      exact hrests (.inr e) t rfl hafter

/-- Where neither task can go on, no request is left. -/
theorem CallRun.unresolved (h : CallRun setting maxRequestInTime Tc Ts processor holder tr s)
    (hsettled : Settled (setting.asked tr s) (linked tr) s.link) :
    s.dispatcher.unresolved = [] := by
  obtain ⟨pt, htask, -, hcustody⟩ := run_placed (run_client h.run)
  replace htask : s.link.left = pt.task setting.utils := htask
  cases hrx : s.dispatcher.rx with
  | false => exact hcustody.sound.gone hrx
  | true =>
      have hpulls := hsettled.pulls
      rw [lefts_linked, h.pulls, hrx, if_pos rfl, List.append_nil] at hpulls
      have hended := hsettled.ended
      have hopen : s.dispatcher.tx = true := by
        cases htx : s.dispatcher.tx with
        | true => rfl
        | false =>
            have hcloses : (setting.asked tr s).closes = true := by simp [Setting.asked, htx]
            rw [hcloses] at hended
            exact absurd hended.1 ((run_ended (run_client h.run)).alive hrx)
      have hcloses : (setting.asked tr s).closes = false := by simp [Setting.asked, hopen]
      rw [hcloses] at hended
      have hqueue : (setting.asked tr s).queue = (accepted (lefts tr)).map some := by
        rw [Setting.queue, hcloses]
        exact List.append_nil _
      have hall : taken (tasks (lefts tr)) = accepted (lefts tr) :=
        List.map_injective_iff.mpr (Option.some_injective _) (hpulls.trans hqueue)
      have hempty : s.dispatcher.queue = [] := by
        have horder := hcustody.inOrder hrx
        rw [hall] at horder
        exact List.self_eq_append_right.mp horder
      have hcurrent : s.dispatcher.current = none := by
        have howned := hcustody.owned hrx
        rw [htask] at hended
        cases hcurrent : s.dispatcher.current with
        | none => rfl
        | some consumer =>
            rw [hcurrent] at howned
            cases pt with
            | top => exact absurd trivial howned.1
            | _ => cases hended.1
      rw [Dispatcher.unresolved, hcurrent, hempty]
      rfl

/-- A caller's answer is the sequential program's. -/
theorem CallRun.answered (hlawful : setting.utils.Lawful)
    (hreads : ∀ request ∈ accepted (lefts tr), ReadsType setting.router request)
    (htransparent : Transparent Tc Ts processor holder)
    (h : CallRun setting maxRequestInTime Tc Ts processor holder tr s) {consumer : ℕ}
    {data : Bytes} (hanswered : s.dispatcher.consumers consumer = .answered data) :
    (consumer, data) ∈ (Session.run (setting.asked tr s)).delivered := by
  have hlawful' : (setting.asked tr s).utils.Lawful := hlawful
  obtain ⟨pt, -, -, hcustody⟩ := run_placed (run_client h.run)
  have hinitial := initial_of_conversation hlawful' hreads htransparent h.conversation
  have hmem := hcustody.answered consumer data hanswered
  rw [← lefts_linked] at hmem
  exact hinitial.delivered.subset hmem

/-- Where neither task can go on, a request has its answer, or there is none. -/
theorem CallRun.resolved (hlawful : setting.utils.Lawful)
    (hreads : ∀ request ∈ accepted (lefts tr), ReadsType setting.router request)
    (htransparent : Transparent Tc Ts processor holder)
    (h : CallRun setting maxRequestInTime Tc Ts processor holder tr s)
    (hrests : Rests setting maxRequestInTime Tc Ts processor holder tr)
    {request : ClientRequest A} (hrequest : request ∈ accepted (lefts tr)) :
    (∃ data, s.dispatcher.consumers request.consumer = .answered data) ∨
      s.dispatcher.consumers request.consumer = .dropped ∧
        ∀ data, (request.consumer, data) ∈ (Session.run (setting.asked tr s)).delivered →
          s.dispatcher.closed request.consumer = true := by
  have hlawful' : (setting.asked tr s).utils.Lawful := hlawful
  obtain ⟨pt, -, -, hcustody⟩ := run_placed (run_client h.run)
  have hsettled := settled_of_complete hlawful' hreads htransparent h.conversation
    (h.complete hrests)
  cases hconsumer : s.dispatcher.consumers request.consumer with
  | unused => exact absurd hconsumer (hcustody.used request hrequest)
  | held =>
      have hmem := (hcustody.sound.held _).mp hconsumer
      rw [h.unresolved hsettled] at hmem
      cases hmem
  | answered data => exact .inl ⟨data, rfl⟩
  | dropped =>
      refine .inr ⟨rfl, fun data hmem => ?_⟩
      have hseen : deliveries (tasks (lefts tr)) =
          (Session.run (setting.asked tr s)).delivered := by
        rw [← lefts_linked]
        exact congrArg Seen.delivered hsettled.seen
      rw [← hseen] at hmem
      rcases hcustody.delivered _ _ hmem with hanswered | ⟨-, hclosed⟩
      · cases hconsumer.symm.trans hanswered
      · exact hclosed

/-- **From caller to handler and back.**  Let two processors undo each other.
However the callers and the two tasks take turns, a caller's answer is the one
that the sequential program gives for the requests accepted by then.  Where
neither task can go on, each accepted request for which the program has an answer
has been answered, unless its receiver was gone, and the consumer of each other
one has been dropped. -/
theorem run_callers (hlawful : setting.utils.Lawful)
    (hreads : ∀ request ∈ accepted (lefts tr), ReadsType setting.router request)
    (htransparent : Transparent Tc Ts processor holder)
    (h : CallRun setting maxRequestInTime Tc Ts processor holder tr s) :
    (∀ consumer data, s.dispatcher.consumers consumer = .answered data →
        (consumer, data) ∈ (Session.run (setting.asked tr s)).delivered) ∧
      (Rests setting maxRequestInTime Tc Ts processor holder tr →
        ∀ request ∈ accepted (lefts tr),
          (∃ data, s.dispatcher.consumers request.consumer = .answered data) ∨
            s.dispatcher.consumers request.consumer = .dropped ∧
              ∀ data, (request.consumer, data) ∈ (Session.run (setting.asked tr s)).delivered →
                s.dispatcher.closed request.consumer = true) :=
  ⟨fun _ _ hanswered => h.answered hlawful hreads htransparent hanswered,
    fun hrests _ hrequest => h.resolved hlawful hreads htransparent hrests hrequest⟩

section Echo

/-- An event of the two tasks, among the callers. -/
def ofLink : LinkEvent A P Q → CallLinkEvent A P Q
  | .inl e => .inl (.task e)
  | .inr e => .inr e

theorem linked_ofLink (events : List (LinkEvent A P Q)) : linked (events.map ofLink) = events := by
  have hsame : linkEvent? ∘ ofLink = (some : LinkEvent A P Q → Option (LinkEvent A P Q)) := by
    funext ev
    cases ev <;> rfl
  rw [linked, List.filterMap_map, hsame, List.filterMap_some]

theorem lefts_ofLink (events : List (LinkEvent A P Q)) :
    lefts (events.map ofLink) = (lefts events).map .task := by
  rw [lefts, List.filterMap_map, lefts, List.map_filterMap]
  refine List.filterMap_congr fun ev _ => ?_
  cases ev <;> rfl

theorem run_ofLink {utils : Utils A} {router : TfServerRouter A} {addr : SocketAddr}
    {events : List (LinkEvent A P Q)} {dispatcher dispatcher' : Dispatcher A}
    {link link' : State (ClientM A P (ClientState P ⊕ Unit))
      (ServerM A Q (ConnectionState Q ⊕ Unit)) Bytes Bytes}
    (hlink : Run (Duplex.Step (client utils) (server utils router addr)) link events link')
    (hcalls : Run (Dispatcher.Step maxRequestInTime) dispatcher
      ((lefts events).map (CallEvent.task (P := P))) dispatcher') :
    Run (CallLink.Step utils router addr maxRequestInTime) ⟨dispatcher, link⟩ (events.map ofLink)
      ⟨dispatcher', link'⟩ := by
  induction hlink generalizing dispatcher' with
  | nil =>
      rw [hcalls.of_nil]
      exact Run.nil
  | @snoc events link ev link' _ move ih =>
      rw [List.map_append, List.map_singleton]
      cases ev with
      | inl e =>
          rw [lefts_append, lefts_inl, List.map_append, List.map_singleton] at hcalls
          obtain ⟨before, hbefore, step⟩ := hcalls.of_snoc
          exact (ih hbefore).snoc (.client step move)
      | inr e =>
          rw [lefts_append, lefts_inr, List.append_nil] at hcalls
          exact (ih hcalls).snoc (.server move)

open Reference

/-- One caller, whose request is answered. -/
def calling (data : Bytes) : List (CallLinkEvent app (UInt8 × UInt8) (UInt8 × UInt8)) :=
  .inl (.send (echoRequest data 0) (.ok ())) :: (masked data).map ofLink

/-- The dispatcher with the request accepted. -/
def occupied (data : Bytes) : Dispatcher app :=
  { (Dispatcher.initial : Dispatcher app) with
    queue := [echoRequest data 0]
    consumers := Function.update (fun _ => .unused) 0 .held }

theorem occupied_run (data : Bytes) : ∃ dispatcher,
    Run (Dispatcher.Step 1) (occupied data)
      ((lefts (masked data)).map (CallEvent.task (P := UInt8 × UInt8))) dispatcher ∧
      dispatcher.consumers 0 = .answered data := by
  rw [lefts_masked, maskedSending, maskedReading]
  refine ⟨_, Run.cons (.task rfl (.take rfl)) <| Run.cons (.task rfl (.postProcess ..)) <|
    Run.cons (.task rfl (.postProcess ..)) <| Run.cons (.task rfl (.send ..)) <|
    Run.cons (.task rfl (.send ..)) <| Run.cons (.task rfl (.next _)) <|
    Run.cons (.task rfl (.preProcess ..)) <| Run.cons (.task rfl (.deliver 0 data)) Run.nil, rfl⟩

theorem calling_attended {data : Bytes} (hdata : data ≠ []) : ∃ s,
    CallRun (echoSetting data) 1 masking masking (0, 0) (0, 0) (calling data) s ∧
      s.dispatcher.consumers 0 = .answered data := by
  obtain ⟨link, hlink⟩ := masked_run hdata
  obtain ⟨dispatcher, hcalls, hanswered⟩ := occupied_run data
  have hroom : (Dispatcher.initial : Dispatcher app).queue.length < 1 := Nat.zero_lt_one
  have hlinked : linked (calling data) = masked data := linked_ofLink (masked data)
  refine ⟨⟨dispatcher, link⟩, ⟨Run.cons (.caller (by simp) (.sent rfl rfl hroom rfl))
    (run_ofLink hlink hcalls), ?_, ?_, ?_⟩, hanswered⟩
  · rw [hlinked]
    exact masked_calm data
  · rw [← rights_linked, hlinked]
    exact masked_handled data
  · have hlefts : lefts (calling data) = .send (echoRequest data 0) (.ok ()) ::
        (lefts (masked data)).map .task := congrArg (_ :: ·) (lefts_ofLink (masked data))
    rw [hlefts]
    simp

theorem run_callers_calling : ∃ s,
    CallRun (echoSetting [1]) 1 masking masking (0, 0) (0, 0) (calling [1]) s ∧
      (0, [1]) ∈ (Session.run ((echoSetting [1]).asked (calling [1]) s)).delivered := by
  have hdata : ([1] : Bytes) ≠ [] := by decide
  obtain ⟨s, h, hanswered⟩ := calling_attended hdata
  have hreads : ∀ request ∈ accepted (lefts (calling [1])),
      ReadsType (echoSetting [1]).router request := fun _ _ => Reference.deserialize_router _
  exact ⟨s, h, (run_callers Reference.lawful hreads ⟨inverts_masking 0, inverts_masking 0⟩ h).1 0
    [1] hanswered⟩

end Echo

end Link

end FourthServer
