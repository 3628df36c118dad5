import FourthServer.Client.Erasure
import FourthServer.Link.Parties
import FourthServer.Server.Erasure

/-!
# Conversations

A conversation is a run of a client and a server on an undisturbed connection,
with the client's requests and the server's handlers given.  Two conversations
with the same requests and handlers, but with other processors and other turns,
are compared through the views that are left of them without the processors and
the frames.

Each answer a task gets is determined by what the two tasks have done before
(`client_agrees`, `server_agrees`).  A message that a party reads is one the
other party has written, because the processors undo each other in the order of
the wire, and the end of the stream is seen by neither client or by both, because
the server has ended in neither conversation or in both.
-/

namespace FourthServer

open Resumption Trace Duplex Comparison

namespace Link

/-- What a conversation is about, whatever the processors. -/
structure Setting (A : App) where
  utils : Utils A
  router : TfServerRouter A
  addr : SocketAddr
  channel : ℕ
  /-- The requests the client finds on its channel. -/
  requests : List (ClientRequest A)
  /-- The channel is closed after them. -/
  closes : Bool
  /-- What a handler returns, as a function of the packets passed to the router so
  far and of its call. -/
  handlers : List (Bytes × Bytes) → ServeCall A → Except Bytes Bytes

variable {A : App} {P Q SndC RcvC SndS RcvS SndC' RcvC' SndS' RcvS' : Type} {setting : Setting A}

/-- What `rx.recv()` answers, one after the other. -/
def Setting.queue (setting : Setting A) : List (Option (ClientRequest A)) :=
  setting.requests.map some ++ if setting.closes then [none] else []

/-- Handlers return what they are to, and the sender they were given. -/
def handledLaw (setting : Setting A) (before : List (ServerEvent A Q)) : ServerEvent A Q → Prop
  | ⟨.serve call, outcome⟩ =>
    outcome = .finished (setting.handlers (Connection.calls before) call) call.routeTx none
  | _ => True

/-- A run of the two tasks in the setting on an undisturbed connection. -/
structure Conversation (setting : Setting A) (Tc : Hooks.Pair SndC RcvC Bytes)
    (Ts : Hooks.Pair SndS RcvS Bytes) (processor : SndC × RcvC) (holder : SndS × RcvS)
    (tr : List (LinkEvent A (SndC × RcvC) (SndS × RcvS)))
    (s : State (ClientM A (SndC × RcvC) (ClientState (SndC × RcvC) ⊕ Unit))
      (ServerM A (SndS × RcvS) (ConnectionState (SndS × RcvS) ⊕ Unit)) Bytes Bytes) : Prop where
  run : LinkRun setting.utils setting.router setting.addr processor holder setting.channel tr s
  calm : Calm Tc Ts tr
  /-- The client takes the requests in their order. -/
  fed : Client.pulls (lefts tr) <+: setting.queue
  handled : Along (handledLaw setting) (rights tr)

/-- The history of the client without its processor and the frames. -/
def clientView (tr : List (LinkEvent A P Q)) : List (ClientEvent A Unit) :=
  (lefts tr).map Client.erase

/-- The history of the server without its processor and the frames. -/
def serverView (tr : List (LinkEvent A P Q)) : List (ServerEvent A Unit) :=
  (rights tr).map Connection.erase

section Views

variable (tr : List (LinkEvent A P Q)) (e : ClientEvent A P) (e' : ServerEvent A Q)

@[simp] theorem clientView_left :
    clientView (tr ++ [.inl e]) = clientView tr ++ [Client.erase e] := by
  simp [clientView]

@[simp] theorem clientView_right : clientView (tr ++ [.inr e']) = clientView tr := by
  simp [clientView]

@[simp] theorem serverView_left : serverView (tr ++ [.inl e]) = serverView tr := by
  simp [serverView]

@[simp] theorem serverView_right :
    serverView (tr ++ [.inr e']) = serverView tr ++ [Connection.erase e'] := by
  simp [serverView]

end Views

variable {Tc : Hooks.Pair SndC RcvC Bytes} {Ts : Hooks.Pair SndS RcvS Bytes}
  {processor : SndC × RcvC} {holder : SndS × RcvS}
  {tr : List (LinkEvent A (SndC × RcvC) (SndS × RcvS))}
  {s s₁ : State (ClientM A (SndC × RcvC) (ClientState (SndC × RcvC) ⊕ Unit))
      (ServerM A (SndS × RcvS) (ConnectionState (SndS × RcvS) ⊕ Unit)) Bytes Bytes}
  {Tc' : Hooks.Pair SndC' RcvC' Bytes} {Ts' : Hooks.Pair SndS' RcvS' Bytes}
  {processor' : SndC' × RcvC'} {holder' : SndS' × RcvS'}
  {tr' : List (LinkEvent A (SndC' × RcvC') (SndS' × RcvS'))}
  {s' s₁' : State (ClientM A (SndC' × RcvC') (ClientState (SndC' × RcvC') ⊕ Unit))
      (ServerM A (SndS' × RcvS') (ConnectionState (SndS' × RcvS') ⊕ Unit)) Bytes Bytes}

/-! ## Conversations grow by single events -/

theorem conversation_nil :
    Conversation setting Tc Ts processor holder []
      (start setting.utils setting.router setting.addr processor holder setting.channel) :=
  ⟨Run.nil, ⟨along_nil, by simp, along_nil, by simp⟩, List.nil_prefix, along_nil⟩

theorem Conversation.of_snoc {ev : LinkEvent A (SndC × RcvC) (SndS × RcvS)}
    (h : Conversation setting Tc Ts processor holder (tr ++ [ev]) s₁) :
    ∃ s, Conversation setting Tc Ts processor holder tr s ∧
      Duplex.Step (client setting.utils) (server setting.utils setting.router setting.addr) s ev
        s₁ := by
  obtain ⟨run, ⟨hclient, hclientHooks, hserver, hserverHooks⟩, hfed, hhandled⟩ := h
  obtain ⟨s, hbefore, step⟩ := run.of_snoc
  refine ⟨s, ⟨hbefore, ?_, ?_, ?_⟩, step⟩
  · cases ev with
    | inl e =>
        rw [lefts_append, lefts_inl] at hclient hclientHooks
        rw [rights_append, rights_inl, List.append_nil] at hserver hserverHooks
        exact ⟨(along_snoc.mp hclient).1, fun e he => hclientHooks e (by simp [he]), hserver,
          hserverHooks⟩
    | inr e =>
        rw [lefts_append, lefts_inr, List.append_nil] at hclient hclientHooks
        rw [rights_append, rights_inr] at hserver hserverHooks
        exact ⟨hclient, hclientHooks, (along_snoc.mp hserver).1,
          fun e he => hserverHooks e (by simp [he])⟩
  · refine List.IsPrefix.trans ?_ hfed
    show (lefts tr).filterMap Client.pull? <+: (lefts (tr ++ [ev])).filterMap Client.pull?
    rw [lefts_append, List.filterMap_append]
    exact List.prefix_append _ _
  · cases ev with
    | inl e => simpa using hhandled
    | inr e =>
        rw [rights_append, rights_inr] at hhandled
        exact (along_snoc.mp hhandled).1

theorem Conversation.of_append {rest : List (LinkEvent A (SndC × RcvC) (SndS × RcvS))}
    (h : Conversation setting Tc Ts processor holder (tr ++ rest) s₁) :
    ∃ s, Conversation setting Tc Ts processor holder tr s := by
  induction rest using List.reverseRecOn generalizing s₁ with
  | nil => exact ⟨s₁, by simpa using h⟩
  | append_singleton rest ev ih =>
      rw [← List.append_assoc] at h
      obtain ⟨s, hbefore, -⟩ := h.of_snoc
      exact ih hbefore

/-! ## The tasks without their processors -/

theorem Conversation.client_run (h : Conversation setting Tc Ts processor holder tr s) :
    ∃ pt : Client.Point A (SndC × RcvC), s.left = pt.task setting.utils ∧
      Run (Client.Step setting.utils) (Client.connectionMain setting.utils ()) (clientView tr)
        (pt.erase.task setting.utils) := by
  obtain ⟨pt, hrun, hpt⟩ := Client.run_points (project h.run).left_run
  exact ⟨pt, hpt, Client.run_of_points (Client.run_erase hrun)⟩

theorem Conversation.server_run (h : Conversation setting Tc Ts processor holder tr s) :
    ∃ pt : Connection.Point A (SndS × RcvS),
      s.right = pt.task setting.utils setting.router setting.addr ∧
      Run (Connection.Step setting.utils setting.router setting.addr)
        (Connection.handleConnection setting.utils setting.router setting.addr () setting.channel)
        (serverView tr) (pt.erase.task setting.utils setting.router setting.addr) := by
  obtain ⟨pt, hrun, hpt⟩ := Connection.run_points (project h.run).right_run
  exact ⟨pt, hpt, Connection.run_of_points (Connection.run_erase hrun)⟩

/-- Clients with the same view behind them await the same operation. -/
theorem client_awaits {task : ClientM A Unit (ClientState Unit ⊕ Unit)}
    (hrun : Run (Client.Step setting.utils) (Client.connectionMain setting.utils ())
      (clientView tr) task)
    {e : ClientEvent A (SndC' × RcvC')}
    (h' : Conversation setting Tc' Ts' processor' holder' (tr' ++ [.inl e]) s₁')
    (hview : clientView tr = clientView tr') : task.awaits = some (Client.erase e).op := by
  obtain ⟨pt, -, hrun'⟩ := h'.client_run
  rw [clientView_left] at hrun'
  obtain ⟨task', hbefore, step⟩ := hrun'.of_snoc
  rw [hview] at hrun
  rw [Run.unique (loopStep_deterministic _) hrun hbefore]
  exact awaits_of_loopStep step

theorem client_op_eq {e : ClientEvent A (SndC × RcvC)} {e' : ClientEvent A (SndC' × RcvC')}
    (h : Conversation setting Tc Ts processor holder (tr ++ [.inl e]) s₁)
    (h' : Conversation setting Tc' Ts' processor' holder' (tr' ++ [.inl e']) s₁')
    (hview : clientView tr = clientView tr') : (Client.erase e).op = (Client.erase e').op := by
  obtain ⟨pt, -, hrun⟩ := h.client_run
  rw [clientView_left] at hrun
  obtain ⟨task, hbefore, step⟩ := hrun.of_snoc
  have hop := client_awaits hbefore h' hview
  rw [awaits_of_loopStep step] at hop
  exact Option.some.inj hop

/-- Servers with the same view behind them await the same operation. -/
theorem server_awaits {task : ServerM A Unit (ConnectionState Unit ⊕ Unit)}
    (hrun : Run (Connection.Step setting.utils setting.router setting.addr)
      (Connection.handleConnection setting.utils setting.router setting.addr () setting.channel)
      (serverView tr) task)
    {e : ServerEvent A (SndS' × RcvS')}
    (h' : Conversation setting Tc' Ts' processor' holder' (tr' ++ [.inr e]) s₁')
    (hview : serverView tr = serverView tr') : task.awaits = some (Connection.erase e).op := by
  obtain ⟨pt, -, hrun'⟩ := h'.server_run
  rw [serverView_right] at hrun'
  obtain ⟨task', hbefore, step⟩ := hrun'.of_snoc
  rw [hview] at hrun
  rw [Run.unique (loopStep_deterministic _) hrun hbefore]
  exact awaits_of_loopStep step

theorem server_op_eq {e : ServerEvent A (SndS × RcvS)} {e' : ServerEvent A (SndS' × RcvS')}
    (h : Conversation setting Tc Ts processor holder (tr ++ [.inr e]) s₁)
    (h' : Conversation setting Tc' Ts' processor' holder' (tr' ++ [.inr e']) s₁')
    (hview : serverView tr = serverView tr') :
    (Connection.erase e).op = (Connection.erase e').op := by
  obtain ⟨pt, -, hrun⟩ := h.server_run
  rw [serverView_right] at hrun
  obtain ⟨task, hbefore, step⟩ := hrun.of_snoc
  have hop := server_awaits hbefore h' hview
  rw [awaits_of_loopStep step] at hop
  exact Option.some.inj hop

/-- A server that has ended has done all that a comparable one has. -/
theorem serverView_initial (h : Conversation setting Tc Ts processor holder tr s)
    (h' : Conversation setting Tc' Ts' processor' holder' tr' s')
    (hcmp : Comparable (serverView tr) (serverView tr'))
    (hended : (server setting.utils setting.router setting.addr).ended s'.right) :
    serverView tr <+: serverView tr' := by
  obtain ⟨pt, -, hrun⟩ := h.server_run
  obtain ⟨pt', hpt', hrun'⟩ := h'.server_run
  refine Run.prefix_of_stuck (loopStep_deterministic _) hrun' hrun ?_ hcmp.symm
  intro e next hstep
  rcases hended with hreturned | hunwound
  · rw [Connection.eq_returned_of_task (hpt'.symm.trans hreturned)] at hstep
    exact not_loopStep_ret hstep
  · rw [Connection.eq_unwound_of_task (hpt'.symm.trans hunwound)] at hstep
    obtain ⟨answer, -⟩ := loopStep_op.mp hstep
    exact nomatch answer

/-- A client that has ended has done all that a comparable one has. -/
theorem clientView_initial (h : Conversation setting Tc Ts processor holder tr s)
    (h' : Conversation setting Tc' Ts' processor' holder' tr' s')
    (hcmp : Comparable (clientView tr) (clientView tr'))
    (hended : (client setting.utils).ended s'.left) : clientView tr <+: clientView tr' := by
  obtain ⟨pt, -, hrun⟩ := h.client_run
  obtain ⟨pt', hpt', hrun'⟩ := h'.client_run
  refine Run.prefix_of_stuck (loopStep_deterministic _) hrun' hrun ?_ hcmp.symm
  intro e next hstep
  rw [Client.eq_returned_of_task (hpt'.symm.trans hended)] at hstep
  exact not_loopStep_ret hstep

/-! ## What is under way -/

theorem length_toLeft (h : Conversation setting Tc Ts processor holder tr s) :
    (Connection.wires (serverView tr)).length =
      (Client.received (clientView tr)).length + s.toLeft.length := by
  have hchannel : Connection.wires (rights tr) = Client.received (lefts tr) ++ s.toLeft :=
    (project h.run).toLeft_eq
  rw [serverView, clientView, Connection.length_wires_erase, Client.length_received_erase,
    hchannel, List.length_append]

theorem length_toRight (h : Conversation setting Tc Ts processor holder tr s) :
    (Client.wires (clientView tr)).length =
      (Connection.received (serverView tr)).length + s.toRight.length := by
  have hchannel : Client.wires (lefts tr) = Connection.received (rights tr) ++ s.toRight :=
    (project h.run).toRight_eq
  rw [serverView, clientView, Client.length_wires_erase, Connection.length_received_erase,
    hchannel, List.length_append]

/-- A client does not find a frame where another one finds the end of the stream. -/
theorem toLeft_eq_nil (h : Conversation setting Tc Ts processor holder tr s)
    (h' : Conversation setting Tc' Ts' processor' holder' tr' s')
    (hclient : clientView tr = clientView tr')
    (hserver : Comparable (serverView tr) (serverView tr')) (hempty : s'.toLeft = [])
    (hended : (server setting.utils setting.router setting.addr).ended s'.right) :
    s.toLeft = [] := by
  have hinit : serverView tr <+: serverView tr' := serverView_initial h h' hserver hended
  have hwires : (Connection.wires (serverView tr)).length ≤
      (Connection.wires (serverView tr')).length :=
    (List.IsPrefix.filterMap Connection.wire? hinit).length_le
  have hsent := length_toLeft h
  have hsent' := length_toLeft h'
  rw [hempty, List.length_nil] at hsent'
  rw [hclient] at hsent
  exact List.length_eq_zero_iff.mp (by omega)

/-- Nor does a server. -/
theorem toRight_eq_nil (h : Conversation setting Tc Ts processor holder tr s)
    (h' : Conversation setting Tc' Ts' processor' holder' tr' s')
    (hserver : serverView tr = serverView tr')
    (hclient : Comparable (clientView tr) (clientView tr')) (hempty : s'.toRight = [])
    (hended : (client setting.utils).ended s'.left) : s.toRight = [] := by
  have hinit : clientView tr <+: clientView tr' := clientView_initial h h' hclient hended
  have hwires : (Client.wires (clientView tr)).length ≤
      (Client.wires (clientView tr')).length :=
    (List.IsPrefix.filterMap Client.wire? hinit).length_le
  have hsent := length_toRight h
  have hsent' := length_toRight h'
  rw [hempty, List.length_nil] at hsent'
  rw [hserver] at hsent
  exact List.length_eq_zero_iff.mp (by omega)

/-! ## The answers are determined -/

theorem pulls_eq (hclient : clientView tr = clientView tr') :
    Client.pulls (lefts tr) = Client.pulls (lefts tr') := by
  have hpulls := congrArg Client.pulls hclient
  rwa [clientView, clientView, Client.pulls_erase, Client.pulls_erase] at hpulls

/-- Two clients with the same view behind them read the same message: the next
one their servers have written. -/
theorem client_message_eq (htransparent : Transparent Tc Ts processor holder)
    (htransparent' : Transparent Tc' Ts' processor' holder')
    {before after : SndC × RcvC} {before' after' : SndC' × RcvC'} {raw raw' data data' : Bytes}
    (h : Conversation setting Tc Ts processor holder
      (tr ++ [.inl ⟨.preProcess before raw, (after, data)⟩]) s₁)
    (h' : Conversation setting Tc' Ts' processor' holder'
      (tr' ++ [.inl ⟨.preProcess before' raw', (after', data')⟩]) s₁')
    (hclient : clientView tr = clientView tr')
    (hserver : Comparable (serverView tr) (serverView tr')) : data = data' := by
  have hread := (run_faithful htransparent h.run h.calm.lossless).2
  have hread' := (run_faithful htransparent' h'.run h'.calm.lossless).2
  rw [lefts_append, lefts_inl, rights_append, rights_inl, List.append_nil,
    Client.responses_snoc] at hread hread'
  have hresponses := congrArg Client.responses hclient
  rw [clientView, clientView, Client.responses_erase, Client.responses_erase] at hresponses
  rw [hresponses] at hread
  have hreplies := hserver.mono fun _ _ => Connection.replies_mono
  rw [serverView, serverView, Connection.replies_erase, Connection.replies_erase] at hreplies
  exact hreplies.next_eq hread hread'

/-- Two servers with the same view behind them read the same message: the next
one their clients have written. -/
theorem server_message_eq (htransparent : Transparent Tc Ts processor holder)
    (htransparent' : Transparent Tc' Ts' processor' holder')
    {before after : SndS × RcvS} {before' after' : SndS' × RcvS'} {raw raw' data data' : Bytes}
    (h : Conversation setting Tc Ts processor holder
      (tr ++ [.inr ⟨.preProcess before raw, (after, data)⟩]) s₁)
    (h' : Conversation setting Tc' Ts' processor' holder'
      (tr' ++ [.inr ⟨.preProcess before' raw', (after', data')⟩]) s₁')
    (hserver : serverView tr = serverView tr')
    (hclient : Comparable (clientView tr) (clientView tr')) : data = data' := by
  have hread := (run_faithful htransparent h.run h.calm.lossless).1
  have hread' := (run_faithful htransparent' h'.run h'.calm.lossless).1
  rw [rights_append, rights_inr, lefts_append, lefts_inr, List.append_nil,
    Connection.frames_snoc] at hread hread'
  have hframes := congrArg Connection.frames hserver
  rw [serverView, serverView, Connection.frames_erase, Connection.frames_erase] at hframes
  rw [hframes] at hread
  have hposts := hclient.mono fun _ _ => Client.posts_mono
  rw [clientView, clientView, Client.posts_erase, Client.posts_erase] at hposts
  exact hposts.next_eq hread hread'

/-- Two clients with the same view behind them see the same next, if the servers
have got as far as they need. -/
theorem client_agrees (htransparent : Transparent Tc Ts processor holder)
    (htransparent' : Transparent Tc' Ts' processor' holder')
    {e : ClientEvent A (SndC × RcvC)} {e' : ClientEvent A (SndC' × RcvC')}
    (h : Conversation setting Tc Ts processor holder (tr ++ [.inl e]) s₁)
    (h' : Conversation setting Tc' Ts' processor' holder' (tr' ++ [.inl e']) s₁')
    (hclient : clientView tr = clientView tr')
    (hserver : Comparable (serverView tr) (serverView tr')) :
    Client.erase e = Client.erase e' := by
  obtain ⟨s, hbefore, step⟩ := h.of_snoc
  obtain ⟨s', hbefore', step'⟩ := h'.of_snoc
  have hquiet := h.calm.clientQuiet
  have hquiet' := h'.calm.clientQuiet
  rw [lefts_append, lefts_inl] at hquiet hquiet'
  replace hquiet := (along_snoc.mp hquiet).2
  replace hquiet' := (along_snoc.mp hquiet').2
  cases step with
  | left hstep htake heof =>
  cases step' with
  | left hstep' htake' heof' =>
  have hop := client_op_eq h h' hclient
  -- the operations agree, so it remains to compare the answers
  cases e using Client.forall_event with
  | recv answer =>
      cases e' using Client.forall_event with
      | recv answer' =>
          have hfed := h.fed
          have hfed' := h'.fed
          rw [lefts_append, lefts_inl, Client.pulls_snoc] at hfed hfed'
          rw [pulls_eq hclient] at hfed
          obtain rfl : answer = answer' := (Comparable.refl _).next_eq hfed hfed'
          rfl
      | _ => cases hop
  | send site wire res =>
      cases e' using Client.forall_event with
      | send site' wire' res' =>
          cases hop
          cases hquiet
          cases hquiet'
          rfl
      | _ => cases hop
  | frame raw =>
      cases e' using Client.forall_event with
      | frame raw' => rfl
      | error kind => exact hquiet'.elim
      | ends =>
          -- the other server has ended, so this one has sent no more than was read
          obtain ⟨hempty, hended⟩ := heof' rfl
          rw [toLeft_eq_nil hbefore hbefore' hclient hserver hempty hended] at htake
          cases htake
      | _ => cases hop
  | error kind => exact hquiet.elim
  | ends =>
      cases e' using Client.forall_event with
      | frame raw' =>
          obtain ⟨hempty, hended⟩ := heof rfl
          rw [toLeft_eq_nil hbefore' hbefore hclient.symm hserver.symm hempty hended] at htake'
          cases htake'
      | error kind => exact hquiet'.elim
      | ends => rfl
      | _ => cases hop
  | preProcess before raw after data =>
      cases e' using Client.forall_event with
      | preProcess before' raw' after' data' =>
          obtain rfl := client_message_eq htransparent htransparent' h h' hclient hserver
          rfl
      | _ => cases hop
  | postProcess before message after wire =>
      cases e' using Client.forall_event with
      | postProcess before' message' after' wire' =>
          cases hop
          rfl
      | _ => cases hop
  | insertRoute name id =>
      cases e' using Client.forall_event with
      | insertRoute name' id' =>
          cases hop
          rfl
      | _ => cases hop
  | deliver consumer data res =>
      cases e' using Client.forall_event with
      | deliver consumer' data' res' =>
          cases hop
          rfl
      | _ => cases hop
  | warn error =>
      cases e' using Client.forall_event with
      | warn error' =>
          cases hop
          rfl
      | _ => cases hop

/-- Two servers with the same view behind them see the same next, if the clients
have got as far as they need. -/
theorem server_agrees (htransparent : Transparent Tc Ts processor holder)
    (htransparent' : Transparent Tc' Ts' processor' holder')
    {e : ServerEvent A (SndS × RcvS)} {e' : ServerEvent A (SndS' × RcvS')}
    (h : Conversation setting Tc Ts processor holder (tr ++ [.inr e]) s₁)
    (h' : Conversation setting Tc' Ts' processor' holder' (tr' ++ [.inr e']) s₁')
    (hserver : serverView tr = serverView tr')
    (hclient : Comparable (clientView tr) (clientView tr')) :
    Connection.erase e = Connection.erase e' := by
  obtain ⟨s, hbefore, step⟩ := h.of_snoc
  obtain ⟨s', hbefore', step'⟩ := h'.of_snoc
  have hquiet := h.calm.serverQuiet
  have hquiet' := h'.calm.serverQuiet
  have hhandled := h.handled
  have hhandled' := h'.handled
  rw [rights_append, rights_inr] at hquiet hquiet' hhandled hhandled'
  obtain ⟨hearlier, hquiet⟩ := along_snoc.mp hquiet
  obtain ⟨hearlier', hquiet'⟩ := along_snoc.mp hquiet'
  replace hhandled := (along_snoc.mp hhandled).2
  replace hhandled' := (along_snoc.mp hhandled').2
  cases step with
  | right hstep htake heof =>
  cases step' with
  | right hstep' htake' heof' =>
  have hop := server_op_eq h h' hserver
  -- the operations agree, so it remains to compare the answers
  cases e using Connection.forall_event with
  | frame raw =>
      cases e' using Connection.forall_event with
      | frame raw' => rfl
      | error kind => exact hquiet'.1.elim
      | ends =>
          -- the other client has ended, so this one has sent no more than was read
          obtain ⟨hempty, hended⟩ := heof' rfl
          rw [toRight_eq_nil hbefore hbefore' hserver hclient hempty hended] at htake
          cases htake
      | _ => cases hop
  | error kind => exact hquiet.1.elim
  | ends =>
      cases e' using Connection.forall_event with
      | frame raw' =>
          obtain ⟨hempty, hended⟩ := heof rfl
          rw [toRight_eq_nil hbefore' hbefore hserver.symm hclient.symm hempty hended] at htake'
          cases htake'
      | error kind => exact hquiet'.1.elim
      | ends => rfl
      | _ => cases hop
  | preProcess before raw after data =>
      cases e' using Connection.forall_event with
      | preProcess before' raw' after' data' =>
          obtain rfl := server_message_eq htransparent htransparent' h h' hserver hclient
          rfl
      | _ => cases hop
  | postProcess before message after wire =>
      cases e' using Connection.forall_event with
      | postProcess before' message' after' wire' =>
          cases hop
          rfl
      | _ => cases hop
  | send wire res =>
      cases e' using Connection.forall_event with
      | send wire' res' =>
          obtain rfl : res = .ok () := hquiet.1
          obtain rfl : res' = .ok () := hquiet'.1
          rfl
      | _ => cases hop
  | close =>
      cases e' using Connection.forall_event with
      | close => rfl
      | _ => cases hop
  | servePacket metaData payload =>
      cases e' using Connection.forall_event with
      | servePacket metaData' payload' =>
          cases hop
          rfl
      | _ => cases hop
  | serve call outcome =>
      cases e' using Connection.forall_event with
      | serve call' outcome' =>
          cases hop
          have hcalls := congrArg Connection.calls hserver
          rw [serverView, serverView, Connection.calls_erase, Connection.calls_erase] at hcalls
          have houtcome : outcome = .finished _ _ _ := hhandled
          have houtcome' : outcome' = .finished _ _ _ := hhandled'
          rw [houtcome, houtcome', hcalls]
          rfl
      | _ => cases hop
  | tryRecv channel answer =>
      cases e' using Connection.forall_event with
      | tryRecv channel' answer' =>
          cases hop
          obtain rfl := Connection.eq_none_of_quietLaw hearlier hquiet
          obtain rfl := Connection.eq_none_of_quietLaw hearlier' hquiet'
          rfl
      | _ => cases hop
  | accept call =>
      cases e' using Connection.forall_event with
      | accept call' =>
          have hcall : call.erase = call'.erase := ServerOp.accept.inj hop
          show (⟨.accept call.erase, ()⟩ : ServerEvent A Unit) = ⟨.accept call'.erase, ()⟩
          rw [hcall]
      | _ => cases hop

end Link

end FourthServer
