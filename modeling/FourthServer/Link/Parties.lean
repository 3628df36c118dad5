import FourthServer.Client.Ledger
import FourthServer.Client.Posts
import FourthServer.Library.Duplex
import FourthServer.Server.Steady

/-!
# A client and a server on one connection

The two tasks as the parties of a lossless connection: a successful send puts a
frame under way, a poll that yields a frame takes the oldest one.  `Calm` says
that nothing goes wrong on the way; then the messages the server reads are
those the client wrote, and the client's responses the server's replies, as far
as they have come (`Linked`).
-/

namespace FourthServer

open Resumption Trace Duplex

/-! ## The parties -/

namespace Link

variable {A : App} {P Q : Type}

/-- The client task on its end of the connection. -/
def client (utils : Utils A) :
    Party (ClientM A P (ClientState P ⊕ Unit)) (ClientEvent A P) Bytes Bytes where
  step := Client.Step utils
  put := Client.wire?
  take := Client.frame?
  eof e := Client.poll? e = some none
  ended task := task = .ret (.inr ())

/-- The connection task on its end of the connection; a panic drops the
stream. -/
def server (utils : Utils A) (router : TfServerRouter A) (addr : SocketAddr) :
    Party (ServerM A Q (ConnectionState Q ⊕ Unit)) (ServerEvent A Q) Bytes Bytes where
  step := Connection.Step utils router addr
  put := Connection.wire?
  take := Connection.frame?
  eof e := Connection.poll? e = some none
  ended task := task = .ret (.inr ()) ∨ task = ServerM.unwind

/-- Both tasks before their loops, on an empty connection. -/
def start (utils : Utils A) (router : TfServerRouter A) (addr : SocketAddr) (processor : P)
    (holder : Q) (channel : ℕ) :
    State (ClientM A P (ClientState P ⊕ Unit)) (ServerM A Q (ConnectionState Q ⊕ Unit)) Bytes
      Bytes :=
  State.start (Client.connectionMain utils processor)
    (Connection.handleConnection utils router addr holder channel)

/-- The events of both tasks. -/
abbrev LinkEvent (A : App) (P Q : Type) := ClientEvent A P ⊕ ServerEvent A Q

/-- A run of the two tasks. -/
abbrev LinkRun (utils : Utils A) (router : TfServerRouter A) (addr : SocketAddr) (processor : P)
    (holder : Q) (channel : ℕ) (tr : List (LinkEvent A P Q))
    (s : State (ClientM A P (ClientState P ⊕ Unit)) (ServerM A Q (ConnectionState Q ⊕ Unit)) Bytes
      Bytes) : Prop :=
  Run (Duplex.Step (client utils) (server utils router addr))
    (start utils router addr processor holder channel) tr s

theorem client_stuck (utils : Utils A) (task : ClientM A P (ClientState P ⊕ Unit))
    (e : ClientEvent A P) (next : ClientM A P (ClientState P ⊕ Unit))
    (hended : (client utils).ended task) : ¬(client utils).step task e next := by
  cases hended
  exact not_loopStep_ret

variable {utils : Utils A} {router : TfServerRouter A} {addr : SocketAddr} {channel : ℕ}

theorem server_stuck (utils : Utils A) (router : TfServerRouter A) (addr : SocketAddr)
    (task : ServerM A Q (ConnectionState Q ⊕ Unit)) (e : ServerEvent A Q)
    (next : ServerM A Q (ConnectionState Q ⊕ Unit))
    (hended : (server utils router addr).ended task) :
    ¬(server utils router addr).step task e next := by
  rcases hended with rfl | rfl
  · exact not_loopStep_ret
  · rintro ⟨⟩
    contradiction

/-- Nothing goes wrong at the server, and its deserialise function does not panic. -/
def sustains (utils : Utils A) (router : TfServerRouter A) (before : List (ServerEvent A Q))
    (e : ServerEvent A Q) : Prop :=
  Connection.quietLaw before e ∧
    ∀ packet ∈ (Connection.call? e).toList, Connection.ReadsMeta utils router packet.1

/-- On an undisturbed connection the server ends only after the end of its
stream. -/
theorem server_ends (htotal : utils.Total) {holder : Q}
    {events : List (ServerEvent A Q)} {task : ServerM A Q (ConnectionState Q ⊕ Unit)}
    (run : Run (Connection.Step utils router addr)
      (Connection.handleConnection utils router addr holder channel) events task)
    (hlaw : Along (sustains utils router) events)
    (hended : (server utils router addr).ended task) :
    ∃ e ∈ events, (server utils router addr).eof e := by
  obtain ⟨pt, hrun, rfl⟩ := Connection.run_points run
  have hreads : ∀ packet ∈ Connection.calls events, Connection.ReadsMeta utils router packet.1 := by
    intro packet hmem
    obtain ⟨e, he, hcall⟩ := List.mem_filterMap.mp hmem
    obtain ⟨before, after, rfl⟩ := List.append_of_mem he
    exact (hlaw before e after rfl).2 packet (Option.mem_toList.mpr hcall)
  obtain ⟨-, hopen⟩ :=
    Connection.run_staysOpen htotal hrun hreads (hlaw.mono fun _ _ hevent => hevent.1)
  have hpolls : none ∈ Connection.polls events := by
    rcases hended with hreturned | hunwound
    · rw [Connection.eq_returned_of_task hreturned] at hopen
      exact hopen
    · refine absurd hunwound (Connection.task_ne_unwind ?_)
      rintro rfl
      exact hopen
  obtain ⟨e, he, hpoll⟩ := List.mem_filterMap.mp hpolls
  exact ⟨e, he, hpoll⟩

/-! ## An undisturbed connection -/

section Calm

variable {SndC RcvC SndS RcvS : Type} {Tc : Hooks.Pair SndC RcvC Bytes}
  {Ts : Hooks.Pair SndS RcvS Bytes}

/-- Nothing goes wrong: no send and no decoding fails, the handlers give their
senders back, and both processors work as `Tc` and `Ts`. -/
structure Calm (Tc : Hooks.Pair SndC RcvC Bytes) (Ts : Hooks.Pair SndS RcvS Bytes)
    (tr : List (LinkEvent A (SndC × RcvC) (SndS × RcvS))) : Prop where
  clientQuiet : Along Client.quietLaw (lefts tr)
  clientHooks : ∀ e ∈ lefts tr, Client.obeys Tc e
  serverQuiet : Along Connection.quietLaw (rights tr)
  serverHooks : ∀ e ∈ rights tr, Connection.obeys Ts e

/-- No send and no decoding fails, and both processors work as `Tc` and `Ts`; the
handlers may do as they please. -/
structure Lossless (Tc : Hooks.Pair SndC RcvC Bytes) (Ts : Hooks.Pair SndS RcvS Bytes)
    (tr : List (LinkEvent A (SndC × RcvC) (SndS × RcvS))) : Prop where
  clientQuiet : Along Client.quietLaw (lefts tr)
  clientHooks : ∀ e ∈ lefts tr, Client.obeys Tc e
  serverSteady : ∀ e ∈ rights tr, Connection.quietLaw.steady e
  serverHooks : ∀ e ∈ rights tr, Connection.obeys Ts e

theorem Lossless.before {tr later : List (LinkEvent A (SndC × RcvC) (SndS × RcvS))}
    (h : Lossless Tc Ts (tr ++ later)) : Lossless Tc Ts tr := by
  obtain ⟨hclient, hclientHooks, hserver, hserverHooks⟩ := h
  rw [lefts_append] at hclient hclientHooks
  rw [rights_append] at hserver hserverHooks
  exact ⟨(along_append.mp hclient).1, fun e he => hclientHooks e (List.mem_append_left _ he),
    fun e he => hserver e (List.mem_append_left _ he),
    fun e he => hserverHooks e (List.mem_append_left _ he)⟩

theorem Calm.lossless {tr : List (LinkEvent A (SndC × RcvC) (SndS × RcvS))} (h : Calm Tc Ts tr) :
    Lossless Tc Ts tr :=
  ⟨h.clientQuiet, h.clientHooks, Connection.steady_of_quietLaw h.serverQuiet, h.serverHooks⟩

/-- The processors of the two ends undo each other, in both directions. -/
structure Transparent (Tc : Hooks.Pair SndC RcvC Bytes) (Ts : Hooks.Pair SndS RcvS Bytes)
    (processor : SndC × RcvC) (holder : SndS × RcvS) : Prop where
  forth : Transducer.Inverts Tc.post processor.1 Ts.pre holder.2
  back : Transducer.Inverts Ts.post holder.1 Tc.pre processor.2

/-- Where the two tasks are, and how their histories belong together. -/
structure Linked (utils : Utils A) (router : TfServerRouter A) (addr : SocketAddr)
    (processor : SndC × RcvC) (holder : SndS × RcvS) (channel : ℕ)
    (tr : List (LinkEvent A (SndC × RcvC) (SndS × RcvS)))
    (s : State (ClientM A (SndC × RcvC) (ClientState (SndC × RcvC) ⊕ Unit))
      (ServerM A (SndS × RcvS) (ConnectionState (SndS × RcvS) ⊕ Unit)) Bytes Bytes)
    (clientPt : Client.Point A (SndC × RcvC)) (serverPt : Connection.Point A (SndS × RcvS))
    (done : List (Client.Exchange A)) : Prop where
  left_eq : s.left = clientPt.task utils
  right_eq : s.right = serverPt.task utils router addr
  clientRun : Run (Client.Next utils) (.top (Client.initial processor)) (lefts tr) clientPt
  serverRun : Run (Connection.Next utils router addr) (.top (Connection.initial holder channel))
    (rights tr) serverPt
  ledger : Client.At utils (lefts tr) done clientPt
  tally : Connection.At utils router addr (rights tr) serverPt
  forth : Connection.frames (rights tr) <+: Client.posts (lefts tr)
  back : Client.responses (lefts tr) <+: Connection.replies (rights tr)
  toRight : Client.wires (lefts tr) = Connection.received (rights tr) ++ s.toRight
  toLeft : Connection.wires (rights tr) = Client.received (lefts tr) ++ s.toLeft

variable {processor : SndC × RcvC} {holder : SndS × RcvS}
  {tr : List (LinkEvent A (SndC × RcvC) (SndS × RcvS))}
  {s : State (ClientM A (SndC × RcvC) (ClientState (SndC × RcvC) ⊕ Unit))
      (ServerM A (SndS × RcvS) (ConnectionState (SndS × RcvS) ⊕ Unit)) Bytes Bytes}

theorem clientHooks_separated (hlossless : Lossless Tc Ts tr)
    (hchained : Hooks.Chained processor (Client.hooks (lefts tr))) :
    Hooks.Separated Tc processor (Client.hooks (lefts tr)) := by
  refine Hooks.separated hchained fun call hmem => ?_
  obtain ⟨e, he, hhook⟩ := List.mem_filterMap.mp hmem
  exact hlossless.clientHooks e he call hhook

theorem serverHooks_separated (hlossless : Lossless Tc Ts tr)
    (hchained : Hooks.Chained holder (Connection.hooks (rights tr))) :
    Hooks.Separated Ts holder (Connection.hooks (rights tr)) := by
  refine Hooks.separated hchained fun call hmem => ?_
  obtain ⟨e, he, hhook⟩ := List.mem_filterMap.mp hmem
  exact hlossless.serverHooks e he call hhook

/-- What a party has read of the other one is what that one wrote, as far as it
has come. -/
theorem run_faithful (htransparent : Transparent Tc Ts processor holder)
    (run : LinkRun utils router addr processor holder channel tr s)
    (hlossless : Lossless Tc Ts tr) :
    Connection.frames (rights tr) <+: Client.posts (lefts tr) ∧
      Client.responses (lefts tr) <+: Connection.replies (rights tr) := by
  obtain ⟨hleft, hright, htoRight, htoLeft⟩ := project run
  obtain ⟨clientPt, hclient, -⟩ := Client.run_points hleft
  obtain ⟨serverPt, hserver, -⟩ := Connection.run_points hright
  obtain ⟨hsent, hread⟩ := Client.run_flow hclient hlossless.clientQuiet
  have hclientHooks := clientHooks_separated hlossless (Client.run_holds rfl rfl hclient).chained
  have hserverHooks := serverHooks_separated hlossless (Connection.run_carried hserver).chained
  obtain ⟨owed, howed, -⟩ :=
    (Connection.run_at hserver (Connection.framedLaw_of_steady hlossless.serverSteady)).account
  -- what is read is an initial part of what the other end has made of its messages
  have hforth : Connection.inputs (rights tr) <+:
      Transducer.transduce Tc.post processor.1 (Client.posts (lefts tr)) := by
    have hinputs : Connection.inputs (rights tr) <+: Connection.received (rights tr) :=
      ⟨_, howed.read.symm⟩
    have hreceived : Connection.received (rights tr) <+: Client.wires (lefts tr) :=
      ⟨_, htoRight.symm⟩
    have hwires : Client.wires (lefts tr) <+: Client.outputs (lefts tr) := ⟨_, hsent.symm⟩
    exact hclientHooks.sending_outputs ▸ hinputs.trans (hreceived.trans hwires)
  have hback : Client.inputs (lefts tr) <+:
      Transducer.transduce Ts.post holder.1 (Connection.replies (rights tr)) := by
    have hinputs : Client.inputs (lefts tr) <+: Client.received (lefts tr) := ⟨_, hread.symm⟩
    have hreceived : Client.received (lefts tr) <+: Connection.wires (rights tr) :=
      ⟨_, htoLeft.symm⟩
    have hwires : Connection.wires (rights tr) <+: Connection.outputs (rights tr) :=
      ⟨_, howed.sent.symm⟩
    exact hserverHooks.sending_outputs ▸ hinputs.trans (hreceived.trans hwires)
  constructor
  · show Hooks.receivedOutputs (Connection.hooks (rights tr)) <+: _
    rw [hserverHooks.receiving_outputs]
    exact htransparent.forth.mono hforth
  · show Hooks.receivedOutputs (Client.hooks (lefts tr)) <+: _
    rw [hclientHooks.receiving_outputs]
    exact htransparent.back.mono hback

/-- What the server passes to `serve_packet` are packets of the client. -/
theorem calls_initial (htransparent : Transparent Tc Ts processor holder)
    (run : LinkRun utils router addr processor holder channel tr s)
    (hlossless : Lossless Tc Ts tr) :
    Connection.calls (rights tr) <+: Connection.packets utils (Client.posts (lefts tr)) := by
  obtain ⟨serverPt, hserver, -⟩ := Connection.run_points (project run).right_run
  obtain ⟨owed, htally, -⟩ :=
    (Connection.run_at hserver (Connection.framedLaw_of_steady hlossless.serverSteady)).account
  refine List.IsPrefix.trans ?_
    (Connection.packets_mono (run_faithful htransparent run hlossless).1)
  rw [htally.called]
  exact List.prefix_append _ _

/-- Of the structure types, the server reads those of the requests only. -/
theorem reads_of_calls (hlawful : utils.Lawful) (htransparent : Transparent Tc Ts processor holder)
    (run : LinkRun utils router addr processor holder channel tr s) (hlossless : Lossless Tc Ts tr)
    (hreads : ∀ request ∈ Client.taken (lefts tr), ReadsType router request) :
    ∀ packet ∈ Connection.calls (rights tr), Connection.ReadsMeta utils router packet.1 := by
  intro packet hmem
  obtain ⟨clientPt, hclient, -⟩ := Client.run_points (project run).left_run
  exact Client.reads_of_head hlawful hreads (Client.run_posts hlawful hclient packet
    ((calls_initial htransparent run hlossless).subset hmem))

theorem client_steady (hlawful : utils.Lawful) (htransparent : Transparent Tc Ts processor holder)
    (run : LinkRun utils router addr processor holder channel tr s) (hcalm : Calm Tc Ts tr)
    (hreads : ∀ request ∈ Client.taken (lefts tr), ReadsType router request) :
    Along Client.steadyLaw (lefts tr) := by
  have hsustains : Along (sustains utils router) (rights tr) := by
    intro before e after hsplit
    refine ⟨hcalm.serverQuiet before e after hsplit, fun packet hcall => ?_⟩
    refine reads_of_calls hlawful htransparent run hcalm.lossless hreads packet ?_
    exact List.mem_filterMap.mpr ⟨e, by simp [hsplit], Option.mem_toList.mp hcall⟩
  have hnever := not_eof_of_ends (sustains utils router) (client_stuck utils)
    (fun events t hrun hlaw hended => server_ends hlawful.toTotal hrun hlaw hended) run hsustains
  exact Client.steady_of_quiet hcalm.clientQuiet fun hmem => hnever _ hmem rfl

/-- The two tasks do not go on for ever. -/
theorem run_length (htransparent : Transparent Tc Ts processor holder)
    (run : LinkRun utils router addr processor holder channel tr s) (hcalm : Calm Tc Ts tr) :
    tr.length ≤ 140 * ((Client.taken (lefts tr)).length + 1) := by
  obtain ⟨hleft, hright, -, -⟩ := project run
  obtain ⟨clientPt, hclient, -⟩ := Client.run_points hleft
  obtain ⟨serverPt, hserver, -⟩ := Connection.run_points hright
  have hclientLength := Client.run_length hclient
  have hserverLength := Connection.run_length hserver hcalm.serverQuiet
  have hspent : clientPt.spent ≤ 15 := by cases clientPt <;> simp [Client.Point.spent]
  obtain ⟨owed, htally, -⟩ :=
    (Connection.run_at hserver (Connection.framedLaw_of_quietLaw hcalm.serverQuiet)).account
  have hcalls : (Connection.calls (rights tr)).length ≤
      (Connection.packets utils (Connection.frames (rights tr))).length := by
    rw [htally.called, List.length_append]
    omega
  have hpackets : (Connection.packets utils (Connection.frames (rights tr))).length ≤
      (Connection.frames (rights tr)).length := by
    rw [Connection.packets, List.length_map]
    exact Grouping.length_group_le _
  have hframes := (run_faithful htransparent run hcalm.lossless).1.length_le
  have hposts := Client.length_posts_le (lefts tr)
  have hlength := Duplex.length_lefts_rights tr
  omega

/-- Until the client has seen the end of its stream. -/
theorem linked_of_steady (htotal : utils.Total)
    (htransparent : Transparent Tc Ts processor holder)
    (run : LinkRun utils router addr processor holder channel tr s) (hlossless : Lossless Tc Ts tr)
    (hsteady : Along Client.steadyLaw (lefts tr)) :
    ∃ clientPt serverPt done,
      Linked utils router addr processor holder channel tr s clientPt serverPt done := by
  obtain ⟨hleft, hright, htoRight, htoLeft⟩ := project run
  obtain ⟨clientPt, hclient, hleft_eq⟩ := Client.run_points hleft
  obtain ⟨serverPt, hserver, hright_eq⟩ := Connection.run_points hright
  obtain ⟨done, hledger⟩ := Client.run_at htotal hclient hsteady
  have htally :=
    Connection.run_at hserver (Connection.framedLaw_of_steady hlossless.serverSteady)
  obtain ⟨hforth, hback⟩ := run_faithful htransparent run hlossless
  exact ⟨clientPt, serverPt, done, hleft_eq, hright_eq, hclient, hserver, hledger, htally, hforth,
    hback, htoRight, htoLeft⟩

theorem run_linked (hlawful : utils.Lawful) (htransparent : Transparent Tc Ts processor holder)
    (run : LinkRun utils router addr processor holder channel tr s) (hcalm : Calm Tc Ts tr)
    (hreads : ∀ request ∈ Client.taken (lefts tr), ReadsType router request) :
    ∃ clientPt serverPt done,
      Linked utils router addr processor holder channel tr s clientPt serverPt done :=
  linked_of_steady hlawful.toTotal htransparent run hcalm.lossless
    (client_steady hlawful htransparent run hcalm hreads)

/-! ## One step more -/

variable {clientPt : Client.Point A (SndC × RcvC)} {serverPt : Connection.Point A (SndS × RcvS)}

theorem calm_left (hcalm : Calm Tc Ts tr) {e : ClientEvent A (SndC × RcvC)}
    (hquiet : Client.quietLaw (lefts tr) e) (hobeys : Client.obeys Tc e) :
    Calm Tc Ts (tr ++ [.inl e]) := by
  obtain ⟨hclient, hclientHooks, hserver, hserverHooks⟩ := hcalm
  refine ⟨?_, ?_, by simpa using hserver, by simpa using hserverHooks⟩
  · rw [lefts_append, lefts_inl]
    exact along_snoc.mpr ⟨hclient, hquiet⟩
  · rw [lefts_append, lefts_inl]
    intro e' hmem
    rcases List.mem_append.mp hmem with hmem | hmem
    · exact hclientHooks e' hmem
    · exact List.mem_singleton.mp hmem ▸ hobeys

theorem calm_right (hcalm : Calm Tc Ts tr) {e : ServerEvent A (SndS × RcvS)}
    (hquiet : Connection.quietLaw (rights tr) e) (hobeys : Connection.obeys Ts e) :
    Calm Tc Ts (tr ++ [.inr e]) := by
  obtain ⟨hclient, hclientHooks, hserver, hserverHooks⟩ := hcalm
  refine ⟨by simpa using hclient, by simpa using hclientHooks, ?_, ?_⟩
  · rw [rights_append, rights_inr]
    exact along_snoc.mpr ⟨hserver, hquiet⟩
  · rw [rights_append, rights_inr]
    intro e' hmem
    rcases List.mem_append.mp hmem with hmem | hmem
    · exact hserverHooks e' hmem
    · exact List.mem_singleton.mp hmem ▸ hobeys

/-- A step of the client is a step of the pair. -/
theorem step_left (router : TfServerRouter A) (hleft : s.left = clientPt.task utils)
    {e : ClientEvent A (SndC × RcvC)}
    {next : Client.Point A (SndC × RcvC)} (hnext : Client.Next utils clientPt e next)
    (rest : List Bytes) (htake : s.toLeft = (Client.frame? e).toList ++ rest)
    (hpoll : Client.poll? e ≠ some none) :
    ∃ after, Duplex.Step (client utils) (server utils router addr) s (.inl e) after := by
  have hstep : Client.Step utils s.left e (next.task utils) := by
    rw [hleft]
    exact Client.step_of_next hnext
  exact ⟨_, .left hstep htake fun heof => absurd heof hpoll⟩

/-- A step of the server is a step of the pair. -/
theorem step_right (hright : s.right = serverPt.task utils router addr)
    {e : ServerEvent A (SndS × RcvS)} {next : Connection.Point A (SndS × RcvS)}
    (hnext : Connection.Next utils router addr serverPt e next) (rest : List Bytes)
    (htake : s.toRight = (Connection.frame? e).toList ++ rest)
    (hpoll : Connection.poll? e ≠ some none) :
    ∃ after, Duplex.Step (client utils) (server utils router addr) s (.inr e) after := by
  have hstep : Connection.Step utils router addr s.right e (next.task utils router addr) := by
    rw [hright]
    exact Connection.step_of_next hnext
  exact ⟨_, .right hstep htake fun heof => absurd heof hpoll⟩

/-- A frame that is under way to a client that waits for it can be taken. -/
theorem client_takes (utils : Utils A) (hpolling : Client.Polling clientPt) (frame : Bytes) :
    ∃ next, Client.Next utils clientPt ⟨.next, some (.ok frame)⟩ next := by
  cases clientPt with
  | routeWaiting st request name => exact ⟨_, .routeFrame st request name frame⟩
  | waiting st request id => exact ⟨_, .responseFrame st request id frame⟩
  | _ => exact hpolling.elim

/-- Nor is the end of the stream overlooked. -/
theorem client_sees_end (utils : Utils A) (hpolling : Client.Polling clientPt) :
    ∃ next, Client.Next utils clientPt ⟨.next, none⟩ next := by
  cases clientPt with
  | routeWaiting st request name => exact ⟨_, .routeEnd st request name⟩
  | waiting st request id => exact ⟨_, .responseEnd st request id⟩
  | _ => exact hpolling.elim

theorem server_takes (utils : Utils A) (hpolling : Connection.Polling serverPt) (frame : Bytes) :
    ∃ next, Connection.Next utils router addr serverPt ⟨.next, some (.ok frame)⟩ next := by
  cases serverPt with
  | top st => exact ⟨_, .metaFrame st frame⟩
  | payloadWait st metaData => exact ⟨_, .payloadFrame st metaData frame⟩
  | _ => exact hpolling.elim

theorem server_sees_end (utils : Utils A) (hpolling : Connection.Polling serverPt) :
    ∃ next, Connection.Next utils router addr serverPt ⟨.next, none⟩ next := by
  cases serverPt with
  | top st => exact ⟨_, .metaEnd st⟩
  | payloadWait st metaData => exact ⟨_, .payloadEnd st metaData⟩
  | _ => exact hpolling.elim

end Calm

end Link

end FourthServer
