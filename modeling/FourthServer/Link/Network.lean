import FourthServer.Link.Callers
import FourthServer.Server.Connections

/-!
# A server and all its clients

A server takes any number of connections, each with a client of its own, whose
callers dispatch requests.  A client may write before the server has got to its
connection; the frames wait.  However all of them take turns, a client with a task at
the server moves as if the two were alone (`run_joined`).
-/

namespace FourthServer

open Resumption Trace Duplex CallState

/-- A client, and what is under way on its connection. -/
structure ClientEnd (A : App) (P : Type) where
  calls : CallState A P
  toServer : List Bytes
  toClient : List Bytes

/-- A server and its clients. -/
structure Network (A : App) (S T C P Q : Type) where
  server : ServerState A S T C Q
  /-- The clients, by the number of their connection. -/
  clients : ℕ → ClientEnd A P
  /-- The connections that the acceptor has refused. -/
  refused : ℕ → Bool

inductive NetworkEvent (A : App) (S T C P Q : Type)
  | acceptor (number : ℕ) (e : AcceptorEvent S T C Q)
  | caller (number : ℕ) (ev : CallEvent A P)
  | client (number : ℕ) (e : ClientEvent A P)
  | connection (number : ℕ) (e : ServerEvent A Q)

namespace Network

variable {A : App} {S T C P Q : Type} (config : AcceptorConfig S T) (codec : C) (utils : Utils A)
  (router : TfServerRouter A) (maxRequestInTime : ℕ → ℕ)

/-- The server has dropped its end of the connection. -/
def Gone (s : Network A S T C P Q) (number : ℕ) : Prop :=
  match s.server.connections number with
  | some connection => connection.task = .ret (.inr ()) ∨ connection.task = ServerM.unwind
  | none => s.refused number = true

/-- The connections refused after an event of the acceptor. -/
def refusedBy (number : ℕ) (refused : ℕ → Bool) (e : AcceptorEvent S T C Q) : ℕ → Bool :=
  match Acceptor.outcome? e with
  | some none => Function.update refused number true
  | _ => refused

/-- The server before its first connection, and every client before its first
request. -/
def start (processors : ℕ → P) (holder : Q) : Network A S T C P Q where
  server := TfServer.start config codec holder
  clients := fun number => ⟨.initial utils (processors number), [], []⟩
  refused := fun _ => false

/-- The steps of a network. -/
inductive Step : Network A S T C P Q → NetworkEvent A S T C P Q → Network A S T C P Q → Prop
  | acceptor {s : Network A S T C P Q} {number : ℕ} {e : AcceptorEvent S T C Q}
      {server : ServerState A S T C Q}
      (step : TfServer.Step config codec utils router s.server (.acceptor number e) server) :
      Step s (.acceptor number e)
        { s with server := server, refused := refusedBy number s.refused e }
  | caller {s : Network A S T C P Q} {number : ℕ} {ev : CallEvent A P} {calls : CallState A P}
      (own : ∀ e, ev ≠ .task e)
      (step : CallState.Step utils (maxRequestInTime number) (s.clients number).calls ev calls) :
      Step s (.caller number ev)
        { s with
          clients := Function.update s.clients number
            { s.clients number with calls := calls } }
  | client {s : Network A S T C P Q} {number : ℕ} {e : ClientEvent A P} {calls : CallState A P}
      {rest : List Bytes}
      (step : CallState.Step utils (maxRequestInTime number) (s.clients number).calls (.task e)
        calls)
      (take : (s.clients number).toClient = (Client.frame? e).toList ++ rest)
      (eof : Client.poll? e = some none → (s.clients number).toClient = [] ∧ s.Gone number) :
      Step s (.client number e)
        { s with
          clients := Function.update s.clients number
            ⟨calls, (s.clients number).toServer ++ (Client.wire? e).toList, rest⟩ }
  | connection {s : Network A S T C P Q} {number : ℕ} {e : ServerEvent A Q}
      {server : ServerState A S T C Q} {rest : List Bytes}
      (step : TfServer.Step config codec utils router s.server (.connection number e) server)
      (take : (s.clients number).toServer = (Connection.frame? e).toList ++ rest)
      (eof : Connection.poll? e = some none → (s.clients number).toServer = [] ∧
        (s.clients number).calls.dispatcher.rx = false) :
      Step s (.connection number e)
        { s with
          server := server
          clients := Function.update s.clients number
            ⟨(s.clients number).calls, rest,
              (s.clients number).toClient ++ (Connection.wire? e).toList⟩ }

/-! ## Reading a history -/

variable {config codec utils router maxRequestInTime}

@[simp] def server? : NetworkEvent A S T C P Q → Option (ServerStateEvent A S T C Q)
  | .acceptor number e => some (.acceptor number e)
  | .connection number e => some (.connection number e)
  | .caller _ _ => none
  | .client _ _ => none

/-- The history of the server. -/
def served (tr : List (NetworkEvent A S T C P Q)) : List (ServerStateEvent A S T C Q) :=
  tr.filterMap server?

@[simp] def own? (number : ℕ) : NetworkEvent A S T C P Q → Option (Link.CallLinkEvent A P Q)
  | .acceptor _ _ => none
  | .caller other ev => if other = number then some (.inl ev) else none
  | .client other e => if other = number then some (.inl (.task e)) else none
  | .connection other e => if other = number then some (.inr e) else none

/-- The history of a client, its callers and its task at the server. -/
def own (number : ℕ) (tr : List (NetworkEvent A S T C P Q)) : List (Link.CallLinkEvent A P Q) :=
  tr.filterMap (own? number)

/-- A client, its callers and its task at the server. -/
def link (s : Network A S T C P Q) (number : ℕ) (task : ServerM A Q (ConnectionState Q ⊕ Unit)) :
    Link.CallLink A P Q :=
  ⟨(s.clients number).calls.dispatcher, (s.clients number).calls.task, task,
    (s.clients number).toServer, (s.clients number).toClient⟩

section Snoc

variable (tr : List (NetworkEvent A S T C P Q)) (ev : NetworkEvent A S T C P Q) (number : ℕ)

@[simp] theorem served_snoc : served (tr ++ [ev]) = served tr ++ (server? ev).toList :=
  filterMap_snoc _ tr ev

@[simp] theorem own_snoc : own number (tr ++ [ev]) = own number tr ++ (own? number ev).toList :=
  filterMap_snoc _ tr ev

end Snoc

/-! ## The parts of a network -/

variable {processors : ℕ → P} {holder : Q} {tr : List (NetworkEvent A S T C P Q)}
  {s s' : Network A S T C P Q} {ev : NetworkEvent A S T C P Q} {number index : ℕ}

theorem run_server
    (run : Run (Step config codec utils router maxRequestInTime)
      (start config codec utils processors holder) tr s) :
    Run (TfServer.Step config codec utils router) (TfServer.start config codec holder) (served tr)
      s.server := by
  refine run.invariant (I := fun tr s => Run (TfServer.Step config codec utils router)
    (TfServer.start config codec holder) (served tr) s.server) Run.nil ?_
  rintro tr s ev s' - hrun step
  rw [served_snoc]
  cases step with
  | acceptor step => exact hrun.snoc step
  | connection step => exact hrun.snoc step
  | caller | client =>
      rw [server?, Option.toList_none, List.append_nil]
      exact hrun

/-- What has become of the connections. -/
def outcomes (tr : List (NetworkEvent A S T C P Q)) : List (Option (Start T C Q)) :=
  Acceptor.outcomes (TfServer.acceptors (served tr))

/-- The run of a client with its callers and a task at the server. -/
abbrev Alone (utils : Utils A) (router : TfServerRouter A) (maxRequestInTime : ℕ → ℕ)
    (processors : ℕ → P) (number : ℕ) (addr : SocketAddr) (holder : Q)
    (events : List (Link.CallLinkEvent A P Q)) (after : Link.CallLink A P Q) : Prop :=
  Run (Link.CallLink.Step utils router addr (maxRequestInTime number))
    (.start utils router addr (processors number) holder number) events after

/-- A client is served as if it were alone with its task, which begins with what the
client has written before. -/
structure Joined (utils : Utils A) (router : TfServerRouter A) (maxRequestInTime : ℕ → ℕ)
    (processors : ℕ → P) (tr : List (NetworkEvent A S T C P Q)) (s : Network A S T C P Q)
    (index : ℕ) : Prop where
  refused : s.refused (index + 1) = true → (outcomes tr)[index]? = some none
  waiting : .abort ∉ lefts (own (index + 1) tr) → s.server.connections (index + 1) = none →
    s.refused (index + 1) = false → ∀ addr holder,
      Alone utils router maxRequestInTime processors (index + 1) addr holder (own (index + 1) tr)
        (s.link (index + 1)
          (Connection.handleConnection utils router addr holder (index + 1)))
  joined : .abort ∉ lefts (own (index + 1) tr) → ∀ connection,
    s.server.connections (index + 1) = some connection →
      ∃ start, (outcomes tr)[index]? = some (some start) ∧ connection.addr = start.addr ∧
        Alone utils router maxRequestInTime processors (index + 1) start.addr start.processor
          (own (index + 1) tr) (s.link (index + 1) connection.task)

theorem start_joined : Joined utils router maxRequestInTime processors
    ([] : List (NetworkEvent A S T C P Q)) (start config codec utils processors holder) index where
  refused h := by cases h
  waiting _ _ _ _ _ := Run.nil
  joined _ _ h := by cases h

theorem refusedBy_eq {refused : ℕ → Bool} {e : AcceptorEvent S T C Q}
    (h : Acceptor.outcome? e ≠ some none) : refusedBy number refused e = refused := by
  unfold refusedBy
  generalize Acceptor.outcome? e = outcome at h
  rcases outcome with _ | _ | start
  · rfl
  · exact absurd rfl h
  · rfl

theorem refusedBy_eq_update {refused : ℕ → Bool} {e : AcceptorEvent S T C Q}
    (h : Acceptor.outcome? e = some none) :
    refusedBy number refused e = Function.update refused number true := by
  unfold refusedBy
  rw [h]

theorem outcomes_acceptor (number : ℕ) (e : AcceptorEvent S T C Q) :
    outcomes (tr ++ [.acceptor number e]) = outcomes tr ++ (Acceptor.outcome? e).toList := by
  simp [outcomes]

theorem own_acceptor (number other : ℕ) (e : AcceptorEvent S T C Q) :
    own other (tr ++ [.acceptor number e]) = own other tr := by
  simp

/-- What has become of a connection stays. -/
theorem getElem?_outcomes_acceptor (number : ℕ) (e : AcceptorEvent S T C Q)
    {outcome : Option (Start T C Q)} (h : (outcomes tr)[index]? = some outcome) :
    (outcomes (tr ++ [.acceptor number e]))[index]? = some outcome := by
  rw [outcomes_acceptor, List.getElem?_append_left (List.getElem?_eq_some_iff.mp h).1, h]

/-- A connection gets its task. -/
theorem Joined.spawn {start : Start T C Q}
    (h : Joined utils router maxRequestInTime processors tr s index)
    (spawns : TfServer.Spawns config codec utils router holder (served tr) s.server
      (.starting start)) {acceptor : AcceptorM S T C Q (Q ⊕ Unit)} :
    Joined utils router maxRequestInTime processors
      (tr ++ [.acceptor s.server.accepted ⟨.spawn start, ()⟩])
      { s with
        server := ⟨acceptor, s.server.accepted, Function.update s.server.connections
          s.server.accepted (some ⟨start.addr, Connection.handleConnection utils router start.addr
            start.processor s.server.accepted⟩)⟩ } index := by
  have haccepted : s.server.accepted = (outcomes tr).length + 1 := spawns.counted.symm
  have houtcomes : outcomes (tr ++ [.acceptor s.server.accepted ⟨.spawn start, ()⟩]) =
      outcomes tr ++ [some start] :=
    outcomes_acceptor _ _
  by_cases heq : index = (outcomes tr).length
  · -- its own: so far it had no task and was not refused
    subst heq
    have hnew : (outcomes tr)[(outcomes tr).length]? = none := List.getElem?_eq_none le_rfl
    have hnone : s.server.connections ((outcomes tr).length + 1) = none := by
      have hspawned := spawns.spawned (outcomes tr).length
      rw [show (Acceptor.outcomes (TfServer.acceptors (served tr)))[(outcomes tr).length]? = none
        from hnew] at hspawned
      cases hconnection : s.server.connections ((outcomes tr).length + 1) with
      | none => rfl
      | some connection =>
          rw [hconnection] at hspawned
          exact hspawned.elim
    have hrefused : s.refused ((outcomes tr).length + 1) = false := by
      cases hrefused : s.refused ((outcomes tr).length + 1) with
      | false => rfl
      | true => cases hnew.symm.trans (h.refused hrefused)
    refine ⟨fun hrefused' => ?_, fun _ hnone' => ?_, fun habort connection hconnection => ?_⟩
    · cases hrefused.symm.trans hrefused'
    · rw [haccepted] at hnone'
      cases (Function.update_self _ _ _).symm.trans hnone'
    · rw [haccepted] at hconnection
      cases (Function.update_self _ _ _).symm.trans hconnection
      rw [own_acceptor] at habort ⊢
      refine ⟨start, ?_, rfl, h.waiting habort hnone hrefused start.addr start.processor⟩
      rw [houtcomes]
      exact List.getElem?_concat_length
  · have hne : index + 1 ≠ s.server.accepted := by omega
    refine ⟨fun hrefused => ?_, fun habort hnone => ?_, fun habort connection hconnection => ?_⟩
    · exact getElem?_outcomes_acceptor _ _ (h.refused hrefused)
    · rw [own_acceptor] at habort ⊢
      exact h.waiting habort ((Function.update_of_ne hne ..).symm.trans hnone)
    · rw [own_acceptor] at habort ⊢
      obtain ⟨other, hadmitted, haddr, hrun⟩ :=
        h.joined habort connection ((Function.update_of_ne hne ..).symm.trans hconnection)
      exact ⟨other, getElem?_outcomes_acceptor _ _ hadmitted, haddr, hrun⟩

/-- The acceptor goes on without starting a task. -/
theorem Joined.acceptor_moves {pt next : Acceptor.Point S T C Q} {e : AcceptorEvent S T C Q}
    (h : Joined utils router maxRequestInTime processors tr s index)
    (spawns : TfServer.Spawns config codec utils router holder (served tr) s.server pt)
    (hnext : Acceptor.Next config codec pt e next) {acceptor : AcceptorM S T C Q (Q ⊕ Unit)}
    {accepted : ℕ} :
    Joined utils router maxRequestInTime processors (tr ++ [.acceptor s.server.accepted e])
      { s with
        server := ⟨acceptor, accepted, s.server.connections⟩
        refused := refusedBy s.server.accepted s.refused e } index := by
  refine ⟨fun hrefused => ?_, fun habort hnone hrefused => ?_,
    fun habort connection hconnection => ?_⟩
  · by_cases houtcome : Acceptor.outcome? e = some none
    · have hcounted : (outcomes tr).length + TfServer.pending pt = s.server.accepted :=
        spawns.counted
      rw [TfServer.pending_of_outcome hnext (by rw [houtcome]; nofun)] at hcounted
      by_cases heq : index + 1 = s.server.accepted
      · rw [outcomes_acceptor, houtcome, show index = (outcomes tr).length by omega]
        exact List.getElem?_concat_length
      · replace hrefused : refusedBy _ _ _ _ = true := hrefused
        rw [refusedBy_eq_update houtcome, Function.update_of_ne heq] at hrefused
        exact getElem?_outcomes_acceptor _ _ (h.refused hrefused)
    · replace hrefused : refusedBy _ _ _ _ = true := hrefused
      rw [refusedBy_eq houtcome] at hrefused
      exact getElem?_outcomes_acceptor _ _ (h.refused hrefused)
  · rw [own_acceptor] at habort ⊢
    refine h.waiting habort hnone ?_
    replace hrefused : refusedBy _ _ _ _ = false := hrefused
    by_cases houtcome : Acceptor.outcome? e = some none
    · rw [refusedBy_eq_update houtcome] at hrefused
      by_cases heq : index + 1 = s.server.accepted
      · rw [heq, Function.update_self] at hrefused
        cases hrefused
      · rwa [Function.update_of_ne heq] at hrefused
    · rwa [refusedBy_eq houtcome] at hrefused
  · rw [own_acceptor] at habort ⊢
    obtain ⟨start, hadmitted, haddr, hrun⟩ := h.joined habort connection hconnection
    exact ⟨start, getElem?_outcomes_acceptor _ _ hadmitted, haddr, hrun⟩

theorem Joined.acceptor {pt : Acceptor.Point S T C Q} {e : AcceptorEvent S T C Q}
    {server : ServerState A S T C Q}
    (h : Joined utils router maxRequestInTime processors tr s index)
    (spawns : TfServer.Spawns config codec utils router holder (served tr) s.server pt)
    (step : TfServer.Step config codec utils router s.server (.acceptor number e) server) :
    Joined utils router maxRequestInTime processors (tr ++ [.acceptor number e])
      { s with server := server, refused := refusedBy number s.refused e } index := by
  cases step with
  | acceptor step =>
      rw [spawns.point] at step
      obtain ⟨next, hnext, -⟩ := Acceptor.next_of_step step
      by_cases hstarting : ∃ start, pt = .starting start
      · obtain ⟨start, rfl⟩ := hstarting
        cases hnext
        exact h.spawn spawns
      · have hidle : ∀ start, pt ≠ .starting start := fun start heq => hstarting ⟨start, heq⟩
        obtain ⟨hspawned, -⟩ :=
          TfServer.spawnedBy_eq hnext hidle s.server.accepted s.server.connections
        rw [hspawned]
        exact h.acceptor_moves spawns hnext

/-- An event of another client changes nothing here. -/
theorem Joined.other (h : Joined utils router maxRequestInTime processors tr s index)
    (hown : own? (index + 1) ev = none) (houtcomes : outcomes (tr ++ [ev]) = outcomes tr)
    (hrefused : s'.refused = s.refused)
    (hconnections : s'.server.connections (index + 1) = s.server.connections (index + 1))
    (hclients : s'.clients (index + 1) = s.clients (index + 1)) :
    Joined utils router maxRequestInTime processors (tr ++ [ev]) s' index := by
  have hsame : own (index + 1) (tr ++ [ev]) = own (index + 1) tr := by
    rw [own_snoc, hown]
    exact List.append_nil _
  have hlink (task : ServerM A Q (ConnectionState Q ⊕ Unit)) :
      s'.link (index + 1) task = s.link (index + 1) task := by
    rw [link, link, hclients]
  refine ⟨fun h' => ?_, fun habort hnone hfalse addr holder => ?_,
    fun habort connection hconnection => ?_⟩
  · rw [houtcomes]
    exact h.refused (hrefused ▸ h')
  · rw [hsame] at habort ⊢
    rw [hlink]
    exact h.waiting habort (hconnections ▸ hnone) (hrefused ▸ hfalse) addr holder
  · rw [hsame] at habort ⊢
    rw [hlink, houtcomes]
    exact h.joined habort connection (hconnections ▸ hconnection)

/-- What a client or its callers do, they do as well when the client is alone. -/
theorem Joined.left (h : Joined utils router maxRequestInTime processors tr s index)
    {own' : CallEvent A P} (hown : own? (index + 1) ev = some (.inl own'))
    (houtcomes : outcomes (tr ++ [ev]) = outcomes tr) (hrefused : s'.refused = s.refused)
    (hconnections : s'.server.connections = s.server.connections)
    (hwaiting : s.server.connections (index + 1) = none → s.refused (index + 1) = false →
      ∀ addr task, Link.CallLink.Step utils router addr (maxRequestInTime (index + 1))
        (s.link (index + 1) task) (.inl own') (s'.link (index + 1) task))
    (hjoined : ∀ connection, s.server.connections (index + 1) = some connection →
      Link.CallLink.Step utils router connection.addr (maxRequestInTime (index + 1))
        (s.link (index + 1) connection.task) (.inl own') (s'.link (index + 1) connection.task)) :
    Joined utils router maxRequestInTime processors (tr ++ [ev]) s' index := by
  have hlonger : own (index + 1) (tr ++ [ev]) = own (index + 1) tr ++ [.inl own'] := by
    rw [own_snoc, hown]
    rfl
  have hkept (habort : .abort ∉ lefts (own (index + 1) (tr ++ [ev]))) :
      .abort ∉ lefts (own (index + 1) tr) := by
    rw [hlonger, lefts_append, List.mem_append, not_or] at habort
    exact habort.1
  refine ⟨fun h' => ?_, fun habort hnone hfalse addr holder => ?_,
    fun habort connection hconnection => ?_⟩
  · rw [houtcomes]
    exact h.refused (hrefused ▸ h')
  · rw [hrefused] at hfalse
    rw [hconnections] at hnone
    rw [hlonger]
    exact (h.waiting (hkept habort) hnone hfalse addr holder).snoc (hwaiting hnone hfalse addr _)
  · rw [hconnections] at hconnection
    obtain ⟨start, hadmitted, haddr, hrun⟩ := h.joined (hkept habort) connection hconnection
    rw [hlonger, houtcomes]
    exact ⟨start, hadmitted, haddr, hrun.snoc (haddr ▸ hjoined connection hconnection)⟩

theorem Joined.caller {event : CallEvent A P} {calls : CallState A P}
    (h : Joined utils router maxRequestInTime processors tr s index)
    (own : ∀ e, event ≠ .task e)
    (step : CallState.Step utils (maxRequestInTime number) (s.clients number).calls event calls) :
    Joined utils router maxRequestInTime processors (tr ++ [.caller number event])
      { s with
        clients := Function.update s.clients number { s.clients number with calls := calls } }
      index := by
  have houtcomes : outcomes (tr ++ [.caller number event]) = outcomes tr := by simp [outcomes]
  rcases eq_or_ne number (index + 1) with rfl | hne
  · cases step with
    | task => exact absurd rfl (own _)
    | @caller dispatcher _ own step =>
        have hmove (addr : SocketAddr) (task : ServerM A Q (ConnectionState Q ⊕ Unit)) :
            Link.CallLink.Step utils router addr (maxRequestInTime (index + 1))
              (s.link (index + 1) task) (.inl event)
              { s.link (index + 1) task with dispatcher := dispatcher } := .caller own step
        refine h.left (if_pos rfl) houtcomes rfl rfl (fun _ _ addr task => ?_)
          fun connection _ => ?_
        · simpa [link] using hmove addr task
        · simpa [link] using hmove connection.addr connection.task
  · exact h.other (by simp [hne]) houtcomes rfl rfl (Function.update_of_ne hne.symm ..)

theorem Joined.client {e : ClientEvent A P} {calls : CallState A P} {rest : List Bytes}
    (h : Joined utils router maxRequestInTime processors tr s index)
    (step : CallState.Step utils (maxRequestInTime number) (s.clients number).calls (.task e) calls)
    (take : (s.clients number).toClient = (Client.frame? e).toList ++ rest)
    (eof : Client.poll? e = some none → (s.clients number).toClient = [] ∧ s.Gone number) :
    Joined utils router maxRequestInTime processors (tr ++ [.client number e])
      { s with
        clients := Function.update s.clients number
          ⟨calls, (s.clients number).toServer ++ (Client.wire? e).toList, rest⟩ } index := by
  have houtcomes : outcomes (tr ++ [.client number e]) = outcomes tr := by simp [outcomes]
  rcases eq_or_ne number (index + 1) with rfl | hne
  · cases step with
    | caller own => exact absurd rfl (own e)
    | task step resume =>
        -- the end of the stream is seen only if the task at the server has ended
        have hmove (addr : SocketAddr) (task : ServerM A Q (ConnectionState Q ⊕ Unit))
            (hended : Client.poll? e = some none →
              task = .ret (.inr ()) ∨ task = ServerM.unwind) :
            Link.CallLink.Step utils router addr (maxRequestInTime (index + 1))
              (s.link (index + 1) task) (.inl (.task e))
              ⟨calls.dispatcher, calls.task, task,
                (s.clients (index + 1)).toServer ++ (Client.wire? e).toList, rest⟩ :=
          .client step (.left resume take fun hpoll => ⟨(eof hpoll).1, hended hpoll⟩)
        refine h.left (if_pos rfl) houtcomes rfl rfl (fun hnone hfalse addr task => ?_)
          fun connection hconnection => ?_
        · have hmoved := hmove addr task fun hpoll => by
            have hgone := (eof hpoll).2
            rw [Gone, hnone] at hgone
            cases hfalse.symm.trans hgone
          simpa [link] using hmoved
        · have hmoved := hmove connection.addr connection.task fun hpoll => by
            have hgone := (eof hpoll).2
            rwa [Gone, hconnection] at hgone
          simpa [link] using hmoved
  · exact h.other (by simp [hne]) houtcomes rfl rfl (Function.update_of_ne hne.symm ..)

/-- The task at the server goes on. -/
theorem Joined.connection {e : ServerEvent A Q} {server : ServerState A S T C Q}
    {rest : List Bytes} (h : Joined utils router maxRequestInTime processors tr s index)
    (step : TfServer.Step config codec utils router s.server (.connection number e) server)
    (take : (s.clients number).toServer = (Connection.frame? e).toList ++ rest)
    (eof : Connection.poll? e = some none → (s.clients number).toServer = [] ∧
      (s.clients number).calls.dispatcher.rx = false) :
    Joined utils router maxRequestInTime processors (tr ++ [.connection number e])
      { s with
        server := server
        clients := Function.update s.clients number
          ⟨(s.clients number).calls, rest,
            (s.clients number).toClient ++ (Connection.wire? e).toList⟩ } index := by
  have houtcomes : outcomes (tr ++ [.connection number e]) = outcomes tr := by simp [outcomes]
  cases step with
  | @connection _ before _ task running resume =>
      rcases eq_or_ne number (index + 1) with rfl | hne
      · have hlonger : own (index + 1) (tr ++ [.connection (index + 1) e]) =
            own (index + 1) tr ++ [.inr e] := by
          simp
        refine ⟨fun hrefused => ?_, fun _ hnone => ?_, fun habort connection hconnection => ?_⟩
        · rw [houtcomes]
          exact h.refused hrefused
        · cases (Function.update_self _ _ _).symm.trans hnone
        · cases (Function.update_self _ _ _).symm.trans hconnection
          rw [hlonger, lefts_append, lefts_inr, List.append_nil] at habort
          obtain ⟨start, hadmitted, haddr, hrun⟩ := h.joined habort before running
          rw [hlonger, houtcomes]
          refine ⟨start, hadmitted, haddr, hrun.snoc ?_⟩
          have hmoved : Link.CallLink.Step utils router start.addr (maxRequestInTime (index + 1))
              (s.link (index + 1) before.task) (.inr e)
              ⟨(s.clients (index + 1)).calls.dispatcher, (s.clients (index + 1)).calls.task, task,
                rest, (s.clients (index + 1)).toClient ++ (Connection.wire? e).toList⟩ := by
            refine .server (.right (haddr ▸ resume) take fun hpoll => ⟨(eof hpoll).1, ?_⟩)
            -- a client that has not been dropped ends only by itself
            have hended := (run_ended (Link.run_client hrun)).ended (eof hpoll).2
            exact (hended.resolve_left habort).1
          simpa [link] using hmoved
      · refine h.other (by simp [hne]) houtcomes rfl ?_ (Function.update_of_ne hne.symm ..)
        exact Function.update_of_ne hne.symm ..

theorem run_joined
    (run : Run (Step config codec utils router maxRequestInTime)
      (start config codec utils processors holder) tr s) (index : ℕ) :
    Joined utils router maxRequestInTime processors tr s index := by
  refine run.invariant (I := fun tr s => Joined utils router maxRequestInTime processors tr s index)
    start_joined ?_
  intro tr s ev s' hrun h step
  cases step with
  | acceptor step =>
      obtain ⟨pt, spawns⟩ := TfServer.exists_spawns (run_server hrun)
      exact h.acceptor spawns step
  | caller own step => exact h.caller own step
  | client step take eof => exact h.client step take eof
  | connection step take eof => exact h.connection step take eof

end Network

end FourthServer
