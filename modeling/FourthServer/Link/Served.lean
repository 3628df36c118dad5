import FourthServer.Link.Undisturbed

/-!
# Clients of one server

What the callers of a client get is what the sequential program gives for their
requests, whatever the other clients, their callers and the acceptor do
(`Network.run_served`); and whatever these have done so far, the tasks at the two ends
of its connection can resolve its requests without them (`Network.run_unblocked`).
-/

namespace FourthServer

namespace Network

open Trace Duplex CallState

variable {A : App} {S T C P Q : Type} {config : AcceptorConfig S T} {codec : C} {utils : Utils A}
  {router : TfServerRouter A} {maxRequestInTime : ℕ → ℕ} {index : ℕ}

section Served

variable {SndC RcvC SndS RcvS : Type} {Tc : Hooks.Pair SndC RcvC Bytes}
  {Ts : Hooks.Pair SndS RcvS Bytes} {processors : ℕ → SndC × RcvC} {holder : SndS × RcvS}
  {tr : List (NetworkEvent A S T C (SndC × RcvC) (SndS × RcvS))}
  {s : Network A S T C (SndC × RcvC) (SndS × RcvS)} {start : Start T C (SndS × RcvS)}
  {handlers : List (Bytes × Bytes) → ServeCall A → Except Bytes Bytes}

/-- The answers that the sequential program has for the callers of a client. -/
def due (setting : Link.Setting A) (tr : List (NetworkEvent A S T C P Q))
    (s : Network A S T C P Q) : List (ℕ × Bytes) :=
  (Link.Session.run { setting with
    requests := accepted (lefts (own setting.channel tr))
    closes := !(s.clients setting.channel).calls.dispatcher.tx }).delivered

/-- The consumer of a request has its answer, or it was dropped, and then there is no
answer or nobody has waited for it. -/
def Resolved (dispatcher : Dispatcher A) (due : List (ℕ × Bytes)) (consumer : ℕ) : Prop :=
  (∃ data, dispatcher.consumers consumer = .answered data ∧ (consumer, data) ∈ due) ∨
    dispatcher.consumers consumer = .dropped ∧
      ∀ data, (consumer, data) ∈ due → dispatcher.closed consumer = true

/-- Where neither can go on, the accepted requests are resolved. -/
theorem resolved_of_atRest (hlawful : utils.Lawful)
    (hreads : ∀ request ∈ accepted (lefts (own (index + 1) tr)), ReadsType router request)
    (run : Run (Step config codec utils router maxRequestInTime)
      (Network.start config codec utils processors holder) tr s)
    (hadmitted : (outcomes tr)[index]? = some (some start))
    (htransparent : Link.Transparent Tc Ts (processors (index + 1)) start.processor)
    (hundisturbed : Undisturbed (settingOf utils router index start handlers) Tc Ts
      (own (index + 1) tr))
    (hrest : AtRest config codec maxRequestInTime (settingOf utils router index start handlers) Tc
      Ts tr s) {request : ClientRequest A}
    (hrequest : request ∈ accepted (lefts (own (index + 1) tr))) :
    Resolved (s.clients (index + 1)).calls.dispatcher
      (due (settingOf utils router index start handlers) tr s) request.consumer := by
  obtain ⟨connection, -, -, hattended⟩ := exists_attended run hadmitted hundisturbed
  have hrests := rests_of_atRest run hadmitted hundisturbed hrest
  rcases hattended.resolved hlawful hreads htransparent hrests hrequest with
    ⟨data, hanswered⟩ | hdropped
  · exact .inl ⟨data, hanswered,
      hattended.answered hlawful hreads htransparent hanswered⟩
  · exact .inr hdropped

theorem Resolved.not_held {dispatcher : Dispatcher A} {due : List (ℕ × Bytes)} {consumer : ℕ}
    (h : Resolved dispatcher due consumer) : dispatcher.consumers consumer ≠ .held := by
  rcases h with ⟨data, hanswered, -⟩ | ⟨hdropped, -⟩
  · rw [hanswered]
    nofun
  · rw [hdropped]
    nofun

/-- An accepted request whose consumer does not hang is resolved. -/
theorem resolved_of_not_held (hlawful : utils.Lawful)
    (hreads : ∀ request ∈ accepted (lefts (own (index + 1) tr)), ReadsType router request)
    (run : Run (Step config codec utils router maxRequestInTime)
      (Network.start config codec utils processors holder) tr s)
    (hadmitted : (outcomes tr)[index]? = some (some start))
    (htransparent : Link.Transparent Tc Ts (processors (index + 1)) start.processor)
    (hundisturbed : Undisturbed (settingOf utils router index start handlers) Tc Ts
      (own (index + 1) tr)) {request : ClientRequest A}
    (hrequest : request ∈ accepted (lefts (own (index + 1) tr)))
    (hheld : (s.clients (index + 1)).calls.dispatcher.consumers request.consumer ≠ .held) :
    Resolved (s.clients (index + 1)).calls.dispatcher
      (due (settingOf utils router index start handlers) tr s) request.consumer := by
  -- let the two tasks go on until they rest; its consumer stays as it is
  obtain ⟨rest, s', hrun, hall, hadmitted', hundisturbed', hrest⟩ :=
    exists_atRest run hadmitted htransparent hundisturbed
  obtain ⟨connection, -, -, h⟩ := exists_attended run hadmitted hundisturbed
  obtain ⟨connection', -, -, h'⟩ := exists_attended hrun hadmitted' hundisturbed'
  have haccepted : accepted (lefts (own (index + 1) (tr ++ rest))) =
      accepted (lefts (own (index + 1) tr)) := accepted_of_ownTask hall
  have hresolved := resolved_of_atRest hlawful (haccepted ▸ hreads) hrun hadmitted' htransparent
    hundisturbed' hrest (haccepted ▸ hrequest)
  rw [own_append] at h'
  obtain ⟨pt, -, -, hcustody⟩ := run_placed (Link.run_client h.run)
  have hkept : (s'.clients (index + 1)).calls.dispatcher.consumers request.consumer =
      (s.clients (index + 1)).calls.dispatcher.consumers request.consumer :=
    h.keeps h' (hcustody.used request hrequest) hheld
  obtain ⟨htx, hclosed⟩ : (s'.clients (index + 1)).calls.dispatcher.tx =
      (s.clients (index + 1)).calls.dispatcher.tx ∧
      (s'.clients (index + 1)).calls.dispatcher.closed =
        (s.clients (index + 1)).calls.dispatcher.closed :=
    h.handles h' (ofTask_of_ownTask hall)
  have hdue : due (settingOf utils router index start handlers) (tr ++ rest) s' =
      due (settingOf utils router index start handlers) tr s := by
    have hchannel : (settingOf utils router index start handlers).channel = index + 1 := rfl
    rw [due, due, hchannel, haccepted, htx]
  rwa [Resolved, hkept, hclosed, hdue] at hresolved

/-- **Every client as if it were alone.**  Take any run of a server and its clients,
and an admitted client with whose connection nothing goes wrong.  Whatever the
acceptor, the other clients and their callers do, a request that the client has
accepted and that does not hang any more is resolved as the sequential program says,
and where neither the client nor its task at the server can go on, none hangs. -/
theorem run_served (hlawful : utils.Lawful)
    (hreads : ∀ request ∈ accepted (lefts (own (index + 1) tr)), ReadsType router request)
    (run : Run (Step config codec utils router maxRequestInTime)
      (Network.start config codec utils processors holder) tr s)
    (hadmitted : (outcomes tr)[index]? = some (some start))
    (htransparent : Link.Transparent Tc Ts (processors (index + 1)) start.processor)
    (hundisturbed : Undisturbed (settingOf utils router index start handlers) Tc Ts
      (own (index + 1) tr)) :
    (∀ request ∈ accepted (lefts (own (index + 1) tr)),
        (s.clients (index + 1)).calls.dispatcher.consumers request.consumer ≠ .held →
          Resolved (s.clients (index + 1)).calls.dispatcher
            (due (settingOf utils router index start handlers) tr s) request.consumer) ∧
      (AtRest config codec maxRequestInTime (settingOf utils router index start handlers) Tc Ts
          tr s →
        ∀ request ∈ accepted (lefts (own (index + 1) tr)),
          (s.clients (index + 1)).calls.dispatcher.consumers request.consumer ≠ .held) := by
  refine ⟨fun request hrequest hheld => ?_, fun hrest request hrequest => ?_⟩
  · exact resolved_of_not_held hlawful hreads run hadmitted htransparent hundisturbed hrequest
      hheld
  · exact (resolved_of_atRest hlawful hreads run hadmitted htransparent hundisturbed hrest
      hrequest).not_held

/-- **Nobody is in the way.**  From every state that a server and its clients can
reach, the two tasks of an undisturbed client can resolve all its requests by
themselves, in a number of steps that depends on these requests alone. -/
theorem run_unblocked (hlawful : utils.Lawful)
    (hreads : ∀ request ∈ accepted (lefts (own (index + 1) tr)), ReadsType router request)
    (run : Run (Step config codec utils router maxRequestInTime)
      (Network.start config codec utils processors holder) tr s)
    (hadmitted : (outcomes tr)[index]? = some (some start))
    (htransparent : Link.Transparent Tc Ts (processors (index + 1)) start.processor)
    (hundisturbed : Undisturbed (settingOf utils router index start handlers) Tc Ts
      (own (index + 1) tr)) :
    ∃ rest s', Run (Step config codec utils router maxRequestInTime)
        (Network.start config codec utils processors holder) (tr ++ rest) s' ∧
      (∀ ev ∈ rest, OwnTask (index + 1) ev) ∧
      rest.length ≤ 140 * ((accepted (lefts (own (index + 1) tr))).length + 1) ∧
      ∀ request ∈ accepted (lefts (own (index + 1) tr)),
        Resolved (s'.clients (index + 1)).calls.dispatcher
          (due (settingOf utils router index start handlers) (tr ++ rest) s') request.consumer := by
  obtain ⟨rest, s', hrun, hall, hadmitted', hundisturbed', hrest⟩ :=
    exists_atRest run hadmitted htransparent hundisturbed
  have haccepted : accepted (lefts (own (index + 1) (tr ++ rest))) =
      accepted (lefts (own (index + 1) tr)) := accepted_of_ownTask hall
  refine ⟨rest, s', hrun, hall, ?_, fun request hrequest => ?_⟩
  · have hle := length_linked_le hrun hadmitted' htransparent hundisturbed'
    rw [length_linked_of_ownTask hall, haccepted] at hle
    omega
  · exact resolved_of_atRest hlawful (haccepted ▸ hreads) hrun hadmitted' htransparent
      hundisturbed' hrest (haccepted ▸ hrequest)

end Served

/-! ## Two clients of one server -/

section Parts

variable {s : Network A S T C P Q} {number : ℕ}

/-- An event of the server, among those of the clients. -/
def ofServer : ServerStateEvent A S T C Q → NetworkEvent A S T C P Q
  | .acceptor number e => .acceptor number e
  | .connection number e => .connection number e

/-- An event of a client or of one of its callers. -/
def ofCall (number : ℕ) : CallEvent A P → NetworkEvent A S T C P Q
  | .task e => .client number e
  | ev => .caller number ev

/-- While it refuses nobody, the acceptor can run alone. -/
theorem run_ofServer {events : List (ServerStateEvent A S T C Q)} {server : ServerState A S T C Q}
    (run : Run (TfServer.Step config codec utils router) s.server events server)
    (hacceptor : ∀ ev ∈ events, ∃ number e, ev = .acceptor number e ∧
      Acceptor.outcome? e ≠ some none) :
    Run (Step config codec utils router maxRequestInTime) s (events.map ofServer)
      { s with server := server } := by
  induction run with
  | nil => exact Run.nil
  | @snoc events t ev u _ step ih =>
      obtain ⟨number, e, rfl, hserved⟩ := hacceptor ev (by simp)
      rw [List.map_append, List.map_singleton, ofServer]
      refine (ih fun other hmem => hacceptor other (by simp [hmem])).snoc ?_
      have hstep : Step config codec utils router maxRequestInTime { s with server := t }
          (.acceptor number e) ⟨u, s.clients, refusedBy number s.refused e⟩ := .acceptor step
      rwa [refusedBy_eq hserved] at hstep

theorem ofCall_of_caller {ev : CallEvent A P} (own : ∀ e, ev ≠ .task e) :
    (ofCall number ev : NetworkEvent A S T C P Q) = .caller number ev := by
  cases ev with
  | task e => exact absurd rfl (own e)
  | _ => rfl

theorem step_caller {server : ServerState A S T C Q} {clients : ℕ → ClientEnd A P}
    {refused : ℕ → Bool} {before after : CallState A P} {toServer toClient : List Bytes}
    {ev : CallEvent A P} (own : ∀ e, ev ≠ .task e)
    (step : CallState.Step utils (maxRequestInTime number) before ev after) :
    Step config codec utils router maxRequestInTime
      ⟨server, Function.update clients number ⟨before, toServer, toClient⟩, refused⟩
      (.caller number ev)
      ⟨server, Function.update clients number ⟨after, toServer, toClient⟩, refused⟩ := by
  have hstep : CallState.Step utils (maxRequestInTime number)
      (Function.update clients number ⟨before, toServer, toClient⟩ number).calls ev after := by
    rwa [Function.update_self]
  have hmoved : Step config codec utils router maxRequestInTime _ _ _ := Step.caller
    (s := ⟨server, Function.update clients number ⟨before, toServer, toClient⟩, refused⟩) own hstep
  simpa using hmoved

theorem step_client {server : ServerState A S T C Q} {clients : ℕ → ClientEnd A P}
    {refused : ℕ → Bool} {before after : CallState A P} {toServer rest : List Bytes}
    {e : ClientEvent A P}
    (step : CallState.Step utils (maxRequestInTime number) before (.task e) after)
    (heof : Client.poll? e ≠ some none) :
    Step config codec utils router maxRequestInTime
      ⟨server, Function.update clients number
        ⟨before, toServer, (Client.frame? e).toList ++ rest⟩, refused⟩
      (.client number e)
      ⟨server, Function.update clients number
        ⟨after, toServer ++ (Client.wire? e).toList, rest⟩, refused⟩ := by
  have hstep : CallState.Step utils (maxRequestInTime number) (Function.update clients number
      ⟨before, toServer, (Client.frame? e).toList ++ rest⟩ number).calls (.task e) after := by
    rwa [Function.update_self]
  have htake : (Function.update clients number
      ⟨before, toServer, (Client.frame? e).toList ++ rest⟩ number).toClient =
      (Client.frame? e).toList ++ rest := by
    rw [Function.update_self]
  have hmoved : Step config codec utils router maxRequestInTime _ _ _ := Step.client
    (s := ⟨server, Function.update clients number
      ⟨before, toServer, (Client.frame? e).toList ++ rest⟩, refused⟩) hstep htake
    fun hpoll => absurd hpoll heof
  simpa using hmoved

theorem step_connection {acceptor : AcceptorM S T C Q (Q ⊕ Unit)} {accepted : ℕ}
    {connections : ℕ → Option (ConnectionTask A Q)} {clients : ℕ → ClientEnd A P}
    {refused : ℕ → Bool} {addr : SocketAddr} {before after : ServerM A Q (ConnectionState Q ⊕ Unit)}
    {calls : CallState A P} {rest toClient : List Bytes} {e : ServerEvent A Q}
    (step : Connection.Step utils router addr before e after)
    (heof : Connection.poll? e ≠ some none) :
    Step config codec utils router maxRequestInTime
      ⟨⟨acceptor, accepted, Function.update connections number (some ⟨addr, before⟩)⟩,
        Function.update clients number ⟨calls, (Connection.frame? e).toList ++ rest, toClient⟩,
        refused⟩
      (.connection number e)
      ⟨⟨acceptor, accepted, Function.update connections number (some ⟨addr, after⟩)⟩,
        Function.update clients number ⟨calls, rest, toClient ++ (Connection.wire? e).toList⟩,
        refused⟩ := by
  have hstep : TfServer.Step config codec utils router
      ⟨acceptor, accepted, Function.update connections number (some ⟨addr, before⟩)⟩
      (.connection number e)
      ⟨acceptor, accepted, Function.update connections number (some ⟨addr, after⟩)⟩ := by
    have hmoved : TfServer.Step config codec utils router _ _ _ := TfServer.Step.connection
      (s := ⟨acceptor, accepted, Function.update connections number (some ⟨addr, before⟩)⟩)
      (Function.update_self ..) step
    simpa using hmoved
  have htake : (Function.update clients number
      ⟨calls, (Connection.frame? e).toList ++ rest, toClient⟩ number).toServer =
      (Connection.frame? e).toList ++ rest := by
    rw [Function.update_self]
  have hmoved : Step config codec utils router maxRequestInTime _ _ _ := Step.connection
    (s := ⟨⟨acceptor, accepted, Function.update connections number (some ⟨addr, before⟩)⟩,
      Function.update clients number ⟨calls, (Connection.frame? e).toList ++ rest, toClient⟩,
      refused⟩) hstep htake fun hpoll => absurd hpoll heof
  simpa using hmoved

/-- While its input lasts, a client can run alone. -/
theorem run_ofCall {events : List (CallEvent A P)} {before after : CallState A P}
    {reads writes toServer rest : List Bytes}
    (run : Run (CallState.Step utils (maxRequestInTime number)) before events after)
    (hreads : (tasks events).filterMap Client.frame? = reads)
    (hwrites : (tasks events).filterMap Client.wire? = writes)
    (heof : ∀ e ∈ tasks events, Client.poll? e ≠ some none)
    (hclient : s.clients number = ⟨before, toServer, reads ++ rest⟩) :
    Run (Step config codec utils router maxRequestInTime) s (events.map (ofCall number))
      { s with
        clients := Function.update s.clients number ⟨after, toServer ++ writes, rest⟩ } := by
  subst hreads hwrites
  induction run generalizing rest with
  | nil =>
      rw [tasks_nil, List.filterMap_nil, List.nil_append] at hclient
      rw [tasks_nil, List.filterMap_nil, List.append_nil, ← hclient, Function.update_eq_self]
      exact Run.nil
  | @snoc events before ev after _ step ih =>
      rw [List.map_append, List.map_singleton]
      cases step with
      | caller own step =>
          rw [tasks_of_caller own] at hclient heof ⊢
          rw [ofCall_of_caller own]
          exact (ih heof hclient).snoc (step_caller own (.caller own step))
      | @task _ e step resume =>
          rw [tasks_snoc, task?, Option.toList_some] at hclient heof ⊢
          rw [filterMap_snoc, List.append_assoc] at hclient
          rw [filterMap_snoc, ← List.append_assoc]
          refine (ih (fun e hmem => heof e (by simp [hmem])) hclient).snoc ?_
          exact step_client (.task step resume) (heof e (by simp))

/-- While its input lasts, a task at the server can run alone. -/
theorem run_connection {events : List (ServerEvent A Q)} {addr : SocketAddr}
    {before after : ServerM A Q (ConnectionState Q ⊕ Unit)} {calls : CallState A P}
    {reads writes rest toClient : List Bytes}
    (run : Run (Connection.Step utils router addr) before events after)
    (hreads : events.filterMap Connection.frame? = reads)
    (hwrites : events.filterMap Connection.wire? = writes)
    (heof : ∀ e ∈ events, Connection.poll? e ≠ some none)
    (hconnection : s.server.connections number = some ⟨addr, before⟩)
    (hclient : s.clients number = ⟨calls, reads ++ rest, toClient⟩) :
    Run (Step config codec utils router maxRequestInTime) s (events.map (.connection number))
      { s with
        server := ⟨s.server.acceptor, s.server.accepted, Function.update s.server.connections number
          (some ⟨addr, after⟩)⟩
        clients := Function.update s.clients number ⟨calls, rest, toClient ++ writes⟩ } := by
  subst hreads hwrites
  induction run generalizing rest with
  | nil =>
      rw [List.filterMap_nil, List.nil_append] at hclient
      rw [List.filterMap_nil, List.append_nil, ← hclient, ← hconnection, Function.update_eq_self,
        Function.update_eq_self]
      exact Run.nil
  | @snoc events before e after _ step ih =>
      rw [filterMap_snoc, List.append_assoc] at hclient
      rw [filterMap_snoc, ← List.append_assoc, List.map_append, List.map_singleton]
      refine (ih (fun e hmem => heof e (by simp [hmem])) hclient).snoc ?_
      exact step_connection step (heof e (by simp))

/-- The connection task with its channels. -/
theorem run_tasks {events : List (ClientEvent A P)} {pt next : Client.Point A P}
    {dispatcher after : Dispatcher A} {most : ℕ} (hclient : Run (Client.Next utils) pt events next)
    (hcalls : Run (Dispatcher.Step most) dispatcher (events.map .task) after) :
    Run (CallState.Step utils most) ⟨dispatcher, pt.task utils⟩ (events.map .task)
      ⟨after, next.task utils⟩ := by
  induction hclient generalizing after with
  | nil =>
      rw [hcalls.of_nil]
      exact Run.nil
  | snoc _ step ih =>
      rw [List.map_append, List.map_singleton] at hcalls ⊢
      obtain ⟨before, hbefore, hstep⟩ := hcalls.of_snoc
      exact (ih hbefore).snoc (.task hstep (Client.step_of_next step))

end Parts

section Crowded

open Reference Link

/-- The steps of clients that have the echo handler called over plain connections. -/
abbrev EchoStep : Network app Unit Unit Unit (Unit × Unit) (Unit × Unit) →
    NetworkEvent app Unit Unit Unit (Unit × Unit) (Unit × Unit) →
    Network app Unit Unit Unit (Unit × Unit) (Unit × Unit) → Prop :=
  Step ⟨id, false, .tcp⟩ () Reference.utils Reference.router fun _ => 1

abbrev echoStart : Network app Unit Unit Unit (Unit × Unit) (Unit × Unit) :=
  start ⟨id, false, .tcp⟩ () Reference.utils (fun _ => ((), ())) ((), ())

/-- A caller sends a request, and the client its frames. -/
def requesting (data : Bytes) : List (CallEvent app (Unit × Unit)) :=
  .send (echoRequest data 0) (.ok ()) :: (sending data 0).map .task

/-- The reply is read for the caller. -/
def receiving (data : Bytes) : List (CallEvent app (Unit × Unit)) := (reading data 0).map .task

/-- The first connection has the echo handler called. -/
def answering (data : Bytes) : List (ServerEvent app (Unit × Unit)) :=
  hearing (echoMeta data) ++ hearing data ++
    [⟨.servePacket (echoMeta data) data, ()⟩,
      ⟨.serve ⟨echo.serve, echo.state, ⟨0, 0⟩, some ⟨1⟩, true, data⟩,
        .finished (.ok data) (some ⟨1⟩) none⟩,
      ⟨.postProcess ((), ()) data, (((), ()), data)⟩, ⟨.send data, .ok ()⟩, ⟨.tryRecv 1, none⟩]

/-- The second client writes before the server has got to its connection, and is
admitted while the first one waits for its reply. -/
def bothWaiting (data other : Bytes) :
    List (NetworkEvent app Unit Unit Unit (Unit × Unit) (Unit × Unit)) :=
  (TfServer.admitting 0).map ofServer ++ (requesting other).map (ofCall 2) ++
    (requesting data).map (ofCall 1) ++ (TfServer.admitting 1).map ofServer

/-- The first client gets its reply. -/
def firstAnswered (data other : Bytes) :
    List (NetworkEvent app Unit Unit Unit (Unit × Unit) (Unit × Unit)) :=
  bothWaiting data other ++ (answering data).map (.connection 1) ++ (receiving data).map (ofCall 1)

/-- The dispatcher whose only request is being processed. -/
def inFlight : Dispatcher app :=
  { (Dispatcher.initial : Dispatcher app) with
    current := some 0
    consumers := Function.update (fun _ => .unused) 0 .held }

theorem requesting_run (data : Bytes) :
    Run (CallState.Step Reference.utils 1) (.initial Reference.utils ((), ())) (requesting data)
      ⟨inFlight, (Client.Point.waiting (Client.initial ((), ())) (echoRequest data 0) 0).task
        Reference.utils⟩ := by
  have hroom : (Dispatcher.initial : Dispatcher app).queue.length < 1 := Nat.zero_lt_one
  refine Run.cons (.caller (by simp) (.sent rfl rfl hroom rfl)) ?_
  exact run_tasks (sending_run data 0) <| Run.cons (.task rfl (.take rfl)) <|
    Run.cons (.task rfl (.postProcess ..)) <| Run.cons (.task rfl (.postProcess ..)) <|
    Run.cons (.task rfl (.send ..)) <| Run.cons (.task rfl (.send ..)) Run.nil

theorem receiving_run (data : Bytes) :
    Run (CallState.Step Reference.utils 1)
      ⟨inFlight, (Client.Point.waiting (Client.initial ((), ())) (echoRequest data 0) 0).task
        Reference.utils⟩ (receiving data)
      ⟨inFlight.answer 0 data, (Client.Point.top (Client.initial ((), ()))).task
        Reference.utils⟩ :=
  run_tasks (reading_run data data 0) <| Run.cons (.task rfl (.next _)) <|
    Run.cons (.task rfl (.preProcess ..)) <| Run.cons (.task rfl (.deliver 0 data)) Run.nil

theorem answering_run {data : Bytes} (hdata : data ≠ []) :
    Run (Connection.Step Reference.utils Reference.router ⟨0, 0⟩)
      (Connection.handleConnection Reference.utils Reference.router ⟨0, 0⟩ ((), ()) 1)
      (answering data)
      (Connection.handleConnection Reference.utils Reference.router ⟨0, 0⟩ ((), ()) 1) := by
  have hmore : Connection.hasPayload Reference.utils (echoMeta data) = true := by
    rw [hasPayload_echoMeta]
    simpa using hdata
  have hpoints : Run (Connection.Next Reference.utils Reference.router ⟨0, 0⟩)
      (.top (Connection.initial ((), ()) 1)) (answering data)
      (.top (Connection.initial ((), ()) 1)) := by
    refine Run.cons (.metaFrame _ _) <| Run.cons (.announced _ _ _ _ hmore) <|
      Run.cons (.payloadFrame _ _ _) <| Run.cons (.payloadRead _ _ _ _ _) <|
      Run.cons (.called _ _ _) ?_
    rw [dispatch_echoMeta]
    exact Run.cons (.served _ _ _) <| Run.cons (.processed _ _ _ _) <| Run.cons (.sent _ _ _) <|
      Run.cons (.again _ rfl) Run.nil
  exact Connection.run_of_points hpoints

/-- A client that has sent its request. -/
def requested (data : Bytes) : CallState app (Unit × Unit) :=
  ⟨inFlight, (Client.Point.waiting (Client.initial ((), ())) (echoRequest data 0) 0).task
    Reference.utils⟩

/-- A client whose request has been answered. -/
def answered (data : Bytes) : CallState app (Unit × Unit) :=
  ⟨inFlight.answer 0 data, (Client.Point.top (Client.initial ((), ()))).task Reference.utils⟩

section Moves

variable {s : Network app Unit Unit Unit (Unit × Unit) (Unit × Unit)} {number : ℕ}

theorem run_admitting (htop : s.server.acceptor =
      (Acceptor.Point.top ((), ())).task ⟨id, false, .tcp⟩ ())
    {accepted : ℕ} (haccepted : s.server.accepted = accepted) :
    Run EchoStep s ((TfServer.admitting accepted).map ofServer)
      { s with
        server := ⟨(Acceptor.Point.top ((), ())).task ⟨id, false, .tcp⟩ (), accepted + 1,
          Function.update s.server.connections (accepted + 1) (some ⟨⟨0, accepted⟩,
            Connection.handleConnection Reference.utils Reference.router ⟨0, accepted⟩ ((), ())
              (accepted + 1)⟩)⟩ } := by
  subst haccepted
  refine run_ofServer (TfServer.admitting_run htop) ?_
  simp [TfServer.admitting]

theorem run_requesting (data : Bytes)
    (hclient : s.clients number = ⟨.initial Reference.utils ((), ()), [], []⟩) :
    Run EchoStep s ((requesting data).map (ofCall number))
      { s with
        clients := Function.update s.clients number
          ⟨requested data, [echoMeta data, data], []⟩ } := by
  have hreads : (tasks (requesting data)).filterMap Client.frame? = [] := rfl
  have hwrites : (tasks (requesting data)).filterMap Client.wire? = [echoMeta data, data] := rfl
  have heof : ∀ e ∈ sending data 0, Client.poll? e ≠ some none := by
    simp [sending, posting]
  exact run_ofCall (requesting_run data) hreads hwrites heof hclient

theorem run_answering {data : Bytes} (hdata : data ≠ [])
    (hconnection : s.server.connections 1 = some ⟨⟨0, 0⟩,
      Connection.handleConnection Reference.utils Reference.router ⟨0, 0⟩ ((), ()) 1⟩)
    (hclient : s.clients 1 = ⟨requested data, [echoMeta data, data], []⟩) :
    Run EchoStep s ((answering data).map (.connection 1))
      { s with clients := Function.update s.clients 1 ⟨requested data, [], [data]⟩ } := by
  have hreads : (answering data).filterMap Connection.frame? = [echoMeta data, data] := rfl
  have hwrites : (answering data).filterMap Connection.wire? = [data] := rfl
  have heof : ∀ e ∈ answering data, Connection.poll? e ≠ some none := by
    simp [answering, hearing]
  have hrun : Run EchoStep s _ _ :=
    run_connection (answering_run hdata) hreads hwrites heof hconnection hclient
  rwa [← hconnection, Function.update_eq_self] at hrun

theorem run_receiving {data : Bytes}
    (hclient : s.clients number = ⟨requested data, [], [data]⟩) :
    Run EchoStep s ((receiving data).map (ofCall number))
      { s with clients := Function.update s.clients number ⟨answered data, [], []⟩ } := by
  have hreads : (tasks (receiving data)).filterMap Client.frame? = [data] := rfl
  have hwrites : (tasks (receiving data)).filterMap Client.wire? = [] := rfl
  have heof : ∀ e ∈ reading data 0, Client.poll? e ≠ some none := by
    simp [reading]
  exact run_ofCall (receiving_run data) hreads hwrites heof hclient

end Moves

theorem bothWaiting_run (data other : Bytes) : ∃ s,
    Run EchoStep echoStart (bothWaiting data other) s :=
  ⟨_, (((run_admitting rfl rfl).append (run_requesting other rfl)).append
    (run_requesting data rfl)).append (run_admitting rfl rfl)⟩

theorem firstAnswered_run {data : Bytes} (hdata : data ≠ []) (other : Bytes) : ∃ s,
    Run EchoStep echoStart (firstAnswered data other) s ∧
      (s.clients 1).calls.dispatcher.consumers 0 = .answered data :=
  ⟨_, (((((run_admitting rfl rfl).append (run_requesting other rfl)).append
    (run_requesting data rfl)).append (run_admitting rfl rfl)).append
    (run_answering hdata rfl rfl)).append (run_receiving rfl), rfl⟩

theorem own_firstAnswered (data other : Bytes) :
    own 1 (firstAnswered data other) = (requesting data).map .inl ++ (answering data).map .inr ++
      (receiving data).map .inl :=
  rfl

theorem linked_firstAnswered (data other : Bytes) :
    Link.linked (own 1 (firstAnswered data other)) = (sending data 0).map .inl ++
      (answering data).map .inr ++ (reading data 0).map .inl :=
  rfl

theorem own_bothWaiting (data other : Bytes) :
    own 1 (bothWaiting data other) = (requesting data).map .inl :=
  rfl

theorem outcomes_bothWaiting (data other : Bytes) :
    (outcomes (bothWaiting data other))[0]? = some (some TfServer.firstStart) :=
  rfl

theorem outcomes_firstAnswered (data other : Bytes) :
    (outcomes (firstAnswered data other))[0]? = some (some TfServer.firstStart) :=
  rfl

theorem answering_calm (data : Bytes) :
    ∀ e ∈ answering data, Connection.Uneventful e ∧ Connection.obeys plain e := by
  rw [answering, List.forall_mem_append, List.forall_mem_append]
  refine ⟨⟨hearing_calm _, hearing_calm _⟩, ?_⟩
  have hprocessed : Connection.obeys plain
      (⟨.postProcess ((), ()) data, (((), ()), data)⟩ : ServerEvent app (Unit × Unit)) := by
    simp [Connection.obeys, Hooks.Pair.Obeyed, Hooks.Pair.answer, Hooks.plain]
  simp only [List.forall_mem_cons]
  exact ⟨⟨trivial, Connection.obeys_of_unhooked _ rfl⟩,
    ⟨⟨_, rfl⟩, Connection.obeys_of_unhooked _ rfl⟩, ⟨trivial, hprocessed⟩,
    ⟨rfl, Connection.obeys_of_unhooked _ rfl⟩, ⟨rfl, Connection.obeys_of_unhooked _ rfl⟩,
    List.forall_mem_nil _⟩

/-- What the first client's conversation is about. -/
def firstSetting : Link.Setting app :=
  settingOf Reference.utils Reference.router 0 TfServer.firstStart fun _ call => .ok call.data

theorem answering_handled (data : Bytes) :
    Along (Link.handledLaw firstSetting) (answering data) := by
  have hlaw : ∀ e ∈ answering data, Link.handledLaw firstSetting [] e := by
    simp only [answering, hearing, List.cons_append, List.nil_append, List.forall_mem_cons]
    exact ⟨trivial, trivial, trivial, trivial, trivial, rfl, trivial, trivial, trivial,
      List.forall_mem_nil _⟩
  exact (along_const.mpr hlaw).mono fun _ _ he => he

theorem firstAnswered_undisturbed (data other : Bytes) :
    Undisturbed firstSetting plain plain (own 1 (firstAnswered data other)) where
  calm := by
    rw [linked_firstAnswered]
    apply calm_of_events
    · simp only [lefts_append, lefts_map_inl, lefts_map_inr, List.append_nil,
        List.forall_mem_append]
      exact ⟨sending_calm _ _, reading_calm _ _⟩
    · simp only [rights_append, rights_map_inl, rights_map_inr, List.append_nil, List.nil_append]
      exact answering_calm data
  handled := by
    rw [own_firstAnswered]
    simp only [rights_append, rights_map_inl, rights_map_inr, List.append_nil, List.nil_append]
    exact answering_handled data
  kept := by
    have hlefts : lefts (own 1 (firstAnswered data other)) = requesting data ++ receiving data := by
      rw [own_firstAnswered]
      simp only [lefts_append, lefts_map_inl, lefts_map_inr, List.append_nil]
    rw [hlefts]
    simp [requesting, receiving]

theorem run_served_firstAnswered : ∃ s,
    Run EchoStep echoStart (firstAnswered [1] [2]) s ∧
      (s.clients 1).calls.dispatcher.consumers 0 = .answered [1] ∧
      (0, [1]) ∈ due firstSetting (firstAnswered [1] [2]) s := by
  have hdata : ([1] : Bytes) ≠ [] := by decide
  obtain ⟨s, run, hanswered⟩ := firstAnswered_run hdata [2]
  have hrequest : echoRequest [1] 0 ∈ accepted (lefts (own 1 (firstAnswered [1] [2]))) :=
    List.mem_singleton_self _
  have hheld : (s.clients 1).calls.dispatcher.consumers 0 ≠ .held := by
    rw [hanswered]
    nofun
  obtain ⟨hresolved, -⟩ := run_served Reference.lawful
    (fun _ _ => Reference.deserialize_router _) run (outcomes_firstAnswered [1] [2])
    ⟨Hooks.inverts_plain, Hooks.inverts_plain⟩ (firstAnswered_undisturbed [1] [2])
  rcases hresolved (echoRequest [1] 0) hrequest hheld with ⟨data, hdata, hmem⟩ | ⟨hdropped, -⟩
  · cases hanswered.symm.trans hdata
    exact ⟨s, run, hanswered, hmem⟩
  · cases hanswered.symm.trans hdropped

theorem bothWaiting_undisturbed (data other : Bytes) :
    Undisturbed firstSetting plain plain (own 1 (bothWaiting data other)) where
  calm := by
    rw [show Link.linked (own 1 (bothWaiting data other)) = (sending data 0).map .inl from rfl]
    apply calm_of_events
    · rw [lefts_map_inl]
      exact sending_calm _ _
    · rw [rights_map_inl]
      exact List.forall_mem_nil _
  handled := by
    rw [own_bothWaiting, rights_map_inl]
    exact along_nil
  kept := by
    rw [own_bothWaiting, lefts_map_inl]
    simp [requesting]

theorem run_unblocked_bothWaiting : ∃ rest s',
    Run EchoStep echoStart (bothWaiting [1] [2] ++ rest) s' ∧ (∀ ev ∈ rest, OwnTask 1 ev) ∧
      Resolved (s'.clients 1).calls.dispatcher
        (due firstSetting (bothWaiting [1] [2] ++ rest) s') 0 := by
  obtain ⟨s, run⟩ := bothWaiting_run [1] [2]
  obtain ⟨rest, s', hrun, hall, -, hresolved⟩ := run_unblocked Reference.lawful
    (fun _ _ => Reference.deserialize_router _) run (outcomes_bothWaiting [1] [2])
    ⟨Hooks.inverts_plain, Hooks.inverts_plain⟩ (bothWaiting_undisturbed [1] [2])
  refine ⟨rest, s', hrun, hall, hresolved (echoRequest [1] 0) ?_⟩
  rw [own_bothWaiting]
  exact List.mem_singleton_self _

end Crowded

end Network

end FourthServer
