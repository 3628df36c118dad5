import FourthServer.Acceptor.Points
import FourthServer.Client.History
import FourthServer.Library.Gates
import FourthServer.Model.Connect
import FourthServer.Model.Listener
import FourthServer.Model.Reference
import FourthServer.Server.Deployment
import FourthServer.Server.Points

/-!
# The gates of a connection

A connection is to pass `initial_setup` of the codec and then the two gates of
the traffic processor, `initial_connect` and `initial_framed_connect`, before
any frame goes through the processor.  On the server it does: the acceptor calls
all three before it spawns the connection task, and spawns none for a connection
that is refused (`run_watched`).  Only the acceptor of the first start has the
processor that was given to the server, so the rule is about its connections.  The
client calls the first gate only.  So its connections keep to the rule just as long
as nothing goes over them (`client_gated_iff`).
-/

namespace FourthServer

open Resumption Trace Gates

/-- The gates of a connection. -/
inductive Gate
  | initialSetup
  | initialConnect
  | initialFramedConnect
  deriving DecidableEq, Repr

/-- What goes over a connection. -/
inductive Traffic
  /-- A frame is passed to `pre_process_traffic` or `post_process_traffic`. -/
  | processed
  /-- An application frame is sent or received. -/
  | exchanged
  /-- A handler runs. -/
  | handled
  deriving DecidableEq, Repr

namespace Link

variable {A : App} {S T C P : Type}

/-- The gates, in the order in which they are to be passed. -/
def gates : List Gate := [.initialSetup, .initialConnect, .initialFramedConnect]

/-! ## Reading a history -/

/-- What an event of the acceptor shows of the connection it sets up. -/
def acceptorMark? : AcceptorEvent S T C P → Option (Mark Gate Traffic)
  | ⟨.initialSetup _ _, (_, _, passed)⟩ => some (.gate .initialSetup passed)
  | ⟨.initialConnect _ _, (_, _, passed)⟩ => some (.gate .initialConnect passed)
  | ⟨.initialFramedConnect _ _, (_, _, passed)⟩ => some (.gate .initialFramedConnect passed)
  | _ => none

/-- What an event of a connection task shows of its connection. -/
def connectionMark? : ServerEvent A P → Option (Mark Gate Traffic)
  | ⟨.preProcess _ _, _⟩ => some (.traffic .processed)
  | ⟨.postProcess _ _, _⟩ => some (.traffic .processed)
  | ⟨.next, some (.ok _)⟩ => some (.traffic .exchanged)
  | ⟨.send _, _⟩ => some (.traffic .exchanged)
  | ⟨.serve _, _⟩ => some (.traffic .handled)
  | _ => none

/-- What an event of the server shows of the connection with the number. -/
@[simp] def serverMark? (number : ℕ) : ServerStateEvent A S T C P → Option (Mark Gate Traffic)
  | .acceptor other e => if other = number then acceptorMark? e else none
  | .connection other e => if other = number then connectionMark? e else none

/-- What a history of the server shows of the connection with the number. -/
def serverMarks (number : ℕ) (tr : List (ServerStateEvent A S T C P)) : List (Mark Gate Traffic) :=
  tr.filterMap (serverMark? number)

/-- What an event of a client shows of its connection. -/
@[simp] def clientMark? : LifeEvent A S T C P → Option (Mark Gate Traffic)
  | .inl ⟨.initialSetup _ _, (_, _, passed)⟩ => some (.gate .initialSetup passed)
  | .inl ⟨.initialConnect _ _, (_, _, passed)⟩ => some (.gate .initialConnect passed)
  | .inl ⟨.initialFramedConnect _ _, (_, _, passed)⟩ => some (.gate .initialFramedConnect passed)
  | .inr ⟨.preProcess _ _, _⟩ => some (.traffic .processed)
  | .inr ⟨.postProcess _ _, _⟩ => some (.traffic .processed)
  | .inr ⟨.next, some (.ok _)⟩ => some (.traffic .exchanged)
  | .inr ⟨.send _ _, _⟩ => some (.traffic .exchanged)
  | _ => none

/-- What a history of a client shows of its connection. -/
def clientMarks (tr : List (LifeEvent A S T C P)) : List (Mark Gate Traffic) :=
  tr.filterMap clientMark?

@[simp] theorem serverMarks_nil (number : ℕ) :
    serverMarks number ([] : List (ServerStateEvent A S T C P)) = [] := rfl

@[simp] theorem serverMarks_snoc (number : ℕ) (tr : List (ServerStateEvent A S T C P))
    (ev : ServerStateEvent A S T C P) :
    serverMarks number (tr ++ [ev]) = serverMarks number tr ++ (serverMark? number ev).toList :=
  filterMap_snoc _ tr ev

@[simp] theorem clientMarks_nil : clientMarks ([] : List (LifeEvent A S T C P)) = [] := rfl

@[simp] theorem clientMarks_snoc (tr : List (LifeEvent A S T C P)) (ev : LifeEvent A S T C P) :
    clientMarks (tr ++ [ev]) = clientMarks tr ++ (clientMark? ev).toList :=
  filterMap_snoc _ tr ev

@[simp] def request? : LifeEvent A S T C P → Option (ClientRequest A)
  | .inl _ => none
  | .inr e => Client.taken? e

/-- The requests a client has taken off its channel. -/
def requests (tr : List (LifeEvent A S T C P)) : List (ClientRequest A) := tr.filterMap request?

theorem serverMarks_acceptor_of_ne {number other : ℕ} (hne : other ≠ number)
    (tr : List (ServerStateEvent A S T C P)) (e : AcceptorEvent S T C P) :
    serverMarks number (tr ++ [.acceptor other e]) = serverMarks number tr := by
  simp [hne]

theorem serverMarks_connection_of_ne {number other : ℕ} (hne : other ≠ number)
    (tr : List (ServerStateEvent A S T C P)) (e : ServerEvent A P) :
    serverMarks number (tr ++ [.connection other e]) = serverMarks number tr := by
  simp [hne]

/-! ## The server's side -/

/-- The gates that the connection that is being set up has passed at a control
point. -/
def passedAt : Acceptor.Point S T C P → Option (List (Gate × Bool))
  | .tls _ _ _ => some []
  | .webSocket _ _ _ => some []
  | .setup _ _ _ => some []
  | .connecting _ _ _ _ => some [(.initialSetup, true)]
  | .framing _ _ _ => some [(.initialSetup, true), (.initialConnect, true)]
  | .starting _ => some (allPassed gates)
  | .top _ => none
  | .warning _ _ => none
  | .rejecting _ _ _ => none
  | .shutting _ _ => none
  | .returned => none

variable (config : AcceptorConfig S T) (codec : C) (utils : Utils A) (router : TfServerRouter A)

/-- What holds of a server whose acceptor is at the control point. -/
structure Watched (tr : List (ServerStateEvent A S T C P)) (s : ServerState A S T C P)
    (pt : Acceptor.Point S T C P) : Prop where
  point : s.acceptor = pt.task config codec
  /-- A connection without a task has no traffic. -/
  quiet : ∀ number, s.connections number = none → Quiet (serverMarks number tr)
  /-- A connection with a task has passed the gates. -/
  passed : ∀ number, s.connections number ≠ none →
    answers (serverMarks number tr) = allPassed gates
  gated : ∀ number, Gated gates (serverMarks number tr)
  fresh : ∀ number, s.accepted < number →
    s.connections number = none ∧ serverMarks number tr = []
  setup : ∀ found, passedAt pt = some found →
    s.connections s.accepted = none ∧ answers (serverMarks s.accepted tr) = found

variable {config codec utils router} {tr : List (ServerStateEvent A S T C P)}
  {s s' : ServerState A S T C P} {pt next : Acceptor.Point S T C P}
  {e : AcceptorEvent S T C P} {ev : ServerStateEvent A S T C P} {processor : P}

theorem start_watched :
    Watched config codec ([] : List (ServerStateEvent A S T C P))
      (TfServer.start config codec processor) (.top processor) where
  point := rfl
  quiet _ _ := quiet_nil
  passed _ h := absurd rfl h
  gated _ := quiet_nil.gated
  fresh _ _ := ⟨rfl, rfl⟩
  setup _ h := by cases h

/-- What leaves no mark changes at most which connection is being set up. -/
theorem Watched.unmarked {accepted : ℕ} (h : Watched config codec tr s pt)
    (hmarks : ∀ number, serverMarks number (tr ++ [ev]) = serverMarks number tr)
    (hle : s.accepted ≤ accepted)
    (hsetup : ∀ found, passedAt next = some found →
      s.connections accepted = none ∧ answers (serverMarks accepted tr) = found) :
    Watched config codec (tr ++ [ev]) ⟨next.task config codec, accepted, s.connections⟩ next := by
  refine ⟨rfl, ?_, ?_, ?_, ?_, ?_⟩
  · intro number hnone
    rw [hmarks]
    exact h.quiet number hnone
  · intro number hsome
    rw [hmarks]
    exact h.passed number hsome
  · intro number
    rw [hmarks]
    exact h.gated number
  · intro number hlt
    rw [hmarks]
    exact h.fresh number (hle.trans_lt hlt)
  · intro found hfound
    rw [hmarks]
    exact hsetup found hfound

/-- The acceptor does something that is no gate. -/
theorem Watched.silent (h : Watched config codec tr s pt) (hmark : acceptorMark? e = none)
    (hsetup : ∀ found, passedAt next = some found → passedAt pt = some found) :
    Watched config codec (tr ++ [.acceptor s.accepted e])
      ⟨next.task config codec, s.accepted, s.connections⟩ next := by
  refine h.unmarked (fun number => ?_) le_rfl
    fun found hfound => h.setup found (hsetup found hfound)
  simp [hmark]

/-- The connection that is being set up comes to a gate. -/
theorem Watched.gate {found : List (Gate × Bool)} {gate : Gate} {passed : Bool}
    (h : Watched config codec tr s pt) (hmark : acceptorMark? e = some (.gate gate passed))
    (hfound : passedAt pt = some found)
    (hsetup : ∀ found', passedAt next = some found' → found' = found ++ [(gate, passed)]) :
    Watched config codec (tr ++ [.acceptor s.accepted e])
      ⟨next.task config codec, s.accepted, s.connections⟩ next := by
  obtain ⟨hnone, hanswers⟩ := h.setup found hfound
  have hmarks : serverMarks s.accepted (tr ++ [.acceptor s.accepted e]) =
      serverMarks s.accepted tr ++ [.gate gate passed] := by
    simp [hmark]
  have hquiet : Quiet (serverMarks s.accepted (tr ++ [.acceptor s.accepted e])) := by
    rw [hmarks]
    exact (h.quiet _ hnone).snoc_gate gate passed
  refine ⟨rfl, ?_, ?_, ?_, ?_, ?_⟩
  · intro number hnumber
    by_cases heq : s.accepted = number
    · rw [← heq]
      exact hquiet
    · rw [serverMarks_acceptor_of_ne heq]
      exact h.quiet number hnumber
  · intro number hnumber
    have heq : s.accepted ≠ number := by
      rintro rfl
      exact hnumber hnone
    rw [serverMarks_acceptor_of_ne heq]
    exact h.passed number hnumber
  · intro number
    by_cases heq : s.accepted = number
    · rw [← heq]
      exact hquiet.gated
    · rw [serverMarks_acceptor_of_ne heq]
      exact h.gated number
  · intro number hlt
    have hlt : s.accepted < number := hlt
    rw [serverMarks_acceptor_of_ne hlt.ne]
    exact h.fresh number hlt
  · intro found' hfound'
    rw [hsetup found' hfound', hmarks, answers_snoc, hanswers]
    exact ⟨hnone, rfl⟩

/-- A connection is accepted. -/
theorem Watched.accept (h : Watched config codec tr s pt) (stream : S) (addr : SocketAddr)
    (hsetup : ∀ found, passedAt next = some found → found = []) :
    Watched config codec (tr ++ [.acceptor s.accepted ⟨.select, .accepted stream addr⟩])
      ⟨next.task config codec, s.accepted + 1, s.connections⟩ next := by
  refine h.unmarked (fun number => ?_) (Nat.le_succ _) fun found hfound => ?_
  · simp [acceptorMark?]
  · -- the number is new, so nothing is known of the connection yet
    obtain ⟨hnone, hempty⟩ := h.fresh (s.accepted + 1) (by omega)
    rw [hempty, hsetup found hfound]
    exact ⟨hnone, rfl⟩

/-- The connection gets its task. -/
theorem Watched.spawn {start : Start T C P} (h : Watched config codec tr s (.starting start))
    (connection : ConnectionTask A P) :
    Watched config codec (tr ++ [.acceptor s.accepted ⟨.spawn start, ()⟩])
      ⟨Acceptor.turn config codec start.processor, s.accepted,
        Function.update s.connections s.accepted (some connection)⟩ (.top start.processor) := by
  obtain ⟨-, hanswers⟩ := h.setup _ rfl
  have hmarks : ∀ number, serverMarks number (tr ++ [.acceptor s.accepted ⟨.spawn start, ()⟩]) =
      serverMarks number tr := by
    intro number
    simp [acceptorMark?]
  refine ⟨rfl, ?_, ?_, ?_, ?_, nofun⟩
  · intro number hnone
    rw [hmarks]
    by_cases heq : number = s.accepted
    · rw [heq] at hnone
      simp at hnone
    · exact h.quiet number (by simpa [heq] using hnone)
  · intro number hsome
    rw [hmarks]
    by_cases heq : number = s.accepted
    · exact heq ▸ hanswers
    · exact h.passed number (by simpa [heq] using hsome)
  · intro number
    rw [hmarks]
    exact h.gated number
  · intro number hlt
    have hlt : s.accepted < number := hlt
    rw [hmarks]
    exact ⟨by simpa [hlt.ne'] using (h.fresh number hlt).1, (h.fresh number hlt).2⟩

/-- The connection with the task does something. -/
theorem Watched.connection {number : ℕ} {before after : ConnectionTask A P} {e : ServerEvent A P}
    (h : Watched config codec tr s pt) (running : s.connections number = some before) :
    Watched config codec (tr ++ [.connection number e])
      ⟨s.acceptor, s.accepted, Function.update s.connections number (some after)⟩ pt := by
  have hpassed := h.passed number (by simp [running])
  have hle : number ≤ s.accepted := by
    by_contra hlt
    have hnone := (h.fresh number (by omega)).1
    rw [running] at hnone
    cases hnone
  have hother : ∀ other, other ≠ number →
      serverMarks other (tr ++ [.connection number e]) = serverMarks other tr :=
    fun other hne => serverMarks_connection_of_ne hne.symm tr e
  -- an event of a task leaves one item of traffic at most, and never a gate
  have hown : ∃ items : Option Traffic, serverMarks number (tr ++ [.connection number e]) =
      serverMarks number tr ++ (items.map .traffic).toList := by
    obtain ⟨op, answer⟩ := e
    cases op with
    | preProcess | postProcess => exact ⟨some .processed, by simp [connectionMark?]⟩
    | send => exact ⟨some .exchanged, by simp [connectionMark?]⟩
    | serve => exact ⟨some .handled, by simp [connectionMark?]⟩
    | next =>
        match answer with
        | some (.ok frame) => exact ⟨some .exchanged, by simp [connectionMark?]⟩
        | some (.error kind) => exact ⟨none, by simp [connectionMark?]⟩
        | none => exact ⟨none, by simp [connectionMark?]⟩
    | _ => exact ⟨none, by simp [connectionMark?]⟩
  obtain ⟨items, hown⟩ := hown
  have hanswers : answers (serverMarks number (tr ++ [.connection number e])) =
      answers (serverMarks number tr) := by
    rw [hown]
    cases items with
    | none => simp
    | some item => simp
  refine ⟨h.point, ?_, ?_, ?_, ?_, ?_⟩
  · intro other hnone
    by_cases heq : other = number
    · rw [heq] at hnone
      simp at hnone
    · rw [hother other heq]
      exact h.quiet other (by simpa [heq] using hnone)
  · intro other hsome
    by_cases heq : other = number
    · rw [heq, hanswers, hpassed]
    · rw [hother other heq]
      exact h.passed other (by simpa [heq] using hsome)
  · intro other
    by_cases heq : other = number
    · rw [heq, hown]
      cases items with
      | none => simpa using h.gated number
      | some item => exact (h.gated number).snoc_traffic hpassed item
    · rw [hother other heq]
      exact h.gated other
  · intro other hlt
    have hlt : s.accepted < other := hlt
    have heq : other ≠ number := by omega
    rw [hother other heq]
    exact ⟨by simpa [heq] using (h.fresh other hlt).1, (h.fresh other hlt).2⟩
  · intro found hfound
    obtain ⟨hnone, hanswers⟩ := h.setup found hfound
    have heq : s.accepted ≠ number := by
      rintro rfl
      rw [running] at hnone
      cases hnone
    rw [hother _ heq]
    exact ⟨by simpa [heq] using hnone, hanswers⟩

theorem passedAt_afterStream (held : P) (addr : SocketAddr) (transport : T) :
    passedAt (Acceptor.afterStream (C := C) config held addr transport) = some [] := by
  unfold Acceptor.afterStream
  cases config.mode <;> rfl

theorem passedAt_entry (held : P) (addr : SocketAddr) (stream : S) :
    passedAt (Acceptor.entry (C := C) config held addr stream) = some [] := by
  unfold Acceptor.entry
  cases config.tls with
  | true => rfl
  | false => exact passedAt_afterStream held addr _

/-- The step lemma. -/
theorem step_watched (h : Watched config codec tr s pt)
    (step : TfServer.Step config codec utils router s ev s') :
    ∃ next, Watched config codec (tr ++ [ev]) s' next := by
  cases step with
  | connection running step => exact ⟨pt, h.connection running⟩
  | acceptor step =>
      obtain ⟨next, hnext, rfl⟩ := Acceptor.next_of_step (h.point ▸ step)
      refine ⟨next, ?_⟩
      cases hnext with
      | accepted held stream addr =>
          refine h.accept stream addr fun found hfound => ?_
          rw [passedAt_entry, Option.some.injEq] at hfound
          exact hfound.symm
      | secured held addr stream transport =>
          refine h.silent rfl fun found hfound => ?_
          rw [passedAt_afterStream] at hfound
          exact hfound
      | setUp | connected | framed =>
          refine h.gate rfl rfl fun found hfound => ?_
          cases hfound
          rfl
      | notSetUp | notConnected | notFramed => exact h.gate rfl rfl nofun
      | started start => exact h.spawn _
      | upgraded => exact h.silent rfl fun _ => id
      | _ => exact h.silent rfl nofun

/-- In every run of the server, a connection has traffic only behind the gates. -/
theorem run_watched
    (run : Run (TfServer.Step config codec utils router) (TfServer.start config codec processor)
      tr s) : ∃ pt, Watched config codec tr s pt := by
  induction run with
  | nil => exact ⟨_, start_watched⟩
  | snoc _ step ih =>
      obtain ⟨pt, hpt⟩ := ih
      exact step_watched hpt step

/-- The acceptor can get on to its next connection by operations of its own. -/
def GoesOn (config : AcceptorConfig S T) (codec : C) (utils : Utils A) (router : TfServerRouter A)
    (s : ServerState A S T C P) : Prop :=
  ∀ (stream : S) (addr : SocketAddr), ∃ (own : List (AcceptorEvent S T C P))
      (s' : ServerState A S T C P), (∀ e ∈ own, e.op.isOwn = true) ∧
    Run (TfServer.Step config codec utils router) s
      (own.map (.acceptor s.accepted) ++
        [.acceptor s.accepted ⟨.select, .accepted stream addr⟩]) s'

/-- A gate that refuses a connection leads to its log line. -/
theorem next_refused {gate : Gate} (hnext : Acceptor.Next config codec pt e next)
    (hrefused : acceptorMark? e = some (.gate gate false)) :
    (∃ held line, next = .warning held line) ∨
      ∃ held addr transport, next = .rejecting held addr transport := by
  cases hnext with
  | notSetUp | notFramed => exact .inl ⟨_, _, rfl⟩
  | notConnected => exact .inr ⟨_, _, _, rfl⟩
  | _ => cases hrefused

/-- A step of the acceptor, with what it does to the rest of the server. -/
theorem acceptor_step (hnext : Acceptor.Next config codec pt e next) {accepted accepted' : ℕ}
    {connections : ℕ → Option (ConnectionTask A P)}
    (haccepted : accepted + TfServer.acceptedBy e = accepted')
    (hspawned : TfServer.spawnedBy utils router accepted connections e = connections) :
    TfServer.Step config codec utils router ⟨pt.task config codec, accepted, connections⟩
      (.acceptor accepted e) ⟨next.task config codec, accepted', connections⟩ := by
  have hstep : TfServer.Step config codec utils router
      ⟨pt.task config codec, accepted, connections⟩ _ _ :=
    .acceptor (Acceptor.step_of_next hnext)
  dsimp only at hstep
  rwa [haccepted, hspawned] at hstep

/-- The acceptor goes on from a control point from which it gets to `select!` by
operations of its own that start no connection task. -/
theorem goesOn_of_run {own : List (AcceptorEvent S T C P)} {held : P}
    (run : Run (Acceptor.Next config codec) pt own (.top held))
    (hown : ∀ e ∈ own, e.op.isOwn = true ∧ ∀ start, e.op ≠ .spawn start) (accepted : ℕ)
    (connections : ℕ → Option (ConnectionTask A P)) :
    GoesOn config codec utils router ⟨pt.task config codec, accepted, connections⟩ := by
  intro stream addr
  have hrun : Run (TfServer.Step config codec utils router)
      ⟨pt.task config codec, accepted, connections⟩ (own.map (.acceptor accepted))
      ⟨(Acceptor.Point.top held).task config codec, accepted, connections⟩ := by
    generalize Acceptor.Point.top held = last at run
    induction run with
    | nil => exact Run.nil
    | @snoc own _ e _ _ hnext ih =>
        obtain ⟨hbefore, hlast⟩ := List.forall_mem_append.mp hown
        obtain ⟨howned, hspawn⟩ := List.forall_mem_singleton.mp hlast
        rw [List.map_append]
        refine (ih hbefore).snoc (acceptor_step hnext ?_ ?_)
        · obtain ⟨op, answer⟩ := e
          cases op with
          | select => cases howned
          | _ => rfl
        · obtain ⟨op, answer⟩ := e
          cases op with
          | spawn start => exact absurd rfl (hspawn start)
          | _ => rfl
  exact ⟨own, _, fun e hmem => (hown e hmem).1,
    hrun.snoc (acceptor_step (.accepted held stream addr) rfl rfl)⟩

theorem goesOn_of_refused {number : ℕ} {gate : Gate} (h : Watched config codec tr s pt)
    (step : TfServer.Step config codec utils router s (.acceptor number e) s')
    (hrefused : acceptorMark? e = some (.gate gate false)) :
    GoesOn config codec utils router s' := by
  cases step with
  | acceptor step =>
      obtain ⟨next, hnext, rfl⟩ := Acceptor.next_of_step (h.point ▸ step)
      rcases next_refused hnext hrefused with ⟨held, line, rfl⟩ | ⟨held, addr, transport, rfl⟩
      · exact goesOn_of_run (Run.single (.warned held line)) (by simp) _ _
      · exact goesOn_of_run ((Run.single (.rejected held addr transport)).snoc
          (.shut held transport (.ok ()))) (by simp) _ _

/-! ## The client's side -/

/-- The operations that are no gate of the traffic processor. -/
@[simp] def ofNew : ConnectOp S T C P → Prop
  | .initialConnect _ _ => False
  | .initialFramedConnect _ _ => False
  | _ => True

theorem new_within (dialer : Dialer S T) (serverName connectionDest : String) (own : C)
    (mode : ClientMode) :
    (ClientConnect.new (P := P) dialer serverName connectionDest own mode).Within ofNew := by
  refine Prog.Within.bind ?_ ?_
  · cases mode with
    | webSocket url =>
        refine ⟨trivial, fun answer => ?_⟩
        match answer with
        | .error text => trivial
        | .ok transport => trivial
    | tcp clientConfig =>
        refine ⟨trivial, fun answer => ?_⟩
        match answer with
        | .error kind => trivial
        | .ok socket =>
            refine ⟨trivial, fun answer => ?_⟩
            match answer with
            | .error kind => trivial
            | .ok () =>
                show (ClientConnect.afterNodelay dialer serverName clientConfig socket
                  (.ok ())).Within ofNew
                unfold ClientConnect.afterNodelay
                dsimp only
                split
                · split
                  · refine ⟨trivial, fun answer => ?_⟩
                    match answer with
                    | .error text => trivial
                    | .ok tls => trivial
                  · trivial
                · trivial
  · intro transport
    match transport with
    | .error error => trivial
    | .ok transport =>
        refine ⟨trivial, fun answer => ?_⟩
        obtain ⟨codec, transport, accepted⟩ := answer
        cases accepted <;> trivial

variable {dialer : Dialer S T} {serverName connectionDest : String} {own : C} {mode : ClientMode}
  {events : List (LifeEvent A S T C P)} {life life' : ClientLife A S T C P}
  {move : LifeEvent A S T C P} {holder : P}

/-- The client has not come to the gates of its traffic processor, and is not
about to. -/
structure Hookless (events : List (LifeEvent A S T C P)) (life : ClientLife A S T C P) : Prop where
  within : ∀ task, life = .connecting task → task.Within ofNew
  passedBy : ∀ passed, (.initialConnect, passed) ∉ answers (clientMarks events)

theorem connecting_of_begin {task task' : ConnectM S T C P (Except ConnectError (T × C))}
    (h : ClientLife.begin utils holder task = .connecting task') : task' = task := by
  unfold ClientLife.begin at h
  split at h
  · cases h
  · exact (ClientLife.connecting.inj h).symm

theorem step_hookless (h : Hookless events life)
    (step : ClientLife.Step utils holder life move life') :
    Hookless (events ++ [move]) life' := by
  cases step with
  | @connect task next e step =>
      obtain ⟨hallowed, hwithin⟩ := (h.within task rfl).step step
      refine ⟨fun task' htask => ?_, fun passed hmem => ?_⟩
      · rw [connecting_of_begin htask]
        exact hwithin
      · rw [clientMarks_snoc] at hmem
        obtain ⟨op, answer⟩ := e
        cases op with
        | initialConnect | initialFramedConnect => exact hallowed
        | initialSetup =>
            obtain ⟨codec, transport, accepted⟩ := answer
            exact h.passedBy passed (by simpa using hmem)
        | _ => exact h.passedBy passed (by simpa using hmem)
  | @run task next e step =>
      refine ⟨nofun, fun passed hmem => h.passedBy passed ?_⟩
      rw [clientMarks_snoc] at hmem
      obtain ⟨op, answer⟩ := e
      cases op with
      | next =>
          match answer with
          | some (.ok frame) => simpa using hmem
          | some (.error kind) => simpa using hmem
          | none => simpa using hmem
      | _ => simpa using hmem

theorem run_hookless
    (run : Run (ClientLife.Step utils holder)
      (ClientLife.launched dialer serverName connectionDest own mode) events life) :
    Hookless events life := by
  induction run with
  | nil =>
      refine ⟨?_, by simp⟩
      rintro task ⟨⟩
      exact new_within dialer serverName connectionDest own mode
  | snoc _ step ih => exact step_hookless ih step

/-- The connection of a client keeps to the rule just as long as nothing goes
over it. -/
theorem client_gated_iff
    (run : Run (ClientLife.Step utils holder)
      (ClientLife.launched dialer serverName connectionDest own mode) events life) :
    Gated gates (clientMarks events) ↔ Quiet (clientMarks events) := by
  constructor
  · intro hgated item hmem
    obtain ⟨before, after, hsplit⟩ := List.append_of_mem hmem
    refine (run_hookless run).passedBy true ?_
    rw [hsplit, answers, List.filterMap_append, ← answers,
      hgated.behind before item after hsplit]
    simp [allPassed, gates]
  · exact Quiet.gated

/-- The client is connecting, or has nothing to do. -/
def Waiting (utils : Utils A) : ClientLife A S T C P → Prop
  | .connecting _ => True
  | .running task => ∃ pt : Client.Point A P, task = pt.task utils ∧
      ((∃ st, pt = .top st) ∨ (∃ st error, pt = .warning st error) ∨ pt = .returned)

theorem waiting_begin (task : ConnectM S T C P (Except ConnectError (T × C))) :
    Waiting utils (ClientLife.begin utils holder task) := by
  unfold ClientLife.begin
  split
  · exact ⟨.top (Client.initial holder), rfl, .inl ⟨_, rfl⟩⟩
  · trivial

/-- A request without the id or the name of a handler comes to nothing. -/
theorem step_waiting (hwaiting : Waiting utils life) (hquiet : Quiet (clientMarks events))
    (step : ClientLife.Step utils holder life move life')
    (hunaddressed : ∀ request, request? move = some request →
      request.req.handlerInfo.id = none ∧ request.req.handlerInfo.named = none) :
    Waiting utils life' ∧ Quiet (clientMarks (events ++ [move])) := by
  cases step with
  | @connect task next e step =>
      refine ⟨waiting_begin next, ?_⟩
      rw [clientMarks_snoc]
      obtain ⟨op, answer⟩ := e
      cases op with
      | initialSetup | initialConnect | initialFramedConnect => exact hquiet.snoc_gate _ _
      | _ => simpa using hquiet
  | @run task next e step =>
      obtain ⟨pt, rfl, hpt⟩ := hwaiting
      obtain ⟨after, hnext, rfl⟩ := Client.next_of_step step
      rcases hpt with ⟨st, rfl⟩ | ⟨st, error, rfl⟩ | rfl
      · cases hnext with
        | taken st request =>
            obtain ⟨hid, hnamed⟩ := hunaddressed request rfl
            refine ⟨⟨_, rfl, .inr (.inl ⟨st, .protocol "Missing handler name", ?_⟩)⟩, ?_⟩
            · simp only [Client.entry, hid, hnamed]
            · simpa using hquiet
        | drained => exact ⟨⟨_, rfl, .inr (.inr rfl)⟩, by simpa using hquiet⟩
      · cases hnext with
        | warned => exact ⟨⟨_, rfl, .inl ⟨_, rfl⟩⟩, by simpa using hquiet⟩
      · cases hnext

theorem run_waiting
    (run : Run (ClientLife.Step utils holder)
      (ClientLife.launched dialer serverName connectionDest own mode) events life)
    (hunaddressed : ∀ request ∈ requests events,
      request.req.handlerInfo.id = none ∧ request.req.handlerInfo.named = none) :
    Waiting utils life ∧ Quiet (clientMarks events) := by
  induction run with
  | nil => exact ⟨trivial, quiet_nil⟩
  | @snoc events _ move _ _ step ih =>
      rw [requests, filterMap_snoc, List.forall_mem_append] at hunaddressed
      obtain ⟨hbefore, hlast⟩ := hunaddressed
      obtain ⟨hwaiting, hquiet⟩ := ih hbefore
      exact step_waiting hwaiting hquiet step fun request hrequest =>
        hlast request (Option.mem_toList.mpr hrequest)

/-! ## Both sides -/

/-- **Gated connections.**  However a server object is started and stopped, the
connections that the acceptor of the first start takes have traffic only behind the
gates of the traffic processor that the object was made with, and none if one of
them refuses the connection; after a refusal the acceptor goes on to its next
connection.  In every run of a client that takes no request with the id or the name
of a handler, the same holds of its connection. -/
theorem connections_gated {fresh : P} {tr : List (DeploymentEvent A S T C P)}
    {s : Deployment A S T C P}
    (run : Run (Deployment.Step config codec utils router fresh)
      (Deployment.new (some processor)) tr s)
    (client : Run (ClientLife.Step utils holder)
      (ClientLife.launched dialer serverName connectionDest own mode) events life)
    (hunaddressed : ∀ request ∈ requests events,
      request.req.handlerInfo.id = none ∧ request.req.handlerInfo.named = none) :
    (∀ number, Gated gates (serverMarks number (Deployment.own 0 tr))) ∧
      (∀ server, s.server? 0 = some server →
        Run (TfServer.Step config codec utils router) (TfServer.start config codec processor)
            (Deployment.own 0 tr) server ∧
          ∀ before number e gate, Deployment.own 0 tr = before ++ [.acceptor number e] →
            acceptorMark? e = some (.gate gate false) → GoesOn config codec utils router server) ∧
      Gated gates (clientMarks events) := by
  have hserver (server : ServerState A S T C P) (hsome : s.server? 0 = some server) :
      Run (TfServer.Step config codec utils router) (TfServer.start config codec processor)
        (Deployment.own 0 tr) server :=
    Deployment.run_server run hsome
  refine ⟨?_, fun server hsome => ⟨hserver server hsome, ?_⟩,
    (run_waiting client hunaddressed).2.gated⟩
  · cases hfirst : s.server? 0 with
    | none =>
        rw [Deployment.own_eq_nil run hfirst]
        exact fun number => quiet_nil.gated
    | some server =>
        obtain ⟨pt, hpt⟩ := run_watched (hserver server hfirst)
        exact hpt.gated
  · intro before number e gate htr hrefused
    obtain ⟨middle, hbefore, step⟩ := (htr ▸ hserver server hsome).of_snoc
    obtain ⟨last, hlast⟩ := run_watched hbefore
    exact goesOn_of_refused hlast step hrefused

section Example

/-- Transports are without contents, and every name is a server name. -/
def dialing : Dialer Unit Unit := ⟨id, fun _ => true⟩

/-- A client connects over TCP, and its codec is set up. -/
def dialed : List (LifeEvent Reference.app Unit Unit Unit Unit) :=
  [.inl ⟨.tcpConnect "server", .ok ()⟩, .inl ⟨.setNodelay (), .ok ()⟩,
    .inl ⟨.initialSetup () (), ((), (), true)⟩]

theorem dialed_run :
    Run (ClientLife.Step Reference.utils ())
      (ClientLife.launched dialing "" "server" () (.tcp false)) dialed
      (.running ((Client.Point.top (Client.initial ())).task Reference.utils)) :=
  Run.cons (.connect (.resume _ _ _)) <| Run.cons (.connect (.resume _ _ _)) <|
    Run.cons (.connect (.resume _ _ _)) Run.nil

/-- A server whose connections are bare. -/
def bareTcp : AcceptorConfig Unit Unit := ⟨id, false, .tcp⟩

def incoming (client : ℕ) : Arrival Unit := ⟨client, (), ⟨0, client⟩⟩

/-- The first connection passes the gates and has traffic. -/
def admittedFirst : List (DeploymentEvent Reference.app Unit Unit Unit Unit) :=
  [.lifetime 0 .start, .lifetime 0 (.arrive (incoming 0)), .lifetime 0 (.acceptor 0 .enter),
    .lifetime 0 (.acceptor 0 (.take (incoming 0))),
    .lifetime 1 (.acceptor 0 (.client 0 ⟨.initialSetup () (), ((), (), true)⟩)),
    .lifetime 1 (.acceptor 0 (.client 0 ⟨.initialConnect () (), ((), (), true)⟩)),
    .lifetime 1
      (.acceptor 0 (.client 0 ⟨.initialFramedConnect () ((), ()), ((), ((), ()), true)⟩)),
    .lifetime 1 (.acceptor 0 (.server ⟨.spawn ⟨⟨0, 0⟩, ((), ()), ()⟩, ()⟩)),
    .connection 0 1 ⟨.next, some (.ok [9])⟩, .connection 0 1 ⟨.preProcess () [9], ((), [9])⟩]

/-- The second connection is refused. -/
def refusedSecond : List (DeploymentEvent Reference.app Unit Unit Unit Unit) :=
  [.lifetime 0 (.arrive (incoming 1)), .lifetime 1 (.acceptor 0 .enter),
    .lifetime 1 (.acceptor 0 (.take (incoming 1))),
    .lifetime 2 (.acceptor 0 (.client 1 ⟨.initialSetup () (), ((), (), true)⟩)),
    .lifetime 2 (.acceptor 0 (.client 1 ⟨.initialConnect () (), ((), (), false)⟩))]

theorem refusedSecond_run : ∃ s,
    Run (Deployment.Step bareTcp () Reference.utils Reference.router ())
      (Deployment.new (some ())) (admittedFirst ++ refusedSecond) s :=
  ⟨_, Run.cons (.lifetime rfl (.start _)) <| Run.cons (.lifetime rfl (.arrive _ _)) <|
    Run.cons (.lifetime rfl (.acceptor rfl rfl (.enter _ rfl rfl))) <|
    Run.cons (.lifetime rfl (.acceptor rfl rfl
      (.take rfl rfl (Acceptor.step_of_next (.accepted _ _ _))))) <|
    Run.cons (.lifetime rfl (.acceptor rfl rfl
      (.client rfl rfl (Acceptor.step_of_next (.setUp _ _ _ _ _))))) <|
    Run.cons (.lifetime rfl (.acceptor rfl rfl
      (.client rfl rfl (Acceptor.step_of_next (.connected _ _ _ _ _ _))))) <|
    Run.cons (.lifetime rfl (.acceptor rfl rfl
      (.client rfl rfl (Acceptor.step_of_next (.framed _ _ _ _ _))))) <|
    Run.cons (.lifetime rfl (.acceptor rfl rfl
      (.server rfl (Acceptor.step_of_next (.started _))))) <|
    Run.cons (.connection rfl (Connection.step_of_next (.metaFrame _ _))) <|
    Run.cons (.connection rfl (Connection.step_of_next (.alone _ _ _ _ rfl))) <|
    Run.cons (.lifetime rfl (.arrive _ _)) <|
    Run.cons (.lifetime rfl (.acceptor rfl rfl (.enter _ rfl rfl))) <|
    Run.cons (.lifetime rfl (.acceptor rfl rfl
      (.take rfl rfl (Acceptor.step_of_next (.accepted _ _ _))))) <|
    Run.cons (.lifetime rfl (.acceptor rfl rfl
      (.client rfl rfl (Acceptor.step_of_next (.setUp _ _ _ _ _))))) <|
    Run.single (.lifetime rfl (.acceptor rfl rfl
      (.client rfl rfl (Acceptor.step_of_next (.notConnected _ _ _ _ _ _)))))⟩

theorem connections_gated_refusedSecond : ∃ s,
    Run (Deployment.Step bareTcp () Reference.utils Reference.router ())
        (Deployment.new (some ())) (admittedFirst ++ refusedSecond) s ∧
      serverMarks 1 (Deployment.own 0 (admittedFirst ++ refusedSecond)) =
        [.gate .initialSetup true, .gate .initialConnect true, .gate .initialFramedConnect true,
          .traffic .exchanged, .traffic .processed] ∧
      (∀ number,
        Gated gates (serverMarks number (Deployment.own 0 (admittedFirst ++ refusedSecond)))) ∧
      (∀ server, s.server? 0 = some server →
        GoesOn bareTcp () Reference.utils Reference.router server) ∧
      Gated gates (clientMarks (dialed ++ [.inr ⟨.recv, none⟩])) := by
  obtain ⟨s, hrun⟩ := refusedSecond_run
  have hclient := dialed_run.snoc (.run (Client.step_of_next (.drained _)))
  have h := connections_gated hrun hclient (by simp [requests, dialed])
  have hlast : Deployment.own 0 (admittedFirst ++ refusedSecond) =
      (Deployment.own 0 (admittedFirst ++ refusedSecond)).dropLast ++
        [.acceptor 2 ⟨.initialConnect () (), ((), (), false)⟩] := rfl
  exact ⟨s, hrun, rfl, h.1, fun server hserver => (h.2.1 server hserver).2 _ 2 _ _ hlast rfl,
    h.2.2⟩

/-- A client passes a frame to its processor that has never been asked to let
the connection pass. -/
theorem client_ungated : ∃ request life,
    Run (ClientLife.Step Reference.utils ())
        (ClientLife.launched dialing "" "server" () (.tcp false))
        (dialed ++ [.inr ⟨.recv, some request⟩] ++
          [.inr ⟨.postProcess () (Reference.metaBytes ⟨.packetMeta, 1, 0, false⟩),
            ((), Reference.metaBytes ⟨.packetMeta, 1, 0, false⟩)⟩]) life ∧
      ¬ Gated gates
        (clientMarks (dialed ++ [.inr ⟨.recv, some request⟩] ++
          [.inr ⟨.postProcess () (Reference.metaBytes ⟨.packetMeta, 1, 0, false⟩),
            ((), Reference.metaBytes ⟨.packetMeta, 1, 0, false⟩)⟩])) := by
  have hrun := (dialed_run.snoc (.run (Client.step_of_next
    (.taken _ ⟨⟨⟨some 0, none⟩, [], true⟩, 0⟩)))).snoc
      (.run (Client.step_of_next (.prepared _ _ _ _ ()
        (Reference.metaBytes ⟨.packetMeta, 1, 0, false⟩))))
  refine ⟨⟨⟨⟨some 0, none⟩, [], true⟩, 0⟩, _, hrun, fun hgated => ?_⟩
  exact (client_gated_iff hrun).mp hgated .processed (by simp [clientMarks])

end Example

end Link

end FourthServer
