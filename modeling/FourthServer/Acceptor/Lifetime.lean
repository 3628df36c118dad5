import FourthServer.Acceptor.World
import FourthServer.Model.Lifetime

/-!
# The life of a server

However often a server is started and stopped, its acceptors share the connections
at its socket among them: each connection is taken once, in the order of arrival,
and comes to what its acceptor makes of those it has taken (`run_restarts`).  The
first acceptor has the traffic processor of the server.  Every other one has an
empty processor, so it admits whoever gets through the handshakes.
-/

namespace FourthServer

open Resumption Trace Transducer

namespace Acceptor

variable {S T C P : Type} {setups : Setups S T C P} {config : AcceptorConfig S T} {codec : C}
  {processor : P}

/-! ## Connections without hooks -/

namespace Setups

/-- What the set-up of the codec makes of a transport. -/
def codecSetup (setups : Setups S T C P) (codec : C) (transport : T) : Option (T × C) :=
  match setups.initialSetup codec transport with
  | (codec, transport, true) => some (transport, codec)
  | (_, _, false) => none

/-- What the mode makes of a transport. -/
def carry (setups : Setups S T C P) (config : AcceptorConfig S T) (codec : C) (transport : T) :
    Option (T × C) :=
  match config.mode with
  | .tcp => setups.codecSetup codec transport
  | .webSocket => (setups.acceptWebsocket transport).toOption.bind (setups.codecSetup codec)

/-- `initial_accept`, which no hook has a part in. -/
def greet (setups : Setups S T C P) (config : AcceptorConfig S T) (codec : C) (stream : S) :
    Option (T × C) :=
  if config.tls then (setups.tlsAccept stream).toOption.bind (setups.carry config codec)
  else setups.carry config codec (config.plain stream)

/-- A holder that lets every connection pass, and stays as it is. -/
structure Open (setups : Setups S T C P) (fresh : P) : Prop where
  connect : ∀ transport, setups.initialConnect fresh transport = (fresh, transport, true)
  framedConnect : ∀ framed, setups.initialFramedConnect fresh framed = (fresh, framed, true)

variable {fresh : P}

theorem connect_open (hopen : setups.Open fresh) (addr : SocketAddr) (transport : T) (codec : C) :
    setups.connect fresh addr transport codec =
      (fresh, some ⟨addr, (transport, codec), fresh⟩) := by
  rw [connect, hopen.connect]
  show setups.frame fresh addr (transport, codec) = _
  rw [frame, hopen.framedConnect]

theorem setUp_open (hopen : setups.Open fresh) (addr : SocketAddr) (transport : T) :
    setups.setUp codec fresh addr transport =
      (fresh, (setups.codecSetup codec transport).map (⟨addr, ·, fresh⟩)) := by
  unfold setUp codecSetup
  match setups.initialSetup codec transport with
  | (codec', transport', true) => exact connect_open hopen addr transport' codec'
  | (codec', transport', false) => rfl

theorem convey_open (hopen : setups.Open fresh) (addr : SocketAddr) (transport : T) :
    setups.convey config codec fresh addr transport =
      (fresh, (setups.carry config codec transport).map (⟨addr, ·, fresh⟩)) := by
  unfold convey carry
  cases config.mode with
  | tcp => exact setUp_open hopen addr transport
  | webSocket =>
      show setups.upgrade codec fresh addr transport = _
      unfold upgrade
      cases setups.acceptWebsocket transport with
      | ok upgraded => exact setUp_open hopen addr upgraded
      | error error => rfl

/-- Behind an open holder a connection comes to what `initial_accept` makes of
it. -/
theorem judge_open (hopen : setups.Open fresh) (conn : S × SocketAddr) :
    setups.judge config codec fresh conn =
      (fresh, (setups.greet config codec conn.1).map (⟨conn.2, ·, fresh⟩)) := by
  unfold judge greet
  cases config.tls with
  | false => exact convey_open hopen conn.2 _
  | true =>
      show setups.secure config codec fresh conn.2 conn.1 = _
      unfold secure
      cases setups.tlsAccept conn.1 with
      | ok transport => exact convey_open hopen conn.2 transport
      | error error => rfl

theorem transduce_open (hopen : setups.Open fresh) (conns : List (S × SocketAddr)) :
    transduce (setups.judge config codec) fresh conns =
      conns.map fun conn => (setups.greet config codec conn.1).map (⟨conn.2, ·, fresh⟩) := by
  induction conns with
  | nil => rfl
  | cons conn rest ih => rw [transduce, judge_open hopen, ih, List.map_cons]

end Setups

/-- Only the last connection may be under way. -/
theorem length_arrivals_le {tr : List (AcceptorEvent S T C P)} {pt : Point S T C P}
    (h : Progress setups config codec processor tr pt) :
    (arrivals tr).length ≤ (outcomes tr).length + 1 := by
  unfold Progress at h
  split at h
  · obtain ⟨earlier, conn, harrivals, houtcomes, -⟩ := h
    simp [harrivals, houtcomes]
  · simp [h.outcomes]

end Acceptor

namespace Lifetime

open Acceptor

variable {S T C P : Type}

/-! ## Reading a history -/

@[simp] def arrived? : LifetimeEvent S T C P → Option (Arrival S)
  | .arrive arrival => some arrival
  | _ => none

/-- The connections that have come. -/
def arrived (tr : List (LifetimeEvent S T C P)) : List (Arrival S) := tr.filterMap arrived?

/-- The connection that an acceptor takes with an event. -/
def took? : WorldEvent S T C P → Option (Arrival S)
  | .take arrival => some arrival
  | _ => none

@[simp] def take? : LifetimeEvent S T C P → Option (ℕ × Arrival S)
  | .acceptor index ev => (took? ev).map (index, ·)
  | _ => none

/-- The connections that have been taken, each with its acceptor. -/
def takes (tr : List (LifetimeEvent S T C P)) : List (ℕ × Arrival S) := tr.filterMap take?

/-- The connections that the acceptor has taken. -/
def taken (index : ℕ) (tr : List (LifetimeEvent S T C P)) : List (S × SocketAddr) :=
  ((takes tr).filter (·.1 = index)).map fun entry => (entry.2.stream, entry.2.addr)

/-- The history of an acceptor. -/
def own (index : ℕ) (tr : List (LifetimeEvent S T C P)) : List (AcceptorEvent S T C P) :=
  tr.filterMap (own? index)

section Snoc

variable (tr : List (LifetimeEvent S T C P)) (ev : LifetimeEvent S T C P) (index : ℕ)

@[simp] theorem arrived_snoc : arrived (tr ++ [ev]) = arrived tr ++ (arrived? ev).toList :=
  filterMap_snoc _ tr ev

@[simp] theorem takes_snoc : takes (tr ++ [ev]) = takes tr ++ (take? ev).toList :=
  filterMap_snoc _ tr ev

@[simp] theorem own_snoc : own index (tr ++ [ev]) = own index tr ++ (own? index ev).toList :=
  filterMap_snoc _ tr ev

theorem taken_snoc : taken index (tr ++ [ev]) = taken index tr ++
    ((take? ev).toList.filter (·.1 = index)).map fun entry => (entry.2.stream, entry.2.addr) := by
  rw [taken, takes_snoc, List.filter_append, List.map_append]
  rfl

end Snoc

/-! ## Who has taken what -/

/-- The traffic processor of an acceptor: the first one has the server's. -/
def holderOf (fresh : P) (given : Option P) : ℕ → P
  | 0 => given.getD fresh
  | _ + 1 => fresh

variable {config : AcceptorConfig S T} {codec : C} {fresh : P} {given : Option P}
  {tr : List (LifetimeEvent S T C P)} {s s' : Lifetime S T C P} {ev : LifetimeEvent S T C P}

/-- An acceptor is where its history has led it. -/
structure AcceptorPlaced (config : AcceptorConfig S T) (codec : C) (holder : P)
    (events : List (AcceptorEvent S T C P)) (acceptor : AcceptorTask S T C P) : Prop where
  point : ∃ pt, Run (Next config codec) (.top holder) events pt ∧
    ∀ socket, Placed config codec (acceptor.listening socket) pt

/-- What holds of a server and its acceptors. -/
structure Shared (config : AcceptorConfig S T) (codec : C) (fresh : P) (given : Option P)
    (tr : List (LifetimeEvent S T C P)) (s : Lifetime S T C P) : Prop where
  inOrder : (takes tr).map Prod.snd ++ s.server.socket = arrived tr
  kept : s.server.processor = if s.acceptors = [] then given else none
  placed : ∀ index acceptor, s.acceptors[index]? = some acceptor →
    AcceptorPlaced config codec (holderOf fresh given index) (own index tr) acceptor
  unborn : ∀ index, s.acceptors.length ≤ index → own index tr = []
  arrivals_own : ∀ index, arrivals (own index tr) = taken index tr

theorem new_shared : Shared config codec fresh given ([] : List (LifetimeEvent S T C P))
    (new given) where
  inOrder := rfl
  kept := rfl
  placed _ _ h := by cases h
  unborn _ _ := rfl
  arrivals_own _ := rfl

/-- The server takes its processor out of itself for the first acceptor. -/
theorem takeProcessor_eq (h : Shared config codec fresh given tr s) :
    takeProcessor fresh s.server =
      (holderOf fresh given s.acceptors.length, ⟨s.server.socket, none⟩) := by
  obtain ⟨⟨socket, held⟩, acceptors⟩ := s
  obtain rfl : held = if acceptors = [] then given else none := h.kept
  cases acceptors with
  | nil => cases given <;> rfl
  | cons acceptor rest => rfl

theorem turn_acceptorPlaced (holder : P) :
    AcceptorPlaced config codec holder [] ⟨turn config codec holder, none, none⟩ where
  point := ⟨.top holder, Run.nil, fun _ => ⟨rfl, fun h => absurd rfl h, nofun⟩⟩

/-- `start` adds an acceptor. -/
theorem Shared.start (h : Shared config codec fresh given tr s) :
    Shared config codec fresh given (tr ++ [.start]) (s.start config codec fresh) := by
  have hown (index : ℕ) : own index (tr ++ [.start]) = own index tr := by simp
  have hstart : s.start config codec fresh = ⟨⟨s.server.socket, none⟩, s.acceptors ++
      [⟨turn config codec (holderOf fresh given s.acceptors.length), none, none⟩]⟩ := by
    rw [Lifetime.start, takeProcessor_eq h]
  rw [hstart]
  refine ⟨by simpa using h.inOrder, by simp, fun index acceptor hacceptor => ?_,
    fun index hle => ?_, fun index => ?_⟩
  · rw [hown]
    rcases lt_trichotomy index s.acceptors.length with hlt | rfl | hgt
    · rw [List.getElem?_append_left hlt] at hacceptor
      exact h.placed index acceptor hacceptor
    · rw [List.getElem?_concat_length] at hacceptor
      cases hacceptor
      rw [h.unborn _ le_rfl]
      exact turn_acceptorPlaced _
    · rw [List.getElem?_eq_none (by simp; omega)] at hacceptor
      cases hacceptor
  · rw [hown]
    exact h.unborn index (by simp at hle; omega)
  · rw [hown, taken_snoc, h.arrivals_own]
    simp

/-- `send_stop` wakes acceptors, and does nothing else. -/
theorem Shared.stop (h : Shared config codec fresh given tr s) :
    Shared config codec fresh given (tr ++ [.stop]) s.sendStop := by
  have hown (index : ℕ) : own index (tr ++ [.stop]) = own index tr := by simp
  refine ⟨by simpa [sendStop] using h.inOrder, by simpa [sendStop] using h.kept,
    fun index acceptor hacceptor => ?_, fun index hle => ?_, fun index => ?_⟩
  · rw [sendStop, List.getElem?_map, Option.map_eq_some_iff] at hacceptor
    obtain ⟨before, hbefore, rfl⟩ := hacceptor
    obtain ⟨pt, hrun, hplaced⟩ := (h.placed index before hbefore).point
    rw [hown]
    refine ⟨pt, hrun, fun socket => ⟨(hplaced socket).task, fun hnotified => ?_,
      (hplaced socket).engaged⟩⟩
    refine (hplaced socket).parked fun hnone => hnotified ?_
    exact congrArg (Option.map fun _ => true) hnone
  · rw [hown]
    exact h.unborn index (by simpa [sendStop] using hle)
  · rw [hown, taken_snoc, h.arrivals_own]
    simp

theorem Shared.arrive (h : Shared config codec fresh given tr s) (arrival : Arrival S) :
    Shared config codec fresh given (tr ++ [.arrive arrival])
      { s with server := { s.server with socket := s.server.socket ++ [arrival] } } := by
  have hown (index : ℕ) : own index (tr ++ [.arrive arrival]) = own index tr := by simp
  refine ⟨?_, h.kept, fun index acceptor hacceptor => ?_, fun index hle => ?_, fun index => ?_⟩
  · have hinOrder := h.inOrder
    simp [← hinOrder]
  · rw [hown]
    exact h.placed index acceptor hacceptor
  · rw [hown]
    exact h.unborn index hle
  · rw [hown, taken_snoc, h.arrivals_own]
    simp

/-- An acceptor takes the connections of its listener from the front. -/
theorem backlog_eq {w w' : World S T C P} {ev : WorldEvent S T C P}
    (step : WorldStep config codec w ev w') (hown : ev.ofAcceptor = true) :
    (took? ev).toList ++ w'.backlog = w.backlog := by
  cases step with
  | arrive | stop => cases hown
  | take hnotified hbacklog hstep => exact hbacklog.symm
  | _ => rfl

theorem arrival?_of_isSetup {e : AcceptorEvent S T C P} (h : e.op.isSetup = true) :
    arrival? e = none := by
  obtain ⟨op, answer⟩ := e
  cases op <;> first | rfl | cases h

theorem arrival?_of_isOwn {e : AcceptorEvent S T C P} (h : e.op.isOwn = true) :
    arrival? e = none := by
  obtain ⟨op, answer⟩ := e
  cases op <;> first | rfl | cases h

/-- What an acceptor takes is what it sees accepted. -/
theorem arrivals_acceptor? {w w' : World S T C P} {ev : WorldEvent S T C P}
    (step : WorldStep config codec w ev w') :
    arrivals ev.acceptor?.toList =
      (took? ev).toList.map fun arrival => (arrival.stream, arrival.addr) := by
  cases step with
  | client hsetup => exact List.filterMap_cons_none (arrival?_of_isSetup hsetup)
  | server hown => exact List.filterMap_cons_none (arrival?_of_isOwn hown)
  | _ => rfl

/-- An acceptor goes on, the others stay where they are. -/
theorem Shared.acceptor (h : Shared config codec fresh given tr s) {index : ℕ}
    {acceptor : AcceptorTask S T C P} {ev : WorldEvent S T C P} {w : World S T C P}
    (running : s.acceptors[index]? = some acceptor) (hown : ev.ofAcceptor = true)
    (step : WorldStep config codec (acceptor.listening s.server.socket) ev w) :
    Shared config codec fresh given (tr ++ [.acceptor index ev])
      ⟨{ s.server with socket := w.backlog }, s.acceptors.set index w.acceptor⟩ := by
  have hself : own index (tr ++ [.acceptor index ev]) = own index tr ++ ev.acceptor?.toList := by
    simp
  have hother {other : ℕ} (hne : other ≠ index) :
      own other (tr ++ [.acceptor index ev]) = own other tr := by
    simp [hne.symm]
  obtain ⟨pt, hrun, hplaced⟩ := (h.placed index acceptor running).point
  have hlt : index < s.acceptors.length := (List.getElem?_eq_some_iff.mp running).1
  refine ⟨?_, ?_, fun other after hafter => ?_, fun other hle => ?_, fun other => ?_⟩
  · have hinOrder := h.inOrder
    have hbacklog : _ = s.server.socket := backlog_eq step hown
    rw [← hbacklog] at hinOrder
    rw [takes_snoc, take?, Option.toList_map, List.map_append, List.map_map, List.append_assoc]
    simpa using hinOrder
  · have hacceptors : s.acceptors ≠ [] := List.ne_nil_of_length_pos (by omega)
    have hkept := h.kept
    rw [if_neg hacceptors] at hkept
    rw [if_neg (by simpa using hacceptors)]
    exact hkept
  · by_cases heq : other = index
    · subst heq
      rw [List.getElem?_set_self hlt] at hafter
      cases hafter
      obtain ⟨next, hnext, hmove⟩ := step_placed (hplaced _) step
      rw [hself]
      refine ⟨next, ?_, fun socket => ⟨hnext.task, hnext.parked, hnext.engaged⟩⟩
      obtain ⟨hnone, rfl⟩ | ⟨e, he, htable⟩ := hmove
      · rw [hnone]
        simpa using hrun
      · rw [he]
        exact hrun.snoc htable
    · rw [List.getElem?_set_ne (Ne.symm heq)] at hafter
      rw [hother heq]
      exact h.placed other after hafter
  · have hne : other ≠ index := by
      rintro rfl
      simp at hle
      omega
    rw [hother hne]
    exact h.unborn other (by simpa using hle)
  · by_cases heq : other = index
    · subst heq
      have hlast := arrivals_acceptor? step
      rw [hself, arrivals, List.filterMap_append, taken_snoc, take?, Option.toList_map]
      refine congrArg₂ _ (h.arrivals_own _) (hlast.trans ?_)
      cases took? ev <;> simp
    · rw [hother heq, h.arrivals_own, taken_snoc, take?, Option.toList_map]
      cases took? ev <;> simp [Ne.symm heq]

theorem step_shared (h : Shared config codec fresh given tr s)
    (step : Step config codec fresh s ev s') :
    Shared config codec fresh given (tr ++ [ev]) s' := by
  cases step with
  | start => exact h.start
  | stop => exact h.stop
  | arrive arrival => exact h.arrive arrival
  | acceptor running own step => exact h.acceptor running own step

theorem run_shared (run : Run (Step config codec fresh) (new given) tr s) :
    Shared config codec fresh given tr s :=
  run.invariant (I := Shared config codec fresh given) new_shared
    fun _ _ _ _ _ h step => step_shared h step

/-- The history of an acceptor, whether it has been spawned or not. -/
theorem Shared.run_own (h : Shared config codec fresh given tr s) (index : ℕ) :
    ∃ pt, Run (Next config codec) (.top (holderOf fresh given index)) (own index tr) pt := by
  rcases Nat.lt_or_ge index s.acceptors.length with hlt | hge
  · obtain ⟨pt, hrun, -⟩ := (h.placed index _ (List.getElem?_eq_getElem hlt)).point
    exact ⟨pt, hrun⟩
  · rw [h.unborn index hge]
    exact ⟨_, Run.nil⟩

/-- **Started twice, guarded once.**  However a server is started and stopped, its
connections are taken in the order in which they came, each of them once.  What
becomes of those that an acceptor has taken is what it makes of them in turn; only
the last one may be under way.  The first acceptor judges with the traffic processor
of the server.  Every later one admits whoever gets through `initial_accept`, with
an empty processor. -/
theorem run_restarts {setups : Setups S T C P} (hopen : setups.Open fresh)
    (run : Run (Step config codec fresh) (new given) tr s)
    (hobeyed : ∀ index, ∀ e ∈ own index tr, setups.Obeyed e) :
    (takes tr).map Prod.snd ++ s.server.socket = arrived tr ∧
      (∀ index, (taken index tr).length ≤ (outcomes (own index tr)).length + 1) ∧
      outcomes (own 0 tr) <+:
        transduce (setups.judge config codec) (given.getD fresh) (taken 0 tr) ∧
      ∀ index, outcomes (own (index + 1) tr) <+: (taken (index + 1) tr).map fun conn =>
        (setups.greet config codec conn.1).map (⟨conn.2, ·, fresh⟩) := by
  have h := run_shared run
  have hadmitted (index : ℕ) : outcomes (own index tr) <+:
      transduce (setups.judge config codec) (holderOf fresh given index) (taken index tr) := by
    obtain ⟨pt, hrun⟩ := h.run_own index
    rw [← h.arrivals_own]
    exact run_admitted hrun (hobeyed index)
  refine ⟨h.inOrder, fun index => ?_, hadmitted 0, fun index => ?_⟩
  · obtain ⟨pt, hrun⟩ := h.run_own index
    rw [← h.arrivals_own]
    exact length_arrivals_le (run_progress hrun (hobeyed index))
  · rw [← Setups.transduce_open hopen]
    exact hadmitted (index + 1)

/-! ## A restart -/

section Restarted

/-- A holder that refuses everyone, or one that lets everyone pass. -/
def refusing : Setups ℕ ℕ Unit Bool where
  tlsAccept stream := .ok stream
  acceptWebsocket transport := .ok transport
  initialSetup _ transport := ((), transport, true)
  initialConnect refuses transport := (refuses, transport, !refuses)
  initialFramedConnect refuses framed := (refuses, framed, true)

def arrivalOf (client : ℕ) : Arrival ℕ := ⟨client, client, ⟨0, client⟩⟩

/-- Until the server is stopped, the only client is refused. -/
def untilStopped : List (LifetimeEvent ℕ ℕ Unit Bool) :=
  [.start, .arrive (arrivalOf 0), .acceptor 0 .enter, .acceptor 0 (.take (arrivalOf 0)),
    .acceptor 0 (.client 0 ⟨.initialSetup () 0, ((), 0, true)⟩),
    .acceptor 0 (.client 0 ⟨.initialConnect true 0, (true, 0, false)⟩),
    .acceptor 0 (.server ⟨.warn (.processorRejected ⟨0, 0⟩), ()⟩),
    .acceptor 0 (.server ⟨.shutdown 0, .ok ()⟩), .acceptor 0 .enter, .stop]

/-- Once it is started again, the next client is admitted. -/
def restarted : List (LifetimeEvent ℕ ℕ Unit Bool) :=
  [.acceptor 0 .leave, .start, .arrive (arrivalOf 1), .acceptor 1 .enter,
    .acceptor 1 (.take (arrivalOf 1)), .acceptor 1 (.client 1 ⟨.initialSetup () 1, ((), 1, true)⟩),
    .acceptor 1 (.client 1 ⟨.initialConnect false 1, (false, 1, true)⟩),
    .acceptor 1 (.client 1 ⟨.initialFramedConnect false (1, ()), (false, (1, ()), true)⟩),
    .acceptor 1 (.server ⟨.spawn ⟨⟨0, 1⟩, (1, ()), false⟩, ()⟩)]

/-- The server once it is stopped. -/
def stoppedServer : Lifetime ℕ ℕ Unit Bool :=
  ⟨⟨[], none⟩, [⟨turn plainTcp () true, some true, some 0⟩]⟩

theorem untilStopped_run :
    Run (Step plainTcp () false) (new (some true)) untilStopped stoppedServer :=
  Run.cons (.start _) <| Run.cons (.arrive _ (arrivalOf 0)) <|
  Run.cons (.acceptor rfl rfl (.enter _ rfl rfl)) <|
  Run.cons (.acceptor rfl rfl (.take rfl rfl (step_of_next (.accepted true _ _)))) <|
  Run.cons (.acceptor rfl rfl (.client rfl rfl (step_of_next (.setUp _ _ _ _ _)))) <|
  Run.cons (.acceptor rfl rfl (.client rfl rfl (step_of_next (.notConnected _ _ _ _ _ _)))) <|
  Run.cons (.acceptor rfl rfl (.server rfl (step_of_next (.rejected _ _ _)))) <|
  Run.cons (.acceptor rfl rfl (.server rfl (step_of_next (.shut _ _ _)))) <|
  Run.cons (.acceptor rfl rfl (.enter _ rfl rfl)) <| Run.single (.stop _)

theorem restarted_run : ∃ s, Run (Step plainTcp () false) stoppedServer restarted s :=
  ⟨_, Run.cons (.acceptor rfl rfl (.leave rfl (step_of_next (.notified true)))) <|
    Run.cons (.start _) <| Run.cons (.arrive _ (arrivalOf 1)) <|
    Run.cons (.acceptor rfl rfl (.enter _ rfl rfl)) <|
    Run.cons (.acceptor rfl rfl (.take rfl rfl (step_of_next (.accepted false _ _)))) <|
    Run.cons (.acceptor rfl rfl (.client rfl rfl (step_of_next (.setUp _ _ _ _ _)))) <|
    Run.cons (.acceptor rfl rfl (.client rfl rfl (step_of_next (.connected _ _ _ _ _ _)))) <|
    Run.cons (.acceptor rfl rfl (.client rfl rfl (step_of_next (.framed _ _ _ _ _)))) <|
    Run.single (.acceptor rfl rfl (.server rfl (step_of_next (.started _))))⟩

theorem restarted_obeyed (index : ℕ) :
    ∀ e ∈ own index (untilStopped ++ restarted), refusing.Obeyed e := by
  have hall : ∀ ev ∈ untilStopped ++ restarted, ∀ index e, own? index ev = some e →
      refusing.Obeyed e := by
    simp [untilStopped, restarted, Setups.Obeyed, refusing]
    exact ⟨rfl, rfl, rfl, rfl, rfl⟩
  intro e hmem
  obtain ⟨ev, hev, hown⟩ := List.mem_filterMap.mp hmem
  exact hall ev hev index e hown

theorem run_restarts_restarted : ∃ s,
    Run (Step plainTcp () false) (new (some true)) (untilStopped ++ restarted) s ∧
      outcomes (own 0 (untilStopped ++ restarted)) = [none] ∧
      outcomes (own 1 (untilStopped ++ restarted)) = [some ⟨⟨0, 1⟩, (1, ()), false⟩] ∧
      outcomes (own 1 (untilStopped ++ restarted)) <+:
        (taken 1 (untilStopped ++ restarted)).map fun conn =>
          (refusing.greet plainTcp () conn.1).map (⟨conn.2, ·, false⟩) := by
  obtain ⟨s, hrun⟩ := restarted_run
  have hwhole := untilStopped_run.append hrun
  exact ⟨s, hwhole, rfl, rfl, (run_restarts ⟨fun _ => rfl, fun _ => rfl⟩ hwhole
    restarted_obeyed).2.2.2 0⟩

end Restarted

end Lifetime

end FourthServer
