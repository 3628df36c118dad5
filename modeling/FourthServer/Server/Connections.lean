import FourthServer.Acceptor.Admission
import FourthServer.Model.Server
import FourthServer.Server.Stream

/-!
# The connections of a server

However the acceptor and the connection tasks take turns, each connection that
was admitted has a task of its own, which was started with what the acceptor had
set up for it, and whose history is a run of the connection loop
(`run_spawns`).  So what a client gets back depends on no other client
(`run_isolated`).
-/

namespace FourthServer

open Resumption Trace

namespace TfServer

variable {A : App} {S T C P : Type}

/-! ## Reading a history -/

@[simp] def acceptor? : ServerStateEvent A S T C P → Option (AcceptorEvent S T C P)
  | .acceptor _ e => some e
  | _ => none

/-- The history of the acceptor. -/
def acceptors (tr : List (ServerStateEvent A S T C P)) : List (AcceptorEvent S T C P) :=
  tr.filterMap acceptor?

@[simp] def own? (number : ℕ) : ServerStateEvent A S T C P → Option (ServerEvent A P)
  | .connection other e => if other = number then some e else none
  | _ => none

/-- The history of a connection. -/
def own (number : ℕ) (tr : List (ServerStateEvent A S T C P)) : List (ServerEvent A P) :=
  tr.filterMap (own? number)

section Snoc

variable (tr : List (ServerStateEvent A S T C P)) (ev : ServerStateEvent A S T C P) (number : ℕ)

@[simp] theorem acceptors_nil : acceptors ([] : List (ServerStateEvent A S T C P)) = [] := rfl

@[simp] theorem acceptors_snoc : acceptors (tr ++ [ev]) = acceptors tr ++ (acceptor? ev).toList :=
  filterMap_snoc _ tr ev

@[simp] theorem own_nil : own number ([] : List (ServerStateEvent A S T C P)) = [] := rfl

@[simp] theorem own_snoc :
    own number (tr ++ [ev]) = own number tr ++ (own? number ev).toList :=
  filterMap_snoc _ tr ev

end Snoc

/-! ## Who has a task -/

variable {config : AcceptorConfig S T} {codec : C} {utils : Utils A} {router : TfServerRouter A}
  {processor : P} {tr : List (ServerStateEvent A S T C P)} {s s' : ServerState A S T C P}
  {ev : ServerStateEvent A S T C P} {pt next : Acceptor.Point S T C P} {e : AcceptorEvent S T C P}

/-- What a connection is, given what has become of it at the acceptor: it has no
task and has done nothing, or its task was started as the acceptor says. -/
def SpawnedAs (utils : Utils A) (router : TfServerRouter A) (number : ℕ)
    (events : List (ServerEvent A P)) :
    Option (Option (Start T C P)) → Option (ConnectionTask A P) → Prop
  | some (some start), some connection => connection.addr = start.addr ∧
      Run (Connection.Step utils router start.addr)
        (Connection.handleConnection utils router start.addr start.processor number) events
        connection.task
  | some (some _), none => False
  | _, some _ => False
  | _, none => events = []

/-- A connection is being set up. -/
def pending : Acceptor.Point S T C P → ℕ
  | .top _ => 0
  | .warning _ (.acceptError _) => 0
  | .shutting _ _ => 0
  | .returned => 0
  | _ => 1

/-- The tasks of a server, with its acceptor at a control point. -/
structure Spawns (config : AcceptorConfig S T) (codec : C) (utils : Utils A)
    (router : TfServerRouter A) (processor : P) (tr : List (ServerStateEvent A S T C P))
    (s : ServerState A S T C P) (pt : Acceptor.Point S T C P) : Prop where
  point : s.acceptor = pt.task config codec
  acceptor : Run (Acceptor.Next config codec) (.top processor) (acceptors tr) pt
  /-- The connection that is being set up is the last one accepted. -/
  counted : (Acceptor.outcomes (acceptors tr)).length + pending pt = s.accepted
  arrived : (Acceptor.arrivals (acceptors tr)).length = s.accepted
  zero : s.connections 0 = none ∧ own 0 tr = []
  spawned : ∀ index, SpawnedAs utils router (index + 1) (own (index + 1) tr)
    (Acceptor.outcomes (acceptors tr))[index]? (s.connections (index + 1))

theorem start_spawns : Spawns config codec utils router processor
    ([] : List (ServerStateEvent A S T C P)) (start config codec processor) (.top processor) where
  point := rfl
  acceptor := Run.nil
  counted := rfl
  arrived := rfl
  zero := ⟨rfl, rfl⟩
  spawned _ := rfl

theorem pending_afterStream (held : P) (addr : SocketAddr) (transport : T) :
    pending (Acceptor.afterStream config held addr transport : Acceptor.Point S T C P) = 1 := by
  unfold Acceptor.afterStream
  cases config.mode <;> rfl

theorem pending_entry (held : P) (addr : SocketAddr) (stream : S) :
    pending (Acceptor.entry config held addr stream : Acceptor.Point S T C P) = 1 := by
  unfold Acceptor.entry
  split
  · rfl
  · exact pending_afterStream _ _ _

/-- A connection is pending from its arrival until it is seen what becomes of it. -/
theorem next_pending (h : Acceptor.Next config codec pt e next) :
    (Acceptor.outcome? e).toList.length + pending next =
      pending pt + (Acceptor.arrival? e).toList.length := by
  cases h with
  | accepted held stream addr => exact congrArg (0 + ·) (pending_entry held addr stream)
  | secured held addr stream transport =>
      exact congrArg (0 + ·) (pending_afterStream held addr transport)
  | warned held line => cases line <;> rfl
  | _ => rfl

theorem pending_le_one (pt : Acceptor.Point S T C P) : pending pt ≤ 1 := by
  cases pt with
  | warning held line => cases line <;> simp [pending]
  | _ => simp [pending]

/-- A connection is pending until it is seen what becomes of it. -/
theorem pending_of_outcome (h : Acceptor.Next config codec pt e next)
    (houtcome : Acceptor.outcome? e ≠ none) : pending pt = 1 := by
  cases h with
  | started | rejected => rfl
  | warned held line =>
      cases line with
      | acceptError kind => exact absurd rfl houtcome
      | _ => rfl
  | _ => exact absurd rfl houtcome

/-- Only in one place does the acceptor start a task. -/
theorem spawnedBy_eq (h : Acceptor.Next config codec pt e next)
    (hstarting : ∀ start, pt ≠ .starting start) (number : ℕ)
    (connections : ℕ → Option (ConnectionTask A P)) :
    spawnedBy utils router number connections e = connections ∧
      (Acceptor.outcome? e = none ∨ Acceptor.outcome? e = some none) := by
  cases h with
  | started start => exact absurd rfl (hstarting start)
  | rejected => exact ⟨rfl, .inr rfl⟩
  | warned held line =>
      cases line with
      | acceptError kind => exact ⟨rfl, .inl rfl⟩
      | _ => exact ⟨rfl, .inr rfl⟩
  | _ => exact ⟨rfl, .inl rfl⟩

theorem acceptedBy_eq (e : AcceptorEvent S T C P) :
    acceptedBy e = (Acceptor.arrival? e).toList.length := by
  obtain ⟨op, answer⟩ := e
  cases op with
  | select => cases answer <;> rfl
  | _ => rfl

/-- What becomes of the connection that was pending, if that is seen. -/
theorem getElem?_outcomes {outcomes : List (Option (Start T C P))}
    {outcome : Option (Option (Start T C P))} {index : ℕ}
    (hne : index ≠ outcomes.length ∨ outcome = none) :
    (outcomes ++ outcome.toList)[index]? = outcomes[index]? := by
  rcases hne with hne | rfl
  · rcases Nat.lt_or_gt_of_ne hne with hlt | hgt
    · exact List.getElem?_append_left hlt
    · rw [List.getElem?_eq_none hgt.le, List.getElem?_eq_none]
      have hone : outcome.toList.length ≤ 1 := by cases outcome <;> simp
      rw [List.length_append]
      omega
  · rw [Option.toList_none, List.append_nil]

/-- The acceptor goes on without starting a task. -/
theorem Spawns.acceptor_moves (h : Spawns config codec utils router processor tr s pt)
    (hnext : Acceptor.Next config codec pt e next)
    (hspawned : spawnedBy utils router s.accepted s.connections e = s.connections)
    (houtcome : Acceptor.outcome? e = none ∨ Acceptor.outcome? e = some none) :
    Spawns config codec utils router processor (tr ++ [.acceptor s.accepted e])
      ⟨next.task config codec, s.accepted + acceptedBy e,
        spawnedBy utils router s.accepted s.connections e⟩ next := by
  have hacceptors : acceptors (tr ++ [.acceptor s.accepted e]) = acceptors tr ++ [e] :=
    acceptors_snoc _ _
  have hown (number : ℕ) : own number (tr ++ [.acceptor s.accepted e]) = own number tr := by
    rw [own_snoc]
    exact List.append_nil _
  have hpending := next_pending hnext
  have hcounted := h.counted
  have harrived := h.arrived
  rw [hspawned]
  refine ⟨rfl, ?_, ?_, ?_, ?_, fun index => ?_⟩
  · rw [hacceptors]
    exact h.acceptor.snoc hnext
  · show _ = s.accepted + acceptedBy e
    rw [hacceptors, Acceptor.outcomes_snoc, List.length_append, acceptedBy_eq]
    omega
  · rw [hacceptors, Acceptor.arrivals_snoc, List.length_append, acceptedBy_eq, harrived]
  · rw [hown]
    exact h.zero
  · rw [hacceptors, hown, Acceptor.outcomes_snoc]
    have hspawned := h.spawned index
    by_cases hne : index = (Acceptor.outcomes (acceptors tr)).length ∧
        Acceptor.outcome? e = some none
    · -- the connection is refused
      obtain ⟨rfl, hrefused⟩ := hne
      rw [List.getElem?_eq_none le_rfl] at hspawned
      rw [hrefused, Option.toList_some, List.getElem?_concat_length]
      revert hspawned
      cases s.connections ((Acceptor.outcomes (acceptors tr)).length + 1) <;> exact id
    · rw [getElem?_outcomes]
      · exact hspawned
      · rcases houtcome with hnone | hsome
        · exact .inr hnone
        · exact .inl fun heq => hne ⟨heq, hsome⟩

/-- The acceptor starts a task. -/
theorem Spawns.spawn {start : Start T C P}
    (h : Spawns config codec utils router processor tr s (.starting start)) :
    Spawns config codec utils router processor (tr ++ [.acceptor s.accepted ⟨.spawn start, ()⟩])
      ⟨Acceptor.turn config codec start.processor, s.accepted,
        Function.update s.connections s.accepted (some ⟨start.addr,
          Connection.handleConnection utils router start.addr start.processor s.accepted⟩)⟩
      (.top start.processor) := by
  have hacceptors : acceptors (tr ++ [.acceptor s.accepted ⟨.spawn start, ()⟩]) =
      acceptors tr ++ [⟨.spawn start, ()⟩] := acceptors_snoc _ _
  have hown (number : ℕ) :
      own number (tr ++ [.acceptor s.accepted ⟨.spawn start, ()⟩]) = own number tr := by
    rw [own_snoc]
    exact List.append_nil _
  have houtcomes : Acceptor.outcomes (acceptors tr ++ [⟨.spawn start, ()⟩]) =
      Acceptor.outcomes (acceptors tr) ++ [some start] := Acceptor.outcomes_snoc _ _
  have haccepted : s.accepted = (Acceptor.outcomes (acceptors tr)).length + 1 := h.counted.symm
  refine ⟨rfl, ?_, ?_, ?_, ?_, fun index => ?_⟩
  · rw [hacceptors]
    exact h.acceptor.snoc (.started start)
  · rw [hacceptors, houtcomes, List.length_append, haccepted]
    rfl
  · rw [hacceptors, Acceptor.arrivals_snoc, List.length_append, h.arrived]
    rfl
  · have hzero : (0 : ℕ) ≠ s.accepted := by omega
    rw [hown]
    exact ⟨(Function.update_of_ne hzero ..).trans h.zero.1, h.zero.2⟩
  · show SpawnedAs utils router (index + 1) _ _ (Function.update s.connections _ _ (index + 1))
    rw [hacceptors, hown, houtcomes]
    have hspawned := h.spawned index
    by_cases heq : index = (Acceptor.outcomes (acceptors tr)).length
    · subst heq
      rw [List.getElem?_concat_length, haccepted, Function.update_self]
      rw [List.getElem?_eq_none le_rfl] at hspawned
      refine ⟨rfl, ?_⟩
      have hnothing : own ((Acceptor.outcomes (acceptors tr)).length + 1) tr = [] := by
        revert hspawned
        cases s.connections ((Acceptor.outcomes (acceptors tr)).length + 1) with
        | none => exact id
        | some connection => exact False.elim
      rw [hnothing]
      exact Run.nil
    · have hne : index + 1 ≠ s.accepted := by omega
      rw [Function.update_of_ne hne]
      have hsame : (Acceptor.outcomes (acceptors tr) ++ (some (some start)).toList)[index]? =
          (Acceptor.outcomes (acceptors tr))[index]? := getElem?_outcomes (.inl heq)
      rw [Option.toList_some] at hsame
      rw [hsame]
      exact hspawned

/-- A connection task goes on. -/
theorem Spawns.connection (h : Spawns config codec utils router processor tr s pt) {number : ℕ}
    {connection : ConnectionTask A P} {e : ServerEvent A P}
    {task : ServerM A P (ConnectionState P ⊕ Unit)}
    (running : s.connections number = some connection)
    (step : Connection.Step utils router connection.addr connection.task e task) :
    Spawns config codec utils router processor (tr ++ [.connection number e])
      ⟨s.acceptor, s.accepted,
        Function.update s.connections number (some ⟨connection.addr, task⟩)⟩ pt := by
  have hacceptors : acceptors (tr ++ [.connection number e]) = acceptors tr := by
    rw [acceptors_snoc]
    exact List.append_nil _
  have hown : own number (tr ++ [.connection number e]) = own number tr ++ [e] := by
    simp
  have hother {other : ℕ} (hne : other ≠ number) :
      own other (tr ++ [.connection number e]) = own other tr := by
    simp [hne.symm]
  have hzero : (0 : ℕ) ≠ number := by
    rintro rfl
    cases h.zero.1.symm.trans running
  refine ⟨h.point, ?_, ?_, ?_, ?_, fun index => ?_⟩
  · rw [hacceptors]
    exact h.acceptor
  · rw [hacceptors]
    exact h.counted
  · rw [hacceptors]
    exact h.arrived
  · rw [hother hzero]
    exact ⟨(Function.update_of_ne hzero ..).trans h.zero.1, h.zero.2⟩
  · show SpawnedAs utils router (index + 1) _ _ (Function.update s.connections _ _ (index + 1))
    rw [hacceptors]
    have hspawned := h.spawned index
    by_cases heq : index + 1 = number
    · subst heq
      rw [hown, Function.update_self]
      rw [running] at hspawned
      revert hspawned
      cases (Acceptor.outcomes (acceptors tr))[index]? with
      | none => exact False.elim
      | some outcome =>
          cases outcome with
          | none => exact False.elim
          | some start =>
              rintro ⟨haddr, hrun⟩
              exact ⟨haddr, hrun.snoc (haddr ▸ step)⟩
    · rw [hother heq, Function.update_of_ne heq]
      exact hspawned

theorem step_spawns (h : Spawns config codec utils router processor tr s pt)
    (step : Step config codec utils router s ev s') :
    ∃ next, Spawns config codec utils router processor (tr ++ [ev]) s' next := by
  cases step with
  | connection running step => exact ⟨pt, h.connection running step⟩
  | acceptor step =>
      rw [h.point] at step
      obtain ⟨next, hnext, rfl⟩ := Acceptor.next_of_step step
      refine ⟨next, ?_⟩
      by_cases hstarting : ∃ start, pt = .starting start
      · obtain ⟨start, rfl⟩ := hstarting
        cases hnext
        exact h.spawn
      · obtain ⟨hspawned, houtcome⟩ := spawnedBy_eq hnext (fun start heq => hstarting ⟨start, heq⟩)
          s.accepted s.connections
        exact h.acceptor_moves hnext hspawned houtcome

theorem exists_spawns
    (run : Run (Step config codec utils router) (start config codec processor) tr s) :
    ∃ pt, Spawns config codec utils router processor tr s pt := by
  refine run.invariant (I := fun tr s => ∃ pt, Spawns config codec utils router processor tr s pt)
    ⟨_, start_spawns⟩ ?_
  rintro tr s ev s' - ⟨pt, h⟩ step
  exact step_spawns h step

/-- **Every connection has its own task.**  However the acceptor and the connection
tasks take turns, the acceptor runs as it would alone, and so does the task of each
connection.  A connection has a task just if the acceptor has admitted it; the
task was started with the address and the traffic processor the acceptor had for
this connection.  Whoever was refused, or is still being set up, has none. -/
theorem run_spawns
    (run : Run (Step config codec utils router) (start config codec processor) tr s) :
    Run (Acceptor.Step config codec) (Acceptor.turn config codec processor) (acceptors tr)
        s.acceptor ∧
      s.accepted = (Acceptor.arrivals (acceptors tr)).length ∧
      (Acceptor.outcomes (acceptors tr)).length ≤ s.accepted ∧
      s.accepted ≤ (Acceptor.outcomes (acceptors tr)).length + 1 ∧
      ∀ index, SpawnedAs utils router (index + 1) (own (index + 1) tr)
        (Acceptor.outcomes (acceptors tr))[index]? (s.connections (index + 1)) := by
  obtain ⟨pt, h⟩ := exists_spawns run
  have hcounted := h.counted
  have hone := pending_le_one pt
  refine ⟨?_, h.arrived.symm, by omega, by omega, h.spawned⟩
  rw [h.point]
  exact Acceptor.run_of_points h.acceptor

section Isolated

variable {Snd Rcv : Type} {holder : Snd × Rcv} {tr : List (ServerStateEvent A S T C (Snd × Rcv))}
  {s : ServerState A S T C (Snd × Rcv)} {transformers : Hooks.Pair Snd Rcv Bytes}

end Isolated

/-- A connection task can go on alone. -/
theorem run_connection {s : ServerState A S T C P} {number : ℕ} {addr : SocketAddr}
    {before after : ServerM A P (ConnectionState P ⊕ Unit)} {events : List (ServerEvent A P)}
    (run : Run (Connection.Step utils router addr) before events after)
    (hrunning : s.connections number = some ⟨addr, before⟩) :
    Run (Step config codec utils router) s (events.map (.connection number))
      ⟨s.acceptor, s.accepted, Function.update s.connections number (some ⟨addr, after⟩)⟩ := by
  induction run with
  | nil =>
      rw [← hrunning, Function.update_eq_self]
      exact Run.nil
  | snoc _ step ih =>
      rw [List.map_append]
      have hnext := ih.snoc (.connection (Function.update_self ..) step)
      rwa [Function.update_idem] at hnext

/-! ## Two clients -/

section Example

open Reference

/-- The acceptor admits the connection after so many others. -/
def admitting (accepted : ℕ) : List (ServerStateEvent app Unit Unit Unit (Unit × Unit)) :=
  [.acceptor accepted ⟨.select, .accepted () ⟨0, accepted⟩⟩,
    .acceptor (accepted + 1) ⟨.initialSetup () (), ((), (), true)⟩,
    .acceptor (accepted + 1) ⟨.initialConnect ((), ()) (), (((), ()), (), true)⟩,
    .acceptor (accepted + 1) ⟨.initialFramedConnect ((), ()) ((), ()), (((), ()), ((), ()), true)⟩,
    .acceptor (accepted + 1) ⟨.spawn ⟨⟨0, accepted⟩, ((), ()), ((), ())⟩, ()⟩]

/-- The reply to a frame that is no packet. -/
def refusal : Bytes := errBytes ⟨.malformedMetaInfo none⟩

/-- The loop replies to such a frame, once it has been read. -/
def refusing (frame : Bytes) (channel : ℕ) : List (ServerEvent app (Unit × Unit)) :=
  [⟨.servePacket frame [], ()⟩, ⟨.postProcess ((), ()) refusal, (((), ()), refusal)⟩,
    ⟨.send refusal, .ok ()⟩, ⟨.tryRecv channel, none⟩]

/-- The first client sends a frame before the second one is admitted, the second one
before that frame has been processed.  The first one is replied to. -/
def twoAdmitted : List (ServerStateEvent app Unit Unit Unit (Unit × Unit)) :=
  admitting 0 ++ [.connection 1 ⟨.next, some (.ok [9])⟩] ++ admitting 1 ++
    [.connection 2 ⟨.next, some (.ok [8])⟩,
      .connection 1 ⟨.preProcess ((), ()) [9], (((), ()), [9])⟩] ++
    (refusing [9] 1).map (.connection 1)

theorem admitting_run {s : ServerState app Unit Unit Unit (Unit × Unit)}
    (htop : s.acceptor = (Acceptor.Point.top ((), ())).task ⟨id, false, .tcp⟩ ()) :
    Run (Step ⟨id, false, .tcp⟩ () Reference.utils Reference.router) s (admitting s.accepted)
      ⟨(Acceptor.Point.top ((), ())).task ⟨id, false, .tcp⟩ (), s.accepted + 1,
        Function.update s.connections (s.accepted + 1) (some ⟨⟨0, s.accepted⟩,
          Connection.handleConnection Reference.utils Reference.router ⟨0, s.accepted⟩ ((), ())
            (s.accepted + 1)⟩)⟩ := by
  obtain ⟨acceptor, accepted, connections⟩ := s
  subst htop
  exact Run.cons (.acceptor (Acceptor.step_of_next (.accepted _ _ _))) <|
    Run.cons (.acceptor (Acceptor.step_of_next (.setUp _ _ _ _ _))) <|
    Run.cons (.acceptor (Acceptor.step_of_next (.connected _ _ _ _ _ _))) <|
    Run.cons (.acceptor (Acceptor.step_of_next (.framed _ _ _ _ _))) <|
    Run.cons (.acceptor (Acceptor.step_of_next (.started _))) Run.nil

theorem refusing_run (addr : SocketAddr) (channel : ℕ) :
    Run (Connection.Next Reference.utils Reference.router addr)
      (.calling (Connection.initial ((), ()) channel) [9] []) (refusing [9] channel)
      (.top (Connection.initial ((), ()) channel)) :=
  Run.cons (.called _ _ _) <| Run.cons (.processed _ _ _ _) <| Run.cons (.sent _ _ _) <|
    Run.cons (.again _ rfl) Run.nil

theorem twoAdmitted_run : ∃ s, Run (Step ⟨id, false, .tcp⟩ () Reference.utils Reference.router)
    (start ⟨id, false, .tcp⟩ () ((), ())) twoAdmitted s := by
  refine ⟨_, Run.append (Run.append (Run.append (Run.append (admitting_run rfl) (Run.single
    (.connection rfl (Connection.step_of_next (.metaFrame _ _))))) (admitting_run rfl)) (Run.cons
    (.connection rfl (Connection.step_of_next (.metaFrame _ _))) (Run.single (.connection rfl
    (Connection.step_of_next (.alone _ _ _ _ rfl)))))) (run_connection
    (Connection.run_of_points (refusing_run ⟨0, 0⟩ 1)) rfl)⟩

/-- What the first connection was started with. -/
def firstStart : Start Unit Unit (Unit × Unit) := ⟨⟨0, 0⟩, ((), ()), ((), ())⟩

theorem run_spawns_twoAdmitted : ∃ s,
    Run (Step ⟨id, false, .tcp⟩ () Reference.utils Reference.router)
      (start ⟨id, false, .tcp⟩ () ((), ())) twoAdmitted s ∧
      s.accepted = 2 ∧
      SpawnedAs Reference.utils Reference.router 1 (own 1 twoAdmitted) (some (some firstStart))
        (s.connections 1) := by
  obtain ⟨s, run⟩ := twoAdmitted_run
  obtain ⟨-, haccepted, -, -, hspawned⟩ := run_spawns run
  exact ⟨s, run, haccepted, hspawned 0⟩

end Example

end TfServer

end FourthServer
