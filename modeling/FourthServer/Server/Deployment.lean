import FourthServer.Acceptor.Lifetime
import FourthServer.Model.Deployment

/-!
# Each start of a server object

Whatever the other tasks of a server object do, the acceptor of one call of `start`,
with its connections, is a run of the server that this call has started
(`run_server`).  The acceptor of the first call has the traffic processor that was
given to `new`, the other ones have an empty one (`Lifetime.holderOf`).
-/

namespace FourthServer

open Resumption Trace

namespace Lifetime

open Acceptor

variable {S T C P : Type} {config : AcceptorConfig S T} {codec : C} {fresh : P} {given : Option P}
  {tr : List (LifetimeEvent S T C P)} {s s' : Lifetime S T C P} {ev : LifetimeEvent S T C P}
  {index : ℕ}

/-- What an event of its world does to an acceptor. -/
theorem step_task {w w' : World S T C P} {ev : WorldEvent S T C P}
    (step : WorldStep config codec w ev w') :
    (ev.acceptor? = none ∧ w'.task = w.task) ∨
      ∃ e, ev.acceptor? = some e ∧ Acceptor.Step config codec w.task e w'.task := by
  cases step with
  | arrive | stop | enter => exact .inl ⟨rfl, rfl⟩
  | take _ _ hstep | fail _ hstep | leave _ hstep => exact .inr ⟨_, rfl, hstep⟩
  | client _ _ hstep | server _ hstep => exact .inr ⟨_, rfl, hstep⟩

/-- An acceptor that has not been spawned sees nothing. -/
theorem step_unborn (step : Step config codec fresh s ev s')
    (hnone : s'.acceptors[index]? = none) :
    s.acceptors[index]? = none ∧ own? index ev = none := by
  cases step with
  | start =>
      refine ⟨List.getElem?_eq_none ?_, rfl⟩
      have hlength : s.acceptors.length + 1 ≤ index := by
        simpa [Lifetime.start] using hnone
      omega
  | stop => exact ⟨by simpa [sendStop] using hnone, rfl⟩
  | arrive => exact ⟨hnone, rfl⟩
  | @acceptor other acceptor ev w running =>
      have hbefore : s.acceptors[index]? = none := by simpa using hnone
      refine ⟨hbefore, if_neg ?_⟩
      rintro rfl
      rw [hbefore] at running
      cases running

/-- An acceptor has just been spawned, or it stays where it is, or it goes on. -/
theorem Shared.step_spawned (h : Shared config codec fresh given tr s)
    (step : Step config codec fresh s ev s') {after : AcceptorTask S T C P}
    (hafter : s'.acceptors[index]? = some after) :
    (s.acceptors[index]? = none ∧ own? index ev = none ∧
      after.task = turn config codec (holderOf fresh given index)) ∨
    ∃ before, s.acceptors[index]? = some before ∧
      ((own? index ev = none ∧ after.task = before.task) ∨
        ∃ e, own? index ev = some e ∧ Acceptor.Step config codec before.task e after.task) := by
  cases step with
  | start =>
      rw [Lifetime.start, takeProcessor_eq h] at hafter
      rcases lt_trichotomy index s.acceptors.length with hlt | rfl | hgt
      · rw [List.getElem?_append_left hlt] at hafter
        exact .inr ⟨after, hafter, .inl ⟨rfl, rfl⟩⟩
      · rw [List.getElem?_concat_length] at hafter
        cases hafter
        exact .inl ⟨List.getElem?_eq_none le_rfl, rfl, rfl⟩
      · rw [List.getElem?_eq_none (by simp; omega)] at hafter
        cases hafter
  | stop =>
      rw [sendStop, List.getElem?_map, Option.map_eq_some_iff] at hafter
      obtain ⟨before, hbefore, rfl⟩ := hafter
      exact .inr ⟨before, hbefore, .inl ⟨rfl, rfl⟩⟩
  | arrive => exact .inr ⟨after, hafter, .inl ⟨rfl, rfl⟩⟩
  | @acceptor other acceptor ev w running hown step =>
      right
      by_cases heq : other = index
      · subst heq
        rw [List.getElem?_set_self (List.getElem?_eq_some_iff.mp running).1] at hafter
        cases hafter
        refine ⟨acceptor, running, ?_⟩
        rw [own?, if_pos rfl]
        exact step_task step
      · rw [List.getElem?_set_ne heq] at hafter
        exact ⟨after, hafter, .inl ⟨if_neg heq, rfl⟩⟩

end Lifetime

namespace Deployment

open Lifetime (holderOf Shared)

variable {A : App} {S T C P : Type} {config : AcceptorConfig S T} {codec : C} {utils : Utils A}
  {router : TfServerRouter A} {fresh : P} {given : Option P} {index : ℕ}
  {tr : List (DeploymentEvent A S T C P)} {s s' : Deployment A S T C P}
  {ev : DeploymentEvent A S T C P} {server : ServerState A S T C P}

/-! ## Reading a history -/

@[simp] def lifetime? : DeploymentEvent A S T C P → Option (LifetimeEvent S T C P)
  | .lifetime _ ev => some ev
  | .connection _ _ _ => none

/-- The history of the object and its acceptors. -/
def lifetimes (tr : List (DeploymentEvent A S T C P)) : List (LifetimeEvent S T C P) :=
  tr.filterMap lifetime?

@[simp] def own? (index : ℕ) : DeploymentEvent A S T C P → Option (ServerStateEvent A S T C P)
  | .lifetime number ev => (Lifetime.own? index ev).map (.acceptor number)
  | .connection other number e => if other = index then some (.connection number e) else none

/-- The history of an acceptor and its connections. -/
def own (index : ℕ) (tr : List (DeploymentEvent A S T C P)) : List (ServerStateEvent A S T C P) :=
  tr.filterMap (own? index)

/-- The acceptor of a call of `start` with its connections. -/
def server? (s : Deployment A S T C P) (index : ℕ) : Option (ServerState A S T C P) :=
  s.lifetime.acceptors[index]?.map fun acceptor =>
    ⟨acceptor.task, s.accepted index, s.connections index⟩

@[simp] theorem lifetimes_snoc : lifetimes (tr ++ [ev]) = lifetimes tr ++ (lifetime? ev).toList :=
  filterMap_snoc _ tr ev

@[simp] theorem own_snoc : own index (tr ++ [ev]) = own index tr ++ (own? index ev).toList :=
  filterMap_snoc _ tr ev

/-! ## The calls of `start` -/

/-- What holds of a server object with its tasks: each acceptor with its connections
is a run of the server that its call of `start` has started. -/
structure Joined (config : AcceptorConfig S T) (codec : C) (utils : Utils A)
    (router : TfServerRouter A) (fresh : P) (given : Option P)
    (tr : List (DeploymentEvent A S T C P)) (s : Deployment A S T C P) : Prop where
  shared : Shared config codec fresh given (lifetimes tr) s.lifetime
  spawned : ∀ index server, s.server? index = some server →
    Run (TfServer.Step config codec utils router)
      (TfServer.start config codec (holderOf fresh given index)) (own index tr) server
  unborn : ∀ index, s.lifetime.acceptors[index]? = none →
    own index tr = [] ∧ s.accepted index = 0 ∧ s.connections index = fun _ => none

theorem new_joined :
    Joined config codec utils router fresh given ([] : List (DeploymentEvent A S T C P))
      (new given) where
  shared := Lifetime.new_shared
  spawned _ _ h := by cases h
  unborn _ _ := ⟨rfl, rfl, rfl⟩

/-- An acceptor goes on, or something happens to the object: only an event of an
acceptor is one for its server. -/
theorem Joined.lifetime (h : Joined config codec utils router fresh given tr s)
    {ev : LifetimeEvent S T C P} {after : Lifetime S T C P}
    (step : Lifetime.Step config codec fresh s.lifetime ev after) :
    Joined config codec utils router fresh given (tr ++ [.lifetime (s.latest ev) ev])
      (s.resumed utils router ev after) := by
  refine ⟨?_, fun index server hserver => ?_, fun index hnone => ?_⟩
  · rw [lifetimes_snoc]
    exact Lifetime.step_shared h.shared step
  · obtain ⟨acceptor, hacceptor, rfl⟩ := Option.map_eq_some_iff.mp hserver
    rw [own_snoc]
    rcases h.shared.step_spawned step hacceptor with
      ⟨hnone, hown, htask⟩ | ⟨before, hbefore, hmove⟩
    · obtain ⟨hempty, haccepted, hconnections⟩ := h.unborn index hnone
      simp only [own?, hown, htask, hempty, resumed_accepted, resumed_connections, haccepted,
        hconnections]
      exact Run.nil
    · have hrun := h.spawned index _ (Option.map_eq_some_iff.mpr ⟨before, hbefore, rfl⟩)
      rcases hmove with ⟨hown, htask⟩ | ⟨e, hown, hstep⟩
      · simp only [own?, hown, htask, resumed_accepted, resumed_connections, Option.map_none,
          Option.toList_none, List.append_nil]
        exact hrun
      · have hlatest : s.latest ev = s.accepted index := by
          cases ev with
          | acceptor other ev =>
              by_cases heq : other = index
              · rw [← heq]
                rfl
              · simp [heq] at hown
          | _ => cases hown
        simp only [own?, hown, hlatest, resumed_accepted, resumed_connections]
        exact hrun.snoc (.acceptor hstep)
  · obtain ⟨hbefore, hown⟩ := Lifetime.step_unborn step hnone
    rw [own_snoc]
    simp only [own?, hown, resumed_accepted, resumed_connections, Option.map_none,
      Option.toList_none, List.append_nil]
    exact h.unborn index hbefore

/-- A connection task goes on. -/
theorem Joined.connection (h : Joined config codec utils router fresh given tr s) {number : ℕ}
    {connection : ConnectionTask A P} {e : ServerEvent A P}
    {task : ServerM A P (ConnectionState P ⊕ Unit)}
    (running : s.connections index number = some connection)
    (step : Connection.Step utils router connection.addr connection.task e task) :
    Joined config codec utils router fresh given (tr ++ [.connection index number e])
      (s.setTask index number ⟨connection.addr, task⟩) := by
  refine ⟨by simpa using h.shared, fun other server hserver => ?_, fun other hnone => ?_⟩
  · obtain ⟨acceptor, hacceptor, rfl⟩ := Option.map_eq_some_iff.mp hserver
    have hrun := h.spawned other _ (Option.map_eq_some_iff.mpr ⟨acceptor, hacceptor, rfl⟩)
    rw [own_snoc]
    by_cases heq : index = other
    · subst heq
      simp only [own?, if_pos, setTask_accepted, setTask_connections]
      exact hrun.snoc (.connection running step)
    · simpa [heq, setTask_connections_of_ne s index number _ (Ne.symm heq)] using hrun
  · obtain ⟨hempty, haccepted, hconnections⟩ := h.unborn other hnone
    have hne : index ≠ other := by
      rintro rfl
      rw [hconnections] at running
      cases running
    simpa [hne, setTask_connections_of_ne s index number _ hne.symm] using
      ⟨hempty, haccepted, hconnections⟩

theorem step_joined (h : Joined config codec utils router fresh given tr s)
    (step : Step config codec utils router fresh s ev s') :
    Joined config codec utils router fresh given (tr ++ [ev]) s' := by
  cases step with
  | lifetime hnumber step => exact hnumber ▸ h.lifetime step
  | connection running step => exact h.connection running step

theorem run_joined (run : Run (Step config codec utils router fresh) (new given) tr s) :
    Joined config codec utils router fresh given tr s :=
  run.invariant (I := Joined config codec utils router fresh given) new_joined
    fun _ _ _ _ _ h step => step_joined h step

/-- **Each start alone.**  The acceptor of a call of `start` does with its
connections what it does without the rest of the object. -/
theorem run_server (run : Run (Step config codec utils router fresh) (new given) tr s)
    (hserver : s.server? index = some server) :
    Run (TfServer.Step config codec utils router)
      (TfServer.start config codec (holderOf fresh given index)) (own index tr) server :=
  (run_joined run).spawned index server hserver

/-- Before `start` is called for it, an acceptor and its connections do nothing. -/
theorem own_eq_nil (run : Run (Step config codec utils router fresh) (new given) tr s)
    (hserver : s.server? index = none) : own index tr = [] :=
  ((run_joined run).unborn index (Option.map_eq_none_iff.mp hserver)).1

end Deployment

end FourthServer
