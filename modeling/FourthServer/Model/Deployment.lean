import FourthServer.Model.Lifetime
import FourthServer.Model.Server

/-!
# A server object with all its tasks

A `Deployment` is a server object with the acceptors that its calls of `start` have
spawned and the connection tasks that these have spawned in turn.  The acceptors
share the listener of the object and its stop signal, as they do in a `Lifetime`.
Each of them numbers its connections from 1 on, as it does in a `ServerState`.
-/

namespace FourthServer

open Resumption

structure Deployment (A : App) (S T C P : Type) where
  lifetime : Lifetime S T C P
  /-- The number of connections that each acceptor has accepted. -/
  accepted : ℕ → ℕ
  /-- The connection tasks of each acceptor. -/
  connections : ℕ → ℕ → Option (ConnectionTask A P)

/-- The steps of an acceptor carry the number of the connection it has accepted
last, those of the rest of the object the number 0. -/
inductive DeploymentEvent (A : App) (S T C P : Type)
  | lifetime (number : ℕ) (ev : LifetimeEvent S T C P)
  | connection (index number : ℕ) (e : ServerEvent A P)

namespace Deployment

variable {A : App} {S T C P : Type} (config : AcceptorConfig S T) (codec : C) (utils : Utils A)
  (router : TfServerRouter A) (fresh : P)

/-- The object that `new` has made, before `start` is called. -/
def new (processor : Option P) : Deployment A S T C P where
  lifetime := Lifetime.new processor
  accepted _ := 0
  connections _ _ := none

/-- The connection that an acceptor has accepted last. -/
def latest (s : Deployment A S T C P) : LifetimeEvent S T C P → ℕ
  | .acceptor index _ => s.accepted index
  | _ => 0

/-- After an event of the object: its acceptor, if it is one of an acceptor, counts the
connection it has accepted, and has spawned the task it spawns. -/
def resumed (s : Deployment A S T C P) (ev : LifetimeEvent S T C P) (after : Lifetime S T C P) :
    Deployment A S T C P where
  lifetime := after
  accepted index := s.accepted index + (Lifetime.own? index ev).elim 0 TfServer.acceptedBy
  connections index := (Lifetime.own? index ev).elim (s.connections index)
    (TfServer.spawnedBy utils router (s.accepted index) (s.connections index))

/-- A connection task has gone on. -/
def setTask (s : Deployment A S T C P) (index number : ℕ) (connection : ConnectionTask A P) :
    Deployment A S T C P :=
  { s with
    connections := Function.update s.connections index
      (Function.update (s.connections index) number (some connection)) }

section Effects

variable {utils router} (s : Deployment A S T C P) (ev : LifetimeEvent S T C P)
  (after : Lifetime S T C P) (index number : ℕ) (connection : ConnectionTask A P)

@[simp] theorem resumed_accepted : (s.resumed utils router ev after).accepted index =
    s.accepted index + (Lifetime.own? index ev).elim 0 TfServer.acceptedBy := rfl

@[simp] theorem resumed_connections : (s.resumed utils router ev after).connections index =
    (Lifetime.own? index ev).elim (s.connections index)
      (TfServer.spawnedBy utils router (s.accepted index) (s.connections index)) := rfl

@[simp] theorem setTask_lifetime : (s.setTask index number connection).lifetime = s.lifetime := rfl

@[simp] theorem setTask_accepted : (s.setTask index number connection).accepted = s.accepted := rfl

@[simp] theorem setTask_connections : (s.setTask index number connection).connections index =
    Function.update (s.connections index) number (some connection) :=
  Function.update_self ..

theorem setTask_connections_of_ne {other : ℕ} (hne : other ≠ index) :
    (s.setTask index number connection).connections other = s.connections other :=
  Function.update_of_ne hne ..

end Effects

/-- The steps of a server object with all its tasks. -/
inductive Step : Deployment A S T C P → DeploymentEvent A S T C P → Deployment A S T C P → Prop
  | lifetime {s : Deployment A S T C P} {number : ℕ} {ev : LifetimeEvent S T C P}
      {after : Lifetime S T C P} (hnumber : s.latest ev = number)
      (step : Lifetime.Step config codec fresh s.lifetime ev after) :
      Step s (.lifetime number ev) (s.resumed utils router ev after)
  | connection {s : Deployment A S T C P} {index number : ℕ} {connection : ConnectionTask A P}
      {e : ServerEvent A P} {task : ServerM A P (ConnectionState P ⊕ Unit)}
      (running : s.connections index number = some connection)
      (step : Connection.Step utils router connection.addr connection.task e task) :
      Step s (.connection index number e) (s.setTask index number ⟨connection.addr, task⟩)

end Deployment

end FourthServer
