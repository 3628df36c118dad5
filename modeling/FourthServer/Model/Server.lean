import FourthServer.Model.Acceptor
import FourthServer.Model.Connection
import Mathlib.Logic.Function.Basic

/-!
# The server

The acceptor task that `TfServer::start` spawns, together with the connection
tasks that it spawns in turn.  Connections are numbered in the order in which
they are accepted, from 1 on; the acceptor's steps carry the number of the
connection that was accepted last, which is the one it sets up.  The channel
that `handle_connection` makes for a connection is named by the connection's
number.
-/

namespace FourthServer

open Resumption

/-- A task of `handle_connection`. -/
structure ConnectionTask (A : App) (P : Type) where
  addr : SocketAddr
  task : ServerM A P (ConnectionState P ⊕ Unit)

/-- The acceptor task, the number of connections it has accepted, and the
connection tasks. -/
structure ServerState (A : App) (S T C P : Type) where
  acceptor : AcceptorM S T C P (P ⊕ Unit)
  accepted : ℕ
  connections : ℕ → Option (ConnectionTask A P)

inductive ServerStateEvent (A : App) (S T C P : Type)
  | acceptor (number : ℕ) (e : AcceptorEvent S T C P)
  | connection (number : ℕ) (e : ServerEvent A P)

namespace TfServer

variable {A : App} {S T C P : Type} (config : AcceptorConfig S T) (codec : C) (utils : Utils A)
  (router : TfServerRouter A)

/-- The number of connections accepted with an event. -/
@[simp] def acceptedBy : AcceptorEvent S T C P → ℕ
  | ⟨.select, .accepted _ _⟩ => 1
  | _ => 0

/-- The connection tasks after an event of the acceptor. -/
@[simp] def spawnedBy (number : ℕ) (connections : ℕ → Option (ConnectionTask A P)) :
    AcceptorEvent S T C P → ℕ → Option (ConnectionTask A P)
  | ⟨.spawn start, _⟩ =>
    Function.update connections number
      (some ⟨start.addr,
        Connection.handleConnection utils router start.addr start.processor number⟩)
  | _ => connections

/-- The server when `start` has spawned its acceptor. -/
def start (processor : P) : ServerState A S T C P where
  acceptor := Acceptor.turn config codec processor
  accepted := 0
  connections := fun _ => none

/-- The steps of a server. -/
inductive Step :
    ServerState A S T C P → ServerStateEvent A S T C P → ServerState A S T C P → Prop
  | acceptor {s : ServerState A S T C P} {e : AcceptorEvent S T C P}
      {task : AcceptorM S T C P (P ⊕ Unit)} (step : Acceptor.Step config codec s.acceptor e task) :
      Step s (.acceptor s.accepted e)
        ⟨task, s.accepted + acceptedBy e, spawnedBy utils router s.accepted s.connections e⟩
  | connection {s : ServerState A S T C P} {number : ℕ} {connection : ConnectionTask A P}
      {e : ServerEvent A P} {task : ServerM A P (ConnectionState P ⊕ Unit)}
      (running : s.connections number = some connection)
      (step : Connection.Step utils router connection.addr connection.task e task) :
      Step s (.connection number e)
        ⟨s.acceptor, s.accepted,
          Function.update s.connections number (some ⟨connection.addr, task⟩)⟩

end TfServer

end FourthServer
