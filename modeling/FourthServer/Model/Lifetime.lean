import FourthServer.Model.Listener

/-!
# The server object

`new` binds a listener and keeps the traffic processor.  Each call of `start`
spawns an acceptor that listens on the same socket and waits for the same stop
signal; it takes the processor out of the object, or makes an empty one if there is
none any more.  `send_stop` wakes whoever waits at that moment.  A `Lifetime` is
the object together with the acceptors it has spawned, each of which goes on as it
does alone (`Acceptor.WorldStep`).
-/

namespace FourthServer

open Resumption

/-- `TfServer`, of its fields those that change: the connections that wait at
`socket`, and `processor`. -/
structure TfServer (S P : Type) where
  socket : List (Arrival S)
  processor : Option P

/-- An acceptor without its listener. -/
structure AcceptorTask (S T C P : Type) where
  task : AcceptorM S T C P (P ⊕ Unit)
  notified : Option Bool
  current : Option ℕ

/-- An acceptor at its listener. -/
def AcceptorTask.listening {S T C P : Type} (acceptor : AcceptorTask S T C P)
    (socket : List (Arrival S)) : World S T C P :=
  ⟨acceptor.task, socket, acceptor.notified, acceptor.current⟩

def World.acceptor {S T C P : Type} (w : World S T C P) : AcceptorTask S T C P :=
  ⟨w.task, w.notified, w.current⟩

/-- A server object and the acceptors its calls of `start` have spawned, in this
order. -/
structure Lifetime (S T C P : Type) where
  server : TfServer S P
  acceptors : List (AcceptorTask S T C P)

inductive LifetimeEvent (S T C P : Type)
  /-- `start` is called. -/
  | start
  /-- `send_stop` is called. -/
  | stop
  /-- A client connects. -/
  | arrive (arrival : Arrival S)
  /-- An acceptor goes on. -/
  | acceptor (index : ℕ) (ev : WorldEvent S T C P)

/-- What an acceptor takes part in. -/
@[simp] def WorldEvent.ofAcceptor {S T C P : Type} : WorldEvent S T C P → Bool
  | .arrive _ => false
  | .stop => false
  | .enter => true
  | .take _ => true
  | .fail _ => true
  | .leave => true
  | .client _ _ => true
  | .server _ => true

namespace Lifetime

variable {S T C P : Type} (config : AcceptorConfig S T) (codec : C) (fresh : P)

/-- The object that `new` has made. -/
def new (processor : Option P) : Lifetime S T C P where
  server := ⟨[], processor⟩
  acceptors := []

/-- `self.processor.take()`, or `TrafficProcessorHolder::new()`, which is `fresh`. -/
def takeProcessor (server : TfServer S P) : P × TfServer S P :=
  match server.processor with
  | some processor => (processor, { server with processor := none })
  | none => (fresh, server)

/-- `start`. -/
def start (s : Lifetime S T C P) : Lifetime S T C P :=
  let (processor, server) := takeProcessor fresh s.server
  ⟨server, s.acceptors ++ [⟨Acceptor.turn config codec processor, none, none⟩]⟩

/-- `send_stop`. -/
def sendStop (s : Lifetime S T C P) : Lifetime S T C P :=
  { s with acceptors := s.acceptors.map fun acceptor =>
      { acceptor with notified := acceptor.notified.map fun _ => true } }

/-- The steps of a server object with its acceptors. -/
inductive Step : Lifetime S T C P → LifetimeEvent S T C P → Lifetime S T C P → Prop
  | start (s : Lifetime S T C P) : Step s .start (s.start config codec fresh)
  | stop (s : Lifetime S T C P) : Step s .stop s.sendStop
  | arrive (s : Lifetime S T C P) (arrival : Arrival S) :
      Step s (.arrive arrival)
        { s with server := { s.server with socket := s.server.socket ++ [arrival] } }
  | acceptor {s : Lifetime S T C P} {index : ℕ} {acceptor : AcceptorTask S T C P}
      {ev : WorldEvent S T C P} {w : World S T C P} (running : s.acceptors[index]? = some acceptor)
      (own : ev.ofAcceptor = true)
      (step : Acceptor.WorldStep config codec (acceptor.listening s.server.socket) ev w) :
      Step s (.acceptor index ev)
        ⟨{ s.server with socket := w.backlog }, s.acceptors.set index w.acceptor⟩

/-- What an acceptor sees of an event. -/
@[simp] def own? (index : ℕ) : LifetimeEvent S T C P → Option (AcceptorEvent S T C P)
  | .acceptor other ev => if other = index then ev.acceptor? else none
  | _ => none

end Lifetime

end FourthServer
