import FourthServer.Model.Protocol

/-!
# The acceptor task

`start` spawns a task that waits in `select!` for a connection or for the stop
signal.  It sets up each connection it accepts before it waits again: TLS and
WebSocket handshakes, the codec's `initial_setup`, and the two hooks of the
traffic processor, which are called on the task's own holder.  A connection
that passes all of them gets a task of its own, with a clone of the holder.

`S`, `T`, `C` and `P` stand for `TcpStream`, `Transport`, the codec and
`TrafficProcessorHolder`.  `warn` is a marker for the log line of a refusal; it
makes refusals visible in a history.
-/

namespace FourthServer

open Resumption

inductive ServerMode
  /-- Plain TCP or TLS. -/
  | tcp
  /-- WebSocket upgrade over plain TCP or TLS. -/
  | webSocket
  deriving DecidableEq, Repr

/-- What an acceptor is configured with: `Transport::plain`, whether there is a
TLS configuration, and the mode. -/
structure AcceptorConfig (S T : Type) where
  plain : S → T
  tls : Bool
  mode : ServerMode

/-- The branch that `select!` takes. -/
inductive Selected (S : Type)
  | accepted (stream : S) (addr : SocketAddr)
  | failed (kind : ErrorKind)
  | notified

/-- The arguments of `handle_connection` for a new connection. -/
structure Start (T C P : Type) where
  addr : SocketAddr
  framed : T × C
  processor : P
  deriving DecidableEq, Repr

/-- The log lines of the acceptor. -/
inductive AcceptorWarning
  | tlsHandshake (error : String)
  | webSocketHandshake (error : String)
  | codecRejected
  | processorRejected (addr : SocketAddr)
  | framedRejected (addr : SocketAddr)
  | acceptError (kind : ErrorKind)
  deriving DecidableEq, Repr

/-- The operations of an acceptor task. -/
inductive AcceptorOp (S T C P : Type)
  | select
  | tlsAccept (stream : S)
  | acceptWebsocket (transport : T)
  | initialSetup (codec : C) (transport : T)
  | initialConnect (processor : P) (transport : T)
  | initialFramedConnect (processor : P) (framed : T × C)
  | shutdown (transport : T)
  | spawn (start : Start T C P)
  | warn (warning : AcceptorWarning)

/-- The answers of the operations of an acceptor task; a hook gives back what it
was called on, and whether it accepts. -/
def AcceptorOp.Ans {S T C P : Type} : AcceptorOp S T C P → Type
  | .select => Selected S
  | .tlsAccept _ => Except String T
  | .acceptWebsocket _ => Except String T
  | .initialSetup _ _ => C × T × Bool
  | .initialConnect _ _ => P × T × Bool
  | .initialFramedConnect _ _ => P × (T × C) × Bool
  | .shutdown _ => Except ErrorKind Unit
  | .spawn _ => Unit
  | .warn _ => Unit

abbrev AcceptorFx (S T C P : Type) : Effects := ⟨AcceptorOp S T C P, AcceptorOp.Ans⟩

abbrev AcceptorEvent (S T C P : Type) := Event (AcceptorFx S T C P)

/-- An acceptor task with result `α`. -/
abbrev AcceptorM (S T C P α : Type) := Prog (AcceptorFx S T C P) α

namespace AcceptorM

variable {S T C P : Type}

def select : AcceptorM S T C P (Selected S) :=
  .op .select .ret

def tlsAccept (stream : S) : AcceptorM S T C P (Except String T) :=
  .op (.tlsAccept stream) .ret

def acceptWebsocket (transport : T) : AcceptorM S T C P (Except String T) :=
  .op (.acceptWebsocket transport) .ret

def initialSetup (codec : C) (transport : T) : AcceptorM S T C P (C × T × Bool) :=
  .op (.initialSetup codec transport) .ret

def initialConnect (processor : P) (transport : T) : AcceptorM S T C P (P × T × Bool) :=
  .op (.initialConnect processor transport) .ret

def initialFramedConnect (processor : P) (framed : T × C) :
    AcceptorM S T C P (P × (T × C) × Bool) :=
  .op (.initialFramedConnect processor framed) .ret

def shutdown (transport : T) : AcceptorM S T C P (Except ErrorKind Unit) :=
  .op (.shutdown transport) .ret

def spawn (start : Start T C P) : AcceptorM S T C P Unit :=
  .op (.spawn start) .ret

def warn (warning : AcceptorWarning) : AcceptorM S T C P Unit :=
  .op (.warn warning) .ret

end AcceptorM

namespace Acceptor

variable {S T C P : Type} (config : AcceptorConfig S T) (codec : C)

/-- From the finished handshakes of `initial_accept` on. -/
def afterHandshakes (codecSetup : C) (transport : T) : AcceptorM S T C P (Option (T × C)) := do
  let (codecSetup, transport, accepted) ← AcceptorM.initialSetup codecSetup transport
  if accepted then return some (transport, codecSetup)
  else do
    AcceptorM.warn .codecRejected
    return none

/-- From the WebSocket handshake of `initial_accept` on. -/
def afterWebsocket (codecSetup : C) :
    Except String T → AcceptorM S T C P (Option (T × C))
  | .error error => do
    AcceptorM.warn (.webSocketHandshake error)
    return none
  | .ok transport => afterHandshakes codecSetup transport

/-- From the transport of `initial_accept` on. -/
def afterTransport (codecSetup : C) (transport : T) : AcceptorM S T C P (Option (T × C)) :=
  match config.mode with
  | .tcp => afterHandshakes codecSetup transport
  | .webSocket => do
    let transport ← AcceptorM.acceptWebsocket transport
    afterWebsocket codecSetup transport

/-- From the TLS handshake of `initial_accept` on. -/
def afterTls (codecSetup : C) : Except String T → AcceptorM S T C P (Option (T × C))
  | .error error => do
    AcceptorM.warn (.tlsHandshake error)
    return none
  | .ok transport => afterTransport config codecSetup transport

/-- `initial_accept`. -/
def initialAccept (stream : S) (codecSetup : C) : AcceptorM S T C P (Option (T × C)) :=
  if config.tls then do
    let transport ← AcceptorM.tlsAccept stream
    afterTls config codecSetup transport
  else afterTransport config codecSetup (config.plain stream)

/-- From the result of `initial_framed_connect` on. -/
def afterFramedConnect (addr : SocketAddr) (processor : P) (framed : T × C) :
    Bool → AcceptorM S T C P (P ⊕ Unit)
  | true => do
    AcceptorM.spawn ⟨addr, framed, processor⟩
    return .inl processor
  | false => do
    AcceptorM.warn (.framedRejected addr)
    return .inl processor

/-- From the result of `initial_connect` on. -/
def afterConnect (addr : SocketAddr) (processor : P) (transport : T) (codec : C) :
    Bool → AcceptorM S T C P (P ⊕ Unit)
  | true => do
    let (processor, framed, accepted) ←
      AcceptorM.initialFramedConnect processor (transport, codec)
    afterFramedConnect addr processor framed accepted
  | false => do
    AcceptorM.warn (.processorRejected addr)
    let _ ← AcceptorM.shutdown transport
    return .inl processor

/-- From the result of `initial_accept` on. -/
def afterAccept (processor : P) (addr : SocketAddr) :
    Option (T × C) → AcceptorM S T C P (P ⊕ Unit)
  | none => return .inl processor
  | some (transport, codec) => do
    let (processor, transport, accepted) ← AcceptorM.initialConnect processor transport
    afterConnect addr processor transport codec accepted

/-- From the branch that `select!` takes on; each connection gets a clone of the
codec, and the holder is the task's own. -/
def afterSelect (processor : P) : Selected S → AcceptorM S T C P (P ⊕ Unit)
  | .accepted stream addr => do
    let transport ← initialAccept config stream codec
    afterAccept processor addr transport
  | .failed kind => do
    AcceptorM.warn (.acceptError kind)
    return .inl processor
  | .notified => return .inr ()

/-- One pass of the loop of the acceptor task. -/
def turn (processor : P) : AcceptorM S T C P (P ⊕ Unit) := do
  let selected ← AcceptorM.select
  afterSelect config codec processor selected

/-- The steps of an acceptor task. -/
def Step : AcceptorM S T C P (P ⊕ Unit) → AcceptorEvent S T C P →
    AcceptorM S T C P (P ⊕ Unit) → Prop :=
  LoopStep (turn config codec)

end Acceptor

end FourthServer
