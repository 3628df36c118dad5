import FourthServer.Model.Protocol

/-!
# Handlers, and the effects of a server task

A route binds a state to a `ServeFn`.  Calling one, like every other await of
the server task, is an operation of `ServerOp`: the task suspends there and the
surroundings answer.  `ServeOutcome` lists what a call to user code can come to,
including the two ways it can panic, which `serve_packet` treats differently.

`servePacket` is the one operation without an effect: it marks the place where
`handle_connection` calls `serve_packet`, so that a history shows the call.
-/

namespace FourthServer

open Resumption

/-- The sending half of a oneshot channel, named by its channel. -/
structure Sender where
  channel : ℕ
  deriving DecidableEq, Repr

/-- An `AcceptFn` with the state it is to be called with. -/
abbrev Accept (A : App) := A.AcceptFn × A.State

/-- A route: the state and the function called for every message. -/
structure Route (A : App) where
  state : A.State
  serve : A.ServeFn

/-- A call of a `ServeFn`. -/
structure ServeCall (A : App) where
  serve : A.ServeFn
  state : A.State
  addr : SocketAddr
  routeTx : Option Sender
  sType : A.SType
  data : Bytes

/-- What calling a `ServeFn` and awaiting its future comes to; `sent` is what
was sent on the given sender by then. -/
inductive ServeOutcome (A : App)
  /-- The function panicked before it returned its future. -/
  | unwound
  /-- The future panicked. -/
  | panicked (sent : Option (Accept A))
  /-- The future returned. -/
  | finished (data : Except Bytes Bytes) (routeTx : Option Sender) (sent : Option (Accept A))

/-- A call of an `AcceptFn`; the stream goes with it. -/
structure AcceptCall (A : App) (P : Type) where
  accept : A.AcceptFn
  state : A.State
  addr : SocketAddr
  processor : P

/-- The operations of a server task; `P` is the state of a
`TrafficProcessorHolder`. -/
inductive ServerOp (A : App) (P : Type)
  | next
  | preProcess (processor : P) (data : Bytes)
  | postProcess (processor : P) (message : Bytes)
  | send (message : Bytes)
  | close
  | servePacket (metaData payload : Bytes)
  | serve (call : ServeCall A)
  | tryRecv (channel : ℕ)
  | accept (call : AcceptCall A P)
  /-- A panic that nothing catches: the task ends here. -/
  | unwind

/-- The answers of the operations of a server task. -/
def ServerOp.Ans {A : App} {P : Type} : ServerOp A P → Type
  | .next => Option (Except ErrorKind Bytes)
  | .preProcess _ _ => P × Bytes
  | .postProcess _ _ => P × Bytes
  | .send _ => Except ErrorKind Unit
  | .close => Unit
  | .servePacket _ _ => Unit
  | .serve _ => ServeOutcome A
  | .tryRecv _ => Option (Accept A)
  | .accept _ => Unit
  | .unwind => Empty

abbrev ServerFx (A : App) (P : Type) : Effects := ⟨ServerOp A P, ServerOp.Ans⟩

abbrev ServerEvent (A : App) (P : Type) := Event (ServerFx A P)

/-- A server task with result `α`. -/
abbrev ServerM (A : App) (P : Type) (α : Type) := Prog (ServerFx A P) α

namespace ServerM

variable {A : App} {P α : Type}

def next : ServerM A P (Option (Except ErrorKind Bytes)) :=
  .op .next .ret

def preProcess (processor : P) (data : Bytes) : ServerM A P (P × Bytes) :=
  .op (.preProcess processor data) .ret

def postProcess (processor : P) (message : Bytes) : ServerM A P (P × Bytes) :=
  .op (.postProcess processor message) .ret

def send (message : Bytes) : ServerM A P (Except ErrorKind Unit) :=
  .op (.send message) .ret

def close : ServerM A P Unit :=
  .op .close .ret

def mark (metaData payload : Bytes) : ServerM A P Unit :=
  .op (.servePacket metaData payload) .ret

def serve (call : ServeCall A) : ServerM A P (ServeOutcome A) :=
  .op (.serve call) .ret

def tryRecv (channel : ℕ) : ServerM A P (Option (Accept A)) :=
  .op (.tryRecv channel) .ret

def accept (call : AcceptCall A P) : ServerM A P Unit :=
  .op (.accept call) .ret

def unwind : ServerM A P α :=
  .op .unwind fun answer => nomatch answer

end ServerM

end FourthServer
