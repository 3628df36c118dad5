import FourthServer.Model.Router

/-!
# The connection loop of the server

`handle_connection` reads a meta frame, reads a payload frame when the meta
announces one, has the router serve the packet and sends the reply, until the
stream ends, a send fails, or a handler has taken the stream over.  `turn` is
one pass of the loop; it returns `inl` for the next pass and `inr` when the
loop has returned.  The function is cut at its awaits into the stages
`afterMeta`, `afterPayload`, `serveAndReply`, `reply`, `conclude` and
`afterTryRecv`, each of which continues where the one before suspends.
-/

namespace FourthServer

open Resumption

/-- The variables that live from one pass to the next: `processor`, and
`move_sig` as the two ends of its channel. -/
structure ConnectionState (P : Type) where
  processor : P
  moveTx : Option Sender
  moveRx : ℕ

namespace Connection

variable {A : App} {P : Type} (utils : Utils A) (router : TfServerRouter A) (addr : SocketAddr)

/-- Whether a receive error means that the client is gone. -/
def disconnected : ErrorKind → Bool
  | .connectionReset => true
  | .connectionAborted => true
  | .brokenPipe => true
  | .unexpectedEof => true
  | .invalidData => false
  | .other _ => false

/-- `receive_message`; an error carries whether to close the connection. -/
def receiveMessage (processor : P) : ServerM A P (P × Except Bool (Option Bytes)) := do
  match ← ServerM.next with
  | some (.ok data) =>
    let (processor, data) ← ServerM.preProcess processor data
    return (processor, .ok (some data))
  | some (.error kind) => return (processor, .error (disconnected kind))
  | none => return (processor, .error true)

/-- `send_message`. -/
def sendMessage (processor : P) (message : Bytes) :
    ServerM A P (P × Except ErrorKind Unit) := do
  let (processor, message) ← ServerM.postProcess processor message
  let res ← ServerM.send message
  return (processor, res)

/-- The flag a meta frame is read with; a frame that is no `PacketMeta` has no
payload. -/
def hasPayload (metaData : Bytes) : Bool :=
  match utils.accessMeta metaData with
  | .ok packet => packet.hasPayload
  | .error _ => false

/-- From the result of `try_recv` on: hand the stream over, close it, or go
on. -/
def afterTryRecv (st : ConnectionState P) (sent : Except ErrorKind Unit) :
    Option (Accept A) → ServerM A P (ConnectionState P ⊕ Unit)
  | some (acceptFn, state) => do
    ServerM.accept ⟨acceptFn, state, addr, st.processor⟩
    return .inr ()
  | none =>
    if st.moveTx.isNone then do
      ServerM.close
      return .inr ()
    else
      match sent with
      -- the future of `stream.close()` is dropped, so nothing is closed here
      | .error _ => return .inr ()
      | .ok () => return .inl st

/-- From the return of `send_message` on. -/
def conclude (st : ConnectionState P) (sent : Except ErrorKind Unit) :
    ServerM A P (ConnectionState P ⊕ Unit) := do
  let value ← ServerM.tryRecv st.moveRx
  afterTryRecv addr st sent value

/-- The message for what `serve_packet` returned; serialising an error cannot
fail, the source unwraps it. -/
def replyMessage (res : Except ServerError Bytes) : Option Bytes :=
  match res with
  | .ok data => some data
  | .error err => utils.toBytesErr err

/-- From the return of `serve_packet` on. -/
def reply (st : ConnectionState P) (served : TfServerRouter.Served) :
    ServerM A P (ConnectionState P ⊕ Unit) :=
  match replyMessage utils served.1 with
  | none => ServerM.unwind
  | some message => do
    let (processor, sent) ← sendMessage st.processor message
    conclude addr { st with processor := processor, moveTx := served.2 } sent

/-- From the call of `serve_packet` on. -/
def serveAndReply (st : ConnectionState P) (metaData payload : Bytes) :
    ServerM A P (ConnectionState P ⊕ Unit) := do
  ServerM.mark metaData payload
  let served ← router.servePacket utils metaData payload addr st.moveTx
  reply utils addr st served

/-- From the second `receive_message` on. -/
def afterPayload (st : ConnectionState P) (metaData : Bytes) :
    Except Bool (Option Bytes) → ServerM A P (ConnectionState P ⊕ Unit)
  | .error true => do
    ServerM.close
    return .inr ()
  | .error false => return .inl st
  | .ok none => do
    ServerM.close
    return .inr ()
  | .ok (some payload) => serveAndReply utils router addr st metaData payload

/-- From the first `receive_message` on. -/
def afterMeta (st : ConnectionState P) :
    Except Bool (Option Bytes) → ServerM A P (ConnectionState P ⊕ Unit)
  | .error true => do
    ServerM.close
    return .inr ()
  | .error false => return .inl st
  | .ok none => return .inl st
  | .ok (some metaData) =>
    if hasPayload utils metaData then do
      let (processor, payload) ← receiveMessage st.processor
      afterPayload utils router addr { st with processor := processor } metaData payload
    else serveAndReply utils router addr st metaData []

/-- One pass of the loop of `handle_connection`. -/
def turn (st : ConnectionState P) : ServerM A P (ConnectionState P ⊕ Unit) := do
  let (processor, metaData) ← receiveMessage st.processor
  afterMeta utils router addr { st with processor := processor } metaData

/-- The variables of `handle_connection` before its loop. -/
def initial (processor : P) (channel : ℕ) : ConnectionState P where
  processor := processor
  moveTx := some ⟨channel⟩
  moveRx := channel

/-- `handle_connection` at the start of its loop. -/
def handleConnection (processor : P) (channel : ℕ) : ServerM A P (ConnectionState P ⊕ Unit) :=
  turn utils router addr (initial processor channel)

/-- The steps of a connection task. -/
def Step : ServerM A P (ConnectionState P ⊕ Unit) → ServerEvent A P →
    ServerM A P (ConnectionState P ⊕ Unit) → Prop :=
  LoopStep (turn utils router addr)

end Connection

end FourthServer
