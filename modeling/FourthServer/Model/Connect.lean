import FourthServer.Model.Client

/-!
# How a client connects

`ClientConnect::new` makes a transport to the server, lets the codec set it up
and spawns `connection_main` with the two and the traffic processor it was
given.  `ClientLife` is that call together with the task it spawns.

`S`, `T`, `C` and `P` stand for `TcpStream`, `Transport`, the codec and
`TrafficProcessorHolder`.  `ConnectOp` has the same set-up operations as the
acceptor's; `new` does not perform the last two of them.
-/

namespace FourthServer

open Resumption

/-- `ClientMode`; of a TLS configuration it counts whether there is one. -/
inductive ClientMode
  | tcp (clientConfig : Bool)
  | webSocket (url : String)
  deriving DecidableEq, Repr

/-- The errors of `ClientConnect::new`. -/
inductive ConnectError
  | io (kind : ErrorKind)
  | tls (text : String)
  | setup (text : String)
  deriving DecidableEq, Repr

/-- The operations of a connecting client. -/
inductive ConnectOp (S T C P : Type)
  | tcpConnect (dest : String)
  | setNodelay (stream : S)
  | tlsConnect (domain : String) (stream : S)
  | webSocketConnect (url : String)
  | initialSetup (codec : C) (transport : T)
  | initialConnect (processor : P) (transport : T)
  | initialFramedConnect (processor : P) (framed : T × C)

/-- The answers of the operations of a connecting client. -/
def ConnectOp.Ans {S T C P : Type} : ConnectOp S T C P → Type
  | .tcpConnect _ => Except ErrorKind S
  | .setNodelay _ => Except ErrorKind Unit
  | .tlsConnect _ _ => Except String T
  | .webSocketConnect _ => Except String T
  | .initialSetup _ _ => C × T × Bool
  | .initialConnect _ _ => P × T × Bool
  | .initialFramedConnect _ _ => P × (T × C) × Bool

abbrev ConnectFx (S T C P : Type) : Effects := ⟨ConnectOp S T C P, ConnectOp.Ans⟩

abbrev ConnectEvent (S T C P : Type) := Event (ConnectFx S T C P)

/-- A connecting client with result `α`. -/
abbrev ConnectM (S T C P α : Type) := Prog (ConnectFx S T C P) α

namespace ConnectM

variable {S T C P : Type}

def tcpConnect (dest : String) : ConnectM S T C P (Except ErrorKind S) :=
  .op (.tcpConnect dest) .ret

def setNodelay (stream : S) : ConnectM S T C P (Except ErrorKind Unit) :=
  .op (.setNodelay stream) .ret

def tlsConnect (domain : String) (stream : S) : ConnectM S T C P (Except String T) :=
  .op (.tlsConnect domain stream) .ret

def webSocketConnect (url : String) : ConnectM S T C P (Except String T) :=
  .op (.webSocketConnect url) .ret

def initialSetup (codec : C) (transport : T) : ConnectM S T C P (C × T × Bool) :=
  .op (.initialSetup codec transport) .ret

end ConnectM

/-- What a client connects with: `Transport::plain`, and the names that can be
made into a `ServerName`. -/
structure Dialer (S T : Type) where
  plain : S → T
  validName : String → Bool

namespace ClientConnect

variable {S T C P : Type} (dialer : Dialer S T)

/-- From the TLS handshake of `connect` on. -/
def afterTls : Except String T → ConnectM S T C P (Except ConnectError T)
  | .error text => return .error (.tls text)
  | .ok tls => return .ok tls

/-- From the result of `set_nodelay` on. -/
def afterNodelay (serverName : String) (clientConfig : Bool) (socket : S) :
    Except ErrorKind Unit → ConnectM S T C P (Except ConnectError T)
  | .error kind => return .error (.io kind)
  | .ok () =>
    if clientConfig then
      if dialer.validName serverName then do
        let tls ← ConnectM.tlsConnect serverName socket
        afterTls tls
      else return .error (.tls "Invalid server name")
    else return .ok (dialer.plain socket)

/-- From the result of `TcpStream::connect` on. -/
def afterTcp (serverName : String) (clientConfig : Bool) :
    Except ErrorKind S → ConnectM S T C P (Except ConnectError T)
  | .error kind => return .error (.io kind)
  | .ok socket => do
    let res ← ConnectM.setNodelay socket
    afterNodelay dialer serverName clientConfig socket res

/-- From the result of `Transport::connect` on. -/
def afterWebSocket : Except String T → ConnectM S T C P (Except ConnectError T)
  | .error text => return .error (.tls text)
  | .ok transport => return .ok transport

/-- `connect`. -/
def connect (serverName connectionDest : String) :
    ClientMode → ConnectM S T C P (Except ConnectError T)
  | .tcp clientConfig => do
    let socket ← ConnectM.tcpConnect connectionDest
    afterTcp dialer serverName clientConfig socket
  | .webSocket url => do
    let transport ← ConnectM.webSocketConnect url
    afterWebSocket transport

/-- From the result of `initial_setup` on. -/
def afterSetup (codec : C) (transport : T) :
    Bool → ConnectM S T C P (Except ConnectError (T × C))
  | true => return .ok (transport, codec)
  | false => return .error (.setup "codec initial_setup failed")

/-- From the result of `connect` on. -/
def afterConnect (codec : C) :
    Except ConnectError T → ConnectM S T C P (Except ConnectError (T × C))
  | .error error => return .error error
  | .ok transport => do
    let (codec, transport, accepted) ← ConnectM.initialSetup codec transport
    afterSetup codec transport accepted

/-- `new` up to the call of `connection_main`, which it makes with the framed
transport. -/
def new (serverName connectionDest : String) (codec : C) (mode : ClientMode) :
    ConnectM S T C P (Except ConnectError (T × C)) := do
  let transport ← connect dialer serverName connectionDest mode
  afterConnect codec transport

end ClientConnect

/-- A client: it is connecting, or its connection task runs. -/
inductive ClientLife (A : App) (S T C P : Type)
  | connecting (task : ConnectM S T C P (Except ConnectError (T × C)))
  | running (task : ClientM A P (ClientState P ⊕ Unit))

abbrev LifeEvent (A : App) (S T C P : Type) := ConnectEvent S T C P ⊕ ClientEvent A P

namespace ClientLife

variable {A : App} {S T C P : Type} (utils : Utils A) (processor : P)

/-- Once `new` has a framed transport, the connection task is spawned. -/
def begin : ConnectM S T C P (Except ConnectError (T × C)) → ClientLife A S T C P
  | .ret (.ok _) => .running (Client.connectionMain utils processor)
  | task => .connecting task

/-- The client when `new` is called. -/
def launched (dialer : Dialer S T) (serverName connectionDest : String) (codec : C)
    (mode : ClientMode) : ClientLife A S T C P :=
  .connecting (ClientConnect.new dialer serverName connectionDest codec mode)

/-- The steps of a client. -/
inductive Step : ClientLife A S T C P → LifeEvent A S T C P → ClientLife A S T C P → Prop
  | connect {task next : ConnectM S T C P (Except ConnectError (T × C))}
      {e : ConnectEvent S T C P} (step : Prog.Step task e next) :
      Step (.connecting task) (.inl e) (begin utils processor next)
  | run {task next : ClientM A P (ClientState P ⊕ Unit)} {e : ClientEvent A P}
      (step : Client.Step utils task e next) : Step (.running task) (.inr e) (.running next)

end ClientLife

end FourthServer
