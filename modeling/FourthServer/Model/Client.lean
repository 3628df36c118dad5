import FourthServer.Library.AssocMap
import FourthServer.Model.Protocol

/-!
# The client's connection task

`connection_main` takes requests off its channel one at a time and processes
each over the one socket it owns: resolve the handler's name to an id, unless
it is known, send a meta frame and a payload frame, read one frame and hand it
to the request's consumer.  `ClientOp` lists the awaits of that task; each
`send` names the call in the source it comes from.

Two operations are markers without an effect on the outside.  `insertRoute` is
the insertion into `known_routes`, and `warn` is the log line for a failed
request; they make both visible in a history.
-/

namespace FourthServer

open Resumption

/-- The call of `send` a frame is sent by: in `request_route_from_server`, or
the first or second one in `process_request`. -/
inductive SendSite
  | route
  | metaFrame
  | payload
  deriving DecidableEq, Repr

/-- Describes the target handler on the server. -/
structure HandlerInfo where
  id : Option ℕ
  named : Option String
  deriving DecidableEq, Repr

namespace HandlerInfo

def newNamed (name : String) : HandlerInfo := ⟨none, some name⟩

def newId (id : ℕ) : HandlerInfo := ⟨some id, none⟩

end HandlerInfo

structure DataRequest (A : App) where
  handlerInfo : HandlerInfo
  data : Bytes
  sType : A.SType

/-- A data request and the channel that receives the response. -/
structure ClientRequest (A : App) where
  req : DataRequest A
  consumer : ℕ

inductive RouterError
  | io (kind : ErrorKind)
  | protocol (text : String)
  | connectionClosed
  deriving DecidableEq, Repr

/-- The errors of `process_request`; a router error is kept as it is where the
source keeps its debug text. -/
inductive ClientError
  | io (kind : ErrorKind)
  | codec (kind : ErrorKind)
  | router (error : RouterError)
  | protocol (text : String)
  deriving DecidableEq, Repr

/-- The operations of a client task; `P` is the state of a
`TrafficProcessorHolder`. -/
inductive ClientOp (A : App) (P : Type)
  | recv
  | send (site : SendSite) (message : Bytes)
  | next
  | preProcess (processor : P) (data : Bytes)
  | postProcess (processor : P) (message : Bytes)
  | insertRoute (name : String) (id : ℕ)
  | deliver (consumer : ℕ) (data : Bytes)
  | warn (error : ClientError)

/-- The answers of the operations of a client task. -/
def ClientOp.Ans {A : App} {P : Type} : ClientOp A P → Type
  | .recv => Option (ClientRequest A)
  | .send _ _ => Except ErrorKind Unit
  | .next => Option (Except ErrorKind Bytes)
  | .preProcess _ _ => P × Bytes
  | .postProcess _ _ => P × Bytes
  | .insertRoute _ _ => Unit
  | .deliver _ _ => Except Bytes Unit
  | .warn _ => Unit

abbrev ClientFx (A : App) (P : Type) : Effects := ⟨ClientOp A P, ClientOp.Ans⟩

abbrev ClientEvent (A : App) (P : Type) := Event (ClientFx A P)

/-- A client task with result `α`. -/
abbrev ClientM (A : App) (P : Type) (α : Type) := Prog (ClientFx A P) α

namespace ClientM

variable {A : App} {P : Type}

def recv : ClientM A P (Option (ClientRequest A)) :=
  .op .recv .ret

def send (site : SendSite) (message : Bytes) : ClientM A P (Except ErrorKind Unit) :=
  .op (.send site message) .ret

def next : ClientM A P (Option (Except ErrorKind Bytes)) :=
  .op .next .ret

def preProcess (processor : P) (data : Bytes) : ClientM A P (P × Bytes) :=
  .op (.preProcess processor data) .ret

def postProcess (processor : P) (message : Bytes) : ClientM A P (P × Bytes) :=
  .op (.postProcess processor message) .ret

def insertRoute (name : String) (id : ℕ) : ClientM A P Unit :=
  .op (.insertRoute name id) .ret

def deliver (consumer : ℕ) (data : Bytes) : ClientM A P (Except Bytes Unit) :=
  .op (.deliver consumer data) .ret

def warn (error : ClientError) : ClientM A P Unit :=
  .op (.warn error) .ret

end ClientM

/-- The variables of the client task: `processor`, and the `known_routes` of
its `TargetRouter`. -/
structure ClientState (P : Type) where
  processor : P
  knownRoutes : List (String × ℕ)

namespace Client

variable {A : App} {P : Type} (utils : Utils A)

/-- `wait_for_data`. -/
def waitForData : ClientM A P (Except ClientError Bytes) := do
  match ← ClientM.next with
  | some (.ok data) => return .ok data
  | some (.error kind) => return .error (.codec kind)
  | none => return .error (.protocol "Connection closed")

/-- `lookup_route`. -/
def lookupRoute (knownRoutes : List (String × ℕ)) (route : String) : Option ℕ :=
  AssocMap.get? (fun first second => decide (first = second)) route knownRoutes

/-- The insertion of `request_route`. -/
def rememberRoute (knownRoutes : List (String × ℕ)) (route : String) (id : ℕ) :
    List (String × ℕ) :=
  AssocMap.insert (fun first second => decide (first = second)) route id knownRoutes

/-- From the result of `wait_for_data` in `request_route_from_server` on. -/
def afterRouteWait (processor : P) :
    Except ClientError Bytes → ClientM A P (P × Except RouterError ℕ)
  | .error _ => return (processor, .error .connectionClosed)
  | .ok response => do
    let (processor, response) ← ClientM.preProcess processor response
    match utils.accessAns response with
    | .error text => return (processor, .error (.protocol text))
    | .ok metaAns => return (processor, .ok metaAns.id)

/-- From the result of the send in `request_route_from_server` on. -/
def afterRouteSend (processor : P) :
    Except ErrorKind Unit → ClientM A P (P × Except RouterError ℕ)
  | .error kind => return (processor, .error (.io kind))
  | .ok () => do
    let response ← waitForData
    afterRouteWait utils processor response

/-- `request_route_from_server`. -/
def requestRouteFromServer (processor : P) (name : String) :
    ClientM A P (P × Except RouterError ℕ) :=
  match utils.toBytesReq ⟨.handlerMetaReq, name⟩ with
  | none => return (processor, .error (.protocol "serialization failed"))
  | some serialized => do
    let (processor, processed) ← ClientM.postProcess processor serialized
    let sent ← ClientM.send .route processed
    afterRouteSend utils processor sent

/-- From the id found by `request_route_from_server` on. -/
def learnRoute (st : ClientState P) (route : String) :
    Except RouterError ℕ → ClientM A P (ClientState P × Except RouterError ℕ)
  | .error error => return (st, .error error)
  | .ok id => do
    ClientM.insertRoute route id
    return ({ st with knownRoutes := rememberRoute st.knownRoutes route id }, .ok id)

/-- `request_route`. -/
def requestRoute (st : ClientState P) (route : String) :
    ClientM A P (ClientState P × Except RouterError ℕ) :=
  match lookupRoute st.knownRoutes route with
  | some id => return (st, .ok id)
  | none => do
    let (processor, id) ← requestRouteFromServer utils st.processor route
    learnRoute { st with processor := processor } route id

/-- From the result of `wait_for_data` in `process_request` on. -/
def afterWait (st : ClientState P) (consumer : ℕ) :
    Except ClientError Bytes → ClientM A P (ClientState P × Except ClientError Unit)
  | .error error => return (st, .error error)
  | .ok response => do
    let (processor, response) ← ClientM.preProcess st.processor response
    -- the result is ignored: the receiver may have been dropped
    let _ ← ClientM.deliver consumer response
    return ({ st with processor := processor }, .ok ())

/-- From the result of the second send of `process_request` on. -/
def afterPayloadSend (st : ClientState P) (consumer : ℕ) :
    Except ErrorKind Unit → ClientM A P (ClientState P × Except ClientError Unit)
  | .error kind => return (st, .error (.io kind))
  | .ok () => do
    let response ← waitForData
    afterWait st consumer response

/-- From the result of the first send of `process_request` on. -/
def afterMetaSend (st : ClientState P) (consumer : ℕ) (payload : Bytes) :
    Except ErrorKind Unit → ClientM A P (ClientState P × Except ClientError Unit)
  | .error kind => return (st, .error (.io kind))
  | .ok () => do
    let sent ← ClientM.send .payload payload
    afterPayloadSend st consumer sent

/-- The meta of a request. -/
def metaOf (request : ClientRequest A) (handlerId : ℕ) : PacketMeta where
  sType := .packetMeta
  sTypeReq := A.serialize request.req.sType
  handlerId := handlerId
  hasPayload := !request.req.data.isEmpty

/-- From the handler id of `process_request` on. -/
def sendRequest (st : ClientState P) (request : ClientRequest A) (handlerId : ℕ) :
    ClientM A P (ClientState P × Except ClientError Unit) :=
  match utils.toBytesMeta (metaOf request handlerId) with
  | none => return (st, .error (.protocol "PacketMeta serialization failed"))
  | some metaVec => do
    let (processor, metaBytes) ← ClientM.postProcess st.processor metaVec
    let (processor, payload) ← ClientM.postProcess processor request.req.data
    let sent ← ClientM.send .metaFrame metaBytes
    afterMetaSend { st with processor := processor } request.consumer payload sent

/-- From the result of `request_route` on. -/
def afterRoute (st : ClientState P) (request : ClientRequest A) :
    Except RouterError ℕ → ClientM A P (ClientState P × Except ClientError Unit)
  | .error error => return (st, .error (.router error))
  | .ok id => sendRequest utils st request id

/-- `process_request`. -/
def processRequest (st : ClientState P) (request : ClientRequest A) :
    ClientM A P (ClientState P × Except ClientError Unit) :=
  match request.req.handlerInfo.id with
  | some id => sendRequest utils st request id
  | none =>
    match request.req.handlerInfo.named with
    | none => return (st, .error (.protocol "Missing handler name"))
    | some name => do
      let (st, id) ← requestRoute utils st name
      afterRoute utils st request id

/-- From the result of `process_request` on. -/
def afterRequest (st : ClientState P) :
    Except ClientError Unit → ClientM A P (ClientState P ⊕ Unit)
  | .error error => do
    ClientM.warn error
    return .inl st
  | .ok () => return .inl st

/-- One pass of the loop of `connection_main`. -/
def turn (st : ClientState P) : ClientM A P (ClientState P ⊕ Unit) := do
  match ← ClientM.recv with
  | none => return .inr ()
  | some request =>
    let (st, res) ← processRequest utils st request
    afterRequest st res

/-- The variables of `connection_main` before its loop. -/
def initial (processor : P) : ClientState P where
  processor := processor
  knownRoutes := []

/-- `connection_main` at the start of its loop. -/
def connectionMain (processor : P) : ClientM A P (ClientState P ⊕ Unit) :=
  turn utils (initial processor)

/-- The steps of a client task. -/
def Step : ClientM A P (ClientState P ⊕ Unit) → ClientEvent A P →
    ClientM A P (ClientState P ⊕ Unit) → Prop :=
  LoopStep (turn utils)

end Client

end FourthServer
