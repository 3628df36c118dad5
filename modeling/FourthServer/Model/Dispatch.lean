import FourthServer.Model.Client
import Mathlib.Logic.Function.Basic

/-!
# Callers of a client

`ClientConnect` keeps the sender of a bounded channel; the connection task owns
the receiver.  `dispatch_request` sends a request into the channel, with the
sender of a one-shot channel by which the answer comes back.  A `Dispatcher` is
what lies between the callers and the task: the channel, and the one-shot
channels.

The two kinds of channel do what they are documented to do.  A send into the
bounded channel is complete once there is room, and fails once the receiver is
gone; a receive takes the oldest request, and answers `None` once the channel is
empty and the sender gone.  Whoever waits for room has not sent yet, and has no
place in the state.  Whatever is dropped with a request still in it drops the
sender of its one-shot channel.
-/

namespace FourthServer

open Resumption

/-- The sender's half of a one-shot channel, as its receiver sees it. -/
inductive Consumer
  | unused
  | held
  | answered (data : Bytes)
  | dropped
  deriving DecidableEq, Repr

/-- The error of `dispatch_request`. -/
inductive DispatchError
  | channelClosed
  deriving DecidableEq, Repr

/-- What lies between the callers of a `ClientConnect` and its connection
task. -/
structure Dispatcher (A : App) where
  /-- The requests in the channel. -/
  queue : List (ClientRequest A)
  /-- The `ClientConnect` exists, and `tx` with it. -/
  tx : Bool
  /-- The connection task exists, and `rx` with it. -/
  rx : Bool
  /-- The consumer of the request that `process_request` owns. -/
  current : Option ℕ
  consumers : ℕ → Consumer
  /-- The receivers that have been dropped. -/
  closed : ℕ → Bool

/-- What happens between the callers and the task. -/
inductive CallEvent (A : App) (P : Type)
  /-- The send of a `dispatch_request` is complete; an error hands the request
  back. -/
  | send (request : ClientRequest A) (res : Except (ClientRequest A) Unit)
  /-- A `dispatch_request` is given up before its send is complete. -/
  | cancel (request : ClientRequest A)
  /-- The `ClientConnect` is dropped. -/
  | release
  /-- The receiver of an answer is dropped. -/
  | close (consumer : ℕ)
  /-- The connection task goes on. -/
  | task (e : ClientEvent A P)
  /-- The connection task is dropped: it has panicked, or the runtime ends. -/
  | abort

namespace ClientConnect

variable {A : App}

/-- `dispatch_request`, from the result of its send on. -/
def dispatchRequest (sent : Except (ClientRequest A) Unit) : Except DispatchError Unit :=
  sent.mapError fun _ => .channelClosed

end ClientConnect

namespace Dispatcher

variable {A : App} {P : Type}

/-- The dispatcher when `new` has made the channel. -/
def initial : Dispatcher A where
  queue := []
  tx := true
  rx := true
  current := none
  consumers := fun _ => .unused
  closed := fun _ => false

/-- The request that is being processed is dropped. -/
def dropCurrent (s : Dispatcher A) : Dispatcher A :=
  { s with
    current := none
    consumers := fun consumer =>
      if s.current = some consumer then .dropped else s.consumers consumer }

/-- The receiver of the channel is dropped, and what is in the channel with it. -/
def dropReceiver (s : Dispatcher A) : Dispatcher A :=
  { s with
    queue := []
    rx := false
    consumers := fun consumer =>
      if consumer ∈ s.queue.map (·.consumer) then .dropped else s.consumers consumer }

/-- `consumer.send(response)`: without a receiver the data is handed back. -/
def answer (s : Dispatcher A) (consumer : ℕ) (data : Bytes) : Dispatcher A :=
  { s with
    current := none
    consumers := Function.update s.consumers consumer
      (if s.closed consumer then .dropped else .answered data) }

/-- What the task does to the channels. -/
inductive TaskStep : Dispatcher A → ClientEvent A P → Dispatcher A → Prop
  | take {s : Dispatcher A} {request : ClientRequest A} {rest : List (ClientRequest A)}
      (head : s.queue = request :: rest) :
      TaskStep s ⟨.recv, some request⟩ { s with queue := rest, current := some request.consumer }
  | drained {s : Dispatcher A} (empty : s.queue = []) (gone : s.tx = false) :
      TaskStep s ⟨.recv, none⟩ s.dropReceiver
  | deliver {s : Dispatcher A} (consumer : ℕ) (data : Bytes) :
      TaskStep s ⟨.deliver consumer data, if s.closed consumer then .error data else .ok ()⟩
        (s.answer consumer data)
  /-- `process_request` has returned an error, and with it dropped the request. -/
  | warn {s : Dispatcher A} (error : ClientError) :
      TaskStep s ⟨.warn error, ()⟩ s.dropCurrent
  | next {s : Dispatcher A} (polled : Option (Except ErrorKind Bytes)) :
      TaskStep s ⟨.next, polled⟩ s
  | send {s : Dispatcher A} (site : SendSite) (message : Bytes) (res : Except ErrorKind Unit) :
      TaskStep s ⟨.send site message, res⟩ s
  | preProcess {s : Dispatcher A} (processor : P) (data : Bytes) (res : P × Bytes) :
      TaskStep s ⟨.preProcess processor data, res⟩ s
  | postProcess {s : Dispatcher A} (processor : P) (message : Bytes) (res : P × Bytes) :
      TaskStep s ⟨.postProcess processor message, res⟩ s
  | insertRoute {s : Dispatcher A} (name : String) (id : ℕ) :
      TaskStep s ⟨.insertRoute name id, ()⟩ s

/-- The steps of a dispatcher for `max_request_in_time` requests. -/
inductive Step (maxRequestInTime : ℕ) : Dispatcher A → CallEvent A P → Dispatcher A → Prop
  | sent {s : Dispatcher A} {request : ClientRequest A} (handle : s.tx = true)
      (receiver : s.rx = true) (room : s.queue.length < maxRequestInTime)
      (fresh : s.consumers request.consumer = .unused) :
      Step maxRequestInTime s (.send request (.ok ()))
        { s with
          queue := s.queue ++ [request]
          consumers := Function.update s.consumers request.consumer .held }
  | refused {s : Dispatcher A} {request : ClientRequest A} (handle : s.tx = true)
      (receiver : s.rx = false) (fresh : s.consumers request.consumer = .unused) :
      Step maxRequestInTime s (.send request (.error request))
        { s with consumers := Function.update s.consumers request.consumer .dropped }
  | cancelled {s : Dispatcher A} {request : ClientRequest A} (handle : s.tx = true)
      (fresh : s.consumers request.consumer = .unused) :
      Step maxRequestInTime s (.cancel request)
        { s with consumers := Function.update s.consumers request.consumer .dropped }
  | released {s : Dispatcher A} (handle : s.tx = true) :
      Step maxRequestInTime s .release { s with tx := false }
  | closed {s : Dispatcher A} (consumer : ℕ) :
      Step maxRequestInTime s (.close consumer)
        { s with closed := Function.update s.closed consumer true }
  | task {s t : Dispatcher A} {e : ClientEvent A P} (receiver : s.rx = true)
      (step : TaskStep s e t) : Step maxRequestInTime s (.task e) t
  | aborted {s : Dispatcher A} (receiver : s.rx = true) :
      Step maxRequestInTime s .abort s.dropCurrent.dropReceiver

end Dispatcher

/-- A client: its callers' channels and its connection task. -/
structure CallState (A : App) (P : Type) where
  dispatcher : Dispatcher A
  task : ClientM A P (ClientState P ⊕ Unit)

namespace CallState

variable {A : App} {P : Type} (utils : Utils A) (maxRequestInTime : ℕ)

/-- The client when `new` has spawned its connection task. -/
def initial (processor : P) : CallState A P where
  dispatcher := .initial
  task := Client.connectionMain utils processor

/-- The callers act alone, or together with the task. -/
inductive Step : CallState A P → CallEvent A P → CallState A P → Prop
  | caller {s : CallState A P} {dispatcher : Dispatcher A} {ev : CallEvent A P}
      (own : ∀ e, ev ≠ .task e)
      (step : Dispatcher.Step maxRequestInTime s.dispatcher ev dispatcher) :
      Step s ev { s with dispatcher := dispatcher }
  | task {s t : CallState A P} {e : ClientEvent A P}
      (step : Dispatcher.Step maxRequestInTime s.dispatcher (.task e) t.dispatcher)
      (resume : Client.Step utils s.task e t.task) : Step s (.task e) t

end CallState

end FourthServer
