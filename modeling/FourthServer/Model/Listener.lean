import FourthServer.Model.Acceptor

/-!
# The acceptor, its listener and its stop signal

Connections wait at the listener until the acceptor takes them, in the order in
which they came.  `send_stop` is `notify_waiters`: it wakes the `Notified` future
that exists at that moment, if there is one, and stores nothing.  `select!` makes
the two futures when the task gets there, takes any branch that is ready, and
drops the other future.

The set-up of a connection is made of operations that need its client, which may
take its time with each of them (`AcceptorOp.isSetup`), and of operations of the
server alone (`AcceptorOp.isOwn`).
-/

namespace FourthServer

open Resumption

/-- Operations that end when the client that is being set up has done its part. -/
@[simp] def AcceptorOp.isSetup {S T C P : Type} : AcceptorOp S T C P → Bool
  | .tlsAccept _ => true
  | .acceptWebsocket _ => true
  | .initialSetup _ _ => true
  | .initialConnect _ _ => true
  | .initialFramedConnect _ _ => true
  | .select => false
  | .shutdown _ => false
  | .spawn _ => false
  | .warn _ => false

/-- Operations that need no client. -/
@[simp] def AcceptorOp.isOwn {S T C P : Type} : AcceptorOp S T C P → Bool
  | .shutdown _ => true
  | .spawn _ => true
  | .warn _ => true
  | .select => false
  | .tlsAccept _ => false
  | .acceptWebsocket _ => false
  | .initialSetup _ _ => false
  | .initialConnect _ _ => false
  | .initialFramedConnect _ _ => false

theorem AcceptorOp.isOwn_eq_false {S T C P : Type} {op : AcceptorOp S T C P}
    (hsetup : op.isSetup = true) : op.isOwn = false := by
  cases op <;> first | rfl | cases hsetup

/-- A connection that waits at the listener. -/
structure Arrival (S : Type) where
  client : ℕ
  stream : S
  addr : SocketAddr

/-- The acceptor task with its surroundings. -/
structure World (S T C P : Type) where
  task : AcceptorM S T C P (P ⊕ Unit)
  /-- The connections at the listener. -/
  backlog : List (Arrival S)
  /-- The `Notified` future of the task, and whether it has been woken. -/
  notified : Option Bool
  /-- The client whose connection was taken last. -/
  current : Option ℕ

/-- The client whose set-up is under way. -/
def World.SettingUp {S T C P : Type} (w : World S T C P) (who : ℕ) : Prop :=
  w.current = some who ∧ ∃ op, w.task.awaits = some op ∧ op.isSetup = true

inductive WorldEvent (S T C P : Type)
  /-- A client connects. -/
  | arrive (arrival : Arrival S)
  /-- `send_stop` is called. -/
  | stop
  /-- The task gets to `select!` and makes its futures. -/
  | enter
  | take (arrival : Arrival S)
  | fail (kind : ErrorKind)
  | leave
  /-- A client does its part of an operation of its set-up. -/
  | client (who : ℕ) (e : AcceptorEvent S T C P)
  | server (e : AcceptorEvent S T C P)

namespace WorldEvent

variable {S T C P : Type}

/-- The client whose step it is; all other steps are the server's. -/
@[simp] def actor : WorldEvent S T C P → Option ℕ
  | .arrive arrival => some arrival.client
  | .client who _ => some who
  | .stop => none
  | .enter => none
  | .take _ => none
  | .fail _ => none
  | .leave => none
  | .server _ => none

/-- What the acceptor task sees of it. -/
@[simp] def acceptor? : WorldEvent S T C P → Option (AcceptorEvent S T C P)
  | .take arrival => some ⟨.select, .accepted arrival.stream arrival.addr⟩
  | .fail kind => some ⟨.select, .failed kind⟩
  | .leave => some ⟨.select, .notified⟩
  | .client _ e => some e
  | .server e => some e
  | .arrive _ => none
  | .stop => none
  | .enter => none

end WorldEvent

namespace Acceptor

variable {S T C P : Type} (config : AcceptorConfig S T) (codec : C)

/-- The acceptor that `start` has spawned. -/
def launched (processor : P) : World S T C P :=
  ⟨turn config codec processor, [], none, none⟩

/-- The steps of an acceptor in its surroundings. -/
inductive WorldStep : World S T C P → WorldEvent S T C P → World S T C P → Prop
  | arrive (w : World S T C P) (arrival : Arrival S) :
      WorldStep w (.arrive arrival) { w with backlog := w.backlog ++ [arrival] }
  | stop (w : World S T C P) :
      WorldStep w .stop { w with notified := w.notified.map fun _ => true }
  | enter (w : World S T C P) (hselect : w.task.awaits = some .select)
      (hnotified : w.notified = none) :
      WorldStep w .enter { w with notified := some false }
  | take {w : World S T C P} {arrival : Arrival S} {rest : List (Arrival S)} {woken : Bool}
      {task : AcceptorM S T C P (P ⊕ Unit)} (hnotified : w.notified = some woken)
      (hbacklog : w.backlog = arrival :: rest)
      (hstep : Step config codec w.task ⟨.select, .accepted arrival.stream arrival.addr⟩ task) :
      WorldStep w (.take arrival) ⟨task, rest, none, some arrival.client⟩
  | fail {w : World S T C P} {kind : ErrorKind} {woken : Bool}
      {task : AcceptorM S T C P (P ⊕ Unit)} (hnotified : w.notified = some woken)
      (hstep : Step config codec w.task ⟨.select, .failed kind⟩ task) :
      WorldStep w (.fail kind) { w with task, notified := none }
  | leave {w : World S T C P} {task : AcceptorM S T C P (P ⊕ Unit)}
      (hnotified : w.notified = some true)
      (hstep : Step config codec w.task ⟨.select, .notified⟩ task) :
      WorldStep w .leave { w with task, notified := none }
  | client {w : World S T C P} {who : ℕ} {e : AcceptorEvent S T C P}
      {task : AcceptorM S T C P (P ⊕ Unit)} (hsetup : e.op.isSetup = true)
      (hcurrent : w.current = some who) (hstep : Step config codec w.task e task) :
      WorldStep w (.client who e) { w with task }
  | server {w : World S T C P} {e : AcceptorEvent S T C P}
      {task : AcceptorM S T C P (P ⊕ Unit)} (hown : e.op.isOwn = true)
      (hstep : Step config codec w.task e task) : WorldStep w (.server e) { w with task }

end Acceptor

end FourthServer
