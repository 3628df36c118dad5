import FourthServer.Library.Grouping
import FourthServer.Library.Hooks
import FourthServer.Server.Points

/-!
# Histories of a connection task

A history is the list of events of `handle_connection`.  This file names what
can be read off one (the frames received and pre-processed, the calls of
`serve_packet`, the replies and the attempts to send them) and states the laws
of the surroundings that a result may assume: what tokio's `Framed` yields
after an error, what a handler does with its sender, and how a oneshot channel
answers `try_recv`.
-/

namespace FourthServer

open Resumption Trace

/-- What a handler sent on its sender before it came to its outcome. -/
def ServeOutcome.sent {A : App} : ServeOutcome A → Option (Accept A)
  | .unwound => none
  | .panicked sent => sent
  | .finished _ _ sent => sent

/-- The sender a handler gave back. -/
def ServeOutcome.returnedTx {A : App} : ServeOutcome A → Option Sender
  | .unwound => none
  | .panicked _ => none
  | .finished _ routeTx _ => routeTx

namespace Connection

variable {A : App} {P : Type}

/-! ## Reading a history -/

/-- The answer of a poll of the stream. -/
@[simp] def poll? : ServerEvent A P → Option (Option (Except ErrorKind Bytes))
  | ⟨.next, answer⟩ => some answer
  | _ => none

/-- The answers of `stream.next()`. -/
def polls (tr : List (ServerEvent A P)) : List (Option (Except ErrorKind Bytes)) :=
  tr.filterMap poll?

/-- The frame an event takes off the stream. -/
@[simp] def frame? : ServerEvent A P → Option Bytes
  | ⟨.next, some (.ok frame)⟩ => some frame
  | _ => none

/-- What takes a frame is a poll. -/
theorem frame?_of_poll? {e : ServerEvent A P} (h : poll? e = none) : frame? e = none := by
  obtain ⟨op, answer⟩ := e
  cases op with
  | next => simp at h
  | _ => rfl

/-- The frames `stream.next()` has yielded. -/
def received (tr : List (ServerEvent A P)) : List Bytes := tr.filterMap frame?

/-- The call of a traffic hook. -/
@[simp] def hook? : ServerEvent A P → Option (Hooks.Call P Bytes)
  | ⟨.preProcess before data, (after, read)⟩ => some ⟨false, before, data, after, read⟩
  | ⟨.postProcess before message, (after, wire)⟩ => some ⟨true, before, message, after, wire⟩
  | _ => none

/-- The calls of traffic hooks. -/
def hooks (tr : List (ServerEvent A P)) : List (Hooks.Call P Bytes) := tr.filterMap hook?

/-- The frames given to `pre_process_traffic`. -/
def inputs (tr : List (ServerEvent A P)) : List Bytes := Hooks.received (hooks tr)

/-- The frames as `pre_process_traffic` returned them. -/
def frames (tr : List (ServerEvent A P)) : List Bytes := Hooks.receivedOutputs (hooks tr)

/-- The replies, as given to `post_process_traffic`. -/
def replies (tr : List (ServerEvent A P)) : List Bytes := Hooks.sent (hooks tr)

/-- The replies, as `post_process_traffic` returned them. -/
def outputs (tr : List (ServerEvent A P)) : List Bytes := Hooks.sentOutputs (hooks tr)

@[simp] def call? : ServerEvent A P → Option (Bytes × Bytes)
  | ⟨.servePacket metaData payload, _⟩ => some (metaData, payload)
  | _ => none

/-- The packets passed to `serve_packet`. -/
def calls (tr : List (ServerEvent A P)) : List (Bytes × Bytes) := tr.filterMap call?

@[simp] def serve? : ServerEvent A P → Option (ServeCall A × ServeOutcome A)
  | ⟨.serve call, outcome⟩ => some (call, outcome)
  | _ => none

/-- The calls of handlers, with their outcomes. -/
def serves (tr : List (ServerEvent A P)) : List (ServeCall A × ServeOutcome A) :=
  tr.filterMap serve?

@[simp] def attempt? : ServerEvent A P → Option Bytes
  | ⟨.send wire, _⟩ => some wire
  | _ => none

/-- The frames given to `stream.send`, whatever came of it. -/
def attempts (tr : List (ServerEvent A P)) : List Bytes := tr.filterMap attempt?

/-- The frame an event puts on the wire. -/
@[simp] def wire? : ServerEvent A P → Option Bytes
  | ⟨.send wire, .ok ()⟩ => some wire
  | _ => none

/-- The frames sent. -/
def wires (tr : List (ServerEvent A P)) : List Bytes := tr.filterMap wire?

@[simp] def accept? : ServerEvent A P → Option (AcceptCall A P)
  | ⟨.accept call, _⟩ => some call
  | _ => none

/-- The calls of an `AcceptFn`. -/
def accepts (tr : List (ServerEvent A P)) : List (AcceptCall A P) := tr.filterMap accept?

/-- The last answer of `stream.next()` was an error. -/
def Broken (tr : List (ServerEvent A P)) : Prop :=
  ∃ kind, (polls tr).getLast? = some (some (.error kind))

section Snoc

variable (tr : List (ServerEvent A P)) (e : ServerEvent A P)

@[simp] theorem polls_nil : polls ([] : List (ServerEvent A P)) = [] := rfl

@[simp] theorem polls_snoc : polls (tr ++ [e]) = polls tr ++ (poll? e).toList :=
  Trace.filterMap_snoc _ tr e

@[simp] theorem received_nil : received ([] : List (ServerEvent A P)) = [] := rfl

@[simp] theorem received_snoc : received (tr ++ [e]) = received tr ++ (frame? e).toList :=
  Trace.filterMap_snoc _ tr e

@[simp] theorem hooks_nil : hooks ([] : List (ServerEvent A P)) = [] := rfl

@[simp] theorem hooks_snoc : hooks (tr ++ [e]) = hooks tr ++ (hook? e).toList :=
  Trace.filterMap_snoc _ tr e

@[simp] theorem inputs_nil : inputs ([] : List (ServerEvent A P)) = [] := rfl

@[simp] theorem inputs_snoc :
    inputs (tr ++ [e]) = inputs tr ++ Hooks.received (hook? e).toList := by
  simp only [inputs, hooks_snoc, Hooks.received_append]

@[simp] theorem frames_nil : frames ([] : List (ServerEvent A P)) = [] := rfl

@[simp] theorem frames_snoc :
    frames (tr ++ [e]) = frames tr ++ Hooks.receivedOutputs (hook? e).toList := by
  simp only [frames, hooks_snoc, Hooks.receivedOutputs_append]

@[simp] theorem replies_nil : replies ([] : List (ServerEvent A P)) = [] := rfl

@[simp] theorem replies_snoc :
    replies (tr ++ [e]) = replies tr ++ Hooks.sent (hook? e).toList := by
  simp only [replies, hooks_snoc, Hooks.sent_append]

@[simp] theorem outputs_nil : outputs ([] : List (ServerEvent A P)) = [] := rfl

@[simp] theorem outputs_snoc :
    outputs (tr ++ [e]) = outputs tr ++ Hooks.sentOutputs (hook? e).toList := by
  simp only [outputs, hooks_snoc, Hooks.sentOutputs_append]

@[simp] theorem calls_nil : calls ([] : List (ServerEvent A P)) = [] := rfl

@[simp] theorem calls_snoc : calls (tr ++ [e]) = calls tr ++ (call? e).toList :=
  Trace.filterMap_snoc _ tr e

@[simp] theorem serves_nil : serves ([] : List (ServerEvent A P)) = [] := rfl

@[simp] theorem serves_snoc : serves (tr ++ [e]) = serves tr ++ (serve? e).toList :=
  Trace.filterMap_snoc _ tr e

@[simp] theorem attempts_nil : attempts ([] : List (ServerEvent A P)) = [] := rfl

@[simp] theorem attempts_snoc : attempts (tr ++ [e]) = attempts tr ++ (attempt? e).toList :=
  Trace.filterMap_snoc _ tr e

@[simp] theorem wires_nil : wires ([] : List (ServerEvent A P)) = [] := rfl

@[simp] theorem wires_snoc : wires (tr ++ [e]) = wires tr ++ (wire? e).toList :=
  Trace.filterMap_snoc _ tr e

end Snoc

/-! ## Laws of the surroundings -/

/-- After an error, the next poll of a `Framed` yields `None`. -/
def framedLaw (before : List (ServerEvent A P)) : ServerEvent A P → Prop
  | ⟨.next, answer⟩ => Broken before → answer = none
  | _ => True

/-- A stream that yields no error is framed. -/
theorem framedLaw_of_no_error {tr : List (ServerEvent A P)}
    (hpolls : ∀ kind, some (.error kind) ∉ polls tr) : Along framedLaw tr := by
  rintro before ⟨op, answer⟩ after rfl
  cases op with
  | next =>
      rintro ⟨kind, hlast⟩
      refine absurd ?_ (hpolls kind)
      rw [polls, List.filterMap_append]
      exact List.mem_append_left _ (List.mem_of_getLast? hlast)
  | _ => trivial

/-- Handlers come to an end and give back the sender they got, unused. -/
def returnsSender (_ : List (ServerEvent A P)) : ServerEvent A P → Prop
  | ⟨.serve call, outcome⟩ => ∃ data, outcome = .finished data call.routeTx none
  | _ => True

/-- Who kept a sender may use it after the handler has come to its outcome. -/
def Kept (outcome : ServeOutcome A) : Prop := outcome.returnedTx = none ∧ outcome.sent = none

/-- `try_recv` yields a value that was sent on the channel, and does not miss a
value that a handler has sent. -/
def oneshotLaw (before : List (ServerEvent A P)) : ServerEvent A P → Prop
  | ⟨.tryRecv channel, some value⟩ => ∃ served ∈ serves before,
      served.1.routeTx = some ⟨channel⟩ ∧ (served.2.sent = some value ∨ Kept served.2)
  | ⟨.tryRecv channel, none⟩ => ∀ served ∈ serves before,
      served.1.routeTx = some ⟨channel⟩ → served.2.sent = none
  | _ => True

/-! ## Packets -/

variable (utils : Utils A)

/-- The packets in a list of frames: a meta frame alone, with an empty payload,
or with the frame after it when it announces a payload. -/
def packets (frames : List Bytes) : List (Bytes × Bytes) :=
  (Grouping.group (hasPayload utils) frames).map fun unit => (unit.1, unit.2.getD [])

/-- A meta frame whose payload has not come. -/
def awaited (frames : List Bytes) : Option Bytes := Grouping.pending (hasPayload utils) frames

@[simp] theorem packets_nil : packets utils [] = [] := rfl

@[simp] theorem awaited_nil : awaited utils [] = none := rfl

variable {utils}

theorem packets_snoc_alone {fs : List Bytes} {metaData : Bytes} (hready : awaited utils fs = none)
    (more : hasPayload utils metaData = false) :
    packets utils (fs ++ [metaData]) = packets utils fs ++ [(metaData, [])] ∧
      awaited utils (fs ++ [metaData]) = none := by
  obtain ⟨hgroup, hpending⟩ := Grouping.group_snoc_of_ready metaData hready
  constructor
  · simp [packets, hgroup, more]
  · simp [awaited, hpending, more]

theorem packets_snoc_announced {fs : List Bytes} {metaData : Bytes}
    (hready : awaited utils fs = none) (more : hasPayload utils metaData = true) :
    packets utils (fs ++ [metaData]) = packets utils fs ∧
      awaited utils (fs ++ [metaData]) = some metaData := by
  obtain ⟨hgroup, hpending⟩ := Grouping.group_snoc_of_ready metaData hready
  constructor
  · simp [packets, hgroup, more]
  · simp [awaited, hpending, more]

theorem packets_snoc_payload {fs : List Bytes} {metaData : Bytes} (payload : Bytes)
    (hawaited : awaited utils fs = some metaData) :
    packets utils (fs ++ [payload]) = packets utils fs ++ [(metaData, payload)] ∧
      awaited utils (fs ++ [payload]) = none := by
  obtain ⟨hgroup, hpending⟩ := Grouping.group_snoc_of_pending payload hawaited
  constructor
  · simp [packets, hgroup]
  · simp [awaited, hpending]

theorem packets_mono {first second : List Bytes} (h : first <+: second) :
    packets utils first <+: packets utils second :=
  (Grouping.group_mono h).map _

/-! ## Replies -/

/-- A packet that was answered: the call of a handler that came of it, if any,
and the reply. -/
structure Round (A : App) where
  packet : Bytes × Bytes
  handled : Option (ServeCall A × ServeOutcome A)
  message : Bytes

/-- The events of the round inside `serve_packet`. -/
def Round.inner (P : Type) (round : Round A) : List (ServerEvent A P) :=
  (round.handled.map fun served => ⟨.serve served.1, served.2⟩).toList

/-- The reply is the one made of what `serve_packet` returns for the packet,
when the handler it calls comes to the recorded outcome. -/
def Round.Valid (P : Type) (utils : Utils A) (router : TfServerRouter A) (addr : SocketAddr)
    (round : Round A) : Prop :=
  ∃ routeTx served,
    Run Prog.Step (router.servePacket utils round.packet.1 round.packet.2 addr routeTx)
      (round.inner P) (.ret served) ∧
    replyMessage utils served.1 = some round.message

end Connection

end FourthServer
