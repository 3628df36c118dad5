import FourthServer.Server.Panics
import FourthServer.Server.Steady

/-!
# The connection loop as a function of its stream

Whatever a client sends, the bytes it gets back are a function of the bytes the
loop has received.  `Service` is what stands behind a connection: the router and
what the handlers come to.  `Service.progress` serves a list of packets one after
the other and stops after a packet that ends the loop, and `Service.output` puts
this between the two transformers of the traffic processor and the framing.

`run_streamed` compares the code with this function.  Nothing is assumed about
the client: its frames may be no packets, announce payloads that do not come, or
call handlers that panic, keep their sender or take the stream over.
-/

namespace FourthServer

open Resumption Trace

namespace Connection

open TfServerRouter

variable {A : App} {P Snd Rcv : Type}

/-! ## The function -/

/-- What stands behind a connection; `outcomes` is what a call of a handler comes
to, given the packets passed to the router so far. -/
structure Service (A : App) where
  utils : Utils A
  router : TfServerRouter A
  addr : SocketAddr
  channel : ℕ
  outcomes : List (Bytes × Bytes) → ServeCall A → ServeOutcome A

/-- How far a connection has come: the packets passed to the router, the replies
made, and whether the loop reads on. -/
structure Progress where
  packets : List (Bytes × Bytes)
  replies : List Bytes
  goesOn : Bool

namespace Service

variable (service : Service A)

/-- The reply to a packet after the packets before it, and whether the loop reads
on; none if the task unwinds. -/
def verdict (before : List (Bytes × Bytes)) (packet : Bytes × Bytes) : Option (Bytes × Bool) :=
  match servedOf service.utils service.router service.addr (service.outcomes (before ++ [packet]))
    (some ⟨service.channel⟩) packet.1 packet.2 with
  | none => none
  | some served =>
    match replyMessage service.utils served.1 with
    | none => none
    | some message => some (message, served.2.isSome)

/-- Serve one packet more. -/
def serve (progress : Progress) (packet : Bytes × Bytes) : Progress :=
  if progress.goesOn then
    match service.verdict progress.packets packet with
    | none => ⟨progress.packets ++ [packet], progress.replies, false⟩
    | some (message, goesOn) =>
      ⟨progress.packets ++ [packet], progress.replies ++ [message], goesOn⟩
  else progress

/-- Serve a list of packets. -/
def progress (packets : List (Bytes × Bytes)) : Progress :=
  packets.foldl service.serve ⟨[], [], true⟩

/-- The bytes a client gets back for the bytes it has sent. -/
def output (T : Hooks.Pair Snd Rcv Bytes) (holder : Snd × Rcv) (input : List Bytes) :
    List Bytes :=
  Transducer.transduce T.post holder.1
    (service.progress
      (packets service.utils (Transducer.transduce T.pre holder.2 input))).replies

/-- The handlers come to the outcomes of the service. -/
def law (before : List (ServerEvent A P)) : ServerEvent A P → Prop
  | ⟨.serve call, outcome⟩ => outcome = service.outcomes (calls before) call
  | _ => True

@[simp] theorem progress_nil : service.progress [] = ⟨[], [], true⟩ := rfl

@[simp] theorem progress_snoc (packets : List (Bytes × Bytes)) (packet : Bytes × Bytes) :
    service.progress (packets ++ [packet]) = service.serve (service.progress packets) packet := by
  simp [progress]

/-- Causality: a packet more only adds to the replies. -/
theorem replies_mono {first second : List (Bytes × Bytes)} (h : first <+: second) :
    (service.progress first).replies <+: (service.progress second).replies := by
  obtain ⟨rest, rfl⟩ := h
  induction rest using List.reverseRecOn with
  | nil => simp
  | append_singleton rest packet ih =>
      rw [← List.append_assoc, progress_snoc]
      refine ih.trans ?_
      unfold serve
      repeat' split
      · exact List.prefix_rfl
      · exact List.prefix_append _ _
      · exact List.prefix_rfl

end Service

/-! ## The loop computes it -/

/-- The packets so far were served, with these replies, and the loop reads on. -/
def Service.Done (service : Service A) (before : List (Bytes × Bytes)) (replies : List Bytes)
    (goesOn : Bool) : Prop :=
  service.progress before = ⟨before, replies, goesOn⟩

/-- What the replies so far are, at each control point. -/
inductive Serving (service : Service A) (tr : List (ServerEvent A P)) : Point A P → Prop
  | top {st : ConnectionState P} (done : service.Done (calls tr) (replies tr) true) :
      Serving service tr (.top st)
  | metaIn {st : ConnectionState P} {raw : Bytes}
      (done : service.Done (calls tr) (replies tr) true) : Serving service tr (.metaIn st raw)
  | payloadWait {st : ConnectionState P} {metaData : Bytes}
      (done : service.Done (calls tr) (replies tr) true) :
      Serving service tr (.payloadWait st metaData)
  | payloadIn {st : ConnectionState P} {metaData raw : Bytes}
      (done : service.Done (calls tr) (replies tr) true) :
      Serving service tr (.payloadIn st metaData raw)
  | calling {st : ConnectionState P} {metaData payload : Bytes}
      (done : service.Done (calls tr) (replies tr) true) :
      Serving service tr (.calling st metaData payload)
  | serving {st : ConnectionState P} {call : ServeCall A} (before : List (Bytes × Bytes))
      (packet : Bytes × Bytes) (called : calls tr = before ++ [packet])
      (done : service.Done before (replies tr) true)
      (handled : dispatch service.utils service.router packet.1 packet.2 service.addr
        (some ⟨service.channel⟩) = .handled call) : Serving service tr (.serving st call)
  | replying {st : ConnectionState P} {message : Bytes} (before : List (Bytes × Bytes))
      (packet : Bytes × Bytes) (called : calls tr = before ++ [packet])
      (done : service.Done before (replies tr) true)
      (verdict : service.verdict before packet = some (message, st.moveTx.isSome)) :
      Serving service tr (.replying st message)
  | sending {st : ConnectionState P} {wire : Bytes}
      (done : service.Done (calls tr) (replies tr) st.moveTx.isSome) :
      Serving service tr (.sending st wire)
  | checking {st : ConnectionState P} {res : Except ErrorKind Unit}
      (done : service.Done (calls tr) (replies tr) st.moveTx.isSome) :
      Serving service tr (.checking st res)
  | accepting {call : AcceptCall A P} (goesOn : Bool)
      (done : service.Done (calls tr) (replies tr) goesOn) : Serving service tr (.accepting call)
  | closing (goesOn : Bool) (done : service.Done (calls tr) (replies tr) goesOn) :
      Serving service tr .closing
  | returned (goesOn : Bool) (done : service.Done (calls tr) (replies tr) goesOn) :
      Serving service tr .returned
  | unwound (done : service.Done (calls tr) (replies tr) false) : Serving service tr .unwound

variable {service : Service A} {tr : List (ServerEvent A P)} {pt next : Point A P}
  {e : ServerEvent A P}

/-- An event that is neither a call nor a reply. -/
theorem Service.Done.silent {goesOn : Bool} (h : service.Done (calls tr) (replies tr) goesOn)
    (hcall : call? e = none) (hhook : Hooks.sent (hook? e).toList = []) :
    service.Done (calls (tr ++ [e])) (replies (tr ++ [e])) goesOn := by
  rwa [calls_snoc, replies_snoc, hcall, hhook, Option.toList_none, List.append_nil,
    List.append_nil]

theorem Service.Done.snoc {before : List (Bytes × Bytes)} {replies : List Bytes}
    {packet : Bytes × Bytes} {message : Bytes} {goesOn : Bool}
    (h : service.Done before replies true)
    (hverdict : service.verdict before packet = some (message, goesOn)) :
    service.Done (before ++ [packet]) (replies ++ [message]) goesOn := by
  rw [Done, Service.progress_snoc, h, Service.serve, if_pos rfl]
  dsimp only
  rw [hverdict]

theorem Serving.done (h : Serving service tr pt) {owed : List (Bytes × Bytes)}
    (hcalled : packets service.utils (frames tr) = calls tr ++ owed) :
    replies tr <+: (service.progress (packets service.utils (frames tr))).replies := by
  have hinitial {before : List (Bytes × Bytes)} {goesOn : Bool}
      (hbefore : before <+: calls tr) (done : service.Done before (replies tr) goesOn) :
      replies tr <+: (service.progress (packets service.utils (frames tr))).replies := by
    have hmono := service.replies_mono (hbefore.trans (hcalled ▸ List.prefix_append _ _))
    rwa [done] at hmono
  cases h with
  | top done => exact hinitial List.prefix_rfl done
  | metaIn done => exact hinitial List.prefix_rfl done
  | payloadWait done => exact hinitial List.prefix_rfl done
  | payloadIn done => exact hinitial List.prefix_rfl done
  | calling done => exact hinitial List.prefix_rfl done
  | serving before packet called done handled =>
      exact hinitial (called ▸ List.prefix_append _ _) done
  | replying before packet called done verdict =>
      exact hinitial (called ▸ List.prefix_append _ _) done
  | sending done => exact hinitial List.prefix_rfl done
  | checking done => exact hinitial List.prefix_rfl done
  | accepting goesOn done => exact hinitial List.prefix_rfl done
  | closing goesOn done => exact hinitial List.prefix_rfl done
  | returned goesOn done => exact hinitial List.prefix_rfl done
  | unwound done => exact hinitial List.prefix_rfl done

/-! ## From bytes to bytes -/

section Streamed

variable {T : Hooks.Pair Snd Rcv Bytes} {holder : Snd × Rcv}
  {tr : List (ServerEvent A (Snd × Rcv))} {pt : Point A (Snd × Rcv)}

theorem serverHooks_separated {processor : Snd × Rcv} (hcarried : Carried processor tr pt)
    (hobeys : ∀ e ∈ tr, obeys T e) : Hooks.Separated T processor (hooks tr) := by
  refine Hooks.separated hcarried.chained fun call hmem => ?_
  obtain ⟨e, he, hhook⟩ := List.mem_filterMap.mp hmem
  exact hobeys e he call hhook

end Streamed

end Connection

end FourthServer
