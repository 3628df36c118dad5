import FourthServer.Server.History

/-!
# What the connection loop owes

At every control point the loop has received frames, grouped them into packets,
called `serve_packet` on the packets and sent a reply for each call, except for
the one item it is working on.  `Tally` states this account of a history, with
what is still owed as its parameters, and `At` says which items are owed at
which control point.  `next_at` is the step lemma and `run_at` the run lemma;
the only law of the surroundings they use is that of `Framed` after an error.
It is needed at one place: the loop goes back to its top after a payload that
could not be read, and only the end of the stream that follows keeps the next
frame from being taken for a new packet.
-/

namespace FourthServer

open Resumption Trace

namespace Connection

open TfServerRouter

variable {A : App} {P : Type} (utils : Utils A) (router : TfServerRouter A) (addr : SocketAddr)

/-- Items the loop has taken on and not finished with. -/
structure Owed (A : App) where
  /-- Received and not pre-processed. -/
  unread : List Bytes := []
  /-- Packets not passed to `serve_packet`. -/
  uncalled : List (Bytes × Bytes) := []
  /-- Packets passed to `serve_packet` for which no reply was made. -/
  unreplied : List (Bytes × Bytes) := []
  /-- Handlers called for which no reply was made. -/
  unreported : List (ServeCall A × ServeOutcome A) := []
  /-- Replies not given to `send`. -/
  unattempted : List Bytes := []
  /-- Replies not sent. -/
  unsent : List Bytes := []

/-- The account of a history in which `owed` is still open. -/
structure Tally (tr : List (ServerEvent A P)) (owed : Owed A) : Prop where
  read : received tr = inputs tr ++ owed.unread
  called : packets utils (frames tr) = calls tr ++ owed.uncalled
  replied : ∃ rounds : List (Round A), calls tr = rounds.map Round.packet ++ owed.unreplied ∧
    serves tr = rounds.filterMap Round.handled ++ owed.unreported ∧
    replies tr = rounds.map Round.message ∧
    ∀ round ∈ rounds, round.Valid P utils router addr
  attempted : outputs tr = attempts tr ++ owed.unattempted
  sent : outputs tr = wires tr ++ owed.unsent

/-- What is owed at each control point. -/
inductive At (tr : List (ServerEvent A P)) : Point A P → Prop
  | top {st : ConnectionState P} (tally : Tally utils router addr tr {})
      (ready : awaited utils (frames tr) = none ∨ Broken tr) : At tr (.top st)
  | metaIn {st : ConnectionState P} {raw : Bytes}
      (tally : Tally utils router addr tr { unread := [raw] })
      (ready : awaited utils (frames tr) = none) : At tr (.metaIn st raw)
  | payloadWait {st : ConnectionState P} {metaData : Bytes} (tally : Tally utils router addr tr {})
      (head : awaited utils (frames tr) = some metaData) : At tr (.payloadWait st metaData)
  | payloadIn {st : ConnectionState P} {metaData raw : Bytes}
      (tally : Tally utils router addr tr { unread := [raw] })
      (head : awaited utils (frames tr) = some metaData) : At tr (.payloadIn st metaData raw)
  | calling {st : ConnectionState P} {metaData payload : Bytes}
      (tally : Tally utils router addr tr { uncalled := [(metaData, payload)] })
      (ready : awaited utils (frames tr) = none) : At tr (.calling st metaData payload)
  | serving {st : ConnectionState P} {call : ServeCall A} (packet : Bytes × Bytes)
      (tally : Tally utils router addr tr { unreplied := [packet] })
      (ready : awaited utils (frames tr) = none)
      (handled : dispatch utils router packet.1 packet.2 addr st.moveTx = .handled call) :
      At tr (.serving st call)
  | replying {st : ConnectionState P} (round : Round A)
      (tally : Tally utils router addr tr
        { unreplied := [round.packet], unreported := round.handled.toList })
      (ready : awaited utils (frames tr) = none)
      (valid : round.Valid P utils router addr) : At tr (.replying st round.message)
  | sending {st : ConnectionState P} {wire : Bytes}
      (tally : Tally utils router addr tr { unattempted := [wire], unsent := [wire] })
      (ready : awaited utils (frames tr) = none) : At tr (.sending st wire)
  | sent {st : ConnectionState P} (tally : Tally utils router addr tr {})
      (ready : awaited utils (frames tr) = none) : At tr (.checking st (.ok ()))
  | unsent {st : ConnectionState P} {kind : ErrorKind} (wire : Bytes)
      (tally : Tally utils router addr tr { unsent := [wire] }) :
      At tr (.checking st (.error kind))
  | accepting {call : AcceptCall A P} (lost : List Bytes) (one : lost.length ≤ 1)
      (tally : Tally utils router addr tr { unsent := lost }) : At tr (.accepting call)
  | closing (lost : List Bytes) (one : lost.length ≤ 1)
      (tally : Tally utils router addr tr { unsent := lost }) : At tr .closing
  | returned (lost : List Bytes) (one : lost.length ≤ 1)
      (tally : Tally utils router addr tr { unsent := lost }) : At tr .returned
  | unwound (packet : Bytes × Bytes) (handled : List (ServeCall A × ServeOutcome A))
      (tally : Tally utils router addr tr { unreplied := [packet], unreported := handled }) :
      At tr .unwound

variable {utils router addr} {tr : List (ServerEvent A P)}

/-! ## What one event does to the account -/

theorem tally_nil : Tally utils router addr ([] : List (ServerEvent A P)) {} :=
  ⟨rfl, rfl, ⟨[], rfl, rfl, rfl, by simp⟩, rfl, rfl⟩

/-- An event that the account does not mention. -/
theorem Tally.silent {owed : Owed A} (h : Tally utils router addr tr owed) {e : ServerEvent A P}
    (hframe : frame? e = none) (hhook : hook? e = none) (hcall : call? e = none)
    (hserve : serve? e = none) (hattempt : attempt? e = none) (hwire : wire? e = none) :
    Tally utils router addr (tr ++ [e]) owed where
  read := by
    rw [received_snoc, inputs_snoc, hframe, hhook]
    simpa using h.read
  called := by
    rw [frames_snoc, calls_snoc, hhook, hcall]
    simpa using h.called
  replied := by
    rw [calls_snoc, serves_snoc, replies_snoc, hcall, hserve, hhook]
    simpa using h.replied
  attempted := by
    rw [outputs_snoc, attempts_snoc, hhook, hattempt]
    simpa using h.attempted
  sent := by
    rw [outputs_snoc, wires_snoc, hhook, hwire]
    simpa using h.sent

theorem Tally.receive (h : Tally utils router addr tr {}) (raw : Bytes) :
    Tally utils router addr (tr ++ [⟨.next, some (.ok raw)⟩]) { unread := [raw] } where
  read := by simpa using h.read
  called := by simpa using h.called
  replied := by simpa using h.replied
  attempted := by simpa using h.attempted
  sent := by simpa using h.sent

theorem Tally.preProcess {raw : Bytes} (h : Tally utils router addr tr { unread := [raw] })
    {before after : P} {data : Bytes} {fresh : List (Bytes × Bytes)}
    (hpackets : packets utils (frames tr ++ [data]) = packets utils (frames tr) ++ fresh) :
    Tally utils router addr (tr ++ [⟨.preProcess before raw, (after, data)⟩])
      { uncalled := fresh } where
  read := by simpa using h.read
  called := by simpa [h.called] using hpackets
  replied := by simpa using h.replied
  attempted := by simpa using h.attempted
  sent := by simpa using h.sent

theorem Tally.call {metaData payload : Bytes}
    (h : Tally utils router addr tr { uncalled := [(metaData, payload)] }) :
    Tally utils router addr (tr ++ [⟨.servePacket metaData payload, ()⟩])
      { unreplied := [(metaData, payload)] } where
  read := by simpa using h.read
  called := by simpa using h.called
  replied := by
    obtain ⟨rounds, hcalls, hserves, hreplies, hvalid⟩ := h.replied
    refine ⟨rounds, ?_, by simpa using hserves, by simpa using hreplies, hvalid⟩
    simpa using hcalls
  attempted := by simpa using h.attempted
  sent := by simpa using h.sent

/-- A handler comes to its outcome. -/
theorem Tally.serve {packet : Bytes × Bytes}
    (h : Tally utils router addr tr { unreplied := [packet] }) (call : ServeCall A)
    (outcome : ServeOutcome A) :
    Tally utils router addr (tr ++ [⟨.serve call, outcome⟩])
      { unreplied := [packet], unreported := [(call, outcome)] } where
  read := by simpa using h.read
  called := by simpa using h.called
  replied := by
    obtain ⟨rounds, hcalls, hserves, hreplies, hvalid⟩ := h.replied
    refine ⟨rounds, by simpa using hcalls, ?_, by simpa using hreplies, hvalid⟩
    simpa using hserves
  attempted := by simpa using h.attempted
  sent := by simpa using h.sent

theorem Tally.reply {round : Round A}
    (h : Tally utils router addr tr
      { unreplied := [round.packet], unreported := round.handled.toList })
    (hvalid : round.Valid P utils router addr) {before after : P} {wire : Bytes} :
    Tally utils router addr (tr ++ [⟨.postProcess before round.message, (after, wire)⟩])
      { unattempted := [wire], unsent := [wire] } where
  read := by simpa using h.read
  called := by simpa using h.called
  replied := by
    obtain ⟨rounds, hcalls, hserves, hreplies, hrounds⟩ := h.replied
    refine ⟨rounds ++ [round], by simpa using hcalls, ?_, by simpa using hreplies, ?_⟩
    · rw [filterMap_snoc]
      simpa using hserves
    · intro other hother
      rcases List.mem_append.mp hother with hmem | hmem
      · exact hrounds other hmem
      · exact List.mem_singleton.mp hmem ▸ hvalid
  attempted := by simpa using h.attempted
  sent := by simpa using h.sent

theorem Tally.send {wire : Bytes}
    (h : Tally utils router addr tr { unattempted := [wire], unsent := [wire] }) :
    Tally utils router addr (tr ++ [⟨.send wire, .ok ()⟩]) {} where
  read := by simpa using h.read
  called := by simpa using h.called
  replied := by simpa using h.replied
  attempted := by simpa using h.attempted
  sent := by simpa using h.sent

theorem Tally.sendFails {wire : Bytes}
    (h : Tally utils router addr tr { unattempted := [wire], unsent := [wire] })
    (kind : ErrorKind) :
    Tally utils router addr (tr ++ [⟨.send wire, .error kind⟩]) { unsent := [wire] } where
  read := by simpa using h.read
  called := by simpa using h.called
  replied := by simpa using h.replied
  attempted := by simpa using h.attempted
  sent := by simpa using h.sent

/-! ## Steps and runs -/

/-- Where the account stands once `serve_packet` has returned. -/
theorem at_afterServed {st : ConnectionState P} {packet : Bytes × Bytes} {served : Served}
    {routeTx : Option Sender} (handled : Option (ServeCall A × ServeOutcome A))
    (tally : Tally utils router addr tr { unreplied := [packet], unreported := handled.toList })
    (ready : awaited utils (frames tr) = none)
    (hrun : Run Prog.Step (router.servePacket (P := P) utils packet.1 packet.2 addr routeTx)
      (handled.map fun served => ⟨.serve served.1, served.2⟩).toList (.ret served)) :
    At utils router addr tr (afterServed utils st served) := by
  unfold afterServed
  cases hmessage : replyMessage utils served.1 with
  | none => exact .unwound packet _ tally
  | some message =>
      have hvalid : Round.Valid P utils router addr ⟨packet, handled, message⟩ :=
        ⟨routeTx, served, hrun, hmessage⟩
      exact .replying ⟨packet, handled, message⟩ tally ready hvalid

theorem next_at {pt next : Point A P} {e : ServerEvent A P} (h : At utils router addr tr pt)
    (hnext : Next utils router addr pt e next) (hframed : framedLaw tr e) :
    At utils router addr (tr ++ [e]) next := by
  cases hnext with
  | metaFrame st raw =>
      cases h with
      | top tally ready =>
          rcases ready with hready | hbroken
          · exact .metaIn (tally.receive raw) (by simpa using hready)
          · -- after a decoding error the next poll yields no frame
            cases hframed hbroken
  | metaGone st kind gone =>
      cases h with
      | top tally ready => exact .closing [] (by simp) (by apply tally.silent <;> rfl)
  | metaError st kind stays =>
      cases h with
      | top tally ready => exact .top (by apply tally.silent <;> rfl) (.inr ⟨kind, by simp⟩)
  | metaEnd st =>
      cases h with
      | top tally ready => exact .closing [] (by simp) (by apply tally.silent <;> rfl)
  | announced st raw processor metaData more =>
      cases h with
      | metaIn tally ready =>
          obtain ⟨hpackets, hawaited⟩ := packets_snoc_announced ready more
          exact .payloadWait (tally.preProcess (by simpa using hpackets)) (by simpa using hawaited)
  | alone st raw processor metaData more =>
      cases h with
      | metaIn tally ready =>
          obtain ⟨hpackets, hawaited⟩ := packets_snoc_alone ready more
          exact .calling (tally.preProcess hpackets) (by simpa using hawaited)
  | payloadFrame st metaData raw =>
      cases h with
      | payloadWait tally head => exact .payloadIn (tally.receive raw) (by simpa using head)
  | payloadGone st metaData kind gone =>
      cases h with
      | payloadWait tally head => exact .closing [] (by simp) (by apply tally.silent <;> rfl)
  | payloadError st metaData kind stays =>
      cases h with
      | payloadWait tally head => exact .top (by apply tally.silent <;> rfl) (.inr ⟨kind, by simp⟩)
  | payloadEnd st metaData =>
      cases h with
      | payloadWait tally head => exact .closing [] (by simp) (by apply tally.silent <;> rfl)
  | payloadRead st metaData raw processor payload =>
      cases h with
      | payloadIn tally head =>
          obtain ⟨hpackets, hawaited⟩ := packets_snoc_payload payload head
          exact .calling (tally.preProcess hpackets) (by simpa using hawaited)
  | called st metaData payload =>
      cases h with
      | calling tally ready =>
          have hready : awaited utils
              (frames (tr ++ [⟨.servePacket metaData payload, ()⟩])) = none := by simpa using ready
          cases hdispatch : dispatch utils router metaData payload addr st.moveTx with
          | answered res =>
              have hrun : Run Prog.Step
                  (router.servePacket (P := P) utils metaData payload addr st.moveTx) []
                  (.ret (res, st.moveTx)) := by
                rw [servePacket_eq, hdispatch]
                exact Run.nil
              exact at_afterServed none tally.call hready hrun
          | handled call => exact .serving (metaData, payload) tally.call hready hdispatch
          | unwound =>
              -- a panic outside of `catch_unwind` leaves the packet without a reply
              exact .unwound (metaData, payload) [] tally.call
  | served st call outcome =>
      cases h with
      | serving packet tally ready handled =>
          have htally := tally.serve call outcome
          unfold afterOutcome
          cases houtcome : outcomeServed outcome with
          | none => exact .unwound packet _ htally
          | some served =>
              have hrun : Run Prog.Step
                  (router.servePacket (P := P) utils packet.1 packet.2 addr st.moveTx)
                  [⟨.serve call, outcome⟩] (.ret served) := by
                rw [servePacket_eq, handled]
                refine Run.single (Prog.step_op.mpr ⟨outcome, rfl, ?_⟩)
                rw [afterServe_eq, houtcome]
              exact at_afterServed (some (call, outcome)) htally (by simpa using ready) hrun
  | processed st message processor wire =>
      cases h with
      | replying round tally ready hvalid =>
          exact .sending (tally.reply hvalid) (by simpa using ready)
  | sent st wire res =>
      cases h with
      | sending tally ready =>
          match res with
          | .ok () => exact .sent tally.send (by simpa using ready)
          | .error kind => exact .unsent wire (tally.sendFails kind)
  | handedOver st res value =>
      cases h with
      | sent tally ready => exact .accepting [] (by simp) (by apply tally.silent <;> rfl)
      | unsent wire tally => exact .accepting [wire] (by simp) (by apply tally.silent <;> rfl)
  | senderGone st res gone =>
      cases h with
      | sent tally ready => exact .closing [] (by simp) (by apply tally.silent <;> rfl)
      | unsent wire tally => exact .closing [wire] (by simp) (by apply tally.silent <;> rfl)
  | sendFailed st kind kept =>
      cases h with
      | unsent wire tally => exact .returned [wire] (by simp) (by apply tally.silent <;> rfl)
  | again st kept =>
      cases h with
      | sent tally ready => exact .top (by apply tally.silent <;> rfl) (.inl (by simpa using ready))
  | accepted call =>
      cases h with
      | accepting lost one tally => exact .returned lost one (by apply tally.silent <;> rfl)
  | closed =>
      cases h with
      | closing lost one tally => exact .returned lost one (by apply tally.silent <;> rfl)

theorem run_at {st : ConnectionState P} {pt : Point A P}
    (run : Run (Next utils router addr) (.top st) tr pt) (hframed : Along framedLaw tr) :
    At utils router addr tr pt :=
  run.invariant_along (I := At utils router addr) (.top tally_nil (.inl rfl))
    (fun _ _ _ _ hat hnext hlaw => next_at hat hnext hlaw) hframed

end Connection

end FourthServer
