import FourthServer.Link.Session

/-!
# A conversation that follows the program

The sequential program is a schedule of the two tasks: without processors, the
client takes a request and sends its frames, the server serves them to the end,
and the client reads on.  `Rehearsed` says that some conversation without
processors has come to a state of the program with the server at the top of its
loop.  The operations of `Session` are matched one by one
(`Rehearsed.serve`, `Rehearsed.resolve`, `Rehearsed.call`), so that the requests taken
lead to the session of the program (`rehearsed_process`).
-/

namespace FourthServer

open Resumption Trace Duplex Comparison Client Connection

namespace Link

variable {A : App}

/-- The state of a processor that changes nothing. -/
abbrev NoProcessor := Unit × Unit

/-- The variables of the server between two packets. -/
abbrev ready (setting : Setting A) : ConnectionState NoProcessor :=
  Connection.initial ((), ()) setting.channel

/-- The variables of the client between two requests. -/
abbrev Session.state (session : Session) : ClientState NoProcessor :=
  ⟨((), ()), cacheOf session.learnt⟩

/-- A conversation without processors that has come to a state of the program. -/
structure Stands (setting : Setting A) (pt : Client.Point A NoProcessor) (toRight : List Bytes)
    (pulled : List (Option (ClientRequest A))) (session : Session)
    (tr : List (LinkEvent A NoProcessor NoProcessor)) : Prop where
  conversation : PlainConversation setting tr
    ⟨pt.task setting.utils,
      (Connection.Point.top (ready setting)).task setting.utils setting.router setting.addr,
      toRight, session.unread⟩
  uneventful : ∀ e ∈ rights tr, Uneventful e
  seen : seen tr = session.seen
  pulls : pulls (lefts tr) = pulled

def Rehearsed (setting : Setting A) (pt : Client.Point A NoProcessor) (toRight : List Bytes)
    (pulled : List (Option (ClientRequest A))) (session : Session) : Prop :=
  ∃ tr, Stands setting pt toRight pulled session tr

variable {setting : Setting A} {pt next : Client.Point A NoProcessor} {toRight rest : List Bytes}
  {pulled : List (Option (ClientRequest A))} {session : Session}

theorem rehearsed_start : Rehearsed setting (.top Session.start.state) [] [] Session.start :=
  ⟨[], conversation_nil, by simp, rfl, rfl⟩

/-! ## One task moves alone -/

theorem Rehearsed.client {events : List (ClientEvent A NoProcessor)} {sent : List Bytes}
    {more : List (Option (ClientRequest A))} {found : List (String × ℕ)}
    {handed : List (ℕ × Bytes)} (h : Rehearsed setting pt toRight pulled session)
    (run : Run (Client.Next setting.utils) pt events next)
    (hcalm : ∀ e ∈ events, Client.quietLaw [] e ∧ Client.obeys plain e ∧
      Client.poll? e ≠ some none)
    (hunread : session.unread = Client.received events ++ rest)
    (hsent : Client.wires events = sent) (hmore : pulls events = more)
    (hfound : learnt events = found) (hhanded : deliveries events = handed)
    (hfed : pulled ++ more <+: setting.queue) :
    Rehearsed setting next (toRight ++ sent) (pulled ++ more)
      { session with
        unread := rest
        learnt := session.learnt ++ found
        delivered := session.delivered ++ handed } := by
  obtain ⟨tr, ⟨hrun, ⟨hquiet, hobeys, hserver, hserverHooks⟩, -, hhandled⟩, huneventful, hseen,
    hpulls⟩ := h
  have hlefts : lefts (tr ++ events.map .inl) = lefts tr ++ events := by simp
  have hrights : rights (tr ++ events.map .inl) = rights tr := by simp
  have hevents : Along (fun before => Client.quietLaw (lefts tr ++ before)) events :=
    (along_const.mpr fun e he => (hcalm e he).1).mono fun _ _ hlaw => hlaw
  have hpulled : pulls (lefts tr ++ events) = pulled ++ more := by
    rw [Client.pulls, List.filterMap_append]
    exact congrArg₂ (· ++ ·) hpulls hmore
  refine ⟨tr ++ events.map .inl, ⟨?_, ⟨?_, ?_, ?_, ?_⟩, ?_, ?_⟩, ?_, ?_, ?_⟩
  · rw [← hsent]
    exact hrun.append (Duplex.run_left (Client.run_of_points run) hunread
      fun e he => (hcalm e he).2.2)
  · rw [hlefts]
    exact along_append.mpr ⟨hquiet, hevents⟩
  · rw [hlefts]
    exact List.forall_mem_append.mpr ⟨hobeys, fun e he => (hcalm e he).2.1⟩
  · rwa [hrights]
  · rwa [hrights]
  · rwa [hlefts, hpulled]
  · rwa [hrights]
  · rwa [hrights]
  · rw [Link.seen, hlefts, hrights, learnt, deliveries, List.filterMap_append,
      List.filterMap_append]
    injection hseen with hpackets hlearnt hdelivered
    rw [hpackets, Session.seen]
    exact congrArg₂ (Seen.mk session.packets) (congrArg₂ (· ++ ·) hlearnt hfound)
      (congrArg₂ (· ++ ·) hdelivered hhanded)
  · rw [hlefts, hpulled]

/-- Handlers return what they are to, after these packets. -/
def handledAfter (setting : Setting A) (packets : List (Bytes × Bytes))
    (before : List (ServerEvent A NoProcessor)) : ServerEvent A NoProcessor → Prop
  | ⟨.serve call, outcome⟩ =>
    outcome = .finished (setting.handlers (packets ++ calls before) call) call.routeTx none
  | _ => True

theorem Rehearsed.server {events : List (ServerEvent A NoProcessor)}
    (h : Rehearsed setting pt (Connection.received events ++ toRight) pulled session)
    (run : Run (Connection.Next setting.utils setting.router setting.addr) (.top (ready setting))
      events (.top (ready setting)))
    (hcalm : ∀ e ∈ events, Uneventful e ∧ Connection.obeys plain e ∧
      Connection.poll? e ≠ some none)
    (hhandled : Along (handledAfter setting session.packets) events) :
    Rehearsed setting pt toRight pulled
      { session with
        packets := session.packets ++ calls events
        unread := session.unread ++ Connection.wires events } := by
  obtain ⟨tr, ⟨hrun, ⟨hquiet, hobeys, -, hserverHooks⟩, hfed, hearlier⟩, huneventful, hseen,
    hpulls⟩ := h
  have hlefts : lefts (tr ++ events.map .inr) = lefts tr := by simp
  have hrights : rights (tr ++ events.map .inr) = rights tr ++ events := by simp
  have hall : ∀ e ∈ rights (tr ++ events.map .inr), Uneventful e := by
    rw [hrights]
    exact List.forall_mem_append.mpr ⟨huneventful, fun e he => (hcalm e he).1⟩
  injection hseen with hpackets hlearnt hdelivered
  have hcalls (before : List (ServerEvent A NoProcessor)) :
      calls (rights tr ++ before) = session.packets ++ calls before := by
    rw [calls, List.filterMap_append]
    exact congrArg (· ++ calls before) hpackets
  refine ⟨tr ++ events.map .inr, ⟨?_, ⟨?_, ?_, ?_, ?_⟩, ?_, ?_⟩, hall, ?_, ?_⟩
  · exact hrun.append (Duplex.run_right (Connection.run_of_points run) rfl
      fun e he => (hcalm e he).2.2)
  · rwa [hlefts]
  · rwa [hlefts]
  · exact quietLaw_of_uneventful hall
  · rw [hrights]
    exact List.forall_mem_append.mpr ⟨hserverHooks, fun e he => (hcalm e he).2.1⟩
  · rwa [hlefts]
  · rw [hrights]
    refine along_append.mpr ⟨hearlier, hhandled.mono fun before e hlaw => ?_⟩
    obtain ⟨op, answer⟩ := e
    cases op with
    | serve call =>
        show answer = _
        rw [hcalls before]
        exact hlaw
    | _ => trivial
  · rw [Link.seen, hlefts, hrights, hcalls, hlearnt, hdelivered]
    rfl
  · rwa [hlefts]

/-! ## The server serves a packet -/

/-- The events from the reply to a packet on. -/
def replyingWith (setting : Setting A) (message : Bytes) : List (ServerEvent A NoProcessor) :=
  [⟨.postProcess ((), ()) message, (((), ()), message)⟩, ⟨.send message, .ok ()⟩,
    ⟨.tryRecv setting.channel, none⟩]

theorem replyingWith_run (setting : Setting A) (message : Bytes) :
    Run (Connection.Next setting.utils setting.router setting.addr)
      (.replying (ready setting) message) (replyingWith setting message)
      (.top (ready setting)) :=
  Run.cons (.processed _ _ _ _) <| Run.cons (.sent _ _ _) <|
    Run.cons (.again (ready setting) rfl) Run.nil

/-- The events of a served packet, from the call of `serve_packet` on. -/
structure Serves (setting : Setting A) (packets : List (Bytes × Bytes)) (packet : Bytes × Bytes)
    (message : Bytes) (events : List (ServerEvent A NoProcessor)) : Prop where
  run : Run (Connection.Next setting.utils setting.router setting.addr)
    (.calling (ready setting) packet.1 packet.2) events (.top (ready setting))
  calm : ∀ e ∈ events, Uneventful e ∧ Connection.obeys plain e ∧
    Connection.poll? e ≠ some none
  handled : Along (handledAfter setting packets) events
  received : Connection.received events = []
  calls : calls events = [packet]
  wires : Connection.wires events = [message]

theorem replyingWith_calm (setting : Setting A) (message : Bytes) :
    ∀ e ∈ replyingWith setting message, Uneventful e ∧
      Connection.obeys plain e ∧ Connection.poll? e ≠ some none := by
  simp only [replyingWith, List.forall_mem_cons]
  refine ⟨⟨trivial, ?_, by simp⟩, ⟨rfl, Connection.obeys_of_unhooked _ rfl, by simp⟩,
    ⟨rfl, Connection.obeys_of_unhooked _ rfl, by simp⟩, List.forall_mem_nil _⟩
  rintro call ⟨⟩
  rfl

/-- A packet that the router answers by itself. -/
theorem serves_answered {packets : List (Bytes × Bytes)} {packet : Bytes × Bytes}
    {res : Except ServerError Bytes} {message : Bytes}
    (hdispatch : setting.router.dispatch setting.utils packet.1 packet.2 setting.addr
      (some ⟨setting.channel⟩) = .answered res)
    (hmessage : replyMessage setting.utils res = some message) :
    Serves setting packets packet message
      (⟨.servePacket packet.1 packet.2, ()⟩ :: replyingWith setting message) where
  run := by
    refine Run.cons (.called _ _ _) ?_
    show Run _ (afterDispatch setting.utils (ready setting) (setting.router.dispatch _ _ _ _
      (some ⟨setting.channel⟩))) _ _
    rw [hdispatch]
    show Run _ (afterServed setting.utils (ready setting) (res, some ⟨setting.channel⟩)) _ _
    rw [afterServed, hmessage]
    exact replyingWith_run setting message
  calm := List.forall_mem_cons.mpr ⟨⟨trivial, Connection.obeys_of_unhooked _ rfl, by simp⟩,
    replyingWith_calm setting message⟩
  handled := by
    simp only [replyingWith, along_cons, along_nil]
    exact ⟨trivial, trivial, trivial, trivial, trivial⟩
  received := rfl
  calls := rfl
  wires := rfl

/-- A packet that a handler answers. -/
theorem serves_handled {packets : List (Bytes × Bytes)} {packet : Bytes × Bytes}
    {handler : ServeCall A} {message : Bytes}
    (hdispatch : setting.router.dispatch setting.utils packet.1 packet.2 setting.addr
      (some ⟨setting.channel⟩) = .handled handler)
    (hverdict : setting.service.verdict packets packet = some (message, true)) :
    Serves setting packets packet message
      (⟨.servePacket packet.1 packet.2, ()⟩ ::
        ⟨.serve handler, .finished (setting.handlers (packets ++ [packet]) handler)
          handler.routeTx none⟩ :: replyingWith setting message) where
  run := by
    refine Run.cons (.called _ _ _) ?_
    show Run _ (afterDispatch setting.utils (ready setting) (setting.router.dispatch _ _ _ _
      (some ⟨setting.channel⟩))) _ _
    rw [hdispatch]
    refine Run.cons (.served _ _ _) ?_
    have htx := (TfServerRouter.dispatch_handled hdispatch).1
    rw [htx]
    simp only [Setting.service, Service.verdict, servedOf, hdispatch, htx] at hverdict
    -- the reply is made of the handler's result, and the sender is back
    cases hdata : setting.handlers (packets ++ [packet]) handler with
    | ok data =>
        rw [hdata] at hverdict
        obtain rfl : data = message := by
          simpa [TfServerRouter.outcomeServed, replyMessage] using hverdict
        exact replyingWith_run setting data
    | error err =>
        rw [hdata] at hverdict
        simp only [TfServerRouter.outcomeServed, replyMessage] at hverdict
        cases hmessage : setting.utils.toBytesErr ⟨.internalError (some err)⟩ with
        | none =>
            rw [hmessage] at hverdict
            cases hverdict
        | some bytes =>
            rw [hmessage] at hverdict
            cases hverdict
            show Run _ (afterServed setting.utils (ready setting)
              (.error ⟨.internalError (some err)⟩, some ⟨setting.channel⟩)) _ _
            rw [afterServed, replyMessage, hmessage]
            exact replyingWith_run setting message
  calm := List.forall_mem_cons.mpr ⟨⟨trivial, Connection.obeys_of_unhooked _ rfl, by simp⟩,
    List.forall_mem_cons.mpr ⟨⟨⟨_, rfl⟩, Connection.obeys_of_unhooked _ rfl, by simp⟩,
      replyingWith_calm setting message⟩⟩
  handled := by
    simp only [replyingWith, along_cons, along_nil]
    exact ⟨trivial, rfl, trivial, trivial, trivial, trivial⟩
  received := rfl
  calls := rfl
  wires := rfl

theorem exists_serves (htotal : setting.utils.Total) (packets : List (Bytes × Bytes))
    (packet : Bytes × Bytes) (hreads : ReadsMeta setting.utils setting.router packet.1) :
    ∃ message events, setting.reply packets packet = some message ∧
      Serves setting packets packet message events := by
  obtain ⟨message, hverdict⟩ := exists_verdict htotal packets hreads
  have hreply : setting.reply packets packet = some message := by
    rw [Setting.reply, hverdict]
    rfl
  cases hdispatch : setting.router.dispatch setting.utils packet.1 packet.2 setting.addr
      (some ⟨setting.channel⟩) with
  | unwound => exact absurd hdispatch (dispatch_ne_unwound htotal hreads _ _)
  | answered res =>
      refine ⟨message, _, hreply, serves_answered hdispatch ?_⟩
      simp only [Setting.service, Service.verdict, servedOf, hdispatch] at hverdict
      cases hmessage : replyMessage setting.utils res with
      | none =>
          rw [hmessage] at hverdict
          cases hverdict
      | some bytes =>
          rw [hmessage] at hverdict
          cases hverdict
          rfl
  | handled handler => exact ⟨message, _, hreply, serves_handled hdispatch hverdict⟩

/-- The server reads a frame. -/
def readingIn (frame : Bytes) : List (ServerEvent A NoProcessor) :=
  [⟨.next, some (.ok frame)⟩, ⟨.preProcess ((), ()) frame, (((), ()), frame)⟩]

theorem readingIn_calm (frame : Bytes) :
    ∀ e ∈ (readingIn frame : List (ServerEvent A NoProcessor)), Uneventful e ∧
      Connection.obeys plain e ∧ Connection.poll? e ≠ some none := by
  simp only [readingIn, List.forall_mem_cons]
  refine ⟨⟨trivial, Connection.obeys_of_unhooked _ rfl, by simp⟩, ⟨trivial, ?_, by simp⟩,
    List.forall_mem_nil _⟩
  rintro call ⟨⟩
  rfl

/-- The server reads some frames and serves the packet they make. -/
theorem Rehearsed.serve_read {read : List (ServerEvent A NoProcessor)} {packet : Bytes × Bytes}
    {message : Bytes} {events : List (ServerEvent A NoProcessor)}
    (h : Rehearsed setting pt (Connection.received read ++ toRight) pulled session)
    (hread : Run (Connection.Next setting.utils setting.router setting.addr) (.top (ready setting))
      read (.calling (ready setting) packet.1 packet.2))
    (hcalm : ∀ e ∈ read, Uneventful e ∧ Connection.obeys plain e ∧
      Connection.poll? e ≠ some none)
    (hsilent : ∀ e ∈ read, call? e = none ∧ Connection.wire? e = none ∧ serve? e = none)
    (hserves : Serves setting session.packets packet message events)
    (hreply : setting.reply session.packets packet = some message) :
    Rehearsed setting pt toRight pulled (session.serve setting packet) := by
  have hcalls : calls (read ++ events) = [packet] := by
    rw [calls, List.filterMap_append, List.filterMap_eq_nil_iff.mpr fun e he => (hsilent e he).1,
      List.nil_append]
    exact hserves.calls
  have hwires : Connection.wires (read ++ events) = [message] := by
    rw [Connection.wires, List.filterMap_append,
      List.filterMap_eq_nil_iff.mpr fun e he => (hsilent e he).2.1, List.nil_append]
    exact hserves.wires
  have hreceived : Connection.received (read ++ events) = Connection.received read := by
    rw [Connection.received, List.filterMap_append]
    exact (congrArg (Connection.received read ++ ·) hserves.received).trans (List.append_nil _)
  have hhandled : Along (handledAfter setting session.packets) (read ++ events) := by
    refine along_append.mpr ⟨?_, hserves.handled.mono fun before e hlaw => ?_⟩
    · rintro before ⟨op, answer⟩ after hsplit
      have hserve := (hsilent ⟨op, answer⟩ (by simp [hsplit])).2.2
      cases op with
      | serve handler => cases hserve
      | _ => trivial
    · obtain ⟨op, answer⟩ := e
      cases op with
      | serve handler =>
          show answer = _
          rw [calls, List.filterMap_append,
            List.filterMap_eq_nil_iff.mpr fun e he => (hsilent e he).1, List.nil_append]
          exact hlaw
      | _ => trivial
  have hboth := Rehearsed.server (hreceived ▸ h) (hread.append hserves.run)
    (List.forall_mem_append.mpr ⟨hcalm, hserves.calm⟩) hhandled
  rw [hcalls, hwires] at hboth
  rwa [Session.serve, hreply]

/-- The server serves a frame that is a packet of its own. -/
theorem Rehearsed.serve (htotal : setting.utils.Total) {metaData : Bytes}
    (h : Rehearsed setting pt (metaData :: toRight) pulled session)
    (hreads : ReadsMeta setting.utils setting.router metaData)
    (hmore : hasPayload setting.utils metaData = false) :
    Rehearsed setting pt toRight pulled (session.serve setting (metaData, [])) := by
  obtain ⟨message, events, hreply, hserves⟩ :=
    exists_serves htotal session.packets (metaData, []) hreads
  have hread : Rehearsed setting pt (Connection.received (readingIn (A := A) metaData) ++ toRight)
      pulled session := h
  refine hread.serve_read ?_ (readingIn_calm metaData) (by simp [readingIn]) hserves hreply
  exact Run.cons (.metaFrame _ _) <| Run.cons (.alone (ready setting) _ _ _ hmore) Run.nil

/-- The server serves a frame together with the payload it announces. -/
theorem Rehearsed.serve_announced (htotal : setting.utils.Total)
    {metaData payload : Bytes} (h : Rehearsed setting pt (metaData :: payload :: toRight) pulled
      session) (hreads : ReadsMeta setting.utils setting.router metaData)
    (hmore : hasPayload setting.utils metaData = true) :
    Rehearsed setting pt toRight pulled (session.serve setting (metaData, payload)) := by
  obtain ⟨message, events, hreply, hserves⟩ :=
    exists_serves htotal session.packets (metaData, payload) hreads
  have hcalm := List.forall_mem_append.mpr
    ⟨readingIn_calm (A := A) metaData, readingIn_calm (A := A) payload⟩
  have hread : Rehearsed setting pt
      (Connection.received (readingIn (A := A) metaData ++ readingIn payload) ++ toRight) pulled
      session := h
  refine hread.serve_read ?_ hcalm (by simp [readingIn]) hserves hreply
  exact Run.cons (.metaFrame _ _) <| Run.cons (.announced (ready setting) _ _ _ hmore) <|
    Run.cons (.payloadFrame _ _ _) <| Run.cons (.payloadRead (ready setting) _ _ _ _) Run.nil

/-! ## The client follows the program -/

/-- An event of the client that nothing disturbs. -/
def Untroubled (e : ClientEvent A NoProcessor) : Prop :=
  Client.quietLaw [] e ∧ Client.obeys plain e ∧ Client.poll? e ≠ some none

theorem untroubled_send (site : SendSite) (wire : Bytes) :
    Untroubled (⟨.send site wire, .ok ()⟩ : ClientEvent A NoProcessor) :=
  ⟨rfl, Client.obeys_of_unhooked _ rfl, by simp⟩

theorem untroubled_post (message : Bytes) :
    Untroubled
      (⟨.postProcess ((), ()) message, (((), ()), message)⟩ : ClientEvent A NoProcessor) := by
  refine ⟨trivial, ?_, by simp⟩
  rintro call ⟨⟩
  rfl

theorem untroubled_pre (message : Bytes) :
    Untroubled
      (⟨.preProcess ((), ()) message, (((), ()), message)⟩ : ClientEvent A NoProcessor) := by
  refine ⟨trivial, ?_, by simp⟩
  rintro call ⟨⟩
  rfl

theorem untroubled_frame (frame : Bytes) :
    Untroubled (⟨.next, some (.ok frame)⟩ : ClientEvent A NoProcessor) :=
  ⟨trivial, Client.obeys_of_unhooked _ rfl, by simp⟩

/-- The requests taken so far are those of the setting. -/
theorem Rehearsed.fed (h : Rehearsed setting pt toRight pulled session) :
    pulled <+: setting.queue := by
  obtain ⟨tr, hstands⟩ := h
  exact hstands.pulls ▸ hstands.conversation.fed

/-- Events of the client that only send and read. -/
theorem Rehearsed.move {events : List (ClientEvent A NoProcessor)} {sent : List Bytes}
    (h : Rehearsed setting pt toRight pulled session)
    (run : Run (Client.Next setting.utils) pt events next) (hcalm : ∀ e ∈ events, Untroubled e)
    (hunread : session.unread = Client.received events ++ rest)
    (hsent : Client.wires events = sent) (hpulls : pulls events = [])
    (hlearnt : learnt events = []) (hdeliveries : deliveries events = []) :
    Rehearsed setting next (toRight ++ sent) pulled { session with unread := rest } := by
  have hmoved := h.client run hcalm hunread hsent hpulls hlearnt hdeliveries (by simpa using h.fed)
  simpa only [List.append_nil] using hmoved

/-- The client takes a request. -/
theorem Rehearsed.take (h : Rehearsed setting (.top session.state) [] pulled session)
    {request : ClientRequest A} (hfed : pulled ++ [some request] <+: setting.queue) :
    Rehearsed setting (entry setting.utils session.state request) [] (pulled ++ [some request])
      session := by
  have htaken : Rehearsed setting (entry setting.utils session.state request) ([] ++ [])
      (pulled ++ [some request])
      { session with
        learnt := session.learnt ++ []
        delivered := session.delivered ++ [] } :=
    h.client (Run.single (Client.Next.taken session.state request))
      (List.forall_mem_singleton.mpr ⟨trivial, Client.obeys_of_unhooked _ rfl, by simp⟩) rfl rfl
      rfl rfl rfl hfed
  simpa only [List.append_nil] using htaken

/-- A failed request is logged. -/
theorem Rehearsed.warn {error : ClientError}
    (h : Rehearsed setting (.warning session.state error) [] pulled session) :
    Rehearsed setting (.top session.state) [] pulled session :=
  h.move (Run.single (Client.Next.warned session.state error))
    (List.forall_mem_singleton.mpr ⟨trivial, Client.obeys_of_unhooked _ rfl, by simp⟩) rfl rfl rfl
    rfl rfl

/-- What the client does once the sequential program has resolved a handler. -/
def Resolved (setting : Setting A) (request : ClientRequest A)
    (pulled : List (Option (ClientRequest A))) : Session × Option ℕ → Prop
  | (session, none) => Rehearsed setting (.top session.state) [] pulled session
  | (session, some id) =>
    Rehearsed setting (afterId setting.utils session.state request id) [] pulled session

/-- The client reads the answer to a question. -/
theorem Rehearsed.learn {request : ClientRequest A} {name : String}
    (h : Rehearsed setting (.routeWaiting session.state request name) [] pulled session)
    (hunread : session.unread ≠ []) :
    Resolved setting request pulled (session.learn setting name) := by
  cases hreplies : session.unread with
  | nil => exact absurd hreplies hunread
  | cons answer rest =>
      have hread : Rehearsed setting
          (afterAnswer setting.utils session.state request name answer) ([] ++ []) pulled
          { session with unread := rest } := by
        refine h.move (Run.cons (.routeFrame _ _ _ answer) <|
          Run.single (.answered session.state _ _ _ ((), ()) answer)) ?_ hreplies rfl rfl rfl rfl
        exact List.forall_mem_cons.mpr ⟨untroubled_frame answer,
          List.forall_mem_singleton.mpr (untroubled_pre answer)⟩
      unfold Session.learn Session.read
      rw [hreplies]
      unfold afterAnswer at hread
      dsimp only
      cases haccess : setting.utils.accessAns answer with
      | error text =>
          rw [haccess] at hread
          exact hread.warn
      | ok metaAns =>
          rw [haccess] at hread
          dsimp only at hread ⊢
          have hlearnt : Rehearsed setting _ ([] ++ []) (pulled ++ [])
              { session with
                unread := rest
                learnt := session.learnt ++ [(name, metaAns.id)]
                delivered := session.delivered ++ [] } :=
            hread.client (Run.single (.learned _ _ _ _))
              (List.forall_mem_singleton.mpr ⟨trivial, Client.obeys_of_unhooked _ rfl, by simp⟩)
              rfl rfl rfl rfl rfl (by simpa using hread.fed)
          simp only [List.append_nil] at hlearnt
          rw [← cacheOf_snoc] at hlearnt
          exact hlearnt

/-- The client reads a response and delivers it. -/
theorem Rehearsed.deliver {request : ClientRequest A} {id : ℕ}
    (h : Rehearsed setting (.waiting session.state request id) [] pulled session)
    (hunread : session.unread ≠ []) :
    Rehearsed setting (.top session.state) [] pulled (session.deliver request.consumer) := by
  cases hreplies : session.unread with
  | nil => exact absurd hreplies hunread
  | cons response rest =>
      have hread : Rehearsed setting (.delivering session.state request id response) ([] ++ [])
          pulled { session with unread := rest } := by
        refine h.move (Run.cons (.responseFrame _ _ _ response) <|
          Run.single (.responseRead session.state _ _ _ ((), ()) response)) ?_ hreplies rfl rfl
          rfl rfl
        exact List.forall_mem_cons.mpr ⟨untroubled_frame response,
          List.forall_mem_singleton.mpr (untroubled_pre response)⟩
      have hdelivered : Rehearsed setting (.top session.state) ([] ++ []) (pulled ++ [])
          { session with
            unread := rest
            learnt := session.learnt ++ []
            delivered := session.delivered ++ [(request.consumer, response)] } :=
        hread.client (Run.single (.delivered _ _ _ _ (.ok ())))
          (List.forall_mem_singleton.mpr ⟨trivial, Client.obeys_of_unhooked _ rfl, by simp⟩)
          rfl rfl rfl rfl rfl (by simpa using hread.fed)
      simp only [List.append_nil] at hdelivered
      unfold Session.deliver Session.read
      rw [hreplies]
      exact hdelivered

theorem state_send (setting : Setting A) (session : Session) (metaData data : Bytes) :
    (session.send setting metaData data).state = session.state := by
  unfold Session.send
  split <;> rfl

theorem state_deliver (session : Session) (consumer : ℕ) :
    (session.deliver consumer).state = session.state := by
  unfold Session.deliver Session.read
  cases session.unread <;> rfl

theorem unread_serve_ne_nil (htotal : setting.utils.Total) (session : Session)
    {packet : Bytes × Bytes} (hreads : ReadsMeta setting.utils setting.router packet.1) :
    (session.serve setting packet).unread ≠ [] := by
  intro hnil
  have hlength := Session.length_serve htotal session hreads
  rw [hnil, List.length_nil] at hlength
  omega

section Lawful

variable (hlawful : setting.utils.Lawful)

include hlawful

/-- The client asks for an id, and the server answers. -/
theorem Rehearsed.ask {request : ClientRequest A} {name : String} {question : Bytes}
    (h : Rehearsed setting (.routing session.state request name question) [] pulled session)
    (hquestion : setting.utils.toBytesReq ⟨.handlerMetaReq, name⟩ = some question) :
    Resolved setting request pulled (session.ask setting name) := by
  have hasked : Rehearsed setting (.routeWaiting session.state request name) [question] pulled
      session := by
    refine h.move (Run.cons (.asked session.state _ _ _ ((), ()) question) <|
      Run.single (.routeSent _ _ _ _)) ?_ rfl rfl rfl rfl rfl
    exact List.forall_mem_cons.mpr ⟨untroubled_post question,
      List.forall_mem_singleton.mpr (untroubled_send _ _)⟩
  have hreads : ReadsMeta setting.utils setting.router question :=
    readsMeta_question hlawful hquestion
  have hserved := hasked.serve hlawful.toTotal hreads (hasPayload_question hlawful hquestion)
  unfold Session.ask
  rw [hquestion]
  exact Rehearsed.learn hserved (unread_serve_ne_nil hlawful.toTotal _ hreads)

/-- The client finds the id of the request's handler as the program does. -/
theorem Rehearsed.resolve {request : ClientRequest A}
    (h : Rehearsed setting (entry setting.utils session.state request) [] pulled session) :
    Resolved setting request pulled (session.resolve setting request.req.handlerInfo) := by
  unfold entry at h
  unfold Session.resolve
  cases hid : request.req.handlerInfo.id with
  | some id =>
      rw [hid] at h
      exact h
  | none =>
      rw [hid] at h
      dsimp only at h ⊢
      cases hnamed : request.req.handlerInfo.named with
      | none =>
          rw [hnamed] at h
          exact h.warn
      | some name =>
          rw [hnamed] at h
          dsimp only at h ⊢
          unfold afterName at h
          cases hlookup : lookupRoute (cacheOf session.learnt) name with
          | some id =>
              rw [hlookup] at h
              exact h
          | none =>
              rw [hlookup] at h
              dsimp only at h ⊢
              obtain ⟨question, hquestion⟩ := hlawful.reqBytes ⟨.handlerMetaReq, name⟩
              rw [hquestion] at h
              exact h.ask hlawful hquestion

/-- The server serves the two frames of a request as the program does. -/
theorem Rehearsed.send {request : ClientRequest A} {id : ℕ} {metaData : Bytes}
    (h : Rehearsed setting pt [metaData, request.req.data] pulled session)
    (hmeta : setting.utils.toBytesMeta (metaOf request id) = some metaData)
    (hreads : ReadsMeta setting.utils setting.router metaData) :
    Rehearsed setting pt [] pulled (session.send setting metaData request.req.data) := by
  have hmore := hasPayload_meta hlawful hmeta
  unfold Session.send
  cases hdata : request.req.data.isEmpty with
  | false =>
      exact h.serve_announced hlawful.toTotal hreads (by simpa [metaOf, hdata] using hmore)
  | true =>
      rw [List.isEmpty_iff.mp hdata] at h
      obtain ⟨text, htext⟩ := hlawful.meta_rejects_empty
      exact (h.serve hlawful.toTotal hreads (by simpa [metaOf, hdata] using hmore)).serve
        hlawful.toTotal (readsMeta_empty hlawful) (by simp [hasPayload, htext])

theorem unread_send_ne_nil (session : Session) {metaData : Bytes}
    (hreads : ReadsMeta setting.utils setting.router metaData) (data : Bytes) :
    (session.send setting metaData data).unread ≠ [] := by
  unfold Session.send
  split
  · exact unread_serve_ne_nil hlawful.toTotal _ (readsMeta_empty hlawful)
  · exact unread_serve_ne_nil hlawful.toTotal _ hreads

/-- The client calls a handler as the program does. -/
theorem Rehearsed.call {request : ClientRequest A} {id : ℕ}
    (h : Rehearsed setting (afterId setting.utils session.state request id) [] pulled session)
    (hreads : ReadsType setting.router request) :
    Rehearsed setting (.top (session.call setting request id).state) [] pulled
      (session.call setting request id) := by
  obtain ⟨metaData, hmeta⟩ := hlawful.metaBytes (metaOf request id)
  have hmetaReads := readsMeta_meta hlawful hmeta hreads
  unfold afterId at h
  rw [hmeta] at h
  have hsent : Rehearsed setting (.waiting session.state request id)
      ([] ++ [metaData, request.req.data]) pulled session := by
    refine h.move (Run.cons (.prepared session.state _ _ _ ((), ()) metaData) <|
      Run.cons (.preparedData session.state request _ _ ((), ()) request.req.data) <|
      Run.cons (.metaSent _ _ _ _ _) <| Run.single (.payloadSent _ _ _ _)) ?_ rfl rfl rfl rfl rfl
    exact List.forall_mem_cons.mpr ⟨untroubled_post _, List.forall_mem_cons.mpr
      ⟨untroubled_post _, List.forall_mem_cons.mpr ⟨untroubled_send _ _,
        List.forall_mem_singleton.mpr (untroubled_send _ _)⟩⟩⟩
  have hserved := Rehearsed.send hlawful hsent hmeta hmetaReads
  rw [← state_send setting session metaData request.req.data] at hserved
  have hdelivered := hserved.deliver (unread_send_ne_nil hlawful _ hmetaReads _)
  rw [← state_deliver _ request.consumer] at hdelivered
  unfold Session.call
  rw [hmeta]
  exact hdelivered

/-- **The conversation follows the program**, request by request. -/
theorem Rehearsed.process (h : Rehearsed setting (.top session.state) [] pulled session)
    {request : ClientRequest A} (hfed : pulled ++ [some request] <+: setting.queue)
    (hreads : ReadsType setting.router request) :
    Rehearsed setting (.top (session.process setting request).state) [] (pulled ++ [some request])
      (session.process setting request) := by
  have hresolved := Rehearsed.resolve hlawful (h.take hfed)
  unfold Session.process
  cases hresolve : session.resolve setting request.req.handlerInfo with
  | mk resolved id =>
      rw [hresolve] at hresolved
      cases id with
      | none => exact hresolved
      | some id => exact Rehearsed.call hlawful hresolved hreads

theorem rehearsed_process {requests : List (ClientRequest A)}
    (hinit : requests <+: setting.requests)
    (hreads : ∀ request ∈ setting.requests, ReadsType setting.router request) :
    Rehearsed setting
      (.top (requests.foldl (Session.process setting) Session.start).state) []
      (requests.map some) (requests.foldl (Session.process setting) Session.start) := by
  induction requests using List.reverseRecOn with
  | nil => exact rehearsed_start
  | append_singleton requests request ih =>
      have hbefore := ih ((List.prefix_append _ _).trans hinit)
      rw [List.foldl_append, List.map_append]
      refine Rehearsed.process hlawful hbefore ?_ (hreads request (hinit.subset (by simp)))
      have hqueue : setting.requests.map some <+: setting.queue := List.prefix_append _ _
      have hmap := (hinit.map some).trans hqueue
      rwa [List.map_append] at hmap

/-- Without processors, the two tasks can do what the program does. -/
theorem rehearsed_run (hreads : ∀ request ∈ setting.requests, ReadsType setting.router request) :
    Rehearsed setting (.top (Session.run setting).state) [] (setting.requests.map some)
      (Session.run setting) :=
  rehearsed_process hlawful List.prefix_rfl hreads

end Lawful

end Link

end FourthServer
