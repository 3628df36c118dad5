import FourthServer.Link.Session
import FourthServer.Server.Invocations
import FourthServer.Server.Names

/-!
# Remote calls

What a server and a client are for: a caller names a handler and gets what that
handler returns.  `Remote` says so over the registrations of a server, with nothing of
what goes over the wire.  The sequential program does the same, as long as the requests
that reach the server carry data (`run_remotely`).
-/

namespace FourthServer

open Client Connection TfServerRouter

namespace TfServerRouter

variable {A : App}

/-- The id of the last registration with a name. -/
def lastId (rs : List (Registration A)) (name : String) : Option ℕ :=
  rs.zipIdx.foldl (fun found entry => if name = entry.1.handlerName then some entry.2 else found)
    none

theorem lastId_snoc (rs : List (Registration A)) (r : Registration A) (name : String) :
    lastId (rs ++ [r]) name = if name = r.handlerName then some rs.length else lastId rs name := by
  simp [lastId, List.zipIdx_append]

theorem lastId_eq (rs : List (Registration A)) (name : String) :
    AssocMap.get? sameName name ((staged rs).foldl insertName []) = lastId rs name := by
  induction rs using List.reverseRecOn with
  | nil => rfl
  | append_singleton rs r ih =>
      rw [staged_snoc, List.foldl_append, lastId_snoc, ← ih]
      exact AssocMap.get?_insert _ _ _ _

end TfServerRouter

namespace Link

/-! ## The calls and their answers -/

/-- A server as one of its clients sees it. -/
structure Remote (A : App) where
  utils : Utils A
  deserialize : ℕ → Option A.SType
  /-- How the server's router was set up. -/
  ops : List (RouterOp A)
  /-- The client's address and the number of its connection. -/
  addr : SocketAddr
  channel : ℕ
  /-- What the handlers return to the last of these calls. -/
  results : List (ServeCall A) → Except Bytes Bytes

/-- The calls that were made for a client, and the answers for its callers. -/
structure Done (A : App) where
  calls : List (ServeCall A)
  delivered : List (ℕ × Bytes)

namespace Remote

variable {A : App} (remote : Remote A)

def registrations : List (Registration A) := RouterOp.effective [] remote.ops

/-- The id of the handler that a request names. -/
def idOf (request : ClientRequest A) : Option ℕ :=
  match request.req.handlerInfo.id with
  | some id => some id
  | none =>
    match request.req.handlerInfo.named with
    | some name => lastId remote.registrations name
    | none => none

/-- The call that a request makes of the handler with an id, if there is one for the
request's structure type. -/
def callOf (request : ClientRequest A) (id : ℕ) : Option (ServeCall A) :=
  match remote.deserialize (A.serialize request.req.sType), remote.registrations[id]? with
  | some sType, some r =>
    if sType ∈ r.sTypes then
      some (TfServerRouter.callOf r remote.addr (some ⟨remote.channel⟩) sType request.req.data)
    else none
  | _, _ => none

/-- A caller gets an answer. -/
def answer (done : Done A) (consumer : ℕ) (res : Except ServerError Bytes) : Done A :=
  { done with
    delivered := done.delivered ++ ((replyMessage remote.utils res).map (consumer, ·)).toList }

/-- Make the call of a request, and answer it with what the handler returns. -/
def process (done : Done A) (request : ClientRequest A) : Done A :=
  match remote.idOf request with
  | none => done
  | some id =>
    match remote.callOf request id with
    | none => remote.answer done request.consumer (.error ⟨.noSuchHandler none⟩)
    | some call =>
      let calls := done.calls ++ [call]
      remote.answer ⟨calls, done.delivered⟩ request.consumer
        ((remote.results calls).mapError fun err => ⟨.internalError (some err)⟩)

/-- Process requests. -/
def run (requests : List (ClientRequest A)) : Done A := requests.foldl remote.process ⟨[], []⟩

/-- The calls that were made stay made. -/
theorem calls_process (done : Done A) (request : ClientRequest A) :
    done.calls <+: (remote.process done request).calls := by
  unfold process
  cases remote.idOf request with
  | none => exact List.prefix_rfl
  | some id =>
      dsimp only
      cases remote.callOf request id with
      | none => exact List.prefix_rfl
      | some call => exact List.prefix_append _ _

theorem run_snoc (requests : List (ClientRequest A)) (request : ClientRequest A) :
    remote.run (requests ++ [request]) = remote.process (remote.run requests) request :=
  List.foldl_append

theorem calls_mono {first second : List (ClientRequest A)} (h : first <+: second) :
    (remote.run first).calls <+: (remote.run second).calls := by
  obtain ⟨rest, rfl⟩ := h
  induction rest using List.reverseRecOn with
  | nil => simp
  | append_singleton rest request ih =>
      rw [← List.append_assoc, run_snoc]
      exact ih.trans (calls_process remote _ request)

/-- Only the caller of a request gets an answer to it. -/
theorem delivered_process (done : Done A) (request : ClientRequest A) :
    ∃ more, (remote.process done request).delivered = done.delivered ++ more ∧
      ∀ entry ∈ more, entry.1 = request.consumer := by
  have hanswer (done : Done A) (res : Except ServerError Bytes) :
      ∃ more, (remote.answer done request.consumer res).delivered = done.delivered ++ more ∧
        ∀ entry ∈ more, entry.1 = request.consumer := by
    refine ⟨_, rfl, fun entry hmem => ?_⟩
    obtain ⟨data, -, rfl⟩ := Option.map_eq_some_iff.mp (Option.mem_toList.mp hmem)
    rfl
  unfold process
  cases remote.idOf request with
  | none => exact ⟨[], by simp⟩
  | some id =>
      dsimp only
      cases remote.callOf request id with
      | none => exact hanswer done _
      | some call => exact hanswer ⟨done.calls ++ [call], done.delivered⟩ _

theorem mem_delivered {first rest : List (ClientRequest A)} {entry : ℕ × Bytes}
    (hother : ∀ request ∈ rest, request.consumer ≠ entry.1) :
    entry ∈ (remote.run (first ++ rest)).delivered ↔ entry ∈ (remote.run first).delivered := by
  induction rest using List.reverseRecOn with
  | nil => rw [List.append_nil]
  | append_singleton rest request ih =>
      obtain ⟨more, hmore, hown⟩ := delivered_process remote (remote.run (first ++ rest)) request
      rw [← List.append_assoc, run_snoc, hmore, List.mem_append,
        ih fun request hmem => hother request (by simp [hmem])]
      exact or_iff_left fun hmem => hother request (by simp) (hown entry hmem).symm

/-! ## The code behind them -/

/-- The router of the server. -/
def router : TfServerRouter A := replay remote.utils remote.deserialize remote.ops

/-- The calls that packets of the client ask for. -/
def asked (packets : List (Bytes × Bytes)) : List (ServeCall A) :=
  Connection.asked remote.utils remote.router remote.addr remote.channel packets

/-- What the handlers return, as a function of the packets. -/
def handlers (packets : List (Bytes × Bytes)) (_ : ServeCall A) : Except Bytes Bytes :=
  remote.results (remote.asked packets)

/-- What the conversation with the client is about. -/
def setting (requests : List (ClientRequest A)) (closes : Bool) : Setting A :=
  ⟨remote.utils, remote.router, remote.addr, remote.channel, requests, closes, remote.handlers⟩

variable {remote}

theorem represents (htuples : remote.utils.TupleLawful) :
    Represents remote.utils remote.deserialize remote.router (Registry.replay remote.ops) :=
  represents_replay htuples remote.deserialize remote.ops

theorem idOfName_router (htuples : remote.utils.TupleLawful) (name : String) :
    remote.router.idOfName name = lastId remote.registrations name := by
  unfold idOfName registrations
  rw [(represents htuples).names, Registry.replay_published]
  exact lastId_eq _ _

theorem resolves_iff (htuples : remote.utils.TupleLawful) (request : ClientRequest A) (id : ℕ) :
    Resolves remote.router request id ↔ remote.idOf request = some id := by
  unfold Resolves idOf
  cases request.req.handlerInfo.id with
  | some found => simp
  | none =>
      cases request.req.handlerInfo.named with
      | none => simp
      | some name => simp [idOfName_router htuples]

/-- The meta frame of a request asks for the call of the request. -/
theorem dispatch_meta (hlawful : remote.utils.Lawful) (htuples : remote.utils.TupleLawful)
    {request : ClientRequest A} (hreads : ReadsType remote.router request) {id : ℕ}
    {metaData : Bytes} (hmeta : remote.utils.toBytesMeta (metaOf request id) = some metaData) :
    remote.router.dispatch remote.utils metaData request.req.data remote.addr
        (some ⟨remote.channel⟩) =
      match remote.callOf request id with
      | none => .answered (.error ⟨.noSuchHandler none⟩)
      | some call => .handled call := by
  have hrepresents := represents htuples
  unfold ReadsType at hreads
  rw [hrepresents.reader] at hreads
  unfold dispatch callOf registrations
  rw [← Registry.replay_published, hlawful.access_meta hmeta, hrepresents.reader]
  dsimp only [metaOf]
  cases hs : remote.deserialize (A.serialize request.req.sType) with
  | none => exact absurd hs hreads
  | some sType =>
      dsimp only
      rw [routeOf_eq htuples hrepresents]
      cases (Registry.replay remote.ops).published[id]? with
      | none => rfl
      | some r =>
          by_cases hmem : sType ∈ r.sTypes
          · simp [Option.filter, hmem, TfServerRouter.callOf]
          · simp [Option.filter, hmem]

section Reply

variable {requests : List (ClientRequest A)} {closes : Bool} {packets : List (Bytes × Bytes)}
  {metaData payload : Bytes}

theorem reply_answered {res : Except ServerError Bytes}
    (hdispatch : remote.router.dispatch remote.utils metaData payload remote.addr
      (some ⟨remote.channel⟩) = .answered res) :
    (remote.setting requests closes).reply packets (metaData, payload) =
      replyMessage remote.utils res := by
  simp only [Setting.reply, Setting.service, Service.verdict, servedOf, setting, hdispatch]
  cases replyMessage remote.utils res <;> rfl

theorem reply_handled {call : ServeCall A}
    (hdispatch : remote.router.dispatch remote.utils metaData payload remote.addr
      (some ⟨remote.channel⟩) = .handled call) :
    (remote.setting requests closes).reply packets (metaData, payload) =
      replyMessage remote.utils ((remote.results (remote.asked packets ++ [call])).mapError
        fun err => ⟨.internalError (some err)⟩) := by
  have hasked : remote.asked (packets ++ [(metaData, payload)]) =
      remote.asked packets ++ [call] := by
    rw [asked, asked_snoc, asked?, hdispatch]
    rfl
  simp only [Setting.reply, Setting.service, Service.verdict, servedOf, setting, hdispatch,
    handlers, hasked]
  cases remote.results (remote.asked packets ++ [call]) with
  | ok data => rfl
  | error err =>
      simp only [outcomeServed, Except.mapError]
      cases replyMessage remote.utils (.error ⟨.internalError (some err)⟩) <;> rfl

end Reply

/-! ## The sequential program makes the calls -/

/-- What the sequential program has done between two requests. -/
structure Reached (remote : Remote A) (session : Session) (done : Done A) : Prop where
  /-- No reply is left over. -/
  unread : session.unread = []
  /-- The ids in the route cache are those of the names. -/
  cache : CacheSound remote.router (cacheOf session.learnt)
  calls : remote.asked session.packets = done.calls
  delivered : session.delivered = done.delivered

variable {session : Session} {done : Done A}

theorem reached_start : Reached remote Session.start ⟨[], []⟩ :=
  ⟨rfl, fun _ _ hid => (by cases hid), rfl, rfl⟩

/-- Without replies left over, a caller gets the reply to the request's own packet. -/
theorem deliver_serve (hunread : session.unread = []) (setting : Setting A)
    (packet : Bytes × Bytes) (consumer : ℕ) :
    (session.serve setting packet).deliver consumer =
      ⟨session.packets ++ [packet], [], session.learnt, session.delivered ++
        ((setting.reply session.packets packet).map (consumer, ·)).toList⟩ := by
  unfold Session.deliver Session.read Session.serve
  rw [hunread]
  cases setting.reply session.packets packet with
  | none => simp
  | some reply => rfl

theorem learn_serve (hunread : session.unread = []) {setting : Setting A}
    {packet : Bytes × Bytes} {reply : Bytes} (name : String)
    (hreply : setting.reply session.packets packet = some reply) :
    (session.serve setting packet).learn setting name =
      match setting.utils.accessAns reply with
      | .error _ => (⟨session.packets ++ [packet], [], session.learnt, session.delivered⟩, none)
      | .ok metaAns => (⟨session.packets ++ [packet], [],
          session.learnt ++ [(name, metaAns.id)], session.delivered⟩, some metaAns.id) := by
  unfold Session.learn Session.read Session.serve
  rw [hunread, hreply]
  rfl

variable (requests : List (ClientRequest A)) (closes : Bool)

/-- The answer to the question for a name is its id. -/
theorem Reached.ask (hlawful : remote.utils.Lawful) (htuples : remote.utils.TupleLawful)
    (h : Reached remote session done) (name : String) :
    ∃ session', session.ask (remote.setting requests closes) name =
        (session', lastId remote.registrations name) ∧ Reached remote session' done := by
  obtain ⟨question, hquestion⟩ := hlawful.reqBytes ⟨.handlerMetaReq, name⟩
  have hask : session.ask (remote.setting requests closes) name =
      (session.serve (remote.setting requests closes) (question, [])).learn
        (remote.setting requests closes) name := by
    unfold Session.ask
    rw [show (remote.setting requests closes).utils.toBytesReq _ = _ from hquestion]
  have hdispatch : remote.router.dispatch remote.utils question [] remote.addr
      (some ⟨remote.channel⟩) = remote.router.answerName remote.utils name :=
    dispatch_question hlawful hquestion [] _
  rw [answerName, idOfName_router htuples] at hdispatch
  -- the question makes no call
  have hcalls {res : Except ServerError Bytes} (hanswered : remote.router.dispatch remote.utils
      question [] remote.addr (some ⟨remote.channel⟩) = .answered res) :
      remote.asked (session.packets ++ [(question, [])]) = done.calls := by
    rw [asked, asked_snoc, asked?, hanswered, Option.toList_none, List.append_nil]
    exact h.calls
  rw [hask]
  cases hid : lastId remote.registrations name with
  | none =>
      rw [hid] at hdispatch
      obtain ⟨refusal, hrefusal⟩ := hlawful.errBytes ⟨.noSuchHandler none⟩
      obtain ⟨text, htext⟩ := hlawful.ans_rejects_err hrefusal
      have hreply : (remote.setting requests closes).reply session.packets (question, []) =
          some refusal := (reply_answered hdispatch).trans hrefusal
      rw [learn_serve h.unread name hreply,
        show (remote.setting requests closes).utils.accessAns refusal = _ from htext]
      exact ⟨_, rfl, rfl, h.cache, hcalls hdispatch, h.delivered⟩
  | some id =>
      obtain ⟨bytes, hbytes⟩ := hlawful.ansBytes ⟨.handlerMetaAns, id⟩
      rw [hid] at hdispatch
      dsimp only at hdispatch
      rw [hbytes] at hdispatch
      have hreply : (remote.setting requests closes).reply session.packets (question, []) =
          some bytes := reply_answered hdispatch
      rw [learn_serve h.unread name hreply,
        show (remote.setting requests closes).utils.accessAns bytes = _ from
          hlawful.access_ans hbytes]
      refine ⟨_, rfl, rfl, ?_, hcalls hdispatch, h.delivered⟩
      rw [cacheOf_snoc]
      exact cacheSound_remember h.cache ((idOfName_router htuples name).trans hid)

/-- The id of a request is found in the cache or asked for. -/
theorem Reached.resolve (hlawful : remote.utils.Lawful) (htuples : remote.utils.TupleLawful)
    (h : Reached remote session done) (request : ClientRequest A) :
    ∃ session', session.resolve (remote.setting requests closes) request.req.handlerInfo =
        (session', remote.idOf request) ∧ Reached remote session' done := by
  unfold Session.resolve idOf
  cases request.req.handlerInfo.id with
  | some id => exact ⟨session, rfl, h⟩
  | none =>
      cases request.req.handlerInfo.named with
      | none => exact ⟨session, rfl, h⟩
      | some name =>
          dsimp only
          cases hlookup : lookupRoute (cacheOf session.learnt) name with
          | none => exact h.ask requests closes hlawful htuples name
          | some id =>
              rw [← idOfName_router htuples, h.cache name id hlookup]
              exact ⟨session, rfl, h⟩

/-- A request with data is one packet, and its caller gets the reply to it. -/
theorem Reached.call (hlawful : remote.utils.Lawful) (htuples : remote.utils.TupleLawful)
    (h : Reached remote session done) {request : ClientRequest A} {id : ℕ}
    (hid : remote.idOf request = some id) (hdata : request.req.data ≠ [])
    (hreads : ReadsType remote.router request) :
    Reached remote (session.call (remote.setting requests closes) request id)
      (remote.process done request) := by
  obtain ⟨metaData, hmeta⟩ := hlawful.metaBytes (metaOf request id)
  have hcall : session.call (remote.setting requests closes) request id =
      (session.serve (remote.setting requests closes) (metaData, request.req.data)).deliver
        request.consumer := by
    unfold Session.call Session.send
    rw [show (remote.setting requests closes).utils.toBytesMeta _ = _ from hmeta]
    simp [hdata]
  have hdispatch := dispatch_meta hlawful htuples hreads hmeta
  rw [hcall, deliver_serve h.unread]
  unfold process
  rw [hid]
  dsimp only
  cases hmade : remote.callOf request id with
  | none =>
      rw [hmade] at hdispatch
      refine ⟨rfl, h.cache, ?_, ?_⟩
      · show remote.asked (session.packets ++ [(metaData, request.req.data)]) = done.calls
        rw [asked, asked_snoc, asked?, hdispatch, Option.toList_none, List.append_nil]
        exact h.calls
      · rw [reply_answered hdispatch, h.delivered]
        rfl
  | some call =>
      rw [hmade] at hdispatch
      have hasked : remote.asked session.packets ++ [call] = done.calls ++ [call] := by
        rw [h.calls]
      refine ⟨rfl, h.cache, ?_, ?_⟩
      · show remote.asked (session.packets ++ [(metaData, request.req.data)]) = _
        rw [asked, asked_snoc, asked?, hdispatch]
        exact hasked
      · rw [reply_handled hdispatch, h.delivered, hasked]
        rfl

theorem Reached.process (hlawful : remote.utils.Lawful) (htuples : remote.utils.TupleLawful)
    (h : Reached remote session done) {request : ClientRequest A}
    (hdata : CarriesData remote.router request) (hreads : ReadsType remote.router request) :
    Reached remote (session.process (remote.setting requests closes) request)
      (remote.process done request) := by
  obtain ⟨session', hresolve, h'⟩ := h.resolve requests closes hlawful htuples request
  unfold Session.process
  rw [hresolve]
  cases hid : remote.idOf request with
  | none =>
      unfold Remote.process
      rw [hid]
      exact h'
  | some id =>
      have hresolves := (resolves_iff htuples request id).mpr hid
      exact h'.call requests closes hlawful htuples hid (hdata id hresolves) hreads

/-- **The sequential program makes the calls of its requests.**  What it does with
questions, route cache, packets and replies comes to the calls of the handlers that the
requests name, in their order, and to what these return. -/
theorem run_remotely {requests : List (ClientRequest A)} (hlawful : remote.utils.Lawful)
    (htuples : remote.utils.TupleLawful)
    (hdata : ∀ request ∈ requests, CarriesData remote.router request)
    (hreads : ∀ request ∈ requests, ReadsType remote.router request) :
    Reached remote (Session.run (remote.setting requests closes)) (remote.run requests) := by
  have hprocessed (first : List (ClientRequest A)) (hfirst : first <+: requests) :
      Reached remote (first.foldl (Session.process (remote.setting requests closes)) .start)
        (remote.run first) := by
    induction first using List.reverseRecOn with
    | nil => exact reached_start
    | append_singleton first request ih =>
        have hmem : request ∈ requests := hfirst.subset (by simp)
        rw [run_snoc, List.foldl_append]
        exact (ih ((List.prefix_append _ _).trans hfirst)).process requests closes hlawful htuples
          (hdata request hmem) (hreads request hmem)
  exact hprocessed requests List.prefix_rfl

end Remote

end Link

end FourthServer
