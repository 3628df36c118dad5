import FourthServer.Link.Transparent
import FourthServer.Server.Stream

/-!
# The sequential program

What two tasks, two channels and two traffic processors do together is what one
sequential program does: it takes the requests one after the other, serves the
packets of each, and reads the oldest reply that was not read yet.  `Session` is
the state of that program and `Session.run` the program.

Where every request carries data, no more than one reply is ever unread.  A
request without data makes two packets out of its two frames, so that one reply
stays behind for good (`Session.lagging_run`).
-/

namespace FourthServer

open Client Connection

namespace Link

variable {A : App}

/-- The service at the other end of the connection. -/
def Setting.service (setting : Setting A) : Service A where
  utils := setting.utils
  router := setting.router
  addr := setting.addr
  channel := setting.channel
  outcomes before call := .finished (setting.handlers before call) call.routeTx none

/-- The reply to a packet, after the packets before it. -/
def Setting.reply (setting : Setting A) (before : List (Bytes × Bytes)) (packet : Bytes × Bytes) :
    Option Bytes :=
  (setting.service.verdict before packet).map Prod.fst

/-- The state of the sequential program. -/
structure Session where
  /-- The packets served. -/
  packets : List (Bytes × Bytes)
  /-- The replies that were not read yet, the oldest first. -/
  unread : List Bytes
  learnt : List (String × ℕ)
  delivered : List (ℕ × Bytes)

namespace Session

variable (setting : Setting A)

def start : Session := ⟨[], [], [], []⟩

/-- Serve a packet. -/
def serve (session : Session) (packet : Bytes × Bytes) : Session :=
  { session with
    packets := session.packets ++ [packet]
    unread := session.unread ++ (setting.reply session.packets packet).toList }

/-- Read the oldest unread reply. -/
def read (session : Session) : Option (Bytes × Session) :=
  match session.unread with
  | [] => none
  | reply :: rest => some (reply, { session with unread := rest })

/-- Take a reply for the answer to the question for a name. -/
def learn (session : Session) (name : String) : Session × Option ℕ :=
  match session.read with
  | none => (session, none)
  | some (answer, session) =>
    match setting.utils.accessAns answer with
    | .error _ => (session, none)
    | .ok metaAns =>
      ({ session with learnt := session.learnt ++ [(name, metaAns.id)] }, some metaAns.id)

/-- Ask for the id of a name. -/
def ask (session : Session) (name : String) : Session × Option ℕ :=
  match setting.utils.toBytesReq ⟨.handlerMetaReq, name⟩ with
  | none => (session, none)
  | some question => (session.serve setting (question, [])).learn setting name

/-- Find the id of a handler. -/
def resolve (session : Session) (handlerInfo : HandlerInfo) : Session × Option ℕ :=
  match handlerInfo.id with
  | some id => (session, some id)
  | none =>
    match handlerInfo.named with
    | none => (session, none)
    | some name =>
      match lookupRoute (cacheOf session.learnt) name with
      | some id => (session, some id)
      | none => session.ask setting name

/-- Serve the frames of a request; without data its second frame is a packet of
its own. -/
def send (session : Session) (metaData data : Bytes) : Session :=
  if data.isEmpty then (session.serve setting (metaData, [])).serve setting ([], [])
  else session.serve setting (metaData, data)

/-- Hand a reply to a consumer. -/
def deliver (session : Session) (consumer : ℕ) : Session :=
  match session.read with
  | none => session
  | some (response, session) =>
    { session with delivered := session.delivered ++ [(consumer, response)] }

/-- Call the handler with an id. -/
def call (session : Session) (request : ClientRequest A) (id : ℕ) : Session :=
  match setting.utils.toBytesMeta (metaOf request id) with
  | none => session
  | some metaData => (session.send setting metaData request.req.data).deliver request.consumer

/-- Process a request. -/
def process (session : Session) (request : ClientRequest A) : Session :=
  match session.resolve setting request.req.handlerInfo with
  | (session, none) => session
  | (session, some id) => session.call setting request id

/-- Process the requests of the setting. -/
def run : Session := setting.requests.foldl (process setting) start

/-- What comes of the program, outside of the connection. -/
def seen (session : Session) : Seen := ⟨session.packets, session.learnt, session.delivered⟩

end Session

/-! ## Every packet has a reply -/

theorem exists_verdict {setting : Setting A} (htotal : setting.utils.Total)
    (before : List (Bytes × Bytes)) {packet : Bytes × Bytes}
    (hreads : ReadsMeta setting.utils setting.router packet.1) :
    ∃ message, setting.service.verdict before packet = some (message, true) := by
  have hreplied (served : TfServerRouter.Served) (htx : served.2.isSome = true) :
      ∃ message, (match replyMessage setting.utils served.1 with
        | none => none
        | some message => some (message, served.2.isSome)) = some (message, true) := by
    cases hmessage : replyMessage setting.utils served.1 with
    | none => exact absurd hmessage (replyMessage_ne_none htotal _)
    | some message => exact ⟨message, by simp [htx]⟩
  unfold Service.verdict servedOf
  cases hdispatch : setting.router.dispatch setting.utils packet.1 packet.2 setting.addr
      (some ⟨setting.channel⟩) with
  | unwound => exact absurd hdispatch (dispatch_ne_unwound htotal hreads _ _)
  | answered res =>
      simp only [Setting.service, hdispatch]
      exact hreplied (res, some ⟨setting.channel⟩) rfl
  | handled handler =>
      have htx := (TfServerRouter.dispatch_handled hdispatch).1
      simp only [Setting.service, hdispatch, htx]
      cases setting.handlers (before ++ [packet]) handler with
      | ok data => exact hreplied (.ok data, some ⟨setting.channel⟩) rfl
      | error err =>
          exact hreplied (.error ⟨.internalError (some err)⟩, some ⟨setting.channel⟩) rfl

theorem exists_reply {setting : Setting A} (htotal : setting.utils.Total)
    (before : List (Bytes × Bytes)) {packet : Bytes × Bytes}
    (hreads : ReadsMeta setting.utils setting.router packet.1) :
    ∃ message, setting.reply before packet = some message := by
  obtain ⟨message, hmessage⟩ := exists_verdict htotal before hreads
  exact ⟨message, by rw [Setting.reply, hmessage]; rfl⟩

/-! ## The replies that stay behind -/

namespace Session

/-- Besides one reply for each empty packet, this many replies are unread. -/
def Lagging (session : Session) (more : ℕ) : Prop :=
  session.unread.length = session.packets.count ([], []) + more

variable {setting : Setting A} {session : Session} {more : ℕ}

theorem length_serve (htotal : setting.utils.Total) (session : Session)
    {packet : Bytes × Bytes} (hreads : ReadsMeta setting.utils setting.router packet.1) :
    (session.serve setting packet).unread.length = session.unread.length + 1 := by
  obtain ⟨message, hmessage⟩ := exists_reply htotal session.packets hreads
  simp [serve, hmessage]

theorem Lagging.serve (htotal : setting.utils.Total) (h : session.Lagging more)
    {packet : Bytes × Bytes} (hreads : ReadsMeta setting.utils setting.router packet.1)
    (hpacket : packet ≠ ([], [])) :
    (session.serve setting packet).Lagging (more + 1) := by
  have hcount : (session.serve setting packet).packets.count ([], []) =
      session.packets.count ([], []) := by
    show (session.packets ++ [packet]).count ([], []) = _
    rw [List.count_append, List.count_singleton, if_neg (by simpa using hpacket), Nat.add_zero]
  rw [Lagging, length_serve htotal session hreads, hcount, h, Nat.add_assoc]

/-- An empty packet is counted with its reply. -/
theorem Lagging.serve_empty (hlawful : setting.utils.Lawful) (h : session.Lagging more) :
    (session.serve setting ([], [])).Lagging more := by
  have hcount : (session.serve setting ([], [])).packets.count ([], []) =
      session.packets.count ([], []) + 1 := by
    show (session.packets ++ [([], [])]).count ([], []) = _
    rw [List.count_append, List.count_singleton_self]
  rw [Lagging, length_serve hlawful.toTotal session (readsMeta_empty hlawful), hcount, h]
  omega

theorem Lagging.read (h : session.Lagging (more + 1)) :
    ∃ reply rest, session.unread = reply :: rest ∧
      session.read = some (reply, { session with unread := rest }) ∧
      Lagging { session with unread := rest } more := by
  cases hunread : session.unread with
  | nil =>
      rw [Lagging, hunread, List.length_nil] at h
      omega
  | cons reply rest =>
      refine ⟨reply, rest, rfl, by rw [Session.read, hunread], ?_⟩
      rw [Lagging, hunread, List.length_cons] at h
      show rest.length = session.packets.count ([], []) + more
      omega

theorem question_ne_nil (hlawful : setting.utils.Lawful) {packet : HandlerMetaReq}
    {question : Bytes} (hquestion : setting.utils.toBytesReq packet = some question) :
    question ≠ [] := by
  rintro rfl
  obtain ⟨text, htext⟩ := hlawful.req_rejects_empty
  cases htext.symm.trans (hlawful.access_req hquestion)

theorem meta_ne_nil (hlawful : setting.utils.Lawful) {packet : PacketMeta} {metaData : Bytes}
    (hmeta : setting.utils.toBytesMeta packet = some metaData) : metaData ≠ [] := by
  rintro rfl
  obtain ⟨text, htext⟩ := hlawful.meta_rejects_empty
  cases htext.symm.trans (hlawful.access_meta hmeta)

theorem Lagging.learn (h : session.Lagging 1) (name : String) :
    (session.learn setting name).1.Lagging 0 := by
  obtain ⟨reply, rest, -, hread, hrest⟩ := h.read
  unfold Session.learn
  rw [hread]
  dsimp only
  cases setting.utils.accessAns reply with
  | error text => exact hrest
  | ok metaAns => exact hrest

theorem Lagging.ask (hlawful : setting.utils.Lawful) (h : session.Lagging 0) (name : String) :
    (session.ask setting name).1.Lagging 0 := by
  unfold Session.ask
  cases hquestion : setting.utils.toBytesReq ⟨.handlerMetaReq, name⟩ with
  | none => exact h
  | some question =>
      refine Lagging.learn (h.serve hlawful.toTotal (readsMeta_question hlawful hquestion) ?_) name
      simp [question_ne_nil hlawful hquestion]

theorem Lagging.resolve (hlawful : setting.utils.Lawful) (h : session.Lagging 0)
    (handlerInfo : HandlerInfo) :
    (session.resolve setting handlerInfo).1.Lagging 0 := by
  unfold Session.resolve
  repeat' split
  · exact h
  · exact h
  · exact h
  · exact h.ask hlawful _

theorem Lagging.deliver (h : session.Lagging 1) (consumer : ℕ) :
    (session.deliver consumer).Lagging 0 := by
  obtain ⟨reply, rest, -, hread, hrest⟩ := h.read
  unfold Session.deliver
  rw [hread]
  exact hrest

theorem Lagging.call (hlawful : setting.utils.Lawful) (h : session.Lagging 0)
    {request : ClientRequest A} (hreads : ReadsType setting.router request) (id : ℕ) :
    (session.call setting request id).Lagging 0 := by
  unfold Session.call
  cases hmeta : setting.utils.toBytesMeta (metaOf request id) with
  | none => exact h
  | some metaData =>
      refine Lagging.deliver ?_ request.consumer
      have hhead : metaData ≠ [] := meta_ne_nil hlawful hmeta
      have hmetaReads := readsMeta_meta hlawful hmeta hreads
      unfold send
      split
      · -- the meta frame and the empty frame after it are two packets
        exact (h.serve hlawful.toTotal hmetaReads (by simp [hhead])).serve_empty hlawful
      · exact h.serve hlawful.toTotal hmetaReads (by simp [hhead])

theorem Lagging.process (hlawful : setting.utils.Lawful) (h : session.Lagging 0)
    {request : ClientRequest A} (hreads : ReadsType setting.router request) :
    (session.process setting request).Lagging 0 := by
  have hresolved := h.resolve hlawful request.req.handlerInfo
  unfold Session.process
  cases hresolve : session.resolve setting request.req.handlerInfo with
  | mk resolved id =>
      rw [hresolve] at hresolved
      cases id with
      | none => exact hresolved
      | some id => exact hresolved.call hlawful hreads id

end Session

end Link

end FourthServer
