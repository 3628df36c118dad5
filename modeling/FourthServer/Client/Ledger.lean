import FourthServer.Client.Steady
import FourthServer.Library.Grouping

/-!
# The ledger of a client

On an undisturbed connection (no send fails and the stream yields frames only)
the client works through its requests one exchange at a time.  `Exchange` lists
the ways a request can go; `Ledger` is the account of a history in terms of the
exchanges that are over and a draft of the one under way; `At` says what the
draft holds at each control point.  What the frames read were answers *to* is
not known here: this is the client's side alone.
-/

namespace FourthServer

open Resumption Trace

namespace Client

variable {A : App} {P : Type}

/-- A unit of frames that the server answers once, with its answer. -/
abbrev Answered := (Bytes × Option Bytes) × Bytes

/-- How the id of a request's handler was found. -/
inductive Lookup
  | given (id : ℕ)
  | cached (name : String) (id : ℕ)
  | asked (name : String) (question answer : Bytes) (id : ℕ)

namespace Lookup

def id : Lookup → ℕ
  | .given id => id
  | .cached _ id => id
  | .asked _ _ _ id => id

def transcript : Lookup → List Answered
  | .given _ => []
  | .cached _ _ => []
  | .asked _ question answer _ => [((question, none), answer)]

def learnt : Lookup → List (String × ℕ)
  | .given _ => []
  | .cached _ _ => []
  | .asked name _ _ id => [(name, id)]

end Lookup

/-- The request asks for a handler by name, and the name is not in the cache. -/
structure Asks (utils : Utils A) (cache : List (String × ℕ)) (request : ClientRequest A)
    (name : String) (question : Bytes) : Prop where
  id_none : request.req.handlerInfo.id = none
  named : request.req.handlerInfo.named = some name
  unknown : lookupRoute cache name = none
  serialized : utils.toBytesReq ⟨.handlerMetaReq, name⟩ = some question

/-- The id was found as the code finds it. -/
def Lookup.Valid (utils : Utils A) (cache : List (String × ℕ)) (request : ClientRequest A) :
    Lookup → Prop
  | .given id => request.req.handlerInfo.id = some id
  | .cached name id => request.req.handlerInfo.id = none ∧
      request.req.handlerInfo.named = some name ∧ lookupRoute cache name = some id
  | .asked name question answer id => Asks utils cache request name question ∧
      ∃ sType, utils.accessAns answer = .ok ⟨sType, id⟩

/-- What became of a request. -/
inductive Exchange (A : App)
  /-- It has neither an id nor a name. -/
  | nameless (request : ClientRequest A)
  /-- The answer to the question for the id was no id. -/
  | refused (request : ClientRequest A) (name : String) (question refusal : Bytes)
  | served (request : ClientRequest A) (lookup : Lookup) (metaData response : Bytes)

namespace Exchange

def request : Exchange A → ClientRequest A
  | .nameless request => request
  | .refused request _ _ _ => request
  | .served request _ _ _ => request

/-- The units sent, with the answers read. -/
def transcript : Exchange A → List Answered
  | .nameless _ => []
  | .refused _ _ question refusal => [((question, none), refusal)]
  | .served request lookup metaData response =>
    lookup.transcript ++ [((metaData, some request.req.data), response)]

def learnt : Exchange A → List (String × ℕ)
  | .nameless _ => []
  | .refused _ _ _ _ => []
  | .served _ lookup _ _ => lookup.learnt

/-- What was handed to a consumer. -/
def delivery : Exchange A → Option (ℕ × Bytes)
  | .nameless _ => none
  | .refused _ _ _ _ => none
  | .served request _ _ response => some (request.consumer, response)

/-- The request went as the code has it go, given the cache before it. -/
def Valid (utils : Utils A) (cache : List (String × ℕ)) : Exchange A → Prop
  | .nameless request =>
    request.req.handlerInfo.id = none ∧ request.req.handlerInfo.named = none
  | .refused request name question refusal => Asks utils cache request name question ∧
      ∃ text, utils.accessAns refusal = .error text
  | .served request lookup metaData _ => lookup.Valid utils cache request ∧
      utils.toBytesMeta (metaOf request lookup.id) = some metaData

end Exchange

/-- The cache after some exchanges. -/
def cacheAfter (done : List (Exchange A)) : List (String × ℕ) :=
  cacheOf (done.flatMap Exchange.learnt)

/-- Each exchange is valid, given the cache the ones before it left. -/
def validLaw (utils : Utils A) (before : List (Exchange A)) (x : Exchange A) : Prop :=
  x.Valid utils (cacheAfter before)

/-- The part of a history that belongs to no finished exchange. -/
structure Draft (A : App) where
  request : List (ClientRequest A) := []
  transcript : List Answered := []
  learnt : List (String × ℕ) := []
  delivered : List (ℕ × Bytes) := []
  /-- Messages post-processed and not answered. -/
  posted : List Bytes := []
  /-- Frames post-processed and not sent. -/
  unsent : List Bytes := []
  /-- Frames received and not pre-processed. -/
  unread : List Bytes := []

/-- The draft of an exchange that is over. -/
def Exchange.draft (x : Exchange A) : Draft A where
  request := [x.request]
  transcript := x.transcript
  learnt := x.learnt
  delivered := x.delivery.toList

/-- The messages of answered units. -/
def messages (units : List Answered) : List Bytes :=
  units.flatMap fun unit => Grouping.items unit.1

@[simp] theorem messages_append (first second : List Answered) :
    messages (first ++ second) = messages first ++ messages second :=
  List.flatMap_append

/-- The account of a history: finished exchanges and a draft. -/
structure Ledger (utils : Utils A) (tr : List (ClientEvent A P)) (done : List (Exchange A))
    (draft : Draft A) : Prop where
  valid : Along (validLaw utils) done
  took : taken tr = done.map Exchange.request ++ draft.request
  posted : posts tr =
    messages (done.flatMap Exchange.transcript ++ draft.transcript) ++ draft.posted
  sent : outputs tr = wires tr ++ draft.unsent
  read : received tr = inputs tr ++ draft.unread
  answered : responses tr =
    (done.flatMap Exchange.transcript ++ draft.transcript).map Prod.snd
  learned : learnt tr = done.flatMap Exchange.learnt ++ draft.learnt
  handed : deliveries tr = done.filterMap Exchange.delivery ++ draft.delivered

variable {utils : Utils A} {tr : List (ClientEvent A P)} {done : List (Exchange A)}
  {draft draft' : Draft A} {e : ClientEvent A P}

theorem ledger_nil : Ledger utils ([] : List (ClientEvent A P)) [] {} :=
  ⟨along_nil, rfl, rfl, rfl, rfl, rfl, rfl, rfl⟩

/-- One event moves the draft on. -/
theorem Ledger.step (h : Ledger utils tr done draft)
    (htook : draft'.request = draft.request ++ (taken? e).toList)
    (hposted : messages draft'.transcript ++ draft'.posted =
      messages draft.transcript ++ draft.posted ++ Hooks.sent (hook? e).toList)
    (hsent : draft.unsent ++ Hooks.sentOutputs (hook? e).toList =
      (wire? e).toList ++ draft'.unsent)
    (hread : draft.unread ++ (frame? e).toList =
      Hooks.received (hook? e).toList ++ draft'.unread)
    (hanswered : draft'.transcript.map Prod.snd =
      draft.transcript.map Prod.snd ++ Hooks.receivedOutputs (hook? e).toList)
    (hlearned : draft'.learnt = draft.learnt ++ (learnt? e).toList)
    (hhanded : draft'.delivered = draft.delivered ++ (delivery? e).toList) :
    Ledger utils (tr ++ [e]) done draft' where
  valid := h.valid
  took := by rw [taken_snoc, h.took, htook, List.append_assoc]
  posted := by
    rw [posts_snoc, h.posted, messages_append, messages_append]
    simp only [List.append_assoc] at hposted ⊢
    rw [hposted]
  sent := by rw [outputs_snoc, wires_snoc, h.sent, List.append_assoc, hsent, List.append_assoc]
  read := by rw [received_snoc, inputs_snoc, h.read, List.append_assoc, hread, List.append_assoc]
  answered := by
    rw [responses_snoc, h.answered, List.map_append, List.map_append, hanswered,
      List.append_assoc]
  learned := by rw [learnt_snoc, h.learned, hlearned, List.append_assoc]
  handed := by rw [deliveries_snoc, h.handed, hhanded, List.append_assoc]

/-- The exchange under way is over. -/
theorem Ledger.close {x : Exchange A} (h : Ledger utils tr done x.draft)
    (hvalid : x.Valid utils (cacheAfter done)) : Ledger utils tr (done ++ [x]) {} where
  valid := along_snoc.mpr ⟨h.valid, hvalid⟩
  took := by simpa [Exchange.draft] using h.took
  posted := by simpa [Exchange.draft] using h.posted
  sent := h.sent
  read := h.read
  answered := by simpa [Exchange.draft] using h.answered
  learned := by simpa [Exchange.draft] using h.learned
  handed := by
    rw [filterMap_snoc]
    simpa [Exchange.draft] using h.handed

/-! ## What the draft holds at each control point -/

/-- No send fails, and the socket yields frames. -/
def steadyLaw (_ : List (ClientEvent A P)) : ClientEvent A P → Prop
  | ⟨.send _ _, res⟩ => res = .ok ()
  | ⟨.next, answer⟩ => ∃ frame, answer = some (.ok frame)
  | _ => True

/-- An undisturbed client is steady until it sees the end of its stream. -/
theorem steady_of_quiet (hquiet : Along quietLaw tr)
    (hends : (⟨.next, none⟩ : ClientEvent A P) ∉ tr) : Along steadyLaw tr := by
  rintro before ⟨op, answer⟩ after hsplit
  have hlaw := hquiet before _ after hsplit
  have hmem : (⟨op, answer⟩ : ClientEvent A P) ∈ tr := by simp [hsplit]
  cases op with
  | send site wire => exact hlaw
  | next =>
      match answer with
      | some (.ok frame) => exact ⟨frame, rfl⟩
      | some (.error kind) => exact hlaw.elim
      | none => exact absurd hmem hends
  | _ => trivial

/-- The draft of a request whose handler's id is known. -/
def lookupDraft (request : ClientRequest A) (lookup : Lookup) (posted unsent unread : List Bytes) :
    Draft A where
  request := [request]
  transcript := lookup.transcript
  learnt := lookup.learnt
  posted := posted
  unsent := unsent
  unread := unread

/-- The draft of a request whose handler's id is being asked for. -/
def askDraft (request : ClientRequest A) (question : Bytes) (unsent unread : List Bytes) :
    Draft A where
  request := [request]
  posted := [question]
  unsent := unsent
  unread := unread

/-- The id of a request's handler was found, and its meta serialised. -/
structure Found (utils : Utils A) (done : List (Exchange A)) (request : ClientRequest A) (id : ℕ)
    (lookup : Lookup) (message : Bytes) : Prop where
  valid : lookup.Valid utils (cacheAfter done) request
  id_eq : lookup.id = id
  serialized : utils.toBytesMeta (metaOf request id) = some message

/-- What the draft holds at each control point. -/
inductive At (utils : Utils A) (tr : List (ClientEvent A P)) (done : List (Exchange A)) :
    Point A P → Prop
  | top {st : ClientState P} (ledger : Ledger utils tr done {}) : At utils tr done (.top st)
  | routing {st : ClientState P} {request : ClientRequest A} {name : String} {question : Bytes}
      (ledger : Ledger utils tr done { request := [request] })
      (asks : Asks utils (cacheAfter done) request name question) :
      At utils tr done (.routing st request name question)
  | routeSending {st : ClientState P} {request : ClientRequest A} {name : String} {wire : Bytes}
      (question : Bytes) (ledger : Ledger utils tr done (askDraft request question [wire] []))
      (asks : Asks utils (cacheAfter done) request name question) :
      At utils tr done (.routeSending st request name wire)
  | routeWaiting {st : ClientState P} {request : ClientRequest A} {name : String}
      (question : Bytes) (ledger : Ledger utils tr done (askDraft request question [] []))
      (asks : Asks utils (cacheAfter done) request name question) :
      At utils tr done (.routeWaiting st request name)
  | routeIn {st : ClientState P} {request : ClientRequest A} {name : String} {raw : Bytes}
      (question : Bytes) (ledger : Ledger utils tr done (askDraft request question [] [raw]))
      (asks : Asks utils (cacheAfter done) request name question) :
      At utils tr done (.routeIn st request name raw)
  | learning {st : ClientState P} {request : ClientRequest A} {name : String} {id : ℕ}
      (question answer : Bytes)
      (ledger : Ledger utils tr done
        { request := [request], transcript := [((question, none), answer)] })
      (valid : (Lookup.asked name question answer id).Valid utils (cacheAfter done) request) :
      At utils tr done (.learning st request name id)
  | preparing {st : ClientState P} {request : ClientRequest A} {id : ℕ} {message : Bytes}
      (lookup : Lookup) (ledger : Ledger utils tr done (lookupDraft request lookup [] [] []))
      (found : Found utils done request id lookup message) :
      At utils tr done (.preparing st request id message)
  | preparingData {st : ClientState P} {request : ClientRequest A} {id : ℕ} {wire : Bytes}
      (lookup : Lookup) (message : Bytes)
      (ledger : Ledger utils tr done (lookupDraft request lookup [message] [wire] []))
      (found : Found utils done request id lookup message) :
      At utils tr done (.preparingData st request id wire)
  | metaSending {st : ClientState P} {request : ClientRequest A} {id : ℕ} {wire payload : Bytes}
      (lookup : Lookup) (message : Bytes)
      (ledger : Ledger utils tr done
        (lookupDraft request lookup [message, request.req.data] [wire, payload] []))
      (found : Found utils done request id lookup message) :
      At utils tr done (.metaSending st request id wire payload)
  | payloadSending {st : ClientState P} {request : ClientRequest A} {id : ℕ} {payload : Bytes}
      (lookup : Lookup) (message : Bytes)
      (ledger : Ledger utils tr done
        (lookupDraft request lookup [message, request.req.data] [payload] []))
      (found : Found utils done request id lookup message) :
      At utils tr done (.payloadSending st request id payload)
  | waiting {st : ClientState P} {request : ClientRequest A} {id : ℕ} (lookup : Lookup)
      (message : Bytes)
      (ledger : Ledger utils tr done
        (lookupDraft request lookup [message, request.req.data] [] []))
      (found : Found utils done request id lookup message) :
      At utils tr done (.waiting st request id)
  | responseIn {st : ClientState P} {request : ClientRequest A} {id : ℕ} {raw : Bytes}
      (lookup : Lookup) (message : Bytes)
      (ledger : Ledger utils tr done
        (lookupDraft request lookup [message, request.req.data] [] [raw]))
      (found : Found utils done request id lookup message) :
      At utils tr done (.responseIn st request id raw)
  | delivering {st : ClientState P} {request : ClientRequest A} {id : ℕ} {response : Bytes}
      (lookup : Lookup) (message : Bytes)
      (ledger : Ledger utils tr done
        { (Exchange.served request lookup message response).draft with delivered := [] })
      (found : Found utils done request id lookup message) :
      At utils tr done (.delivering st request id response)
  | warning {st : ClientState P} {error : ClientError} (ledger : Ledger utils tr done {}) :
      At utils tr done (.warning st error)
  | returned (ledger : Ledger utils tr done {}) : At utils tr done .returned

variable {st : ClientState P} {request : ClientRequest A} {pt next : Point A P}

/-- What every draft has in common. -/
structure Drafted (utils : Utils A) (done : List (Exchange A)) (draft : Draft A) : Prop where
  request : draft.request.length ≤ 1
  delivered : draft.delivered = []
  /-- An id is learnt by a lookup only. -/
  learnt : draft.learnt = [] ∨
    ∃ (request : ClientRequest A) (lookup : Lookup) (more : List Answered),
    draft.learnt = lookup.learnt ∧ draft.transcript = lookup.transcript ++ more ∧
      lookup.Valid utils (cacheAfter done) request

theorem At.drafted (h : At utils tr done pt) :
    ∃ draft, Ledger utils tr done draft ∧ Drafted utils done draft := by
  cases h with
  | top ledger | warning ledger | returned ledger =>
      exact ⟨_, ledger, Nat.zero_le 1, rfl, .inl rfl⟩
  | routing ledger | routeSending question ledger | routeWaiting question ledger
  | routeIn question ledger | learning question answer ledger =>
      exact ⟨_, ledger, le_refl 1, rfl, .inl rfl⟩
  | preparing lookup ledger found | preparingData lookup message ledger found
  | metaSending lookup message ledger found | payloadSending lookup message ledger found
  | waiting lookup message ledger found | responseIn lookup message ledger found =>
      exact ⟨_, ledger, le_refl 1, rfl,
        .inr ⟨_, lookup, [], rfl, by simp [lookupDraft], found.valid⟩⟩
  | delivering lookup message ledger found =>
      exact ⟨_, ledger, le_refl 1, rfl, .inr ⟨_, lookup, _, rfl, rfl, found.valid⟩⟩

theorem at_afterId {id : ℕ} (lookup : Lookup) (htotal : utils.Total)
    (hledger : Ledger utils tr done (lookupDraft request lookup [] [] []))
    (hvalid : lookup.Valid utils (cacheAfter done) request) (hid : lookup.id = id) :
    At utils tr done (afterId utils st request id) := by
  unfold afterId
  obtain ⟨message, hmessage⟩ := htotal.metaBytes (metaOf request id)
  rw [hmessage]
  exact .preparing lookup hledger ⟨hvalid, hid, hmessage⟩

/-- Where the account stands once a request was taken. -/
theorem at_entry (htotal : utils.Total) (hledger : Ledger utils tr done { request := [request] })
    (hroutes : st.knownRoutes = cacheAfter done) :
    ∃ done, At utils tr done (entry utils st request) := by
  unfold entry
  cases hid : request.req.handlerInfo.id with
  | some id =>
      exact ⟨done, at_afterId (.given id) htotal hledger hid rfl⟩
  | none =>
      dsimp only
      cases hnamed : request.req.handlerInfo.named with
      | none =>
          have hvalid : (Exchange.nameless request).Valid utils (cacheAfter done) := ⟨hid, hnamed⟩
          exact ⟨_, .warning (hledger.close hvalid)⟩
      | some name =>
          dsimp only
          unfold afterName
          rw [hroutes]
          cases hlookup : lookupRoute (cacheAfter done) name with
          | some id =>
              exact ⟨done, at_afterId (.cached name id) htotal hledger ⟨hid, hnamed, hlookup⟩ rfl⟩
          | none =>
              obtain ⟨question, hquestion⟩ := htotal.reqBytes ⟨.handlerMetaReq, name⟩
              dsimp only
              rw [hquestion]
              exact ⟨done, .routing hledger ⟨hid, hnamed, hlookup, hquestion⟩⟩

/-- Where the account stands once the answer to a question was read. -/
theorem at_afterAnswer {name : String} {question answer : Bytes}
    (hledger : Ledger utils tr done
      { request := [request], transcript := [((question, none), answer)] })
    (hasks : Asks utils (cacheAfter done) request name question) :
    ∃ done, At utils tr done (afterAnswer utils st request name answer) := by
  unfold afterAnswer
  cases hanswer : utils.accessAns answer with
  | error text =>
      have hvalid : (Exchange.refused request name question answer).Valid utils
          (cacheAfter done) := ⟨hasks, text, hanswer⟩
      exact ⟨_, .warning (hledger.close hvalid)⟩
  | ok metaAns => exact ⟨done, .learning question answer hledger ⟨hasks, metaAns.sType, hanswer⟩⟩

theorem next_at (htotal : utils.Total) {processor : P} (h : At utils tr done pt)
    (hholds : Holds processor tr pt) (hnext : Next utils pt e next) (hsteady : steadyLaw tr e) :
    ∃ done, At utils (tr ++ [e]) done next := by
  cases hnext with
  | taken st request =>
      cases h with
      | top ledger =>
          have hroutes : st.knownRoutes = cacheAfter done := by
            rw [(hholds.current st rfl).2, ledger.learned, List.append_nil]
            rfl
          exact at_entry htotal (by apply ledger.step <;> rfl) hroutes
  | drained st =>
      cases h with
      | top ledger => exact ⟨done, .returned (by apply ledger.step <;> rfl)⟩
  | asked st request name message processor wire =>
      cases h with
      | routing ledger asks =>
          exact ⟨done, .routeSending message (by apply ledger.step <;> rfl) asks⟩
  | routeSent st request name wire =>
      cases h with
      | routeSending question ledger asks =>
          exact ⟨done, .routeWaiting question (by apply ledger.step <;> rfl) asks⟩
  | routeFrame st request name raw =>
      cases h with
      | routeWaiting question ledger asks =>
          exact ⟨done, .routeIn question (by apply ledger.step <;> rfl) asks⟩
  | answered st request name raw processor response =>
      cases h with
      | routeIn question ledger asks =>
          exact at_afterAnswer (by apply ledger.step <;> rfl) asks
  | learned st request name id =>
      cases h with
      | learning question answer ledger valid =>
          exact ⟨done, at_afterId (.asked name question answer id) htotal
            (by apply ledger.step <;> rfl) valid rfl⟩
  | prepared st request id message processor wire =>
      cases h with
      | preparing lookup ledger found =>
          refine ⟨done, .preparingData lookup message ?_ found⟩
          apply ledger.step <;> simp [lookupDraft]
  | preparedData st request id metaBytes processor wire =>
      cases h with
      | preparingData lookup message ledger found =>
          refine ⟨done, .metaSending lookup message ?_ found⟩
          apply ledger.step <;> simp [lookupDraft]
  | metaSent st request id metaBytes payload =>
      cases h with
      | metaSending lookup message ledger found =>
          refine ⟨done, .payloadSending lookup message ?_ found⟩
          apply ledger.step <;> simp [lookupDraft]
  | payloadSent st request id payload =>
      cases h with
      | payloadSending lookup message ledger found =>
          exact ⟨done, .waiting lookup message (by apply ledger.step <;> simp [lookupDraft]) found⟩
  | responseFrame st request id raw =>
      cases h with
      | waiting lookup message ledger found =>
          refine ⟨done, .responseIn lookup message ?_ found⟩
          apply ledger.step <;> simp [lookupDraft]
  | responseRead st request id raw processor response =>
      cases h with
      | responseIn lookup message ledger found =>
          refine ⟨done, .delivering lookup message ?_ found⟩
          apply ledger.step <;>
            simp [lookupDraft, Exchange.draft, Exchange.request, Exchange.transcript,
              Exchange.learnt, messages, Grouping.items]
  | delivered st request id response res =>
      cases h with
      | delivering lookup message ledger found =>
          -- the exchange is complete, and its draft becomes the last entry
          have hvalid : (Exchange.served request lookup message response).Valid utils
              (cacheAfter done) := ⟨found.valid, found.id_eq ▸ found.serialized⟩
          refine ⟨_, .top (Ledger.close ?_ hvalid)⟩
          apply ledger.step <;> simp [Exchange.draft, Exchange.delivery]
  | warned st error =>
      cases h with
      | warning ledger => exact ⟨done, .top (by apply ledger.step <;> rfl)⟩
  | routeUnsent | metaUnsent | payloadUnsent => cases hsteady
  | routeError | routeEnd | responseError | responseEnd =>
      -- in a steady run every poll yields a frame
      obtain ⟨frame, hframe⟩ := hsteady
      cases hframe

/-- The ledger is kept along every undisturbed run. -/
theorem run_at (htotal : utils.Total) {processor : P}
    (run : Run (Next utils) (.top (initial processor)) tr pt) (hsteady : Along steadyLaw tr) :
    ∃ done, At utils tr done pt := by
  induction run with
  | nil => exact ⟨[], .top ledger_nil⟩
  | snoc hrun hnext ih =>
      obtain ⟨hbefore, hlast⟩ := along_snoc.mp hsteady
      obtain ⟨done, hat⟩ := ih hbefore
      exact next_at htotal hat (run_holds rfl rfl hrun) hnext hlast

end Client

end FourthServer
