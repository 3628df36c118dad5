import FourthServer.Client.Shipments
import FourthServer.Server.Discipline

/-!
# The packets of a client

The messages of a client fall into packets as the server groups them.  Each packet
begins with a question for an id or with the meta of a request that the client has
taken, unless it is the payload frame of a request without data (`run_posts`).  So the
server's deserialise function is asked for no structure type but those of the requests
(`reads_of_head`).
-/

namespace FourthServer

open Resumption Trace

/-- The router's deserialise function does not panic on the request's structure type. -/
def ReadsType {A : App} (router : TfServerRouter A) (request : ClientRequest A) : Prop :=
  router.deserialize (A.serialize request.req.sType) ≠ none

namespace Client

open Connection (packets awaited)

variable {A : App} {P : Type} {utils : Utils A} {router : TfServerRouter A}
  {requests : List (ClientRequest A)} {message : Bytes}

/-- What a packet of a client can begin with. -/
inductive Head (utils : Utils A) (requests : List (ClientRequest A)) : Bytes → Prop
  | question {name : String} {message : Bytes}
      (asked : utils.toBytesReq ⟨.handlerMetaReq, name⟩ = some message) :
      Head utils requests message
  | request {request : ClientRequest A} {id : ℕ} {message : Bytes} (mem : request ∈ requests)
      (of : MetaOf utils request id message) : Head utils requests message
  /-- The payload frame of a request without data. -/
  | empty : Head utils requests []

theorem Head.mono (h : Head utils requests message) (later : List (ClientRequest A)) :
    Head utils (requests ++ later) message := by
  cases h with
  | question asked => exact .question asked
  | request mem of => exact .request (List.mem_append_left _ mem) of
  | empty => exact .empty

theorem readsMeta_question (hlawful : utils.Lawful) {packet : HandlerMetaReq} {question : Bytes}
    (hquestion : utils.toBytesReq packet = some question) :
    Connection.ReadsMeta utils router question := by
  intro metaPack hread
  obtain ⟨text, htext⟩ := hlawful.meta_rejects_req hquestion
  cases htext.symm.trans hread

theorem readsMeta_meta (hlawful : utils.Lawful) {request : ClientRequest A} {id : ℕ}
    (hmeta : MetaOf utils request id message) (hreads : ReadsType router request) :
    Connection.ReadsMeta utils router message := by
  intro metaPack hread
  cases (hlawful.access_meta hmeta).symm.trans hread
  exact hreads

theorem readsMeta_empty (hlawful : utils.Lawful) : Connection.ReadsMeta utils router [] := by
  intro metaPack hread
  obtain ⟨text, htext⟩ := hlawful.meta_rejects_empty
  cases htext.symm.trans hread

/-- Of the structure types, the server reads those of the requests only. -/
theorem reads_of_head (hlawful : utils.Lawful)
    (hreads : ∀ request ∈ requests, ReadsType router request) (h : Head utils requests message) :
    Connection.ReadsMeta utils router message := by
  cases h with
  | question asked => exact readsMeta_question hlawful asked
  | request mem of => exact readsMeta_meta hlawful of (hreads _ mem)
  | empty => exact readsMeta_empty hlawful

/-! ## What has been written at each control point -/

variable {tr : List (ClientEvent A P)} {pt next : Point A P} {e : ClientEvent A P}

/-- No packet is half written, or the request's payload is next. -/
def Posting (utils : Utils A) (tr : List (ClientEvent A P)) : Point A P → Prop
  | .routing _ _ name message => awaited utils (posts tr) = none ∧
      utils.toBytesReq ⟨.handlerMetaReq, name⟩ = some message
  | .preparing _ request id message => awaited utils (posts tr) = none ∧ request ∈ taken tr ∧
      MetaOf utils request id message
  | .preparingData _ request _ _ => awaited utils (posts tr) = none ∧ request.req.data = [] ∨
      ∃ message, awaited utils (posts tr) = some message ∧ Head utils (taken tr) message
  | _ => awaited utils (posts tr) = none

/-- The packets written, and the control point. -/
structure Posted (utils : Utils A) (tr : List (ClientEvent A P)) (pt : Point A P) : Prop where
  heads : ∀ packet ∈ packets utils (posts tr), Head utils (taken tr) packet.1
  posting : Posting utils tr pt

theorem posting_afterId (hready : awaited utils (posts tr) = none) (st : ClientState P)
    {request : ClientRequest A} (hmem : request ∈ taken tr) (id : ℕ) :
    Posting utils tr (afterId utils st request id) := by
  unfold afterId
  cases hmeta : utils.toBytesMeta (metaOf request id) with
  | none => exact hready
  | some message => exact ⟨hready, hmem, hmeta⟩

theorem posting_entry (hready : awaited utils (posts tr) = none) (st : ClientState P)
    {request : ClientRequest A} (hmem : request ∈ taken tr) :
    Posting utils tr (entry utils st request) := by
  unfold entry
  cases request.req.handlerInfo.id with
  | some id => exact posting_afterId hready st hmem id
  | none =>
      dsimp only
      cases request.req.handlerInfo.named with
      | none => exact hready
      | some name =>
          dsimp only
          unfold afterName
          cases lookupRoute st.knownRoutes name with
          | some id => exact posting_afterId hready st hmem id
          | none =>
              dsimp only
              cases hquestion : utils.toBytesReq ⟨.handlerMetaReq, name⟩ with
              | none => exact hready
              | some message => exact ⟨hready, hquestion⟩

theorem posting_afterAnswer (hready : awaited utils (posts tr) = none) (st : ClientState P)
    (request : ClientRequest A) (name : String) (response : Bytes) :
    Posting utils tr (afterAnswer utils st request name response) := by
  unfold afterAnswer
  cases utils.accessAns response <;> exact hready

/-- An event by which nothing is written. -/
theorem Posted.silent (h : Posted utils tr pt) (hposts : posts (tr ++ [e]) = posts tr)
    (hposting : Posting utils (tr ++ [e]) next) : Posted utils (tr ++ [e]) next where
  heads packet hmem := by
    rw [hposts] at hmem
    rw [taken_snoc]
    exact (h.heads packet hmem).mono _
  posting := hposting

/-- A packet is written to the end. -/
theorem Posted.packet (h : Posted utils tr pt) {packet : Bytes × Bytes}
    (hpackets : packets utils (posts (tr ++ [e])) = packets utils (posts tr) ++ [packet])
    (hhead : Head utils (taken tr) packet.1) (hposting : Posting utils (tr ++ [e]) next) :
    Posted utils (tr ++ [e]) next where
  heads other hmem := by
    rw [hpackets, List.mem_append, List.mem_singleton] at hmem
    rw [taken_snoc]
    rcases hmem with hmem | rfl
    · exact (h.heads other hmem).mono _
    · exact hhead.mono _
  posting := hposting

theorem next_posted (hlawful : utils.Lawful) (hcurrent : Current tr pt) (h : Posted utils tr pt)
    (hnext : Next utils pt e next) : Posted utils (tr ++ [e]) next := by
  have hready (hnone : awaited utils (posts tr) = none) (hposts : posts (tr ++ [e]) = posts tr) :
      awaited utils (posts (tr ++ [e])) = none := by rw [hposts, hnone]
  cases hnext with
  | taken st request =>
      refine h.silent (by simp) (posting_entry (hready h.posting (by simp)) st (by simp))
  | asked st request name message processor wire =>
      obtain ⟨hnone, hquestion⟩ := h.posting
      obtain ⟨text, htext⟩ := hlawful.meta_rejects_req hquestion
      have hmore : Connection.hasPayload utils message = false := by
        simp [Connection.hasPayload, htext]
      obtain ⟨hpackets, hawaited⟩ := Connection.packets_snoc_alone hnone hmore
      exact h.packet (by simpa using hpackets) (.question hquestion)
        (by simpa [Posting] using hawaited)
  | answered st request name raw processor response =>
      exact h.silent (by simp) (posting_afterAnswer (hready h.posting (by simp)) _ _ _ _)
  | learned st request name id =>
      obtain ⟨earlier, htaken⟩ := hcurrent request rfl
      exact h.silent (by simp)
        (posting_afterId (hready h.posting (by simp)) _ (by simp [htaken]) id)
  | prepared st request id message processor wire =>
      obtain ⟨hnone, hmem, hmeta⟩ := h.posting
      have hmore : Connection.hasPayload utils message = !request.req.data.isEmpty := by
        simp [Connection.hasPayload, hlawful.access_meta hmeta, metaOf]
      cases hdata : request.req.data.isEmpty with
      | true =>
          obtain ⟨hpackets, hawaited⟩ :=
            Connection.packets_snoc_alone hnone (by rw [hmore, hdata]; rfl)
          exact h.packet (by simpa using hpackets) (.request hmem hmeta)
            (.inl ⟨by simpa using hawaited, List.isEmpty_iff.mp hdata⟩)
      | false =>
          obtain ⟨hpackets, hawaited⟩ :=
            Connection.packets_snoc_announced hnone (by rw [hmore, hdata]; rfl)
          refine ⟨fun packet hpacket => ?_, .inr ⟨message, by simpa using hawaited, ?_⟩⟩
          · rw [posts_snoc] at hpacket
            rw [taken_snoc]
            exact (h.heads packet (hpackets ▸ hpacket)).mono _
          · rw [taken_snoc]
            exact (Head.request hmem hmeta).mono _
  | preparedData st request id metaBytes processor wire =>
      rcases h.posting with ⟨hnone, hdata⟩ | ⟨message, hsome, hhead⟩
      · obtain ⟨text, htext⟩ := hlawful.meta_rejects_empty
        have hmore : Connection.hasPayload utils [] = false := by
          simp [Connection.hasPayload, htext]
        obtain ⟨hpackets, hawaited⟩ := Connection.packets_snoc_alone hnone hmore
        exact h.packet (by simpa [hdata] using hpackets) .empty
          (by simpa [Posting, hdata] using hawaited)
      · obtain ⟨hpackets, hawaited⟩ := Connection.packets_snoc_payload request.req.data hsome
        exact h.packet (by simpa using hpackets) hhead (by simpa [Posting] using hawaited)
  | _ => exact h.silent (by simp) (hready h.posting (by simp))

/-- **The packets of a client** begin with its questions and the metas of its requests. -/
theorem run_posts (hlawful : utils.Lawful) {st : ClientState P}
    (run : Run (Next utils) (.top st) tr pt) :
    ∀ packet ∈ packets utils (posts tr), Head utils (taken tr) packet.1 := by
  suffices h : Posted utils tr pt from h.heads
  induction run with
  | nil => exact ⟨by simp, rfl⟩
  | snoc hrun hnext ih => exact next_posted hlawful (run_current hrun) ih hnext

end Client

end FourthServer
