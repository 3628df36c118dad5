import FourthServer.Link.Parties

/-!
# Whose answer is it?

The client sends units of frames and reads one frame after each; the server
groups the frames into packets and replies once to each.  When every unit is
announced as it is sent (its head says whether a body follows), the packets are
the units, so the i-th frame the client reads is the reply to its i-th unit
(`Corresponds.agree`).  For the question for an id this says what the answer
is, and so what the client believes about names is what the router has
(`sound_of_corresponds`).  The one thing that can go wrong is a request without
data: its meta announces no body and the client sends one.
-/

namespace FourthServer

open Resumption Trace Client Connection

/-- The request's handler can be resolved to the id. -/
def Resolves {A : App} (router : TfServerRouter A) (request : ClientRequest A) (id : ℕ) : Prop :=
  request.req.handlerInfo.id = some id ∨
    request.req.handlerInfo.id = none ∧
      ∃ name, request.req.handlerInfo.named = some name ∧ router.idOfName name = some id

/-- Exactly the requests whose handler can be resolved are served, with the id it
resolves to. -/
def Client.Exchange.Sound {A : App} (router : TfServerRouter A) : Exchange A → Prop
  | .nameless request => ∀ id, ¬Resolves router request id
  | .refused request _ _ _ => ∀ id, ¬Resolves router request id
  | .served request lookup _ _ => Resolves router request lookup.id

/-- What the cache holds is what the router holds. -/
def CacheSound {A : App} (router : TfServerRouter A) (cache : List (String × ℕ)) : Prop :=
  ∀ name id, lookupRoute cache name = some id → router.idOfName name = some id

/-- The requests that reach the server carry data. -/
def CarriesData {A : App} (router : TfServerRouter A) (request : ClientRequest A) : Prop :=
  ∀ id, Resolves router request id → request.req.data ≠ []

namespace Link

variable {A : App} {P : Type}

/-- The packet a unit should be grouped into. -/
def packetOf (unit : Answered) : Bytes × Bytes := (unit.1.1, unit.1.2.getD [])

/-- A unit with its answer. -/
def exchanged (unit : Answered) : (Bytes × Bytes) × Bytes := (packetOf unit, unit.2)

/-- A round with its reply. -/
def replied (round : Round A) : (Bytes × Bytes) × Bytes := (round.packet, round.message)

/-- The unit's head announces exactly what follows it. -/
def AnnouncedUnit (utils : Utils A) (unit : Answered) : Prop :=
  Grouping.Announced (hasPayload utils) unit.1

/-- The server's rounds are about what the client sent, and the client's answers
are their replies. -/
structure Corresponds (P : Type) (utils : Utils A) (router : TfServerRouter A) (addr : SocketAddr)
    (units : List Answered) (rounds : List (Round A)) : Prop where
  packets : ∃ rest, rounds.map Round.packet <+: packets utils (messages units ++ rest)
  answers : units.map Prod.snd <+: rounds.map Round.message
  valid : ∀ round ∈ rounds, round.Valid P utils router addr

variable {utils : Utils A} {router : TfServerRouter A} {addr : SocketAddr}
  {units more : List Answered} {rounds : List (Round A)}

theorem messages_eq (units : List Answered) :
    messages units = (units.map Prod.fst).flatMap Grouping.items := by
  simp [messages, List.flatMap_map]

/-- Announced units are grouped as they were sent. -/
theorem packets_messages (hannounced : ∀ unit ∈ units, AnnouncedUnit utils unit)
    (rest : List Bytes) :
    packets utils (messages units ++ rest) = units.map packetOf ++ packets utils rest := by
  have hunits : ∀ unit ∈ units.map Prod.fst, Grouping.Announced (hasPayload utils) unit := by
    intro unit hmem
    obtain ⟨answered, hanswered, rfl⟩ := List.mem_map.mp hmem
    exact hannounced answered hanswered
  unfold packets
  rw [messages_eq, Grouping.group_flatMap_items rest hunits, List.map_append, List.map_map]
  rfl

theorem Corresponds.initial (h : Corresponds P utils router addr (units ++ more) rounds) :
    Corresponds P utils router addr units rounds := by
  obtain ⟨⟨rest, hpackets⟩, hanswers, hvalid⟩ := h
  refine ⟨⟨messages more ++ rest, ?_⟩, ?_, hvalid⟩
  · rwa [messages_append, List.append_assoc] at hpackets
  · rw [List.map_append] at hanswers
    exact (List.prefix_append _ _).trans hanswers

/-- Two lists whose first components agree as far as one of them goes, and whose
second components agree as far as the other goes. -/
theorem pairs_initial {α β γ δ : Type} {xs : List α} {ys : List β} {rest : List γ} {f : β → γ}
    {g : α → γ} {f' : β → δ} {g' : α → δ} (hfirst : ys.map f <+: xs.map g ++ rest)
    (hsecond : xs.map g' <+: ys.map f') :
    (xs.map fun x => (g x, g' x)) <+: ys.map fun y => (f y, f' y) := by
  induction xs generalizing ys with
  | nil => exact List.nil_prefix
  | cons x xs ih =>
      cases ys with
      | nil => simp at hsecond
      | cons y ys =>
          simp only [List.map_cons, List.cons_append, List.cons_prefix_cons] at hfirst hsecond ⊢
          exact ⟨Prod.ext hfirst.1.symm hsecond.1, ih hfirst.2 hsecond.2⟩

/-- **The i-th answer is the reply to the i-th unit.** -/
theorem Corresponds.agree (h : Corresponds P utils router addr units rounds)
    (hannounced : ∀ unit ∈ units, AnnouncedUnit utils unit) :
    units.map exchanged <+: rounds.map replied := by
  obtain ⟨⟨rest, hpackets⟩, hanswers, -⟩ := h
  rw [packets_messages hannounced] at hpackets
  exact pairs_initial hpackets hanswers

/-! ## The answer to a question for an id -/

theorem hasPayload_question (hlawful : utils.Lawful) {packet : HandlerMetaReq} {question : Bytes}
    (hquestion : utils.toBytesReq packet = some question) : hasPayload utils question = false := by
  obtain ⟨text, htext⟩ := hlawful.meta_rejects_req hquestion
  simp [hasPayload, htext]

theorem hasPayload_meta (hlawful : utils.Lawful) {packet : PacketMeta} {metaData : Bytes}
    (hmeta : utils.toBytesMeta packet = some metaData) :
    hasPayload utils metaData = packet.hasPayload := by
  simp [hasPayload, hlawful.access_meta hmeta]

/-- A question is answered from the name table. -/
theorem dispatch_question (hlawful : utils.Lawful) {name : String} {question : Bytes}
    (hquestion : utils.toBytesReq ⟨.handlerMetaReq, name⟩ = some question) (payload : Bytes)
    (routeTx : Option Sender) :
    router.dispatch utils question payload addr routeTx = router.answerName utils name := by
  obtain ⟨text, htext⟩ := hlawful.meta_rejects_req hquestion
  simp only [TfServerRouter.dispatch, htext, hlawful.access_req hquestion]

theorem reply_of_question (hlawful : utils.Lawful) {name : String} {question : Bytes}
    (hquestion : utils.toBytesReq ⟨.handlerMetaReq, name⟩ = some question) {round : Round A}
    (hround : round.Valid P utils router addr) (hpacket : round.packet.1 = question) :
    (∃ id, router.idOfName name = some id ∧
      utils.toBytesAns ⟨.handlerMetaAns, id⟩ = some round.message) ∨
    (router.idOfName name = none ∧
      utils.toBytesErr ⟨.noSuchHandler none⟩ = some round.message) := by
  obtain ⟨routeTx, served, run, hmessage⟩ := hround
  rw [hpacket, TfServerRouter.servePacket_eq, dispatch_question hlawful hquestion,
    TfServerRouter.answerName] at run
  cases hid : router.idOfName name with
  | none =>
      rw [hid] at run
      obtain ⟨-, hserved⟩ := Prog.run_ret.mp run
      cases hserved
      exact .inr ⟨rfl, hmessage⟩
  | some id =>
      obtain ⟨bytes, hbytes⟩ := hlawful.ansBytes ⟨.handlerMetaAns, id⟩
      rw [hid] at run
      dsimp only at run
      rw [hbytes] at run
      obtain ⟨-, hserved⟩ := Prog.run_ret.mp run
      cases hserved
      exact .inl ⟨id, rfl, hbytes.trans hmessage⟩

/-- What the client reads after a question is the router's answer to it. -/
theorem answer_of_question (hlawful : utils.Lawful) {name : String} {question answer : Bytes}
    (h : Corresponds P utils router addr (units ++ [((question, none), answer)]) rounds)
    (hannounced : ∀ unit ∈ units, AnnouncedUnit utils unit)
    (hquestion : utils.toBytesReq ⟨.handlerMetaReq, name⟩ = some question) :
    (∃ id, router.idOfName name = some id ∧
      utils.toBytesAns ⟨.handlerMetaAns, id⟩ = some answer) ∨
    (router.idOfName name = none ∧ utils.toBytesErr ⟨.noSuchHandler none⟩ = some answer) := by
  have hall : ∀ unit ∈ units ++ [((question, none), answer)], AnnouncedUnit utils unit := by
    intro unit hmem
    rcases List.mem_append.mp hmem with hmem | hmem
    · exact hannounced unit hmem
    · cases List.mem_singleton.mp hmem
      exact hasPayload_question hlawful hquestion
  have hmem : exchanged ((question, none), answer) ∈ rounds.map replied :=
    (h.agree hall).subset (List.mem_map.mpr ⟨_, by simp, rfl⟩)
  obtain ⟨round, hround, heq⟩ := List.mem_map.mp hmem
  have hpacket : round.packet = (question, []) := congrArg Prod.fst heq
  have hmessage : round.message = answer := congrArg Prod.snd heq
  rw [← hmessage]
  exact reply_of_question hlawful hquestion (h.valid round hround) (by rw [hpacket])

/-- An accepted answer is the router's id for the name. -/
theorem id_of_answer (hlawful : utils.Lawful) {name : String} {question answer : Bytes}
    {sType : SystemSType} {id : ℕ}
    (h : Corresponds P utils router addr (units ++ [((question, none), answer)]) rounds)
    (hannounced : ∀ unit ∈ units, AnnouncedUnit utils unit)
    (hquestion : utils.toBytesReq ⟨.handlerMetaReq, name⟩ = some question)
    (haccess : utils.accessAns answer = .ok ⟨sType, id⟩) : router.idOfName name = some id := by
  rcases answer_of_question hlawful h hannounced hquestion with
    ⟨found, hfound, hbytes⟩ | ⟨-, hbytes⟩
  · have hread := hlawful.access_ans hbytes
    rw [haccess] at hread
    cases hread
    exact hfound
  · obtain ⟨text, htext⟩ := hlawful.ans_rejects_err hbytes
    rw [haccess] at htext
    cases htext

/-- A refused answer means that the name is unknown to the router. -/
theorem none_of_refusal (hlawful : utils.Lawful) {name text : String} {question refusal : Bytes}
    (h : Corresponds P utils router addr (units ++ [((question, none), refusal)]) rounds)
    (hannounced : ∀ unit ∈ units, AnnouncedUnit utils unit)
    (hquestion : utils.toBytesReq ⟨.handlerMetaReq, name⟩ = some question)
    (haccess : utils.accessAns refusal = .error text) : router.idOfName name = none := by
  rcases answer_of_question hlawful h hannounced hquestion with ⟨found, -, hbytes⟩ | ⟨hnone, -⟩
  · rw [hlawful.access_ans hbytes] at haccess
    cases haccess
  · exact hnone

/-! ## What the client believes -/

theorem cacheAfter_snoc (done : List (Exchange A)) (x : Exchange A) :
    cacheAfter (done ++ [x]) =
      x.learnt.foldl (fun cache pair => rememberRoute cache pair.1 pair.2) (cacheAfter done) := by
  simp [cacheAfter, cacheOf]

theorem cacheSound_remember {cache : List (String × ℕ)} {name : String} {id : ℕ}
    (h : CacheSound router cache) (hname : router.idOfName name = some id) :
    CacheSound router (rememberRoute cache name id) := by
  intro other found hfound
  rw [lookupRoute_rememberRoute] at hfound
  split at hfound
  · cases hfound
    subst other
    exact hname
  · exact h other found hfound

/-- A lookup finds the id the request's handler resolves to. -/
theorem lookup_sound (hlawful : utils.Lawful) {lookup : Lookup} {request : ClientRequest A}
    {cache : List (String × ℕ)}
    (h : Corresponds P utils router addr (units ++ lookup.transcript) rounds)
    (hannounced : ∀ unit ∈ units, AnnouncedUnit utils unit) (hcache : CacheSound router cache)
    (hvalid : lookup.Valid utils cache request) :
    Resolves router request lookup.id ∧
      (∀ unit ∈ lookup.transcript, AnnouncedUnit utils unit) ∧
      CacheSound router
        (lookup.learnt.foldl (fun cache pair => rememberRoute cache pair.1 pair.2) cache) := by
  cases lookup with
  | given id => exact ⟨.inl hvalid, by simp [Lookup.transcript], hcache⟩
  | cached name id =>
      obtain ⟨hid, hnamed, hlookup⟩ := hvalid
      exact ⟨.inr ⟨hid, name, hnamed, hcache name id hlookup⟩, by simp [Lookup.transcript], hcache⟩
  | asked name question answer id =>
      obtain ⟨hasks, sType, haccess⟩ := hvalid
      have hname := id_of_answer hlawful h hannounced hasks.serialized haccess
      refine ⟨.inr ⟨hasks.id_none, name, hasks.named, hname⟩, ?_, cacheSound_remember hcache hname⟩
      intro unit hmem
      cases List.mem_singleton.mp hmem
      exact hasPayload_question hlawful hasks.serialized

/-- A request with data is announced as it is sent. -/
theorem announced_request (hlawful : utils.Lawful) {request : ClientRequest A} {id : ℕ}
    {metaData response : Bytes} (hmeta : utils.toBytesMeta (metaOf request id) = some metaData)
    (hdata : request.req.data ≠ []) :
    AnnouncedUnit utils ((metaData, some request.req.data), response) := by
  show hasPayload utils metaData = true
  rw [hasPayload_meta hlawful hmeta]
  simp [metaOf, hdata]

/-- What the client believes after one more exchange. -/
theorem exchange_sound (hlawful : utils.Lawful) {x : Exchange A} {cache : List (String × ℕ)}
    (h : Corresponds P utils router addr (units ++ x.transcript) rounds)
    (hannounced : ∀ unit ∈ units, AnnouncedUnit utils unit) (hcache : CacheSound router cache)
    (hvalid : x.Valid utils cache) (hdata : CarriesData router x.request) :
    x.Sound router ∧ (∀ unit ∈ x.transcript, AnnouncedUnit utils unit) ∧
      CacheSound router
        (x.learnt.foldl (fun cache pair => rememberRoute cache pair.1 pair.2) cache) := by
  cases x with
  | nameless request =>
      obtain ⟨hid, hnamed⟩ := hvalid
      refine ⟨?_, by simp [Exchange.transcript], hcache⟩
      rintro id (hsome | ⟨-, name, hname, -⟩)
      · cases hid.symm.trans hsome
      · cases hnamed.symm.trans hname
  | refused request name question refusal =>
      obtain ⟨hasks, text, haccess⟩ := hvalid
      have hnone := none_of_refusal hlawful h hannounced hasks.serialized haccess
      refine ⟨?_, ?_, hcache⟩
      · rintro id (hsome | ⟨-, other, hother, hfound⟩)
        · cases hasks.id_none.symm.trans hsome
        · cases hasks.named.symm.trans hother
          cases hnone.symm.trans hfound
      · intro unit hmem
        cases List.mem_singleton.mp hmem
        exact hasPayload_question hlawful hasks.serialized
  | served request lookup metaData response =>
      obtain ⟨hlookup, hmeta⟩ := hvalid
      have hbefore : Corresponds P utils router addr (units ++ lookup.transcript) rounds := by
        simp only [Exchange.transcript, ← List.append_assoc] at h
        exact h.initial
      obtain ⟨hresolves, hasked, hlearnt⟩ := lookup_sound hlawful hbefore hannounced hcache hlookup
      refine ⟨hresolves, ?_, hlearnt⟩
      intro unit hmem
      rcases List.mem_append.mp hmem with hmem | hmem
      · exact hasked unit hmem
      · cases List.mem_singleton.mp hmem
        exact announced_request hlawful hmeta (hdata _ hresolves)

/-- What the client believes is what the router has, as long as every request
that reaches the server carries data. -/
theorem sound_of_corresponds (hlawful : utils.Lawful) {done : List (Exchange A)}
    (hvalid : Along (validLaw utils) done)
    (h : Corresponds P utils router addr (done.flatMap Exchange.transcript) rounds)
    (hdata : ∀ x ∈ done, CarriesData router x.request) :
    (∀ x ∈ done, x.Sound router) ∧
      (∀ unit ∈ done.flatMap Exchange.transcript, AnnouncedUnit utils unit) ∧
      CacheSound router (cacheAfter done) := by
  induction done using List.reverseRecOn with
  | nil => exact ⟨by simp, by simp, fun name id hid => by cases hid⟩
  | append_singleton done x ih =>
      obtain ⟨hbefore, hx⟩ := along_snoc.mp hvalid
      rw [List.flatMap_append, List.flatMap_singleton] at h
      obtain ⟨hsound, hannounced, hcache⟩ :=
        ih hbefore h.initial fun other hother => hdata other (by simp [hother])
      obtain ⟨hxsound, hxannounced, hxcache⟩ :=
        exchange_sound hlawful h hannounced hcache hx (hdata x (by simp))
      refine ⟨?_, ?_, ?_⟩
      · intro other hmem
        rcases List.mem_append.mp hmem with hmem | hmem
        · exact hsound other hmem
        · exact List.mem_singleton.mp hmem ▸ hxsound
      · intro unit hmem
        rw [List.flatMap_append, List.flatMap_singleton] at hmem
        rcases List.mem_append.mp hmem with hmem | hmem
        · exact hannounced unit hmem
        · exact hxannounced unit hmem
      · rw [cacheAfter_snoc]
        exact hxcache

end Link

end FourthServer
