import FourthServer.Client.Steady
import FourthServer.Library.Grouping
import FourthServer.Server.History

/-!
# Which request a frame was sent for

A request goes out as two sends, each of which may be rejected.  `origins`
tells of every frame sent the request it belongs to and the call that sent it.
As long as no frame is sent after the payload of some request was rejected, the
frames sent are the units of the framing protocol, each of one request, with at
most one meta frame at the end whose payload is missing (`run_shipped`).
-/

namespace FourthServer

open Resumption Trace

namespace Client

variable {A : App} {P Snd Rcv : Type}

/-! ## Origins -/

/-- The request a frame was sent for, counted from one, and the call that sent
it. -/
structure Origin where
  number : ℕ
  site : SendSite
  deriving DecidableEq, Repr

@[simp] def origin? (number : ℕ) : ClientEvent A P → Option Origin
  | ⟨.send site _, .ok ()⟩ => some ⟨number, site⟩
  | _ => none

/-- The origins of the frames sent once a number of requests was taken. -/
def originsFrom : ℕ → List (ClientEvent A P) → List Origin
  | _, [] => []
  | number, e :: rest =>
    (origin? number e).toList ++ originsFrom (number + (taken? e).toList.length) rest

/-- The origins of the frames sent. -/
def origins (tr : List (ClientEvent A P)) : List Origin := originsFrom 0 tr

theorem originsFrom_snoc (number : ℕ) (tr : List (ClientEvent A P)) (e : ClientEvent A P) :
    originsFrom number (tr ++ [e]) =
      originsFrom number tr ++ (origin? (number + (taken tr).length) e).toList := by
  induction tr generalizing number with
  | nil => simp [originsFrom]
  | cons first tr ih =>
      have hlength : (taken (first :: tr)).length =
          (taken? first).toList.length + (taken tr).length := by
        cases h : taken? first with
        | none => simp [taken, List.filterMap_cons_none h]
        | some request => simp [taken, List.filterMap_cons_some h, Nat.add_comm]
      simp only [List.cons_append, originsFrom, ih, hlength, Nat.add_assoc, List.append_assoc]

@[simp] theorem origins_nil : origins ([] : List (ClientEvent A P)) = [] := rfl

@[simp] theorem origins_snoc (tr : List (ClientEvent A P)) (e : ClientEvent A P) :
    origins (tr ++ [e]) = origins tr ++ (origin? (taken tr).length e).toList := by
  simpa [origins] using originsFrom_snoc 0 tr e

/-! ## Parcels -/

/-- A message with its origin. -/
structure Parcel where
  origin : Origin
  message : Bytes

/-- The payload of a request is rejected, after its meta was sent. -/
def halves : ClientEvent A P → Prop
  | ⟨.send .payload _, .error _⟩ => True
  | _ => False

/-- Some request was sent by half. -/
def HalfSent (tr : List (ClientEvent A P)) : Prop := ∃ e ∈ tr, halves e

/-- Nothing is sent after a request that was sent by half. -/
def stopsAtHalf (before : List (ClientEvent A P)) : ClientEvent A P → Prop
  | ⟨.send _ _, .ok ()⟩ => ¬HalfSent before
  | _ => True

/-- The request is the one of that number. -/
def Numbered (requests : List (ClientRequest A)) (number : ℕ) (request : ClientRequest A) : Prop :=
  ∃ earlier later, requests = earlier ++ request :: later ∧ earlier.length + 1 = number

/-- The meta frame and the payload frame of one request. -/
structure OwnFrames (utils : Utils A) (requests : List (ClientRequest A))
    (metaFrame payload : Parcel) : Prop where
  sites : metaFrame.origin.site = .metaFrame ∧ payload.origin.site = .payload
  number : metaFrame.origin.number = payload.origin.number
  contents : ∃ request id, Numbered requests metaFrame.origin.number request ∧
    utils.toBytesMeta (metaOf request id) = some metaFrame.message ∧
    payload.message = request.req.data

/-- A unit of the framing protocol, of one request. -/
structure OwnUnit (utils : Utils A) (requests : List (ClientRequest A))
    (unit : Parcel × Option Parcel) : Prop where
  announced : Connection.hasPayload utils unit.1.message = unit.2.isSome
  own : ∀ payload, unit.2 = some payload → OwnFrames utils requests unit.1 payload

/-- The frame is what `post_process_traffic` made of the message. -/
def Wrapping (T : Hooks.Pair Snd Rcv Bytes) (wire message : Bytes) : Prop :=
  ∃ snd, (T.post snd message).2 = wire

/-- What was sent: whole units, and some more parcels. -/
structure Shipped (utils : Utils A) (T : Hooks.Pair Snd Rcv Bytes)
    (tr : List (ClientEvent A P)) (units : List (Parcel × Option Parcel)) (more : List Parcel) :
    Prop where
  origins : origins tr = (units.flatMap Grouping.items ++ more).map Parcel.origin
  wrapping : List.Forall₂ (Wrapping T) (wires tr)
    ((units.flatMap Grouping.items ++ more).map Parcel.message)
  own : ∀ unit ∈ units, OwnUnit utils (taken tr) unit

variable {utils : Utils A} {T : Hooks.Pair Snd Rcv Bytes} {tr : List (ClientEvent A P)}
  {units : List (Parcel × Option Parcel)} {more : List Parcel} {e : ClientEvent A P}

theorem Numbered.mono {requests : List (ClientRequest A)} {number : ℕ} {request : ClientRequest A}
    (h : Numbered requests number request) (later : List (ClientRequest A)) :
    Numbered (requests ++ later) number request := by
  obtain ⟨earlier, rest, rfl, hnumber⟩ := h
  exact ⟨earlier, rest ++ later, by simp, hnumber⟩

theorem numbered_last (requests : List (ClientRequest A)) (request : ClientRequest A) :
    Numbered (requests ++ [request]) (requests ++ [request]).length request :=
  ⟨requests, [], rfl, by simp⟩

theorem OwnUnit.mono {requests : List (ClientRequest A)} {unit : Parcel × Option Parcel}
    (h : OwnUnit utils requests unit) (later : List (ClientRequest A)) :
    OwnUnit utils (requests ++ later) unit := by
  refine ⟨h.announced, fun payload hpayload => ?_⟩
  obtain ⟨hsites, hnumber, request, id, hrequest, hmeta, hdata⟩ := h.own payload hpayload
  exact ⟨hsites, hnumber, request, id, hrequest.mono later, hmeta, hdata⟩

theorem shipped_nil : Shipped utils T ([] : List (ClientEvent A P)) [] [] :=
  ⟨rfl, .nil, by simp⟩

/-- An event that sends nothing. -/
theorem Shipped.silent (h : Shipped utils T tr units more)
    (horigin : ∀ number, origin? number e = none) (hwire : wire? e = none) :
    Shipped utils T (tr ++ [e]) units more where
  origins := by rw [origins_snoc, horigin, h.origins, Option.toList_none, List.append_nil]
  wrapping := by
    rw [wires_snoc, hwire, Option.toList_none, List.append_nil]
    exact h.wrapping
  own unit hmem := by
    rw [taken_snoc]
    exact (h.own unit hmem).mono _

/-- One more frame is sent. -/
theorem Shipped.ship (h : Shipped utils T tr units more) (site : SendSite) {wire message : Bytes}
    (hwrapping : Wrapping T wire message) :
    Shipped utils T (tr ++ [⟨.send site wire, .ok ()⟩]) units
      (more ++ [⟨⟨(taken tr).length, site⟩, message⟩]) where
  origins := by
    rw [origins_snoc, h.origins]
    simp
  wrapping := by
    rw [wires_snoc, ← List.append_assoc, List.map_append]
    exact List.rel_append h.wrapping (.cons hwrapping .nil)
  own unit hmem := by
    rw [taken_snoc]
    exact (h.own unit hmem).mono _

/-- The parcels at the end are a unit. -/
theorem Shipped.close (unit : Parcel × Option Parcel)
    (h : Shipped utils T tr units (Grouping.items unit)) (hunit : OwnUnit utils (taken tr) unit) :
    Shipped utils T tr (units ++ [unit]) [] where
  origins := by simpa using h.origins
  wrapping := by simpa using h.wrapping
  own other hmem := by
    rcases List.mem_append.mp hmem with hmem | hmem
    · exact h.own other hmem
    · exact List.mem_singleton.mp hmem ▸ hunit

/-! ## What was sent at each control point -/

/-- The message is the meta of the request. -/
def MetaOf (utils : Utils A) (request : ClientRequest A) (id : ℕ) (message : Bytes) : Prop :=
  utils.toBytesMeta (metaOf request id) = some message

/-- What was sent at a control point, and what is about to be sent. -/
def Stage (utils : Utils A) (T : Hooks.Pair Snd Rcv Bytes) (tr : List (ClientEvent A P))
    (units : List (Parcel × Option Parcel)) : Point A P → Prop
  | .routing _ _ _ message => Shipped utils T tr units [] ∧
      ∃ packet, utils.toBytesReq packet = some message
  | .routeSending _ _ _ wire => Shipped utils T tr units [] ∧
      ∃ packet message, utils.toBytesReq packet = some message ∧ Wrapping T wire message
  | .preparing _ request id message => Shipped utils T tr units [] ∧ MetaOf utils request id message
  | .preparingData _ request id wire => Shipped utils T tr units [] ∧
      ∃ message, MetaOf utils request id message ∧ Wrapping T wire message
  | .metaSending _ request id wire payload => Shipped utils T tr units [] ∧
      (∃ message, MetaOf utils request id message ∧ Wrapping T wire message) ∧
      Wrapping T payload request.req.data
  | .payloadSending _ request id payload => ∃ message, MetaOf utils request id message ∧
      Shipped utils T tr units [⟨⟨(taken tr).length, .metaFrame⟩, message⟩] ∧
      Wrapping T payload request.req.data
  | _ => Shipped utils T tr units []

theorem stage_afterId (h : Shipped utils T tr units []) (st : ClientState P)
    (request : ClientRequest A) (id : ℕ) :
    Stage utils T tr units (afterId utils st request id) := by
  unfold afterId
  cases hmeta : utils.toBytesMeta (metaOf request id) with
  | none => exact h
  | some message => exact ⟨h, hmeta⟩

theorem stage_entry (h : Shipped utils T tr units []) (st : ClientState P)
    (request : ClientRequest A) : Stage utils T tr units (entry utils st request) := by
  unfold entry
  cases request.req.handlerInfo.id with
  | some id => exact stage_afterId h st request id
  | none =>
      dsimp only
      cases request.req.handlerInfo.named with
      | none => exact h
      | some name =>
          dsimp only
          unfold afterName
          cases lookupRoute st.knownRoutes name with
          | some id => exact stage_afterId h st request id
          | none =>
              dsimp only
              cases hquestion : utils.toBytesReq ⟨.handlerMetaReq, name⟩ with
              | none => exact h
              | some message => exact ⟨h, _, hquestion⟩

theorem stage_afterAnswer (h : Shipped utils T tr units []) (st : ClientState P)
    (request : ClientRequest A) (name : String) (response : Bytes) :
    Stage utils T tr units (afterAnswer utils st request name response) := by
  unfold afterAnswer
  cases utils.accessAns response <;> exact h

variable {pt next : Point (A := A) (P := Snd × Rcv)}
  {tr : List (ClientEvent A (Snd × Rcv))} {e : ClientEvent A (Snd × Rcv)}

/-- A question is a unit by itself. -/
theorem ownUnit_question (hlawful : utils.Lawful) {packet : HandlerMetaReq} {message : Bytes}
    (hmessage : utils.toBytesReq packet = some message) (origin : Origin)
    (requests : List (ClientRequest A)) : OwnUnit utils requests (⟨origin, message⟩, none) := by
  obtain ⟨text, htext⟩ := hlawful.meta_rejects_req hmessage
  exact ⟨by simp [Connection.hasPayload, htext], fun payload h => nomatch h⟩

/-- A request with data announces its payload. -/
theorem hasPayload_of_metaOf (hlawful : utils.Lawful) {request : ClientRequest A} {id : ℕ}
    {message : Bytes} (hmeta : MetaOf utils request id message) (hdata : request.req.data ≠ []) :
    Connection.hasPayload utils message = true := by
  simp [Connection.hasPayload, hlawful.access_meta hmeta, metaOf, hdata]

/-- The two frames of a request with data are a unit. -/
theorem ownUnit_request (hlawful : utils.Lawful) {requests : List (ClientRequest A)}
    {request : ClientRequest A} {id : ℕ} {message : Bytes}
    (hmeta : MetaOf utils request id message) (hdata : request.req.data ≠ [])
    (hlast : ∃ earlier, requests = earlier ++ [request]) :
    OwnUnit utils requests (⟨⟨requests.length, .metaFrame⟩, message⟩,
      some ⟨⟨requests.length, .payload⟩, request.req.data⟩) := by
  refine ⟨hasPayload_of_metaOf hlawful hmeta hdata, ?_⟩
  rintro payload ⟨⟩
  obtain ⟨earlier, rfl⟩ := hlast
  exact ⟨⟨rfl, rfl⟩, rfl, request, id, numbered_last earlier request, hmeta, rfl⟩

theorem wrapping_of_obeys {processor processor' : Snd × Rcv} {message wire : Bytes}
    (h : obeys T (⟨.postProcess processor message, (processor', wire)⟩ :
      ClientEvent A (Snd × Rcv))) : Wrapping T wire message :=
  ⟨processor.1, (congrArg Prod.snd (h _ rfl)).symm⟩

/-- What a client has sent: whole units, or whole units and the head of a request
that was sent by half. -/
def Sent (utils : Utils A) (T : Hooks.Pair Snd Rcv Bytes) (tr : List (ClientEvent A (Snd × Rcv)))
    (pt : Point A (Snd × Rcv)) : Prop :=
  (∃ units, Stage utils T tr units pt) ∨
    HalfSent tr ∧ ∃ units head, Shipped utils T tr units [head] ∧
      Connection.hasPayload utils head.message = true

theorem HalfSent.snoc (h : HalfSent tr) (e : ClientEvent A (Snd × Rcv)) : HalfSent (tr ++ [e]) := by
  obtain ⟨earlier, hmem, hhalves⟩ := h
  exact ⟨earlier, List.mem_append_left _ hmem, hhalves⟩

/-- After a request that was sent by half, nothing is sent. -/
theorem Shipped.half {head : Parcel} (h : Shipped utils T tr units [head]) (hhalf : HalfSent tr)
    (hstops : stopsAtHalf tr e) : Shipped utils T (tr ++ [e]) units [head] := by
  obtain ⟨op, answer⟩ := e
  cases op with
  | send site wire =>
      match answer with
      | .ok () => exact absurd hhalf hstops
      | .error kind => exact h.silent (fun _ => rfl) rfl
  | _ => exact h.silent (fun _ => rfl) rfl

theorem next_sent (hlawful : utils.Lawful) (hdata : ∀ request ∈ taken tr, request.req.data ≠ [])
    (hcurrent : Current tr pt) {units : List (Parcel × Option Parcel)}
    (hstage : Stage utils T tr units pt) (hnext : Next utils pt e next) (hobeys : obeys T e) :
    Sent utils T (tr ++ [e]) next := by
  have hsilent {next : Point A (Snd × Rcv)} (hshipped : Shipped utils T tr units [])
      (horigin : ∀ number, origin? number e = none) (hwire : wire? e = none)
      (hafter : Shipped utils T (tr ++ [e]) units [] → Stage utils T (tr ++ [e]) units next) :
      Sent utils T (tr ++ [e]) next := .inl ⟨units, hafter (hshipped.silent horigin hwire)⟩
  cases hnext with
  | taken st request => exact hsilent hstage (fun _ => rfl) rfl fun h => stage_entry h st request
  | asked st request name message processor wire =>
      obtain ⟨hshipped, packet, hpacket⟩ := hstage
      exact hsilent hshipped (fun _ => rfl) rfl fun h =>
        ⟨h, packet, message, hpacket, wrapping_of_obeys hobeys⟩
  | routeSent st request name wire =>
      obtain ⟨hshipped, packet, message, hpacket, hwrapping⟩ := hstage
      exact .inl ⟨_, Shipped.close (⟨_, message⟩, none) (hshipped.ship .route hwrapping)
        (ownUnit_question hlawful hpacket _ _)⟩
  | routeUnsent => exact hsilent hstage.1 (fun _ => rfl) rfl id
  | answered st request name raw processor response =>
      exact hsilent hstage (fun _ => rfl) rfl fun h => stage_afterAnswer h _ _ _ _
  | learned st request name id =>
      exact hsilent hstage (fun _ => rfl) rfl fun h => stage_afterId h _ _ _
  | prepared st request id message processor wire =>
      exact hsilent hstage.1 (fun _ => rfl) rfl fun h =>
        ⟨h, message, hstage.2, wrapping_of_obeys hobeys⟩
  | preparedData st request id metaBytes processor wire =>
      exact hsilent hstage.1 (fun _ => rfl) rfl fun h =>
        ⟨h, hstage.2, wrapping_of_obeys hobeys⟩
  | metaSent st request id metaBytes payload =>
      obtain ⟨hshipped, ⟨message, hmeta, hwrapping⟩, hpayload⟩ := hstage
      refine .inl ⟨units, message, hmeta, ?_, hpayload⟩
      simpa using hshipped.ship .metaFrame hwrapping
  | metaUnsent => exact hsilent hstage.1 (fun _ => rfl) rfl id
  | payloadSent st request id payload =>
      obtain ⟨message, hmeta, hshipped, hpayload⟩ := hstage
      have hlast := hcurrent request rfl
      have hnonempty : request.req.data ≠ [] := by
        obtain ⟨earlier, htaken⟩ := hlast
        exact hdata request (by simp [htaken])
      refine .inl ⟨_, Shipped.close (_, some _) (hshipped.ship .payload hpayload) ?_⟩
      simpa using ownUnit_request hlawful hmeta hnonempty hlast
  | payloadUnsent st request id payload kind =>
      obtain ⟨message, hmeta, hshipped, hpayload⟩ := hstage
      obtain ⟨earlier, htaken⟩ := hcurrent request rfl
      -- the head went out alone, so the request is sent by half
      refine .inr ⟨⟨_, List.mem_append_right _ (List.mem_singleton_self _), trivial⟩, units, _,
        hshipped.silent (fun _ => rfl) rfl, ?_⟩
      exact hasPayload_of_metaOf hlawful hmeta (hdata request (by simp [htaken]))
  | _ => exact hsilent hstage (fun _ => rfl) rfl id

/-- **Whole units.**  As long as nothing is sent after a request that was sent
by half, what was sent are the whole frames of one request after the other, and
at most one head of a request at the end. -/
theorem run_sent (hlawful : utils.Lawful) {processor : Snd × Rcv}
    (run : Run (Next utils) (.top (initial processor)) tr pt)
    (hobeys : ∀ e ∈ tr, obeys T e) (hdata : ∀ request ∈ taken tr, request.req.data ≠ [])
    (hstops : Along stopsAtHalf tr) : Sent utils T tr pt := by
  induction run with
  | nil => exact .inl ⟨[], shipped_nil⟩
  | snoc hrun hnext ih =>
      obtain ⟨hbefore, hlast⟩ := along_snoc.mp hstops
      have hearlier : ∀ request ∈ taken _, request.req.data ≠ [] := fun request hmem =>
        hdata request (by rw [taken_snoc]; exact List.mem_append_left _ hmem)
      rcases ih (fun e hmem => hobeys e (by simp [hmem])) hearlier hbefore with
        ⟨units, hstage⟩ | ⟨hhalf, units, head, hshipped, hmore⟩
      · exact next_sent hlawful hearlier (run_current hrun) hstage hnext (hobeys _ (by simp))
      · exact .inr ⟨hhalf.snoc _, units, head, hshipped.half hhalf hlast, hmore⟩

end Client

end FourthServer
