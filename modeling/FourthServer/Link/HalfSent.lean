import FourthServer.Client.Shipments
import FourthServer.Link.Agreement

/-!
# Requests that were sent by half

The client sends a request as two frames, and goes on to the next request when
a send is rejected.  A server that has read a meta frame takes the next frame
for its payload, whatever request that was sent for.  So packets are made of
the two frames of one request as long as nothing is sent after a request whose
payload was rejected, and not beyond.
-/

namespace FourthServer

open Resumption Trace Duplex Client Connection

namespace Link

variable {A : App} {SndC RcvC SndS RcvS : Type}

/-- Every frame is read back by itself, so that it does not matter when a frame
was processed and not sent. -/
def Undoes (Tc : Hooks.Pair SndC RcvC Bytes) (Ts : Hooks.Pair SndS RcvS Bytes) : Prop :=
  ∀ snd rcv message, (Ts.pre rcv (Tc.post snd message).2).2 = message

section Parcels

variable {P Q : Type}

/-- The frames the server has read, with the origins of the frames sent. -/
def parcels (client : List (ClientEvent A P)) (server : List (ServerEvent A Q)) : List Parcel :=
  List.zipWith Parcel.mk (origins client) (frames server)

/-- The same, grouped as the server groups them. -/
def parcelUnits (utils : Utils A) (client : List (ClientEvent A P))
    (server : List (ServerEvent A Q)) : List (Parcel × Option Parcel) :=
  Grouping.group (fun parcel => hasPayload utils parcel.message) (parcels client server)

/-- The packet a unit of parcels is served as. -/
def packetOfUnit (unit : Parcel × Option Parcel) : Bytes × Bytes :=
  (unit.1.message, (unit.2.map Parcel.message).getD [])

/-- No packet is made of parts of two requests. -/
structure Unmixed (utils : Utils A) (client : List (ClientEvent A P))
    (server : List (ServerEvent A Q)) : Prop where
  /-- The frames the server takes are the frames the client has sent, in order. -/
  received : received server <+: wires client
  /-- The packets it serves are the groups of these frames. -/
  served : calls server <+: (parcelUnits utils client server).map packetOfUnit
  /-- A packet with a payload is made of the two frames of one request. -/
  own : ∀ unit ∈ parcelUnits utils client server, ∀ payload, unit.2 = some payload →
    OwnFrames utils (taken client) unit.1 payload

end Parcels

variable {utils : Utils A} {router : TfServerRouter A} {addr : SocketAddr} {channel : ℕ}
  {Tc : Hooks.Pair SndC RcvC Bytes} {Ts : Hooks.Pair SndS RcvS Bytes}
  {processor : SndC × RcvC} {holder : SndS × RcvS}
  {tr : List (LinkEvent A (SndC × RcvC) (SndS × RcvS))}
  {s : State (ClientM A (SndC × RcvC) (ClientState (SndC × RcvC) ⊕ Unit))
      (ServerM A (SndS × RcvS) (ConnectionState (SndS × RcvS) ⊕ Unit)) Bytes Bytes}

/-- What is left of the frames sent when the whole units are taken off is no
packet. -/
theorem shipped_of_sent (hlawful : utils.Lawful) {client : List (ClientEvent A (SndC × RcvC))}
    {pt : Client.Point A (SndC × RcvC)} (h : Sent utils Tc client pt) (hcurrent : Current client pt)
    (hdata : ∀ request ∈ taken client, request.req.data ≠ []) :
    ∃ units more, Shipped utils Tc client units more ∧
      Grouping.group (fun parcel => hasPayload utils parcel.message) more = [] := by
  have hhead {head : Parcel} (hmore : hasPayload utils head.message = true) :
      Grouping.group (fun parcel => hasPayload utils parcel.message) [head] = [] := by
    simp [Grouping.group, hmore]
  rcases h with ⟨units, hstage⟩ | ⟨-, units, head, hshipped, hmore⟩
  · cases pt with
    | payloadSending st request id payload =>
        obtain ⟨message, hmeta, hshipped, -⟩ := hstage
        obtain ⟨earlier, htaken⟩ := hcurrent request rfl
        have hrequest : request.req.data ≠ [] := hdata request (by simp [htaken])
        exact ⟨units, _, hshipped, hhead (hasPayload_of_metaOf hlawful hmeta hrequest)⟩
    | routing | routeSending | preparing | preparingData | metaSending =>
        exact ⟨units, [], hstage.1, rfl⟩
    | _ => exact ⟨units, [], hstage, rfl⟩
  · exact ⟨units, _, hshipped, hhead hmore⟩

/-- The server reads the messages of the frames sent, in order. -/
theorem frames_initial (hundoes : Undoes Tc Ts) {wires messages : List Bytes}
    {server : List (ServerEvent A (SndS × RcvS))} {pt : Connection.Point A (SndS × RcvS)}
    {owed : Owed A}
    (hserver : Run (Connection.Next utils router addr) (.top (Connection.initial holder channel))
      server pt)
    (htally : Tally utils router addr server owed) (hobeys : ∀ e ∈ server, Connection.obeys Ts e)
    (hreceived : received server <+: wires)
    (hwrapping : List.Forall₂ (Wrapping Tc) wires messages) :
    frames server <+: messages := by
  have hseparated := Hooks.separated (run_carried hserver).chained fun call hmem => by
    obtain ⟨e, he, hhook⟩ := List.mem_filterMap.mp hmem
    exact hobeys e he call hhook
  have hinputs : inputs server <+: wires := (List.prefix_append _ _).trans (htally.read ▸ hreceived)
  have hframes : frames server = Transducer.transduce Ts.pre holder.2 (inputs server) :=
    hseparated.receiving_outputs
  rw [hframes, ← Transducer.transduce_of_forall₂ hundoes holder.2 hwrapping]
  exact Transducer.transduce_mono _ _ hinputs

/-- The labels of the frames read are those of the parcels sent. -/
theorem parcels_initial {P Q : Type} {client : List (ClientEvent A P)}
    {server : List (ServerEvent A Q)} {sent : List Parcel}
    (horigins : origins client = sent.map Parcel.origin)
    (hframes : frames server <+: sent.map Parcel.message) :
    parcels client server <+: sent ∧
      (parcels client server).map Parcel.message = frames server := by
  unfold parcels
  rw [horigins]
  clear horigins
  generalize frames server = read at hframes
  induction sent generalizing read with
  | nil =>
      obtain rfl := List.prefix_nil.mp hframes
      exact ⟨List.nil_prefix, rfl⟩
  | cons parcel sent ih =>
      cases read with
      | nil => exact ⟨List.nil_prefix, rfl⟩
      | cons frame read =>
          rw [List.map_cons, List.cons_prefix_cons] at hframes
          obtain ⟨rfl, hrest⟩ := hframes
          obtain ⟨hinit, hmap⟩ := ih read hrest
          rw [List.map_cons, List.zipWith_cons_cons, List.map_cons, hmap]
          exact ⟨List.cons_prefix_cons.mpr ⟨rfl, hinit⟩, rfl⟩

/-- **No packet of two requests.**  Whatever sends are rejected, and whatever the
handlers do, as long as nothing is sent after a request whose payload was
rejected. -/
theorem run_unmixed (hlawful : utils.Lawful) (hundoes : Undoes Tc Ts)
    (run : LinkRun utils router addr processor holder channel tr s)
    (hclientHooks : ∀ e ∈ lefts tr, Client.obeys Tc e)
    (hserverHooks : ∀ e ∈ rights tr, Connection.obeys Ts e)
    (hdecoded : ∀ kind, some (.error kind) ∉ Connection.polls (rights tr))
    (hdata : ∀ request ∈ taken (lefts tr), request.req.data ≠ [])
    (hstops : Along stopsAtHalf (lefts tr)) : Unmixed utils (lefts tr) (rights tr) := by
  obtain ⟨hleft, hright, htoRight, -⟩ := project run
  obtain ⟨clientPt, hclient, -⟩ := Client.run_points hleft
  obtain ⟨serverPt, hserver, -⟩ := Connection.run_points hright
  have hreceived : received (rights tr) <+: wires (lefts tr) := ⟨_, htoRight.symm⟩
  obtain ⟨units, more, hshipped, hmore⟩ := shipped_of_sent hlawful
    (run_sent hlawful hclient hclientHooks hdata hstops) (run_current hclient) hdata
  obtain ⟨owed, htally, -⟩ := (Connection.run_at hserver (framedLaw_of_no_error hdecoded)).account
  obtain ⟨hparcels, hmessages⟩ := parcels_initial hshipped.origins
    (frames_initial hundoes hserver htally hserverHooks hreceived hshipped.wrapping)
  have hunits : parcelUnits utils (lefts tr) (rights tr) <+: units := by
    have hgroup : parcelUnits utils (lefts tr) (rights tr) <+:
        Grouping.group (fun parcel => hasPayload utils parcel.message)
          (units.flatMap Grouping.items ++ more) := Grouping.group_mono hparcels
    have hannounced : ∀ unit ∈ units,
        Grouping.Announced (fun parcel : Parcel => hasPayload utils parcel.message) unit :=
      fun unit hmem => (hshipped.own unit hmem).announced
    rwa [Grouping.group_flatMap_items more hannounced, hmore, List.append_nil] at hgroup
  refine ⟨hreceived, ?_, fun unit hmem => (hshipped.own unit (hunits.subset hmem)).own⟩
  have hpackets : packets utils (frames (rights tr)) =
      (parcelUnits utils (lefts tr) (rights tr)).map packetOfUnit := by
    rw [packets, ← hmessages, Grouping.group_map, List.map_map]
    rfl
  rw [← hpackets, htally.called]
  exact List.prefix_append _ _

section Echo

open Reference (app echo)

/-- The meta frame of a request is rejected. -/
def unsent (data : Bytes) (consumer : ℕ) : List (ClientEvent app (Unit × Unit)) :=
  [⟨.recv, some (echoRequest data consumer)⟩,
    ⟨.postProcess ((), ()) (echoMeta data), (((), ()), echoMeta data)⟩,
    ⟨.postProcess ((), ()) data, (((), ()), data)⟩,
    ⟨.send .metaFrame (echoMeta data), .error .invalidData⟩, ⟨.warn (.io .invalidData), ()⟩]

/-- The payload of a request is rejected. -/
def halfSending (data : Bytes) (consumer : ℕ) : List (ClientEvent app (Unit × Unit)) :=
  [⟨.recv, some (echoRequest data consumer)⟩,
    ⟨.postProcess ((), ()) (echoMeta data), (((), ()), echoMeta data)⟩,
    ⟨.postProcess ((), ()) data, (((), ()), data)⟩,
    ⟨.send .metaFrame (echoMeta data), .ok ()⟩, ⟨.send .payload data, .error .invalidData⟩,
    ⟨.warn (.io .invalidData), ()⟩]

theorem unsent_run (data : Bytes) (consumer : ℕ) :
    Run (Client.Next Reference.utils) (.top (Client.initial ((), ()))) (unsent data consumer)
      (.top (Client.initial ((), ()))) :=
  Run.cons (.taken _ _) <| Run.cons (.prepared _ _ _ _ _ _) <|
    Run.cons (.preparedData _ (echoRequest data consumer) _ _ _ _) <|
    Run.cons (.metaUnsent _ _ _ _ _ _) <| Run.cons (.warned _ _) Run.nil

theorem halfSending_run (data : Bytes) (consumer : ℕ) :
    Run (Client.Next Reference.utils) (.top (Client.initial ((), ()))) (halfSending data consumer)
      (.top (Client.initial ((), ()))) :=
  Run.cons (.taken _ _) <| Run.cons (.prepared _ _ _ _ _ _) <|
    Run.cons (.preparedData _ (echoRequest data consumer) _ _ _ _) <|
    Run.cons (.metaSent _ _ _ _ _) <| Run.cons (.payloadUnsent _ _ _ _ _) <|
    Run.cons (.warned _ _) Run.nil

theorem unsent_obeys (data : Bytes) (consumer : ℕ) :
    ∀ e ∈ unsent data consumer, Client.obeys plain e := by
  simp [unsent, Client.obeys, Hooks.Pair.Obeyed, Hooks.Pair.answer, Hooks.plain]

theorem halfSending_obeys (data : Bytes) (consumer : ℕ) :
    ∀ e ∈ halfSending data consumer, Client.obeys plain e := by
  simp [halfSending, Client.obeys, Hooks.Pair.Obeyed, Hooks.Pair.answer, Hooks.plain]

/-- The meta of the first request is rejected, the second one is answered, and the
payload of the last one is rejected. -/
def rejecting : List (LinkEvent app (Unit × Unit) (Unit × Unit)) :=
  (unsent [1] 0 ++ sending [2] 1).map .inl ++ (answering [2]).map .inr ++
    (reading [2] 1 ++ halfSending [3] 2).map .inl ++ (hearing (echoMeta [3])).map .inr

theorem rejecting_run :
    LinkRun Reference.utils Reference.router ⟨0, 0⟩ ((), ()) ((), ()) 0 rejecting
      ⟨Client.connectionMain Reference.utils ((), ()),
        (Connection.Point.payloadWait (Connection.initial ((), ()) 0) (echoMeta [3])).task
          Reference.utils Reference.router ⟨0, 0⟩, [], []⟩ := by
  refine Run.append (Run.append (Run.append
    (Duplex.run_left (Client.run_of_points ((unsent_run [1] 0).append (sending_run [2] 1))) rfl ?_)
    (Duplex.run_right (Connection.run_of_points (heard_run (by decide) [2])) rfl ?_))
    (Duplex.run_left (Client.run_of_points
      ((reading_run [2] [2] 1).append (halfSending_run [3] 2))) rfl ?_))
    (Duplex.run_right (Connection.run_of_points (announced_run (by decide))) rfl ?_)
  · simp [unsent, sending, posting, client]
  · simp [answering, hearing, echoing, server]
  · simp [reading, halfSending, client]
  · simp [hearing, server]

theorem run_unmixed_rejecting :
    wires (lefts rejecting) = [echoMeta [2], [2], echoMeta [3]] ∧
      calls (rights rejecting) = [(echoMeta [2], [2])] ∧
      Unmixed Reference.utils (lefts rejecting) (rights rejecting) := by
  have hlefts : lefts rejecting = unsent [1] 0 ++ sending [2] 1 ++ reading [2] 1 ++
    halfSending [3] 2 := rfl
  have hclientHooks : ∀ e ∈ lefts rejecting, Client.obeys plain e := by
    rw [hlefts]
    simp only [List.forall_mem_append]
    exact ⟨⟨⟨unsent_obeys _ _, fun e hmem => (sending_calm _ _ e hmem).2⟩,
      fun e hmem => (reading_calm _ _ e hmem).2⟩, halfSending_obeys _ _⟩
  have hserverHooks : ∀ e ∈ rights rejecting, Connection.obeys plain e := by
    simp only [rejecting, rights_append, rights_map_inl, rights_map_inr, List.append_nil,
      List.nil_append, List.forall_mem_append]
    exact ⟨fun e hmem => (answering_calm _ e hmem).2, fun e hmem => (hearing_calm _ e hmem).2⟩
  refine ⟨rfl, rfl, run_unmixed Reference.lawful (fun _ _ _ => rfl) rejecting_run hclientHooks
    hserverHooks ?_ ?_ ?_⟩
  · have hpolls : Connection.polls (rights rejecting) =
        [some (.ok (echoMeta [2])), some (.ok [2]), some (.ok (echoMeta [3]))] := rfl
    simp [hpolls]
  · have htaken : taken (lefts rejecting) =
        [echoRequest [1] 0, echoRequest [2] 1, echoRequest [3] 2] := rfl
    simp [htaken, echoRequest]
  · -- the last payload is the only one that is rejected
    rw [hlefts]
    simp only [unsent, sending, posting, reading, halfSending, List.cons_append, List.nil_append,
      along_cons, along_nil]
    simp [stopsAtHalf, HalfSent, halves]

/-- The payload of one request is rejected, and the next request is sent.  The server
makes a packet of the two meta frames. -/
def mixing : List (LinkEvent app (Unit × Unit) (Unit × Unit)) :=
  (halfSending [1] 0 ++ sending [2] 1).map .inl ++
    (hearing (echoMeta [1]) ++ hearing (echoMeta [2]) ++
      echoing (echoMeta [1]) (echoMeta [2])).map .inr

theorem mixing_run :
    LinkRun Reference.utils Reference.router ⟨0, 0⟩ ((), ()) ((), ()) 0 mixing
      ⟨(Client.Point.waiting (Client.initial ((), ())) (echoRequest [2] 1) 0).task Reference.utils,
        Connection.handleConnection Reference.utils Reference.router ⟨0, 0⟩ ((), ()) 0, [[2]],
        [echoMeta [2]]⟩ := by
  refine Run.append (Duplex.run_left
    (Client.run_of_points ((halfSending_run [1] 0).append (sending_run [2] 1))) rfl ?_)
    (Duplex.run_right (Connection.run_of_points (heard_run (by decide) (echoMeta [2]))) rfl ?_)
  · simp [halfSending, sending, posting, client]
  · simp [hearing, echoing, server]

/-- The meta of the second request is served as the payload of the first. -/
theorem unmixed_fails : ∃ s,
    LinkRun Reference.utils Reference.router ⟨0, 0⟩ ((), ()) ((), ()) 0 mixing s ∧
      (∀ e ∈ lefts mixing, Client.obeys plain e) ∧ (∀ e ∈ rights mixing, Connection.obeys plain e) ∧
      (∀ kind, some (.error kind) ∉ Connection.polls (rights mixing)) ∧
      taken (lefts mixing) = [echoRequest [1] 0, echoRequest [2] 1] ∧
      calls (rights mixing) = [(echoMeta [1], echoMeta [2])] ∧
      ¬Unmixed Reference.utils (lefts mixing) (rights mixing) := by
  refine ⟨_, mixing_run, ?_, ?_, ?_, rfl, rfl, fun h => ?_⟩
  · simp only [mixing, lefts_append, lefts_map_inl, lefts_map_inr, List.append_nil,
      List.forall_mem_append]
    exact ⟨halfSending_obeys _ _, fun e hmem => (sending_calm [2] 1 e hmem).2⟩
  · simp only [mixing, rights_append, rights_map_inl, rights_map_inr, List.nil_append,
      List.forall_mem_append]
    exact ⟨⟨fun e hmem => (hearing_calm _ e hmem).2, fun e hmem => (hearing_calm _ e hmem).2⟩,
      fun e hmem => (echoing_calm _ _ e hmem).2⟩
  · have hpolls : Connection.polls (rights mixing) =
        [some (.ok (echoMeta [1])), some (.ok (echoMeta [2]))] := rfl
    simp [hpolls]
  · have hunits : parcelUnits Reference.utils (lefts mixing) (rights mixing) =
        [(⟨⟨1, .metaFrame⟩, echoMeta [1]⟩, some ⟨⟨2, .metaFrame⟩, echoMeta [2]⟩)] := rfl
    have hown := h.own _ (hunits ▸ List.mem_singleton_self _) _ rfl
    exact absurd hown.number (by decide)

end Echo

end Link

end FourthServer
