import FourthServer.Client.Disconnection
import FourthServer.Link.Agreement

/-!
# The client's routes are the server's

The id under which the client remembers a name was read off some frame, and
is never asked for again.  As long as every request that reaches the server
carries data, that frame was the answer to the name, so that a request by name
reaches the handler registered under it, whether its id was remembered or
asked for.
-/

namespace FourthServer

open Resumption Trace Duplex Client Connection

namespace Link

variable {A : App} {SndC RcvC SndS RcvS : Type}

/-- A request by name has reached the handler of that name, or was refused
because there is none. -/
def Reaches (utils : Utils A) (router : TfServerRouter A) (name : String) : Exchange A → Prop
  | .nameless _ => False
  | .refused _ _ _ _ => router.idOfName name = none
  | .served request lookup metaData _ => router.idOfName name = some lookup.id ∧
      utils.toBytesMeta (metaOf request lookup.id) = some metaData

/-- The meta that the client is about to send is that of the request it works on,
with an id that the request resolves to. -/
def Aimed {P : Type} (utils : Utils A) (router : TfServerRouter A) (tr : List (ClientEvent A P)) :
    Client.Point A P → Prop
  | .preparing _ request id message => Resolves router request id ∧
      MetaOf utils request id message ∧ ∃ earlier, taken tr = earlier ++ [request]
  | _ => True

/-- What the client remembers is what the router has. -/
structure RoutesAgree (utils : Utils A) (router : TfServerRouter A)
    (tr : List (ClientEvent A (SndC × RcvC)))
    (task : ClientM A (SndC × RcvC) (ClientState (SndC × RcvC) ⊕ Unit)) (done : List (Exchange A)) :
    Prop where
  /-- The client's variable itself, and what it does with it. -/
  known : ∃ pt : Client.Point A (SndC × RcvC), task = pt.task utils ∧
    (∀ st, pt.state? = some st → CacheSound router st.knownRoutes) ∧ Aimed utils router tr pt
  /-- The exchanges are what the client has taken, sent and read, up to the end of
  its stream; from there on it reads and learns nothing. -/
  ledger : ∃ before after draft, tr = before ++ after ∧ Ledger utils before done draft ∧
    (∀ e ∈ after.head?, e = ⟨.next, none⟩) ∧ received after = [] ∧ learnt after = []
  /-- Remembered or asked for, the id is the one registered under the name. -/
  named : ∀ x ∈ done, ∀ name, x.request.req.handlerInfo.id = none →
    x.request.req.handlerInfo.named = some name → Reaches utils router name x

variable {utils : Utils A} {router : TfServerRouter A} {addr : SocketAddr} {channel : ℕ}
  {Tc : Hooks.Pair SndC RcvC Bytes} {Ts : Hooks.Pair SndS RcvS Bytes}
  {processor : SndC × RcvC} {holder : SndS × RcvS}
  {tr : List (LinkEvent A (SndC × RcvC) (SndS × RcvS))}
  {s : State (ClientM A (SndC × RcvC) (ClientState (SndC × RcvC) ⊕ Unit))
      (ServerM A (SndS × RcvS) (ConnectionState (SndS × RcvS) ⊕ Unit)) Bytes Bytes}

theorem reaches_of_sound {x : Exchange A} {cache : List (String × ℕ)} {name : String}
    (hsound : x.Sound router) (hvalid : x.Valid utils cache)
    (hid : x.request.req.handlerInfo.id = none)
    (hnamed : x.request.req.handlerInfo.named = some name) : Reaches utils router name x := by
  cases x with
  | nameless request => exact absurd (hvalid.2.symm.trans hnamed) (by simp)
  | refused request asked question refusal =>
      cases hregistered : router.idOfName name with
      | none => exact hregistered
      | some id => exact absurd (.inr ⟨hid, name, hnamed, hregistered⟩) (hsound id)
  | served request lookup metaData response =>
      refine ⟨?_, hvalid.2⟩
      rcases hsound with hsome | ⟨-, other, hother, hregistered⟩
      · exact absurd (hid.symm.trans hsome) (by simp)
      · cases hother.symm.trans hnamed
        exact hregistered

/-! ## The id that is sent -/

section Aimed

variable {P : Type} {pt : Client.Point A P} {events : List (ClientEvent A P)}

theorem aimed_afterId {request : ClientRequest A} {id : ℕ} (hresolves : Resolves router request id)
    (hlast : ∃ earlier, taken events = earlier ++ [request]) (st : ClientState P) :
    Aimed utils router events (afterId utils st request id) := by
  unfold afterId
  cases hmeta : utils.toBytesMeta (metaOf request id) with
  | none => trivial
  | some message => exact ⟨hresolves, hmeta, hlast⟩

theorem aimed_entry {request : ClientRequest A} {st : ClientState P}
    (hcache : CacheSound router st.knownRoutes)
    (hlast : ∃ earlier, taken events = earlier ++ [request]) :
    Aimed utils router events (entry utils st request) := by
  unfold entry
  cases hid : request.req.handlerInfo.id with
  | some id => exact aimed_afterId (.inl hid) hlast st
  | none =>
      dsimp only
      cases hnamed : request.req.handlerInfo.named with
      | none => trivial
      | some name =>
          dsimp only
          unfold afterName
          cases hlookup : lookupRoute st.knownRoutes name with
          | some id =>
              exact aimed_afterId (.inr ⟨hid, name, hnamed, hcache name id hlookup⟩) hlast st
          | none =>
              dsimp only
              cases utils.toBytesReq ⟨.handlerMetaReq, name⟩ <;> trivial

/-- Remembered or asked for, the id goes into the meta from the known routes. -/
theorem run_aimed {processor : P}
    (run : Run (Client.Next utils) (.top (initial processor)) events pt)
    (hcache : ∀ st, pt.state? = some st → CacheSound router st.knownRoutes) :
    Aimed utils router events pt := by
  cases run with
  | nil => trivial
  | snoc hrun hnext =>
      cases hnext with
      | taken st request =>
          exact aimed_entry (hcache st (state?_entry st request)) ⟨_, taken_snoc _ _⟩
      | learned st request name id =>
          obtain ⟨_, hrequest, hid, hnamed⟩ := (run_learning hrun).asking name rfl
          cases hrequest
          obtain ⟨earlier, htaken⟩ := run_current hrun request rfl
          refine aimed_afterId (.inr ⟨hid, name, hnamed, ?_⟩) ⟨earlier, by simp [htaken]⟩ _
          refine hcache _ (state?_afterId _ request id) name id ?_
          rw [lookupRoute_rememberRoute, if_pos rfl]
      | answered st request name raw processor response =>
          unfold afterAnswer
          cases utils.accessAns response <;> trivial
      | _ => trivial

end Aimed

/-! ## Until the end of the stream, and after it -/

/-- As long as the client has not seen the end of its stream. -/
theorem routesAgree_of_steady (hlawful : utils.Lawful)
    (htransparent : Transparent Tc Ts processor holder)
    (run : LinkRun utils router addr processor holder channel tr s) (hlossless : Lossless Tc Ts tr)
    (hdata : ∀ request ∈ taken (lefts tr), CarriesData router request)
    (hends : (⟨.next, none⟩ : ClientEvent A (SndC × RcvC)) ∉ lefts tr) :
    CacheSound router (cacheOf (learnt (lefts tr))) ∧
      ∃ done draft, Ledger utils (lefts tr) done draft ∧
        ∀ x ∈ done, ∀ name, x.request.req.handlerInfo.id = none →
          x.request.req.handlerInfo.named = some name → Reaches utils router name x := by
  obtain ⟨clientPt, serverPt, done, hlinked⟩ :=
    linked_of_steady hlawful.toTotal htransparent run hlossless
      (steady_of_quiet hlossless.clientQuiet hends)
  obtain ⟨draft, owed, rounds, h⟩ := grounded_of_linked hlawful hlinked hdata
  refine ⟨h.cache, done, draft, h.ledger, ?_⟩
  intro x hmem name hid hnamed
  obtain ⟨before, after, hsplit⟩ := List.append_of_mem hmem
  exact reaches_of_sound (h.sound x hmem) (h.ledger.valid before x after hsplit) hid hnamed

theorem knows_of_cache
    (run : LinkRun utils router addr processor holder channel tr s)
    (hcache : CacheSound router (cacheOf (learnt (lefts tr)))) :
    ∃ pt : Client.Point A (SndC × RcvC), s.left = pt.task utils ∧
      (∀ st, pt.state? = some st → CacheSound router st.knownRoutes) ∧
      Aimed utils router (lefts tr) pt := by
  obtain ⟨pt, hrun, htask⟩ := Client.run_points (project run).left_run
  have hknown (st : ClientState (SndC × RcvC)) (hst : pt.state? = some st) :
      CacheSound router st.knownRoutes := by
    rw [((run_holds rfl rfl hrun).current st hst).2]
    exact hcache
  exact ⟨pt, htask, hknown, run_aimed hrun hknown⟩

/-- From the end of its stream on, a client reads and learns nothing. -/
theorem received_after_end {rest : List (LinkEvent A (SndC × RcvC) (SndS × RcvS))}
    (run : LinkRun utils router addr processor holder channel
      (tr ++ .inl ⟨.next, none⟩ :: rest) s) :
    received (⟨.next, none⟩ :: lefts rest) = [] ∧ learnt (⟨.next, none⟩ :: lefts rest) = [] := by
  obtain ⟨s₁, -, hlater⟩ := run.of_append
  obtain ⟨s₂, hend, hafter⟩ := hlater.of_cons
  have hframes : ∀ e ∈ lefts rest, Client.frame? e = none := by
    cases hend with
    | left step htake heof =>
        obtain ⟨hempty, hended⟩ := heof rfl
        exact no_take_after_end (server_stuck utils router addr) hafter
          (htake.symm.trans hempty) hended
  -- the client holds no frame when it polls its stream
  obtain ⟨pt, hrun, -⟩ := Client.run_points (project run).left_run
  have hsplit : lefts (tr ++ .inl ⟨.next, none⟩ :: rest) =
      lefts tr ++ ⟨.next, none⟩ :: lefts rest := by
    simp [lefts]
  rw [hsplit] at hrun
  obtain ⟨pt₁, -, hrun₁⟩ := hrun.of_append
  obtain ⟨pt₂, hpoll, hrun₂⟩ := hrun₁.of_cons
  have hempty : HoldsNoFrame pt₂ := by cases hpoll <;> trivial
  obtain ⟨-, -, hlearnt, -⟩ := run_holdsNoFrame hrun₂ hempty hframes
  exact ⟨List.filterMap_eq_nil_iff.mpr (List.forall_mem_cons.mpr ⟨rfl, hframes⟩), hlearnt⟩

/-- **The client's routes are the server's.**  In every state that any interleaving
of the two tasks can reach on a lossless connection, whatever the handlers do, as
long as every request that reaches the server carries data. -/
theorem run_routesAgree (hlawful : utils.Lawful)
    (htransparent : Transparent Tc Ts processor holder)
    (run : LinkRun utils router addr processor holder channel tr s) (hlossless : Lossless Tc Ts tr)
    (hdata : ∀ request ∈ taken (lefts tr), CarriesData router request) :
    ∃ done, RoutesAgree utils router (lefts tr) s.left done := by
  by_cases hends : (⟨.next, none⟩ : ClientEvent A (SndC × RcvC)) ∈ lefts tr
  · -- what was read was read before the first end of the stream
    obtain ⟨before, after, hsplit, hfirst⟩ := List.eq_append_cons_of_mem hends
    obtain ⟨first, rest, rfl, rfl⟩ := split_left hsplit
    obtain ⟨hreceived, hlearnt⟩ := received_after_end run
    have hlefts : lefts (first ++ .inl ⟨.next, none⟩ :: rest) =
        lefts first ++ ⟨.next, none⟩ :: lefts rest := by simp [lefts]
    obtain ⟨s₁, hrun₁, -⟩ := run.of_append
    have htaken : taken (lefts first) ⊆ taken (lefts (first ++ .inl ⟨.next, none⟩ :: rest)) := by
      rw [hlefts, taken, taken, List.filterMap_append]
      exact List.subset_append_left _ _
    obtain ⟨hcache, done, draft, hledger, hnamed⟩ := routesAgree_of_steady hlawful htransparent
      hrun₁ hlossless.before (fun request hmem => hdata request (htaken hmem)) hfirst
    refine ⟨done, knows_of_cache run ?_, ⟨lefts first, _, draft, hlefts, hledger, ?_, hreceived,
      hlearnt⟩, hnamed⟩
    · have hall : learnt (lefts (first ++ .inl ⟨.next, none⟩ :: rest)) = learnt (lefts first) := by
        rw [hlefts, learnt, List.filterMap_append]
        exact (congrArg _ hlearnt).trans (List.append_nil _)
      rw [hall]
      exact hcache
    · rintro e ⟨⟩
      rfl
  · obtain ⟨hcache, done, draft, hledger, hnamed⟩ :=
      routesAgree_of_steady hlawful htransparent run hlossless hdata hends
    exact ⟨done, knows_of_cache run hcache, ⟨lefts tr, [], draft, by simp, hledger, by simp, rfl,
      rfl⟩, hnamed⟩

section Echo

open Reference (app echo)

theorem run_routesAgree_byName : learnt (lefts byName) = [("echo", 0)] ∧
    ∃ done, RoutesAgree Reference.utils Reference.router (lefts byName)
      (Client.turn Reference.utils acquainted) done := by
  refine ⟨rfl, run_routesAgree Reference.lawful ⟨Hooks.inverts_plain, Hooks.inverts_plain⟩
    byName_run byName_calm.lossless ?_⟩
  intro request hmem id _
  rw [taken_byName] at hmem
  rcases List.mem_pair.mp hmem with rfl | rfl <;> decide

/-- The error for an answer that is no id. -/
def noAnswer : ClientError := .router (.protocol "no HandlerMetaAns")

/-- After a request without data, the question for `"echo"` is given up. -/
def givingUp : List (ClientEvent app (Unit × Unit)) :=
  reading [] 0 ++ asking "echo" 1 ++ (listening malformed ++ [⟨.warn noAnswer, ()⟩]) ++
    asking "other" 2

/-- The answer to it is read as the one for `"other"`. -/
def mistaking : List (ClientEvent app (Unit × Unit)) :=
  listening (Reference.ansBytes ⟨.handlerMetaAns, 0⟩) ++ [⟨.insertRoute "other" 0, ()⟩]

/-- Where the client is then. -/
def mistaken : Client.Point app (Unit × Unit) :=
  .preparing ⟨((), ()), [("other", 0)]⟩ (namedRequest "other" 2) 0
    (Reference.metaBytes (metaOf (namedRequest "other" 2) 0))

theorem givingUp_run : Run (Client.Next Reference.utils)
    (.waiting (Client.initial ((), ())) (echoRequest [] 0) 0) givingUp
    (.routeWaiting (Client.initial ((), ())) (namedRequest "other" 2) "other") := by
  have hrefused : Run (Client.Next Reference.utils)
      (.routeWaiting (Client.initial ((), ())) (namedRequest "echo" 1) "echo")
      (listening malformed ++ [⟨.warn noAnswer, ()⟩]) (.top (Client.initial ((), ()))) :=
    Run.cons (.routeFrame _ _ _ _) <| Run.cons (.answered _ _ _ _ _ _) <|
      Run.cons (.warned _ _) Run.nil
  exact (((reading_run [] [] 0).append (asking_run "echo" 1)).append hrefused).append
    (asking_run "other" 2)

theorem mistaking_run : Run (Client.Next Reference.utils)
    (.routeWaiting (Client.initial ((), ())) (namedRequest "other" 2) "other") mistaking mistaken :=
  Run.cons (.routeFrame _ _ _ _) <| Run.cons (.answered _ _ _ _ _ _) <|
    Run.cons (.learned _ _ _ _) Run.nil

/-- A request without data, one by the name `"echo"`, and one by the name
`"other"`, which the server does not know. -/
def emptyThenNames : List (LinkEvent app (Unit × Unit) (Unit × Unit)) :=
  (sending [] 0).map .inl ++
    (hearing (echoMeta []) ++ echoing (echoMeta []) [] ++ hearing [] ++ refusing).map .inr ++
    givingUp.map .inl ++ telling.map .inr ++ mistaking.map .inl

theorem emptyThenNames_run :
    LinkRun Reference.utils Reference.router ⟨0, 0⟩ ((), ()) ((), ()) 0 emptyThenNames
      ⟨mistaken.task Reference.utils,
        Connection.handleConnection Reference.utils Reference.router ⟨0, 0⟩ ((), ()) 0,
        [question "other"], []⟩ := by
  refine Run.append (Run.append (Run.append (Run.append
    (Duplex.run_left (Client.run_of_points (sending_run [] 0)) rfl ?_)
    (Duplex.run_right (Connection.run_of_points misheard_run) rfl ?_))
    (Duplex.run_left (Client.run_of_points givingUp_run) rfl ?_))
    (Duplex.run_right (Connection.run_of_points telling_run) rfl ?_))
    (Duplex.run_left (Client.run_of_points mistaking_run) rfl ?_)
  · simp [sending, posting, client]
  · simp [hearing, echoing, refusing, server]
  · simp [givingUp, reading, asking, listening, client]
  · simp [telling, hearing, server]
  · simp [mistaking, listening, client]

theorem emptyThenNames_calm : Calm plain plain emptyThenNames := by
  apply calm_of_events
  · simp only [emptyThenNames, givingUp, mistaking, lefts_append, lefts_map_inl, lefts_map_inr,
      List.append_nil, List.forall_mem_append]
    exact ⟨⟨sending_calm _ _, ⟨⟨reading_calm _ _, asking_calm _ _⟩, listening_calm _, by
      simp [Client.quietLaw, Client.obeys]⟩, asking_calm _ _⟩, listening_calm _, by
      simp [Client.quietLaw, Client.obeys]⟩
  · simp only [emptyThenNames, rights_append, rights_map_inl, rights_map_inr, List.append_nil,
      List.nil_append, List.forall_mem_append]
    exact ⟨⟨⟨⟨hearing_calm _, echoing_calm _ _⟩, hearing_calm _⟩, refusing_calm⟩, telling_calm⟩

/-- A request without data gives the client a wrong route: it remembers the id of
`"echo"` under a name that the server does not know. -/
theorem knownRoutes_disagree : ∃ (s : _) (pt : Client.Point app (Unit × Unit)) (st : _),
    LinkRun Reference.utils Reference.router ⟨0, 0⟩ ((), ()) ((), ()) 0 emptyThenNames s ∧
      Calm plain plain emptyThenNames ∧ s.left = pt.task Reference.utils ∧ pt.state? = some st ∧
      lookupRoute st.knownRoutes "other" = some 0 ∧
      Reference.router.idOfName "other" = none ∧
      ¬CacheSound Reference.router st.knownRoutes := by
  refine ⟨_, mistaken, ⟨((), ()), [("other", 0)]⟩, emptyThenNames_run, emptyThenNames_calm, rfl,
    rfl, rfl, rfl, ?_⟩
  intro hsound
  cases hsound "other" 0 rfl

end Echo

end Link

end FourthServer
