import FourthServer.Link.Remote
import FourthServer.Link.Served

/-!
# The system makes remote calls

A server whose router was set up by registrations and commits, and its clients: the
handlers are called for a client just as its accepted requests name them, and what its
callers get is what these calls return (`Network.run_calledOnce`).
-/

namespace FourthServer

open Resumption Trace Duplex Comparison CallState

namespace Link

section Conversation

variable {A : App} {SndC RcvC SndS RcvS : Type} {setting : Setting A}
  {Tc : Hooks.Pair SndC RcvC Bytes} {Ts : Hooks.Pair SndS RcvS Bytes}
  {processor : SndC × RcvC} {holder : SndS × RcvS}
  {tr : List (LinkEvent A (SndC × RcvC) (SndS × RcvS))}
  {s : State (ClientM A (SndC × RcvC) (ClientState (SndC × RcvC) ⊕ Unit))
      (ServerM A (SndS × RcvS) (ConnectionState (SndS × RcvS) ⊕ Unit)) Bytes Bytes}

/-- In a conversation the handlers are called as the packets ask. -/
theorem Conversation.invoked (h : Conversation setting Tc Ts processor holder tr s) :
    ∃ pt : Connection.Point A (SndS × RcvS),
      s.right = pt.task setting.utils setting.router setting.addr ∧
      Connection.At setting.utils setting.router setting.addr (rights tr) pt ∧
      Connection.asked setting.utils setting.router setting.addr setting.channel
        (Connection.calls (rights tr)) = Connection.invoked (rights tr) ++ pt.invoking := by
  obtain ⟨pt, hrun, hpt⟩ := Connection.run_points (project h.run).right_run
  have hquiet := h.calm.serverQuiet
  exact ⟨pt, hpt, Connection.run_at hrun (Connection.framedLaw_of_quietLaw hquiet),
    Connection.run_invoked hrun (Connection.handsOff_of_quietLaw hquiet)
      (hquiet.mono fun _ _ hlaw => hlaw.2.2)⟩

/-! ## Between two requests -/

/-- Until it takes a request, a client between two requests reads nothing. -/
theorem responses_of_idle {P : Type} {utils : Utils A} {pt next : Client.Point A P}
    {events : List (ClientEvent A P)} (run : Run (Client.Next utils) pt events next)
    (hidle : Client.Idle pt) (htaken : Client.taken events = []) :
    Client.responses events = [] ∧ Client.Idle next := by
  induction run with
  | nil => exact ⟨rfl, hidle⟩
  | @snoc events mid e next _ step ih =>
      rw [Client.taken_snoc, List.append_eq_nil_iff] at htaken
      obtain ⟨hresponses, hmid⟩ := ih htaken.1
      cases step with
      | drained => exact ⟨by simp [hresponses, Client.hook?], trivial⟩
      | taken => cases htaken.2
      | _ => exact hmid.elim

theorem idle_of_atRest {P : Type} {utils : Utils A} {pt : Client.Point A P}
    (h : AtRest (pt.task utils)) : Client.Idle pt := by
  cases pt with
  | top | returned => trivial
  | _ => rcases h with h | h <;> cases h

/-- A server that has answered all its packets calls no handler. -/
theorem invoking_of_replied {P : Type} {utils : Utils A} {router : TfServerRouter A}
    {addr : SocketAddr} {events : List (ServerEvent A P)} {pt : Connection.Point A P}
    (h : Connection.At utils router addr events pt)
    (hreplied : (Connection.calls events).length = (Connection.replies events).length) :
    pt.invoking = [] := by
  cases h with
  | serving packet tally =>
      obtain ⟨rounds, hcalls, -, hreplies, -⟩ := tally.replied
      rw [hcalls, hreplies] at hreplied
      simp at hreplied
  | _ => rfl

/-- Between two requests every packet has been answered, and every answer read. -/
theorem answered_of_atRest (hlawful : setting.utils.Lawful)
    (htransparent : Transparent Tc Ts processor holder)
    (h : Conversation setting Tc Ts processor holder tr s)
    (hdata : ∀ request ∈ Client.taken (lefts tr), CarriesData setting.router request)
    (hreads : ∀ request ∈ Client.taken (lefts tr), ReadsType setting.router request)
    (hrest : AtRest s.left) :
    (Connection.calls (rights tr)).length = (Connection.replies (rights tr)).length ∧
      (Connection.replies (rights tr)).length = (Client.responses (lefts tr)).length := by
  obtain ⟨clientPt, serverPt, done, draft, owed, rounds, hgrounded⟩ :=
    run_grounded hlawful htransparent h.run h.calm hdata hreads
  obtain ⟨hlinked, -, -, htally, hmatched, -, hannounced, -, -⟩ := hgrounded
  have hledger := ledger_of_atRest hlinked hrest
  obtain ⟨hexchanged, hcalls, -, -⟩ := settled_of_matched hlinked hledger htally
    ⟨hmatched.called, hmatched.handled, hmatched.replied, hmatched.corresponds.initial⟩ hannounced
  have hlength := congrArg List.length hexchanged
  have hanswered := congrArg List.length hledger.answered
  simp only [List.length_map, List.append_nil] at hlength hanswered
  rw [hcalls, hmatched.replied, List.length_map, List.length_map]
  exact ⟨rfl, by omega⟩

/-- What the client has pulled are the requests it has taken, and perhaps the end. -/
theorem Conversation.pulls_initial (h : Conversation setting Tc Ts processor holder tr s) :
    Client.pulls (lefts tr) <+: (Client.taken (lefts tr)).map some ++ [none] := by
  have hfed : Client.pulls (lefts tr) <+: setting.requests.map some ++ [none] := by
    refine h.fed.trans ?_
    cases hcloses : setting.closes <;> simp [Setting.queue, hcloses]
  rw [Client.taken_eq]
  rcases List.prefix_concat_iff.mp hfed with hall | hsome
  · rw [hall]
    simp
  · rw [List.prefix_iff_eq_take.mp hsome, ← List.map_take]
    simp

/-- A client between two requests that takes none stays there, and reads nothing. -/
theorem Conversation.idles {rest : List (LinkEvent A (SndC × RcvC) (SndS × RcvS))}
    {s' : State (ClientM A (SndC × RcvC) (ClientState (SndC × RcvC) ⊕ Unit))
      (ServerM A (SndS × RcvS) (ConnectionState (SndS × RcvS) ⊕ Unit)) Bytes Bytes}
    (h : Conversation setting Tc Ts processor holder tr s)
    (hlonger : Conversation setting Tc Ts processor holder (tr ++ rest) s')
    (hrest : AtRest s.left)
    (htaken : (Client.taken (lefts (tr ++ rest))).length ≤ (Client.taken (lefts tr)).length) :
    AtRest s'.left ∧ Client.taken (lefts (tr ++ rest)) = Client.taken (lefts tr) ∧
      Client.responses (lefts (tr ++ rest)) = Client.responses (lefts tr) := by
  obtain ⟨clientPt, hclient, hclientPt⟩ := Client.run_points (project hlonger.run).left_run
  rw [lefts_append] at hclient htaken ⊢
  obtain ⟨mid, hbefore, hafter⟩ := hclient.of_append
  have hmid : s.left = mid.task setting.utils :=
    Run.unique (loopStep_deterministic _) (project h.run).left_run (Client.run_of_points hbefore)
  have htakes : Client.taken (lefts tr ++ lefts rest) =
      Client.taken (lefts tr) ++ Client.taken (lefts rest) := List.filterMap_append
  have hreads : Client.responses (lefts tr ++ lefts rest) =
      Client.responses (lefts tr) ++ Client.responses (lefts rest) := by
    simp only [Client.responses, Client.hooks, List.filterMap_append, Hooks.receivedOutputs_append]
  have hnone : Client.taken (lefts rest) = [] := by
    rw [htakes, List.length_append] at htaken
    exact List.eq_nil_of_length_eq_zero (by omega)
  obtain ⟨hresponses, hidle⟩ := responses_of_idle hafter (idle_of_atRest (hmid ▸ hrest)) hnone
  refine ⟨?_, by rw [htakes, hnone, List.append_nil], by rw [hreads, hresponses, List.append_nil]⟩
  by_contra hworks
  exact idle_of_not_atRest (hclientPt ▸ hworks) hidle

variable {remote : Remote A} {requests : List (ClientRequest A)} {closes : Bool}

/-- Between two requests, the handlers have been called as the requests taken name them. -/
theorem invoked_of_atRest (hlawful : remote.utils.Lawful) (htuples : remote.utils.TupleLawful)
    (htransparent : Transparent Tc Ts processor holder)
    (h : Conversation (remote.setting requests closes) Tc Ts processor holder tr s)
    (hdata : ∀ request ∈ Client.taken (lefts tr), CarriesData remote.router request)
    (hreads : ∀ request ∈ Client.taken (lefts tr), ReadsType remote.router request)
    (hrest : AtRest s.left) :
    Connection.invoked (rights tr) = (remote.run (Client.taken (lefts tr))).calls := by
  -- let the two tasks finish without any further request
  have hclosed : Conversation (remote.setting (Client.taken (lefts tr)) true) Tc Ts processor holder
      tr s := ⟨h.run, h.calm, h.pulls_initial, h.handled⟩
  obtain ⟨rest, s', hlonger, hcomplete⟩ := exists_complete htransparent hclosed
  have hsettled := settled_of_complete hlawful hreads htransparent hlonger hcomplete
  have hreached := Remote.run_remotely true hlawful htuples hdata hreads
  have hpackets : Connection.calls (rights (tr ++ rest)) =
      (Session.run (remote.setting (Client.taken (lefts tr)) true)).packets :=
    congrArg Seen.packets hsettled.seen
  obtain ⟨hrest', htaken, hread⟩ :=
    hclosed.idles hlonger hrest hlonger.taken_initial.length_le
  -- the packets are as many as the responses, before and after
  obtain ⟨hreplied, hanswered⟩ :=
    answered_of_atRest hlawful htransparent hclosed hdata hreads hrest
  obtain ⟨hreplied', hanswered'⟩ :=
    answered_of_atRest hlawful htransparent hlonger (htaken ▸ hdata) (htaken ▸ hreads) hrest'
  have hcalls : Connection.calls (rights tr) = Connection.calls (rights (tr ++ rest)) := by
    have hinitial : Connection.calls (rights tr) <+: Connection.calls (rights (tr ++ rest)) := by
      rw [rights_append]
      exact (List.prefix_append _ _).filterMap _
    refine hinitial.eq_of_length ?_
    rw [hreplied, hanswered, hreplied', hanswered', hread]
  obtain ⟨pt, -, hat, hasked⟩ := h.invoked
  rw [invoking_of_replied hat hreplied, List.append_nil] at hasked
  rw [← hreached.calls, ← hpackets, ← hcalls]
  exact hasked.symm

/-- In a request, they have been called as those taken before it name them. -/
theorem invoked_of_taken (hlawful : remote.utils.Lawful) (htuples : remote.utils.TupleLawful)
    (htransparent : Transparent Tc Ts processor holder)
    (h : Conversation (remote.setting requests closes) Tc Ts processor holder tr s)
    (hdata : ∀ request ∈ Client.taken (lefts tr), CarriesData remote.router request)
    (hreads : ∀ request ∈ Client.taken (lefts tr), ReadsType remote.router request) :
    (remote.run (Client.taken (lefts tr)).dropLast).calls <+: Connection.invoked (rights tr) := by
  induction tr using List.reverseRecOn generalizing s with
  | nil => exact List.nil_prefix
  | append_singleton tr ev ih =>
      obtain ⟨before, hbefore, step⟩ := h.of_snoc
      cases step with
      | right =>
          rw [lefts_append, lefts_inr, List.append_nil] at hdata hreads ⊢
          rw [rights_append, rights_inr, Connection.invoked_snoc]
          exact (ih hbefore hdata hreads).trans (List.prefix_append _ _)
      | @left e _ _ resume _ _ =>
          rw [lefts_append, lefts_inl, Client.taken_snoc] at hdata hreads ⊢
          rw [rights_append, rights_inl, List.append_nil]
          have hearlier := ih hbefore (fun request hmem => hdata request (by simp [hmem]))
            fun request hmem => hreads request (by simp [hmem])
          cases e using Client.forall_event with
          | recv answer =>
              cases answer with
              | none => simpa using hearlier
              | some request =>
                  have hrest := invoked_of_atRest hlawful htuples htransparent hbefore
                    (fun request hmem => hdata request (by simp [hmem]))
                    (fun request hmem => hreads request (by simp [hmem]))
                    (.inl (awaits_of_loopStep resume))
                  rw [show (Client.taken? ⟨.recv, some request⟩).toList = [request] from rfl,
                    List.dropLast_concat, hrest]
          | _ => simpa using hearlier

/-! ## The calls of all requests -/

/-- The handlers have been called as the first of the requests name them. -/
theorem invoked_of_conversation (hlawful : remote.utils.Lawful)
    (htuples : remote.utils.TupleLawful) (htransparent : Transparent Tc Ts processor holder)
    (h : Conversation (remote.setting requests closes) Tc Ts processor holder tr s)
    (hdata : ∀ request ∈ requests, CarriesData remote.router request)
    (hreads : ∀ request ∈ requests, ReadsType remote.router request) :
    Connection.invoked (rights tr) <+: (remote.run requests).calls := by
  have hreached := Remote.run_remotely closes hlawful htuples hdata hreads
  obtain ⟨pt, -, -, hasked⟩ := h.invoked
  have hpackets : Connection.calls (rights tr) <+:
      (Session.run (remote.setting requests closes)).packets :=
    (initial_of_conversation hlawful hreads htransparent h).packets
  rw [← hreached.calls]
  exact (List.prefix_append _ _).trans (hasked ▸ Connection.asked_mono hpackets)

/-- Where neither task can go on, they have been called as all requests name them. -/
theorem invoked_of_settled (hlawful : remote.utils.Lawful) (htuples : remote.utils.TupleLawful)
    (h : Conversation (remote.setting requests closes) Tc Ts processor holder tr s)
    (hsettled : Settled (remote.setting requests closes) tr s)
    (hdata : ∀ request ∈ requests, CarriesData remote.router request)
    (hreads : ∀ request ∈ requests, ReadsType remote.router request) :
    Connection.invoked (rights tr) = (remote.run requests).calls := by
  have hreached := Remote.run_remotely closes hlawful htuples hdata hreads
  obtain ⟨pt, hpt, -, hasked⟩ := h.invoked
  have hpackets : Connection.calls (rights tr) =
      (Session.run (remote.setting requests closes)).packets := congrArg Seen.packets hsettled.seen
  -- the server waits for a frame or has returned
  have hidle : pt.invoking = [] := by
    have hended := hsettled.ended
    unfold AtEnd at hended
    cases pt with
    | serving st call =>
        rw [hpt] at hended
        split at hended
        · cases hended.2
        · cases hended.2
    | _ => rfl
  rw [← hreached.calls, ← hpackets]
  exact (hasked.trans (by rw [hidle, List.append_nil])).symm

end Conversation

/-! ## With callers -/

section CallRun

variable {A : App} {SndC RcvC SndS RcvS : Type} {remote : Remote A} {maxRequestInTime : ℕ}
  {Tc : Hooks.Pair SndC RcvC Bytes} {Ts : Hooks.Pair SndS RcvS Bytes}
  {processor : SndC × RcvC} {holder : SndS × RcvS}
  {tr : List (CallLinkEvent A (SndC × RcvC) (SndS × RcvS))}
  {s : CallLink A (SndC × RcvC) (SndS × RcvS)}

/-- With callers, the requests are those accepted. -/
theorem CallRun.called (hlawful : remote.utils.Lawful) (htuples : remote.utils.TupleLawful)
    (htransparent : Transparent Tc Ts processor holder)
    (h : CallRun (remote.setting [] false) maxRequestInTime Tc Ts processor holder tr s)
    (hdata : ∀ request ∈ accepted (lefts tr), CarriesData remote.router request)
    (hreads : ∀ request ∈ accepted (lefts tr), ReadsType remote.router request) :
    Connection.invoked (rights tr) <+: (remote.run (accepted (lefts tr))).calls ∧
      (Rests (remote.setting [] false) maxRequestInTime Tc Ts processor holder tr →
        Connection.invoked (rights tr) = (remote.run (accepted (lefts tr))).calls) := by
  have hconversation : Conversation (remote.setting (accepted (lefts tr)) (!s.dispatcher.tx)) Tc Ts
      processor holder (linked tr) s.link := h.conversation
  rw [← rights_linked]
  refine ⟨invoked_of_conversation hlawful htuples htransparent hconversation hdata hreads,
    fun hrests => ?_⟩
  exact invoked_of_settled hlawful htuples hconversation
    (settled_of_complete hlawful hreads htransparent hconversation (h.complete hrests)) hdata hreads

theorem initial_of_not_mem {α : Type} {before first rest : List α} {a : α}
    (h : before ++ [a] <+: first ++ rest) (ha : a ∉ rest) : before ++ [a] <+: first := by
  obtain ⟨after, hafter⟩ := h
  rcases List.append_eq_append_iff.mp hafter with ⟨left, hfirst, -⟩ | ⟨more, hbefore, hrest⟩
  · exact ⟨left, hfirst.symm⟩
  · cases more using List.reverseRecOn with
    | nil => exact ⟨[], by simpa using hbefore⟩
    | append_singleton more b =>
        rw [← List.append_assoc] at hbefore
        cases (List.append_inj' hbefore rfl).2
        exact absurd (by simp [hrest]) ha

/-- While the client has not ended, a request that hangs no more is not in the queue. -/
theorem taken_of_not_held {P : Type} {events : List (CallEvent A P)} {dispatcher : Dispatcher A}
    {pt : Client.Point A P} (h : Custody maxRequestInTime events dispatcher pt)
    (receiver : dispatcher.rx = true) {before : List (ClientRequest A)}
    {request : ClientRequest A} (hinitial : before ++ [request] <+: accepted events)
    (hheld : dispatcher.consumers request.consumer ≠ .held) :
    before ++ [request] <+: Client.taken (tasks events) := by
  rw [h.inOrder receiver] at hinitial
  refine initial_of_not_mem hinitial fun hmem => hheld ((h.sound.held _).mpr ?_)
  exact List.mem_append_right _ (List.mem_map_of_mem hmem)

/-- A request that does not hang any more has had its call made, after the calls of the
requests before it. -/
theorem CallRun.called_of_not_held (hlawful : remote.utils.Lawful)
    (htuples : remote.utils.TupleLawful) (htransparent : Transparent Tc Ts processor holder)
    (h : CallRun (remote.setting [] false) maxRequestInTime Tc Ts processor holder tr s)
    (hdata : ∀ request ∈ accepted (lefts tr), CarriesData remote.router request)
    (hreads : ∀ request ∈ accepted (lefts tr), ReadsType remote.router request)
    {before : List (ClientRequest A)} {request : ClientRequest A}
    (hinitial : before ++ [request] <+: accepted (lefts tr))
    (hheld : s.dispatcher.consumers request.consumer ≠ .held) :
    (remote.run (before ++ [request])).calls <+: Connection.invoked (rights tr) := by
  obtain ⟨pt, htask, -, hcustody⟩ := run_placed (run_client h.run)
  replace htask : s.link.left = pt.task remote.utils := htask
  have hconversation : Conversation (remote.setting (accepted (lefts tr)) (!s.dispatcher.tx)) Tc Ts
      processor holder (linked tr) s.link := h.conversation
  have htakes : Client.taken (lefts (linked tr)) ⊆ accepted (lefts tr) := by
    rw [lefts_linked]
    exact hcustody.takes.subset
  have hrested (hrest : AtRest s.link.left)
      (htaken : before ++ [request] <+: Client.taken (tasks (lefts tr))) :
      (remote.run (before ++ [request])).calls <+: Connection.invoked (rights tr) := by
    rw [← rights_linked, invoked_of_atRest hlawful htuples htransparent hconversation
      (fun request hmem => hdata request (htakes hmem))
      (fun request hmem => hreads request (htakes hmem)) hrest, lefts_linked]
    exact Remote.calls_mono remote htaken
  cases hrx : s.dispatcher.rx with
  | false =>
      obtain ⟨hreturned, -, hall⟩ := ((run_ended (run_client h.run)).ended hrx).resolve_left h.kept
      exact hrested (.inr hreturned) (hall ▸ hinitial)
  | true =>
      have htaken := taken_of_not_held hcustody hrx hinitial hheld
      have howned := hcustody.owned hrx
      cases hcurrent : s.dispatcher.current with
      | none =>
          rw [hcurrent] at howned
          refine hrested ?_ htaken
          by_contra hworks
          exact idle_of_not_atRest (htask ▸ hworks) howned
      | some consumer =>
          -- nor is it the one that is being processed
          obtain ⟨earlier, last, hlast, rfl⟩ :=
            CallState.run_current (run_client h.run) consumer hcurrent
          have hlastHeld : s.dispatcher.consumers last.consumer = .held :=
            (hcustody.sound.held _).mpr (by simp [Dispatcher.unresolved, hcurrent])
          have hearlier : before ++ [request] <+: earlier := by
            rw [hlast] at htaken
            refine initial_of_not_mem htaken fun hmem => hheld ?_
            rw [List.mem_singleton.mp hmem, hlastHeld]
          have hinvoked := invoked_of_taken hlawful htuples htransparent hconversation
            (fun request hmem => hdata request (htakes hmem))
            fun request hmem => hreads request (htakes hmem)
          rw [lefts_linked, hlast, List.dropLast_concat, rights_linked] at hinvoked
          exact (Remote.calls_mono remote hearlier).trans hinvoked

end CallRun

end Link

namespace Network

variable {A : App} {S T C SndC RcvC SndS RcvS : Type} {config : AcceptorConfig S T} {codec : C}
  {maxRequestInTime : ℕ → ℕ} {index : ℕ} {Tc : Hooks.Pair SndC RcvC Bytes}
  {Ts : Hooks.Pair SndS RcvS Bytes} {processors : ℕ → SndC × RcvC} {holder : SndS × RcvS}
  {tr : List (NetworkEvent A S T C (SndC × RcvC) (SndS × RcvS))}
  {s : Network A S T C (SndC × RcvC) (SndS × RcvS)} {start : Start T C (SndS × RcvS)}

/-! ## The whole system -/

/-- What was done for a client is what its requests ask for. -/
structure CalledOnce (remote : Link.Remote A) (requests : List (ClientRequest A))
    (dispatcher : Dispatcher A) (invoked : List (ServeCall A)) (rests : Prop) : Prop where
  /-- The handlers have been called as the first of the requests name them. -/
  called : invoked <+: (remote.run requests).calls
  /-- A request that does not hang any more has the answer of its own call, which was made
  after those of the requests before it. -/
  resolved : ∀ before request, before ++ [request] <+: requests →
    dispatcher.consumers request.consumer ≠ .held →
      (remote.run (before ++ [request])).calls <+: invoked ∧
        Resolved dispatcher (remote.run (before ++ [request])).delivered request.consumer
  /-- Where neither task can go on, nothing is left to do. -/
  settled : rests → invoked = (remote.run requests).calls ∧
    ∀ request ∈ requests, dispatcher.consumers request.consumer ≠ .held

/-- The answer to a request does not depend on those after it. -/
theorem Resolved.of_initial {remote : Link.Remote A} {dispatcher : Dispatcher A}
    {requests before : List (ClientRequest A)} {request : ClientRequest A}
    (h : Resolved dispatcher (remote.run requests).delivered request.consumer)
    (hdistinct : (requests.map (·.consumer)).Nodup) (hinitial : before ++ [request] <+: requests) :
    Resolved dispatcher (remote.run (before ++ [request])).delivered request.consumer := by
  obtain ⟨rest, rfl⟩ := hinitial
  have hother : ∀ other ∈ rest, other.consumer ≠ request.consumer := by
    intro other hmem
    rw [List.map_append, List.nodup_append'] at hdistinct
    have hrequest : request.consumer ∈ (before ++ [request]).map (·.consumer) := by simp
    exact fun hsame => hdistinct.2.2 hrequest (List.mem_map.mpr ⟨other, hmem, hsame⟩)
  have hmem (data : Bytes) :
      (request.consumer, data) ∈ (remote.run (before ++ [request] ++ rest)).delivered ↔
        (request.consumer, data) ∈ (remote.run (before ++ [request])).delivered :=
    Link.Remote.mem_delivered remote hother
  simpa only [Resolved, hmem] using h

/-- **The system makes remote calls.**  Let a router be set up by any registrations and
commits, and take any run of its server and of its clients.  For an undisturbed client
whose requests that reach the server carry data, the handlers are called as its accepted
requests name them, each call once and in the order of the requests, and each caller
gets what the call of its own request has returned. -/
theorem run_calledOnce (remote : Link.Remote A) (hlawful : remote.utils.Lawful)
    (htuples : remote.utils.TupleLawful)
    (run : Run (Step config codec remote.utils remote.router maxRequestInTime)
      (Network.start config codec remote.utils processors holder) tr s)
    (hadmitted : (outcomes tr)[index]? = some (some start)) (haddr : remote.addr = start.addr)
    (hchannel : remote.channel = index + 1)
    (htransparent : Link.Transparent Tc Ts (processors (index + 1)) start.processor)
    (hundisturbed : Undisturbed (remote.setting [] false) Tc Ts (own (index + 1) tr))
    (hdata : ∀ request ∈ accepted (lefts (own (index + 1) tr)), CarriesData remote.router request)
    (hreads : ∀ request ∈ accepted (lefts (own (index + 1) tr)), ReadsType remote.router request) :
    CalledOnce remote (accepted (lefts (own (index + 1) tr)))
      (s.clients (index + 1)).calls.dispatcher (Connection.invoked (rights (own (index + 1) tr)))
      (AtRest config codec maxRequestInTime (remote.setting [] false) Tc Ts tr s) := by
  have hsetting : remote.setting [] false =
      settingOf remote.utils remote.router index start remote.handlers := by
    rw [Link.Remote.setting, settingOf, haddr, hchannel]
  have hreached := Link.Remote.run_remotely (!(s.clients (index + 1)).calls.dispatcher.tx) hlawful
    htuples hdata hreads
  rw [hsetting] at hundisturbed ⊢
  have hdue : due (settingOf remote.utils remote.router index start remote.handlers) tr s =
      (remote.run (accepted (lefts (own (index + 1) tr)))).delivered := by
    rw [← hreached.delivered, ← hsetting, due]
    show (Link.Session.run (remote.setting (accepted (lefts (own remote.channel tr)))
      (!(s.clients remote.channel).calls.dispatcher.tx))).delivered = _
    rw [hchannel]
  obtain ⟨connection, -, -, hattended⟩ := exists_attended run hadmitted hundisturbed
  obtain ⟨pt, -, -, hcustody⟩ := run_placed (Link.run_client hattended.run)
  have hattended' : Link.CallRun (remote.setting [] false) (maxRequestInTime (index + 1)) Tc Ts
      (processors (index + 1)) start.processor (own (index + 1) tr) _ := hsetting ▸ hattended
  obtain ⟨hcalled, hall⟩ :=
    hattended'.called hlawful htuples htransparent hdata hreads
  refine ⟨hcalled, fun before request hinitial hheld => ⟨?_, ?_⟩, fun hrest => ⟨hall ?_, ?_⟩⟩
  · exact hattended'.called_of_not_held hlawful htuples htransparent hdata hreads hinitial hheld
  · have hrequest := hinitial.subset (List.mem_append_right _ (List.mem_singleton_self request))
    have hresolved := resolved_of_not_held hlawful hreads run hadmitted htransparent hundisturbed
      hrequest hheld
    rw [hdue] at hresolved
    exact hresolved.of_initial hcustody.distinct hinitial
  · rw [hsetting]
    exact rests_of_atRest run hadmitted hundisturbed hrest
  · intro request hrequest
    exact (resolved_of_atRest hlawful hreads run hadmitted htransparent hundisturbed hrest
      hrequest).not_held

section Crowded

open Reference Link

/-- The echo handler, as the first client sees it. -/
def firstRemote : Remote app where
  utils := Reference.utils
  deserialize := Reference.deserialize
  ops := [.addRoute ⟨echo, "echo", [true]⟩, .commitRoutes]
  addr := ⟨0, 0⟩
  channel := 1
  results calls := .ok (calls.getLast?.elim [] ServeCall.data)

/-- A name that nobody has registered is not answered. -/
example : (firstRemote.run [⟨⟨.newNamed "none", [1], true⟩, 0⟩,
    ⟨⟨.newNamed "echo", [1], true⟩, 1⟩]).delivered = [(1, [1])] :=
  rfl

theorem firstAnswered_remotely : Undisturbed (firstRemote.setting [] false) plain plain
    (own 1 (firstAnswered [1] [2])) where
  calm := (firstAnswered_undisturbed [1] [2]).calm
  handled := by
    rw [own_firstAnswered]
    simp only [rights_append, rights_map_inl, rights_map_inr, List.append_nil, List.nil_append,
      answering, hearing, List.cons_append, along_cons, along_nil]
    exact ⟨trivial, trivial, trivial, trivial, trivial, rfl, trivial, trivial, trivial, trivial⟩
  kept := (firstAnswered_undisturbed [1] [2]).kept

theorem run_calledOnce_firstAnswered : ∃ s, Run EchoStep echoStart (firstAnswered [1] [2]) s ∧
    (s.clients 1).calls.dispatcher.consumers 0 = .answered [1] ∧
      firstRemote.run [echoRequest [1] 0] =
        ⟨[⟨echo.serve, echo.state, ⟨0, 0⟩, some ⟨1⟩, true, [1]⟩], [(0, [1])]⟩ ∧
      CalledOnce firstRemote [echoRequest [1] 0] (s.clients 1).calls.dispatcher
        (Connection.invoked (rights (own 1 (firstAnswered [1] [2]))))
        (AtRest ⟨id, false, .tcp⟩ () (fun _ => 1) (firstRemote.setting [] false) plain plain
          (firstAnswered [1] [2]) s) := by
  have hdata : ([1] : Bytes) ≠ [] := by decide
  obtain ⟨s, run, hanswered⟩ := firstAnswered_run hdata [2]
  have hcarries : ∀ request ∈ accepted (lefts (own 1 (firstAnswered [1] [2]))),
      CarriesData firstRemote.router request := by
    intro request hmem id _
    cases List.mem_singleton.mp hmem
    exact hdata
  exact ⟨s, run, hanswered, rfl, run_calledOnce firstRemote Reference.lawful Reference.tupleLawful
    run (outcomes_firstAnswered [1] [2]) rfl rfl ⟨Hooks.inverts_plain, Hooks.inverts_plain⟩
    firstAnswered_remotely hcarries fun _ _ => nofun⟩

end Crowded

end Network

end FourthServer
