import FourthServer.Link.Agreement
import FourthServer.Link.Conversation

/-!
# Processors leave no trace

As long as the two processors undo each other, what the two tasks do depends
neither on the processors nor on how the tasks interleave.  Of two conversations
in one setting, one view of each task begins with the other
(`views_comparable`), and a conversation with any processors can be repeated,
turn by turn, with any others (`exists_mirror`).  So the packets, the learnt ids
and the deliveries are those of the conversation without processors
(`run_transparent`).
-/

namespace FourthServer

open Resumption Trace Duplex Comparison

namespace Link

variable {A : App} {P Q SndC RcvC SndS RcvS SndC' RcvC' SndS' RcvS' : Type} {setting : Setting A}
  {Tc : Hooks.Pair SndC RcvC Bytes} {Ts : Hooks.Pair SndS RcvS Bytes}
  {processor : SndC × RcvC} {holder : SndS × RcvS}
  {tr : List (LinkEvent A (SndC × RcvC) (SndS × RcvS))}
  {s s₁ : State (ClientM A (SndC × RcvC) (ClientState (SndC × RcvC) ⊕ Unit))
      (ServerM A (SndS × RcvS) (ConnectionState (SndS × RcvS) ⊕ Unit)) Bytes Bytes}
  {Tc' : Hooks.Pair SndC' RcvC' Bytes} {Ts' : Hooks.Pair SndS' RcvS' Bytes}
  {processor' : SndC' × RcvC'} {holder' : SndS' × RcvS'}
  {tr' : List (LinkEvent A (SndC' × RcvC') (SndS' × RcvS'))}
  {s' s₁' : State (ClientM A (SndC' × RcvC') (ClientState (SndC' × RcvC') ⊕ Unit))
      (ServerM A (SndS' × RcvS') (ConnectionState (SndS' × RcvS') ⊕ Unit)) Bytes Bytes}

/-! ## One history begins with the other -/

theorem split_clientView {view rest : List (ClientEvent A Unit)} {seen : ClientEvent A Unit}
    {tr : List (LinkEvent A P Q)} (h : clientView tr = view ++ seen :: rest) :
    ∃ first e later, tr = first ++ [.inl e] ++ later ∧ clientView first = view ∧
      Client.erase e = seen := by
  obtain ⟨before, after, hlefts, rfl, hafter⟩ := List.map_eq_append_iff.mp h
  obtain ⟨e, events, rfl, rfl, -⟩ := List.map_eq_cons_iff.mp hafter
  obtain ⟨first, later, rfl, rfl⟩ := split_left hlefts
  exact ⟨first, e, later, by simp, rfl, rfl⟩

theorem split_serverView {view rest : List (ServerEvent A Unit)} {seen : ServerEvent A Unit}
    {tr : List (LinkEvent A P Q)} (h : serverView tr = view ++ seen :: rest) :
    ∃ first e later, tr = first ++ [.inr e] ++ later ∧ serverView first = view ∧
      Connection.erase e = seen := by
  obtain ⟨before, after, hrights, rfl, hafter⟩ := List.map_eq_append_iff.mp h
  obtain ⟨e, events, rfl, rfl, -⟩ := List.map_eq_cons_iff.mp hafter
  obtain ⟨first, later, rfl, rfl⟩ := split_right hrights
  exact ⟨first, e, later, by simp, rfl, rfl⟩

theorem clientView_prefix (first rest : List (LinkEvent A P Q)) :
    clientView first <+: clientView (first ++ rest) := by
  rw [clientView, clientView, lefts_append, List.map_append]
  exact List.prefix_append _ _

theorem serverView_prefix (first rest : List (LinkEvent A P Q)) :
    serverView first <+: serverView (first ++ rest) := by
  rw [serverView, serverView, rights_append, List.map_append]
  exact List.prefix_append _ _

/-- **Neither processors nor turns matter.**  Of two conversations in one setting
the views of the one begin with those of the other, party by party. -/
theorem views_comparable (htransparent : Transparent Tc Ts processor holder)
    (htransparent' : Transparent Tc' Ts' processor' holder')
    (h : Conversation setting Tc Ts processor holder tr s)
    (h' : Conversation setting Tc' Ts' processor' holder' tr' s') :
    Comparable (clientView tr) (clientView tr') ∧ Comparable (serverView tr) (serverView tr') := by
  induction tr using List.reverseRecOn generalizing s with
  | nil => exact ⟨.inl List.nil_prefix, .inl List.nil_prefix⟩
  | append_singleton tr ev ih =>
      obtain ⟨before, hbefore, -⟩ := h.of_snoc
      obtain ⟨hclient, hserver⟩ := ih hbefore
      cases ev with
      | inl e =>
          rw [clientView_left, serverView_left]
          refine ⟨hclient.snoc fun seen rest hsplit => ?_, hserver⟩
          -- the other client took its next step in a part of its conversation
          obtain ⟨first, e', later, rfl, hfirst, rfl⟩ := split_clientView hsplit
          obtain ⟨until', hpart⟩ := h'.of_append
          have hreached : serverView first <+: serverView (first ++ [.inl e'] ++ later) := by
            rw [List.append_assoc]
            exact serverView_prefix first _
          exact (client_agrees htransparent htransparent' h hpart hfirst.symm
            (hserver.initial hreached)).symm
      | inr e =>
          rw [clientView_right, serverView_right]
          refine ⟨hclient, hserver.snoc fun seen rest hsplit => ?_⟩
          obtain ⟨first, e', later, rfl, hfirst, rfl⟩ := split_serverView hsplit
          obtain ⟨until', hpart⟩ := h'.of_append
          have hreached : clientView first <+: clientView (first ++ [.inr e'] ++ later) := by
            rw [List.append_assoc]
            exact clientView_prefix first _
          exact (server_agrees htransparent htransparent' h hpart hfirst.symm
            (hclient.initial hreached)).symm

/-! ## One conversation goes on as another one did -/

/-- A client with the view of one that has ended has ended too. -/
theorem client_ended_of_view (h : Conversation setting Tc Ts processor holder tr s)
    (h' : Conversation setting Tc' Ts' processor' holder' tr' s')
    (hview : clientView tr = clientView tr') (hended : (client setting.utils).ended s'.left) :
    (client setting.utils).ended s.left := by
  obtain ⟨pt, hpt, hrun⟩ := h.client_run
  obtain ⟨pt', hpt', hrun'⟩ := h'.client_run
  rw [hview] at hrun
  have htask := Run.unique (loopStep_deterministic _) hrun hrun'
  rw [Client.eq_returned_of_task (hpt'.symm.trans hended)] at htask
  have hpoint := Client.eq_returned_of_task htask
  cases pt with
  | returned => exact hpt
  | _ => cases hpoint

/-- A server with the view of one that has ended has ended too. -/
theorem server_ended_of_view (h : Conversation setting Tc Ts processor holder tr s)
    (h' : Conversation setting Tc' Ts' processor' holder' tr' s')
    (hview : serverView tr = serverView tr')
    (hended : (server setting.utils setting.router setting.addr).ended s'.right) :
    (server setting.utils setting.router setting.addr).ended s.right := by
  obtain ⟨pt, hpt, hrun⟩ := h.server_run
  obtain ⟨pt', hpt', hrun'⟩ := h'.server_run
  rw [hview] at hrun
  have htask := Run.unique (loopStep_deterministic _) hrun hrun'
  rcases hended with hreturned | hunwound
  · rw [Connection.eq_returned_of_task (hpt'.symm.trans hreturned)] at htask
    have hpoint := Connection.eq_returned_of_task htask
    cases pt with
    | returned => exact .inl hpt
    | _ => cases hpoint
  · rw [Connection.eq_unwound_of_task (hpt'.symm.trans hunwound)] at htask
    have hpoint := Connection.eq_unwound_of_task htask
    cases pt with
    | unwound => exact .inr hpt
    | _ => cases hpoint

theorem Conversation.extend_left (h : Conversation setting Tc Ts processor holder tr s)
    {pt next : Client.Point A (SndC × RcvC)} {e : ClientEvent A (SndC × RcvC)}
    (hpt : s.left = pt.task setting.utils) (hnext : Client.Next setting.utils pt e next)
    (hquiet : Client.quietLaw (lefts tr) e) (hobeys : Client.obeys Tc e)
    (rest : List Bytes) (htake : s.toLeft = (Client.frame? e).toList ++ rest)
    (heof : Client.poll? e = some none →
      s.toLeft = [] ∧ (server setting.utils setting.router setting.addr).ended s.right)
    (hfed : Client.pulls (lefts tr) ++ (Client.pull? e).toList <+: setting.queue) :
    ∃ s₁, Conversation setting Tc Ts processor holder (tr ++ [.inl e]) s₁ := by
  have hstep : Client.Step setting.utils s.left e (next.task setting.utils) := by
    rw [hpt]
    exact Client.step_of_next hnext
  refine ⟨_, h.run.snoc (.left hstep htake heof), calm_left h.calm hquiet hobeys, ?_, ?_⟩
  · rwa [lefts_append, lefts_inl, Client.pulls_snoc]
  · simpa using h.handled

theorem Conversation.extend_right (h : Conversation setting Tc Ts processor holder tr s)
    {pt next : Connection.Point A (SndS × RcvS)} {e : ServerEvent A (SndS × RcvS)}
    (hpt : s.right = pt.task setting.utils setting.router setting.addr)
    (hnext : Connection.Next setting.utils setting.router setting.addr pt e next)
    (hquiet : Connection.quietLaw (rights tr) e) (hobeys : Connection.obeys Ts e)
    (rest : List Bytes) (htake : s.toRight = (Connection.frame? e).toList ++ rest)
    (heof : Connection.poll? e = some none →
      s.toRight = [] ∧ (client setting.utils).ended s.left)
    (hhandled : handledLaw setting (rights tr) e) :
    ∃ s₁, Conversation setting Tc Ts processor holder (tr ++ [.inr e]) s₁ := by
  have hstep : Connection.Step setting.utils setting.router setting.addr s.right e
      (next.task setting.utils setting.router setting.addr) := by
    rw [hpt]
    exact Connection.step_of_next hnext
  refine ⟨_, h.run.snoc (.right hstep htake heof), calm_right h.calm hquiet hobeys, ?_, ?_⟩
  · simpa using h.fed
  · rw [rights_append, rights_inr]
    exact along_snoc.mpr ⟨h.handled, hhandled⟩

/-- Where a client waits for a frame and one with its view did not wait in vain,
there is a frame or the end of the stream. -/
theorem client_hears (h : Conversation setting Tc Ts processor holder tr s)
    {e : ClientEvent A (SndC' × RcvC')}
    (h' : Conversation setting Tc' Ts' processor' holder' (tr' ++ [.inl e]) s₁')
    (hclient : clientView tr = clientView tr') (hserver : serverView tr' <+: serverView tr)
    (hnext : (Client.erase e).op = .next) :
    s.toLeft ≠ [] ∨
      s.toLeft = [] ∧ (server setting.utils setting.router setting.addr).ended s.right := by
  obtain ⟨s', hbefore', step'⟩ := h'.of_snoc
  have hquiet' := h'.calm.clientQuiet
  rw [lefts_append, lefts_inl] at hquiet'
  replace hquiet' := (along_snoc.mp hquiet').2
  have hsent := length_toLeft h
  have hsent' := length_toLeft hbefore'
  have hwires : (Connection.wires (serverView tr')).length ≤
      (Connection.wires (serverView tr)).length :=
    (List.IsPrefix.filterMap Connection.wire? hserver).length_le
  cases step' with
  | left _ htake' heof' =>
  cases e using Client.forall_event with
  | frame raw =>
      -- the server here has sent as much as the other one, and the client read as much
      have hlength := congrArg List.length htake'
      simp only [client, Client.frame?, Option.toList_some, List.length_append,
        List.length_singleton] at hlength
      rw [hclient] at hsent
      refine .inl fun hempty => ?_
      rw [hempty, List.length_nil] at hsent
      omega
  | error kind => exact hquiet'.elim
  | ends =>
      obtain ⟨hempty', hended'⟩ := heof' rfl
      have hinit := serverView_initial h hbefore' (.inr hserver) hended'
      exact .inr ⟨toLeft_eq_nil h hbefore' hclient (.inr hserver) hempty' hended',
        server_ended_of_view h hbefore' (eq_of_prefixes hinit hserver) hended'⟩
  | _ => cases hnext

/-- Where a server waits for a frame and one with its view did not wait in vain,
there is a frame or the end of the stream. -/
theorem server_hears (h : Conversation setting Tc Ts processor holder tr s)
    {e : ServerEvent A (SndS' × RcvS')}
    (h' : Conversation setting Tc' Ts' processor' holder' (tr' ++ [.inr e]) s₁')
    (hserver : serverView tr = serverView tr') (hclient : clientView tr' <+: clientView tr)
    (hnext : (Connection.erase e).op = .next) :
    s.toRight ≠ [] ∨ s.toRight = [] ∧ (client setting.utils).ended s.left := by
  obtain ⟨s', hbefore', step'⟩ := h'.of_snoc
  have hquiet' := h'.calm.serverQuiet
  rw [rights_append, rights_inr] at hquiet'
  replace hquiet' := (along_snoc.mp hquiet').2
  have hsent := length_toRight h
  have hsent' := length_toRight hbefore'
  have hwires : (Client.wires (clientView tr')).length ≤ (Client.wires (clientView tr)).length :=
    (List.IsPrefix.filterMap Client.wire? hclient).length_le
  cases step' with
  | right _ htake' heof' =>
  cases e using Connection.forall_event with
  | frame raw =>
      -- as for the client, with the channels exchanged
      have hlength := congrArg List.length htake'
      simp only [server, Connection.frame?, Option.toList_some, List.length_append,
        List.length_singleton] at hlength
      rw [hserver] at hsent
      refine .inl fun hempty => ?_
      rw [hempty, List.length_nil] at hsent
      omega
  | error kind => exact hquiet'.1.elim
  | ends =>
      obtain ⟨hempty', hended'⟩ := heof' rfl
      have hinit := clientView_initial h hbefore' (.inr hclient) hended'
      exact .inr ⟨toRight_eq_nil h hbefore' hserver (.inr hclient) hempty' hended',
        client_ended_of_view h hbefore' (eq_of_prefixes hinit hclient) hended'⟩
  | _ => cases hnext

/-- The client of a conversation can go on where one with its view did, if its
server has come as far as that one's had. -/
theorem client_follows (h : Conversation setting Tc Ts processor holder tr s)
    {e : ClientEvent A (SndC' × RcvC')}
    (h' : Conversation setting Tc' Ts' processor' holder' (tr' ++ [.inl e]) s₁')
    (hclient : clientView tr = clientView tr') (hserver : serverView tr' <+: serverView tr) :
    ∃ e s₁, Conversation setting Tc Ts processor holder (tr ++ [.inl e]) s₁ := by
  obtain ⟨pt, hpt, hrun⟩ := h.client_run
  have hop := client_awaits hrun h' hclient
  by_cases hpolling : Client.Polling pt
  · have hnext : (Client.erase e).op = .next := by
      cases pt with
      | routeWaiting | waiting => exact (Option.some.inj hop).symm
      | _ => exact hpolling.elim
    have hfed : Client.pulls (lefts tr) ++ (none : Option (Option (ClientRequest A))).toList <+:
        setting.queue := by
      simpa using h.fed
    rcases client_hears h h' hclient hserver hnext with hsome | ⟨hempty, hended⟩
    · obtain ⟨frame, rest, htoLeft⟩ := List.exists_cons_of_ne_nil hsome
      obtain ⟨next, hstep⟩ := client_takes setting.utils hpolling frame
      exact ⟨_, h.extend_left hpt hstep trivial (Client.obeys_of_unhooked Tc rfl) rest htoLeft
        (by simp) hfed⟩
    · obtain ⟨next, hstep⟩ := client_sees_end setting.utils hpolling
      exact ⟨_, h.extend_left hpt hstep trivial (Client.obeys_of_unhooked Tc rfl) s.toLeft rfl
        (fun _ => ⟨hempty, hended⟩) hfed⟩
  by_cases hidle : Client.Idle pt
  · cases pt with
    | top st =>
        cases e using Client.forall_event with
        | recv answer =>
            -- both find the same request, since both have taken as many
            have hfed := h'.fed
            rw [lefts_append, lefts_inl, Client.pulls_snoc] at hfed
            rw [← pulls_eq hclient] at hfed
            cases answer with
            | some request =>
                exact ⟨_, h.extend_left hpt (.taken st request) trivial
                  (Client.obeys_of_unhooked Tc rfl) s.toLeft rfl (by simp) hfed⟩
            | none =>
                exact ⟨_, h.extend_left hpt (.drained st) trivial
                  (Client.obeys_of_unhooked Tc rfl) s.toLeft rfl (by simp) hfed⟩
        | _ => cases hop
    | returned => cases hop
    | _ => exact hidle.elim
  · obtain ⟨e, next, hnext, hquiet, hobeys, hpoll⟩ :=
      Client.enabled setting.utils Tc (lefts tr) hidle hpolling
    have hpull : Client.pull? e = none := by
      cases hnext with
      | taken | drained => exact absurd trivial hidle
      | _ => rfl
    have hframe := Client.frame?_of_poll? hpoll
    refine ⟨e, h.extend_left hpt hnext hquiet hobeys s.toLeft ?_ ?_ ?_⟩
    · rw [hframe]
      rfl
    · intro heof
      rw [hpoll] at heof
      cases heof
    · rw [hpull]
      simpa using h.fed

/-- The server of a conversation can go on where one with its view did, if its
client has come as far as that one's had. -/
theorem server_follows (h : Conversation setting Tc Ts processor holder tr s)
    {e : ServerEvent A (SndS' × RcvS')}
    (h' : Conversation setting Tc' Ts' processor' holder' (tr' ++ [.inr e]) s₁')
    (hserver : serverView tr = serverView tr') (hclient : clientView tr' <+: clientView tr) :
    ∃ e s₁, Conversation setting Tc Ts processor holder (tr ++ [.inr e]) s₁ := by
  obtain ⟨pt, hpt, hrun⟩ := h.server_run
  have hop := server_awaits hrun h' hserver
  by_cases hpolling : Connection.Polling pt
  · have hnext : (Connection.erase e).op = .next := by
      cases pt with
      | top | payloadWait => exact (Option.some.inj hop).symm
      | _ => exact hpolling.elim
    rcases server_hears h h' hserver hclient hnext with hsome | ⟨hempty, hended⟩
    · obtain ⟨frame, rest, htoRight⟩ := List.exists_cons_of_ne_nil hsome
      obtain ⟨next, hstep⟩ := server_takes setting.utils hpolling frame
      exact ⟨_, h.extend_right hpt hstep ⟨trivial, trivial, trivial⟩
        (Connection.obeys_of_unhooked Ts rfl) rest htoRight (by simp) trivial⟩
    · obtain ⟨next, hstep⟩ := server_sees_end setting.utils hpolling
      exact ⟨_, h.extend_right hpt hstep ⟨trivial, trivial, trivial⟩
        (Connection.obeys_of_unhooked Ts rfl) s.toRight rfl (fun _ => ⟨hempty, hended⟩) trivial⟩
  · have hreturned : pt ≠ .returned := by
      rintro rfl
      cases hop
    have hunwound : pt ≠ .unwound := by
      rintro rfl
      cases e using Connection.forall_event <;> cases hop
    obtain ⟨e, next, hnext, hquiet, hobeys, hpoll, hanswer⟩ :=
      Connection.enabled setting.utils setting.router setting.addr Ts
        (setting.handlers (Connection.calls (rights tr))) h.calm.serverQuiet hpolling hreturned
        hunwound
    have hframe := Connection.frame?_of_poll? hpoll
    refine ⟨e, h.extend_right hpt hnext hquiet hobeys s.toRight ?_ ?_ ?_⟩
    · rw [hframe]
      rfl
    · intro heof
      rw [hpoll] at heof
      cases heof
    · cases e using Connection.forall_event with
      | serve call outcome => exact hanswer call outcome rfl
      | _ => trivial

/-! ## The same conversation with other processors -/

/-- **A conversation can be repeated.**  With other processors, the two tasks can
take the same turns and then have the same views. -/
theorem exists_mirror (htransparent : Transparent Tc Ts processor holder)
    (htransparent' : Transparent Tc' Ts' processor' holder')
    (h : Conversation setting Tc Ts processor holder tr s) :
    ∃ tr' s', Conversation setting Tc' Ts' processor' holder' tr' s' ∧
      tr'.map Sum.isLeft = tr.map Sum.isLeft ∧ clientView tr' = clientView tr ∧
      serverView tr' = serverView tr := by
  induction tr using List.reverseRecOn generalizing s with
  | nil => exact ⟨[], _, conversation_nil, rfl, rfl, rfl⟩
  | append_singleton tr ev ih =>
      obtain ⟨before, hbefore, -⟩ := h.of_snoc
      obtain ⟨tr', s', h', hturns, hclient, hserver⟩ := ih hbefore
      cases ev with
      | inl e =>
          -- the mirror can take the turn too, and then sees the same
          obtain ⟨e', s₁', hlonger⟩ := client_follows h' h hclient (hserver ▸ List.prefix_rfl)
          have hseen := client_agrees htransparent' htransparent hlonger h hclient
            (.inl (hserver ▸ List.prefix_rfl))
          refine ⟨tr' ++ [.inl e'], s₁', hlonger, by simp [hturns], ?_, ?_⟩
          · rw [clientView_left, clientView_left, hclient, hseen]
          · rw [serverView_left, serverView_left, hserver]
      | inr e =>
          obtain ⟨e', s₁', hlonger⟩ := server_follows h' h hserver (hclient ▸ List.prefix_rfl)
          have hseen := server_agrees htransparent' htransparent hlonger h hserver
            (.inl (hclient ▸ List.prefix_rfl))
          refine ⟨tr' ++ [.inr e'], s₁', hlonger, by simp [hturns], ?_, ?_⟩
          · rw [clientView_right, clientView_right, hclient]
          · rw [serverView_right, serverView_right, hserver, hseen]

/-! ## Complete conversations -/

/-- Neither task can go on. -/
def Complete (setting : Setting A) (Tc : Hooks.Pair SndC RcvC Bytes)
    (Ts : Hooks.Pair SndS RcvS Bytes) (processor : SndC × RcvC) (holder : SndS × RcvS)
    (tr : List (LinkEvent A (SndC × RcvC) (SndS × RcvS))) : Prop :=
  ∀ ev s, ¬Conversation setting Tc Ts processor holder (tr ++ [ev]) s

theorem Conversation.taken_initial (h : Conversation setting Tc Ts processor holder tr s) :
    Client.taken (lefts tr) <+: setting.requests := by
  have hqueue : setting.queue.filterMap id = setting.requests := by
    cases hcloses : setting.closes <;> simp [Setting.queue, hcloses]
  rw [Client.taken_eq, ← hqueue]
  exact List.IsPrefix.filterMap id h.fed

/-- Every conversation can be brought to an end. -/
theorem exists_complete (htransparent : Transparent Tc Ts processor holder)
    (h : Conversation setting Tc Ts processor holder tr s) :
    ∃ rest s', Conversation setting Tc Ts processor holder (tr ++ rest) s' ∧
      Complete setting Tc Ts processor holder (tr ++ rest) := by
  -- every event brings the conversation nearer to the bound of `run_length`
  generalize hleft : 140 * (setting.requests.length + 1) - tr.length = left
  induction left using Nat.strongRecOn generalizing tr s with
  | ind left ih =>
      by_cases hcomplete : Complete setting Tc Ts processor holder tr
      · exact ⟨[], s, by simpa using h, by simpa using hcomplete⟩
      · obtain ⟨ev, hev⟩ := not_forall.mp hcomplete
        obtain ⟨s₁, hlonger⟩ := not_forall_not.mp hev
        have hlength := run_length htransparent hlonger.run hlonger.calm
        have htaken := hlonger.taken_initial.length_le
        have hsnoc : (tr ++ [ev]).length = tr.length + 1 := by simp
        obtain ⟨rest, s', hend, hcomplete'⟩ :=
          ih (140 * (setting.requests.length + 1) - (tr ++ [ev]).length) (by omega) hlonger rfl
        rw [List.append_assoc] at hend hcomplete'
        exact ⟨[ev] ++ rest, s', hend, hcomplete'⟩

/-- A complete conversation has come as far as any other in its setting. -/
theorem Complete.views_initial (hcomplete : Complete setting Tc Ts processor holder tr)
    (htransparent : Transparent Tc Ts processor holder)
    (htransparent' : Transparent Tc' Ts' processor' holder')
    (h : Conversation setting Tc Ts processor holder tr s)
    (h' : Conversation setting Tc' Ts' processor' holder' tr' s') :
    clientView tr' <+: clientView tr ∧ serverView tr' <+: serverView tr := by
  induction tr' using List.reverseRecOn generalizing s' with
  | nil => exact ⟨List.nil_prefix, List.nil_prefix⟩
  | append_singleton tr' ev ih =>
      obtain ⟨before, hbefore, -⟩ := h'.of_snoc
      obtain ⟨hclient, hserver⟩ := ih hbefore
      obtain ⟨hcmpClient, hcmpServer⟩ := views_comparable htransparent htransparent' h h'
      cases ev with
      | inl e =>
          rw [serverView_left]
          rw [clientView_left] at hcmpClient ⊢
          -- had the client come no further than the other one before, it could go on
          refine ⟨hcmpClient.concat_prefix hclient fun hview => ?_, hserver⟩
          obtain ⟨e', s₁, hlonger⟩ := client_follows h h' hview hserver
          exact hcomplete _ _ hlonger
      | inr e =>
          rw [clientView_right]
          rw [serverView_right] at hcmpServer ⊢
          refine ⟨hclient, hcmpServer.concat_prefix hserver fun hview => ?_⟩
          obtain ⟨e', s₁, hlonger⟩ := server_follows h h' hview hclient
          exact hcomplete _ _ hlonger

/-- Conversations with the same views are complete together. -/
theorem Complete.of_views_eq (hcomplete : Complete setting Tc Ts processor holder tr)
    (h : Conversation setting Tc Ts processor holder tr s)
    (hclient : clientView tr = clientView tr') (hserver : serverView tr = serverView tr') :
    Complete setting Tc' Ts' processor' holder' tr' := by
  intro ev s₁' hlonger
  cases ev with
  | inl e =>
      obtain ⟨e', s₁, hcontinued⟩ := client_follows h hlonger hclient (hserver ▸ List.prefix_rfl)
      exact hcomplete _ _ hcontinued
  | inr e =>
      obtain ⟨e', s₁, hcontinued⟩ := server_follows h hlonger hserver (hclient ▸ List.prefix_rfl)
      exact hcomplete _ _ hcontinued

/-! ## What comes of a conversation -/

/-- What a conversation comes to, outside of the connection. -/
structure Seen where
  /-- The packets passed to the router. -/
  packets : List (Bytes × Bytes)
  /-- The ids put into the client's route cache. -/
  learnt : List (String × ℕ)
  /-- The frames delivered to the consumers. -/
  delivered : List (ℕ × Bytes)

def seen (tr : List (LinkEvent A P Q)) : Seen :=
  ⟨Connection.calls (rights tr), Client.learnt (lefts tr), Client.deliveries (lefts tr)⟩

/-- The second is what the first may still come to. -/
structure Seen.Initial (first second : Seen) : Prop where
  packets : first.packets <+: second.packets
  learnt : first.learnt <+: second.learnt
  delivered : first.delivered <+: second.delivered

theorem seen_eq (tr : List (LinkEvent A P Q)) : seen tr =
    ⟨Connection.calls (serverView tr), Client.learnt (clientView tr),
      Client.deliveries (clientView tr)⟩ := by
  rw [seen, clientView, serverView, Connection.calls_erase, Client.learnt_erase,
    Client.deliveries_erase]

theorem seen_initial {tr : List (LinkEvent A P Q)} {P' Q' : Type}
    {tr' : List (LinkEvent A P' Q')} (hclient : clientView tr <+: clientView tr')
    (hserver : serverView tr <+: serverView tr') : (seen tr).Initial (seen tr') := by
  rw [seen_eq, seen_eq]
  exact ⟨List.IsPrefix.filterMap _ hserver, List.IsPrefix.filterMap _ hclient,
    List.IsPrefix.filterMap _ hclient⟩

/-- A conversation in which both processors change nothing. -/
abbrev PlainConversation (setting : Setting A)
    (tr : List (LinkEvent A (Unit × Unit) (Unit × Unit)))
    (s : State (ClientM A (Unit × Unit) (ClientState (Unit × Unit) ⊕ Unit))
      (ServerM A (Unit × Unit) (ConnectionState (Unit × Unit) ⊕ Unit)) Bytes Bytes) : Prop :=
  Conversation setting (Hooks.plain Bytes) (Hooks.plain Bytes) ((), ()) ((), ()) tr s

/-- Without processors, neither task can go on. -/
abbrev PlainComplete (setting : Setting A)
    (tr : List (LinkEvent A (Unit × Unit) (Unit × Unit))) : Prop :=
  Complete setting (Hooks.plain Bytes) (Hooks.plain Bytes) ((), ()) ((), ()) tr

/-- **Processors are transparent.**  Let two processors undo each other.  Whatever
the interleaving, the same turns without processors come to the same packets,
routes and deliveries.  And there is a complete conversation without processors:
nothing else comes of any conversation than what comes of it, and all of that
when the conversation is complete too. -/
theorem run_transparent (htransparent : Transparent Tc Ts processor holder)
    (h : Conversation setting Tc Ts processor holder tr s) :
    (∃ tr' s', PlainConversation setting tr' s' ∧ tr'.map Sum.isLeft = tr.map Sum.isLeft ∧
      seen tr' = seen tr ∧
      (Complete setting Tc Ts processor holder tr ↔ PlainComplete setting tr')) ∧
    (∃ tr' s', PlainConversation setting tr' s' ∧ PlainComplete setting tr') ∧
    ∀ tr' s', PlainConversation setting tr' s' → PlainComplete setting tr' →
      (seen tr).Initial (seen tr') ∧
        (Complete setting Tc Ts processor holder tr → seen tr = seen tr') := by
  have hplain : Transparent (Hooks.plain Bytes) (Hooks.plain Bytes) ((), ()) ((), ()) :=
    ⟨Hooks.inverts_plain, Hooks.inverts_plain⟩
  refine ⟨?_, ?_, fun tr' s' h' hcomplete' => ⟨?_, fun hcomplete => ?_⟩⟩
  · obtain ⟨tr', s', h', hturns, hclient, hserver⟩ := exists_mirror htransparent hplain h
    refine ⟨tr', s', h', hturns, ?_, fun hcomplete => ?_, fun hcomplete => ?_⟩
    · rw [seen_eq, seen_eq, hclient, hserver]
    · exact hcomplete.of_views_eq h hclient.symm hserver.symm
    · exact hcomplete.of_views_eq h' hclient hserver
  · have hstart : PlainConversation setting [] _ := conversation_nil
    obtain ⟨rest, s', h', hcomplete⟩ := exists_complete hplain hstart
    exact ⟨rest, s', h', hcomplete⟩
  · obtain ⟨hclient, hserver⟩ := hcomplete'.views_initial hplain htransparent h' h
    exact seen_initial hclient hserver
  · obtain ⟨hclient, hserver⟩ := hcomplete'.views_initial hplain htransparent h' h
    obtain ⟨hclient', hserver'⟩ := hcomplete.views_initial htransparent hplain h h'
    rw [seen_eq, seen_eq, eq_of_prefixes hclient hclient', eq_of_prefixes hserver hserver']

/-! ## A conversation in disguise -/

section Masked

open Reference (app echo)

/-- Every byte is shifted by the number of its message. -/
def mask (count : UInt8) (message : Bytes) : Bytes := message.map (· + count)

def unmask (count : UInt8) (message : Bytes) : Bytes := message.map (· - count)

/-- Two processors that count the messages in each direction. -/
def masking : Hooks.Pair UInt8 UInt8 Bytes where
  post count message := (count + 1, mask count message)
  pre count message := (count + 1, unmask count message)

@[simp] theorem unmask_mask (count : UInt8) (message : Bytes) :
    unmask count (mask count message) = message := by
  simp [mask, unmask, Function.comp_def]

theorem inverts_masking (count : UInt8) :
    Transducer.Inverts masking.post count masking.pre count := by
  intro input
  induction input generalizing count with
  | nil => rfl
  | cons message rest ih =>
      show unmask count (mask count message) ::
        Transducer.transduce masking.pre (count + 1)
          (Transducer.transduce masking.post (count + 1) rest) = message :: rest
      rw [unmask_mask, ih]

/-- One request for the echo handler. -/
def echoSetting (data : Bytes) : Setting app where
  utils := Reference.utils
  router := Reference.router
  addr := ⟨0, 0⟩
  channel := 0
  requests := [echoRequest data 0]
  closes := true
  handlers _ call := .ok call.data

def maskedSending (data : Bytes) : List (ClientEvent app (UInt8 × UInt8)) :=
  [⟨.recv, some (echoRequest data 0)⟩,
    ⟨.postProcess (0, 0) (echoMeta data), ((1, 0), mask 0 (echoMeta data))⟩,
    ⟨.postProcess (1, 0) data, ((2, 0), mask 1 data)⟩,
    ⟨.send .metaFrame (mask 0 (echoMeta data)), .ok ()⟩, ⟨.send .payload (mask 1 data), .ok ()⟩]

def maskedEchoing (data : Bytes) : List (ServerEvent app (UInt8 × UInt8)) :=
  [⟨.next, some (.ok (mask 0 (echoMeta data)))⟩,
    ⟨.preProcess (0, 0) (mask 0 (echoMeta data)), ((0, 1), echoMeta data)⟩,
    ⟨.next, some (.ok (mask 1 data))⟩, ⟨.preProcess (0, 1) (mask 1 data), ((0, 2), data)⟩,
    ⟨.servePacket (echoMeta data) data, ()⟩,
    ⟨.serve ⟨echo.serve, echo.state, ⟨0, 0⟩, some ⟨0⟩, true, data⟩,
      .finished (.ok data) (some ⟨0⟩) none⟩,
    ⟨.postProcess (0, 2) data, ((1, 2), mask 0 data)⟩, ⟨.send (mask 0 data), .ok ()⟩,
    ⟨.tryRecv 0, none⟩]

def maskedReading (data : Bytes) : List (ClientEvent app (UInt8 × UInt8)) :=
  [⟨.next, some (.ok (mask 0 data))⟩, ⟨.preProcess (2, 0) (mask 0 data), ((2, 1), data)⟩,
    ⟨.deliver 0 data, .ok ()⟩]

/-- A request with data and its reply, both masked. -/
def masked (data : Bytes) : List (LinkEvent app (UInt8 × UInt8) (UInt8 × UInt8)) :=
  (maskedSending data).map .inl ++ (maskedEchoing data).map .inr ++ (maskedReading data).map .inl

theorem maskedSending_run (data : Bytes) :
    Run (Client.Next Reference.utils) (.top (Client.initial (0, 0))) (maskedSending data)
      (.waiting (Client.initial (2, 0)) (echoRequest data 0) 0) :=
  Run.cons (.taken _ _) <| Run.cons (.prepared _ _ _ _ _ _) <|
    Run.cons (.preparedData _ (echoRequest data 0) _ _ _ _) <|
    Run.cons (.metaSent _ _ _ _ _) <| Run.cons (.payloadSent _ _ _ _) Run.nil

theorem maskedReading_run (data : Bytes) :
    Run (Client.Next Reference.utils) (.waiting (Client.initial (2, 0)) (echoRequest data 0) 0)
      (maskedReading data) (.top (Client.initial (2, 1))) :=
  Run.cons (.responseFrame _ _ _ _) <| Run.cons (.responseRead _ _ _ _ _ _) <|
    Run.cons (.delivered _ (echoRequest data 0) _ _ _) Run.nil

theorem maskedEchoing_run {data : Bytes} (hdata : data ≠ []) :
    Run (Connection.Next Reference.utils Reference.router ⟨0, 0⟩)
      (.top (Connection.initial (0, 0) 0)) (maskedEchoing data)
      (.top (Connection.initial (1, 2) 0)) := by
  have hmore : Connection.hasPayload Reference.utils (echoMeta data) = true := by
    rw [hasPayload_echoMeta]
    simpa using hdata
  refine Run.cons (.metaFrame _ _) <| Run.cons (.announced _ _ _ _ hmore) <|
    Run.cons (.payloadFrame _ _ _) <| Run.cons (.payloadRead _ _ _ _ _) <|
    Run.cons (.called _ _ _) ?_
  rw [dispatch_echoMeta]
  exact Run.cons (.served _ _ _) <| Run.cons (.processed _ _ _ _) <| Run.cons (.sent _ _ _) <|
    Run.cons (.again _ rfl) Run.nil

theorem masked_run {data : Bytes} (hdata : data ≠ []) : ∃ s,
    LinkRun Reference.utils Reference.router ⟨0, 0⟩ ((0, 0) : UInt8 × UInt8)
      ((0, 0) : UInt8 × UInt8) 0 (masked data) s := by
  refine ⟨_, Run.append (Run.append
    (Duplex.run_left (Client.run_of_points (maskedSending_run data)) rfl ?_)
    (Duplex.run_right (Connection.run_of_points (maskedEchoing_run hdata)) rfl ?_))
    (Duplex.run_left (Client.run_of_points (maskedReading_run data)) rfl ?_)⟩
  · simp [maskedSending, client]
  · simp [maskedEchoing, server]
  · simp [maskedReading, client]

theorem lefts_masked (data : Bytes) :
    lefts (masked data) = maskedSending data ++ maskedReading data := by
  simp only [masked, lefts_append, lefts_map_inl, lefts_map_inr, List.append_nil]

theorem rights_masked (data : Bytes) : rights (masked data) = maskedEchoing data := by
  simp only [masked, rights_append, rights_map_inl, rights_map_inr, List.append_nil,
    List.nil_append]

theorem masked_calm (data : Bytes) : Calm masking masking (masked data) where
  clientQuiet := by
    rw [lefts_masked]
    refine along_const.mpr ?_
    simp only [maskedSending, maskedReading, List.cons_append, List.nil_append,
      List.forall_mem_cons]
    exact ⟨trivial, trivial, trivial, rfl, rfl, trivial, trivial, trivial, List.forall_mem_nil _⟩
  clientHooks := by
    rw [lefts_masked]
    simp [maskedSending, maskedReading, Client.obeys, Hooks.Pair.Obeyed, Hooks.Pair.answer, masking]
  serverQuiet := by
    rw [rights_masked]
    refine Connection.quietLaw_of_uneventful ?_
    simp only [maskedEchoing, List.forall_mem_cons]
    exact ⟨trivial, trivial, trivial, trivial, trivial, ⟨_, rfl⟩, trivial, rfl, rfl,
      List.forall_mem_nil _⟩
  serverHooks := by
    rw [rights_masked]
    simp [maskedEchoing, Connection.obeys, Hooks.Pair.Obeyed, Hooks.Pair.answer, masking]

theorem masked_handled (data : Bytes) :
    Along (handledLaw (echoSetting data)) (rights (masked data)) := by
  have hlaw : ∀ e ∈ rights (masked data), handledLaw (echoSetting data) [] e := by
    rw [rights_masked]
    simp only [maskedEchoing, List.forall_mem_cons]
    exact ⟨trivial, trivial, trivial, trivial, trivial, rfl, trivial, trivial, trivial,
      List.forall_mem_nil _⟩
  exact (along_const.mpr hlaw).mono fun before e he => he

theorem masked_conversation {data : Bytes} (hdata : data ≠ []) :
    ∃ s, Conversation (echoSetting data) masking masking (0, 0) (0, 0) (masked data) s := by
  obtain ⟨s, run⟩ := masked_run hdata
  refine ⟨s, run, masked_calm data, ?_, masked_handled data⟩
  rw [lefts_masked]
  exact ⟨[none], rfl⟩

theorem run_transparent_masked : ∃ tr' s', PlainConversation (echoSetting [1]) tr' s' ∧
    seen tr' = ⟨[(echoMeta [1], [1])], [], [(0, [1])]⟩ := by
  have hdata : ([1] : Bytes) ≠ [] := by decide
  obtain ⟨s, h⟩ := masked_conversation hdata
  obtain ⟨⟨tr', s', h', -, hseen, -⟩, -⟩ :=
    run_transparent ⟨inverts_masking 0, inverts_masking 0⟩ h
  exact ⟨tr', s', h', hseen.trans rfl⟩

end Masked

end Link

end FourthServer
