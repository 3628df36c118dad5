import FourthServer.Link.Rehearsal

/-!
# Two tasks and one program

Whatever the processors, as long as they undo each other, and however the two
tasks take turns, nothing comes of a conversation than what comes of the
sequential program, and all of it once neither task can go on
(`run_sequential`).  The tasks cannot get stuck on the way: where neither can go
on, every request has been processed, every frame of the client has been served,
and with the request channel closed both tasks have ended.

What then is still under way to the client is one reply for each request without
data (`run_lag`).
-/

namespace FourthServer

open Resumption Trace Duplex Comparison Client Connection

namespace Link

variable {A : App} {P Q SndC RcvC SndS RcvS SndC' RcvC' SndS' RcvS' : Type} {setting : Setting A}
  {Tc : Hooks.Pair SndC RcvC Bytes} {Ts : Hooks.Pair SndS RcvS Bytes}
  {processor : SndC × RcvC} {holder : SndS × RcvS}
  {tr : List (LinkEvent A (SndC × RcvC) (SndS × RcvS))}
  {s s₁ : State (ClientM A (SndC × RcvC) (ClientState (SndC × RcvC) ⊕ Unit))
      (ServerM A (SndS × RcvS) (ConnectionState (SndS × RcvS) ⊕ Unit)) Bytes Bytes}
  {Tc' : Hooks.Pair SndC' RcvC' Bytes} {Ts' : Hooks.Pair SndS' RcvS' Bytes}
  {processor' : SndC' × RcvC'} {holder' : SndS' × RcvS'}
  {tr' : List (LinkEvent A (SndC' × RcvC') (SndS' × RcvS'))}
  {s' : State (ClientM A (SndC' × RcvC') (ClientState (SndC' × RcvC') ⊕ Unit))
      (ServerM A (SndS' × RcvS') (ConnectionState (SndS' × RcvS') ⊕ Unit)) Bytes Bytes}

/-- Each task has returned, or with the request channel open waits for what does
not come. -/
def AtEnd (closes : Bool) (left : ClientM A P (ClientState P ⊕ Unit))
    (right : ServerM A Q (ConnectionState Q ⊕ Unit)) : Prop :=
  match closes with
  | true => left = .ret (.inr ()) ∧ right = .ret (.inr ())
  | false => left.awaits = some .recv ∧ right.awaits = some .next

/-- Both tasks have done all that the program does. -/
structure Settled (setting : Setting A) (tr : List (LinkEvent A P Q))
    (s : State (ClientM A P (ClientState P ⊕ Unit)) (ServerM A Q (ConnectionState Q ⊕ Unit)) Bytes
      Bytes) : Prop where
  seen : seen tr = (Session.run setting).seen
  pulls : pulls (lefts tr) = setting.queue
  /-- Every frame of the client has been served. -/
  toRight : s.toRight = []
  toLeft : s.toLeft.length = (Session.run setting).unread.length
  ended : AtEnd setting.closes s.left s.right

/-! ## Tasks with the same view -/

theorem left_recv_of_view (h : Conversation setting Tc Ts processor holder tr s)
    (h' : Conversation setting Tc' Ts' processor' holder' tr' s')
    (hview : clientView tr = clientView tr') (hrecv : s'.left.awaits = some .recv) :
    s.left.awaits = some .recv := by
  obtain ⟨pt, hpt, hrun⟩ := h.client_run
  obtain ⟨pt', hpt', hrun'⟩ := h'.client_run
  rw [hview] at hrun
  have htask := congrArg Prog.awaits (Run.unique (loopStep_deterministic _) hrun hrun')
  rw [hpt'] at hrecv
  cases pt' with
  | top st' =>
      rw [hpt]
      cases pt with
      | top st => rfl
      | _ => cases htask
  | _ => cases hrecv

theorem right_next_of_view (h : Conversation setting Tc Ts processor holder tr s)
    (h' : Conversation setting Tc' Ts' processor' holder' tr' s')
    (hview : serverView tr = serverView tr') (hnext : s'.right.awaits = some .next) :
    s.right.awaits = some .next := by
  obtain ⟨pt, hpt, hrun⟩ := h.server_run
  obtain ⟨pt', hpt', hrun'⟩ := h'.server_run
  rw [hview] at hrun
  have htask := congrArg Prog.awaits (Run.unique (loopStep_deterministic _) hrun hrun')
  rw [hpt'] at hnext
  have herased : (pt'.erase.task setting.utils setting.router setting.addr).awaits =
      some .next := by
    cases pt' with
    | top | payloadWait => rfl
    | _ => cases hnext
  rw [herased] at htask
  rw [hpt]
  cases pt with
  | top | payloadWait => rfl
  | _ => cases htask

theorem right_returned_of_view (h : Conversation setting Tc Ts processor holder tr s)
    (h' : Conversation setting Tc' Ts' processor' holder' tr' s')
    (hview : serverView tr = serverView tr') (hreturned : s'.right = .ret (.inr ())) :
    s.right = .ret (.inr ()) := by
  obtain ⟨pt, hpt, hrun⟩ := h.server_run
  obtain ⟨pt', hpt', hrun'⟩ := h'.server_run
  rw [hview] at hrun
  have htask := Run.unique (loopStep_deterministic _) hrun hrun'
  rw [Connection.eq_returned_of_task (hpt'.symm.trans hreturned)] at htask
  have hpoint := Connection.eq_returned_of_task htask
  cases pt with
  | returned => exact hpt
  | _ => cases hpoint

/-- Conversations with the same views are settled together. -/
theorem Settled.of_views_eq (hsettled : Settled setting tr' s')
    (h : Conversation setting Tc Ts processor holder tr s)
    (h' : Conversation setting Tc' Ts' processor' holder' tr' s')
    (hclient : clientView tr = clientView tr') (hserver : serverView tr = serverView tr') :
    Settled setting tr s := by
  have hright := length_toRight h
  have hright' := length_toRight h'
  have hleft := length_toLeft h
  have hleft' := length_toLeft h'
  rw [hclient, hserver] at hright hleft
  have htoRight := congrArg List.length hsettled.toRight
  refine ⟨?_, ?_, ?_, ?_, ?_⟩
  · rw [← hsettled.seen, seen_eq, seen_eq, hclient, hserver]
  · rw [← hsettled.pulls]
    exact pulls_eq hclient
  · rw [List.length_nil] at htoRight
    exact List.length_eq_zero_iff.mp (by omega)
  · rw [← hsettled.toLeft]
    omega
  · have hended := hsettled.ended
    cases hcloses : setting.closes with
    | true =>
        rw [hcloses] at hended
        exact ⟨client_ended_of_view h h' hclient hended.1,
          right_returned_of_view h h' hserver hended.2⟩
    | false =>
        rw [hcloses] at hended
        exact ⟨left_recv_of_view h h' hclient hended.1,
          right_next_of_view h h' hserver hended.2⟩

/-! ## Settled conversations are complete -/

theorem client_stays (hsettled : Settled setting tr s)
    (h : Conversation setting Tc Ts processor holder tr s) {e : ClientEvent A (SndC × RcvC)}
    (hlonger : Conversation setting Tc Ts processor holder (tr ++ [.inl e]) s₁) : False := by
  obtain ⟨pt, hpt, hrun⟩ := h.client_run
  have hop := client_awaits hrun hlonger rfl
  have hended := hsettled.ended
  cases hcloses : setting.closes with
  | true =>
      rw [hcloses] at hended
      rw [Client.eq_returned_of_task (hpt.symm.trans hended.1)] at hop
      cases hop
  | false =>
      rw [hcloses, hpt] at hended
      cases pt with
      | top st =>
          cases e using Client.forall_event with
          | recv answer =>
              -- the client waits for a request more than there are
              have hlength := hlonger.fed.length_le
              rw [lefts_append, lefts_inl, pulls_snoc, hsettled.pulls, List.length_append]
                at hlength
              have hone : (pull? (⟨.recv, answer⟩ : ClientEvent A (SndC × RcvC))).toList.length =
                1 := rfl
              omega
          | _ => cases hop
      | _ => cases hended.1

theorem server_stays (hsettled : Settled setting tr s)
    (h : Conversation setting Tc Ts processor holder tr s) {e : ServerEvent A (SndS × RcvS)}
    (hlonger : Conversation setting Tc Ts processor holder (tr ++ [.inr e]) s₁) : False := by
  obtain ⟨pt, hpt, hrun⟩ := h.server_run
  have hop := server_awaits hrun hlonger rfl
  have hended := hsettled.ended
  cases hcloses : setting.closes with
  | true =>
      rw [hcloses] at hended
      rw [Connection.eq_returned_of_task (hpt.symm.trans hended.2)] at hop
      cases hop
  | false =>
      rw [hcloses] at hended
      obtain ⟨hrecv, hnext⟩ := hended
      have herased : (pt.erase.task setting.utils setting.router setting.addr).awaits =
          some .next := by
        rw [hpt] at hnext
        cases pt with
        | top | payloadWait => rfl
        | _ => cases hnext
      rw [herased] at hop
      obtain ⟨before, hbefore, step⟩ := hlonger.of_snoc
      have hempty : before.toRight = [] := by
        have hsent := length_toRight h
        have hsent' := length_toRight hbefore
        rw [hsettled.toRight, List.length_nil] at hsent
        exact List.length_eq_zero_iff.mp (by omega)
      have hquiet := hlonger.calm.serverQuiet
      rw [rights_append, rights_inr] at hquiet
      replace hquiet := (along_snoc.mp hquiet).2
      cases step with
      | right _ htake heof =>
      cases e using Connection.forall_event with
      | frame raw =>
          rw [hempty] at htake
          cases htake
      | error kind => exact hquiet.1.elim
      | ends =>
          -- the client would have ended, but it waits for a request
          have hleft : s.left = .ret (.inr ()) :=
            client_ended_of_view h hbefore rfl (heof rfl).2
          rw [hleft] at hrecv
          cases hrecv
      | _ => cases hop

theorem Settled.complete (hsettled : Settled setting tr s)
    (h : Conversation setting Tc Ts processor holder tr s) :
    Complete setting Tc Ts processor holder tr := by
  intro ev s₁ hlonger
  cases ev with
  | inl e => exact client_stays hsettled h hlonger
  | inr e => exact server_stays hsettled h hlonger

/-! ## The end of the rehearsal -/

/-- One event more of the server, with the state it leads to. -/
theorem Conversation.snoc_right {left : ClientM A (SndC × RcvC) (ClientState (SndC × RcvC) ⊕ Unit)}
    {pt next : Connection.Point A (SndS × RcvS)} {toRight toLeft rest : List Bytes}
    (h : Conversation setting Tc Ts processor holder tr
      ⟨left, pt.task setting.utils setting.router setting.addr, toRight, toLeft⟩)
    {e : ServerEvent A (SndS × RcvS)}
    (hnext : Connection.Next setting.utils setting.router setting.addr pt e next)
    (hquiet : Connection.quietLaw (rights tr) e) (hobeys : Connection.obeys Ts e)
    (htake : toRight = (Connection.frame? e).toList ++ rest)
    (heof : Connection.poll? e = some none → toRight = [] ∧ (client setting.utils).ended left)
    (hhandled : handledLaw setting (rights tr) e) :
    Conversation setting Tc Ts processor holder (tr ++ [.inr e])
      ⟨left, next.task setting.utils setting.router setting.addr, rest,
        toLeft ++ (Connection.wire? e).toList⟩ := by
  refine ⟨h.run.snoc (.right (Connection.step_of_next hnext) htake heof),
    calm_right h.calm hquiet hobeys, by simpa using h.fed, ?_⟩
  rw [rights_append, rights_inr]
  exact along_snoc.mpr ⟨h.handled, hhandled⟩

/-- With the channel closed, the client ends and the server after it. -/
theorem settled_of_rehearsed_closed (hcloses : setting.closes = true)
    (h : Rehearsed setting (.top (Session.run setting).state) [] (setting.requests.map some)
      (Session.run setting)) :
    ∃ tr s, PlainConversation setting tr s ∧ Settled setting tr s := by
  have hqueue : setting.requests.map some ++ [none] = setting.queue := by
    simp [Setting.queue, hcloses]
  have hended : Rehearsed setting .returned ([] ++ []) (setting.requests.map some ++ [none])
      { Session.run setting with
        learnt := (Session.run setting).learnt ++ []
        delivered := (Session.run setting).delivered ++ [] } :=
    h.client (Run.single (.drained _))
      (List.forall_mem_singleton.mpr ⟨trivial, Client.obeys_of_unhooked _ rfl, by simp⟩) rfl rfl
      rfl rfl rfl (hqueue ▸ List.prefix_rfl)
  simp only [List.append_nil] at hended
  obtain ⟨tr, hconversation, -, hseen, hpulls⟩ := hended
  -- the server sees the end of its stream, and closes it
  have hgone := hconversation.snoc_right (.metaEnd (ready setting)) ⟨trivial, trivial, trivial⟩
    (Connection.obeys_of_unhooked _ rfl) rfl (fun _ => ⟨rfl, rfl⟩) trivial
  have hclosed := hgone.snoc_right .closed ⟨trivial, trivial, trivial⟩
    (Connection.obeys_of_unhooked _ rfl) rfl (by simp) trivial
  have hlefts : lefts (tr ++ [.inr ⟨.next, none⟩] ++ [.inr ⟨.close, ()⟩]) = lefts tr := by
    simp only [lefts_append, lefts_inr, List.append_nil]
  have hrights : rights (tr ++ [.inr ⟨.next, none⟩] ++ [.inr ⟨.close, ()⟩]) =
      rights tr ++ [⟨.next, none⟩] ++ [⟨.close, ()⟩] := by
    simp only [rights_append, rights_inr]
  refine ⟨_, _, hclosed, ?_, ?_, rfl, ?_, ?_⟩
  · rw [← hseen, seen, seen, hlefts, hrights, calls_snoc, calls_snoc]
    simp
  · rw [hlefts, hpulls, hqueue]
  · simp
  · rw [hcloses]
    exact ⟨rfl, rfl⟩

/-- With the channel open, both tasks wait. -/
theorem settled_of_rehearsed_open (hcloses : setting.closes = false)
    (h : Rehearsed setting (.top (Session.run setting).state) [] (setting.requests.map some)
      (Session.run setting)) :
    ∃ tr s, PlainConversation setting tr s ∧ Settled setting tr s := by
  obtain ⟨tr, hconversation, -, hseen, hpulls⟩ := h
  refine ⟨tr, _, hconversation, hseen, ?_, rfl, rfl, ?_⟩
  · simpa [Setting.queue, hcloses] using hpulls
  · rw [hcloses]
    exact ⟨rfl, rfl⟩

/-- Without processors, some conversation does all that the program does. -/
theorem exists_settled (hlawful : setting.utils.Lawful)
    (hreads : ∀ request ∈ setting.requests, ReadsType setting.router request) :
    ∃ tr s, PlainConversation setting tr s ∧ Settled setting tr s := by
  have hrehearsed := rehearsed_run hlawful hreads
  cases hcloses : setting.closes with
  | true => exact settled_of_rehearsed_closed hcloses hrehearsed
  | false => exact settled_of_rehearsed_open hcloses hrehearsed

/-! ## Any conversation -/

/-- A complete conversation is settled. -/
theorem settled_of_complete (hlawful : setting.utils.Lawful)
    (hreads : ∀ request ∈ setting.requests, ReadsType setting.router request)
    (htransparent : Transparent Tc Ts processor holder)
    (h : Conversation setting Tc Ts processor holder tr s)
    (hcomplete : Complete setting Tc Ts processor holder tr) : Settled setting tr s := by
  have hplain : Transparent (Hooks.plain Bytes) (Hooks.plain Bytes) ((), ()) ((), ()) :=
    ⟨Hooks.inverts_plain, Hooks.inverts_plain⟩
  obtain ⟨tr', s', h', hsettled⟩ := exists_settled hlawful hreads
  obtain ⟨hclient, hserver⟩ := hcomplete.views_initial htransparent hplain h h'
  obtain ⟨hclient', hserver'⟩ :=
    (hsettled.complete h').views_initial hplain htransparent h' h
  exact hsettled.of_views_eq h h' (eq_of_prefixes hclient' hclient)
    (eq_of_prefixes hserver' hserver)

/-- What comes of a conversation is the beginning of what comes of the program. -/
theorem initial_of_conversation (hlawful : setting.utils.Lawful)
    (hreads : ∀ request ∈ setting.requests, ReadsType setting.router request)
    (htransparent : Transparent Tc Ts processor holder)
    (h : Conversation setting Tc Ts processor holder tr s) :
    (seen tr).Initial (Session.run setting).seen := by
  have hplain : Transparent (Hooks.plain Bytes) (Hooks.plain Bytes) ((), ()) ((), ()) :=
    ⟨Hooks.inverts_plain, Hooks.inverts_plain⟩
  obtain ⟨tr', s', h', hsettled⟩ := exists_settled hlawful hreads
  obtain ⟨hclient, hserver⟩ := (hsettled.complete h').views_initial hplain htransparent h' h
  rw [← hsettled.seen]
  exact seen_initial hclient hserver

/-- **Two tasks and one program.**  Let two processors undo each other.  However
the two tasks take turns, what comes of a conversation is the beginning of what
comes of the sequential program; and where neither task can go on, the tasks have
done all that the program does, and have ended if the request channel was
closed. -/
theorem run_sequential (hlawful : setting.utils.Lawful)
    (hreads : ∀ request ∈ setting.requests, ReadsType setting.router request)
    (htransparent : Transparent Tc Ts processor holder)
    (h : Conversation setting Tc Ts processor holder tr s) :
    (seen tr).Initial (Session.run setting).seen ∧
      (Complete setting Tc Ts processor holder tr → Settled setting tr s) ∧
      ∃ rest s', Conversation setting Tc Ts processor holder (tr ++ rest) s' ∧
        Settled setting (tr ++ rest) s' := by
  obtain ⟨rest, s', hlonger, hcomplete⟩ := exists_complete htransparent h
  exact ⟨initial_of_conversation hlawful hreads htransparent h,
    settled_of_complete hlawful hreads htransparent h, rest, s', hlonger,
    settled_of_complete hlawful hreads htransparent hlonger hcomplete⟩

theorem reads_echoSetting (data : Bytes) : ∀ request ∈ (echoSetting data).requests,
    ReadsType (echoSetting data).router request :=
  fun _ _ => Reference.deserialize_router _

theorem run_sequential_masked : ∃ rest s',
    Conversation (echoSetting [1]) masking masking (0, 0) (0, 0) (masked [1] ++ rest) s' ∧
      seen (masked [1] ++ rest) = ⟨[(echoMeta [1], [1])], [], [(0, [1])]⟩ ∧
      s'.left = .ret (.inr ()) ∧ s'.right = .ret (.inr ()) := by
  have hdata : ([1] : Bytes) ≠ [] := by decide
  obtain ⟨s, h⟩ := masked_conversation hdata
  obtain ⟨-, -, rest, s', hlonger, hsettled⟩ := run_sequential Reference.lawful
    (reads_echoSetting [1]) ⟨inverts_masking 0, inverts_masking 0⟩ h
  exact ⟨rest, s', hlonger, hsettled.seen.trans rfl, hsettled.ended⟩

end Link

end FourthServer
