import FourthServer.Library.Behavior
import FourthServer.Link.Served

/-!
# Fair schedules

A server and its clients go on for ever.  If the two tasks of an undisturbed client
are not passed over for ever, each of its requests is resolved at some time and stays
so, however many other requests it accepts meanwhile, and whatever everybody else does
(`Network.run_fair`).
-/

namespace FourthServer

namespace Network

open Trace Duplex CallState

variable {A : App} {S T C P Q : Type} {config : AcceptorConfig S T} {codec : C} {utils : Utils A}
  {router : TfServerRouter A} {maxRequestInTime : ℕ → ℕ} {index : ℕ}

section History

variable {number : ℕ} {tr rest : List (NetworkEvent A S T C P Q)}

theorem outcomes_append : outcomes (tr ++ rest) = outcomes tr ++ outcomes rest := by
  simp only [outcomes, served, TfServer.acceptors, Acceptor.outcomes, List.filterMap_append]

theorem admitted_of_append {start : Start T C Q}
    (hadmitted : (outcomes tr)[index]? = some (some start)) :
    (outcomes (tr ++ rest))[index]? = some (some start) := by
  rw [outcomes_append, List.getElem?_append_left (List.getElem?_eq_some_iff.mp hadmitted).1,
    hadmitted]

theorem accepted_prefix :
    accepted (lefts (own number tr)) <+: accepted (lefts (own number (tr ++ rest))) := by
  rw [own_append, lefts_append, accepted, accepted, List.filterMap_append]
  exact List.prefix_append _ _

end History

section Fair

variable {SndC RcvC SndS RcvS : Type} {Tc : Hooks.Pair SndC RcvC Bytes}
  {Ts : Hooks.Pair SndS RcvS Bytes} {processors : ℕ → SndC × RcvC} {holder : SndS × RcvS}
  {tr rest : List (NetworkEvent A S T C (SndC × RcvC) (SndS × RcvS))}
  {s s' : Network A S T C (SndC × RcvC) (SndS × RcvS)} {start : Start T C (SndS × RcvS)}
  {handlers : List (Bytes × Bytes) → ServeCall A → Except Bytes Bytes}
  {state : ℕ → Network A S T C (SndC × RcvC) (SndS × RcvS)}
  {event : ℕ → NetworkEvent A S T C (SndC × RcvC) (SndS × RcvS)} {n m : ℕ}

/-- While a request hangs, the tasks have done no more than what the requests up to it
make them do. -/
theorem length_linked_le_of_held
    (run : Run (Step config codec utils router maxRequestInTime)
      (Network.start config codec utils processors holder) (tr ++ rest) s)
    (hadmitted : (outcomes tr)[index]? = some (some start))
    (htransparent : Link.Transparent Tc Ts (processors (index + 1)) start.processor)
    (hundisturbed : Undisturbed (settingOf utils router index start handlers) Tc Ts
      (own (index + 1) (tr ++ rest))) {request : ClientRequest A}
    (hrequest : request ∈ accepted (lefts (own (index + 1) tr)))
    (hheld : (s.clients (index + 1)).calls.dispatcher.consumers request.consumer = .held) :
    (Link.linked (own (index + 1) (tr ++ rest))).length ≤
      140 * ((accepted (lefts (own (index + 1) tr))).length + 1) := by
  have hlength := length_linked_le_taken run (admitted_of_append hadmitted) htransparent
    hundisturbed
  obtain ⟨connection, -, -, h⟩ := exists_attended run (admitted_of_append hadmitted) hundisturbed
  have htaken := length_taken_le (Link.run_client h.run) accepted_prefix hrequest hheld
  omega

/-- A request that does not hang any more never hangs again. -/
theorem not_held_of_later
    (run : Run (Step config codec utils router maxRequestInTime)
      (Network.start config codec utils processors holder) tr s)
    (hlonger : Run (Step config codec utils router maxRequestInTime)
      (Network.start config codec utils processors holder) (tr ++ rest) s')
    (hadmitted : (outcomes tr)[index]? = some (some start))
    (hundisturbed : Undisturbed (settingOf utils router index start handlers) Tc Ts
      (own (index + 1) tr))
    (hundisturbed' : Undisturbed (settingOf utils router index start handlers) Tc Ts
      (own (index + 1) (tr ++ rest))) {request : ClientRequest A}
    (hrequest : request ∈ accepted (lefts (own (index + 1) tr)))
    (hheld : (s.clients (index + 1)).calls.dispatcher.consumers request.consumer ≠ .held) :
    (s'.clients (index + 1)).calls.dispatcher.consumers request.consumer ≠ .held := by
  obtain ⟨connection, -, -, h⟩ := exists_attended run hadmitted hundisturbed
  obtain ⟨connection', -, -, h'⟩ :=
    exists_attended hlonger (admitted_of_append hadmitted) hundisturbed'
  rw [own_append] at h'
  obtain ⟨pt, -, -, hcustody⟩ := run_placed (Link.run_client h.run)
  have hkept : (s'.clients (index + 1)).calls.dispatcher.consumers request.consumer =
      (s.clients (index + 1)).calls.dispatcher.consumers request.consumer :=
    h.keeps h' (hcustody.used request hrequest) hheld
  rwa [hkept]

/-- **Fair schedules.**  Let a server and its clients go on for ever, and let the two
tasks of an undisturbed client not be passed over for ever while one of them can go on.
Then each request of this client is resolved at some time, and stays so. -/
theorem run_fair (hlawful : utils.Lawful)
    (h : Behavior (Step config codec utils router maxRequestInTime)
      (Network.start config codec utils processors holder) state event)
    (hadmitted : (outcomes (history event n))[index]? = some (some start))
    (htransparent : Link.Transparent Tc Ts (processors (index + 1)) start.processor)
    (hundisturbed : ∀ m, Undisturbed (settingOf utils router index start handlers) Tc Ts
      (own (index + 1) (history event m)))
    (hreads : ∀ m, ∀ request ∈ accepted (lefts (own (index + 1) (history event m))),
      ReadsType router request)
    (hfair : WeaklyFair (fun m => ¬AtRest config codec maxRequestInTime
      (settingOf utils router index start handlers) Tc Ts (history event m) (state m))
      (OwnTask (index + 1)) event)
    {request : ClientRequest A}
    (hrequest : request ∈ accepted (lefts (own (index + 1) (history event n)))) :
    ∃ m, n ≤ m ∧ ∀ k, m ≤ k →
      Resolved ((state k).clients (index + 1)).calls.dispatcher
        (due (settingOf utils router index start handlers) (history event k) (state k))
        request.consumer := by
  have hstays {m : ℕ} (hle : n ≤ m) : (outcomes (history event m))[index]? = some (some start) ∧
      request ∈ accepted (lefts (own (index + 1) (history event m))) := by
    obtain ⟨rest, hrest, -⟩ := h.run_between hle
    rw [hrest]
    exact ⟨admitted_of_append hadmitted, accepted_prefix.subset hrequest⟩
  have hmono : Monotone fun m => (Link.linked (own (index + 1) (history event m))).length := by
    refine monotone_nat_of_le_succ fun m => ?_
    simp only [history_succ, own_append, Link.linked, List.filterMap_append, List.length_append]
    omega
  have hgood (m : ℕ) (hmine : OwnTask (index + 1) (event m)) :
      (Link.linked (own (index + 1) (history event m))).length <
        (Link.linked (own (index + 1) (history event (m + 1)))).length := by
    rw [history_succ, length_linked_of_ownTask (List.forall_mem_singleton.mpr hmine)]
    exact Nat.lt_succ_self _
  have hpossible (m : ℕ) (hle : n ≤ m) (hhangs : ¬((state m).clients
      (index + 1)).calls.dispatcher.consumers request.consumer ≠ .held) :
      ¬AtRest config codec maxRequestInTime (settingOf utils router index start handlers) Tc Ts
        (history event m) (state m) := by
    intro hrest
    obtain ⟨hadmitted, hrequest⟩ := hstays hle
    exact hhangs (resolved_of_atRest hlawful (hreads m) (h.run m) hadmitted htransparent
      (hundisturbed m) hrest hrequest).not_held
  have hbound (m : ℕ) (hle : n ≤ m) (hhangs : ¬((state m).clients
      (index + 1)).calls.dispatcher.consumers request.consumer ≠ .held) :
      (Link.linked (own (index + 1) (history event m))).length ≤
        140 * ((accepted (lefts (own (index + 1) (history event n)))).length + 1) := by
    obtain ⟨rest, hrest, -⟩ := h.run_between hle
    have hrun := h.run m
    have hundisturbed' := hundisturbed m
    rw [hrest] at hrun hundisturbed' ⊢
    exact length_linked_le_of_held hrun hadmitted htransparent hundisturbed' hrequest
      (not_not.mp hhangs)
  obtain ⟨m, hle, hresolved⟩ := hfair.exists_goal hmono hgood hpossible hbound
  refine ⟨m, hle, fun k hlater => ?_⟩
  obtain ⟨hadmitted', hrequest'⟩ := hstays (hle.trans hlater)
  refine resolved_of_not_held hlawful (hreads k) (h.run k) hadmitted' htransparent
    (hundisturbed k) hrequest' ?_
  obtain ⟨rest, hrest, -⟩ := h.run_between hlater
  obtain ⟨hadmitted, hrequest⟩ := hstays hle
  exact not_held_of_later (h.run m) (hrest ▸ h.run k) hadmitted (hundisturbed m)
    (hrest ▸ hundisturbed k) hrequest hresolved

theorem Undisturbed.of_append {setting : Link.Setting A}
    {first second : List (Link.CallLinkEvent A (SndC × RcvC) (SndS × RcvS))}
    (h : Undisturbed setting Tc Ts (first ++ second)) : Undisturbed setting Tc Ts first := by
  obtain ⟨⟨hclientQuiet, hclientHooks, hserverQuiet, hserverHooks⟩, hhandled, hkept⟩ := h
  simp only [Link.linked, List.filterMap_append, lefts_append, rights_append, along_append,
    List.mem_append, not_or] at *
  exact ⟨⟨hclientQuiet.1, fun e hmem => hclientHooks e (.inl hmem), hserverQuiet.1,
    fun e hmem => hserverHooks e (.inl hmem)⟩, hhandled.1, hkept.1⟩

end Fair

/-! ## A client that is not passed over -/

section Crowded

open Reference Link

/-- A caller of the second client drops the receiver of its answer, over and over. -/
def droppingReceiver : NetworkEvent app Unit Unit Unit (Unit × Unit) (Unit × Unit) :=
  .caller 2 (.close 0)

theorem own_droppingReceiver
    (tr : List (NetworkEvent app Unit Unit Unit (Unit × Unit) (Unit × Unit))) (n : ℕ) :
    own 1 (tr ++ List.replicate n droppingReceiver) = own 1 tr := by
  rw [own_append, show own 1 (List.replicate n droppingReceiver) = [] from
    List.filterMap_replicate_of_none rfl, List.append_nil]

/-- A client whose first receiver has been dropped. -/
def firstClosed (calls : CallState app (Unit × Unit)) : CallState app (Unit × Unit) :=
  { calls with
    dispatcher := { calls.dispatcher with
      closed := Function.update calls.dispatcher.closed 0 true } }

theorem exists_droppingReceiver (s : Network app Unit Unit Unit (Unit × Unit) (Unit × Unit)) :
    ∃ t, EchoStep s droppingReceiver t ∧ EchoStep t droppingReceiver t := by
  have hown : ∀ e, (.close 0 : CallEvent app (Unit × Unit)) ≠ .task e := fun _ => nofun
  have hcalls (calls : CallState app (Unit × Unit)) :
      CallState.Step Reference.utils 1 calls (.close 0) (firstClosed calls) :=
    .caller hown (.closed 0)
  have hagain (calls : CallState app (Unit × Unit)) :
      firstClosed (firstClosed calls) = firstClosed calls := by
    simp [firstClosed]
  have hloop := hcalls (firstClosed (s.clients 2).calls)
  rw [hagain] at hloop
  exact ⟨⟨s.server, Function.update s.clients 2 ⟨firstClosed (s.clients 2).calls,
    (s.clients 2).toServer, (s.clients 2).toClient⟩, s.refused⟩, .caller hown (hcalls _),
    step_caller hown hloop⟩

/-- The first client's task and the server's task for it go on until they rest, and from
then on only the second client's caller does something. -/
theorem droppingReceiver_behavior (data other : Bytes) : ∃ state event,
    Behavior EchoStep echoStart state event ∧
      history event (bothWaiting data other).length = bothWaiting data other ∧
      (∀ m, Undisturbed firstSetting plain plain (own 1 (history event m))) ∧
      ∀ n, ∃ m, n ≤ m ∧ AtRest ⟨id, false, .tcp⟩ () (fun _ => 1) firstSetting plain plain
        (history event m) (state m) := by
  obtain ⟨s, run⟩ := bothWaiting_run data other
  obtain ⟨rest, after, hrun, -, hadmitted, hundisturbed, hrest⟩ := exists_atRest run
    (outcomes_bothWaiting data other) ⟨Hooks.inverts_plain, Hooks.inverts_plain⟩
    (bothWaiting_undisturbed data other)
  have hrests := rests_of_atRest hrun hadmitted hundisturbed hrest
  obtain ⟨t, hfirst, hloop⟩ := exists_droppingReceiver after
  obtain ⟨state, event, h, hlater⟩ := (hrun.snoc hfirst).exists_behavior hloop
  have hown {n : ℕ} (hle : (bothWaiting data other ++ rest ++ [droppingReceiver]).length ≤ n) :
      (outcomes (history event n))[0]? = some (some TfServer.firstStart) ∧
        own 1 (history event n) = own 1 (bothWaiting data other ++ rest) := by
    obtain ⟨k, hk⟩ := hlater n hle
    rw [hk, own_droppingReceiver, own_snoc, List.append_assoc _ [droppingReceiver]]
    exact ⟨admitted_of_append hadmitted, List.append_nil _⟩
  refine ⟨state, event, h, ?_, fun m => ?_, fun n => ?_⟩
  · obtain ⟨k, hk⟩ := hlater _ le_rfl
    have hprefix : bothWaiting data other <+:
        history event (bothWaiting data other ++ rest ++ [droppingReceiver]).length := by
      rw [hk, List.append_assoc, List.append_assoc]
      exact List.prefix_append _ _
    exact history_length hprefix
  · obtain ⟨later, hsplit⟩ := history_mono event (le_max_left m
      (bothWaiting data other ++ rest ++ [droppingReceiver]).length)
    have hmine : own 1 (history event m) ++ own 1 later =
        own 1 (bothWaiting data other ++ rest) := by
      rw [← own_append, hsplit, (hown (le_max_right _ _)).2]
    exact Undisturbed.of_append (hmine ▸ hundisturbed)
  · obtain ⟨hadmitted', hsame⟩ := hown (le_max_right n
      (bothWaiting data other ++ rest ++ [droppingReceiver]).length)
    exact ⟨_, le_max_left _ _, atRest_of_rests (h.run _) hadmitted' (hsame.symm ▸ hrests)⟩

theorem run_fair_droppingReceiver : ∃ state event, Behavior EchoStep echoStart state event ∧
    history event (bothWaiting [1] [2]).length = bothWaiting [1] [2] ∧
      ∃ m, ∀ k, m ≤ k → Resolved ((state k).clients 1).calls.dispatcher
        (due firstSetting (history event k) (state k)) 0 := by
  obtain ⟨state, event, h, hhistory, hundisturbed, hrest⟩ := droppingReceiver_behavior [1] [2]
  have hfair : WeaklyFair (fun m => ¬AtRest ⟨id, false, .tcp⟩ () (fun _ => 1) firstSetting plain
      plain (history event m) (state m)) (OwnTask 1) event := fun n hnever => by
    obtain ⟨m, hle, hm⟩ := hrest n
    exact absurd hm (hnever m hle)
  have hrequest : echoRequest [1] 0 ∈
      accepted (lefts (own 1 (history event (bothWaiting [1] [2]).length))) := by
    rw [hhistory]
    exact List.mem_singleton_self _
  obtain ⟨m, -, hresolved⟩ := run_fair Reference.lawful h
    (hhistory.symm ▸ outcomes_bothWaiting [1] [2]) ⟨Hooks.inverts_plain, Hooks.inverts_plain⟩
    hundisturbed (fun _ _ _ => Reference.deserialize_router _) hfair hrequest
  exact ⟨state, event, h, hhistory, m, hresolved⟩

end Crowded

end Network

end FourthServer
