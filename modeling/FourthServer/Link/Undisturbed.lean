import FourthServer.Client.Kept
import FourthServer.Link.Network

/-!
# Undisturbed clients of one server

A client is undisturbed if nothing goes wrong on its connection.  Its connection task
and the server's task for it have only so much to do for the requests that the client
has accepted (`length_linked_le`), and they can do all of it without anybody else
(`exists_atRest`).
-/

namespace FourthServer

open Trace Duplex CallState

/-! ## One client -/

namespace Link

section CallRun

variable {A : App} {SndC RcvC SndS RcvS : Type} {setting : Setting A} {maxRequestInTime : ℕ}
  {Tc : Hooks.Pair SndC RcvC Bytes} {Ts : Hooks.Pair SndS RcvS Bytes}
  {processor : SndC × RcvC} {holder : SndS × RcvS}
  {tr rest : List (CallLinkEvent A (SndC × RcvC) (SndS × RcvS))}
  {s s' : CallLink A (SndC × RcvC) (SndS × RcvS)}

/-- A consumer that does not hang any more stays as it is. -/
theorem CallRun.keeps (h : CallRun setting maxRequestInTime Tc Ts processor holder tr s)
    (h' : CallRun setting maxRequestInTime Tc Ts processor holder (tr ++ rest) s') {consumer : ℕ}
    (hused : s.dispatcher.consumers consumer ≠ .unused)
    (hheld : s.dispatcher.consumers consumer ≠ .held) :
    s'.dispatcher.consumers consumer = s.dispatcher.consumers consumer := by
  obtain ⟨t, hbefore, hafter⟩ := h'.run.of_append
  cases callRun_unique hbefore h.run
  exact run_keeps (run_client hbefore) (run_calls hafter) hused hheld

theorem taskStep_handles {P : Type} {d d' : Dispatcher A} {e : ClientEvent A P}
    (step : Dispatcher.TaskStep d e d') : d'.tx = d.tx ∧ d'.closed = d.closed := by
  cases step with
  | _ => exact ⟨rfl, rfl⟩

/-- The tasks touch neither the handle of the client nor the receivers of its callers. -/
theorem CallRun.handles (h : CallRun setting maxRequestInTime Tc Ts processor holder tr s)
    (h' : CallRun setting maxRequestInTime Tc Ts processor holder (tr ++ rest) s')
    (htasks : ∀ ev ∈ rest, OfTask ev) :
    s'.dispatcher.tx = s.dispatcher.tx ∧ s'.dispatcher.closed = s.dispatcher.closed := by
  obtain ⟨t, hbefore, hafter⟩ := h'.run.of_append
  cases callRun_unique hbefore h.run
  clear h'
  induction hafter with
  | nil => exact ⟨rfl, rfl⟩
  | @snoc rest t ev u hrun step ih =>
      obtain ⟨htx, hclosed⟩ := ih fun other hmem => htasks other (by simp [hmem])
      rw [← htx, ← hclosed]
      cases step with
      | @caller _ ev own step =>
          have htask := htasks (.inl ev) (by simp)
          cases ev with
          | task e => exact absurd rfl (own e)
          | _ => cases htask
      | client step move =>
          cases step with
          | task receiver step => exact taskStep_handles step
      | server move => exact ⟨rfl, rfl⟩

end CallRun

end Link

/-! ## A client among others -/

namespace Network

variable {A : App} {S T C P Q : Type} {config : AcceptorConfig S T} {codec : C} {utils : Utils A}
  {router : TfServerRouter A} {maxRequestInTime : ℕ → ℕ} {index : ℕ}

/-- An event of a client's connection task or of the server's task for it. -/
def OwnTask (number : ℕ) (ev : NetworkEvent A S T C P Q) : Prop :=
  ∃ event, own? number ev = some event ∧ Link.OfTask event

section OwnTask

variable {number : ℕ} {tr rest : List (NetworkEvent A S T C P Q)} {ev : NetworkEvent A S T C P Q}

theorem own_append : own number (tr ++ rest) = own number tr ++ own number rest :=
  List.filterMap_append ..

theorem outcomes_of_ownTask (h : OwnTask number ev) : outcomes (tr ++ [ev]) = outcomes tr := by
  obtain ⟨event, hown, -⟩ := h
  cases ev with
  | acceptor => cases hown
  | _ => simp [outcomes]

theorem accepted_of_ofTask {events : List (Link.CallLinkEvent A P Q)}
    {event : Link.CallLinkEvent A P Q} (h : Link.OfTask event) :
    accepted (lefts (events ++ [event])) = accepted (lefts events) := by
  rw [lefts_append]
  cases event with
  | inl ev =>
      cases ev with
      | task e => simp
      | _ => cases h
  | inr e => simp

/-- While only tasks go on, no request is accepted. -/
theorem accepted_of_ownTask (h : ∀ ev ∈ rest, OwnTask number ev) :
    accepted (lefts (own number (tr ++ rest))) = accepted (lefts (own number tr)) := by
  induction rest using List.reverseRecOn with
  | nil => rw [List.append_nil]
  | append_singleton rest ev ih =>
      obtain ⟨event, hown, htask⟩ := h ev (by simp)
      rw [← List.append_assoc, own_snoc, hown, Option.toList_some, accepted_of_ofTask htask]
      exact ih fun other hmem => h other (by simp [hmem])

theorem ofTask_of_ownTask (h : ∀ ev ∈ rest, OwnTask number ev) :
    ∀ event ∈ own number rest, Link.OfTask event := by
  intro event hmem
  obtain ⟨ev, hev, hown⟩ := List.mem_filterMap.mp hmem
  obtain ⟨event', hown', htask⟩ := h ev hev
  cases hown.symm.trans hown'
  exact htask

theorem length_linked_of_ownTask (h : ∀ ev ∈ rest, OwnTask number ev) :
    (Link.linked (own number (tr ++ rest))).length =
      (Link.linked (own number tr)).length + rest.length := by
  induction rest using List.reverseRecOn with
  | nil => simp
  | append_singleton rest ev ih =>
      obtain ⟨event, hown, htask⟩ := h ev (by simp)
      obtain ⟨e, he⟩ := Option.isSome_iff_exists.mp htask
      have hrest := ih fun other hmem => h other (by simp [hmem])
      rw [← List.append_assoc, own_snoc, hown, Option.toList_some, Link.linked_snoc, he,
        Option.toList_some, List.length_append, hrest, List.length_append, Nat.add_assoc]
      rfl

end OwnTask

section Undisturbed

variable {SndC RcvC SndS RcvS : Type} {Tc : Hooks.Pair SndC RcvC Bytes}
  {Ts : Hooks.Pair SndS RcvS Bytes} {processors : ℕ → SndC × RcvC} {holder : SndS × RcvS}
  {tr rest : List (NetworkEvent A S T C (SndC × RcvC) (SndS × RcvS))}
  {s s' : Network A S T C (SndC × RcvC) (SndS × RcvS)} {start : Start T C (SndS × RcvS)}
  {handlers : List (Bytes × Bytes) → ServeCall A → Except Bytes Bytes}

/-- What the conversation of an admitted client is about, but for the requests. -/
def settingOf (utils : Utils A) (router : TfServerRouter A) (index : ℕ)
    (start : Start T C (SndS × RcvS))
    (handlers : List (Bytes × Bytes) → ServeCall A → Except Bytes Bytes) : Link.Setting A :=
  ⟨utils, router, start.addr, index + 1, [], false, handlers⟩

/-- Nothing goes wrong on a connection, and its client has not been dropped. -/
structure Undisturbed (setting : Link.Setting A) (Tc : Hooks.Pair SndC RcvC Bytes)
    (Ts : Hooks.Pair SndS RcvS Bytes)
    (events : List (Link.CallLinkEvent A (SndC × RcvC) (SndS × RcvS))) : Prop where
  calm : Link.Calm Tc Ts (Link.linked events)
  handled : Along (Link.handledLaw setting) (rights events)
  kept : .abort ∉ lefts events

/-- Neither the client nor its task at the server can go on. -/
def AtRest (config : AcceptorConfig S T) (codec : C) (maxRequestInTime : ℕ → ℕ)
    (setting : Link.Setting A) (Tc : Hooks.Pair SndC RcvC Bytes) (Ts : Hooks.Pair SndS RcvS Bytes)
    (tr : List (NetworkEvent A S T C (SndC × RcvC) (SndS × RcvS)))
    (s : Network A S T C (SndC × RcvC) (SndS × RcvS)) : Prop :=
  ∀ ev event s', own? setting.channel ev = some event → Link.OfTask event →
    Step config codec setting.utils setting.router maxRequestInTime s ev s' →
      ¬Undisturbed setting Tc Ts (own setting.channel tr ++ [event])

/-- An admitted client is attended to. -/
theorem exists_attended
    (run : Run (Step config codec utils router maxRequestInTime)
      (Network.start config codec utils processors holder) tr s)
    (hadmitted : (outcomes tr)[index]? = some (some start))
    (hundisturbed : Undisturbed (settingOf utils router index start handlers) Tc Ts
      (own (index + 1) tr)) :
    ∃ connection, s.server.connections (index + 1) = some connection ∧
      connection.addr = start.addr ∧
      Link.CallRun (settingOf utils router index start handlers) (maxRequestInTime (index + 1)) Tc
        Ts (processors (index + 1)) start.processor (own (index + 1) tr)
        (s.link (index + 1) connection.task) := by
  obtain ⟨hcalm, hhandled, hkept⟩ := hundisturbed
  obtain ⟨pt, spawns⟩ := TfServer.exists_spawns (run_server run)
  have hspawned := spawns.spawned index
  rw [show (Acceptor.outcomes (TfServer.acceptors (served tr)))[index]? = _ from hadmitted]
    at hspawned
  cases hconnection : s.server.connections (index + 1) with
  | none =>
      rw [hconnection] at hspawned
      exact hspawned.elim
  | some connection =>
      obtain ⟨other, hother, haddr, hrun⟩ := (run_joined run index).joined hkept _ hconnection
      cases hadmitted.symm.trans hother
      exact ⟨connection, rfl, haddr, hrun, hcalm, hhandled, hkept⟩

/-- Where neither can go on, neither could if the two were alone. -/
theorem rests_of_atRest
    (run : Run (Step config codec utils router maxRequestInTime)
      (Network.start config codec utils processors holder) tr s)
    (hadmitted : (outcomes tr)[index]? = some (some start))
    (hundisturbed : Undisturbed (settingOf utils router index start handlers) Tc Ts
      (own (index + 1) tr))
    (hrest : AtRest config codec maxRequestInTime (settingOf utils router index start handlers) Tc
      Ts tr s) :
    Link.Rests (settingOf utils router index start handlers) (maxRequestInTime (index + 1)) Tc Ts
      (processors (index + 1)) start.processor (own (index + 1) tr) := by
  obtain ⟨connection, hconnection, haddr, hattended⟩ := exists_attended run hadmitted hundisturbed
  intro ev t htask hlonger
  have hundisturbed' : Undisturbed (settingOf utils router index start handlers) Tc Ts
      (own (index + 1) tr ++ [ev]) := ⟨hlonger.calm, hlonger.handled, hlonger.kept⟩
  obtain ⟨before, hbefore, step⟩ := hlonger.run.of_snoc
  cases Link.callRun_unique hbefore hattended.run
  cases step with
  | @caller _ ev own step =>
      cases ev with
      | task e => exact own e rfl
      | _ => cases htask
  | @client t e step move =>
      obtain ⟨dispatcher, left, right, toRight, toLeft⟩ := t
      cases move with
      | left resume take eof =>
          have hstep : CallState.Step utils (maxRequestInTime (index + 1))
              (s.clients (index + 1)).calls (.task e) ⟨dispatcher, left⟩ := .task step resume
          refine hrest (.client (index + 1) e) _ _ (if_pos rfl) htask
            (.client hstep take fun hpoll => ⟨(eof hpoll).1, ?_⟩) hundisturbed'
          rw [Gone, hconnection]
          exact (eof hpoll).2
  | @server e _ move =>
      cases move with
      | right resume take eof =>
          have hstep : Connection.Step utils router start.addr connection.task e _ := resume
          rw [← haddr] at hstep
          refine hrest (.connection (index + 1) e) _ _ (if_pos rfl) htask
            (.connection (.connection hconnection hstep) take fun hpoll => ⟨(eof hpoll).1, ?_⟩)
            hundisturbed'
          -- a client that has returned has dropped its end
          cases hrx : (s.clients (index + 1)).calls.dispatcher.rx with
          | false => rfl
          | true =>
              exact absurd (eof hpoll).2 ((run_ended (Link.run_client hattended.run)).alive hrx)

/-- Where neither could go on if the two were alone, neither can. -/
theorem atRest_of_rests
    (run : Run (Step config codec utils router maxRequestInTime)
      (Network.start config codec utils processors holder) tr s)
    (hadmitted : (outcomes tr)[index]? = some (some start))
    (hrests : Link.Rests (settingOf utils router index start handlers)
      (maxRequestInTime (index + 1)) Tc Ts (processors (index + 1)) start.processor
      (own (index + 1) tr)) :
    AtRest config codec maxRequestInTime (settingOf utils router index start handlers) Tc Ts tr
      s := by
  intro ev event after hown htask step hlonger
  have hsnoc : own (index + 1) tr ++ [event] = own (index + 1) (tr ++ [ev]) := by
    rw [own_snoc, show own? (index + 1) ev = some event from hown, Option.toList_some]
  rw [← outcomes_of_ownTask ⟨event, hown, htask⟩] at hadmitted
  obtain ⟨connection, -, -, hattended⟩ :=
    exists_attended (run.snoc step) hadmitted (hsnoc ▸ hlonger)
  rw [← hsnoc] at hattended
  exact hrests event _ htask hattended

/-- The tasks of a client have only so much to do for the requests taken. -/
theorem length_linked_le_taken
    (run : Run (Step config codec utils router maxRequestInTime)
      (Network.start config codec utils processors holder) tr s)
    (hadmitted : (outcomes tr)[index]? = some (some start))
    (htransparent : Link.Transparent Tc Ts (processors (index + 1)) start.processor)
    (hundisturbed : Undisturbed (settingOf utils router index start handlers) Tc Ts
      (own (index + 1) tr)) :
    (Link.linked (own (index + 1) tr)).length ≤
      140 * ((Client.taken (tasks (lefts (own (index + 1) tr)))).length + 1) := by
  obtain ⟨connection, -, -, hattended⟩ := exists_attended run hadmitted hundisturbed
  rw [← Link.lefts_linked]
  exact Link.run_length htransparent (Link.run_tasks hattended.run) hattended.calm

theorem length_linked_le
    (run : Run (Step config codec utils router maxRequestInTime)
      (Network.start config codec utils processors holder) tr s)
    (hadmitted : (outcomes tr)[index]? = some (some start))
    (htransparent : Link.Transparent Tc Ts (processors (index + 1)) start.processor)
    (hundisturbed : Undisturbed (settingOf utils router index start handlers) Tc Ts
      (own (index + 1) tr)) :
    (Link.linked (own (index + 1) tr)).length ≤
      140 * ((accepted (lefts (own (index + 1) tr))).length + 1) := by
  have hlength := length_linked_le_taken run hadmitted htransparent hundisturbed
  obtain ⟨connection, -, -, hattended⟩ := exists_attended run hadmitted hundisturbed
  obtain ⟨pt, -, -, hcustody⟩ := run_placed (Link.run_client hattended.run)
  have htaken := hcustody.takes.length_le
  omega

/-- The tasks of a client can go on until neither can. -/
theorem exists_atRest
    (run : Run (Step config codec utils router maxRequestInTime)
      (Network.start config codec utils processors holder) tr s)
    (hadmitted : (outcomes tr)[index]? = some (some start))
    (htransparent : Link.Transparent Tc Ts (processors (index + 1)) start.processor)
    (hundisturbed : Undisturbed (settingOf utils router index start handlers) Tc Ts
      (own (index + 1) tr)) :
    ∃ rest s', Run (Step config codec utils router maxRequestInTime)
        (Network.start config codec utils processors holder) (tr ++ rest) s' ∧
      (∀ ev ∈ rest, OwnTask (index + 1) ev) ∧
      (outcomes (tr ++ rest))[index]? = some (some start) ∧
      Undisturbed (settingOf utils router index start handlers) Tc Ts
        (own (index + 1) (tr ++ rest)) ∧
      AtRest config codec maxRequestInTime (settingOf utils router index start handlers) Tc Ts
        (tr ++ rest) s' := by
  -- every event brings them nearer to the bound
  generalize hleft : 140 * ((accepted (lefts (own (index + 1) tr))).length + 1) -
    (Link.linked (own (index + 1) tr)).length = left
  induction left using Nat.strongRecOn generalizing tr s with
  | ind left ih =>
      by_cases hrest : AtRest config codec maxRequestInTime
        (settingOf utils router index start handlers) Tc Ts tr s
      · refine ⟨[], s, ?_⟩
        simpa using ⟨run, hadmitted, hundisturbed, hrest⟩
      · rw [AtRest] at hrest
        push Not at hrest
        obtain ⟨ev, event, after, hown, htask, step, hlonger⟩ := hrest
        replace hown : own? (index + 1) ev = some event := hown
        have hmine : ∀ other ∈ [ev], OwnTask (index + 1) other :=
          List.forall_mem_singleton.mpr ⟨event, hown, htask⟩
        have hsnoc : own (index + 1) tr ++ [event] = own (index + 1) (tr ++ [ev]) := by
          rw [own_snoc, hown, Option.toList_some]
        replace hlonger : Undisturbed (settingOf utils router index start handlers) Tc Ts
            (own (index + 1) (tr ++ [ev])) := hsnoc ▸ hlonger
        rw [← outcomes_of_ownTask ⟨event, hown, htask⟩] at hadmitted
        have hle := length_linked_le (run.snoc step) hadmitted htransparent hlonger
        have hlength : (Link.linked (own (index + 1) (tr ++ [ev]))).length =
            (Link.linked (own (index + 1) tr)).length + 1 := length_linked_of_ownTask hmine
        rw [← accepted_of_ownTask hmine] at hleft
        obtain ⟨rest, s', hrun, hall, hend⟩ :=
          ih _ (by omega) (run.snoc step) hadmitted hlonger rfl
        rw [List.append_assoc] at hrun hend
        exact ⟨[ev] ++ rest, s', hrun, List.forall_mem_append.mpr ⟨hmine, hall⟩, hend⟩

end Undisturbed

end Network

end FourthServer
