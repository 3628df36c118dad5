import FourthServer.Acceptor.World

/-!
# The queue at the listener

The acceptor sets up one connection at a time.  A client that withholds its part
of its set-up holds up everyone behind it (`withheld_blocks`), so a pending
connection is served only if the client that is being set up and those ahead in
the queue do their parts.  No one else is needed (`run_serves`).
-/

namespace FourthServer

open Resumption Trace Transducer

namespace Acceptor

variable {S T C P : Type} {config : AcceptorConfig S T} {codec : C} {processor : P}
  {setups : Setups S T C P} {w w' : World S T C P} {arrival : Arrival S}
  {ahead behind : List (Arrival S)} {tr cont : List (WorldEvent S T C P)}

/-! ## Serving -/

/-- A connection has been taken and set up to its end, and the acceptor is back at
`select!`. -/
structure Served (config : AcceptorConfig S T) (codec : C) (arrival : Arrival S)
    (cont : List (WorldEvent S T C P)) (w' : World S T C P) : Prop where
  setUp : ∃ before setup outcome, cont = before ++ .take arrival :: setup ∧
    outcomes (setup.filterMap WorldEvent.acceptor?) = [outcome]
  atSelect : ∃ processor, w'.task = turn config codec processor

theorem Served.after {earlier : List (WorldEvent S T C P)}
    (h : Served config codec arrival cont w') :
    Served config codec arrival (earlier ++ cont) w' := by
  obtain ⟨⟨before, setup, outcome, rfl, houtcome⟩, hselect⟩ := h
  exact ⟨⟨earlier ++ before, setup, outcome, by simp, houtcome⟩, hselect⟩

/-- The set-up of a connection has one outcome. -/
theorem outcomes_setup {tr : List (AcceptorEvent S T C P)} {held : P}
    (run : Run (Next config codec) (entry config processor arrival.addr arrival.stream) tr
      (.top held)) (hobeyed : ∀ e ∈ tr, setups.Obeyed e) (harrivals : arrivals tr = []) :
    ∃ outcome, outcomes tr = [outcome] := by
  have hsettled : Settled setups config codec processor _ (.top held) :=
    run_progress (Run.cons (.accepted processor arrival.stream arrival.addr) run)
      (List.forall_mem_cons.mpr ⟨trivial, hobeyed⟩)
  have houtcomes : outcomes tr = transduce (setups.judge config codec) processor
      ((arrival.stream, arrival.addr) :: arrivals tr) := hsettled.outcomes
  rw [harrivals] at houtcomes
  exact ⟨_, houtcomes⟩

/-- The acceptor makes its `Notified` future, unless it has one. -/
theorem exists_enter (setups : Setups S T C P) (htask : w.task = turn config codec processor)
    (may : ℕ → Prop) :
    ∃ cont woken, Run (WorldStep config codec) w cont { w with notified := some woken } ∧
      Taken setups may cont := by
  obtain ⟨task, backlog, notified, current⟩ := w
  cases notified with
  | some woken => exact ⟨[], woken, Run.nil, taken_nil⟩
  | none =>
      cases htask
      refine ⟨[.enter], false, Run.nil.snoc (.enter _ rfl rfl), ?_⟩
      simp [Taken]

/-- The first connection in the queue is served. -/
theorem exists_serve_head (setups : Setups S T C P)
    (htask : w.task = turn config codec processor) (hbacklog : w.backlog = arrival :: behind) :
    ∃ cont w', Run (WorldStep config codec) w cont w' ∧
      Taken setups (fun who => who = arrival.client) cont ∧
      Served config codec arrival cont w' ∧ w'.backlog = behind := by
  obtain ⟨first, woken, hfirst, htaken⟩ :=
    exists_enter setups htask fun who => who = arrival.client
  have htake := take_head (w := { w with notified := some woken }) htask rfl hbacklog
  have hplaced : Placed config codec
      ⟨(entry config processor arrival.addr arrival.stream).task config codec, behind, none,
        some arrival.client⟩ (entry config processor arrival.addr arrival.stream) :=
    ⟨rfl, fun h => absurd rfl h, fun _ => nofun⟩
  obtain ⟨setup, held, hpoints, harrivals, hsetup, hsetting⟩ :=
    exists_finish setups hplaced (entry_ne_returned _ _ _)
  refine ⟨first ++ .take arrival :: setup, _, hfirst.append (hsetup.cons htake), ?_, ⟨?_, _, rfl⟩,
    rfl⟩
  · refine htaken.append (List.forall_mem_cons.mpr ⟨by simp [Setups.Obeyed], ?_⟩)
    exact hsetting.mono fun who hwho => (Option.some.inj hwho.1).symm
  · have hobeyed : ∀ e ∈ setup.filterMap WorldEvent.acceptor?, setups.Obeyed e := by
      intro e he
      obtain ⟨ev, hmem, hev⟩ := List.mem_filterMap.mp he
      exact (hsetting ev hmem).2.2 e hev
    obtain ⟨outcome, houtcome⟩ := outcomes_setup hpoints hobeyed harrivals
    exact ⟨first, setup, outcome, rfl, houtcome⟩

/-- Every connection in the queue is served, after those ahead of it. -/
theorem exists_serve (setups : Setups S T C P) (htask : w.task = turn config codec processor)
    (hbacklog : w.backlog = ahead ++ arrival :: behind) :
    ∃ cont w', Run (WorldStep config codec) w cont w' ∧
      Taken setups (fun who => who = arrival.client ∨ ∃ other ∈ ahead, other.client = who) cont ∧
      Served config codec arrival cont w' ∧ w'.backlog = behind := by
  induction ahead generalizing w processor with
  | nil =>
      obtain ⟨cont, w', run, htaken, hserved⟩ := exists_serve_head setups htask hbacklog
      exact ⟨cont, w', run, htaken.mono fun _ => .inl, hserved⟩
  | cons first rest ih =>
      obtain ⟨cont₁, mid, run₁, htaken₁, ⟨-, held, hselect⟩, hrest⟩ :=
        exists_serve_head setups htask hbacklog
      obtain ⟨cont₂, w', run₂, htaken₂, hserved, hbehind⟩ := ih hselect hrest
      refine ⟨cont₁ ++ cont₂, w', run₁.append run₂, ?_, hserved.after, hbehind⟩
      refine (htaken₁.mono fun who hwho => ?_).append (htaken₂.mono fun who hwho => ?_)
      · exact .inr ⟨first, List.mem_cons_self, hwho.symm⟩
      · exact hwho.imp_right fun ⟨other, hmem, hother⟩ =>
          ⟨other, List.mem_cons_of_mem _ hmem, hother⟩

/-- **Pending connections are served.**  As long as no stop signal has been given,
whatever the handshakes and hooks come to, a pending connection can be taken and
set up by steps of the server, of its own client, of the client that is being set
up and of those ahead in the queue. -/
theorem run_serves (setups : Setups S T C P)
    (run : Run (WorldStep config codec) (launched config codec processor) tr w)
    (hstop : .stop ∉ tr) (hpending : w.backlog = ahead ++ arrival :: behind) :
    ∃ cont w', Run (WorldStep config codec) w cont w' ∧
      Taken setups (fun who => who = arrival.client ∨ w.SettingUp who ∨
        ∃ other ∈ ahead, other.client = who) cont ∧
      Served config codec arrival cont w' := by
  obtain ⟨-, pt, hplaced, hreturned⟩ := run_unstopped run hstop
  obtain ⟨first, held, -, -, hfirst, hsetting⟩ := exists_finish setups hplaced hreturned
  obtain ⟨cont, w', hserve, htaken, hserved, -⟩ :=
    exists_serve (w := { w with task := turn config codec held }) setups rfl hpending
  refine ⟨first ++ cont, w', hfirst.append hserve, ?_, hserved.after⟩
  refine (hsetting.mono fun who hwho => ?_).append (htaken.mono fun who hwho => ?_)
  · exact .inr (.inl hwho)
  · exact hwho.imp_right .inr

/-! ## Withheld steps -/

/-- A step of anyone else leaves a set-up where it is. -/
theorem withheld_step {who : ℕ} {ev : WorldEvent S T C P} (hsetting : w.SettingUp who)
    (hstep : WorldStep config codec w ev w') (hwithheld : ev.actor ≠ some who) :
    w'.SettingUp who ∧ ∀ other, ev ≠ .take other := by
  obtain ⟨hcurrent, op, hop, hsetup⟩ := hsetting
  cases hstep with
  | arrive | stop => exact ⟨⟨hcurrent, op, hop, hsetup⟩, nofun⟩
  | enter hselect =>
      cases hop.symm.trans hselect
      cases hsetup
  | take _ _ hstep | fail _ hstep | leave _ hstep =>
      cases hop.symm.trans (awaits_of_loopStep hstep)
      cases hsetup
  | client _ hwho => exact absurd (hwho.symm.trans hcurrent) hwithheld
  | server hown hstep =>
      cases hop.symm.trans (awaits_of_loopStep hstep)
      rw [AcceptorOp.isOwn_eq_false hsetup] at hown
      cases hown

/-- **A client that withholds its steps** holds up everyone else. -/
theorem withheld_blocks {who : ℕ} (hsetting : w.SettingUp who)
    (run : Run (WorldStep config codec) w cont w')
    (hwithheld : ∀ ev ∈ cont, ev.actor ≠ some who) :
    w'.SettingUp who ∧ ∀ other, .take other ∉ cont := by
  induction run with
  | nil => exact ⟨hsetting, nofun⟩
  | snoc _ hstep ih =>
      obtain ⟨hbefore, hlast⟩ := List.forall_mem_append.mp hwithheld
      obtain ⟨hsetting, hnone⟩ := ih hbefore
      obtain ⟨hnext, hother⟩ := withheld_step hsetting hstep (hlast _ (List.mem_singleton_self _))
      refine ⟨hnext, fun other hmem => ?_⟩
      rcases List.mem_append.mp hmem with h | h
      · exact hnone other h
      · exact hother other (List.mem_singleton.mp h).symm

section Example

/-- A client with its number as its stream. -/
def arriving (client : ℕ) : Arrival ℕ := ⟨client, client, ⟨0, 0⟩⟩

/-- Two clients have come, and the set-up of the first one is under way. -/
def secondWaits : World ℕ ℕ Unit ℕ :=
  ⟨(entry plainTcp 0 ⟨0, 0⟩ 0).task plainTcp (), [arriving 1], none, some 0⟩

theorem secondWaits_run : Run (WorldStep plainTcp ()) (launched plainTcp () 0)
    [.enter, .arrive (arriving 0), .take (arriving 0), .arrive (arriving 1)] secondWaits := by
  have hwaiting : Run (WorldStep plainTcp ()) (launched plainTcp () 0)
      [.enter, .arrive (arriving 0)] _ := (Run.nil.snoc (.enter _ rfl rfl)).snoc (.arrive _ _)
  exact (hwaiting.snoc (take_head rfl rfl rfl)).snoc (.arrive _ _)

theorem secondWaits_settingUp : secondWaits.SettingUp 0 :=
  ⟨rfl, .initialSetup () 0, rfl, rfl⟩

/-- The second client is not served unless the first one takes a step. -/
theorem secondWaits_blocked : .stop ∉ ([.enter, .arrive (arriving 0), .take (arriving 0),
      .arrive (arriving 1)] : List (WorldEvent ℕ ℕ Unit ℕ)) ∧
    Run (WorldStep plainTcp ()) (launched plainTcp () 0)
      [.enter, .arrive (arriving 0), .take (arriving 0), .arrive (arriving 1)] secondWaits ∧
    arriving 1 ∈ secondWaits.backlog ∧
    ¬ ∃ cont w', Run (WorldStep plainTcp ()) secondWaits cont w' ∧
      (∀ ev ∈ cont, ∀ who, ev.actor = some who → who = (arriving 1).client) ∧
      Served plainTcp () (arriving 1) cont w' := by
  refine ⟨by simp, secondWaits_run, List.mem_singleton_self _, ?_⟩
  rintro ⟨cont, w', run, hactors, ⟨before, setup, outcome, rfl, -⟩, -⟩
  have hwithheld : ∀ ev ∈ before ++ .take (arriving 1) :: setup, ev.actor ≠ some 0 := by
    intro ev hmem hzero
    exact absurd (hactors ev hmem 0 hzero) (by decide)
  exact (withheld_blocks secondWaits_settingUp run hwithheld).2 (arriving 1) (by simp)

/-- It is served once the first one does. -/
theorem run_serves_secondWaits : ∃ cont w', Run (WorldStep plainTcp ()) secondWaits cont w' ∧
    Taken counting (fun who => who = (arriving 1).client ∨ secondWaits.SettingUp who ∨
      ∃ other ∈ ([] : List (Arrival ℕ)), other.client = who) cont ∧
    Served plainTcp () (arriving 1) cont w' :=
  run_serves counting secondWaits_run (by simp) rfl

end Example

end Acceptor

end FourthServer
