import FourthServer.Acceptor.Admission
import FourthServer.Model.Listener

/-!
# The acceptor in its surroundings

In every run the task is at a control point, it has a `Notified` future only at
`select!`, and the operations of a set-up are those of the client that was taken
last (`run_placed`).  A set-up that is under way can be finished, whatever its
handshakes and hooks come to, by steps of the server and of that client alone
(`exists_finish`).
-/

namespace FourthServer

open Resumption Trace Transducer

namespace Acceptor

variable {S T C P : Type} {config : AcceptorConfig S T} {codec : C} {processor : P}
  {setups : Setups S T C P} {pt next : Point S T C P} {e : AcceptorEvent S T C P}
  {w w' : World S T C P} {ev : WorldEvent S T C P} {tr : List (WorldEvent S T C P)}

/-! ## Where the task is -/

/-- The control points at which the task awaits an operation of a set-up. -/
@[simp] def Point.isSetup : Point S T C P → Bool
  | .tls _ _ _ => true
  | .webSocket _ _ _ => true
  | .setup _ _ _ => true
  | .connecting _ _ _ _ => true
  | .framing _ _ _ => true
  | .top _ => false
  | .starting _ => false
  | .warning _ _ => false
  | .rejecting _ _ _ => false
  | .shutting _ _ => false
  | .returned => false

theorem Next.isSetup_eq (h : Next config codec pt e next) : e.op.isSetup = pt.isSetup := by
  cases h <;> rfl

theorem Next.isOwn_or_isSetup (h : Next config codec pt e next)
    (htop : ¬ ∃ processor, pt = .top processor) : e.op.isOwn = true ∨ e.op.isSetup = true := by
  cases h with
  | accepted | failed | notified => exact absurd ⟨_, rfl⟩ htop
  | started | warned | rejected | shut => exact .inl rfl
  | _ => exact .inr rfl

theorem Next.isOwn_false (h : Next config codec (.top processor) e next) : e.op.isOwn = false := by
  cases h <;> rfl

/-- After an operation of the server, no operation of a set-up follows. -/
theorem Next.not_isSetup (h : Next config codec pt e next) (hown : e.op.isOwn = true) :
    next.isSetup = false := by
  cases h <;> first | rfl | cases hown

theorem entry_ne_returned (held : P) (addr : SocketAddr) (stream : S) :
    (entry config held addr stream : Point S T C P) ≠ .returned := by
  unfold entry afterStream
  cases config.tls with
  | true => nofun
  | false => cases config.mode <;> nofun

/-- The task returns only when it has been notified. -/
theorem Next.notified_of_returned (h : Next config codec pt e .returned) :
    e = ⟨.select, .notified⟩ := by
  generalize hnext : Point.returned = next at h
  cases h with
  | accepted held stream addr => exact absurd hnext.symm (entry_ne_returned held addr stream)
  | secured held addr stream transport =>
      unfold afterStream at hnext
      cases hmode : config.mode <;> rw [hmode] at hnext <;> cases hnext
  | notified => rfl
  | _ => cases hnext

theorem Point.awaits_of_isSetup (h : pt.isSetup = true) :
    ∃ op, (pt.task config codec).awaits = some op ∧ op.isSetup = true := by
  cases pt with
  | tls _ _ stream => exact ⟨.tlsAccept stream, rfl, rfl⟩
  | webSocket _ _ transport => exact ⟨.acceptWebsocket transport, rfl, rfl⟩
  | setup _ _ transport => exact ⟨.initialSetup codec transport, rfl, rfl⟩
  | connecting held _ transport _ => exact ⟨.initialConnect held transport, rfl, rfl⟩
  | framing held _ framed => exact ⟨.initialFramedConnect held framed, rfl, rfl⟩
  | _ => cases h

/-- The task is at the control point, and the rest agrees with that. -/
structure Placed (config : AcceptorConfig S T) (codec : C) (w : World S T C P)
    (pt : Point S T C P) : Prop where
  task : w.task = pt.task config codec
  parked : w.notified ≠ none → ∃ processor, pt = .top processor
  engaged : pt.isSetup = true → w.current ≠ none

theorem launched_placed : Placed config codec (launched config codec processor) (.top processor) :=
  ⟨rfl, fun h => absurd rfl h, nofun⟩

/-- A step of the surroundings leaves the task where it is, any other one is in
the transition table. -/
theorem step_placed (hplaced : Placed config codec w pt) (hstep : WorldStep config codec w ev w') :
    ∃ next, Placed config codec w' next ∧
      ((ev.acceptor? = none ∧ next = pt) ∨
        ∃ e, ev.acceptor? = some e ∧ Next config codec pt e next) := by
  have htask := hplaced.task
  cases hstep with
  | arrive arrival => exact ⟨pt, ⟨htask, hplaced.parked, hplaced.engaged⟩, .inl ⟨rfl, rfl⟩⟩
  | stop =>
      refine ⟨pt, ⟨htask, fun h => hplaced.parked ?_, hplaced.engaged⟩, .inl ⟨rfl, rfl⟩⟩
      simpa using h
  | enter hselect hnotified =>
      refine ⟨pt, ⟨htask, fun _ => ?_, hplaced.engaged⟩, .inl ⟨rfl, rfl⟩⟩
      rw [htask] at hselect
      cases pt with
      | top held => exact ⟨held, rfl⟩
      | _ => cases hselect
  | take hnotified hbacklog hstep =>
      obtain ⟨next, hnext, rfl⟩ := next_of_step (htask ▸ hstep)
      exact ⟨next, ⟨rfl, fun h => absurd rfl h, fun _ => nofun⟩, .inr ⟨_, rfl, hnext⟩⟩
  | fail hnotified hstep =>
      obtain ⟨next, hnext, rfl⟩ := next_of_step (htask ▸ hstep)
      refine ⟨next, ⟨rfl, fun h => absurd rfl h, fun hsetup => ?_⟩, .inr ⟨_, rfl, hnext⟩⟩
      cases hnext
      cases hsetup
  | leave hnotified hstep =>
      obtain ⟨next, hnext, rfl⟩ := next_of_step (htask ▸ hstep)
      refine ⟨next, ⟨rfl, fun h => absurd rfl h, fun hsetup => ?_⟩, .inr ⟨_, rfl, hnext⟩⟩
      cases hnext
      cases hsetup
  | client hsetup hcurrent hstep =>
      obtain ⟨next, hnext, rfl⟩ := next_of_step (htask ▸ hstep)
      refine ⟨next, ⟨rfl, fun h => ?_, fun _ => hcurrent ▸ nofun⟩, .inr ⟨_, rfl, hnext⟩⟩
      obtain ⟨held, rfl⟩ := hplaced.parked h
      rw [hnext.isSetup_eq] at hsetup
      cases hsetup
  | server hown hstep =>
      obtain ⟨next, hnext, rfl⟩ := next_of_step (htask ▸ hstep)
      refine ⟨next, ⟨rfl, fun h => ?_, fun hsetup => ?_⟩, .inr ⟨_, rfl, hnext⟩⟩
      · obtain ⟨held, rfl⟩ := hplaced.parked h
        rw [hnext.isOwn_false] at hown
        cases hown
      · rw [hnext.not_isSetup hown] at hsetup
        cases hsetup

theorem run_placed (run : Run (WorldStep config codec) (launched config codec processor) tr w) :
    ∃ pt, Placed config codec w pt := by
  induction run with
  | nil => exact ⟨_, launched_placed⟩
  | snoc _ hstep ih =>
      obtain ⟨pt, hplaced⟩ := ih
      obtain ⟨next, hnext, -⟩ := step_placed hplaced hstep
      exact ⟨next, hnext⟩

/-- Before the first stop signal, no `Notified` future has been woken and the task
has not returned. -/
theorem run_unstopped
    (run : Run (WorldStep config codec) (launched config codec processor) tr w)
    (hstop : WorldEvent.stop ∉ tr) :
    w.notified ≠ some true ∧ ∃ pt, Placed config codec w pt ∧ pt ≠ .returned := by
  induction run with
  | nil => exact ⟨nofun, _, launched_placed, nofun⟩
  | snoc _ hstep ih =>
      rw [List.mem_append, not_or] at hstop
      obtain ⟨hnotified, pt, hplaced, hreturned⟩ := ih hstop.1
      obtain ⟨next, hnext, hmove⟩ := step_placed hplaced hstep
      refine ⟨?_, next, hnext, ?_⟩
      · cases hstep with
        | stop => exact absurd (List.mem_singleton_self _) hstop.2
        | enter => nofun
        | take | fail | leave => nofun
        | arrive | client | server => exact hnotified
      · rintro rfl
        obtain ⟨-, rfl⟩ | ⟨e, he, htable⟩ := hmove
        · exact hreturned rfl
        · -- only a woken future makes the task return
          cases htable.notified_of_returned
          cases hstep with
          | leave hwoken => exact hnotified hwoken
          | client hsetup =>
              cases he
              cases hsetup
          | server hown =>
              cases he
              cases hown
          | _ => cases he

/-! ## Finishing a set-up -/

/-- How far a control point is from `select!`. -/
@[simp] def Point.rank : Point S T C P → ℕ
  | .top _ => 0
  | .returned => 0
  | .shutting _ _ => 1
  | .starting _ => 1
  | .warning _ _ => 1
  | .rejecting _ _ _ => 2
  | .framing _ _ _ => 2
  | .connecting _ _ _ _ => 3
  | .setup _ _ _ => 4
  | .webSocket _ _ _ => 5
  | .tls _ _ _ => 6

theorem rank_afterStream_lt (held : P) (addr : SocketAddr) (transport : T) :
    (afterStream config held addr transport : Point S T C P).rank < 6 := by
  unfold afterStream
  cases config.mode <;> simp

/-- From each control point but `select!` the task can move towards it, as the
handshakes and hooks say. -/
theorem exists_next (setups : Setups S T C P) (hreturned : pt ≠ .returned)
    (htop : ¬ ∃ processor, pt = .top processor) :
    ∃ e next, Next config codec pt e next ∧ setups.Obeyed e ∧ next.rank < pt.rank := by
  cases pt with
  | top held => exact absurd ⟨held, rfl⟩ htop
  | returned => exact absurd rfl hreturned
  | tls held addr stream =>
      cases hanswer : setups.tlsAccept stream with
      | ok transport =>
          exact ⟨_, _, .secured held addr stream transport, hanswer.symm, rank_afterStream_lt ..⟩
      | error error => exact ⟨_, _, .unsecured held addr stream error, hanswer.symm, by simp⟩
  | webSocket held addr transport =>
      cases hanswer : setups.acceptWebsocket transport with
      | ok upgrade => exact ⟨_, _, .upgraded held addr transport upgrade, hanswer.symm, by simp⟩
      | error error =>
          exact ⟨_, _, .notUpgraded held addr transport error, hanswer.symm, by simp⟩
  | setup held addr transport =>
      match hanswer : setups.initialSetup codec transport with
      | (codec', transport', true) =>
          exact ⟨_, _, .setUp held addr transport transport' codec', hanswer.symm, by simp⟩
      | (codec', transport', false) =>
          exact ⟨_, _, .notSetUp held addr transport transport' codec', hanswer.symm, by simp⟩
  | connecting held addr transport own =>
      match hanswer : setups.initialConnect held transport with
      | (held', transport', true) =>
          exact ⟨_, _, .connected held held' addr transport transport' own, hanswer.symm,
            by simp⟩
      | (held', transport', false) =>
          exact ⟨_, _, .notConnected held held' addr transport transport' own, hanswer.symm,
            by simp⟩
  | framing held addr framed =>
      match hanswer : setups.initialFramedConnect held framed with
      | (held', framed', true) =>
          exact ⟨_, _, .framed held held' addr framed framed', hanswer.symm, by simp⟩
      | (held', framed', false) =>
          exact ⟨_, _, .notFramed held held' addr framed framed', hanswer.symm, by simp⟩
  | starting start => exact ⟨_, _, .started start, trivial, by simp⟩
  | warning held line => exact ⟨_, _, .warned held line, trivial, by simp⟩
  | rejecting held addr transport => exact ⟨_, _, .rejected held addr transport, trivial, by simp⟩
  | shutting held transport => exact ⟨_, _, .shut held transport (.ok ()), trivial, by simp⟩

/-- The steps are not stop signals, they are as the handshakes and hooks say, and
only the given clients take any of them. -/
def Taken (setups : Setups S T C P) (may : ℕ → Prop) (cont : List (WorldEvent S T C P)) : Prop :=
  ∀ ev ∈ cont, ev ≠ .stop ∧ (∀ who, ev.actor = some who → may who) ∧
    ∀ e, ev.acceptor? = some e → setups.Obeyed e

theorem taken_nil {may : ℕ → Prop} : Taken setups may [] := nofun

theorem Taken.append {may : ℕ → Prop} {first second : List (WorldEvent S T C P)}
    (hfirst : Taken setups may first) (hsecond : Taken setups may second) :
    Taken setups may (first ++ second) :=
  List.forall_mem_append.mpr ⟨hfirst, hsecond⟩

theorem Taken.mono {may may' : ℕ → Prop} {cont : List (WorldEvent S T C P)}
    (h : Taken setups may cont) (himp : ∀ who, may who → may' who) : Taken setups may' cont :=
  fun ev hmem => ⟨(h ev hmem).1, fun who hwho => himp who ((h ev hmem).2.1 who hwho),
    (h ev hmem).2.2⟩

/-- The world follows its task, as long as the task does not select. -/
theorem follow {tr : List (AcceptorEvent S T C P)} {busy : Prop}
    (run : Run (Next config codec) pt tr next) (htask : w.task = pt.task config codec)
    (hbusy : busy → w.current ≠ none)
    (hmoves : ∀ e ∈ tr, e.op.isOwn = true ∨ e.op.isSetup = true ∧ busy) :
    ∃ cont, Run (WorldStep config codec) w cont { w with task := next.task config codec } ∧
      cont.filterMap WorldEvent.acceptor? = tr ∧
      ∀ ev ∈ cont, ev ≠ .stop ∧ ∀ who, ev.actor = some who → busy ∧ w.current = some who := by
  induction run with
  | nil => exact ⟨[], htask ▸ Run.nil, rfl, nofun⟩
  | @snoc before mid e last _ hnext ih =>
      obtain ⟨hbefore, hlast⟩ := List.forall_mem_append.mp hmoves
      obtain ⟨cont, hrun, hevents, hcont⟩ := ih hbefore
      have hstep := step_of_next hnext
      rcases hlast _ (List.mem_singleton_self _) with hown | ⟨hsetup, hb⟩
      · refine ⟨cont ++ [.server _], hrun.snoc (.server hown hstep), ?_, ?_⟩
        · rw [filterMap_snoc, hevents]
          rfl
        · exact List.forall_mem_append.mpr ⟨hcont, by simp⟩
      · obtain ⟨who, hwho⟩ := Option.ne_none_iff_exists'.mp (hbusy hb)
        have hclient : WorldStep config codec { w with task := mid.task config codec }
          (.client who e) { w with task := last.task config codec } := .client hsetup hwho hstep
        refine ⟨cont ++ [.client who e], hrun.snoc hclient, ?_, ?_⟩
        · rw [filterMap_snoc, hevents]
          rfl
        · refine List.forall_mem_append.mpr ⟨hcont, ?_⟩
          simpa using ⟨hb, hwho⟩

/-- The task can get to `select!` by its own operations and, if it awaits one, by
those of a set-up. -/
theorem exists_run_top (setups : Setups S T C P) (hreturned : pt ≠ .returned) :
    ∃ tr processor, Run (Next config codec) pt tr (.top processor) ∧
      ∀ e ∈ tr, setups.Obeyed e ∧
        (e.op.isOwn = true ∨ e.op.isSetup = true ∧ pt.isSetup = true) := by
  have hstep : ∀ q : Point S T C P, q ≠ .returned ∧ (q.isSetup = true → pt.isSetup = true) →
      (¬ ∃ processor, q = .top processor) → ∃ e next, Next config codec q e next ∧
        (setups.Obeyed e ∧
          (e.op.isOwn = true ∨ e.op.isSetup = true ∧ pt.isSetup = true)) ∧
        (next ≠ .returned ∧ (next.isSetup = true → pt.isSetup = true)) ∧ next.rank < q.rank := by
    rintro q ⟨hq, hsetup⟩ htop
    obtain ⟨e, next, hnext, hobeyed, hrank⟩ := exists_next setups hq htop
    rcases hnext.isOwn_or_isSetup htop with hown | hmove
    · refine ⟨e, next, hnext, ⟨hobeyed, .inl hown⟩, ⟨?_, fun hlater => ?_⟩, hrank⟩
      · rintro rfl
        cases hnext.notified_of_returned
        cases hown
      · rw [hnext.not_isSetup hown] at hlater
        cases hlater
    · have hbusy := hsetup (hnext.isSetup_eq ▸ hmove)
      refine ⟨e, next, hnext, ⟨hobeyed, .inr ⟨hmove, hbusy⟩⟩, ⟨?_, fun _ => hbusy⟩, hrank⟩
      rintro rfl
      cases hnext.notified_of_returned
      cases hmove
  obtain ⟨tr, next, run, hgood, processor, rfl⟩ :=
    Run.exists_of_rank Point.rank hstep ⟨hreturned, id⟩
  exact ⟨tr, processor, run, hgood⟩

theorem arrivals_eq_nil {tr : List (AcceptorEvent S T C P)} {busy : Prop}
    (hmoves : ∀ e ∈ tr, e.op.isOwn = true ∨ e.op.isSetup = true ∧ busy) : arrivals tr = [] := by
  refine List.filterMap_eq_nil_iff.mpr fun e hmem => ?_
  obtain ⟨op, answer⟩ := e
  rcases hmoves _ hmem with h | ⟨h, -⟩ <;> cases op <;> first | rfl | cases h

/-- **A set-up can be finished.**  Whatever the handshakes and hooks come to, the
server and the client that is being set up need no one else to get the acceptor
back to `select!`. -/
theorem exists_finish (setups : Setups S T C P) (hplaced : Placed config codec w pt)
    (hreturned : pt ≠ .returned) :
    ∃ cont processor,
      Run (Next config codec) pt (cont.filterMap WorldEvent.acceptor?) (.top processor) ∧
      arrivals (cont.filterMap WorldEvent.acceptor?) = [] ∧
      Run (WorldStep config codec) w cont { w with task := turn config codec processor } ∧
      Taken setups w.SettingUp cont := by
  obtain ⟨tr, processor, run, hgood⟩ :
    ∃ tr processor, Run (Next config codec) pt tr (.top processor) ∧ _ :=
    exists_run_top setups hreturned
  have hmoves := fun e hmem => (hgood e hmem).2
  obtain ⟨cont, hrun, rfl, hcont⟩ := follow run hplaced.task hplaced.engaged hmoves
  refine ⟨cont, processor, run, arrivals_eq_nil hmoves, hrun, fun ev hmem => ?_⟩
  refine ⟨(hcont ev hmem).1, fun who hwho => ?_, fun e he => ?_⟩
  · obtain ⟨hsetup, hcurrent⟩ := (hcont ev hmem).2 who hwho
    refine ⟨hcurrent, ?_⟩
    rw [hplaced.task]
    exact Point.awaits_of_isSetup hsetup
  · exact (hgood e (List.mem_filterMap.mpr ⟨ev, hmem, he⟩)).1

/-- The acceptor at `select!` takes the connection that came first. -/
theorem take_head {woken : Bool} {arrival : Arrival S} {rest : List (Arrival S)}
    (htask : w.task = turn config codec processor) (hnotified : w.notified = some woken)
    (hbacklog : w.backlog = arrival :: rest) :
    WorldStep config codec w (.take arrival)
      ⟨(entry config processor arrival.addr arrival.stream).task config codec, rest, none,
        some arrival.client⟩ := by
  refine .take hnotified hbacklog ?_
  rw [htask]
  exact step_of_next (.accepted processor arrival.stream arrival.addr)

end Acceptor

end FourthServer
