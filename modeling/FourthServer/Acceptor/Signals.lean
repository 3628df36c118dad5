import FourthServer.Acceptor.Lifetime

/-!
# The acceptors that a stop signal reaches

`send_stop` reaches the acceptors that wait in `select!` when it is called, and a
wait that is over forgets it.  So an acceptor can leave its loop just if it has
waited, without a break, since some call of `send_stop` (`run_signalled`).
-/

namespace FourthServer

open Resumption Trace

namespace Lifetime

open Acceptor

variable {S T C P : Type} {config : AcceptorConfig S T} {codec : C} {fresh : P} {given : Option P}
  {tr : List (LifetimeEvent S T C P)} {s s' : Lifetime S T C P} {ev : LifetimeEvent S T C P}

/-- The event is not one of the acceptor. -/
def Others (index : ℕ) (ev : LifetimeEvent S T C P) : Prop := ∀ e, ev ≠ .acceptor index e

/-- The acceptor has made its futures, and has done nothing since. -/
def Waiting (index : ℕ) (tr : List (LifetimeEvent S T C P)) : Prop :=
  Since (fun _ ev => ev = .acceptor index .enter) (Others index) tr

/-- There was a call of `send_stop` while the acceptor waited, and it has done
nothing since. -/
def Signalled (index : ℕ) (tr : List (LifetimeEvent S T C P)) : Prop :=
  Since (fun before ev => ev = .stop ∧ Waiting index before) (Others index) tr

/-- The `Notified` future of an acceptor. -/
def notifiedOf (s : Lifetime S T C P) (index : ℕ) : Option Bool :=
  s.acceptors[index]?.bind (·.notified)

/-- The `Notified` futures are as the history says. -/
structure Notified (tr : List (LifetimeEvent S T C P)) (s : Lifetime S T C P) : Prop where
  waiting : ∀ index, notifiedOf s index ≠ none ↔ Waiting index tr
  signalled : ∀ index, notifiedOf s index = some true ↔ Signalled index tr

theorem new_notified : Notified ([] : List (LifetimeEvent S T C P)) (new given) where
  waiting _ := ⟨fun h => absurd rfl h, fun h => absurd h not_since_nil⟩
  signalled _ := ⟨nofun, fun h => absurd h not_since_nil⟩

theorem notifiedOf_start (s : Lifetime S T C P) (index : ℕ) :
    notifiedOf (s.start config codec fresh) index = notifiedOf s index := by
  rw [notifiedOf, notifiedOf, Lifetime.start]
  rcases lt_trichotomy index s.acceptors.length with hlt | rfl | hgt
  · rw [List.getElem?_append_left hlt]
  · rw [List.getElem?_concat_length, List.getElem?_eq_none le_rfl]
    rfl
  · rw [List.getElem?_eq_none (by simp; omega), List.getElem?_eq_none hgt.le]

theorem notifiedOf_sendStop (s : Lifetime S T C P) (index : ℕ) :
    notifiedOf s.sendStop index = (notifiedOf s index).map fun _ => true := by
  rw [notifiedOf, notifiedOf, sendStop, List.getElem?_map]
  cases s.acceptors[index]? <;> rfl

/-- A future lasts as long as the acceptor does nothing. -/
theorem notified_after {w w' : World S T C P} {ev : WorldEvent S T C P} {pt : Point S T C P}
    (hplaced : Placed config codec w pt) (hown : ev.ofAcceptor = true)
    (step : WorldStep config codec w ev w') :
    ev = .enter ∧ w'.notified = some false ∨ ev ≠ .enter ∧ w'.notified = none := by
  cases step with
  | arrive | stop => cases hown
  | enter => exact .inl ⟨rfl, rfl⟩
  | take | fail | leave => exact .inr ⟨nofun, rfl⟩
  | client hsetup hcurrent hstep =>
      obtain ⟨next, hnext, -⟩ := next_of_step (hplaced.task ▸ hstep)
      refine .inr ⟨nofun, ?_⟩
      by_contra hnotified
      obtain ⟨held, rfl⟩ := hplaced.parked hnotified
      rw [hnext.isSetup_eq] at hsetup
      cases hsetup
  | server hserver hstep =>
      obtain ⟨next, hnext, -⟩ := next_of_step (hplaced.task ▸ hstep)
      refine .inr ⟨nofun, ?_⟩
      by_contra hnotified
      obtain ⟨held, rfl⟩ := hplaced.parked hnotified
      rw [hnext.isOwn_false] at hserver
      cases hserver

theorem waiting_snoc {index : ℕ} : Waiting index (tr ++ [ev]) ↔
    ev = .acceptor index .enter ∨ Others index ev ∧ Waiting index tr :=
  since_snoc

theorem signalled_snoc {index : ℕ} : Signalled index (tr ++ [ev]) ↔
    ev = .stop ∧ Waiting index tr ∨ Others index ev ∧ Signalled index tr :=
  since_snoc

/-- What is no event of an acceptor, and no stop signal, changes nothing. -/
theorem Notified.silent (h : Notified tr s) (hothers : ∀ index, Others index ev)
    (hstop : ev ≠ .stop) (hsame : ∀ index, notifiedOf s' index = notifiedOf s index) :
    Notified (tr ++ [ev]) s' where
  waiting index := by
    rw [hsame, h.waiting, waiting_snoc]
    exact ⟨fun hwaiting => .inr ⟨hothers index, hwaiting⟩,
      fun hor => (hor.resolve_left (hothers index .enter)).2⟩
  signalled index := by
    rw [hsame, h.signalled, signalled_snoc]
    exact ⟨fun hsignalled => .inr ⟨hothers index, hsignalled⟩,
      fun hor => (hor.resolve_left fun hev => hstop hev.1).2⟩

/-- `send_stop` reaches those that wait. -/
theorem Notified.stop (h : Notified tr s) : Notified (tr ++ [.stop]) s.sendStop where
  waiting index := by
    rw [notifiedOf_sendStop, waiting_snoc, ← h.waiting]
    cases notifiedOf s index <;> simp [Others]
  signalled index := by
    rw [notifiedOf_sendStop, signalled_snoc, ← h.waiting, ← h.signalled]
    cases hnotified : notifiedOf s index <;> simp [Others]

/-- An acceptor goes on. -/
theorem Notified.acceptor (h : Notified tr s) {index : ℕ} {acceptor : AcceptorTask S T C P}
    {ev : WorldEvent S T C P} {w : World S T C P} {pt : Point S T C P}
    (running : s.acceptors[index]? = some acceptor) (hown : ev.ofAcceptor = true)
    (hplaced : Placed config codec (acceptor.listening s.server.socket) pt)
    (step : WorldStep config codec (acceptor.listening s.server.socket) ev w) :
    Notified (tr ++ [.acceptor index ev])
      ⟨{ s.server with socket := w.backlog }, s.acceptors.set index w.acceptor⟩ := by
  have hlt : index < s.acceptors.length := (List.getElem?_eq_some_iff.mp running).1
  have hself : notifiedOf ⟨{ s.server with socket := w.backlog },
      s.acceptors.set index w.acceptor⟩ index = w.notified := by
    rw [notifiedOf, List.getElem?_set_self hlt]
    rfl
  have hother {other : ℕ} (hne : other ≠ index) : notifiedOf ⟨{ s.server with socket := w.backlog },
      s.acceptors.set index w.acceptor⟩ other = notifiedOf s other := by
    rw [notifiedOf, List.getElem?_set_ne (Ne.symm hne), notifiedOf]
  have hothers {other : ℕ} (hne : other ≠ index) :
      Others other (.acceptor index ev : LifetimeEvent S T C P) := by
    rintro e heq
    cases heq
    exact hne rfl
  have hmine : ¬Others index (.acceptor index ev : LifetimeEvent S T C P) := fun h => h ev rfl
  constructor
  · intro other
    rw [waiting_snoc]
    by_cases heq : other = index
    · subst heq
      rw [hself]
      obtain ⟨rfl, hnotified⟩ | ⟨hne, hnotified⟩ := notified_after hplaced hown step
      · simp [hnotified]
      · simp [hnotified, hmine, hne]
    · rw [hother heq, h.waiting]
      simp [hothers heq, Ne.symm heq]
  · intro other
    rw [signalled_snoc]
    by_cases heq : other = index
    · subst heq
      rw [hself]
      obtain ⟨rfl, hnotified⟩ | ⟨hne, hnotified⟩ := notified_after hplaced hown step
      · simp [hnotified, hmine]
      · simp [hnotified, hmine]
    · rw [hother heq, h.signalled]
      simp [hothers heq]

theorem run_notified (run : Run (Step config codec fresh) (new given) tr s) : Notified tr s := by
  refine run.invariant (I := Notified) new_notified ?_
  intro tr s ev s' hrun h step
  cases step with
  | start => exact h.silent (fun _ => nofun) nofun (notifiedOf_start s)
  | stop => exact h.stop
  | arrive arrival => exact h.silent (fun _ => nofun) nofun fun _ => rfl
  | @acceptor index acceptor _ _ running own step =>
      obtain ⟨pt, -, hplaced⟩ := ((run_shared hrun).placed index acceptor running).point
      exact h.acceptor running own (hplaced _) step

/-- **Whom a stop reaches.**  In every state of the life of a server, an acceptor can
leave its loop if and only if there was a call of `send_stop` while it waited in
`select!`, and it has waited ever since. -/
theorem run_signalled (run : Run (Step config codec fresh) (new given) tr s) (index : ℕ) :
    (∃ s', Step config codec fresh s (.acceptor index .leave) s') ↔ Signalled index tr := by
  rw [← (run_notified run).signalled]
  constructor
  · rintro ⟨s', step⟩
    cases step with
    | acceptor running own step =>
        rw [notifiedOf, running]
        cases step with
        | leave hnotified => exact hnotified
  · intro hnotified
    obtain ⟨acceptor, running, hwoken⟩ := Option.bind_eq_some_iff.mp hnotified
    obtain ⟨pt, -, hplaced⟩ := ((run_shared run).placed index acceptor running).point
    have hat := hplaced s.server.socket
    have hparked : (acceptor.listening s.server.socket).notified = some true := hwoken
    obtain ⟨held, rfl⟩ := hat.parked (by rw [hparked]; nofun)
    have hleave : Acceptor.Step config codec (acceptor.listening s.server.socket).task
        ⟨.select, .notified⟩ (Point.task config codec .returned) := by
      rw [hat.task]
      exact step_of_next (.notified held)
    exact ⟨_, .acceptor running rfl (.leave hparked hleave)⟩

/-- A refused client keeps the acceptor until it waits again, and then it is
stopped. -/
theorem run_signalled_untilStopped :
    (∃ s', Step plainTcp () false stoppedServer (.acceptor 0 .leave) s') ∧
      Signalled 0 untilStopped := by
  have hwaiting : Waiting 0 (untilStopped.take 9) :=
    ⟨untilStopped.take 8, _, [], rfl, rfl, nofun⟩
  have hsignalled : Signalled 0 untilStopped :=
    ⟨untilStopped.take 9, _, [], rfl, ⟨rfl, hwaiting⟩, nofun⟩
  exact ⟨(run_signalled untilStopped_run 0).mpr hsignalled, hsignalled⟩

end Lifetime

end FourthServer
