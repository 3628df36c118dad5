import FourthServer.Acceptor.World

/-!
# Stop signals

`send_stop` stores nothing, so a signal is heard only if the acceptor waits for
it at that moment; and `select!` takes any branch that is ready, so it leaves the
loop for certain only if nothing else is ready.  A signal that finds the acceptor
so is heard: no connection is taken after it (`run_stops`).  Any other signal can
be lost (`unheard_lost`).
-/

namespace FourthServer

open Resumption Trace

namespace Acceptor

variable {S T C P : Type} {config : AcceptorConfig S T} {codec : C} {processor : P}
  {pt : Point S T C P} {w w' : World S T C P} {ev : WorldEvent S T C P}
  {tr : List (WorldEvent S T C P)}

/-- Signals come when the acceptor waits for them at `select!` and no connection
does, or when it has returned; and nothing else gets ready between a signal and
the acceptor's next step. -/
def Heard (w : World S T C P) : WorldEvent S T C P → Prop
  | .stop => w.task = .ret (.inr ()) ∨ w.notified ≠ none ∧ w.backlog = []
  | .arrive _ => w.notified ≠ some true
  | .fail _ => w.notified ≠ some true
  | _ => True

/-- The steps of an acceptor whose stop signals are heard. -/
def HeardStep (config : AcceptorConfig S T) (codec : C) (w : World S T C P)
    (ev : WorldEvent S T C P) (w' : World S T C P) : Prop :=
  WorldStep config codec w ev w' ∧ Heard w ev

/-- The acceptor has returned, or it has been notified and can do nothing but
return. -/
def Stopping (w : World S T C P) : Prop :=
  w.task = .ret (.inr ()) ∨ w.notified = some true ∧ w.backlog = []

theorem not_step_of_returned {e : AcceptorEvent S T C P} {task : AcceptorM S T C P (P ⊕ Unit)}
    (htask : w.task = .ret (.inr ())) : ¬ Step config codec w.task e task := by
  rw [htask]
  exact not_loopStep_ret

/-- The acceptor leaves its loop when it takes the branch of the signal. -/
theorem returned_of_notified {task : AcceptorM S T C P (P ⊕ Unit)}
    (hplaced : Placed config codec w pt)
    (hstep : Step config codec w.task ⟨.select, .notified⟩ task) :
    task = .ret (.inr ()) := by
  obtain ⟨next, hnext, rfl⟩ := next_of_step (hplaced.task ▸ hstep)
  cases hnext
  rfl

/-- An acceptor that has been notified, with nothing else ready, can only return. -/
theorem notified_step {held : P} (hplaced : Placed config codec w (.top held))
    (hnotified : w.notified = some true) (hbacklog : w.backlog = [])
    (hstep : HeardStep config codec w ev w') :
    (ev = .leave ∧ w'.task = .ret (.inr ())) ∨
      ev = .stop ∧ w'.notified = some true ∧ w'.backlog = [] := by
  obtain ⟨hmove, hheard⟩ := hstep
  cases hmove with
  | arrive | fail => exact absurd hnotified hheard
  | stop => exact .inr ⟨rfl, by rw [hnotified]; rfl, hbacklog⟩
  | enter _ hnone =>
      rw [hnotified] at hnone
      cases hnone
  | take _ hpending =>
      rw [hbacklog] at hpending
      cases hpending
  | leave _ hstep => exact .inl ⟨rfl, returned_of_notified hplaced hstep⟩
  | client hsetup _ hstep =>
      obtain ⟨next, hnext, -⟩ := next_of_step (hplaced.task ▸ hstep)
      rw [hnext.isSetup_eq] at hsetup
      cases hsetup
  | server hown hstep =>
      obtain ⟨next, hnext, -⟩ := next_of_step (hplaced.task ▸ hstep)
      rw [hnext.isOwn_false] at hown
      cases hown

/-- A stopping acceptor takes no connection and goes on stopping. -/
theorem heardStep_stopping (hplaced : Placed config codec w pt) (hstopping : Stopping w)
    (hstep : HeardStep config codec w ev w') :
    Stopping w' ∧ ∀ arrival, ev ≠ .take arrival := by
  rcases hstopping with htask | ⟨hnotified, hbacklog⟩
  · cases hstep.1 with
    | arrive | stop => exact ⟨.inl htask, nofun⟩
    | enter hselect =>
        rw [htask] at hselect
        cases hselect
    | take _ _ hmove | fail _ hmove | leave _ hmove | client _ _ hmove | server _ hmove =>
        exact absurd hmove (not_step_of_returned htask)
  · obtain ⟨held, rfl⟩ := hplaced.parked (by rw [hnotified]; nofun)
    rcases notified_step hplaced hnotified hbacklog hstep with ⟨rfl, htask⟩ | ⟨rfl, hstill⟩
    · exact ⟨.inl htask, nofun⟩
    · exact ⟨.inr hstill, nofun⟩

/-- From the first stop signal on, the acceptor is stopping. -/
theorem run_stopping
    (run : Run (HeardStep config codec) (launched config codec processor) tr w) :
    (∃ pt, Placed config codec w pt) ∧ (WorldEvent.stop ∈ tr → Stopping w) := by
  induction run with
  | nil => exact ⟨⟨_, launched_placed⟩, nofun⟩
  | snoc _ hstep ih =>
      obtain ⟨⟨pt, hplaced⟩, hstopping⟩ := ih
      obtain ⟨next, hnext, -⟩ := step_placed hplaced hstep.1
      refine ⟨⟨next, hnext⟩, fun hmem => ?_⟩
      rcases List.mem_append.mp hmem with hbefore | hlast
      · exact (heardStep_stopping hplaced (hstopping hbefore) hstep).1
      · cases List.mem_singleton.mp hlast
        obtain ⟨hmove, hheard⟩ := hstep
        cases hmove with
        | stop =>
            rcases hheard with htask | ⟨hnotified, hbacklog⟩
            · exact .inl htask
            · obtain ⟨woken, hwoken⟩ := Option.ne_none_iff_exists'.mp hnotified
              exact .inr ⟨by rw [hwoken]; rfl, hbacklog⟩

/-- No connection is taken after a stop signal. -/
def TakesNone (tr : List (WorldEvent S T C P)) : Prop :=
  ∀ before after, tr = before ++ .stop :: after → ∀ arrival, .take arrival ∉ after

/-- All that an acceptor at `select!` can do is to leave its loop. -/
def Leaves (config : AcceptorConfig S T) (codec : C) (w : World S T C P) : Prop :=
  (∃ w', WorldStep config codec w .leave w') ∧
    ∀ ev w', HeardStep config codec w ev w' → ev.acceptor? ≠ none →
      ev = .leave ∧ w'.task = .ret (.inr ())

/-- **Stop signals that are heard.**  No connection is taken after one, and an
acceptor that is at `select!` after one leaves its loop. -/
theorem run_stops (run : Run (HeardStep config codec) (launched config codec processor) tr w) :
    TakesNone tr ∧
      (.stop ∈ tr → w.task.awaits = some .select → Leaves config codec w) := by
  constructor
  · rintro before after rfl arrival hmem
    obtain ⟨first, second, rfl⟩ := List.append_of_mem hmem
    have hsplit : before ++ .stop :: (first ++ .take arrival :: second) =
      (before ++ .stop :: first) ++ .take arrival :: second := by simp
    rw [hsplit] at run
    obtain ⟨mid, hrun, hrest⟩ := run.of_append
    obtain ⟨next, hstep, -⟩ := hrest.of_cons
    obtain ⟨⟨pt, hplaced⟩, hstopping⟩ := run_stopping hrun
    exact (heardStep_stopping hplaced (hstopping (by simp)) hstep).2 arrival rfl
  · intro hmem hselect
    obtain ⟨⟨pt, hplaced⟩, hstopping⟩ := run_stopping run
    rcases hstopping hmem with htask | ⟨hnotified, hbacklog⟩
    · rw [htask] at hselect
      cases hselect
    · obtain ⟨held, rfl⟩ := hplaced.parked (by rw [hnotified]; nofun)
      refine ⟨⟨_, .leave hnotified (hplaced.task ▸ step_of_next (.notified held))⟩, ?_⟩
      intro ev w' hstep hvisible
      rcases notified_step hplaced hnotified hbacklog hstep with hleave | ⟨rfl, -⟩
      · exact hleave
      · exact absurd rfl hvisible

/-! ## Signals that are lost -/

/-- Everything is refused. -/
def refuse : Setups S T C P where
  tlsAccept _ := .error ""
  acceptWebsocket _ := .error ""
  initialSetup codec transport := (codec, transport, false)
  initialConnect processor transport := (processor, transport, false)
  initialFramedConnect processor framed := (processor, framed, false)

/-- An acceptor that has not returned can go on to take a connection. -/
theorem exists_take (hplaced : Placed config codec w pt) (hreturned : pt ≠ .returned)
    (arrival : Arrival S) :
    ∃ cont next taken, Run (WorldStep config codec) w cont next ∧ .take taken ∈ cont := by
  obtain ⟨first, rest, hbacklog⟩ : ∃ first rest, w.backlog ++ [arrival] = first :: rest :=
    List.exists_cons_of_ne_nil (by simp)
  cases hnotified : w.notified with
  | some woken =>
      obtain ⟨held, rfl⟩ := hplaced.parked (by rw [hnotified]; nofun)
      have hrun : Run (WorldStep config codec) w [.arrive arrival] _ := Run.nil.snoc (.arrive _ _)
      exact ⟨_, _, first, hrun.snoc (take_head hplaced.task hnotified hbacklog), by simp⟩
  | none =>
      obtain ⟨cont, held, -, -, hrun, -⟩ := exists_finish refuse hplaced hreturned
      have htop := (hrun.snoc (.arrive _ arrival)).snoc (.enter _ rfl hnotified)
      exact ⟨_, _, first, htop.snoc (take_head rfl rfl hbacklog), by simp⟩

/-- **Signals that can be lost.**  After a step that is not as `Heard` says, a signal
has been given, and yet the acceptor can go on to take a connection. -/
theorem unheard_lost (run : Run (WorldStep config codec) (launched config codec processor) tr w)
    (hstep : WorldStep config codec w ev w') (hunheard : ¬ Heard w ev) (arrival : Arrival S) :
    .stop ∈ tr ++ [ev] ∧
      ∃ cont next taken, Run (WorldStep config codec) w' cont next ∧ .take taken ∈ cont := by
  obtain ⟨pt, hplaced⟩ := run_placed run
  obtain ⟨next, hnext, hmove⟩ := step_placed hplaced hstep
  have hgiven : w.notified = some true → .stop ∈ tr := fun hnotified =>
    by_contra fun hstop => (run_unstopped run hstop).1 hnotified
  cases hstep with
  | stop =>
      obtain ⟨-, rfl⟩ | ⟨e, he, -⟩ := hmove
      · refine ⟨by simp, exists_take hnext ?_ arrival⟩
        rintro rfl
        exact hunheard (.inl hplaced.task)
      · cases he
  | arrive other =>
      have hnotified : w.notified = some true := not_not.mp hunheard
      obtain ⟨held, rfl⟩ := hplaced.parked (by rw [hnotified]; nofun)
      obtain ⟨-, rfl⟩ | ⟨e, he, -⟩ := hmove
      · exact ⟨List.mem_append_left _ (hgiven hnotified), exists_take hnext nofun arrival⟩
      · cases he
  | fail =>
      obtain ⟨hnone, -⟩ | ⟨e, he, htable⟩ := hmove
      · cases hnone
      · refine ⟨List.mem_append_left _ (hgiven (not_not.mp hunheard)), exists_take hnext ?_ arrival⟩
        rintro rfl
        cases htable.notified_of_returned
        cases he
  | _ => exact absurd trivial hunheard

section Example

def visitor : Arrival ℕ := ⟨1, 5, ⟨0, 0⟩⟩

/-- A signal before the acceptor's first poll is lost: it takes a connection after
it. -/
theorem stop_lost : ∃ (tr : List (WorldEvent ℕ ℕ Unit ℕ)) (w : World ℕ ℕ Unit ℕ),
    Run (WorldStep plainTcp ()) (launched plainTcp () 0) tr w ∧ ¬ TakesNone tr := by
  have hstop : Run (WorldStep plainTcp ()) (launched plainTcp () 0) [.stop] _ :=
    Run.nil.snoc (.stop _)
  have hwaiting := (hstop.snoc (.enter _ rfl rfl)).snoc (.arrive _ visitor)
  refine ⟨_, _, hwaiting.snoc (take_head rfl rfl rfl), fun hnone => ?_⟩
  exact hnone [] [.enter, .arrive visitor, .take visitor] rfl visitor (by simp)

/-- The acceptor is notified while it waits.  A client connects after that. -/
def stoppedEarly : List (WorldEvent ℕ ℕ Unit ℕ) := [.enter, .stop, .leave, .arrive visitor]

/-- A signal while the acceptor waits, and no one else does, is heard. -/
theorem run_stops_waiting : ∃ w,
    Run (HeardStep plainTcp ()) (launched plainTcp () 0) stoppedEarly w ∧
      w.backlog = [visitor] ∧ TakesNone stoppedEarly ∧
      Leaves plainTcp () ⟨turn plainTcp () 0, [], some true, none⟩ := by
  have hwaiting : Run (HeardStep plainTcp ()) (launched plainTcp () 0) [.enter] _ :=
    Run.nil.snoc ⟨.enter _ rfl rfl, trivial⟩
  have hstopped := hwaiting.snoc ⟨.stop _, .inr ⟨nofun, rfl⟩⟩
  have hleft := hstopped.snoc ⟨.leave rfl (step_of_next (.notified 0)), trivial⟩
  have hrun := hleft.snoc ⟨.arrive _ visitor, nofun⟩
  exact ⟨_, hrun, rfl, (run_stops hrun).1, (run_stops hstopped).2 (by simp) rfl⟩

end Example

end Acceptor

end FourthServer
