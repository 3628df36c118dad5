import FourthServer.Server.Steady

/-!
# Receive errors that do not mean the end

`receive_message` tells the errors after which the client is gone from those
after which the loop is to go on, and `handle_connection` continues after one
of the latter.  But after an error `Framed` yields `None` once, and
`receive_message` takes that for the end of the stream.  So the loop closes the
connection at its very next poll (`prefix_of_resumes`), whatever frames follow,
and `Survives`, which says what the loop is to do instead, holds after no such
error.
-/

namespace FourthServer

open Resumption Trace

namespace Connection

variable {A : App} {P : Type}

/-- What a stream yields after an error: nothing once, then the frames that
follow. -/
def resumed (later : List Bytes) : List (Option (Except ErrorKind Bytes)) :=
  none :: later.map fun frame => some (.ok frame)

/-- The loop gets over an error: `past` is its history up to and with the error,
`task` where it then is, and `later` are the frames that follow. -/
structure Survives (utils : Utils A) (router : TfServerRouter A) (addr : SocketAddr)
    (past : List (ServerEvent A P)) (task : ServerM A P (ConnectionState P ⊕ Unit))
    (later : List Bytes) : Prop where
  /-- The loop does not close the stream before it has read on. -/
  reads_on : ∀ (tr : List (ServerEvent A P)) (next : ServerM A P (ConnectionState P ⊕ Unit)),
    Run (Step utils router addr) task tr next → polls tr <+: resumed later →
      received tr = [] → ⟨.close, ()⟩ ∉ tr
  /-- While nothing else disturbs it, the loop gets on to where it has read all
  the frames, passed each packet in them to `serve_packet` and sent its reply. -/
  serves : ∀ (tr : List (ServerEvent A P)) (next : ServerM A P (ConnectionState P ⊕ Unit)),
    Run (Step utils router addr) task tr next → polls tr <+: resumed later →
      Along (fun before => quietLaw (past ++ before)) tr →
      ∃ more last, Run (Step utils router addr) next more last ∧
        Along (fun before => quietLaw (past ++ before)) (tr ++ more) ∧
        polls (tr ++ more) = resumed later ∧
        calls (tr ++ more) = packets utils (frames (tr ++ more)) ∧
        (wires (tr ++ more)).length = (calls (tr ++ more)).length

variable {utils : Utils A} {router : TfServerRouter A} {addr : SocketAddr}
  {past tr : List (ServerEvent A P)} {pt next : Point A P} {e : ServerEvent A P}
  {st : ConnectionState P} {later : List Bytes}

/-- Either receive point goes back to the top of the loop. -/
theorem next_recoverable {kind : ErrorKind} (hkind : disconnected kind = false)
    (hnext : Next utils router addr pt ⟨.next, some (.error kind)⟩ next) :
    ∃ st, next = .top st := by
  cases hnext with
  | metaGone _ _ gone | payloadGone _ _ _ gone =>
      rw [hkind] at gone
      cases gone
  | metaError st | payloadError st => exact ⟨st, rfl⟩

/-- At the top of the loop nothing but the closing of the stream can follow the
poll that yields nothing. -/
theorem prefix_of_resumes (run : Run (Next utils router addr) (.top st) tr pt)
    (hpolls : polls tr <+: resumed later) : tr <+: [⟨.next, none⟩, ⟨.close, ()⟩] := by
  cases tr with
  | nil => exact List.nil_prefix
  | cons e tr =>
      obtain ⟨first, hfirst, hrest⟩ := run.of_cons
      cases hfirst with
      | metaFrame | metaGone | metaError =>
          -- the first poll yields nothing
          exact absurd (List.cons_prefix_cons.mp hpolls).1 (by simp)
      | metaEnd =>
          cases tr with
          | nil => exact ⟨[⟨.close, ()⟩], rfl⟩
          | cons e tr =>
              obtain ⟨second, hsecond, hrest⟩ := hrest.of_cons
              cases hsecond with
              | closed =>
                  cases tr with
                  | nil => exact List.prefix_rfl
                  | cons e tr =>
                      obtain ⟨third, hthird, -⟩ := hrest.of_cons
                      cases hthird

/-- The run in which the loop closes the stream. -/
theorem closing_run :
    Run (Next utils router addr) (.top st) [⟨.next, none⟩, ⟨.close, ()⟩] .returned :=
  (Run.single (.metaEnd st)).snoc .closed

theorem not_survives_top :
    ¬ Survives utils router addr past ((Point.top st).task utils router addr) later := by
  intro h
  refine h.reads_on _ _ (run_of_points closing_run) ?_ rfl (by simp)
  exact ⟨later.map fun frame => some (.ok frame), rfl⟩

/-- **No error is survived.**  In every run of the connection loop, at every
error that does not mean the end of the connection, and whatever frames follow
it: the loop does not get over the error, and it reads, serves and answers
nothing of what follows. -/
theorem recoverable_not_survived {processor : P} {channel : ℕ} {kind : ErrorKind}
    {task : ServerM A P (ConnectionState P ⊕ Unit)}
    (run : Run (Step utils router addr) (handleConnection utils router addr processor channel)
      (past ++ [⟨.next, some (.error kind)⟩]) task)
    (hkind : disconnected kind = false) (later : List Bytes) :
    ¬ Survives utils router addr (past ++ [⟨.next, some (.error kind)⟩]) task later ∧
      ∀ (tr : List (ServerEvent A P)) (next : ServerM A P (ConnectionState P ⊕ Unit)),
        Run (Step utils router addr) task tr next → polls tr <+: resumed later →
          received tr = [] ∧ calls tr = [] ∧ attempts tr = [] := by
  obtain ⟨pt, hrun, rfl⟩ := run_points run
  obtain ⟨before, -, hnext⟩ := hrun.of_snoc
  obtain ⟨st, rfl⟩ := next_recoverable hkind hnext
  refine ⟨not_survives_top, ?_⟩
  intro tr next hcontinues hpolls
  obtain ⟨pt, hpoints, rfl⟩ := points_of_run hcontinues
  have hinit := prefix_of_resumes hpoints hpolls
  refine ⟨?_, ?_, ?_⟩
  · exact List.prefix_nil.mp (hinit.filterMap frame?)
  · exact List.prefix_nil.mp (hinit.filterMap call?)
  · exact List.prefix_nil.mp (hinit.filterMap attempt?)

/-- A frame that is too long, as the first thing a client sends. -/
def oversized : List (ServerEvent Reference.app Unit) := [⟨.next, some (.error .invalidData)⟩]

theorem oversized_run :
    Run (Step Reference.utils Reference.router ⟨0, 0⟩)
      (handleConnection Reference.utils Reference.router ⟨0, 0⟩ () 0) oversized
      ((Point.top (initial () 0)).task Reference.utils Reference.router ⟨0, 0⟩) := by
  have hrun : Run (Next Reference.utils Reference.router ⟨0, 0⟩) (.top (initial () 0)) oversized
    (.top (initial () 0)) := Run.single (.metaError _ _ rfl)
  exact run_of_points hrun

/-- A valid request that follows it is not answered. -/
theorem recoverable_not_survived_oversized :
    ¬ Survives Reference.utils Reference.router ⟨0, 0⟩ oversized
        ((Point.top (initial () 0)).task Reference.utils Reference.router ⟨0, 0⟩)
        [Reference.echoFrame] ∧
      ∀ tr next, Run (Step Reference.utils Reference.router ⟨0, 0⟩)
          ((Point.top (initial () 0)).task Reference.utils Reference.router ⟨0, 0⟩) tr next →
        polls tr <+: resumed [Reference.echoFrame] →
          received tr = [] ∧ calls tr = [] ∧ attempts tr = [] := by
  have hrun : Run (Step Reference.utils Reference.router ⟨0, 0⟩)
    (handleConnection Reference.utils Reference.router ⟨0, 0⟩ () 0)
    ([] ++ [⟨.next, some (.error .invalidData)⟩]) _ := oversized_run
  exact recoverable_not_survived hrun rfl [Reference.echoFrame]

/-- The stream is closed after a frame that is too long, although a valid
request follows it. -/
theorem survival_fails :
    ∃ task, Run (Step Reference.utils Reference.router ⟨0, 0⟩)
        (handleConnection Reference.utils Reference.router ⟨0, 0⟩ () 0) oversized task ∧
      disconnected .invalidData = false ∧
      ¬ Survives Reference.utils Reference.router ⟨0, 0⟩ oversized task [Reference.echoFrame] :=
  ⟨_, oversized_run, rfl, not_survives_top⟩

end Connection

end FourthServer
