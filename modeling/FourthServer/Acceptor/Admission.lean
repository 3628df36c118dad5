import FourthServer.Acceptor.Points
import FourthServer.Library.Transducer

/-!
# What the acceptor makes of its connections

When the handshakes and hooks are functions of what they are given, the
acceptor is a transducer: it reads connections, makes each of them into a
refusal or into the start of a connection task (`judge`), and its state from
each connection to the next is the holder of the traffic processor
(`run_admitted`).  The codec is not part of that state, since each connection is
set up with a clone.  The holder is, since the hooks are called on the
acceptor's own.  So a connection is set up in the same way after any other
connections only as long as their hooks have left the holder alone.
-/

namespace FourthServer

open Resumption Trace Transducer

namespace Acceptor

variable {S T C P : Type}

/-! ## Reading a history -/

@[simp] def arrival? : AcceptorEvent S T C P → Option (S × SocketAddr)
  | ⟨.select, .accepted stream addr⟩ => some (stream, addr)
  | _ => none

/-- The connections accepted. -/
def arrivals (tr : List (AcceptorEvent S T C P)) : List (S × SocketAddr) := tr.filterMap arrival?

/-- What has become of a connection: its task was started, or it was refused. -/
@[simp] def outcome? : AcceptorEvent S T C P → Option (Option (Start T C P))
  | ⟨.spawn start, _⟩ => some (some start)
  | ⟨.warn (.acceptError _), _⟩ => none
  | ⟨.warn _, _⟩ => some none
  | _ => none

/-- What has become of the connections. -/
def outcomes (tr : List (AcceptorEvent S T C P)) : List (Option (Start T C P)) :=
  tr.filterMap outcome?

@[simp] theorem arrivals_nil : arrivals ([] : List (AcceptorEvent S T C P)) = [] := rfl

@[simp] theorem arrivals_snoc (tr : List (AcceptorEvent S T C P)) (e : AcceptorEvent S T C P) :
    arrivals (tr ++ [e]) = arrivals tr ++ (arrival? e).toList :=
  filterMap_snoc _ tr e

@[simp] theorem outcomes_nil : outcomes ([] : List (AcceptorEvent S T C P)) = [] := rfl

@[simp] theorem outcomes_snoc (tr : List (AcceptorEvent S T C P)) (e : AcceptorEvent S T C P) :
    outcomes (tr ++ [e]) = outcomes tr ++ (outcome? e).toList :=
  filterMap_snoc _ tr e

/-! ## The transducer -/

/-- The handshakes and hooks, as functions of what they are called on; a stream
holds all that its client ever sends. -/
structure Setups (S T C P : Type) where
  tlsAccept : S → Except String T
  acceptWebsocket : T → Except String T
  initialSetup : C → T → C × T × Bool
  initialConnect : P → T → P × T × Bool
  initialFramedConnect : P → T × C → P × (T × C) × Bool

namespace Setups

variable (setups : Setups S T C P) (config : AcceptorConfig S T) (codec : C)

/-- The event is as the functions say. -/
def Obeyed : AcceptorEvent S T C P → Prop
  | ⟨.tlsAccept stream, answer⟩ => answer = setups.tlsAccept stream
  | ⟨.acceptWebsocket transport, answer⟩ => answer = setups.acceptWebsocket transport
  | ⟨.initialSetup codec transport, answer⟩ => answer = setups.initialSetup codec transport
  | ⟨.initialConnect processor transport, answer⟩ =>
    answer = setups.initialConnect processor transport
  | ⟨.initialFramedConnect processor framed, answer⟩ =>
    answer = setups.initialFramedConnect processor framed
  | _ => True

/-- From the second hook on. -/
def frame (processor : P) (addr : SocketAddr) (framed : T × C) : P × Option (Start T C P) :=
  match setups.initialFramedConnect processor framed with
  | (processor, framed, true) => (processor, some ⟨addr, framed, processor⟩)
  | (processor, _, false) => (processor, none)

/-- From the first hook on. -/
def connect (processor : P) (addr : SocketAddr) (transport : T) (codec : C) :
    P × Option (Start T C P) :=
  match setups.initialConnect processor transport with
  | (processor, transport, true) => setups.frame processor addr (transport, codec)
  | (processor, _, false) => (processor, none)

/-- From the set-up of the codec on. -/
def setUp (processor : P) (addr : SocketAddr) (transport : T) : P × Option (Start T C P) :=
  match setups.initialSetup codec transport with
  | (codec, transport, true) => setups.connect processor addr transport codec
  | (_, _, false) => (processor, none)

/-- From the WebSocket handshake on. -/
def upgrade (processor : P) (addr : SocketAddr) (transport : T) : P × Option (Start T C P) :=
  match setups.acceptWebsocket transport with
  | .ok transport => setups.setUp codec processor addr transport
  | .error _ => (processor, none)

/-- From the transport on. -/
def convey (processor : P) (addr : SocketAddr) (transport : T) : P × Option (Start T C P) :=
  match config.mode with
  | .tcp => setups.setUp codec processor addr transport
  | .webSocket => setups.upgrade codec processor addr transport

/-- From the TLS handshake on. -/
def secure (processor : P) (addr : SocketAddr) (stream : S) : P × Option (Start T C P) :=
  match setups.tlsAccept stream with
  | .ok transport => setups.convey config codec processor addr transport
  | .error _ => (processor, none)

/-- The holder after a connection, and what becomes of the connection. -/
def judge (processor : P) (conn : S × SocketAddr) : P × Option (Start T C P) :=
  if config.tls then setups.secure config codec processor conn.2 conn.1
  else setups.convey config codec processor conn.2 (config.plain conn.1)

/-- What the connection that is being set up will come to. -/
def remaining : Point S T C P → Option (P × Option (Start T C P))
  | .tls processor addr stream => some (setups.secure config codec processor addr stream)
  | .webSocket processor addr transport => some (setups.upgrade codec processor addr transport)
  | .setup processor addr transport => some (setups.setUp codec processor addr transport)
  | .connecting processor addr transport codec =>
    some (setups.connect processor addr transport codec)
  | .framing processor addr framed => some (setups.frame processor addr framed)
  | .starting start => some (start.processor, some start)
  | .warning _ (.acceptError _) => none
  | .warning processor _ => some (processor, none)
  | .rejecting processor _ _ => some (processor, none)
  | .top _ => none
  | .shutting _ _ => none
  | .returned => none

end Setups

/-- The acceptor's own holder at a control point. -/
def Point.holder? : Point S T C P → Option P
  | .top processor => some processor
  | .tls processor _ _ => some processor
  | .webSocket processor _ _ => some processor
  | .setup processor _ _ => some processor
  | .connecting processor _ _ _ => some processor
  | .framing processor _ _ => some processor
  | .starting start => some start.processor
  | .warning processor _ => some processor
  | .rejecting processor _ _ => some processor
  | .shutting processor _ => some processor
  | .returned => none

variable {setups : Setups S T C P} {config : AcceptorConfig S T} {codec : C} {processor : P}
  {tr : List (AcceptorEvent S T C P)} {pt next : Point S T C P} {e : AcceptorEvent S T C P}

/-- Every connection that was accepted has become what it had to. -/
structure Settled (setups : Setups S T C P) (config : AcceptorConfig S T) (codec : C)
    (processor : P) (tr : List (AcceptorEvent S T C P)) (pt : Point S T C P) : Prop where
  outcomes : outcomes tr = transduce (setups.judge config codec) processor (arrivals tr)
  holder : ∀ held, pt.holder? = some held →
    held = after (setups.judge config codec) processor (arrivals tr)

/-- Every connection but the last one has, and the last one is about to come to
the given result. -/
structure Underway (setups : Setups S T C P) (config : AcceptorConfig S T) (codec : C)
    (processor : P) (tr : List (AcceptorEvent S T C P)) (result : P × Option (Start T C P)) :
    Prop where
  split : ∃ earlier conn, arrivals tr = earlier ++ [conn] ∧
    outcomes tr = transduce (setups.judge config codec) processor earlier ∧
    setups.judge config codec (after (setups.judge config codec) processor earlier) conn = result

/-- How far the acceptor has come. -/
def Progress (setups : Setups S T C P) (config : AcceptorConfig S T) (codec : C) (processor : P)
    (tr : List (AcceptorEvent S T C P)) (pt : Point S T C P) : Prop :=
  match setups.remaining config codec pt with
  | some result => Underway setups config codec processor tr result
  | none => Settled setups config codec processor tr pt

theorem Settled.silent (h : Settled setups config codec processor tr pt)
    (harrival : arrival? e = none) (houtcome : outcome? e = none)
    (hholder : ∀ held, next.holder? = some held → pt.holder? = some held) :
    Settled setups config codec processor (tr ++ [e]) next where
  outcomes := by
    rw [outcomes_snoc, arrivals_snoc, harrival, houtcome, Option.toList_none, Option.toList_none,
      List.append_nil, List.append_nil]
    exact h.outcomes
  holder held hheld := by
    rw [arrivals_snoc, harrival, Option.toList_none, List.append_nil]
    exact h.holder held (hholder held hheld)

theorem Underway.silent {result : P × Option (Start T C P)}
    (h : Underway setups config codec processor tr result) (harrival : arrival? e = none)
    (houtcome : outcome? e = none) :
    Underway setups config codec processor (tr ++ [e]) result := by
  obtain ⟨earlier, conn, harrivals, houtcomes, hjudge⟩ := h
  refine ⟨earlier, conn, ?_, ?_, hjudge⟩
  · rw [arrivals_snoc, harrival, Option.toList_none, List.append_nil, harrivals]
  · rw [outcomes_snoc, houtcome, Option.toList_none, List.append_nil, houtcomes]

/-- A connection is accepted. -/
theorem Settled.accept {held : P} (h : Settled setups config codec processor tr (.top held))
    (stream : S) (addr : SocketAddr) :
    Underway setups config codec processor (tr ++ [⟨.select, .accepted stream addr⟩])
      (setups.judge config codec held (stream, addr)) := by
  refine ⟨arrivals tr, (stream, addr), by simp, by simpa using h.outcomes, ?_⟩
  rw [← h.holder held rfl]

/-- What becomes of the connection is seen. -/
theorem Underway.settle (held : P) {outcome : Option (Start T C P)}
    (h : Underway setups config codec processor tr (held, outcome)) (harrival : arrival? e = none)
    (houtcome : outcome? e = some outcome)
    (hholder : ∀ other, next.holder? = some other → other = held) :
    Settled setups config codec processor (tr ++ [e]) next := by
  obtain ⟨earlier, conn, harrivals, houtcomes, hjudge⟩ := h
  constructor
  · rw [outcomes_snoc, arrivals_snoc, harrival, houtcome, houtcomes, Option.toList_none,
      List.append_nil, harrivals, transduce_snoc, hjudge, Option.toList_some]
  · intro other hother
    rw [arrivals_snoc, harrival, Option.toList_none, List.append_nil, harrivals, after_snoc, hjudge]
    exact hholder other hother

theorem remaining_afterStream (held : P) (addr : SocketAddr) (transport : T) :
    setups.remaining config codec (afterStream config held addr transport) =
      some (setups.convey config codec held addr transport) := by
  unfold afterStream Setups.convey
  cases config.mode <;> rfl

theorem remaining_entry (held : P) (addr : SocketAddr) (stream : S) :
    setups.remaining config codec (entry config held addr stream) =
      some (setups.judge config codec held (stream, addr)) := by
  unfold entry Setups.judge
  cases config.tls with
  | true => rfl
  | false => exact remaining_afterStream held addr _

theorem progress_of_remaining {result : P × Option (Start T C P)}
    (hremaining : setups.remaining config codec pt = some result)
    (h : Underway setups config codec processor tr result) :
    Progress setups config codec processor tr pt := by
  unfold Progress
  rw [hremaining]
  exact h

theorem next_progress (h : Progress setups config codec processor tr pt)
    (hnext : Next config codec pt e next) (hobeyed : setups.Obeyed e) :
    Progress setups config codec processor (tr ++ [e]) next := by
  cases hnext with
  | accepted held stream addr =>
      exact progress_of_remaining (remaining_entry held addr stream) (Settled.accept h stream addr)
  | failed held kind => exact Settled.silent h rfl rfl fun _ => id
  | notified held => exact Settled.silent h rfl rfl fun _ => nofun
  | secured held addr stream transport =>
      -- what was left to do begins with the answer that the handshake has just given
      refine progress_of_remaining (remaining_afterStream held addr transport)
        (Underway.silent ?_ rfl rfl)
      have hresult : Underway setups config codec processor tr
        (setups.secure config codec held addr stream) := h
      rwa [Setups.secure, ← (hobeyed : _ = setups.tlsAccept stream)] at hresult
  | unsecured held addr stream error =>
      have hresult : Underway setups config codec processor tr
        (setups.secure config codec held addr stream) := h
      rw [Setups.secure, ← (hobeyed : _ = setups.tlsAccept stream)] at hresult
      exact hresult.silent rfl rfl
  | upgraded held addr transport upgrade =>
      have hresult : Underway setups config codec processor tr
        (setups.upgrade codec held addr transport) := h
      rw [Setups.upgrade, ← (hobeyed : _ = setups.acceptWebsocket transport)] at hresult
      exact hresult.silent rfl rfl
  | notUpgraded held addr transport error =>
      have hresult : Underway setups config codec processor tr
        (setups.upgrade codec held addr transport) := h
      rw [Setups.upgrade, ← (hobeyed : _ = setups.acceptWebsocket transport)] at hresult
      exact hresult.silent rfl rfl
  | setUp held addr transport transport' codec' =>
      have hresult : Underway setups config codec processor tr
        (setups.setUp codec held addr transport) := h
      rw [Setups.setUp, ← (hobeyed : _ = setups.initialSetup codec transport)] at hresult
      exact hresult.silent rfl rfl
  | notSetUp held addr transport transport' codec' =>
      have hresult : Underway setups config codec processor tr
        (setups.setUp codec held addr transport) := h
      rw [Setups.setUp, ← (hobeyed : _ = setups.initialSetup codec transport)] at hresult
      exact hresult.silent rfl rfl
  | connected held held' addr transport transport' own =>
      have hresult : Underway setups config codec processor tr
        (setups.connect held addr transport own) := h
      rw [Setups.connect, ← (hobeyed : _ = setups.initialConnect held transport)] at hresult
      exact hresult.silent rfl rfl
  | notConnected held held' addr transport transport' own =>
      have hresult : Underway setups config codec processor tr
        (setups.connect held addr transport own) := h
      rw [Setups.connect, ← (hobeyed : _ = setups.initialConnect held transport)] at hresult
      exact hresult.silent rfl rfl
  | framed held held' addr framed framed' =>
      have hresult : Underway setups config codec processor tr (setups.frame held addr framed) := h
      rw [Setups.frame, ← (hobeyed : _ = setups.initialFramedConnect held framed)] at hresult
      exact hresult.silent rfl rfl
  | notFramed held held' addr framed framed' =>
      have hresult : Underway setups config codec processor tr (setups.frame held addr framed) := h
      rw [Setups.frame, ← (hobeyed : _ = setups.initialFramedConnect held framed)] at hresult
      exact hresult.silent rfl rfl
  | started start =>
      refine Underway.settle start.processor h rfl rfl fun other hother => ?_
      cases hother
      rfl
  | warned held line =>
      cases line with
      | acceptError kind => exact Settled.silent h rfl rfl fun _ => id
      | _ =>
          refine Underway.settle held h rfl rfl fun other hother => ?_
          cases hother
          rfl
  | rejected held addr transport =>
      refine Underway.settle held h rfl rfl fun other hother => ?_
      cases hother
      rfl
  | shut held transport res => exact Settled.silent h rfl rfl fun _ => id

theorem run_progress (run : Run (Next config codec) (.top processor) tr pt)
    (hobeyed : ∀ e ∈ tr, setups.Obeyed e) : Progress setups config codec processor tr pt := by
  induction run with
  | nil => exact ⟨rfl, fun held hheld => by cases hheld; rfl⟩
  | snoc hrun hnext ih =>
      exact next_progress (ih fun e hmem => hobeyed e (by simp [hmem])) hnext (hobeyed _ (by simp))

/-- **The acceptor is a transducer.**  What becomes of its connections is what the
transducer makes of them. -/
theorem run_admitted (run : Run (Next config codec) (.top processor) tr pt)
    (hobeyed : ∀ e ∈ tr, setups.Obeyed e) :
    outcomes tr <+: transduce (setups.judge config codec) processor (arrivals tr) := by
  have hprogress := run_progress run hobeyed
  unfold Progress at hprogress
  split at hprogress
  · obtain ⟨earlier, conn, harrivals, houtcomes, -⟩ := hprogress
    rw [houtcomes, harrivals]
    exact transduce_mono _ _ (List.prefix_append _ _)
  · exact hprogress.outcomes ▸ List.prefix_refl _

/-! ## Independence of the connections before -/

/-- The hook has left the holder as it was. -/
def Keeps : AcceptorEvent S T C P → Prop
  | ⟨.initialConnect processor _, answer⟩ => answer.1 = processor
  | ⟨.initialFramedConnect processor _, answer⟩ => answer.1 = processor
  | _ => True

theorem holder?_afterStream (held : P) (addr : SocketAddr) (transport : T) :
    (afterStream (C := C) config held addr transport).holder? = some held := by
  unfold afterStream
  cases config.mode <;> rfl

theorem holder?_entry (held : P) (addr : SocketAddr) (stream : S) :
    (entry (C := C) config held addr stream).holder? = some held := by
  unfold entry
  cases config.tls with
  | true => rfl
  | false => exact holder?_afterStream held addr _

/-- As long as all hooks leave the holder alone, it is the one the acceptor was
started with. -/
theorem run_keeps (run : Run (Next config codec) (.top processor) tr pt)
    (hkeeps : ∀ e ∈ tr, Keeps e) : ∀ held, pt.holder? = some held → held = processor := by
  induction run with
  | nil =>
      rintro held ⟨⟩
      rfl
  | snoc hrun hnext ih =>
      have hbefore := ih fun e hmem => hkeeps e (by simp [hmem])
      have hlast := hkeeps _ (List.mem_append_right _ (List.mem_singleton_self _))
      intro held hheld
      cases hnext with
      | accepted old stream addr =>
          rw [holder?_entry] at hheld
          exact hbefore held hheld
      | secured old addr stream transport =>
          rw [holder?_afterStream] at hheld
          exact hbefore held hheld
      | connected | notConnected | framed | notFramed =>
          cases hheld
          exact hlast.trans (hbefore _ rfl)
      | notified => cases hheld
      | _ => exact hbefore held hheld

/-- The first outcome after a connection was accepted is its own. -/
theorem first_outcome {before later : List (AcceptorEvent S T C P)} {stream : S}
    {addr : SocketAddr}
    (run : Run (Next config codec) (.top processor)
      (before ++ ⟨.select, .accepted stream addr⟩ :: later) pt)
    (hobeyed : ∀ e ∈ before ++ ⟨.select, .accepted stream addr⟩ :: later, setups.Obeyed e)
    (hkeeps : ∀ e ∈ before, Keeps e) (hdone : outcomes later ≠ []) :
    (outcomes later).head? = some (setups.judge config codec processor (stream, addr)).2 := by
  have hadmitted := run_admitted run hobeyed
  obtain ⟨held, hbefore, hrest⟩ := run.of_append
  obtain ⟨next, haccepted, -⟩ := hrest.of_cons
  have hkept := run_keeps hbefore hkeeps
  have hsettled := run_progress hbefore fun e hmem => hobeyed e (List.mem_append_left _ hmem)
  cases haccepted with
  | accepted held =>
      obtain ⟨houtcomes, hholder⟩ :
        Settled setups config codec processor before (.top held) := hsettled
      -- the hooks before have left the holder alone, so the transducer starts afresh
      have hsame : after (setups.judge config codec) processor (arrivals before) = processor := by
        rw [← hholder held rfl]
        exact hkept held rfl
      obtain ⟨outcome, rest, hrest⟩ := List.exists_cons_of_ne_nil hdone
      have htransduced : outcomes later <+:
          (setups.judge config codec processor (stream, addr)).2 ::
            transduce (setups.judge config codec)
              (setups.judge config codec processor (stream, addr)).1 (arrivals later) := by
        simp only [outcomes, arrivals, List.filterMap_append, List.filterMap_cons,
          transduce_append] at hadmitted houtcomes hsame ⊢
        rw [houtcomes, List.prefix_append_right_inj, hsame] at hadmitted
        exact hadmitted
      rw [hrest, List.cons_prefix_cons] at htransduced
      rw [hrest, List.head?_cons, htransduced.1]

/-- **Independence.**  A connection comes to the same, with the same codec and the
same holder for its task, whatever connections were accepted before it, as long
as their hooks have left the acceptor's holder alone. -/
theorem turn_independent {before₁ later₁ before₂ later₂ : List (AcceptorEvent S T C P)}
    {stream : S} {addr : SocketAddr} {task₁ task₂ : AcceptorM S T C P (P ⊕ Unit)}
    (run₁ : Run (Step config codec) (turn config codec processor)
      (before₁ ++ ⟨.select, .accepted stream addr⟩ :: later₁) task₁)
    (run₂ : Run (Step config codec) (turn config codec processor)
      (before₂ ++ ⟨.select, .accepted stream addr⟩ :: later₂) task₂)
    (hobeyed₁ : ∀ e ∈ before₁ ++ ⟨.select, .accepted stream addr⟩ :: later₁, setups.Obeyed e)
    (hobeyed₂ : ∀ e ∈ before₂ ++ ⟨.select, .accepted stream addr⟩ :: later₂, setups.Obeyed e)
    (hkeeps₁ : ∀ e ∈ before₁, Keeps e) (hkeeps₂ : ∀ e ∈ before₂, Keeps e)
    (hdone₁ : outcomes later₁ ≠ []) (hdone₂ : outcomes later₂ ≠ []) :
    (outcomes later₁).head? = (outcomes later₂).head? := by
  obtain ⟨pt₁, hrun₁, -⟩ := run_points run₁
  obtain ⟨pt₂, hrun₂, -⟩ := run_points run₂
  rw [first_outcome hrun₁ hobeyed₁ hkeeps₁ hdone₁, first_outcome hrun₂ hobeyed₂ hkeeps₂ hdone₂]

section Counting

/-- Streams are what their clients send, a number, and the first hook adds it to
the holder. -/
def counting : Setups ℕ ℕ Unit ℕ where
  tlsAccept stream := .ok stream
  acceptWebsocket transport := .ok transport
  initialSetup _ transport := ((), transport, true)
  initialConnect processor transport := (processor + transport, transport, true)
  initialFramedConnect processor framed := (processor, framed, true)

def plainTcp : AcceptorConfig ℕ ℕ := ⟨id, false, .tcp⟩

/-- The set-up of an accepted connection. -/
def acceptedSetUp (held stream : ℕ) : List (AcceptorEvent ℕ ℕ Unit ℕ) :=
  [⟨.initialSetup () stream, ((), stream, true)⟩,
    ⟨.initialConnect held stream, (held + stream, stream, true)⟩,
    ⟨.initialFramedConnect (held + stream) (stream, ()), (held + stream, (stream, ()), true)⟩,
    ⟨.spawn ⟨⟨0, 0⟩, (stream, ()), held + stream⟩, ()⟩]

/-- A connection that is accepted and set up. -/
def visit (held stream : ℕ) : List (AcceptorEvent ℕ ℕ Unit ℕ) :=
  ⟨.select, .accepted stream ⟨0, 0⟩⟩ :: acceptedSetUp held stream

theorem visit_run (held stream : ℕ) :
    Run (Next plainTcp ()) (.top held) (visit held stream) (.top (held + stream)) :=
  Run.cons (.accepted _ _ _) <| Run.cons (.setUp _ _ _ _ _) <|
    Run.cons (.connected _ _ _ _ _ _) <| Run.cons (.framed _ _ _ _ _) <|
      Run.cons (.started ⟨⟨0, 0⟩, (stream, ()), held + stream⟩) Run.nil

theorem visit_obeyed (held stream : ℕ) : ∀ e ∈ visit held stream, counting.Obeyed e := by
  simp [visit, acceptedSetUp, Setups.Obeyed, counting]
  exact ⟨rfl, rfl, rfl⟩

theorem turn_independent_counting :
    (outcomes (acceptedSetUp 0 5)).head? = (outcomes (acceptedSetUp (0 + 0) 5)).head? := by
  have hfirst : Run (Step plainTcp ()) (turn plainTcp () 0)
      ([] ++ ⟨.select, .accepted 5 ⟨0, 0⟩⟩ :: acceptedSetUp 0 5) _ := run_of_points (visit_run 0 5)
  have hsecond : Run (Step plainTcp ()) (turn plainTcp () 0)
      (visit 0 0 ++ ⟨.select, .accepted 5 ⟨0, 0⟩⟩ :: acceptedSetUp (0 + 0) 5) _ :=
    run_of_points ((visit_run 0 0).append (visit_run (0 + 0) 5))
  refine turn_independent hfirst hsecond (visit_obeyed 0 5) ?_ (by simp) ?_
    (by simp [outcomes, acceptedSetUp]) (by simp [outcomes, acceptedSetUp])
  · exact List.forall_mem_append.mpr ⟨visit_obeyed 0 0, visit_obeyed (0 + 0) 5⟩
  · simp [visit, acceptedSetUp, Keeps]

/-- The same client, accepted first and accepted after another one, gets different
holders. -/
theorem independence_fails : ∃ task₁ task₂,
    Run (Step plainTcp ()) (turn plainTcp () 0)
        ([] ++ ⟨.select, .accepted 5 ⟨0, 0⟩⟩ :: acceptedSetUp 0 5) task₁ ∧
      Run (Step plainTcp ()) (turn plainTcp () 0)
        (visit 0 1 ++ ⟨.select, .accepted 5 ⟨0, 0⟩⟩ :: acceptedSetUp 1 5) task₂ ∧
      (∀ e ∈ visit 0 5, counting.Obeyed e) ∧ (∀ e ∈ visit 0 1 ++ visit 1 5, counting.Obeyed e) ∧
      outcomes (acceptedSetUp 0 5) = [some ⟨⟨0, 0⟩, (5, ()), 5⟩] ∧
      outcomes (acceptedSetUp 1 5) = [some ⟨⟨0, 0⟩, (5, ()), 6⟩] ∧
      (outcomes (acceptedSetUp 0 5)).head? ≠ (outcomes (acceptedSetUp 1 5)).head? := by
  refine ⟨_, _, run_of_points (visit_run 0 5),
    run_of_points ((visit_run 0 1).append (visit_run 1 5)), visit_obeyed 0 5, ?_, rfl, rfl, ?_⟩
  · exact List.forall_mem_append.mpr ⟨visit_obeyed 0 1, visit_obeyed 1 5⟩
  · have hfirst : outcomes (acceptedSetUp 0 5) = [some ⟨⟨0, 0⟩, (5, ()), 5⟩] := rfl
    have hsecond : outcomes (acceptedSetUp 1 5) = [some ⟨⟨0, 0⟩, (5, ()), 6⟩] := rfl
    rw [hfirst, hsecond]
    simp

end Counting

end Acceptor

end FourthServer
