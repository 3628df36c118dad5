import FourthServer.Model.Reference
import FourthServer.Server.Holder

/-!
# Handing the stream over

A handler gets the sender of the connection's own channel and either gives it
back unused or not.  The loop looks at the channel after each attempt to send a
reply, and what it finds there decides how it goes on: `Decided` lists the four
outcomes together with everything that happens after them.  The invariant is
`Phase`: while the loop works on packets the sender is at home and every handler
so far has given it back; it can be away only between the outcome of a handler
and the look at the channel.
-/

namespace FourthServer

open Resumption Trace

/-- What a handler may do with the sender it is given. -/
inductive ServeOutcome.Permitted {A : App} (routeTx : Option Sender) : ServeOutcome A → Prop
  | unused (data : Except Bytes Bytes) : Permitted routeTx (.finished data routeTx none)
  | sent (data : Except Bytes Bytes) (value : Accept A) :
      Permitted routeTx (.finished data none (some value))
  | kept (data : Except Bytes Bytes) : Permitted routeTx (.finished data none none)
  | panicked (sent : Option (Accept A)) : Permitted routeTx (.panicked sent)
  | unwound : Permitted routeTx .unwound

namespace Connection

variable {A : App} {P : Type}

/-- Handlers treat their senders as permitted. -/
def handsOff (_ : List (ServerEvent A P)) : ServerEvent A P → Prop
  | ⟨.serve call, outcome⟩ => ServeOutcome.Permitted call.routeTx outcome
  | _ => True

/-! ## The stream -/

/-- The item an event takes off the stream. -/
@[simp] def item? : ServerEvent A P → Option (Except ErrorKind Bytes)
  | ⟨.next, some item⟩ => some item
  | _ => none

/-- The items taken off the stream. -/
def items (tr : List (ServerEvent A P)) : List (Except ErrorKind Bytes) := tr.filterMap item?

/-- A connection task and the items its stream has not yielded yet. -/
structure Attached (A : App) (P : Type) where
  task : ServerM A P (ConnectionState P ⊕ Unit)
  unread : List (Except ErrorKind Bytes)

/-- The steps of a connection task on its stream. -/
inductive Attached.Step (utils : Utils A) (router : TfServerRouter A) (addr : SocketAddr) :
    Attached A P → ServerEvent A P → Attached A P → Prop
  | step {s : Attached A P} {e : ServerEvent A P} {task : ServerM A P (ConnectionState P ⊕ Unit)}
      {unread : List (Except ErrorKind Bytes)}
      (step : Connection.Step utils router addr s.task e task)
      (yields : s.unread = (item? e).toList ++ unread) : Step utils router addr s e ⟨task, unread⟩

variable {utils : Utils A} {router : TfServerRouter A} {addr : SocketAddr}
  {tr : List (ServerEvent A P)} {pt next : Point A P} {e : ServerEvent A P}

theorem run_attached {s t : Attached A P} (run : Run (Attached.Step utils router addr) s tr t) :
    Run (Step utils router addr) s.task tr t.task ∧ s.unread = items tr ++ t.unread := by
  induction run with
  | nil => exact ⟨Run.nil, rfl⟩
  | snoc _ hstep ih =>
      obtain ⟨step, yields⟩ := hstep
      obtain ⟨hrun, hunread⟩ := ih
      refine ⟨hrun.snoc step, ?_⟩
      rw [hunread, yields, items, items, filterMap_snoc, List.append_assoc]

theorem attached_of_run {task final : ServerM A P (ConnectionState P ⊕ Unit)}
    (run : Run (Step utils router addr) task tr final) (unread : List (Except ErrorKind Bytes)) :
    Run (Attached.Step utils router addr) ⟨task, items tr ++ unread⟩ tr ⟨final, unread⟩ := by
  induction run generalizing unread with
  | nil => exact Run.nil
  | @snoc tr _ e _ _ step ih =>
      have hitems : items (tr ++ [e]) ++ unread = items tr ++ ((item? e).toList ++ unread) := by
        rw [items, filterMap_snoc, List.append_assoc, items]
      rw [hitems]
      exact (ih _).snoc (.step step rfl)

/-! ## What the look at the channel decides -/

/-- Some handler did not give the sender back. -/
def Withheld (tr : List (ServerEvent A P)) : Prop :=
  ∃ served ∈ serves tr, served.2.returnedTx = none

/-- The call of the `AcceptFn` found in the channel. -/
def acceptCall (addr : SocketAddr) (processor : P) (before : List (ServerEvent A P))
    (value : Accept A) : AcceptCall A P :=
  ⟨value.1, value.2, addr, Hooks.last processor (hooks before)⟩

/-- How the loop goes on after it has looked at the channel: given the result of
the send and what it found, everything that has happened since, and where it is
now. -/
inductive Decided (addr : SocketAddr) (processor : P) (before : List (ServerEvent A P)) :
    Except ErrorKind Unit → Option (Accept A) → List (ServerEvent A P) → Point A P → Prop
  | handing (res : Except ErrorKind Unit) (value : Accept A) :
      Decided addr processor before res (some value) []
        (.accepting (acceptCall addr processor before value))
  | handed (res : Except ErrorKind Unit) (value : Accept A) :
      Decided addr processor before res (some value)
        [⟨.accept (acceptCall addr processor before value), ()⟩] .returned
  | closing (res : Except ErrorKind Unit) (withheld : Withheld before) :
      Decided addr processor before res none [] .closing
  | closed (res : Except ErrorKind Unit) (withheld : Withheld before) :
      Decided addr processor before res none [⟨.close, ()⟩] .returned
  | failed (kind : ErrorKind) (home : ¬Withheld before) :
      Decided addr processor before (.error kind) none [] .returned
  | goesOn (home : ¬Withheld before) (rest : List (ServerEvent A P)) (pt : Point A P)
      (first : rest = [] → ∃ st, pt = .top st) :
      Decided addr processor before (.ok ()) none rest pt

/-- What the loop finds in the channel: a value that a handler has sent is found,
and what is found was sent by a handler that did not give the sender back, before
it came to its outcome or after it. -/
structure Found (before : List (ServerEvent A P)) (answer : Option (Accept A)) : Prop where
  sent : ∀ served ∈ serves before, ∀ value, served.2.sent = some value → answer = some value
  only : ∀ value, answer = some value →
    ∃ served ∈ serves before, served.2.sent = some value ∨ Kept served.2

/-- Every attempt to send a reply is followed by a look at the channel, and that
by what was decided there. -/
def Checked (addr : SocketAddr) (processor : P) (channel : ℕ) (tr : List (ServerEvent A P))
    (pt : Point A P) : Prop :=
  ∀ before wire res after, tr = before ++ ⟨.send wire, res⟩ :: after →
    (after = [] ∧ ∃ st, pt = .checking st res) ∨
    ∃ answer rest, after = ⟨.tryRecv channel, answer⟩ :: rest ∧ Found before answer ∧
      Decided addr processor before res answer rest pt

/-- A handler gets the sender of the connection's own channel. -/
def ownSender (channel : ℕ) (_ : List (ServerEvent A P)) : ServerEvent A P → Prop
  | ⟨.serve call, _⟩ => call.routeTx = some ⟨channel⟩
  | _ => True

/-- The loop reads on only with the sender at home and the channel empty. -/
def senderHome (before : List (ServerEvent A P)) : ServerEvent A P → Prop
  | ⟨.next, _⟩ =>
      ∀ served ∈ serves before, served.2.returnedTx = served.1.routeTx ∧ served.2.sent = none
  | _ => True

/-- An `AcceptFn` is called only when it was found in the channel. -/
def acceptsFound (channel : ℕ) (before : List (ServerEvent A P)) : ServerEvent A P → Prop
  | ⟨.accept call, _⟩ => ∃ earlier wire res,
      before = earlier ++ [⟨.send wire, res⟩, ⟨.tryRecv channel, some (call.accept, call.state)⟩]
  | _ => True

/-- The history of a loop that hands its stream over when asked to, and only
then. -/
structure HandsOver (addr : SocketAddr) (processor : P) (channel : ℕ)
    (tr : List (ServerEvent A P)) (pt : Point A P) : Prop where
  invoked : Along (ownSender channel) tr
  home : Along senderHome tr
  accepts : Along (acceptsFound channel) tr
  checked : Checked addr processor channel tr pt

/-! ## Where the sender is -/

/-- The sender is in the loop's variables, and nobody has used it. -/
structure AtHome (channel : ℕ) (tr : List (ServerEvent A P)) (st : ConnectionState P) : Prop where
  moveTx : st.moveTx = some ⟨channel⟩
  moveRx : st.moveRx = channel
  unused : ∀ served ∈ serves tr, served.1.routeTx = some ⟨channel⟩ ∧
    served.2.returnedTx = some ⟨channel⟩ ∧ served.2.sent = none

/-- The last handler called did not give the sender back. -/
structure Away (channel : ℕ) (tr : List (ServerEvent A P)) (st : ConnectionState P) : Prop where
  moveTx : st.moveTx = none
  moveRx : st.moveRx = channel
  last : ∃ earlier served, serves tr = earlier ++ [served] ∧
    served.1.routeTx = some ⟨channel⟩ ∧ served.2.returnedTx = none ∧
    ∀ other ∈ earlier, other.1.routeTx = some ⟨channel⟩ ∧
      other.2.returnedTx = some ⟨channel⟩ ∧ other.2.sent = none

/-- Where the sender is at each control point. -/
def Phase (channel : ℕ) (tr : List (ServerEvent A P)) : Point A P → Prop
  | .top st => AtHome channel tr st
  | .metaIn st _ => AtHome channel tr st
  | .payloadWait st _ => AtHome channel tr st
  | .payloadIn st _ _ => AtHome channel tr st
  | .calling st _ _ => AtHome channel tr st
  | .serving st call => AtHome channel tr st ∧ call.routeTx = some ⟨channel⟩
  | .replying st _ => AtHome channel tr st ∨ Away channel tr st
  | .sending st _ => AtHome channel tr st ∨ Away channel tr st
  | .checking st res => (AtHome channel tr st ∨ Away channel tr st) ∧
      ∃ before wire, tr = before ++ [⟨.send wire, res⟩]
  | .accepting call => ∃ before wire res,
      tr = before ++ [⟨.send wire, res⟩, ⟨.tryRecv channel, some (call.accept, call.state)⟩]
  | .closing => True
  | .returned => True
  | .unwound => True

variable {channel : ℕ} {st st' : ConnectionState P}

/-- An event that calls no handler, while the sender stays where it is. -/
theorem AtHome.step (h : AtHome channel tr st) (hserve : serve? e = none)
    (htx : st'.moveTx = st.moveTx) (hrx : st'.moveRx = st.moveRx) :
    AtHome channel (tr ++ [e]) st' := by
  refine ⟨htx.trans h.moveTx, hrx.trans h.moveRx, ?_⟩
  rw [serves_snoc, hserve, Option.toList_none, List.append_nil]
  exact h.unused

theorem Away.step (h : Away channel tr st) (hserve : serve? e = none)
    (htx : st'.moveTx = st.moveTx) (hrx : st'.moveRx = st.moveRx) :
    Away channel (tr ++ [e]) st' := by
  refine ⟨htx.trans h.moveTx, hrx.trans h.moveRx, ?_⟩
  rw [serves_snoc, hserve, Option.toList_none, List.append_nil]
  exact h.last

/-- A handler comes to an outcome it may come to. -/
theorem AtHome.serve {call : ServeCall A} {outcome : ServeOutcome A}
    (h : AtHome channel tr st) (hcall : call.routeTx = some ⟨channel⟩)
    (hpermitted : ServeOutcome.Permitted call.routeTx outcome) :
    AtHome channel (tr ++ [⟨.serve call, outcome⟩]) { st with moveTx := outcome.returnedTx } ∨
      Away channel (tr ++ [⟨.serve call, outcome⟩]) { st with moveTx := outcome.returnedTx } := by
  have haway (hreturned : outcome.returnedTx = none) :
      Away channel (tr ++ [⟨.serve call, outcome⟩]) { st with moveTx := outcome.returnedTx } :=
    ⟨hreturned, h.moveRx, serves tr, (call, outcome), by simp, hcall, hreturned, h.unused⟩
  cases hpermitted with
  | unused data =>
      refine .inl ⟨hcall, h.moveRx, ?_⟩
      intro served hserved
      rw [serves_snoc] at hserved
      rcases List.mem_append.mp hserved with hmem | hmem
      · exact h.unused served hmem
      · cases List.mem_singleton.mp hmem
        exact ⟨hcall, hcall, rfl⟩
  | sent data value => exact .inr (haway rfl)
  | kept data => exact .inr (haway rfl)
  | panicked sent => exact .inr (haway rfl)
  | unwound => exact .inr (haway rfl)

theorem AtHome.not_withheld (h : AtHome channel tr st) : ¬Withheld tr := by
  rintro ⟨served, hmem, hreturned⟩
  rw [(h.unused served hmem).2.1] at hreturned
  cases hreturned

theorem Away.withheld (h : Away channel tr st) : Withheld tr := by
  obtain ⟨earlier, served, hserves, -, hreturned, -⟩ := h.last
  exact ⟨served, by simp [hserves], hreturned⟩

theorem AtHome.own (h : AtHome channel tr st) :
    ∀ served ∈ serves tr, served.1.routeTx = some ⟨channel⟩ :=
  fun served hmem => (h.unused served hmem).1

theorem Away.own (h : Away channel tr st) :
    ∀ served ∈ serves tr, served.1.routeTx = some ⟨channel⟩ := by
  obtain ⟨earlier, last, hserves, hlast, -, hearlier⟩ := h.last
  rw [hserves]
  intro served hmem
  rcases List.mem_append.mp hmem with hmem | hmem
  · exact (hearlier served hmem).1
  · exact List.mem_singleton.mp hmem ▸ hlast

theorem moveRx_eq (h : AtHome channel tr st ∨ Away channel tr st) : st.moveRx = channel := by
  rcases h with hhome | haway
  · exact hhome.moveRx
  · exact haway.moveRx

theorem own_of_sender (h : AtHome channel tr st ∨ Away channel tr st) :
    ∀ served ∈ serves tr, served.1.routeTx = some ⟨channel⟩ := by
  rcases h with hhome | haway
  · exact hhome.own
  · exact haway.own

/-- With the sender away, only the last handler can have used it. -/
theorem Away.eq_last (h : Away channel tr st) : ∃ last ∈ serves tr, ∀ served ∈ serves tr,
    (served.2.sent ≠ none ∨ Kept served.2) → served = last := by
  obtain ⟨earlier, last, hserves, -, -, hearlier⟩ := h.last
  refine ⟨last, by simp [hserves], ?_⟩
  rw [hserves]
  intro served hmem hused
  rcases List.mem_append.mp hmem with hmem | hmem
  · obtain ⟨-, hreturned, hsent⟩ := hearlier served hmem
    rcases hused with hused | hkept
    · exact absurd hsent hused
    · rw [hkept.1] at hreturned
      cases hreturned
  · exact List.mem_singleton.mp hmem

/-- Under the law of the channel, what a look at it finds is what was sent. -/
theorem found_of_oneshotLaw {answer : Option (Accept A)}
    (h : AtHome channel tr st ∨ Away channel tr st)
    (hlaw : oneshotLaw tr ⟨.tryRecv channel, answer⟩) : Found tr answer := by
  cases answer with
  | none =>
      refine ⟨fun served hmem value hsent => ?_, fun value hvalue => nomatch hvalue⟩
      rw [hlaw served hmem (own_of_sender h served hmem)] at hsent
      cases hsent
  | some found =>
      obtain ⟨user, hmem, -, hused⟩ := hlaw
      refine ⟨fun served hserved value hsent => ?_, ?_⟩
      · rcases h with hhome | haway
        · rw [(hhome.unused served hserved).2.2] at hsent
          cases hsent
        · -- only the last handler can have used the sender
          obtain ⟨last, -, hlast⟩ := haway.eq_last
          have huser : user = last := by
            refine hlast user hmem ?_
            rcases hused with hsame | hkept
            · exact .inl (by simp [hsame])
            · exact .inr hkept
          have hserved : served = user :=
            (hlast served hserved (.inl (by simp [hsent]))).trans huser.symm
          subst hserved
          rcases hused with hsame | hkept
          · exact hsame.symm.trans hsent
          · rw [hkept.2] at hsent
            cases hsent
      · intro value hvalue
        cases hvalue
        exact ⟨user, hmem, hused⟩

/-! ## Steps and runs -/

theorem phase_afterServed {served : TfServerRouter.Served}
    (h : AtHome channel tr { st with moveTx := served.2 } ∨
      Away channel tr { st with moveTx := served.2 }) :
    Phase channel tr (afterServed utils st served) := by
  unfold afterServed
  cases replyMessage utils served.1 with
  | none => trivial
  | some message => exact h

theorem next_phase (h : Phase channel tr pt) (hnext : Next utils router addr pt e next)
    (hhands : handsOff tr e) : Phase channel (tr ++ [e]) next := by
  cases hnext with
  | metaFrame | metaError | announced | alone | payloadFrame | payloadError | payloadRead =>
      exact AtHome.step h rfl rfl rfl
  | called st metaData payload =>
      have hhome : AtHome channel (tr ++ [⟨.servePacket metaData payload, ()⟩]) st :=
        AtHome.step h rfl rfl rfl
      cases hdispatch : router.dispatch utils metaData payload addr st.moveTx with
      | answered res => exact phase_afterServed (.inl hhome)
      | handled call =>
          have hcall := (TfServerRouter.dispatch_handled hdispatch).1
          exact ⟨hhome, hcall.trans hhome.moveTx⟩
      | unwound => trivial
  | served st call outcome =>
      obtain ⟨hhome, hcall⟩ := h
      have hafter := hhome.serve hcall hhands
      unfold afterOutcome
      cases outcome with
      | unwound => trivial
      | panicked sent => exact phase_afterServed hafter
      | finished data routeTx sent => cases data <;> exact phase_afterServed hafter
  | processed st message processor wire =>
      rcases h with hhome | haway
      · exact .inl (hhome.step rfl rfl rfl)
      · exact .inr (haway.step rfl rfl rfl)
  | sent st wire res =>
      refine ⟨?_, tr, wire, rfl⟩
      have hserve : serve? (⟨.send wire, res⟩ : ServerEvent A P) = none := rfl
      rcases h with hhome | haway
      · exact .inl (hhome.step hserve rfl rfl)
      · exact .inr (haway.step hserve rfl rfl)
  | handedOver st res value =>
      obtain ⟨hsender, before, wire, rfl⟩ := h
      cases moveRx_eq hsender
      exact ⟨before, wire, res, by simp⟩
  | again st kept =>
      obtain ⟨hhome | haway, -⟩ := h
      · exact hhome.step rfl rfl rfl
      · -- without its sender the loop does not go on
        rw [haway.moveTx] at kept
        cases kept
  | metaGone | metaEnd | payloadGone | payloadEnd | senderGone | sendFailed | accepted | closed =>
      trivial

/-- The look at the channel decides how the loop goes on. -/
theorem next_decided {processor : P} {st : ConnectionState P} {res : Except ErrorKind Unit}
    {before : List (ServerEvent A P)} {wire : Bytes}
    (hphase : Phase channel (before ++ [⟨.send wire, res⟩]) (.checking st res))
    (hcarried : Carried processor (before ++ [⟨.send wire, res⟩]) (.checking (A := A) st res))
    (hnext : Next utils router addr (.checking st res) e next)
    (honeshot : oneshotLaw (before ++ [⟨.send wire, res⟩]) e) :
    ∃ answer, e = ⟨.tryRecv channel, answer⟩ ∧ Found before answer ∧
      Decided addr processor before res answer [] next := by
  have hsend : serve? (⟨.send wire, res⟩ : ServerEvent A P) = none := rfl
  have hserves : serves (before ++ [⟨.send wire, res⟩]) = serves before := by
    rw [serves_snoc, hsend, Option.toList_none, List.append_nil]
  have hholder : st.processor = Hooks.last processor (hooks before) := by
    have hcurrent := hcarried.current st.processor rfl
    have hhook : hook? (⟨.send wire, res⟩ : ServerEvent A P) = none := rfl
    rwa [hooks_snoc, hhook, Option.toList_none, List.append_nil] at hcurrent
  have hsender := hphase.1
  cases moveRx_eq hsender
  -- the send has served nothing, so the look finds what was there before it
  have hfound {answer : Option (Accept A)}
      (hlaw : oneshotLaw (before ++ [⟨.send wire, res⟩]) ⟨.tryRecv st.moveRx, answer⟩) :
      Found before answer := by
    have := found_of_oneshotLaw hsender hlaw
    exact ⟨hserves ▸ this.sent, hserves ▸ this.only⟩
  have hhome (kept : st.moveTx.isSome) : ¬Withheld before := by
    rcases hsender with hhome | haway
    · unfold Withheld
      rw [← hserves]
      exact hhome.not_withheld
    · rw [haway.moveTx] at kept
      cases kept
  cases hnext with
  | handedOver st res value =>
      refine ⟨some value, rfl, hfound honeshot, ?_⟩
      rw [hholder]
      exact .handing res value
  | senderGone st res gone =>
      refine ⟨none, rfl, hfound honeshot, .closing res ?_⟩
      rcases hsender with hhome | haway
      · rw [hhome.moveTx] at gone
        cases gone
      · unfold Withheld
        rw [← hserves]
        exact haway.withheld
  | sendFailed st kind kept => exact ⟨none, rfl, hfound honeshot, .failed kind (hhome kept)⟩
  | again st kept =>
      exact ⟨none, rfl, hfound honeshot, .goesOn (hhome kept) [] _ fun _ => ⟨st, rfl⟩⟩

/-- What was decided stays decided. -/
theorem Decided.step {processor : P} {before rest : List (ServerEvent A P)}
    {res : Except ErrorKind Unit} {answer : Option (Accept A)}
    (h : Decided addr processor before res answer rest pt)
    (hnext : Next utils router addr pt e next) :
    Decided addr processor before res answer (rest ++ [e]) next := by
  cases h with
  | handing res value =>
      cases hnext
      exact .handed res value
  | handed res value => cases hnext
  | closing res withheld =>
      cases hnext
      exact .closed res withheld
  | closed res withheld => cases hnext
  | failed kind home => cases hnext
  | goesOn home rest pt first =>
      refine .goesOn home _ next fun hnil => ?_
      simp at hnil

theorem next_checked {processor : P} (hphase : Phase channel tr pt)
    (hcarried : Carried processor tr pt) (h : Checked addr processor channel tr pt)
    (hnext : Next utils router addr pt e next) (honeshot : oneshotLaw tr e) :
    Checked addr processor channel (tr ++ [e]) next := by
  intro before wire res after hsplit
  rcases snoc_split hsplit with ⟨rfl, hlast, rfl⟩ | ⟨rest, rfl, rfl⟩
  · cases hlast
    cases hnext with
    | sent st => exact .inl ⟨rfl, st, rfl⟩
  · rcases h before wire res rest rfl with ⟨rfl, st, rfl⟩ | ⟨answer, rest, rfl, hfound, hdecided⟩
    · obtain ⟨answer, rfl, hfound, hdecided⟩ := next_decided hphase hcarried hnext honeshot
      exact .inr ⟨answer, [], rfl, hfound, hdecided⟩
    · exact .inr ⟨answer, rest ++ [e], rfl, hfound, hdecided.step hnext⟩

theorem next_ownSender (h : Phase channel tr pt) (hnext : Next utils router addr pt e next) :
    ownSender channel tr e := by
  cases hnext with
  | served => exact h.2
  | _ => trivial

theorem next_senderHome (h : Phase channel tr pt) (hnext : Next utils router addr pt e next) :
    senderHome tr e := by
  have hunused {st : ConnectionState P} (hhome : AtHome channel tr st) :
      ∀ served ∈ serves tr, served.2.returnedTx = served.1.routeTx ∧ served.2.sent = none := by
    intro served hmem
    obtain ⟨hown, hreturned, hsent⟩ := hhome.unused served hmem
    exact ⟨hreturned.trans hown.symm, hsent⟩
  cases hnext with
  | metaFrame | metaGone | metaError | metaEnd | payloadFrame | payloadGone | payloadError
  | payloadEnd => exact hunused h
  | _ => trivial

theorem next_acceptsFound (h : Phase channel tr pt) (hnext : Next utils router addr pt e next) :
    acceptsFound channel tr e := by
  cases hnext with
  | accepted => exact h
  | _ => trivial

/-- The invariant of a run whose handlers and channel keep to their laws. -/
theorem run_phase {processor : P} (run : Run (Next utils router addr)
      (.top (initial processor channel)) tr pt)
    (hhands : Along handsOff tr) (honeshot : Along oneshotLaw tr) :
    Phase channel tr pt ∧ HandsOver addr processor channel tr pt := by
  induction run with
  | nil =>
      have hhome : AtHome channel ([] : List (ServerEvent A P)) (initial processor channel) :=
        ⟨rfl, rfl, by simp⟩
      exact ⟨hhome, along_nil, along_nil, along_nil, fun before wire res after h => by simp at h⟩
  | snoc hrun hnext ih =>
      obtain ⟨hbefore, hlast⟩ := along_snoc.mp hhands
      obtain ⟨hchannel, hanswer⟩ := along_snoc.mp honeshot
      obtain ⟨hphase, hown, hhome, haccepts, hchecked⟩ := ih hbefore hchannel
      have hcarried := run_carried hrun
      exact ⟨next_phase hphase hnext hlast,
        along_snoc.mpr ⟨hown, next_ownSender hphase hnext⟩,
        along_snoc.mpr ⟨hhome, next_senderHome hphase hnext⟩,
        along_snoc.mpr ⟨haccepts, next_acceptsFound hphase hnext⟩,
        next_checked hphase hcarried hchecked hnext hanswer⟩

/-- **Handing the stream over.**  Every handler is given the sender of the
connection's own channel.  After each attempt to send a reply the loop looks at
the channel: what it finds there is called once, with the holder as it then is
and the stream with all items not yet taken, and the loop has ended; else a
sender that did not come back closes the stream and ends the loop; else the
loop goes on, unless the send had failed. -/
theorem handleConnection_handsOver {processor : P} {incoming : List (Except ErrorKind Bytes)}
    {final : Attached A P}
    (run : Run (Attached.Step utils router addr)
      ⟨handleConnection utils router addr processor channel, incoming⟩ tr final)
    (hhands : Along handsOff tr) (honeshot : Along oneshotLaw tr) :
    incoming = items tr ++ final.unread ∧
      ∃ pt : Point A P, final.task = pt.task utils router addr ∧
        HandsOver addr processor channel tr pt := by
  obtain ⟨hrun, hunread⟩ := run_attached run
  obtain ⟨pt, hpoints, htask⟩ := run_points hrun
  exact ⟨hunread, pt, htask, (run_phase hpoints hhands honeshot).2⟩

/-- A handler asks for the stream in its one round, and gets it. -/
def handoffRound : List (ServerEvent Reference.app Unit) :=
  [⟨.next, some (.ok Reference.echoFrame)⟩,
    ⟨.preProcess () Reference.echoFrame, ((), Reference.echoFrame)⟩,
    ⟨.servePacket Reference.echoFrame [], ()⟩,
    ⟨.serve Reference.echoCall, .finished (.ok [7]) none (some ((5 : ℕ), (0 : ℕ)))⟩,
    ⟨.postProcess () [7], ((), [7])⟩, ⟨.send [7], .error .brokenPipe⟩,
    ⟨.tryRecv 0, some ((5 : ℕ), (0 : ℕ))⟩,
    ⟨.accept ⟨(5 : ℕ), (0 : ℕ), ⟨0, 0⟩, ()⟩, ()⟩]

theorem handoffRound_run : Run (Next Reference.utils Reference.router ⟨0, 0⟩)
    (.top (initial () 0)) handoffRound .returned :=
  Run.cons (.metaFrame _ _) <| Run.cons (.alone _ _ _ _ rfl) <| Run.cons (.called _ _ _) <|
    Run.cons (.served _ Reference.echoCall _) <| Run.cons (.processed _ _ _ _) <|
    Run.cons (.sent _ _ _) <| Run.cons (.handedOver _ _ _) <| Run.cons (.accepted _) Run.nil

theorem handleConnection_handsOver_handoffRound :
    items handoffRound ++ [.ok [1]] = items handoffRound ++ [.ok [1]] ∧
      ∃ pt : Point Reference.app Unit,
        Point.returned.task Reference.utils Reference.router ⟨0, 0⟩ =
          pt.task Reference.utils Reference.router ⟨0, 0⟩ ∧
        HandsOver ⟨0, 0⟩ () 0 handoffRound pt := by
  refine handleConnection_handsOver (attached_of_run (run_of_points handoffRound_run) [.ok [1]])
    ?_ ?_
  · simp only [handoffRound, along_cons, along_nil]
    simp [handsOff, ServeOutcome.Permitted.sent]
  · simp only [handoffRound, along_cons, along_nil]
    simp [oneshotLaw, serves, Reference.echoCall, ServeOutcome.sent]

end Connection

end FourthServer
