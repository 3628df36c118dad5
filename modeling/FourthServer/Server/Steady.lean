import FourthServer.Server.Discipline
import FourthServer.Server.Handoff

/-!
# A connection nobody disturbs

When no send and no decoding fails and every handler gives its sender back, the
connection loop ends only because its client has closed the stream
(`run_staysOpen`), and until then it can always go on unless it waits for a
frame (`enabled`).
-/

namespace FourthServer

open Resumption Trace

namespace Connection

open TfServerRouter

variable {A : App} {P : Type}

/-- No send fails, no frame fails to decode, and handlers give back the sender
they got. -/
def quietLaw (before : List (ServerEvent A P)) (e : ServerEvent A P) : Prop :=
  steady e ∧ returnsSender before e ∧ oneshotLaw before e
where
  /-- The part of the law that is about the stream. -/
  steady : ServerEvent A P → Prop
    | ⟨.next, some (.error _)⟩ => False
    | ⟨.send _, res⟩ => res = .ok ()
    | _ => True

/-- The loop has ended only if the stream had. -/
def StaysOpen (tr : List (ServerEvent A P)) : Point A P → Prop
  | .accepting _ => False
  | .closing => none ∈ polls tr
  | .returned => none ∈ polls tr
  | .unwound => False
  | _ => True

variable {utils : Utils A} {router : TfServerRouter A} {addr : SocketAddr}
  {tr : List (ServerEvent A P)} {pt next : Point A P} {e : ServerEvent A P} {channel : ℕ}

theorem framedLaw_of_steady (h : ∀ e ∈ tr, quietLaw.steady e) : Along framedLaw tr := by
  refine framedLaw_of_no_error fun kind hmem => ?_
  obtain ⟨e, he, hpoll⟩ := List.mem_filterMap.mp hmem
  obtain ⟨op, answer⟩ := e
  cases op with
  | next =>
      cases hpoll
      exact h _ he
  | _ => cases hpoll

theorem steady_of_quietLaw (h : Along quietLaw tr) : ∀ e ∈ tr, quietLaw.steady e := by
  intro e hmem
  obtain ⟨before, after, rfl⟩ := List.append_of_mem hmem
  exact (h before e after rfl).1

theorem framedLaw_of_quietLaw (h : Along quietLaw tr) : Along framedLaw tr :=
  framedLaw_of_steady (steady_of_quietLaw h)

theorem handsOff_of_quietLaw (h : Along quietLaw tr) : Along handsOff tr := by
  refine h.mono fun before e hlaw => ?_
  obtain ⟨op, answer⟩ := e
  cases op with
  | serve call =>
      obtain ⟨data, rfl⟩ := hlaw.2.1
      exact .unused data
  | _ => trivial

/-- Every handler so far gave back the sender it got, unused. -/
theorem returned_of_quietLaw (h : Along quietLaw tr) :
    ∀ served ∈ serves tr, ∃ data, served.2 = .finished data served.1.routeTx none := by
  intro served hmem
  obtain ⟨e, he, hserve⟩ := List.mem_filterMap.mp hmem
  obtain ⟨before, after, rfl⟩ := List.append_of_mem he
  obtain ⟨op, answer⟩ := e
  cases op with
  | serve call =>
      cases hserve
      exact (h before _ after rfl).2.1
  | _ => cases hserve

/-- No handler has sent anything that `try_recv` could yield. -/
theorem eq_none_of_quietLaw {answer : Option (Accept A)} (hbefore : Along quietLaw tr)
    (hquiet : quietLaw tr ⟨.tryRecv channel, answer⟩) : answer = none := by
  cases answer with
  | none => rfl
  | some value =>
      obtain ⟨served, hmem, hchannel, hused⟩ := hquiet.2.2
      obtain ⟨data, hdata⟩ := returned_of_quietLaw hbefore served hmem
      rw [hdata, hchannel] at hused
      rcases hused with hsent | ⟨hkept, -⟩
      · cases hsent
      · cases hkept

theorem not_away {st : ConnectionState P}
    (hreturned : ∀ served ∈ serves tr, ∃ data, served.2 = .finished data served.1.routeTx none) :
    ¬Away channel tr st := by
  intro haway
  obtain ⟨earlier, served, hserves, hown, hnone, -⟩ := haway.last
  obtain ⟨data, hdata⟩ := hreturned served (by simp [hserves])
  rw [hdata] at hnone
  exact absurd (hown.symm.trans hnone) (by simp)

theorem staysOpen_afterServed (htotal : utils.Total) (st : ConnectionState P) (served : Served) :
    StaysOpen tr (afterServed (A := A) utils st served) := by
  unfold afterServed
  cases h : replyMessage utils served.1 with
  | none => exact absurd h (replyMessage_ne_none htotal _)
  | some message => trivial

theorem next_staysOpen (htotal : utils.Total) (hphase : Phase channel tr pt)
    (hbefore : Along quietLaw tr) (h : StaysOpen tr pt) (hnext : Next utils router addr pt e next)
    (hreads : ∀ packet ∈ (call? e).toList, ReadsMeta utils router packet.1)
    (hquiet : quietLaw tr e) : StaysOpen (tr ++ [e]) next := by
  obtain ⟨hsteady, hreturns, honeshot⟩ := hquiet
  cases hnext with
  | metaGone | metaError | payloadGone | payloadError => exact hsteady.elim
  | metaEnd | payloadEnd => simp [StaysOpen]
  | called st metaData payload =>
      cases hdispatch : router.dispatch utils metaData payload addr st.moveTx with
      | answered res => exact staysOpen_afterServed htotal st _
      | handled call => trivial
      | unwound =>
          have hmeta : ReadsMeta utils router metaData :=
            hreads (metaData, payload) (List.mem_singleton_self _)
          exact absurd hdispatch (dispatch_ne_unwound htotal hmeta _ _)
  | served st call outcome =>
      obtain ⟨data, rfl⟩ := hreturns
      unfold afterOutcome
      cases data <;> exact staysOpen_afterServed htotal st _
  | handedOver st res value =>
      obtain ⟨served, hmem, -, hused⟩ := honeshot
      obtain ⟨data, hdata⟩ := returned_of_quietLaw hbefore served hmem
      have hown := own_of_sender hphase.1 served hmem
      rw [hdata] at hused
      rcases hused with hsent | ⟨hkept, -⟩
      · cases hsent
      · exact absurd (hown.symm.trans hkept) (by simp)
  | senderGone st res gone =>
      rcases hphase.1 with hhome | haway
      · rw [hhome.moveTx] at gone
        cases gone
      · exact absurd haway (not_away (returned_of_quietLaw hbefore))
  | sendFailed st kind kept =>
      obtain ⟨-, before, wire, rfl⟩ := hphase
      cases (along_snoc.mp hbefore).2.1
  | accepted => exact h.elim
  | closed => simpa [StaysOpen] using h
  | _ => trivial

theorem run_staysOpen (htotal : utils.Total) {processor : P}
    (run : Run (Next utils router addr) (.top (initial processor channel)) tr pt)
    (hreads : ∀ packet ∈ calls tr, ReadsMeta utils router packet.1)
    (hlaw : Along quietLaw tr) : Phase channel tr pt ∧ StaysOpen tr pt := by
  have hphase {tr : List (ServerEvent A P)} {pt : Point A P}
      (run : Run (Next utils router addr) (.top (initial processor channel)) tr pt)
      (hlaw : Along quietLaw tr) : Phase channel tr pt :=
    (run_phase run (handsOff_of_quietLaw hlaw) (hlaw.mono fun _ _ h => h.2.2)).1
  refine ⟨hphase run hlaw, ?_⟩
  induction run with
  | nil => trivial
  | snoc hrun hnext ih =>
      obtain ⟨hbefore, hlast⟩ := along_snoc.mp hlaw
      rw [calls_snoc, List.forall_mem_append] at hreads
      exact next_staysOpen htotal (hphase hrun hbefore) hbefore (ih hreads.1 hbefore) hnext hreads.2
        hlast

/-- Nothing goes wrong at the event, whatever was before it. -/
def Uneventful : ServerEvent A P → Prop
  | ⟨.next, some (.error _)⟩ => False
  | ⟨.send _, res⟩ => res = .ok ()
  | ⟨.serve call, outcome⟩ => ∃ data, outcome = .finished data call.routeTx none
  | ⟨.tryRecv _, answer⟩ => answer = none
  | _ => True

theorem quietLaw_of_uneventful (h : ∀ e ∈ tr, Uneventful e) : Along quietLaw tr := by
  rintro before ⟨op, answer⟩ after hsplit
  have he : Uneventful ⟨op, answer⟩ := h ⟨op, answer⟩ (by simp [hsplit])
  cases op with
  | next =>
      match answer with
      | some (.error kind) => exact he.elim
      | some (.ok frame) => exact ⟨trivial, trivial, trivial⟩
      | none => exact ⟨trivial, trivial, trivial⟩
  | send wire => exact ⟨he, trivial, trivial⟩
  | serve call => exact ⟨trivial, he, trivial⟩
  | tryRecv channel =>
      obtain rfl : answer = none := he
      refine ⟨trivial, trivial, fun served hmem _ => ?_⟩
      obtain ⟨⟨op, outcome⟩, hbefore, hserve⟩ := List.mem_filterMap.mp hmem
      have hearlier : Uneventful ⟨op, outcome⟩ := h _ (by simp [hsplit, hbefore])
      cases op with
      | serve call =>
          cases hserve
          obtain ⟨data, rfl⟩ := hearlier
          rfl
      | _ => cases hserve
  | _ => exact ⟨trivial, trivial, trivial⟩

/-! ## The length of a history -/

/-- How many more events the packet that is being worked on can take. -/
def Point.ahead : Point A P → ℕ
  | .top _ => 9
  | .metaIn _ _ => 8
  | .payloadWait _ _ => 7
  | .payloadIn _ _ _ => 6
  | .calling _ _ _ => 5
  | .serving _ _ => 13
  | .replying _ _ => 12
  | .sending _ _ => 11
  | .checking _ _ => 10
  | .accepting _ => 1
  | .closing => 1
  | .returned => 0
  | .unwound => 0

theorem ahead_afterServed (utils : Utils A) (st : ConnectionState P) (served : Served) :
    (afterServed (A := A) utils st served).ahead ≤ 12 := by
  unfold afterServed
  cases replyMessage utils served.1 <;> simp [Point.ahead]

theorem ahead_afterDispatch (utils : Utils A) (st : ConnectionState P) (dispatched : Dispatch A) :
    (afterDispatch utils st dispatched).ahead ≤ 13 := by
  cases dispatched with
  | answered res => exact (ahead_afterServed utils st _).trans (by omega)
  | handled call => exact le_refl 13
  | unwound => exact Nat.zero_le 13

theorem ahead_afterOutcome (utils : Utils A) (st : ConnectionState P) (outcome : ServeOutcome A) :
    (afterOutcome utils st outcome).ahead ≤ 12 := by
  unfold afterOutcome
  cases outcomeServed outcome with
  | none => exact Nat.zero_le 12
  | some served => exact ahead_afterServed utils st served

/-- A packet takes no more than nine events. -/
theorem run_length {st : ConnectionState P} (run : Run (Next utils router addr) (.top st) tr pt)
    (hlaw : Along quietLaw tr) : tr.length + pt.ahead ≤ 9 * (calls tr).length + 9 := by
  refine run.invariant_along
    (I := fun tr pt => tr.length + pt.ahead ≤ 9 * (calls tr).length + 9) (by simp [Point.ahead]) ?_
    hlaw
  intro tr pt e next h hnext hquiet
  rw [List.length_append, List.length_singleton, calls_snoc, List.length_append]
  cases hnext with
  | metaError | payloadError => exact hquiet.1.elim
  | called st metaData payload =>
      have hafter := ahead_afterDispatch utils st
        (router.dispatch utils metaData payload addr st.moveTx)
      have hone :
          (call? (⟨.servePacket metaData payload, ()⟩ : ServerEvent A P)).toList.length = 1 := rfl
      have hcalling : (Point.calling st metaData payload : Point A P).ahead = 5 := rfl
      omega
  | served st call outcome =>
      have hafter := ahead_afterOutcome utils st outcome
      have hserving : (Point.serving st call : Point A P).ahead = 13 := rfl
      omega
  | _ =>
      simp only [Point.ahead] at h ⊢
      omega

/-! ## Going on -/

/-- The loop waits for a frame. -/
def Polling : Point A P → Prop
  | .top _ => True
  | .payloadWait _ _ => True
  | _ => False

variable {Snd Rcv : Type}

/-- The calls of traffic hooks give back what the transformers say. -/
def obeys (T : Hooks.Pair Snd Rcv Bytes) (e : ServerEvent A (Snd × Rcv)) : Prop :=
  ∀ call, hook? e = some call → T.Obeyed call

theorem obeys_of_unhooked (T : Hooks.Pair Snd Rcv Bytes) {e : ServerEvent A (Snd × Rcv)}
    (h : hook? e = none) : obeys T e := by
  intro call hcall
  rw [h] at hcall
  cases hcall

variable (utils router addr) in
/-- Until it has ended, the loop can go on unless it waits for a frame, whatever
the handlers answer. -/
theorem enabled (T : Hooks.Pair Snd Rcv Bytes) (answer : ServeCall A → Except Bytes Bytes)
    {tr : List (ServerEvent A (Snd × Rcv))} {pt : Point A (Snd × Rcv)}
    (hbefore : Along quietLaw tr) (hpolling : ¬Polling pt) (hreturned : pt ≠ .returned)
    (hunwound : pt ≠ .unwound) :
    ∃ e next, Next utils router addr pt e next ∧ quietLaw tr e ∧ obeys T e ∧ poll? e = none ∧
      ∀ call outcome, serve? e = some (call, outcome) →
        outcome = .finished (answer call) call.routeTx none := by
  have hunsent (channel : ℕ) : quietLaw tr ⟨.tryRecv channel, none⟩ := by
    refine ⟨trivial, trivial, fun served hmem _ => ?_⟩
    obtain ⟨data, hdata⟩ := returned_of_quietLaw hbefore served hmem
    rw [hdata]
    rfl
  cases pt with
  | top st => exact absurd trivial hpolling
  | payloadWait st metaData => exact absurd trivial hpolling
  | metaIn st raw =>
      cases hmore : hasPayload utils (T.answer false st.processor raw).2 with
      | true =>
          refine ⟨_, _, .announced st raw (T.answer false st.processor raw).1 _ hmore,
            ⟨trivial, trivial, trivial⟩, ?_, rfl, nofun⟩
          rintro call ⟨⟩
          rfl
      | false =>
          refine ⟨_, _, .alone st raw (T.answer false st.processor raw).1 _ hmore,
            ⟨trivial, trivial, trivial⟩, ?_, rfl, nofun⟩
          rintro call ⟨⟩
          rfl
  | payloadIn st metaData raw =>
      refine ⟨_, _, .payloadRead st metaData raw (T.answer false st.processor raw).1
        (T.answer false st.processor raw).2, ⟨trivial, trivial, trivial⟩, ?_, rfl, nofun⟩
      rintro call ⟨⟩
      rfl
  | calling st metaData payload =>
      exact ⟨_, _, .called st metaData payload, ⟨trivial, trivial, trivial⟩,
        obeys_of_unhooked T rfl, rfl, nofun⟩
  | serving st call =>
      refine ⟨_, _, .served st call (.finished (answer call) call.routeTx none),
        ⟨trivial, ⟨answer call, rfl⟩, trivial⟩, obeys_of_unhooked T rfl, rfl, ?_⟩
      rintro _ _ ⟨⟩
      rfl
  | replying st message =>
      refine ⟨_, _, .processed st message (T.answer true st.processor message).1
        (T.answer true st.processor message).2, ⟨trivial, trivial, trivial⟩, ?_, rfl, nofun⟩
      rintro call ⟨⟩
      rfl
  | sending st wire =>
      exact ⟨_, _, .sent st wire (.ok ()), ⟨rfl, trivial, trivial⟩, obeys_of_unhooked T rfl, rfl,
        nofun⟩
  | checking st res =>
      cases htx : st.moveTx with
      | none => exact ⟨_, _, .senderGone st res htx, hunsent _, obeys_of_unhooked T rfl, rfl, nofun⟩
      | some tx =>
          have hkept : st.moveTx.isSome := by simp [htx]
          cases res with
          | error kind =>
              exact ⟨_, _, .sendFailed st kind hkept, hunsent _, obeys_of_unhooked T rfl, rfl,
                nofun⟩
          | ok _ => exact ⟨_, _, .again st hkept, hunsent _, obeys_of_unhooked T rfl, rfl, nofun⟩
  | accepting call =>
      exact ⟨_, _, .accepted call, ⟨trivial, trivial, trivial⟩, obeys_of_unhooked T rfl, rfl, nofun⟩
  | closing =>
      exact ⟨_, _, .closed, ⟨trivial, trivial, trivial⟩, obeys_of_unhooked T rfl, rfl, nofun⟩
  | returned => exact absurd rfl hreturned
  | unwound => exact absurd rfl hunwound

end Connection

end FourthServer
