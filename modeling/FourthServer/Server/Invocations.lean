import FourthServer.Server.Handoff

/-!
# The calls of the handlers

Which handlers a connection calls depends on the packets it has passed to the router
alone: the calls that have come to an outcome are those that the packets ask for, in
the order of the packets, except for one that is under way (`run_invoked`).
-/

namespace FourthServer

open Resumption Trace

namespace Connection

open TfServerRouter

variable {A : App} {P : Type}

/-- The call of a handler that a packet asks for. -/
def asked? (utils : Utils A) (router : TfServerRouter A) (addr : SocketAddr) (channel : ℕ)
    (packet : Bytes × Bytes) : Option (ServeCall A) :=
  match router.dispatch utils packet.1 packet.2 addr (some ⟨channel⟩) with
  | .answered _ => none
  | .handled call => some call
  | .unwound => none

def asked (utils : Utils A) (router : TfServerRouter A) (addr : SocketAddr) (channel : ℕ)
    (packets : List (Bytes × Bytes)) : List (ServeCall A) :=
  packets.filterMap (asked? utils router addr channel)

/-- The calls of handlers that have come to an outcome. -/
def invoked (tr : List (ServerEvent A P)) : List (ServeCall A) := (serves tr).map Prod.fst

/-- The call that is under way. -/
def Point.invoking : Point A P → List (ServeCall A)
  | .serving _ call => [call]
  | _ => []

variable {utils : Utils A} {router : TfServerRouter A} {addr : SocketAddr} {channel : ℕ}
  {tr : List (ServerEvent A P)} {pt next : Point A P} {e : ServerEvent A P}

@[simp] theorem asked_snoc (packets : List (Bytes × Bytes)) (packet : Bytes × Bytes) :
    asked utils router addr channel (packets ++ [packet]) =
      asked utils router addr channel packets ++ (asked? utils router addr channel packet).toList :=
  filterMap_snoc _ packets packet

theorem asked_mono {first second : List (Bytes × Bytes)} (h : first <+: second) :
    asked utils router addr channel first <+: asked utils router addr channel second :=
  h.filterMap _

@[simp] theorem invoked_snoc (tr : List (ServerEvent A P)) (e : ServerEvent A P) :
    invoked (tr ++ [e]) = invoked tr ++ ((serve? e).map Prod.fst).toList := by
  rw [invoked, serves_snoc, List.map_append, Option.toList_map]
  rfl

theorem invoking_afterServed (st : ConnectionState P) (served : Served) :
    (afterServed (A := A) utils st served).invoking = [] := by
  unfold afterServed
  cases replyMessage utils served.1 <;> rfl

theorem invoking_afterOutcome (st : ConnectionState P) (outcome : ServeOutcome A) :
    (afterOutcome utils st outcome).invoking = [] := by
  unfold afterOutcome
  cases outcomeServed outcome with
  | none => rfl
  | some served => exact invoking_afterServed st served

/-- A packet passed to the router has the call under way that it asks for. -/
theorem invoking_afterDispatch {st : ConnectionState P} (hmoveTx : st.moveTx = some ⟨channel⟩)
    (metaData payload : Bytes) :
    (afterDispatch utils st (dispatch utils router metaData payload addr st.moveTx)).invoking =
      (asked? utils router addr channel (metaData, payload)).toList := by
  rw [asked?, hmoveTx]
  cases dispatch utils router metaData payload addr (some ⟨channel⟩) with
  | answered res => exact invoking_afterServed st _
  | handled call => rfl
  | unwound => rfl

theorem next_invoked (hphase : Phase channel tr pt)
    (h : asked utils router addr channel (calls tr) = invoked tr ++ pt.invoking)
    (hnext : Next utils router addr pt e next) :
    asked utils router addr channel (calls (tr ++ [e])) =
      invoked (tr ++ [e]) ++ next.invoking := by
  cases hnext with
  | called st metaData payload =>
      have hmoveTx : st.moveTx = some ⟨channel⟩ := AtHome.moveTx hphase
      rw [invoking_afterDispatch hmoveTx]
      simpa [Point.invoking] using h
  | served st call outcome =>
      rw [invoking_afterOutcome]
      simpa [Point.invoking] using h
  | _ => simpa [Point.invoking] using h

/-- The calls made are those that the packets ask for. -/
theorem run_invoked {processor : P}
    (run : Run (Next utils router addr) (.top (initial processor channel)) tr pt)
    (hhands : Along handsOff tr) (honeshot : Along oneshotLaw tr) :
    asked utils router addr channel (calls tr) = invoked tr ++ pt.invoking := by
  induction run with
  | nil => rfl
  | snoc hrun hnext ih =>
      obtain ⟨hbefore, -⟩ := along_snoc.mp hhands
      obtain ⟨hchannel, -⟩ := along_snoc.mp honeshot
      exact next_invoked (run_phase hrun hbefore hchannel).1 (ih hbefore hchannel) hnext

end Connection

end FourthServer
