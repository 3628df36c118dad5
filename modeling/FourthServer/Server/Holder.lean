import FourthServer.Server.History

/-!
# The processor of a connection task

The loop has one `TrafficProcessorHolder`.  It hands it to every hook and keeps
what the hook leaves of it, so the calls of hooks in a history are `Chained`
and the holder in the loop's variables is always the last one.
-/

namespace FourthServer

open Resumption Trace

namespace Connection

variable {A : App} {P : Type}

/-- The holder in the variables that are live at a control point. -/
def Point.processor? : Point A P → Option P
  | .top st => some st.processor
  | .metaIn st _ => some st.processor
  | .payloadWait st _ => some st.processor
  | .payloadIn st _ _ => some st.processor
  | .calling st _ _ => some st.processor
  | .serving st _ => some st.processor
  | .replying st _ => some st.processor
  | .sending st _ => some st.processor
  | .checking st _ => some st.processor
  | .accepting call => some call.processor
  | .closing => none
  | .returned => none
  | .unwound => none

variable {utils : Utils A} {router : TfServerRouter A} {addr : SocketAddr}
  {tr : List (ServerEvent A P)} {pt next : Point A P} {e : ServerEvent A P}

theorem processor?_afterServed {st : ConnectionState P} {served : TfServerRouter.Served}
    {holder : P} (h : (afterServed (A := A) utils st served).processor? = some holder) :
    holder = st.processor := by
  unfold afterServed at h
  split at h
  · cases h
  · exact (Option.some.inj h).symm

theorem processor?_afterDispatch {st : ConnectionState P}
    {dispatched : TfServerRouter.Dispatch A} {holder : P}
    (h : (afterDispatch utils st dispatched).processor? = some holder) :
    holder = st.processor := by
  cases dispatched with
  | answered res => exact processor?_afterServed h
  | handled call => exact (Option.some.inj h).symm
  | unwound => cases h

theorem processor?_afterOutcome {st : ConnectionState P} {outcome : ServeOutcome A} {holder : P}
    (h : (afterOutcome utils st outcome).processor? = some holder) :
    holder = st.processor := by
  unfold afterOutcome at h
  split at h
  · exact processor?_afterServed h
  · cases h

/-- One step passes the holder on. -/
structure Carried (processor : P) (tr : List (ServerEvent A P)) (pt : Point A P) : Prop where
  chained : Hooks.Chained processor (hooks tr)
  current : ∀ holder, pt.processor? = some holder → holder = Hooks.last processor (hooks tr)

theorem next_carried {processor : P} (h : Carried processor tr pt)
    (hnext : Next utils router addr pt e next) : Carried processor (tr ++ [e]) next := by
  obtain ⟨hchained, hcurrent⟩ := h
  have hsilent {next : Point A P} (hhook : hook? e = none)
      (hsame : ∀ holder, next.processor? = some holder → pt.processor? = some holder) :
      Carried processor (tr ++ [e]) next := by
    have hhooks : hooks (tr ++ [e]) = hooks tr := by
      rw [hooks_snoc, hhook, Option.toList_none, List.append_nil]
    refine ⟨?_, fun holder hholder => ?_⟩
    · rw [hhooks]
      exact hchained
    · rw [hhooks]
      exact hcurrent holder (hsame holder hholder)
  have hcalled {call : Hooks.Call P Bytes} {next : Point A P} (hhook : hook? e = some call)
      (hbefore : pt.processor? = some call.before)
      (hafter : ∀ holder, next.processor? = some holder → holder = call.after) :
      Carried processor (tr ++ [e]) next := by
    refine ⟨?_, fun holder hholder => ?_⟩
    · rw [hooks_snoc, hhook]
      exact Hooks.chained_snoc.mpr ⟨hchained, hcurrent _ hbefore⟩
    · rw [hooks_snoc, hhook, hafter holder hholder]
      exact (Hooks.last_snoc _ _ _).symm
  cases hnext with
  | announced | alone | payloadRead | processed =>
      exact hcalled rfl rfl fun holder hholder => (Option.some.inj hholder).symm
  | called st =>
      exact hsilent rfl fun holder hholder => (processor?_afterDispatch hholder) ▸ rfl
  | served st =>
      exact hsilent rfl fun holder hholder => (processor?_afterOutcome hholder) ▸ rfl
  | sent st wire res =>
      cases res <;> exact hsilent rfl fun holder hholder => hholder
  | metaGone | metaEnd | payloadGone | payloadEnd | senderGone | sendFailed | accepted | closed =>
      exact hsilent rfl fun holder hholder => nomatch hholder
  | _ => exact hsilent rfl fun holder hholder => hholder

theorem run_carried {st : ConnectionState P}
    (run : Run (Next utils router addr) (.top st) tr pt) : Carried st.processor tr pt := by
  refine run.invariant (I := Carried st.processor) ⟨trivial, ?_⟩ ?_
  · intro holder hholder
    exact (Option.some.inj hholder).symm
  · intro tr pt e next _ h hnext
    exact next_carried h hnext

end Connection

end FourthServer
