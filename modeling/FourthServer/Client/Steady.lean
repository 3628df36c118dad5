import FourthServer.Client.History

/-!
# Undisturbed clients

When no send and no decoding fails, a client that works on a request can go on
unless it waits for a frame (`enabled`), and what it makes and receives is sent
and read in order (`run_flow`).
-/

namespace FourthServer

open Resumption Trace

namespace Client

variable {A : App} {P : Type} {Snd Rcv : Type}

/-- No send fails and no frame fails to decode. -/
def quietLaw (_ : List (ClientEvent A P)) : ClientEvent A P → Prop
  | ⟨.send _ _, res⟩ => res = .ok ()
  | ⟨.next, some (.error _)⟩ => False
  | _ => True

/-- The calls of traffic hooks give back what the transformers say. -/
def obeys (T : Hooks.Pair Snd Rcv Bytes) (e : ClientEvent A (Snd × Rcv)) : Prop :=
  ∀ call, hook? e = some call → T.Obeyed call

theorem obeys_of_unhooked (T : Hooks.Pair Snd Rcv Bytes) {e : ClientEvent A (Snd × Rcv)}
    (h : hook? e = none) : obeys T e := by
  intro call hcall
  rw [h] at hcall
  cases hcall

/-- The client waits for a frame. -/
def Polling : Point A P → Prop
  | .routeWaiting _ _ _ => True
  | .waiting _ _ _ => True
  | _ => False

/-- The client waits for a request, or has ended. -/
def Idle : Point A P → Prop
  | .top _ => True
  | .returned => True
  | _ => False

/-- While it works on a request, the client can go on unless it waits for a
frame. -/
theorem enabled (utils : Utils A) (T : Hooks.Pair Snd Rcv Bytes)
    (tr : List (ClientEvent A (Snd × Rcv))) {pt : Point A (Snd × Rcv)} (hidle : ¬Idle pt)
    (hpolling : ¬Polling pt) :
    ∃ e next, Next utils pt e next ∧ quietLaw tr e ∧ obeys T e ∧ poll? e = none := by
  cases pt with
  | top st => exact absurd trivial hidle
  | returned => exact absurd trivial hidle
  | routeWaiting st request name => exact absurd trivial hpolling
  | waiting st request id => exact absurd trivial hpolling
  | routing st request name message =>
      refine ⟨_, _, .asked st request name message (T.answer true st.processor message).1
        (T.answer true st.processor message).2, trivial, ?_, rfl⟩
      rintro call ⟨⟩
      rfl
  | routeSending st request name wire =>
      exact ⟨_, _, .routeSent st request name wire, rfl, obeys_of_unhooked T rfl, rfl⟩
  | routeIn st request name raw =>
      refine ⟨_, _, .answered st request name raw (T.answer false st.processor raw).1
        (T.answer false st.processor raw).2, trivial, ?_, rfl⟩
      rintro call ⟨⟩
      rfl
  | learning st request name id =>
      exact ⟨_, _, .learned st request name id, trivial, obeys_of_unhooked T rfl, rfl⟩
  | preparing st request id message =>
      refine ⟨_, _, .prepared st request id message (T.answer true st.processor message).1
        (T.answer true st.processor message).2, trivial, ?_, rfl⟩
      rintro call ⟨⟩
      rfl
  | preparingData st request id metaBytes =>
      refine ⟨_, _, .preparedData st request id metaBytes
        (T.answer true st.processor request.req.data).1
        (T.answer true st.processor request.req.data).2, trivial, ?_, rfl⟩
      rintro call ⟨⟩
      rfl
  | metaSending st request id metaBytes payload =>
      exact ⟨_, _, .metaSent st request id metaBytes payload, rfl, obeys_of_unhooked T rfl, rfl⟩
  | payloadSending st request id payload =>
      exact ⟨_, _, .payloadSent st request id payload, rfl, obeys_of_unhooked T rfl, rfl⟩
  | responseIn st request id raw =>
      refine ⟨_, _, .responseRead st request id raw (T.answer false st.processor raw).1
        (T.answer false st.processor raw).2, trivial, ?_, rfl⟩
      rintro call ⟨⟩
      rfl
  | delivering st request id response =>
      exact ⟨_, _, .delivered st request id response (.ok ()), trivial, obeys_of_unhooked T rfl,
        rfl⟩
  | warning st error => exact ⟨_, _, .warned st error, trivial, obeys_of_unhooked T rfl, rfl⟩

/-! ## What the client has and has not sent -/

variable {utils : Utils A} {pt next : Point A P} {e : ClientEvent A P}
  {tr : List (ClientEvent A P)}

/-- The frames the client has made and not sent. -/
def Point.unsent : Point A P → List Bytes
  | .routeSending _ _ _ wire => [wire]
  | .preparingData _ _ _ metaBytes => [metaBytes]
  | .metaSending _ _ _ metaBytes payload => [metaBytes, payload]
  | .payloadSending _ _ _ payload => [payload]
  | _ => []

/-- The frames the client has received and not read. -/
def Point.unread : Point A P → List Bytes
  | .routeIn _ _ _ raw => [raw]
  | .responseIn _ _ _ raw => [raw]
  | _ => []

theorem unsent_afterId (st : ClientState P) (request : ClientRequest A) (id : ℕ) :
    (afterId utils st request id).unsent = [] ∧ (afterId utils st request id).unread = [] := by
  unfold afterId
  cases utils.toBytesMeta (metaOf request id) <;> exact ⟨rfl, rfl⟩

theorem unsent_entry (st : ClientState P) (request : ClientRequest A) :
    (entry utils st request).unsent = [] ∧ (entry utils st request).unread = [] := by
  unfold entry afterName
  repeat' split
  all_goals first
    | exact ⟨rfl, rfl⟩
    | exact unsent_afterId st request _

theorem unsent_afterAnswer (st : ClientState P) (request : ClientRequest A) (name : String)
    (response : Bytes) :
    (afterAnswer utils st request name response).unsent = [] ∧
      (afterAnswer utils st request name response).unread = [] := by
  unfold afterAnswer
  cases utils.accessAns response <;> exact ⟨rfl, rfl⟩

/-- While no send fails, everything the processor has made is sent in its order,
and everything received is read in its order. -/
theorem run_flow {st : ClientState P} (run : Run (Next utils) (.top st) tr pt)
    (hlaw : Along quietLaw tr) :
    outputs tr = wires tr ++ pt.unsent ∧ received tr = inputs tr ++ pt.unread := by
  refine run.invariant_along
    (I := fun tr pt => outputs tr = wires tr ++ pt.unsent ∧ received tr = inputs tr ++ pt.unread)
    ⟨rfl, rfl⟩ ?_ hlaw
  rintro tr pt e next ⟨hsent, hread⟩ hnext hquiet
  rw [outputs_snoc, wires_snoc, received_snoc, inputs_snoc, hsent, hread]
  cases hnext with
  | taken st request =>
      obtain ⟨hunsent, hunread⟩ : (entry utils st request).unsent = [] ∧ _ :=
        unsent_entry st request
      rw [hunsent, hunread]
      simp [Point.unsent, Point.unread]
  | answered st request name raw processor response =>
      obtain ⟨hunsent, hunread⟩ :
        (afterAnswer utils { st with processor := processor } request name response).unsent = [] ∧
          _ := unsent_afterAnswer _ request name response
      rw [hunsent, hunread]
      simp [Point.unsent, Point.unread]
  | learned st request name id =>
      obtain ⟨hunsent, hunread⟩ :
        (afterId utils { st with knownRoutes := rememberRoute st.knownRoutes name id } request
          id).unsent = [] ∧ _ := unsent_afterId _ request id
      rw [hunsent, hunread]
      simp [Point.unsent, Point.unread]
  | routeUnsent | metaUnsent | payloadUnsent => cases hquiet
  | routeError | responseError => exact hquiet.elim
  | _ => simp [Point.unsent, Point.unread]

end Client

end FourthServer
