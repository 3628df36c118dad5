import FourthServer.Client.Steady
import FourthServer.Model.Dispatch

/-!
# The channels of a client

What each step does to the channels between the callers and the connection task.
A consumer hangs, that is, its sender exists and has not been used, exactly while
its request is in the channel or is being processed (`Dispatcher.Sound`).
-/

namespace FourthServer

open Resumption Trace

/-! ## Whose request is being worked on -/

namespace Client

variable {A : App} {P : Type} {utils : Utils A} {pt next : Point A P} {e : ClientEvent A P}
  {tr : List (ClientEvent A P)}

/-- The task works on the request of a consumer. -/
def Working (consumer : ℕ) (pt : Point A P) : Prop :=
  ¬Idle pt ∧ ∀ request, pt.request? = some request → request.consumer = consumer

theorem working_of_request? {request : ClientRequest A} (hidle : ¬Idle pt)
    (h : pt.request? = none ∨ pt.request? = some request) : Working request.consumer pt := by
  refine ⟨hidle, fun request' hrequest' => ?_⟩
  rcases h with h | h
  · cases h.symm.trans hrequest'
  · cases h.symm.trans hrequest'
    rfl

theorem not_idle_afterId (st : ClientState P) (request : ClientRequest A) (id : ℕ) :
    ¬Idle (afterId utils st request id) := by
  unfold afterId
  cases utils.toBytesMeta (metaOf request id) <;> exact not_false

theorem not_idle_entry (st : ClientState P) (request : ClientRequest A) :
    ¬Idle (entry utils st request) := by
  unfold entry afterName
  repeat' split
  all_goals first
    | exact not_idle_afterId st request _
    | exact not_false

theorem not_idle_afterAnswer (st : ClientState P) (request : ClientRequest A) (name : String)
    (response : Bytes) : ¬Idle (afterAnswer utils st request name response) := by
  unfold afterAnswer
  cases utils.accessAns response <;> exact not_false

theorem Next.take {request : ClientRequest A} (h : Next utils pt ⟨.recv, some request⟩ next) :
    Idle pt ∧ Working request.consumer next := by
  cases h with
  | taken st request =>
      exact ⟨trivial, working_of_request? (not_idle_entry st request) (request?_entry st request)⟩

theorem Next.drain (h : Next utils pt ⟨.recv, none⟩ next) : Idle pt ∧ next = .returned := by
  cases h with
  | drained st => exact ⟨trivial, rfl⟩

/-- The task returns only when the channel has nothing more to give. -/
theorem Next.of_returned (h : Next utils pt e next) (hreturned : next = .returned) :
    e = ⟨.recv, none⟩ := by
  have hidle : Idle next := by
    rw [hreturned]
    trivial
  cases h with
  | drained => rfl
  | taken st request => exact absurd hidle (not_idle_entry st request)
  | answered => exact absurd hidle (not_idle_afterAnswer _ _ _ _)
  | learned => exact absurd hidle (not_idle_afterId _ _ _)
  | _ => cases hreturned

theorem Next.deliver {consumer consumer' : ℕ} {data : Bytes} {res : Except Bytes Unit}
    (h : Next utils pt ⟨.deliver consumer data, res⟩ next) (hworking : Working consumer' pt) :
    consumer' = consumer ∧ Idle next := by
  cases h with
  | delivered st request => exact ⟨(hworking.2 request rfl).symm, trivial⟩

theorem Next.not_idle_of_deliver {consumer : ℕ} {data : Bytes} {res : Except Bytes Unit}
    (h : Next utils pt ⟨.deliver consumer data, res⟩ next) : ¬Idle pt := by
  cases h with
  | delivered => exact not_false

theorem Next.warn {error : ClientError} {res : Unit} (h : Next utils pt ⟨.warn error, res⟩ next) :
    ¬Idle pt ∧ Idle next := by
  cases h with
  | warned => exact ⟨not_false, trivial⟩

/-- An event that neither begins nor ends the work on a request. -/
def Silent (e : ClientEvent A P) : Prop :=
  match e.op with
  | .recv | .deliver _ _ | .warn _ => False
  | _ => True

theorem Next.silent (h : Next utils pt e next) (hsilent : Silent e) :
    ¬Idle pt ∧ ∀ consumer, Working consumer pt → Working consumer next := by
  have hstays {request : ClientRequest A} (hrequest : pt.request? = some request)
      (hidle : ¬Idle next) (hnext : next.request? = none ∨ next.request? = some request) :
      ∀ consumer, Working consumer pt → Working consumer next := by
    rintro consumer ⟨-, howner⟩
    rw [← howner request hrequest]
    exact working_of_request? hidle hnext
  cases h with
  | taken | drained | delivered | warned => exact hsilent.elim
  | answered st request name raw processor response =>
      exact ⟨not_false, hstays rfl (not_idle_afterAnswer _ _ _ _) (request?_afterAnswer _ _ _ _)⟩
  | learned st request name id =>
      exact ⟨not_false, hstays rfl (not_idle_afterId _ _ _) (request?_afterId _ _ _)⟩
  | routeUnsent | routeError | routeEnd | metaUnsent | payloadUnsent | responseError
  | responseEnd => exact ⟨not_false, hstays rfl not_false (.inl rfl)⟩
  | _ => exact ⟨not_false, hstays rfl not_false (.inr rfl)⟩

end Client

/-! ## The senders of the answers -/

namespace Dispatcher

variable {A : App} {P : Type} {maxRequestInTime : ℕ} {s t : Dispatcher A} {ev : CallEvent A P}

/-- The consumers of the requests that are being processed or in the channel. -/
def unresolved (s : Dispatcher A) : List ℕ := s.current.toList ++ s.queue.map (·.consumer)

/-- The senders of the answers are where their requests are. -/
structure Sound (maxRequestInTime : ℕ) (s : Dispatcher A) : Prop where
  room : s.queue.length ≤ maxRequestInTime
  distinct : s.unresolved.Nodup
  held : ∀ consumer, s.consumers consumer = .held ↔ consumer ∈ s.unresolved
  gone : s.rx = false → s.unresolved = []

theorem initial_sound : (initial : Dispatcher A).Sound maxRequestInTime where
  room := Nat.zero_le _
  distinct := List.nodup_nil
  held consumer := by simp [initial, unresolved]
  gone _ := rfl

theorem Sound.send (h : s.Sound maxRequestInTime) {request : ClientRequest A}
    (receiver : s.rx = true) (room : s.queue.length < maxRequestInTime)
    (fresh : s.consumers request.consumer = .unused) :
    ({ s with
        queue := s.queue ++ [request]
        consumers := Function.update s.consumers request.consumer .held } :
      Dispatcher A).Sound maxRequestInTime := by
  have hnew : request.consumer ∉ s.unresolved := by
    rw [← h.held, fresh]
    simp
  have hunresolved (consumers : ℕ → Consumer) :
      ({ s with queue := s.queue ++ [request], consumers := consumers } : Dispatcher A).unresolved =
        s.unresolved ++ [request.consumer] := by
    simp [unresolved]
  refine ⟨?_, ?_, ?_, ?_⟩
  · rw [List.length_append]
    exact room
  · rw [hunresolved]
    exact List.nodup_append'.mpr ⟨h.distinct, List.nodup_singleton _, by simpa using hnew⟩
  · intro consumer
    rw [hunresolved, List.mem_append, List.mem_singleton, ← h.held]
    show Function.update s.consumers request.consumer .held consumer = .held ↔ _
    rw [Function.update_apply]
    split <;> simp_all
  · intro hgone
    cases receiver.symm.trans hgone

/-- The consumer of a request that never gets into the channel. -/
theorem Sound.reject (h : s.Sound maxRequestInTime) {consumer : ℕ}
    (fresh : s.consumers consumer = .unused) :
    ({ s with consumers := Function.update s.consumers consumer .dropped } :
      Dispatcher A).Sound maxRequestInTime where
  room := h.room
  distinct := h.distinct
  held other := by
    show Function.update s.consumers consumer .dropped other = .held ↔ other ∈ s.unresolved
    rw [← h.held, Function.update_apply]
    split <;> simp_all
  gone := h.gone

theorem Sound.take (h : s.Sound maxRequestInTime) {request : ClientRequest A}
    {rest : List (ClientRequest A)} (hcurrent : s.current = none)
    (head : s.queue = request :: rest) (receiver : s.rx = true) :
    ({ s with queue := rest, current := some request.consumer } :
      Dispatcher A).Sound maxRequestInTime := by
  have hunresolved : ({ s with queue := rest, current := some request.consumer } :
      Dispatcher A).unresolved = s.unresolved := by
    simp [unresolved, hcurrent, head]
  refine ⟨?_, ?_, ?_, ?_⟩
  · exact (Nat.le_succ _).trans (by simpa [head] using h.room)
  · rw [hunresolved]
    exact h.distinct
  · intro consumer
    rw [hunresolved]
    exact h.held consumer
  · intro hgone
    cases receiver.symm.trans hgone

/-- The request that is being processed is resolved. -/
theorem Sound.resolve (h : s.Sound maxRequestInTime) {consumer : ℕ} {res : Consumer}
    (hcurrent : s.current = some consumer) (hres : res ≠ .held) (receiver : s.rx = true) :
    ({ s with current := none, consumers := Function.update s.consumers consumer res } :
      Dispatcher A).Sound maxRequestInTime := by
  have hdistinct := h.distinct
  rw [unresolved, hcurrent, Option.toList_some, List.singleton_append, List.nodup_cons]
    at hdistinct
  refine ⟨h.room, hdistinct.2, ?_, ?_⟩
  · intro other
    show Function.update s.consumers consumer res other = .held ↔
      other ∈ s.queue.map (·.consumer)
    have hheld := h.held other
    rw [unresolved, hcurrent, Option.toList_some, List.singleton_append, List.mem_cons] at hheld
    rw [Function.update_apply]
    split
    · rename_i heq
      rw [heq]
      exact ⟨fun hbad => absurd hbad hres, fun hbad => absurd hbad hdistinct.1⟩
    · rename_i hne
      rw [hheld]
      simp [hne]
  · intro hgone
    cases receiver.symm.trans hgone

theorem dropCurrent_eq (s : Dispatcher A) {consumer : ℕ} (hcurrent : s.current = some consumer) :
    s.dropCurrent =
      { s with current := none, consumers := Function.update s.consumers consumer .dropped } := by
  unfold dropCurrent
  congr 1
  funext other
  rw [hcurrent, Function.update_apply]
  simp [eq_comm]

theorem dropCurrent_of_none (hcurrent : s.current = none) : s.dropCurrent = s := by
  cases s with
  | mk =>
      subst hcurrent
      rfl

theorem Sound.dropCurrent (h : s.Sound maxRequestInTime) (receiver : s.rx = true) :
    s.dropCurrent.Sound maxRequestInTime := by
  cases hcurrent : s.current with
  | none =>
      rw [dropCurrent_of_none hcurrent]
      exact h
  | some consumer =>
      rw [dropCurrent_eq s hcurrent]
      exact h.resolve hcurrent (by simp) receiver

theorem Sound.dropReceiver (h : s.Sound maxRequestInTime) (hcurrent : s.current = none) :
    s.dropReceiver.Sound maxRequestInTime where
  room := Nat.zero_le _
  distinct := by simp [Dispatcher.dropReceiver, unresolved, hcurrent]
  held consumer := by
    have hheld := h.held consumer
    rw [unresolved, hcurrent, Option.toList_none, List.nil_append] at hheld
    simp only [Dispatcher.dropReceiver, unresolved, hcurrent, Option.toList_none, List.map_nil,
      List.append_nil, List.not_mem_nil, iff_false]
    split
    · simp
    · rename_i hnot
      rwa [hheld]
  gone _ := by simp [Dispatcher.dropReceiver, unresolved, hcurrent]

/-- From the first dispatcher to the second no consumer was answered, and none
that had been resolved has changed. -/
structure Later (s t : Dispatcher A) : Prop where
  keeps : ∀ consumer, s.consumers consumer ≠ .unused → s.consumers consumer ≠ .held →
    t.consumers consumer = s.consumers consumer
  fresh : ∀ consumer, t.consumers consumer = s.consumers consumer ∨
    t.consumers consumer = .held ∨ t.consumers consumer = .dropped
  closed : ∀ consumer, s.closed consumer = true → t.closed consumer = true

theorem later_refl (s : Dispatcher A) : Later s s :=
  ⟨fun _ _ _ => rfl, fun _ => .inl rfl, fun _ h => h⟩

theorem Later.trans {u : Dispatcher A} (first : Later s t) (second : Later t u) : Later s u where
  keeps consumer hunused hheld := by
    have hsame := first.keeps consumer hunused hheld
    rw [← hsame]
    exact second.keeps consumer (hsame ▸ hunused) (hsame ▸ hheld)
  fresh consumer := by
    rcases second.fresh consumer with h | h
    · rw [h]
      exact first.fresh consumer
    · exact .inr h
  closed consumer h := second.closed consumer (first.closed consumer h)

theorem later_update {consumer : ℕ} {value : Consumer}
    (hold : s.consumers consumer = .unused ∨ s.consumers consumer = .held)
    (hvalue : value = .held ∨ value = .dropped)
    (hconsumers : t.consumers = Function.update s.consumers consumer value)
    (hclosed : t.closed = s.closed) : Later s t where
  keeps other hunused hheld := by
    rw [hconsumers, Function.update_of_ne]
    rintro rfl
    exact hold.elim hunused hheld
  fresh other := by
    rw [hconsumers, Function.update_apply]
    split
    · exact .inr hvalue
    · exact .inl rfl
  closed other h := by rwa [hclosed]

theorem Sound.later_dropCurrent (h : s.Sound maxRequestInTime) : Later s s.dropCurrent := by
  cases hcurrent : s.current with
  | none =>
      rw [dropCurrent_of_none hcurrent]
      exact later_refl s
  | some consumer =>
      rw [dropCurrent_eq s hcurrent]
      exact later_update (.inr ((h.held consumer).mpr (by simp [unresolved, hcurrent]))) (.inr rfl)
        rfl rfl

theorem Sound.later_dropReceiver (h : s.Sound maxRequestInTime) : Later s s.dropReceiver where
  keeps consumer hunused hheld := by
    have hnot : consumer ∉ s.queue.map (·.consumer) := fun hqueue =>
      hheld ((h.held consumer).mpr (List.mem_append_right _ hqueue))
    simp only [Dispatcher.dropReceiver, hnot, if_false]
  fresh consumer := by
    simp only [Dispatcher.dropReceiver]
    split
    · exact .inr (.inr rfl)
    · exact .inl rfl
  closed _ h := h

end Dispatcher

end FourthServer
