import FourthServer.Client.Steady
import FourthServer.Model.Reference

/-!
# The routes a client knows

Whatever goes wrong, a client learns a name at most once, so that `known_routes`
is the list of what it has learnt, and no id in it ever changes.  It asks again
only for a name whose question has failed (`run_routes`).
-/

namespace FourthServer

open Resumption Trace

namespace Client

variable {A : App} {P : Type} {utils : Utils A} {pt next : Point A P} {e : ClientEvent A P}
  {tr : List (ClientEvent A P)}

@[simp] def failure? : ClientEvent A P → Option ClientError
  | ⟨.warn error, _⟩ => some error
  | _ => none

/-- The errors of the requests that have failed. -/
def failures (tr : List (ClientEvent A P)) : List ClientError := tr.filterMap failure?

@[simp] theorem failures_snoc (tr : List (ClientEvent A P)) (e : ClientEvent A P) :
    failures (tr ++ [e]) = failures tr ++ (failure? e).toList :=
  filterMap_snoc _ tr e

@[simp] def question? : ClientEvent A P → Option Bytes
  | ⟨.send .route wire, .ok ()⟩ => some wire
  | _ => none

/-- The questions for ids, as they were sent. -/
def questions (tr : List (ClientEvent A P)) : List Bytes := tr.filterMap question?

@[simp] theorem questions_snoc (tr : List (ClientEvent A P)) (e : ClientEvent A P) :
    questions (tr ++ [e]) = questions tr ++ (question? e).toList :=
  filterMap_snoc _ tr e

/-- The names that have been learnt. -/
def names (tr : List (ClientEvent A P)) : List String := (learnt tr).map Prod.fst

theorem names_snoc (tr : List (ClientEvent A P)) (e : ClientEvent A P) :
    names (tr ++ [e]) = names tr ++ (learnt? e).toList.map Prod.fst := by
  rw [names, learnt_snoc, List.map_append, names]

/-! ## The cache of distinct names -/

theorem lookupRoute_cacheOf_eq_none {pairs : List (String × ℕ)} {name : String} :
    lookupRoute (cacheOf pairs) name = none ↔ name ∉ pairs.map Prod.fst := by
  induction pairs using List.reverseRecOn with
  | nil => simp [lookupRoute]
  | append_singleton pairs pair ih =>
      rw [cacheOf_snoc, lookupRoute_rememberRoute, List.map_append, List.map_singleton,
        List.mem_append, List.mem_singleton, not_or, ← ih]
      split
      · rename_i heq
        simp [heq]
      · rename_i hne
        simp [hne]

theorem cacheOf_eq_self {pairs : List (String × ℕ)} (h : (pairs.map Prod.fst).Nodup) :
    cacheOf pairs = pairs := by
  induction pairs using List.reverseRecOn with
  | nil => rfl
  | append_singleton pairs pair ih =>
      rw [List.map_append, List.map_singleton, List.nodup_append'] at h
      obtain ⟨hpairs, -, hdisjoint⟩ := h
      rw [cacheOf_snoc, ih hpairs, rememberRoute, AssocMap.insert_eq_append]
      intro entry hentry
      refine decide_eq_false fun heq => hdisjoint (a := pair.1) ?_ (by simp)
      rw [heq]
      exact List.mem_map_of_mem hentry

/-! ## Asking for a name -/

/-- The name whose id the task asks for. -/
def Point.asking? : Point A P → Option String
  | .routing _ _ name _ => some name
  | .routeSending _ _ name _ => some name
  | .routeWaiting _ _ name => some name
  | .routeIn _ _ name _ => some name
  | .learning _ _ name _ => some name
  | _ => none

/-- A question has been sent that has neither failed nor been answered. -/
def Point.owed : Point A P → ℕ
  | .routeWaiting _ _ _ => 1
  | .routeIn _ _ _ _ => 1
  | .learning _ _ _ _ => 1
  | .warning _ _ => 1
  | _ => 0

theorem asking?_afterId (st : ClientState P) (request : ClientRequest A) (id : ℕ) :
    (afterId utils st request id).asking? = none := by
  unfold afterId
  cases utils.toBytesMeta (metaOf request id) <;> rfl

/-- The request is one by name, and the name is not known. -/
structure Unknown (knownRoutes : List (String × ℕ)) (request : ClientRequest A) (name : String) :
    Prop where
  id : request.req.handlerInfo.id = none
  named : request.req.handlerInfo.named = some name
  lookup : lookupRoute knownRoutes name = none

theorem asking?_entry {st : ClientState P} {request : ClientRequest A} {name : String}
    (h : (entry utils st request).asking? = some name) :
    Unknown st.knownRoutes request name ∧ (entry utils st request).request? = some request := by
  unfold entry at h ⊢
  cases hid : request.req.handlerInfo.id with
  | some id =>
      simp only [hid, asking?_afterId] at h
      cases h
  | none =>
      cases hnamed : request.req.handlerInfo.named with
      | none =>
          simp only [hid, hnamed] at h
          cases h
      | some named =>
          simp only [hid, hnamed, afterName] at h ⊢
          cases hlookup : lookupRoute st.knownRoutes named with
          | some id =>
              simp only [hlookup, asking?_afterId] at h
              cases h
          | none =>
              simp only [hlookup] at h ⊢
              cases hbytes : utils.toBytesReq ⟨.handlerMetaReq, named⟩ with
              | none =>
                  simp only [hbytes] at h
                  cases h
              | some message =>
                  simp only [hbytes] at h ⊢
                  cases h
                  exact ⟨⟨hid, hnamed, hlookup⟩, rfl⟩

theorem asking?_afterAnswer {st : ClientState P} {request : ClientRequest A} {name name' : String}
    {response : Bytes} (h : (afterAnswer utils st request name response).asking? = some name') :
    name' = name ∧ (afterAnswer utils st request name response).request? = some request := by
  unfold afterAnswer at h ⊢
  cases haccess : utils.accessAns response with
  | error text =>
      simp only [haccess] at h
      cases h
  | ok metaAns =>
      simp only [haccess] at h ⊢
      cases h
      exact ⟨rfl, rfl⟩

/-- A name is asked for by a request. -/
def Requested (request : ClientRequest A) (name : String) : Prop :=
  request.req.handlerInfo.id = none ∧ request.req.handlerInfo.named = some name

/-- The names learnt and the questions asked. -/
structure Learning (tr : List (ClientEvent A P)) (pt : Point A P) : Prop where
  distinct : (names tr).Nodup
  unknown : ∀ name, pt.asking? = some name → name ∉ names tr
  asking : ∀ name, pt.asking? = some name →
    ∃ request, pt.request? = some request ∧ Requested request name
  origin : ∀ name ∈ names tr, ∃ request ∈ taken tr, Requested request name
  asked : (questions tr).length ≤ (learnt tr).length + (failures tr).length + pt.owed

/-- An event by which nothing is learnt. -/
theorem Learning.silent (h : Learning tr pt) (hlearnt : learnt? e = none)
    (hunknown : ∀ name, next.asking? = some name → name ∉ names tr)
    (hasking : ∀ name, next.asking? = some name →
      ∃ request, next.request? = some request ∧ Requested request name)
    (hcount : (question? e).toList.length + pt.owed ≤ (failure? e).toList.length + next.owed) :
    Learning (tr ++ [e]) next := by
  have hnames : names (tr ++ [e]) = names tr := by
    rw [names_snoc, hlearnt]
    exact List.append_nil _
  refine ⟨?_, ?_, hasking, ?_, ?_⟩
  · rw [hnames]
    exact h.distinct
  · rw [hnames]
    exact hunknown
  · rw [hnames]
    intro name hname
    obtain ⟨request, hrequest, hrequested⟩ := h.origin name hname
    rw [taken_snoc]
    exact ⟨request, List.mem_append_left _ hrequest, hrequested⟩
  · have hasked := h.asked
    rw [questions_snoc, learnt_snoc, failures_snoc, hlearnt]
    simp only [List.length_append, Option.toList_none, List.length_nil]
    omega

theorem next_learning {processor : P} (h : Learning tr pt) (hholds : Holds processor tr pt)
    (hcurrent : Current tr pt) (hnext : Next utils pt e next) : Learning (tr ++ [e]) next := by
  have hforget (hlearnt : learnt? e = none) (hasking : next.asking? = none)
      (hcount : (question? e).toList.length + pt.owed ≤
        (failure? e).toList.length + next.owed) : Learning (tr ++ [e]) next :=
    h.silent hlearnt (fun name hname => by cases hasking.symm.trans hname)
      (fun name hname => by cases hasking.symm.trans hname) hcount
  have hsame (hlearnt : learnt? e = none) (hasking : next.asking? = pt.asking?)
      (hrequest : next.request? = pt.request?)
      (hcount : (question? e).toList.length + pt.owed ≤
        (failure? e).toList.length + next.owed) : Learning (tr ++ [e]) next := by
    refine h.silent hlearnt ?_ ?_ hcount
    · rw [hasking]
      exact h.unknown
    · rw [hasking, hrequest]
      exact h.asking
  cases hnext with
  | taken st request =>
      refine h.silent rfl (fun name hname => ?_) (fun name hname => ?_) (Nat.zero_le _)
      · -- the cache is what has been learnt
        have hlookup := (asking?_entry hname).1.lookup
        rw [(hholds.current st rfl).2] at hlookup
        exact lookupRoute_cacheOf_eq_none.mp hlookup
      · obtain ⟨hunknown, hrequest⟩ := asking?_entry hname
        exact ⟨request, hrequest, hunknown.id, hunknown.named⟩
  | answered st request name raw processor response =>
      refine h.silent rfl (fun name' hname => ?_) (fun name' hname => ?_) ?_
      · rw [(asking?_afterAnswer hname).1]
        exact h.unknown name rfl
      · obtain ⟨hname', hrequest⟩ := asking?_afterAnswer hname
        obtain ⟨request', hrequest', hrequested⟩ := h.asking name rfl
        cases hrequest'
        rw [hname']
        exact ⟨request, hrequest, hrequested⟩
      · unfold afterAnswer
        cases utils.accessAns response <;> exact le_refl 1
  | learned st request name id =>
      have hnames : names (tr ++ [⟨.insertRoute name id, ()⟩]) = names tr ++ [name] :=
        names_snoc _ _
      have hnone : (afterId utils { st with knownRoutes := rememberRoute st.knownRoutes name id }
          request id).asking? = none := asking?_afterId _ _ _
      refine ⟨?_, fun name' hname => (by cases hnone.symm.trans hname),
        fun name' hname => (by cases hnone.symm.trans hname), ?_, ?_⟩
      · rw [hnames]
        exact List.nodup_append'.mpr ⟨h.distinct, List.nodup_singleton _,
          List.disjoint_singleton.mpr (h.unknown name rfl)⟩
      · intro name' hname'
        rw [hnames, List.mem_append, List.mem_singleton] at hname'
        rw [taken_snoc]
        rcases hname' with hname' | rfl
        · obtain ⟨request', hrequest', hrequested⟩ := h.origin name' hname'
          exact ⟨request', List.mem_append_left _ hrequest', hrequested⟩
        · obtain ⟨request', hrequest', hrequested⟩ := h.asking name' rfl
          cases hrequest'
          obtain ⟨earlier, htaken⟩ := hcurrent request rfl
          exact ⟨request, List.mem_append_left _ (by simp [htaken]), hrequested⟩
      · have hasked := h.asked
        have howed : (Point.learning st request name id : Point A P).owed = 1 := rfl
        rw [questions_snoc, learnt_snoc, failures_snoc, List.length_append, List.length_append,
          List.length_append]
        have hone : (learnt? (⟨.insertRoute name id, ()⟩ : ClientEvent A P)).toList.length = 1 :=
          rfl
        have hnone : (question? (⟨.insertRoute name id, ()⟩ : ClientEvent A P)).toList.length = 0 :=
          rfl
        omega
  | drained | routeUnsent | routeError | routeEnd | metaUnsent | payloadUnsent | responseError
  | responseEnd | delivered | warned =>
      exact hforget rfl rfl (by first | exact Nat.zero_le _ | exact Nat.le_refl 1)
  | _ => exact hsame rfl rfl rfl (by first | exact Nat.zero_le _ | exact Nat.le_refl 1)

theorem run_learning {processor : P} (run : Run (Next utils) (.top (initial processor)) tr pt) :
    Learning tr pt := by
  refine run.invariant (I := Learning)
    ⟨List.nodup_nil, fun _ h => (by cases h), fun _ h => (by cases h), fun _ h => (by cases h),
      Nat.zero_le _⟩ ?_
  intro tr pt e next hrun h hnext
  exact next_learning h (run_holds rfl rfl hrun) (run_current hrun) hnext

/-- **The routes a client knows.**  In every run of a client, however its frames
and sends fail, the names learnt are distinct, and each was asked for by a request
for it.  `known_routes` is the list of what has been learnt, so that no id in it is
replaced, and no question is for a name in it.  More questions than names learnt
there are only for requests that have failed. -/
theorem run_routes {processor : P} {task : ClientM A P (ClientState P ⊕ Unit)}
    (run : Run (Client.Step utils) (connectionMain utils processor) tr task) :
    (names tr).Nodup ∧ (∀ name ∈ names tr, ∃ request ∈ taken tr, Requested request name) ∧
      (questions tr).length ≤ (learnt tr).length + (failures tr).length + 1 ∧
      ∃ pt : Point A P, task = pt.task utils ∧
        (∀ st, pt.state? = some st → st.knownRoutes = learnt tr) ∧
        ∀ name, pt.asking? = some name → name ∉ names tr := by
  obtain ⟨pt, hrun, htask⟩ := run_points run
  have h := run_learning hrun
  refine ⟨h.distinct, h.origin, ?_, pt, htask, fun st hst => ?_, h.unknown⟩
  · have hasked := h.asked
    have howed : pt.owed ≤ 1 := by cases pt <;> simp [Point.owed]
    omega
  · rw [((run_holds rfl rfl hrun).current st hst).2]
    exact cacheOf_eq_self h.distinct

section Asking

open Reference

/-- A request for the handler with the empty name. -/
def toUnnamed : ClientRequest app := ⟨⟨.newNamed "", [], true⟩, 0⟩

def learningRoute : List (ClientEvent app Unit) :=
  [⟨.recv, some toUnnamed⟩,
    ⟨.postProcess () (reqBytes ⟨.handlerMetaReq, ""⟩), ((), reqBytes ⟨.handlerMetaReq, ""⟩)⟩,
    ⟨.send .route (reqBytes ⟨.handlerMetaReq, ""⟩), .ok ()⟩,
    ⟨.next, some (.ok (ansBytes ⟨.handlerMetaAns, 0⟩))⟩,
    ⟨.preProcess () (ansBytes ⟨.handlerMetaAns, 0⟩), ((), ansBytes ⟨.handlerMetaAns, 0⟩)⟩,
    ⟨.insertRoute "" 0, ()⟩]

theorem learningRoute_run :
    ∃ pt, Run (Next Reference.utils) (.top (initial ())) learningRoute pt := by
  refine ⟨_, Run.cons (.taken (initial ()) toUnnamed) <|
    Run.cons (.asked (initial ()) toUnnamed "" _ _ _) <|
    Run.cons (.routeSent (initial ()) toUnnamed "" _) <|
    Run.cons (.routeFrame (initial ()) toUnnamed "" _) <|
    Run.cons (.answered (initial ()) toUnnamed "" _ _ _) <|
    Run.cons (.learned (initial ()) toUnnamed "" 0) Run.nil⟩

theorem run_routes_learningRoute : (names learningRoute).Nodup ∧
    ∃ request ∈ taken learningRoute, Requested request "" := by
  obtain ⟨pt, hrun⟩ := learningRoute_run
  have hroutes := run_routes (run_of_points hrun)
  exact ⟨hroutes.1, hroutes.2.1 "" (List.mem_singleton.mpr rfl)⟩

end Asking

end Client

end FourthServer
