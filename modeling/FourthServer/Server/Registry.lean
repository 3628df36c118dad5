import FourthServer.Model.Reference
import FourthServer.Server.History
import Mathlib.Data.List.Indexes

/-!
# The router as a registry

What `add_route` and `commit_routes` are for: routes are registered one after
the other, the first commit that finds some publishes them, and from then on
nothing changes.  `Registry` is this abstract model, `Represents` relates the
router's fields to it, and `represents_apply` shows that every operation of the
router is the operation of the registry.  The route table of a represented
router is the published list with its indices as ids (`routeOf_eq`).
-/

namespace FourthServer

open Resumption Trace

/-- A call of `add_route`. -/
structure Registration (A : App) where
  route : Route A
  handlerName : String
  sTypes : List A.SType

/-- A call of one of the two operations that change a router. -/
inductive RouterOp (A : App)
  | addRoute (registration : Registration A)
  | commitRoutes

namespace RouterOp

variable {A : App}

/-- The operation on the router. -/
def apply (utils : Utils A) (router : TfServerRouter A) : RouterOp A → TfServerRouter A
  | .addRoute r => router.addRoute r.route r.handlerName r.sTypes
  | .commitRoutes => router.commitRoutes utils

/-- The registrations that take effect: those made before the first commit that
finds one pending. -/
def effective : List (Registration A) → List (RouterOp A) → List (Registration A)
  | _, [] => []
  | pending, .addRoute r :: rest => effective (pending ++ [r]) rest
  | pending, .commitRoutes :: rest => if pending.isEmpty then effective [] rest else pending

end RouterOp

/-- The router after a history of operations. -/
def TfServerRouter.replay {A : App} (utils : Utils A) (deserialize : ℕ → Option A.SType)
    (ops : List (RouterOp A)) : TfServerRouter A :=
  ops.foldl (RouterOp.apply utils) (TfServerRouter.new deserialize)

/-! ## The abstract registry -/

/-- Registrations waiting for a commit, and registrations published. -/
structure Registry (A : App) where
  pending : List (Registration A)
  published : List (Registration A)

namespace Registry

variable {A : App}

def empty : Registry A := ⟨[], []⟩

/-- Nothing changes once something is published. -/
def apply (registry : Registry A) : RouterOp A → Registry A
  | .addRoute r =>
    if registry.published.isEmpty then ⟨registry.pending ++ [r], []⟩ else registry
  | .commitRoutes =>
    if registry.published.isEmpty then ⟨[], registry.pending⟩ else registry

def replay (ops : List (RouterOp A)) : Registry A := ops.foldl apply empty

theorem apply_of_published {registry : Registry A} (h : registry.published ≠ [])
    (op : RouterOp A) : registry.apply op = registry := by
  cases op <;> simp [apply, h]

theorem apply_addRoute {registry : Registry A} (h : registry.published = [])
    (r : Registration A) : registry.apply (.addRoute r) = ⟨registry.pending ++ [r], []⟩ := by
  simp [apply, h]

theorem apply_commitRoutes {registry : Registry A} (h : registry.published = []) :
    registry.apply .commitRoutes = ⟨[], registry.pending⟩ := by
  simp [apply, h]

theorem foldl_apply_of_published {registry : Registry A} (h : registry.published ≠ [])
    (ops : List (RouterOp A)) : ops.foldl apply registry = registry := by
  induction ops with
  | nil => rfl
  | cons op rest ih => rw [List.foldl_cons, apply_of_published h, ih]

theorem foldl_apply_published (pending : List (Registration A)) (ops : List (RouterOp A)) :
    (ops.foldl apply ⟨pending, []⟩).published = RouterOp.effective pending ops := by
  induction ops generalizing pending with
  | nil => rfl
  | cons op rest ih =>
      cases op with
      | addRoute r => exact ih _
      | commitRoutes =>
          cases pending with
          | nil => exact ih []
          | cons r others =>
              have hpublished : (⟨[], r :: others⟩ : Registry A).published ≠ [] := by simp
              exact congrArg published (foldl_apply_of_published hpublished rest)

/-- What the registry publishes is what takes effect. -/
theorem replay_published (ops : List (RouterOp A)) :
    (replay ops).published = RouterOp.effective [] ops :=
  foldl_apply_published [] ops

end Registry

namespace TfServerRouter

variable {A : App} {utils : Utils A}

/-! ## The tables of a list of registrations -/

theorem mem_collectTypes {sType : A.SType} {sTypes : List A.SType} :
    sType ∈ collectTypes sTypes ↔ sType ∈ sTypes := by
  induction sTypes with
  | nil => simp [collectTypes]
  | cons first rest ih =>
      show sType ∈ insert first (collectTypes rest) ↔ _
      rw [Finset.mem_insert, ih, List.mem_cons]

/-- The key of the registration with an id. -/
def keyOf (id : ℕ) (r : Registration A) : TypeTuple A := ⟨collectTypes r.sTypes, id⟩

/-- The staging vector of pending registrations: their indices are their ids. -/
def staged (rs : List (Registration A)) : List (TypeTuple A × (Route A × String)) :=
  rs.mapIdx fun id r => (keyOf id r, (r.route, r.handlerName))

/-- The route table of published registrations. -/
def table (rs : List (Registration A)) : List (TypeTuple A × Route A) :=
  rs.mapIdx fun id r => (keyOf id r, r.route)

theorem staged_snoc (rs : List (Registration A)) (r : Registration A) :
    staged (rs ++ [r]) = staged rs ++ [(keyOf rs.length r, (r.route, r.handlerName))] := by
  simp [staged, List.mapIdx_append]

theorem table_snoc (rs : List (Registration A)) (r : Registration A) :
    table (rs ++ [r]) = table rs ++ [(keyOf rs.length r, r.route)] := by
  simp [table, List.mapIdx_append]

theorem id_lt_of_mem_table {rs : List (Registration A)} {entry : TypeTuple A × Route A}
    (h : entry ∈ table rs) : entry.1.handlerId < rs.length := by
  obtain ⟨id, hid, rfl⟩ := List.mem_mapIdx.mp h
  exact hid

/-- Draining the staging vector loses no route: the keys have different ids, so
that no insertion overwrites an earlier one. -/
theorem foldl_insertRoute_staged (hlawful : utils.TupleLawful) (rs : List (Registration A)) :
    (staged rs).foldl (insertRoute utils) [] = table rs := by
  induction rs using List.reverseRecOn with
  | nil => rfl
  | append_singleton rs r ih =>
      rw [staged_snoc, List.foldl_append, ih, table_snoc]
      refine AssocMap.insert_eq_append ?_
      intro entry hentry
      have hlt : entry.1.handlerId < rs.length := id_lt_of_mem_table hentry
      cases hsame : utils.sameTuple (keyOf rs.length r) entry.1 with
      | false => rfl
      | true =>
          have heq : rs.length = entry.1.handlerId := hlawful.sameId _ _ hsame
          omega

/-- A lookup finds the registration with the id, if it is for the type. -/
theorem get?_table (hlawful : utils.TupleLawful) (sType : A.SType) (id : ℕ)
    (rs : List (Registration A)) :
    AssocMap.get? utils.sameTuple ⟨{sType}, id⟩ (table rs) =
      (rs[id]?.filter fun r => decide (sType ∈ r.sTypes)).map Registration.route := by
  induction rs using List.reverseRecOn with
  | nil => rfl
  | append_singleton rs r ih =>
      rw [table_snoc, AssocMap.get?_append, ih]
      have hprobe : utils.sameTuple ⟨{sType}, id⟩ (keyOf rs.length r) = true ↔
          id = rs.length ∧ sType ∈ r.sTypes := by
        rw [hlawful.probe]
        exact and_congr_right fun _ => mem_collectTypes
      have hmiss (hother : ¬(id = rs.length ∧ sType ∈ r.sTypes)) :
          AssocMap.get? utils.sameTuple ⟨{sType}, id⟩ [(keyOf rs.length r, r.route)] = none := by
        have hfalse := Bool.eq_false_of_not_eq_true (mt hprobe.mp hother)
        simp [AssocMap.get?, hfalse]
      rcases Nat.lt_trichotomy id rs.length with hlt | heq | hgt
      · rw [hmiss fun h => hlt.ne h.1, Option.or_none, List.getElem?_append_left hlt]
      · subst heq
        rw [List.getElem?_eq_none (Nat.le_refl _), List.getElem?_concat_length]
        by_cases hmem : sType ∈ r.sTypes
        · simp [AssocMap.get?, hprobe.mpr ⟨rfl, hmem⟩, hmem]
        · rw [hmiss fun h => hmem h.2]
          simp [hmem]
      · have hbeyond : (rs ++ [r])[id]? = none := List.getElem?_eq_none (by simp; omega)
        rw [hmiss fun h => hgt.ne' h.1, List.getElem?_eq_none hgt.le, hbeyond]
        rfl

/-! ## The router represents the registry -/

/-- The fields of a router that stands for a registry. -/
structure Represents (utils : Utils A) (deserialize : ℕ → Option A.SType)
    (router : TfServerRouter A) (registry : Registry A) : Prop where
  routes : router.routes = table registry.published
  names : router.routesTextNames = (staged registry.published).foldl insertName []
  toAdd : router.routesToAdd = staged registry.pending
  incremental : registry.published = [] → router.routerIncremental = registry.pending.length
  commited : router.routesCommited = !registry.published.isEmpty
  reader : router.deserialize = deserialize

variable {deserialize : ℕ → Option A.SType} {router : TfServerRouter A} {registry : Registry A}

theorem represents_new : Represents utils deserialize (new deserialize) Registry.empty :=
  ⟨rfl, rfl, rfl, fun _ => rfl, rfl, rfl⟩

theorem represents_addRoute (h : Represents utils deserialize router registry)
    (hpublished : registry.published = []) (r : Registration A) :
    Represents utils deserialize (router.addRoute r.route r.handlerName r.sTypes)
      ⟨registry.pending ++ [r], []⟩ := by
  have hcommited : router.routesCommited = false := by simp [h.commited, hpublished]
  unfold addRoute
  rw [hcommited]
  refine ⟨?_, ?_, ?_, ?_, rfl, h.reader⟩
  · show router.routes = _
    rw [h.routes, hpublished]
  · show router.routesTextNames = _
    rw [h.names, hpublished]
  · show router.routesToAdd ++ _ = _
    rw [h.toAdd, staged_snoc, h.incremental hpublished]
    rfl
  · intro _
    show router.routerIncremental + 1 = _
    rw [h.incremental hpublished, List.length_append]
    rfl

theorem represents_commitRoutes (hlawful : utils.TupleLawful)
    (h : Represents utils deserialize router registry) (hpublished : registry.published = []) :
    Represents utils deserialize (router.commitRoutes utils) ⟨[], registry.pending⟩ := by
  have hcommited : router.routesCommited = false := by simp [h.commited, hpublished]
  unfold commitRoutes
  rw [hcommited, h.toAdd]
  cases hpending : registry.pending with
  | nil =>
      have hsame : registry = ⟨[], []⟩ := by
        cases registry
        exact congrArg₂ Registry.mk hpending hpublished
      rw [hsame] at h
      exact h
  | cons first rest =>
      have hstaged : (staged (first :: rest)).isEmpty = false := by
        simp [staged, List.mapIdx_cons]
      rw [hstaged]
      refine ⟨foldl_insertRoute_staged hlawful _, rfl, rfl, ?_, rfl, h.reader⟩
      intro hnil
      cases hnil

/-- Once something is published, the router does not change. -/
theorem apply_of_represents (h : Represents utils deserialize router registry)
    (hpublished : registry.published ≠ []) (op : RouterOp A) : op.apply utils router = router := by
  have hcommited : router.routesCommited = true := by simp [h.commited, hpublished]
  cases op <;> simp [RouterOp.apply, addRoute, commitRoutes, hcommited]

/-- **The router refines the registry.** -/
theorem represents_apply (hlawful : utils.TupleLawful)
    (h : Represents utils deserialize router registry) (op : RouterOp A) :
    Represents utils deserialize (op.apply utils router) (registry.apply op) := by
  by_cases hpublished : registry.published = []
  · cases op with
    | addRoute r =>
        rw [Registry.apply_addRoute hpublished]
        exact represents_addRoute h hpublished r
    | commitRoutes =>
        rw [Registry.apply_commitRoutes hpublished]
        exact represents_commitRoutes hlawful h hpublished
  · rw [apply_of_represents h hpublished, Registry.apply_of_published hpublished]
    exact h

theorem represents_replay (hlawful : utils.TupleLawful) (deserialize : ℕ → Option A.SType)
    (ops : List (RouterOp A)) :
    Represents utils deserialize (replay utils deserialize ops) (Registry.replay ops) := by
  induction ops using List.reverseRecOn with
  | nil => exact represents_new
  | append_singleton ops op ih =>
      unfold replay Registry.replay
      rw [List.foldl_append, List.foldl_append]
      exact represents_apply hlawful ih op

/-- No operation after the commit changes anything. -/
theorem replay_append (hlawful : utils.TupleLawful) {ops : List (RouterOp A)}
    (hcommited : RouterOp.effective [] ops ≠ []) (later : List (RouterOp A)) :
    replay utils deserialize (ops ++ later) = replay utils deserialize ops := by
  have hrepresents := represents_replay hlawful deserialize ops
  have hpublished : (Registry.replay ops).published ≠ [] := by
    rwa [Registry.replay_published]
  induction later using List.reverseRecOn with
  | nil => rw [List.append_nil]
  | append_singleton later op ih =>
      rw [← List.append_assoc]
      unfold replay at ih ⊢
      rw [List.foldl_append, ih]
      exact apply_of_represents hrepresents hpublished op

theorem routeOf_eq (hlawful : utils.TupleLawful)
    (h : Represents utils deserialize router registry) (sType : A.SType) (id : ℕ) :
    router.routeOf utils ⟨{sType}, id⟩ =
      (registry.published[id]?.filter fun r => decide (sType ∈ r.sTypes)).map
        Registration.route := by
  unfold routeOf
  rw [h.routes]
  exact get?_table hlawful sType id _

/-! ## Exact dispatch -/

/-- The call of a registered handler. -/
def callOf (r : Registration A) (addr : SocketAddr) (routeTx : Option Sender) (sType : A.SType)
    (payload : Bytes) : ServeCall A :=
  ⟨r.route.serve, r.route.state, addr, routeTx, sType, payload⟩

/-- `serve_packet` from the call of a handler on. -/
def invoke {P : Type} (call : ServeCall A) : ServerM A P Served := do
  let outcome ← ServerM.serve call
  afterServe outcome

/-- A packet with a handler id and a structure type is passed on to the
registration with that index, when it is for the type, and refused otherwise. -/
structure Dispatches (P : Type) (utils : Utils A) (router : TfServerRouter A)
    (published : List (Registration A)) (metaData payload : Bytes) (addr : SocketAddr)
    (routeTx : Option Sender) (id : ℕ) (sType : A.SType) : Prop where
  /-- Some handler is called just when the registration exists and fits. -/
  invokes : (∃ tr task, Run Prog.Step
      (router.servePacket (P := P) utils metaData payload addr routeTx) tr task ∧
      Connection.serves tr ≠ []) ↔ ∃ r, published[id]? = some r ∧ sType ∈ r.sTypes
  /-- It is the handler of that registration, called once. -/
  once : ∀ r, published[id]? = some r → sType ∈ r.sTypes → ∀ tr task,
    Run Prog.Step (router.servePacket (P := P) utils metaData payload addr routeTx) tr task →
      (tr = [] ∧ task = invoke (callOf r addr routeTx sType payload)) ∨
      ∃ outcome, Connection.serves tr = [(callOf r addr routeTx sType payload, outcome)]
  refused : (∀ r, published[id]? = some r → sType ∉ r.sTypes) →
    router.servePacket (P := P) utils metaData payload addr routeTx =
      .ret (.error ⟨.noSuchHandler none⟩, routeTx)

/-- What a history of operations makes of a router. -/
structure ExactDispatch (P : Type) (utils : Utils A) (deserialize : ℕ → Option A.SType)
    (ops : List (RouterOp A)) : Prop where
  /-- Every registration in effect is in the table, under its index. -/
  routes : (replay utils deserialize ops).routes = table (RouterOp.effective [] ops)
  stable : RouterOp.effective [] ops ≠ [] → ∀ later,
    replay utils deserialize (ops ++ later) = replay utils deserialize ops
  dispatches : ∀ metaData packet sType, utils.accessMeta metaData = .ok packet →
    deserialize packet.sTypeReq = some sType → ∀ payload addr routeTx,
      Dispatches P utils (replay utils deserialize ops) (RouterOp.effective [] ops) metaData
        payload addr routeTx packet.handlerId sType

section Packet

variable {P : Type} {metaData payload : Bytes} {packet : PacketMeta} {sType : A.SType}
  {addr : SocketAddr} {routeTx : Option Sender}

theorem servePacket_of_none (hread : utils.accessMeta metaData = .ok packet)
    (hdeserialize : router.deserialize packet.sTypeReq = some sType)
    (hroute : router.routeOf utils ⟨{sType}, packet.handlerId⟩ = none) :
    router.servePacket (P := P) utils metaData payload addr routeTx =
      .ret (.error ⟨.noSuchHandler none⟩, routeTx) := by
  simp only [servePacket, hread, hdeserialize, hroute]
  rfl

theorem servePacket_of_some {handler : Route A} (hread : utils.accessMeta metaData = .ok packet)
    (hdeserialize : router.deserialize packet.sTypeReq = some sType)
    (hroute : router.routeOf utils ⟨{sType}, packet.handlerId⟩ = some handler) :
    router.servePacket (P := P) utils metaData payload addr routeTx =
      invoke ⟨handler.serve, handler.state, addr, routeTx, sType, payload⟩ := by
  simp only [servePacket, hread, hdeserialize, hroute]
  rfl

/-- The registration with the packet's id is called, when it is for its type. -/
theorem servePacket_registered (hlawful : utils.TupleLawful)
    (h : Represents utils deserialize router registry)
    (hread : utils.accessMeta metaData = .ok packet)
    (hdeserialize : deserialize packet.sTypeReq = some sType) {r : Registration A}
    (hr : registry.published[packet.handlerId]? = some r) (hmem : sType ∈ r.sTypes) :
    router.servePacket (P := P) utils metaData payload addr routeTx =
      invoke (callOf r addr routeTx sType payload) := by
  refine servePacket_of_some hread (h.reader ▸ hdeserialize) ?_
  rw [routeOf_eq hlawful h, hr]
  simp [Option.filter, hmem]

/-- Without such a registration nothing is called. -/
theorem servePacket_unregistered (hlawful : utils.TupleLawful)
    (h : Represents utils deserialize router registry)
    (hread : utils.accessMeta metaData = .ok packet)
    (hdeserialize : deserialize packet.sTypeReq = some sType)
    (hnone : ∀ r, registry.published[packet.handlerId]? = some r → sType ∉ r.sTypes) :
    router.servePacket (P := P) utils metaData payload addr routeTx =
      .ret (.error ⟨.noSuchHandler none⟩, routeTx) := by
  refine servePacket_of_none hread (h.reader ▸ hdeserialize) ?_
  rw [routeOf_eq hlawful h]
  cases hr : registry.published[packet.handlerId]? with
  | none => rfl
  | some r => simp [Option.filter, hnone r hr]

end Packet

/-- After the call of its handler `serve_packet` calls no other one. -/
theorem serves_of_run_afterServe {P : Type} {outcome : ServeOutcome A}
    {tr : List (ServerEvent A P)} {task : ServerM A P Served}
    (run : Run Prog.Step (afterServe outcome) tr task) : tr = [] := by
  rw [afterServe_eq] at run
  cases hserved : outcomeServed outcome with
  | some served =>
      rw [hserved] at run
      exact (Prog.run_ret.mp run).1
  | none =>
      rw [hserved] at run
      rcases Prog.run_op.mp run with ⟨rfl, -⟩ | ⟨answer, _⟩
      · rfl
      · exact nomatch answer

theorem run_invoke {P : Type} {call : ServeCall A} {tr : List (ServerEvent A P)}
    {task : ServerM A P Served} (run : Run Prog.Step (invoke call) tr task) :
    (tr = [] ∧ task = invoke call) ∨
      ∃ outcome, Connection.serves tr = [(call, outcome)] := by
  rcases Prog.run_op.mp run with h | ⟨outcome, rest, rfl, hrest⟩
  · exact .inl h
  · cases serves_of_run_afterServe hrest
    exact .inr ⟨outcome, rfl⟩

/-- **Exact dispatch over every history.** -/
theorem replay_exactDispatch (P : Type) (hlawful : utils.TupleLawful)
    (deserialize : ℕ → Option A.SType) (ops : List (RouterOp A)) :
    ExactDispatch P utils deserialize ops := by
  have hrepresents := represents_replay hlawful deserialize ops
  refine ⟨?_, fun hcommited later => replay_append hlawful hcommited later, ?_⟩
  · rw [hrepresents.routes, Registry.replay_published]
  intro metaData packet sType hread hdeserialize payload addr routeTx
  rw [← Registry.replay_published]
  refine ⟨⟨?_, ?_⟩, ?_, servePacket_unregistered hlawful hrepresents hread hdeserialize⟩
  · rintro ⟨tr, task, run, hserves⟩
    by_contra hnone
    rw [servePacket_unregistered hlawful hrepresents hread hdeserialize
      fun r hr hmem => hnone ⟨r, hr, hmem⟩] at run
    rw [(Prog.run_ret.mp run).1] at hserves
    exact hserves rfl
  · rintro ⟨r, hr, hmem⟩
    rw [servePacket_registered hlawful hrepresents hread hdeserialize hr hmem]
    refine ⟨[⟨.serve (callOf r addr routeTx sType payload), .unwound⟩], afterServe .unwound, ?_, ?_⟩
    · exact Run.single (Prog.step_op.mpr ⟨ServeOutcome.unwound, rfl, rfl⟩)
    · simp [Connection.serves]
  · intro r hr hmem tr task run
    rw [servePacket_registered hlawful hrepresents hread hdeserialize hr hmem] at run
    exact run_invoke run

theorem replay_exactDispatch_reference :
    ExactDispatch Unit Reference.utils Reference.deserialize
      [.commitRoutes, .addRoute ⟨Reference.echo, "echo", [true]⟩,
        .addRoute ⟨Reference.echo, "echo", [false]⟩, .commitRoutes,
        .addRoute ⟨Reference.echo, "late", [false]⟩] :=
  replay_exactDispatch Unit Reference.tupleLawful Reference.deserialize _

end TfServerRouter

end FourthServer
