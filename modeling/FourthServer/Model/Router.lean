import FourthServer.Library.AssocMap
import FourthServer.Model.Handler
import Mathlib.Data.Finset.Dedup

/-!
# The server's router

`TfServerRouter` collects routes with `addRoute`, publishes them with
`commitRoutes` and answers packets with `servePacket`.  The two hash tables are
association lists: `routes` is keyed by `TypeTuple` with the comparison of the
utility crate, `routesTextNames` by the handler's name.
-/

namespace FourthServer

open Resumption

/-- `TfServerRouter`.  Of `user_s_type` only its deserialise function is used;
it has no error result, so `none` stands for a panic. -/
structure TfServerRouter (A : App) where
  routes : List (TypeTuple A × Route A)
  routesTextNames : List (String × ℕ)
  routesToAdd : List (TypeTuple A × (Route A × String))
  routerIncremental : ℕ
  routesCommited : Bool
  deserialize : ℕ → Option A.SType

namespace TfServerRouter

variable {A : App} {P : Type}

/-- The empty router. -/
def new (deserialize : ℕ → Option A.SType) : TfServerRouter A where
  routes := []
  routesTextNames := []
  routesToAdd := []
  routerIncremental := 0
  routesCommited := false
  deserialize := deserialize

/-- The set `add_route` pops its type list into, from the end. -/
def collectTypes (sTypes : List A.SType) : Finset A.SType :=
  sTypes.foldr (fun sType found => insert sType found) ∅

/-- Register a route; without effect once the routes are committed. -/
def addRoute (router : TfServerRouter A) (route : Route A) (handlerName : String)
    (sTypes : List A.SType) : TfServerRouter A :=
  if router.routesCommited then router
  else
    let typesTuple : TypeTuple A := ⟨collectTypes sTypes, router.routerIncremental⟩
    { router with
      routesToAdd := router.routesToAdd ++ [(typesTuple, (route, handlerName))]
      routerIncremental := router.routerIncremental + 1 }

/-- The comparison of the name table. -/
abbrev sameName (first second : String) : Bool := decide (first = second)

/-- The route table after one drained entry. -/
def insertRoute (utils : Utils A) (routes : List (TypeTuple A × Route A))
    (entry : TypeTuple A × (Route A × String)) : List (TypeTuple A × Route A) :=
  AssocMap.insert utils.sameTuple entry.1 entry.2.1 routes

/-- The name table after one drained entry. -/
def insertName (names : List (String × ℕ)) (entry : TypeTuple A × (Route A × String)) :
    List (String × ℕ) :=
  AssocMap.insert sameName entry.2.2 entry.1.handlerId names

/-- Publish the pending routes; without effect when there are none or when the
routes are committed already. -/
def commitRoutes (utils : Utils A) (router : TfServerRouter A) : TfServerRouter A :=
  if router.routesCommited || router.routesToAdd.isEmpty then router
  else
    { router with
      routes := router.routesToAdd.foldl (insertRoute utils) []
      routesTextNames := router.routesToAdd.foldl insertName []
      routesToAdd := []
      routesCommited := true }

/-- The route registered under a key matching the probe. -/
def routeOf (utils : Utils A) (router : TfServerRouter A) (key : TypeTuple A) :
    Option (Route A) :=
  AssocMap.get? utils.sameTuple key router.routes

/-- The handler id registered under a name. -/
def idOfName (router : TfServerRouter A) (name : String) : Option ℕ :=
  AssocMap.get? sameName name router.routesTextNames

/-- `"handler died :("`, the text of the error for a panicking handler. -/
def handlerDied : Bytes := "handler died :(".toUTF8.data.toList

/-- What `serve_packet` returns: the reply, and the sender for the next packet. -/
abbrev Served := Except ServerError Bytes × Option Sender

/-- What `serve_packet` makes of the outcome of a handler. -/
def afterServe : ServeOutcome A → ServerM A P Served
  -- the call is outside `catch_unwind`, only its future is inside
  | .unwound => ServerM.unwind
  | .finished (.ok data) returnedTx _ => pure (.ok data, returnedTx)
  | .finished (.error err) returnedTx _ => pure (.error ⟨.internalError (some err)⟩, returnedTx)
  | .panicked _ => pure (.error ⟨.internalError (some handlerDied)⟩, none)

/-- `serve_packet`: a packet for a handler, a request for a handler's id, or
neither. -/
def servePacket (utils : Utils A) (router : TfServerRouter A) (metaData payload : Bytes)
    (addr : SocketAddr) (routeTx : Option Sender) : ServerM A P Served :=
  match utils.accessMeta metaData with
  | .ok metaPack =>
    match router.deserialize metaPack.sTypeReq with
    | none => ServerM.unwind
    | some sType =>
      match router.routeOf utils ⟨{sType}, metaPack.handlerId⟩ with
      | none => pure (.error ⟨.noSuchHandler none⟩, routeTx)
      | some handler => do
        let outcome ← ServerM.serve ⟨handler.serve, handler.state, addr, routeTx, sType, payload⟩
        afterServe outcome
  | .error _ =>
    match utils.accessReq metaData with
    | .ok metaReq =>
      match router.idOfName metaReq.handlerName with
      | some routeId =>
        match utils.toBytesAns ⟨.handlerMetaAns, routeId⟩ with
        | some bytes => pure (.ok bytes, routeTx)
        | none => ServerM.unwind
      | none => pure (.error ⟨.noSuchHandler none⟩, routeTx)
    | .error _ => pure (.error ⟨.malformedMetaInfo none⟩, routeTx)

end TfServerRouter

end FourthServer
