import FourthServer.Server.Registry

/-!
# Names and ids

`commit_routes` fills two tables side by side: the routes under their ids, and
the ids under the handlers' names.  A name that is registered twice keeps only
its last id, while both routes stay reachable.  So a name is answered with the
id of the last registration made with it (`idOfName_eq`), and since nothing
changes after the commit, that id reaches this registration ever after
(`replay_namesAgree`).
-/

namespace FourthServer

open Resumption

namespace TfServerRouter

variable {A : App} {utils : Utils A}

/-! ## The name table of a list of registrations -/

/-- The last registration with a name, and its id. -/
structure LastNamed (rs : List (Registration A)) (name : String) (id : ℕ) (r : Registration A) :
    Prop where
  registered : rs[id]? = some r
  named : r.handlerName = name
  last : ∀ (other : ℕ) (later : Registration A), rs[other]? = some later →
    later.handlerName = name → other ≤ id

variable {rs : List (Registration A)} {name : String} {id : ℕ} {r : Registration A}

theorem lastNamed_snoc (hname : r.handlerName = name) : LastNamed (rs ++ [r]) name rs.length r where
  registered := List.getElem?_concat_length
  named := hname
  last other later hlater _ := by
    have hlt : other < (rs ++ [r]).length := (List.getElem?_eq_some_iff.mp hlater).1
    rw [List.length_append, List.length_singleton] at hlt
    omega

/-- A registration with another name changes nothing. -/
theorem lastNamed_snoc_of_ne (hname : r.handlerName ≠ name) {q : Registration A} :
    LastNamed (rs ++ [r]) name id q ↔ LastNamed rs name id q := by
  have hentry : ∀ (other : ℕ) (later : Registration A), later.handlerName = name →
      ((rs ++ [r])[other]? = some later ↔ rs[other]? = some later) := by
    intro other later hlater
    rcases Nat.lt_trichotomy other rs.length with hlt | heq | hgt
    · rw [List.getElem?_append_left hlt]
    · subst heq
      rw [List.getElem?_concat_length, List.getElem?_eq_none (Nat.le_refl _)]
      constructor
      · rintro ⟨⟩
        exact absurd hlater hname
      · nofun
    · have hbeyond : (rs ++ [r])[other]? = none := List.getElem?_eq_none (by simp; omega)
      rw [hbeyond, List.getElem?_eq_none hgt.le]
  constructor
  · intro h
    exact ⟨(hentry _ _ h.named).mp h.registered, h.named, fun other later hlater hnamed =>
      h.last other later ((hentry _ _ hnamed).mpr hlater) hnamed⟩
  · intro h
    exact ⟨(hentry _ _ h.named).mpr h.registered, h.named, fun other later hlater hnamed =>
      h.last other later ((hentry _ _ hnamed).mp hlater) hnamed⟩

theorem exists_lastNamed :
    (∃ id r, LastNamed rs name id r) ↔ ∃ r ∈ rs, r.handlerName = name := by
  constructor
  · rintro ⟨id, r, h⟩
    exact ⟨r, List.mem_of_getElem? h.registered, h.named⟩
  · induction rs using List.reverseRecOn with
    | nil => simp
    | append_singleton rs last ih =>
        rintro ⟨r, hmem, hname⟩
        by_cases hlast : last.handlerName = name
        · exact ⟨_, last, lastNamed_snoc hlast⟩
        · -- the name is an earlier one's
          have hearlier : r ∈ rs := by
            rcases List.mem_append.mp hmem with h | h
            · exact h
            · exact absurd (List.mem_singleton.mp h ▸ hname) hlast
          obtain ⟨id, q, h⟩ := ih ⟨r, hearlier, hname⟩
          exact ⟨id, q, (lastNamed_snoc_of_ne hlast).mpr h⟩

/-- Draining the staging vector keeps the last id of each name. -/
theorem get?_names : AssocMap.get? sameName name ((staged rs).foldl insertName []) = some id ↔
    ∃ r, LastNamed rs name id r := by
  induction rs using List.reverseRecOn with
  | nil =>
      constructor
      · nofun
      · rintro ⟨r, h⟩
        cases h.registered
  | append_singleton rs last ih =>
      have hinsert : AssocMap.get? sameName name ((staged (rs ++ [last])).foldl insertName []) =
          if name = last.handlerName then some rs.length
          else AssocMap.get? sameName name ((staged rs).foldl insertName []) := by
        rw [staged_snoc, List.foldl_append]
        exact AssocMap.get?_insert _ _ _ _
      rw [hinsert]
      by_cases hname : name = last.handlerName
      · rw [if_pos hname]
        constructor
        · rintro ⟨⟩
          exact ⟨last, lastNamed_snoc hname.symm⟩
        · rintro ⟨r, h⟩
          -- the last registration has the name, so no earlier id is the last one
          have hge : rs.length ≤ id := h.last _ last List.getElem?_concat_length hname.symm
          have hlt : id < (rs ++ [last]).length := (List.getElem?_eq_some_iff.mp h.registered).1
          rw [List.length_append, List.length_singleton] at hlt
          exact congrArg some (by omega)
      · rw [if_neg hname, ih]
        exact exists_congr fun r => (lastNamed_snoc_of_ne (Ne.symm hname)).symm

variable {deserialize : ℕ → Option A.SType} {router : TfServerRouter A} {registry : Registry A}

theorem idOfName_eq (h : Represents utils deserialize router registry) :
    router.idOfName name = some id ↔ ∃ r, LastNamed registry.published name id r := by
  unfold idOfName
  rw [h.names]
  exact get?_names

theorem idOfName_eq_none (h : Represents utils deserialize router registry) :
    router.idOfName name = none ↔ ∀ r ∈ registry.published, r.handlerName ≠ name := by
  rw [Option.eq_none_iff_forall_ne_some]
  constructor
  · intro hnone r hmem hname
    obtain ⟨id, hlast⟩ := exists_lastNamed.mpr ⟨r, hmem, hname⟩
    exact hnone id ((idOfName_eq h).mpr hlast)
  · intro hnone id hid
    obtain ⟨r, hlast⟩ := (idOfName_eq h).mp hid
    exact hnone r (List.mem_of_getElem? hlast.registered) hlast.named

/-! ## Asking for an id -/

/-- The frame asks for the id of a name: it is no `PacketMeta`, but a
`HandlerMetaReq`. -/
structure Asks (utils : Utils A) (metaData : Bytes) (name : String) : Prop where
  notMeta : ∃ text, utils.accessMeta metaData = .error text
  request : ∃ packet, utils.accessReq metaData = .ok packet ∧ packet.handlerName = name

section Packet

variable {P : Type} {metaData payload bytes : Bytes} {addr : SocketAddr} {routeTx : Option Sender}

theorem asks_of_bytes (hlawful : utils.Lawful) {sType : SystemSType}
    (h : utils.toBytesReq ⟨sType, name⟩ = some metaData) : Asks utils metaData name :=
  ⟨hlawful.meta_rejects_req h, _, hlawful.access_req h, rfl⟩

theorem servePacket_answered (hasks : Asks utils metaData name)
    (hid : router.idOfName name = some id)
    (hbytes : utils.toBytesAns ⟨.handlerMetaAns, id⟩ = some bytes) :
    router.servePacket (P := P) utils metaData payload addr routeTx =
      .ret (.ok bytes, routeTx) := by
  obtain ⟨⟨text, hreject⟩, packet, hread, rfl⟩ := hasks
  simp only [servePacket, hreject, hread, hid, hbytes]
  rfl

theorem servePacket_unknown (hasks : Asks utils metaData name)
    (hid : router.idOfName name = none) :
    router.servePacket (P := P) utils metaData payload addr routeTx =
      .ret (.error ⟨.noSuchHandler none⟩, routeTx) := by
  obtain ⟨⟨text, hreject⟩, packet, hread, rfl⟩ := hasks
  simp only [servePacket, hreject, hread, hid]
  rfl

end Packet

/-! ## Agreement -/

/-- What a router makes of a name and of the id it answers with. -/
structure NamesAgree (P : Type) (utils : Utils A) (deserialize : ℕ → Option A.SType)
    (ops : List (RouterOp A)) (name : String) : Prop where
  /-- A serialised `HandlerMetaReq` asks for its name. -/
  asks : ∀ sType metaData, utils.toBytesReq ⟨sType, name⟩ = some metaData →
    Asks utils metaData name
  /-- Just the names that were registered are answered with an id, and the sender
  is given back. -/
  answered : ∀ metaData, Asks utils metaData name → ∀ payload addr routeTx,
    (∃ id bytes, utils.toBytesAns ⟨.handlerMetaAns, id⟩ = some bytes ∧
      (replay utils deserialize ops).servePacket (P := P) utils metaData payload addr routeTx =
        .ret (.ok bytes, routeTx)) ↔
      ∃ r ∈ RouterOp.effective [] ops, r.handlerName = name
  /-- The id is that of the last registration with the name. -/
  last : ∀ metaData, Asks utils metaData name → ∀ payload addr routeTx id bytes,
    utils.toBytesAns ⟨.handlerMetaAns, id⟩ = some bytes →
    (replay utils deserialize ops).servePacket (P := P) utils metaData payload addr routeTx =
      .ret (.ok bytes, routeTx) →
      ∃ r, LastNamed (RouterOp.effective [] ops) name id r
  /-- All other names are refused; before a commit has published something, these
  are all names. -/
  unknown : (∀ r ∈ RouterOp.effective [] ops, r.handlerName ≠ name) →
    ∀ metaData, Asks utils metaData name → ∀ payload addr routeTx,
      (replay utils deserialize ops).servePacket (P := P) utils metaData payload addr routeTx =
        .ret (.error ⟨.noSuchHandler none⟩, routeTx)
  /-- A packet with that id goes to that registration, after any further
  operations. -/
  reaches : ∀ id r, LastNamed (RouterOp.effective [] ops) name id r →
    ∀ later metaData packet sType, utils.accessMeta metaData = .ok packet →
      packet.handlerId = id → deserialize packet.sTypeReq = some sType →
      ∀ payload addr routeTx,
        (sType ∈ r.sTypes →
          (replay utils deserialize (ops ++ later)).servePacket (P := P) utils metaData payload addr
            routeTx = invoke (callOf r addr routeTx sType payload)) ∧
        (sType ∉ r.sTypes →
          (replay utils deserialize (ops ++ later)).servePacket (P := P) utils metaData payload addr
            routeTx = .ret (.error ⟨.noSuchHandler none⟩, routeTx))

/-- Names that are not registered are not answered with an id. -/
theorem exists_of_answered {P : Type} {metaData payload bytes : Bytes} {addr : SocketAddr}
    {routeTx : Option Sender}
    (hasks : Asks utils metaData name)
    (hserve : router.servePacket (P := P) utils metaData payload addr routeTx =
      .ret (.ok bytes, routeTx)) : ∃ id, router.idOfName name = some id := by
  cases hid : router.idOfName name with
  | some id => exact ⟨id, rfl⟩
  | none =>
      rw [servePacket_unknown hasks hid] at hserve
      cases hserve

/-- **Names and ids agree over every history.** -/
theorem replay_namesAgree (P : Type) (hlawful : utils.Lawful) (htuples : utils.TupleLawful)
    (deserialize : ℕ → Option A.SType) (ops : List (RouterOp A)) (name : String) :
    NamesAgree P utils deserialize ops name := by
  have hrepresents := represents_replay htuples deserialize ops
  refine ⟨fun _ _ hbytes => asks_of_bytes hlawful hbytes, ?_, ?_, ?_, ?_⟩
  · intro metaData hasks payload addr routeTx
    rw [← Registry.replay_published, ← exists_lastNamed]
    constructor
    · rintro ⟨_, bytes, -, hserve⟩
      obtain ⟨id, hid⟩ := exists_of_answered hasks hserve
      exact ⟨id, (idOfName_eq hrepresents).mp hid⟩
    · rintro ⟨id, hlast⟩
      obtain ⟨bytes, hbytes⟩ := hlawful.ansBytes ⟨.handlerMetaAns, id⟩
      have hid := (idOfName_eq hrepresents).mpr hlast
      exact ⟨id, bytes, hbytes, servePacket_answered hasks hid hbytes⟩
  · intro metaData hasks payload addr routeTx id bytes hbytes hserve
    obtain ⟨found, hid⟩ := exists_of_answered hasks hserve
    obtain ⟨answer, hanswer⟩ := hlawful.ansBytes ⟨.handlerMetaAns, found⟩
    rw [servePacket_answered hasks hid hanswer] at hserve
    cases hserve
    -- the answer is read back as one id only
    have hsame := (hlawful.access_ans hbytes).symm.trans (hlawful.access_ans hanswer)
    cases hsame
    rw [← Registry.replay_published]
    exact (idOfName_eq hrepresents).mp hid
  · intro hnone metaData hasks payload addr routeTx
    rw [← Registry.replay_published] at hnone
    exact servePacket_unknown hasks ((idOfName_eq_none hrepresents).mpr hnone)
  · rintro _ r hlast later metaData packet sType hread rfl hdeserialize payload addr routeTx
    have hcommited : RouterOp.effective [] ops ≠ [] := by
      rintro hnil
      have hregistered := hlast.registered
      rw [hnil] at hregistered
      cases hregistered
    rw [replay_append htuples hcommited later]
    have hregistered := hlast.registered
    rw [← Registry.replay_published] at hregistered
    constructor
    · exact servePacket_registered htuples hrepresents hread hdeserialize hregistered
    · intro hmem
      refine servePacket_unregistered htuples hrepresents hread hdeserialize fun q hq => ?_
      cases hregistered.symm.trans hq
      exact hmem

theorem replay_namesAgree_reference :
    NamesAgree Unit Reference.utils Reference.deserialize
      [.addRoute ⟨Reference.echo, "echo", [true]⟩, .addRoute ⟨Reference.echo, "echo", [false]⟩,
        .commitRoutes] "echo" :=
  replay_namesAgree Unit Reference.lawful Reference.tupleLawful Reference.deserialize _ _

end TfServerRouter

end FourthServer
