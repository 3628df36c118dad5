import FourthServer.Link.Answers
import FourthServer.Model.Reference

/-!
# Request and response agree

A client and a server on an undisturbed connection, over any interleaving: each
exchange of the client's ledger was answered by the server's rounds at the same
place, and whenever the client is between two requests nothing is under way.
The client cannot get stuck in a request either: as long as it works on one,
one of the two tasks can go on, and the number of events is bounded by the
number of requests.

All of this holds as long as every request that reaches the server carries
data.  For a request without data the client sends a payload frame that the
server does not wait for.
-/

namespace FourthServer

open Resumption Trace Duplex Client Connection

namespace Link

variable {A : App} {SndC RcvC SndS RcvS : Type}

/-- The client is between two requests. -/
def AtRest {P : Type} (task : ClientM A P (ClientState P ⊕ Unit)) : Prop :=
  task.awaits = some .recv ∨ task = .ret (.inr ())

/-- The agreement of the two histories. -/
structure Agreement (Tc : Hooks.Pair SndC RcvC Bytes) (Ts : Hooks.Pair SndS RcvS Bytes)
    (utils : Utils A) (router : TfServerRouter A) (addr : SocketAddr)
    (tr : List (LinkEvent A (SndC × RcvC) (SndS × RcvS)))
    (s : State (ClientM A (SndC × RcvC) (ClientState (SndC × RcvC) ⊕ Unit))
      (ServerM A (SndS × RcvS) (ConnectionState (SndS × RcvS) ⊕ Unit)) Bytes Bytes)
    (done : List (Exchange A)) (rounds : List (Round A)) : Prop where
  /-- The exchanges are the requests taken, except one that is under way. -/
  requests : ∃ current, taken (lefts tr) = done.map Exchange.request ++ current ∧
    current.length ≤ 1
  /-- Each exchange has the request's own id, structure type and data. -/
  valid : Along (validLaw utils) done
  /-- Exactly the requests whose handler can be resolved are served. -/
  sound : ∀ x ∈ done, x.Sound router
  /-- The consumers were handed the responses of their own exchanges. -/
  delivered : deliveries (lefts tr) = done.filterMap Exchange.delivery
  /-- The rounds are the packets the server has served and answered, in order. -/
  served : ∃ current unreported, calls (rights tr) = rounds.map Round.packet ++ current ∧
    serves (rights tr) = rounds.filterMap Round.handled ++ unreported ∧
    replies (rights tr) = rounds.map Round.message
  rounds_valid : ∀ round ∈ rounds, round.Valid (SndS × RcvS) utils router addr
  /-- What the client sent and read is what the server read and replied. -/
  agree : (done.flatMap Exchange.transcript).map exchanged <+: rounds.map replied
  /-- The known routes are routes of the server. -/
  cache : CacheSound router (cacheOf (learnt (lefts tr)))
  /-- Between two requests nothing is under way and nothing is unserved. -/
  settled : AtRest s.left → taken (lefts tr) = done.map Exchange.request ∧
    (done.flatMap Exchange.transcript).map exchanged = rounds.map replied ∧
    calls (rights tr) = rounds.map Round.packet ∧ s.toRight = [] ∧ s.toLeft = []
  /-- In a request the two tasks can go on. -/
  progress : ¬AtRest s.left → ∃ e next,
    Duplex.Step (client utils) (server utils router addr) s e next ∧ Calm Tc Ts (tr ++ [e])
  /-- And they cannot go on for ever. -/
  bounded : tr.length ≤ 140 * ((taken (lefts tr)).length + 1)

variable {utils : Utils A} {router : TfServerRouter A} {addr : SocketAddr} {channel : ℕ}
  {Tc : Hooks.Pair SndC RcvC Bytes} {Ts : Hooks.Pair SndS RcvS Bytes}
  {processor : SndC × RcvC} {holder : SndS × RcvS}
  {tr : List (LinkEvent A (SndC × RcvC) (SndS × RcvS))}
  {s : State (ClientM A (SndC × RcvC) (ClientState (SndC × RcvC) ⊕ Unit))
      (ServerM A (SndS × RcvS) (ConnectionState (SndS × RcvS) ⊕ Unit)) Bytes Bytes}
  {clientPt : Client.Point A (SndC × RcvC)} {serverPt : Connection.Point A (SndS × RcvS)}
  {done : List (Exchange A)} {draft : Draft A} {owed : Owed A}

/-! ## The rounds of the server -/

/-- The server's rounds, and what the client's ledger has to do with them. -/
structure Matched (utils : Utils A) (router : TfServerRouter A) (addr : SocketAddr)
    (tr : List (LinkEvent A (SndC × RcvC) (SndS × RcvS))) (units : List Answered)
    (owed : Owed A) (rounds : List (Round A)) : Prop where
  called : calls (rights tr) = rounds.map Round.packet ++ owed.unreplied
  handled : serves (rights tr) = rounds.filterMap Round.handled ++ owed.unreported
  replied : replies (rights tr) = rounds.map Round.message
  corresponds : Corresponds (SndS × RcvS) utils router addr units rounds

theorem matched_of_linked
    (hlinked : Linked utils router addr processor holder channel tr s clientPt serverPt done)
    (hledger : Ledger utils (lefts tr) done draft)
    (htally : Tally utils router addr (rights tr) owed) :
    ∃ rounds, Matched utils router addr tr (done.flatMap Exchange.transcript ++ draft.transcript)
      owed rounds := by
  obtain ⟨rounds, hcalls, hserves, hreplies, hvalid⟩ := htally.replied
  refine ⟨rounds, hcalls, hserves, hreplies, ⟨draft.posted, ?_⟩, ?_, hvalid⟩
  · rw [← hledger.posted]
    have hcalled : rounds.map Round.packet <+: packets utils (frames (rights tr)) := by
      rw [htally.called, hcalls, List.append_assoc]
      exact List.prefix_append _ _
    exact hcalled.trans (packets_mono hlinked.forth)
  · rw [← hledger.answered, ← hreplies]
    exact hlinked.back

/-! ## Between two requests -/

theorem ledger_of_atRest
    (hlinked : Linked utils router addr processor holder channel tr s clientPt serverPt done)
    (hrest : AtRest s.left) : Ledger utils (lefts tr) done {} := by
  rw [hlinked.left_eq] at hrest
  have hledger := hlinked.ledger
  cases hledger with
  | top ledger => exact ledger
  | warning ledger => exact ledger
  | returned ledger => exact ledger
  | _ => rcases hrest with hrest | hrest <;> cases hrest

/-- With the ledger closed, everything sent has been read, served, answered and
read again. -/
theorem settled_of_matched
    (hlinked : Linked utils router addr processor holder channel tr s clientPt serverPt done)
    (hledger : Ledger utils (lefts tr) done {})
    (htally : Tally utils router addr (rights tr) owed) {rounds : List (Round A)}
    (hmatched : Matched utils router addr tr (done.flatMap Exchange.transcript) owed rounds)
    (hannounced : ∀ unit ∈ done.flatMap Exchange.transcript, AnnouncedUnit utils unit) :
    (done.flatMap Exchange.transcript).map exchanged = rounds.map replied ∧
      calls (rights tr) = rounds.map Round.packet ∧ s.toRight = [] ∧ s.toLeft = [] := by
  generalize hunits : done.flatMap Exchange.transcript = units at hmatched hannounced
  have hposts : posts (lefts tr) = messages units := by
    rw [hledger.posted, hunits, List.append_nil, List.append_nil]
  have hresponses : responses (lefts tr) = units.map Prod.snd := by
    rw [hledger.answered, hunits, List.append_nil]
  -- every unit was answered, so every packet was read and served
  have hanswers : units.length ≤ rounds.length := by
    simpa using hmatched.corresponds.answers.length_le
  have hgroup : (packets utils (frames (rights tr))).length =
      rounds.length + owed.unreplied.length + owed.uncalled.length := by
    rw [htally.called, hmatched.called]
    simp only [List.length_append, List.length_map]
  have hframes : frames (rights tr) = posts (lefts tr) := by
    have hforth := hlinked.forth
    have hunits : ∀ unit ∈ units.map Prod.fst, Grouping.Announced (hasPayload utils) unit := by
      intro unit hmem
      obtain ⟨answered, hanswered, rfl⟩ := List.mem_map.mp hmem
      exact hannounced answered hanswered
    rw [hposts, messages_eq] at hforth ⊢
    refine Grouping.eq_of_group_length hunits hforth ?_
    simp only [packets, List.length_map] at hgroup
    rw [List.length_map, hgroup]
    omega
  have hpackets : (packets utils (frames (rights tr))).length = units.length := by
    have hall := packets_messages hannounced []
    rw [List.append_nil] at hall
    rw [hframes, hposts, hall]
    simp
  have hrounds : rounds.length = units.length := by omega
  have hunreplied : owed.unreplied = [] := List.eq_nil_of_length_eq_zero (by omega)
  refine ⟨?_, ?_, ?_, ?_⟩
  · have hagree := hmatched.corresponds.agree hannounced
    refine hagree.eq_of_length ?_
    rw [List.length_map, List.length_map, hrounds]
  · rw [hmatched.called, hunreplied, List.append_nil]
  · -- as much was read as was sent, so the channels are empty
    have hsent := congrArg List.length hledger.sent
    have htoRight := congrArg List.length hlinked.toRight
    have hread := congrArg List.length htally.read
    have hlength := congrArg List.length hframes
    simp only [Client.outputs, Client.posts, Connection.frames, Connection.inputs,
      Hooks.length_sentOutputs, Hooks.length_receivedOutputs, List.length_append,
      List.length_nil] at hsent htoRight hread hlength
    exact List.eq_nil_of_length_eq_zero (by omega)
  · have hsent := congrArg List.length htally.sent
    have htoLeft := congrArg List.length hlinked.toLeft
    have hread := congrArg List.length hledger.read
    have hlength := congrArg List.length hresponses
    have hreplies := congrArg List.length hmatched.replied
    simp only [Connection.outputs, Connection.replies, Client.responses, Client.inputs,
      Hooks.length_sentOutputs, Hooks.length_receivedOutputs, List.length_append,
      List.length_map, List.length_nil] at hsent htoLeft hread hlength hreplies
    exact List.eq_nil_of_length_eq_zero (by omega)

/-! ## In a request -/

/-- A client that waits for an answer, with its frames taken and no answer under
way, is waiting for a server that is not waiting for it. -/
theorem not_both_polling
    (hlinked : Linked utils router addr processor holder channel tr s clientPt serverPt done)
    (hledger : Ledger utils (lefts tr) done draft) (hunsent : draft.unsent = [])
    (hunread : draft.unread = []) (hposted : packets utils draft.posted ≠ [])
    (hannounced : ∀ unit ∈ done.flatMap Exchange.transcript ++ draft.transcript,
      AnnouncedUnit utils unit)
    (htally : Tally utils router addr (rights tr) {}) (htoRight : s.toRight = [])
    (htoLeft : s.toLeft = []) : False := by
  generalize hunits : done.flatMap Exchange.transcript ++ draft.transcript = units at hannounced
  have hsent := congrArg List.length hledger.sent
  have hread := congrArg List.length hledger.read
  have hanswered := congrArg List.length hledger.answered
  have hright := congrArg List.length hlinked.toRight
  have hleft := congrArg List.length hlinked.toLeft
  have htallyRead := congrArg List.length htally.read
  have htallySent := congrArg List.length htally.sent
  obtain ⟨rounds, hcalls, -, hreplies, -⟩ := htally.replied
  have hrounds := congrArg List.length hcalls
  have hmessages := congrArg List.length hreplies
  have hcalled := congrArg List.length htally.called
  rw [hunits] at hanswered
  rw [hunsent] at hsent
  rw [hunread] at hread
  rw [htoRight] at hright
  rw [htoLeft] at hleft
  -- with both channels empty, the server has read all that the client wrote
  have hframes : frames (rights tr) = posts (lefts tr) := by
    refine hlinked.forth.eq_of_length ?_
    simp only [Client.outputs, Client.posts, Connection.frames, Connection.inputs,
      Hooks.length_sentOutputs, Hooks.length_receivedOutputs, List.length_append,
      List.length_nil] at hsent hright htallyRead ⊢
    omega
  have hpackets : packets utils (frames (rights tr)) =
      units.map packetOf ++ packets utils draft.posted := by
    rw [hframes, hledger.posted, hunits]
    exact packets_messages hannounced _
  -- and would owe a reply to the packet that the client waits for
  have hpositive := List.length_pos_of_ne_nil hposted
  rw [hpackets] at hcalled
  simp only [Connection.outputs, Connection.replies, Client.responses, Client.inputs,
    Hooks.length_sentOutputs, Hooks.length_receivedOutputs, List.length_append,
    List.length_map, List.length_nil] at hread hanswered hleft htallySent hrounds hmessages hcalled
  omega

theorem packets_ne_nil_of_pair (metaData payload : Bytes) :
    packets utils [metaData, payload] ≠ [] := by
  cases hmore : hasPayload utils metaData <;> simp [packets, Grouping.group, hmore]

theorem packets_ne_nil_of_alone {metaData : Bytes} (hmore : hasPayload utils metaData = false) :
    packets utils [metaData] ≠ [] := by
  simp [packets, Grouping.group, hmore]

/-- The draft of a client that waits for an answer. -/
theorem draft_of_polling (hlawful : utils.Lawful) {tr : List (ClientEvent A (SndC × RcvC))}
    (h : Client.At utils tr done clientPt) (hpolling : Client.Polling clientPt) :
    ∃ draft, Ledger utils tr done draft ∧ draft.unsent = [] ∧ draft.unread = [] ∧
      packets utils draft.posted ≠ [] ∧
      (draft.transcript = [] ∨ ∃ (request : ClientRequest A) (lookup : Lookup),
        draft.transcript = lookup.transcript ∧
        lookup.Valid utils (cacheAfter done) request) := by
  cases h with
  | routeWaiting question ledger asks =>
      exact ⟨_, ledger, rfl, rfl,
        packets_ne_nil_of_alone (hasPayload_question hlawful asks.serialized), .inl rfl⟩
  | waiting lookup message ledger found =>
      exact ⟨_, ledger, rfl, rfl, packets_ne_nil_of_pair _ _, .inr ⟨_, lookup, rfl, found.valid⟩⟩
  | _ => exact hpolling.elim

theorem tally_of_polling {tr : List (ServerEvent A (SndS × RcvS))}
    (h : Connection.At utils router addr tr serverPt) (hpolling : Connection.Polling serverPt) :
    Tally utils router addr tr {} := by
  cases h with
  | top tally ready => exact tally
  | payloadWait tally head => exact tally
  | _ => exact hpolling.elim

theorem idle_of_not_atRest (h : ¬AtRest (clientPt.task utils)) : ¬Idle clientPt := by
  intro hidle
  cases clientPt with
  | top st => exact h (.inl rfl)
  | returned => exact h (.inr rfl)
  | _ => exact hidle.elim

/-- While the client works on a request, one of the two tasks can go on. -/
theorem progress_of_linked (hlawful : utils.Lawful)
    (run : LinkRun utils router addr processor holder channel tr s) (hcalm : Calm Tc Ts tr)
    (hreads : ∀ packet ∈ calls (rights tr), ReadsMeta utils router packet.1)
    (hlinked : Linked utils router addr processor holder channel tr s clientPt serverPt done)
    (hannounced : ∀ draft, Ledger utils (lefts tr) done draft →
      (draft.transcript = [] ∨ ∃ (request : ClientRequest A) (lookup : Lookup),
        draft.transcript = lookup.transcript ∧ lookup.Valid utils (cacheAfter done) request) →
      ∀ unit ∈ done.flatMap Exchange.transcript ++ draft.transcript, AnnouncedUnit utils unit)
    (hrest : ¬AtRest s.left) :
    ∃ e next, Duplex.Step (client utils) (server utils router addr) s e next ∧
      Calm Tc Ts (tr ++ [e]) := by
  have hidle : ¬Idle clientPt := idle_of_not_atRest (hlinked.left_eq ▸ hrest)
  obtain ⟨-, hopen⟩ :=
    Connection.run_staysOpen hlawful.toTotal hlinked.serverRun hreads hcalm.serverQuiet
  by_cases hclient : Client.Polling clientPt
  · cases htoLeft : s.toLeft with
    | cons frame rest =>
        obtain ⟨next, hnext⟩ := client_takes utils hclient frame
        obtain ⟨after, hstep⟩ := step_left router hlinked.left_eq hnext rest htoLeft (by simp)
        exact ⟨_, after, hstep, calm_left hcalm trivial fun call hcall => nomatch hcall⟩
    | nil =>
        by_cases hserver : Connection.Polling serverPt
        · cases htoRight : s.toRight with
          | cons frame rest =>
              obtain ⟨next, hnext⟩ := server_takes utils hserver frame
              obtain ⟨after, hstep⟩ := step_right hlinked.right_eq hnext rest htoRight (by simp)
              exact ⟨_, after, hstep, calm_right hcalm ⟨trivial, trivial, trivial⟩
                fun call hcall => nomatch hcall⟩
          | nil =>
              -- both wait and nothing is under way, which the two accounts exclude
              obtain ⟨draft, hledger, hunsent, hunread, hposted, hlookup⟩ :=
                draft_of_polling hlawful hlinked.ledger hclient
              exact (not_both_polling hlinked hledger hunsent hunread hposted
                (hannounced draft hledger hlookup) (tally_of_polling hlinked.tally hserver)
                htoRight htoLeft).elim
        · by_cases hreturned : serverPt = .returned
          · subst hreturned
            obtain ⟨e, he, hpoll⟩ := List.mem_filterMap.mp hopen
            exact absurd (.inr (ended_of_eof (client_stuck utils) run e he hpoll)) hrest
          · have hunwound : serverPt ≠ .unwound := by
              rintro rfl
              exact hopen
            obtain ⟨e, next, hnext, hquiet, hobeys, hpoll, -⟩ := Connection.enabled utils router
              addr Ts (fun _ => .ok []) hcalm.serverQuiet hserver hreturned hunwound
            obtain ⟨after, hstep⟩ := step_right hlinked.right_eq hnext s.toRight
              (by rw [Connection.frame?_of_poll? hpoll]; rfl) (by rw [hpoll]; simp)
            exact ⟨_, after, hstep, calm_right hcalm hquiet hobeys⟩
  · obtain ⟨e, next, hnext, hquiet, hobeys, hpoll⟩ :=
      Client.enabled utils Tc (lefts tr) hidle hclient
    obtain ⟨after, hstep⟩ := step_left router hlinked.left_eq hnext s.toLeft
      (by rw [Client.frame?_of_poll? hpoll]; rfl) (by rw [hpoll]; simp)
    exact ⟨_, after, hstep, calm_left hcalm hquiet hobeys⟩

/-! ## The whole account -/

/-- Where a run stands, and what both of its histories come to. -/
structure Grounded (utils : Utils A) (router : TfServerRouter A) (addr : SocketAddr)
    (processor : SndC × RcvC) (holder : SndS × RcvS) (channel : ℕ)
    (tr : List (LinkEvent A (SndC × RcvC) (SndS × RcvS)))
    (s : State (ClientM A (SndC × RcvC) (ClientState (SndC × RcvC) ⊕ Unit))
      (ServerM A (SndS × RcvS) (ConnectionState (SndS × RcvS) ⊕ Unit)) Bytes Bytes)
    (clientPt : Client.Point A (SndC × RcvC)) (serverPt : Connection.Point A (SndS × RcvS))
    (done : List (Exchange A)) (draft : Draft A) (owed : Owed A) (rounds : List (Round A)) :
    Prop where
  linked : Linked utils router addr processor holder channel tr s clientPt serverPt done
  ledger : Ledger utils (lefts tr) done draft
  drafted : Drafted utils done draft
  tally : Tally utils router addr (rights tr) owed
  matched : Matched utils router addr tr (done.flatMap Exchange.transcript ++ draft.transcript)
    owed rounds
  sound : ∀ x ∈ done, x.Sound router
  announced : ∀ unit ∈ done.flatMap Exchange.transcript, AnnouncedUnit utils unit
  cacheAfter : CacheSound router (cacheAfter done)
  cache : CacheSound router (cacheOf (learnt (lefts tr)))

/-- As long as every request that reaches the server carries data, both
histories are in step. -/
theorem grounded_of_linked (hlawful : utils.Lawful)
    (hlinked : Linked utils router addr processor holder channel tr s clientPt serverPt done)
    (hdata : ∀ request ∈ taken (lefts tr), CarriesData router request) :
    ∃ draft owed rounds, Grounded utils router addr processor holder channel tr s clientPt serverPt
      done draft owed rounds := by
  obtain ⟨draft, hledger, hdrafted⟩ := hlinked.ledger.drafted
  obtain ⟨owed, htally, -⟩ := hlinked.tally.account
  obtain ⟨rounds, hmatched⟩ := matched_of_linked hlinked hledger htally
  have hdone : ∀ x ∈ done, CarriesData router x.request := by
    intro x hmem
    refine hdata _ ?_
    rw [hledger.took]
    exact List.mem_append_left _ (List.mem_map_of_mem hmem)
  obtain ⟨hsound, hannounced, hcache⟩ :=
    sound_of_corresponds hlawful hledger.valid hmatched.corresponds.initial hdone
  refine ⟨draft, owed, rounds, hlinked, hledger, hdrafted, htally, hmatched, hsound, hannounced,
    hcache, ?_⟩
  rw [hledger.learned]
  rcases hdrafted.learnt with hnone | ⟨request, lookup, more, hlearnt, htranscript, hvalid⟩
  · rwa [hnone, List.append_nil]
  · -- what the request under way has learnt is the answer to its question
    have hlookup := hmatched.corresponds
    rw [htranscript, ← List.append_assoc] at hlookup
    have hsound := (lookup_sound hlawful hlookup.initial hannounced hcache hvalid).2.2
    rwa [hlearnt, cacheOf, List.foldl_append]

theorem run_grounded (hlawful : utils.Lawful) (htransparent : Transparent Tc Ts processor holder)
    (run : LinkRun utils router addr processor holder channel tr s) (hcalm : Calm Tc Ts tr)
    (hdata : ∀ request ∈ taken (lefts tr), CarriesData router request)
    (hreads : ∀ request ∈ taken (lefts tr), ReadsType router request) :
    ∃ clientPt serverPt done draft owed rounds,
      Grounded utils router addr processor holder channel tr s clientPt serverPt done draft owed
        rounds := by
  obtain ⟨clientPt, serverPt, done, hlinked⟩ := run_linked hlawful htransparent run hcalm hreads
  exact ⟨clientPt, serverPt, done, grounded_of_linked hlawful hlinked hdata⟩

/-- The units of a request under way are announced as well. -/
theorem Grounded.announced_lookup {rounds : List (Round A)} (hlawful : utils.Lawful)
    (h : Grounded utils router addr processor holder channel tr s clientPt serverPt done draft owed
      rounds) {other : Draft A} (hledger : Ledger utils (lefts tr) done other)
    (hlookup : other.transcript = [] ∨ ∃ (request : ClientRequest A) (lookup : Lookup),
      other.transcript = lookup.transcript ∧ lookup.Valid utils (Client.cacheAfter done) request) :
    ∀ unit ∈ done.flatMap Exchange.transcript ++ other.transcript, AnnouncedUnit utils unit := by
  intro unit hmem
  rcases List.mem_append.mp hmem with hmem | hmem
  · exact h.announced unit hmem
  · rcases hlookup with hnone | ⟨request, lookup, htranscript, hvalid⟩
    · rw [hnone] at hmem
      cases hmem
    · obtain ⟨rounds, hmatched⟩ := matched_of_linked h.linked hledger h.tally
      have hcorresponds := hmatched.corresponds
      rw [htranscript] at hcorresponds hmem
      exact (lookup_sound hlawful hcorresponds h.announced h.cacheAfter hvalid).2.1 unit hmem

/-- **Request and response agree.**  In every state that any interleaving of
the two tasks can reach on an undisturbed connection, as long as every request
that reaches the server carries data, and the server can read the structure types
of the requests. -/
theorem run_agreement (hlawful : utils.Lawful)
    (htransparent : Transparent Tc Ts processor holder)
    (run : LinkRun utils router addr processor holder channel tr s) (hcalm : Calm Tc Ts tr)
    (hdata : ∀ request ∈ taken (lefts tr), CarriesData router request)
    (hreads : ∀ request ∈ taken (lefts tr), ReadsType router request) :
    ∃ done rounds, Agreement Tc Ts utils router addr tr s done rounds := by
  obtain ⟨clientPt, serverPt, done, draft, owed, rounds, h⟩ :=
    run_grounded hlawful htransparent run hcalm hdata hreads
  refine ⟨done, rounds, ⟨draft.request, h.ledger.took, h.drafted.request⟩, h.ledger.valid, h.sound,
    ?_, ⟨_, _, h.matched.called, h.matched.handled, h.matched.replied⟩, h.matched.corresponds.valid,
    h.matched.corresponds.initial.agree h.announced, h.cache, ?_, ?_,
    run_length htransparent run hcalm⟩
  · rw [h.ledger.handed, h.drafted.delivered, List.append_nil]
  · intro hrest
    have hledger := ledger_of_atRest h.linked hrest
    refine ⟨by simpa using hledger.took, settled_of_matched h.linked hledger h.tally ?_ h.announced⟩
    exact ⟨h.matched.called, h.matched.handled, h.matched.replied, h.matched.corresponds.initial⟩
  · exact progress_of_linked hlawful run hcalm
      (reads_of_calls hlawful htransparent run hcalm.lossless hreads) h.linked
      fun other hledger hlookup => h.announced_lookup hlawful hledger hlookup

/-! ## Conversations with the echo handler -/

section Echo

open Reference (app echo metaBytes)

/-- Two processors that change nothing. -/
abbrev plain : Hooks.Pair Unit Unit Bytes := Hooks.plain Bytes

/-- A request for the echo handler. -/
def echoRequest (data : Bytes) (consumer : ℕ) : ClientRequest app :=
  ⟨⟨.newId 0, data, true⟩, consumer⟩

/-- Its meta frame. -/
def echoMeta (data : Bytes) : Bytes := metaBytes (metaOf (echoRequest data 0) 0)

/-- A request for the handler of a name. -/
def namedRequest (name : String) (consumer : ℕ) : ClientRequest app :=
  ⟨⟨.newNamed name, [1], true⟩, consumer⟩

/-- The question for the id of a name. -/
def question (name : String) : Bytes := Reference.reqBytes ⟨.handlerMetaReq, name⟩

/-- The client sends the frames of a request. -/
def posting (data : Bytes) : List (ClientEvent app (Unit × Unit)) :=
  [⟨.postProcess ((), ()) (echoMeta data), (((), ()), echoMeta data)⟩,
    ⟨.postProcess ((), ()) data, (((), ()), data)⟩,
    ⟨.send .metaFrame (echoMeta data), .ok ()⟩, ⟨.send .payload data, .ok ()⟩]

/-- The client takes a request and sends it. -/
def sending (data : Bytes) (consumer : ℕ) : List (ClientEvent app (Unit × Unit)) :=
  ⟨.recv, some (echoRequest data consumer)⟩ :: posting data

/-- The client takes a request by name and asks for its id. -/
def asking (name : String) (consumer : ℕ) : List (ClientEvent app (Unit × Unit)) :=
  [⟨.recv, some (namedRequest name consumer)⟩,
    ⟨.postProcess ((), ()) (question name), (((), ()), question name)⟩,
    ⟨.send .route (question name), .ok ()⟩]

/-- The client reads an answer. -/
def listening (frame : Bytes) : List (ClientEvent app (Unit × Unit)) :=
  [⟨.next, some (.ok frame)⟩, ⟨.preProcess ((), ()) frame, (((), ()), frame)⟩]

/-- The client reads a frame and hands it to a consumer. -/
def reading (frame : Bytes) (consumer : ℕ) : List (ClientEvent app (Unit × Unit)) :=
  [⟨.next, some (.ok frame)⟩, ⟨.preProcess ((), ()) frame, (((), ()), frame)⟩,
    ⟨.deliver consumer frame, .ok ()⟩]

/-- The server reads a frame. -/
def hearing (frame : Bytes) : List (ServerEvent app (Unit × Unit)) :=
  [⟨.next, some (.ok frame)⟩, ⟨.preProcess ((), ()) frame, (((), ()), frame)⟩]

/-- The server has the echo handler called. -/
def echoing (metaData data : Bytes) : List (ServerEvent app (Unit × Unit)) :=
  [⟨.servePacket metaData data, ()⟩,
    ⟨.serve ⟨echo.serve, echo.state, ⟨0, 0⟩, some ⟨0⟩, true, data⟩,
      .finished (.ok data) (some ⟨0⟩) none⟩,
    ⟨.postProcess ((), ()) data, (((), ()), data)⟩, ⟨.send data, .ok ()⟩, ⟨.tryRecv 0, none⟩]

/-- The server answers a request with data. -/
def answering (data : Bytes) : List (ServerEvent app (Unit × Unit)) :=
  hearing (echoMeta data) ++ hearing data ++ echoing (echoMeta data) data

/-- The server tells the id of the echo handler. -/
def telling : List (ServerEvent app (Unit × Unit)) :=
  hearing (question "echo") ++
    [⟨.servePacket (question "echo") [], ()⟩,
      ⟨.postProcess ((), ()) (Reference.ansBytes ⟨.handlerMetaAns, 0⟩),
        (((), ()), Reference.ansBytes ⟨.handlerMetaAns, 0⟩)⟩,
      ⟨.send (Reference.ansBytes ⟨.handlerMetaAns, 0⟩), .ok ()⟩, ⟨.tryRecv 0, none⟩]

/-- The reply to a frame that is no packet. -/
def malformed : Bytes := Reference.errBytes ⟨.malformedMetaInfo none⟩

/-- The server answers such a frame, if it is empty. -/
def refusing : List (ServerEvent app (Unit × Unit)) :=
  [⟨.servePacket [] [], ()⟩, ⟨.postProcess ((), ()) malformed, (((), ()), malformed)⟩,
    ⟨.send malformed, .ok ()⟩, ⟨.tryRecv 0, none⟩]

theorem posting_run (st : ClientState (Unit × Unit)) (request : ClientRequest app) :
    Run (Client.Next Reference.utils) (.preparing st request 0 (echoMeta request.req.data))
      (posting request.req.data) (.waiting st request 0) :=
  Run.cons (.prepared _ _ _ _ _ _) <| Run.cons (.preparedData _ request _ _ _ _) <|
    Run.cons (.metaSent _ _ _ _ _) <| Run.cons (.payloadSent _ _ _ _) Run.nil

theorem sending_run (data : Bytes) (consumer : ℕ) :
    Run (Client.Next Reference.utils) (.top (Client.initial ((), ()))) (sending data consumer)
      (.waiting (Client.initial ((), ())) (echoRequest data consumer) 0) :=
  Run.cons (.taken _ _) (posting_run (Client.initial ((), ())) (echoRequest data consumer))

theorem asking_run (name : String) (consumer : ℕ) :
    Run (Client.Next Reference.utils) (.top (Client.initial ((), ()))) (asking name consumer)
      (.routeWaiting (Client.initial ((), ())) (namedRequest name consumer) name) :=
  Run.cons (.taken _ _) <| Run.cons (.asked _ _ _ _ _ _) <| Run.cons (.routeSent _ _ _ _) Run.nil

theorem response_run (st : ClientState (Unit × Unit)) (request : ClientRequest app)
    (frame : Bytes) :
    Run (Client.Next Reference.utils) (.waiting st request 0) (reading frame request.consumer)
      (.top st) :=
  Run.cons (.responseFrame _ _ _ _) <| Run.cons (.responseRead _ _ _ _ _ _) <|
    Run.cons (.delivered _ request _ _ _) Run.nil

theorem reading_run (data frame : Bytes) (consumer : ℕ) :
    Run (Client.Next Reference.utils)
      (.waiting (Client.initial ((), ())) (echoRequest data consumer) 0)
      (reading frame consumer) (.top (Client.initial ((), ()))) :=
  response_run (Client.initial ((), ())) (echoRequest data consumer) frame

theorem hasPayload_echoMeta (data : Bytes) :
    hasPayload Reference.utils (echoMeta data) = !data.isEmpty := by
  have haccess : Reference.utils.accessMeta (echoMeta data) = .ok (metaOf (echoRequest data 0) 0) :=
    Reference.accessMeta_metaBytes _
  unfold hasPayload
  rw [haccess]
  rfl

theorem dispatch_echoMeta (data payload : Bytes) (routeTx : Option Sender) :
    Reference.router.dispatch Reference.utils (echoMeta data) payload ⟨0, 0⟩ routeTx =
      .handled ⟨echo.serve, echo.state, ⟨0, 0⟩, routeTx, true, payload⟩ := by
  have haccess : Reference.utils.accessMeta (echoMeta data) = .ok (metaOf (echoRequest data 0) 0) :=
    Reference.accessMeta_metaBytes _
  simp only [TfServerRouter.dispatch, haccess]
  rfl

theorem echoing_run (data payload : Bytes) :
    Run (Connection.Next Reference.utils Reference.router ⟨0, 0⟩)
      (.calling (Connection.initial ((), ()) 0) (echoMeta data) payload)
      (echoing (echoMeta data) payload) (.top (Connection.initial ((), ()) 0)) := by
  refine Run.cons (.called _ _ _) ?_
  rw [dispatch_echoMeta]
  exact Run.cons (.served _ _ _) <| Run.cons (.processed _ _ _ _) <| Run.cons (.sent _ _ _) <|
    Run.cons (.again _ rfl) Run.nil

/-- The server reads a meta frame that announces a payload. -/
theorem announced_run {data : Bytes} (hdata : data ≠ []) :
    Run (Connection.Next Reference.utils Reference.router ⟨0, 0⟩)
      (.top (Connection.initial ((), ()) 0)) (hearing (echoMeta data))
      (.payloadWait (Connection.initial ((), ()) 0) (echoMeta data)) := by
  have hmore : hasPayload Reference.utils (echoMeta data) = true := by
    rw [hasPayload_echoMeta]
    simpa using hdata
  exact Run.cons (.metaFrame _ _) <| Run.cons (.announced _ _ _ _ hmore) Run.nil

/-- It takes the next frame for the payload. -/
theorem heard_run {data : Bytes} (hdata : data ≠ []) (payload : Bytes) :
    Run (Connection.Next Reference.utils Reference.router ⟨0, 0⟩)
      (.top (Connection.initial ((), ()) 0))
      (hearing (echoMeta data) ++ hearing payload ++ echoing (echoMeta data) payload)
      (.top (Connection.initial ((), ()) 0)) := by
  have hpayload : Run (Connection.Next Reference.utils Reference.router ⟨0, 0⟩)
      (.payloadWait (Connection.initial ((), ()) 0) (echoMeta data)) (hearing payload)
      (.calling (Connection.initial ((), ()) 0) (echoMeta data) payload) :=
    Run.cons (.payloadFrame _ _ _) <| Run.cons (.payloadRead _ _ _ _ _) Run.nil
  exact ((announced_run hdata).append hpayload).append (echoing_run data payload)

theorem telling_run : Run (Connection.Next Reference.utils Reference.router ⟨0, 0⟩)
    (.top (Connection.initial ((), ()) 0)) telling (.top (Connection.initial ((), ()) 0)) := by
  have hquestion : Reference.utils.toBytesReq ⟨.handlerMetaReq, "echo"⟩ =
      some (question "echo") := rfl
  have hmore := hasPayload_question Reference.lawful hquestion
  have hdispatch : Reference.router.dispatch Reference.utils (question "echo") [] ⟨0, 0⟩
      (some ⟨0⟩) = .answered (.ok (Reference.ansBytes ⟨.handlerMetaAns, 0⟩)) := by
    rw [dispatch_question Reference.lawful hquestion]
    rfl
  refine Run.cons (.metaFrame _ _) <| Run.cons (.alone _ _ _ _ hmore) <|
    Run.cons (.called _ _ _) ?_
  show Run _ (afterDispatch _ _ (Reference.router.dispatch Reference.utils (question "echo") []
    ⟨0, 0⟩ (some ⟨0⟩))) _ _
  rw [hdispatch]
  exact Run.cons (.processed _ _ _ _) <| Run.cons (.sent _ _ _) <|
    Run.cons (.again _ rfl) Run.nil

/-- The answers to a request without data: the reply, and the reply to the
payload frame. -/
theorem misheard_run : Run (Connection.Next Reference.utils Reference.router ⟨0, 0⟩)
    (.top (Connection.initial ((), ()) 0))
    (hearing (echoMeta []) ++ echoing (echoMeta []) [] ++ hearing [] ++ refusing)
    (.top (Connection.initial ((), ()) 0)) := by
  have hmeta : Run (Connection.Next Reference.utils Reference.router ⟨0, 0⟩)
      (.top (Connection.initial ((), ()) 0)) (hearing (echoMeta []))
      (.calling (Connection.initial ((), ()) 0) (echoMeta []) []) :=
    Run.cons (.metaFrame _ _) <| Run.cons (.alone _ _ _ _ (hasPayload_echoMeta [])) Run.nil
  have hrefused : Run (Connection.Next Reference.utils Reference.router ⟨0, 0⟩)
      (.top (Connection.initial ((), ()) 0)) (hearing [] ++ refusing)
      (.top (Connection.initial ((), ()) 0)) :=
    Run.cons (.metaFrame _ _) <| Run.cons (.alone _ _ _ _ rfl) <| Run.cons (.called _ _ _) <|
      Run.cons (.processed _ _ _ _) <| Run.cons (.sent _ _ _) <| Run.cons (.again _ rfl) Run.nil
  rw [List.append_assoc]
  exact (hmeta.append (echoing_run [] [])).append hrefused

/-- The two tasks at the start of their loops, with frames under way. -/
abbrev resting (toRight toLeft : List Bytes) :
    State (ClientM app (Unit × Unit) (ClientState (Unit × Unit) ⊕ Unit))
      (ServerM app (Unit × Unit) (ConnectionState (Unit × Unit) ⊕ Unit)) Bytes Bytes :=
  ⟨Client.connectionMain Reference.utils ((), ()),
    Connection.handleConnection Reference.utils Reference.router ⟨0, 0⟩ ((), ()) 0, toRight, toLeft⟩

theorem posting_calm (data : Bytes) :
    ∀ e ∈ posting data, Client.quietLaw [] e ∧ Client.obeys plain e := by
  simp [posting, Client.quietLaw, Client.obeys, Hooks.Pair.Obeyed, Hooks.Pair.answer, Hooks.plain]
  exact ⟨rfl, rfl⟩

theorem sending_calm (data : Bytes) (consumer : ℕ) :
    ∀ e ∈ sending data consumer, Client.quietLaw [] e ∧ Client.obeys plain e := by
  rw [sending, List.forall_mem_cons]
  exact ⟨⟨trivial, fun _ hhook => nomatch hhook⟩, posting_calm data⟩

theorem asking_calm (name : String) (consumer : ℕ) :
    ∀ e ∈ asking name consumer, Client.quietLaw [] e ∧ Client.obeys plain e := by
  simp [asking, Client.quietLaw, Client.obeys, Hooks.Pair.Obeyed, Hooks.Pair.answer, Hooks.plain]
  rfl

theorem listening_calm (frame : Bytes) :
    ∀ e ∈ listening frame, Client.quietLaw [] e ∧ Client.obeys plain e := by
  simp [listening, Client.quietLaw, Client.obeys, Hooks.Pair.Obeyed, Hooks.Pair.answer, Hooks.plain]

theorem reading_calm (frame : Bytes) (consumer : ℕ) :
    ∀ e ∈ reading frame consumer, Client.quietLaw [] e ∧ Client.obeys plain e := by
  simp [reading, Client.quietLaw, Client.obeys, Hooks.Pair.Obeyed, Hooks.Pair.answer, Hooks.plain]

theorem hearing_calm (frame : Bytes) :
    ∀ e ∈ hearing frame, Connection.Uneventful e ∧ Connection.obeys plain e := by
  simp [hearing, Connection.Uneventful, Connection.obeys, Hooks.Pair.Obeyed, Hooks.Pair.answer,
    Hooks.plain]

theorem echoing_calm (metaData data : Bytes) :
    ∀ e ∈ echoing metaData data, Connection.Uneventful e ∧ Connection.obeys plain e := by
  simp [echoing, Connection.Uneventful, Connection.obeys, Hooks.Pair.Obeyed, Hooks.Pair.answer,
    Hooks.plain]
  exact ⟨⟨_, rfl⟩, rfl, rfl⟩

theorem answering_calm (data : Bytes) :
    ∀ e ∈ answering data, Connection.Uneventful e ∧ Connection.obeys plain e := by
  simp only [answering, List.forall_mem_append]
  exact ⟨⟨hearing_calm _, hearing_calm _⟩, echoing_calm _ _⟩

theorem telling_calm : ∀ e ∈ telling, Connection.Uneventful e ∧ Connection.obeys plain e := by
  simp [telling, hearing, Connection.Uneventful, Connection.obeys, Hooks.Pair.Obeyed,
    Hooks.Pair.answer, Hooks.plain]
  exact ⟨rfl, rfl⟩

theorem refusing_calm : ∀ e ∈ refusing, Connection.Uneventful e ∧ Connection.obeys plain e := by
  simp [refusing, Connection.Uneventful, Connection.obeys, Hooks.Pair.Obeyed, Hooks.Pair.answer,
    Hooks.plain]
  exact ⟨rfl, rfl⟩

/-- Histories of events that are calm in themselves. -/
theorem calm_of_events {tr : List (LinkEvent app (Unit × Unit) (Unit × Unit))}
    (hleft : ∀ e ∈ lefts tr, Client.quietLaw [] e ∧ Client.obeys plain e)
    (hright : ∀ e ∈ rights tr, Connection.Uneventful e ∧ Connection.obeys plain e) :
    Calm plain plain tr where
  clientQuiet := along_const.mpr fun e hmem => (hleft e hmem).1
  clientHooks e hmem := (hleft e hmem).2
  serverQuiet := Connection.quietLaw_of_uneventful fun e hmem => (hright e hmem).1
  serverHooks e hmem := (hright e hmem).2

/-- The client's variables once it knows the echo handler. -/
def acquainted : ClientState (Unit × Unit) := ⟨((), ()), [("echo", 0)]⟩

/-- The client reads the id that it has asked for, and sends the request. -/
def learning : List (ClientEvent app (Unit × Unit)) :=
  listening (Reference.ansBytes ⟨.handlerMetaAns, 0⟩) ++
    ⟨.insertRoute "echo" 0, ()⟩ :: posting [1]

/-- The client reads the reply, and sends a request for the name it knows. -/
def recalling : List (ClientEvent app (Unit × Unit)) :=
  reading [1] 0 ++ ⟨.recv, some (namedRequest "echo" 1)⟩ :: posting [1]

/-- Two requests by the name `"echo"`, which is asked for once. -/
def byName : List (LinkEvent app (Unit × Unit) (Unit × Unit)) :=
  (asking "echo" 0).map .inl ++ telling.map .inr ++ learning.map .inl ++
    (answering [1]).map .inr ++ recalling.map .inl ++ (answering [1]).map .inr ++
    (reading [1] 1).map .inl

theorem learning_run :
    Run (Client.Next Reference.utils)
      (.routeWaiting (Client.initial ((), ())) (namedRequest "echo" 0) "echo") learning
      (.waiting acquainted (namedRequest "echo" 0) 0) :=
  Run.cons (.routeFrame _ _ _ _) <| Run.cons (.answered _ _ _ _ _ _) <|
    Run.cons (.learned _ _ _ _) (posting_run acquainted (namedRequest "echo" 0))

theorem recalling_run :
    Run (Client.Next Reference.utils) (.waiting acquainted (namedRequest "echo" 0) 0) recalling
      (.waiting acquainted (namedRequest "echo" 1) 0) :=
  (response_run acquainted (namedRequest "echo" 0) [1]).append
    (Run.cons (.taken _ _) (posting_run acquainted (namedRequest "echo" 1)))

theorem byName_run :
    LinkRun Reference.utils Reference.router ⟨0, 0⟩ ((), ()) ((), ()) 0 byName
      ⟨Client.turn Reference.utils acquainted,
        Connection.handleConnection Reference.utils Reference.router ⟨0, 0⟩ ((), ()) 0, [],
        []⟩ := by
  have hdata : ([1] : Bytes) ≠ [] := by decide
  have hanswering := Connection.run_of_points (heard_run hdata [1])
  refine Run.append (Run.append (Run.append (Run.append (Run.append (Run.append
    (Duplex.run_left (Client.run_of_points (asking_run "echo" 0)) rfl ?_)
    (Duplex.run_right (Connection.run_of_points telling_run) rfl ?_))
    (Duplex.run_left (Client.run_of_points learning_run) rfl ?_))
    (Duplex.run_right hanswering rfl ?_))
    (Duplex.run_left (Client.run_of_points recalling_run) rfl ?_))
    (Duplex.run_right hanswering rfl ?_))
    (Duplex.run_left (Client.run_of_points
      (response_run acquainted (namedRequest "echo" 1) [1])) rfl ?_)
  · simp [asking, client]
  · simp [telling, hearing, server]
  · simp [learning, listening, posting, client]
  · simp [answering, hearing, echoing, server]
  · simp [recalling, reading, posting, client]
  · simp [answering, hearing, echoing, server]
  · simp [reading, client]

theorem byName_calm : Calm plain plain byName := by
  have hsilent (e : ClientEvent app (Unit × Unit)) (hquiet : Client.quietLaw [] e)
      (hhook : Client.hook? e = none) : Client.quietLaw [] e ∧ Client.obeys plain e :=
    ⟨hquiet, fun _ h => nomatch hhook.symm.trans h⟩
  apply calm_of_events
  · simp only [byName, learning, recalling, lefts_append, lefts_map_inl, lefts_map_inr,
      List.append_nil, List.forall_mem_append, List.forall_mem_cons]
    exact ⟨⟨⟨asking_calm _ _, listening_calm _, hsilent _ trivial rfl, posting_calm _⟩,
      reading_calm _ _, hsilent _ trivial rfl, posting_calm _⟩, reading_calm _ _⟩
  · simp only [byName, rights_append, rights_map_inl, rights_map_inr, List.append_nil,
      List.nil_append, List.forall_mem_append]
    exact ⟨⟨telling_calm, answering_calm _⟩, answering_calm _⟩

theorem taken_byName : taken (lefts byName) = [namedRequest "echo" 0, namedRequest "echo" 1] := rfl

theorem run_agreement_byName :
    deliveries (lefts byName) = [(0, [1]), (1, [1])] ∧ ∃ done rounds,
      Agreement plain plain Reference.utils Reference.router ⟨0, 0⟩ byName
        ⟨Client.turn Reference.utils acquainted,
          Connection.handleConnection Reference.utils Reference.router ⟨0, 0⟩ ((), ()) 0, [], []⟩
        done rounds := by
  refine ⟨rfl, run_agreement Reference.lawful ⟨Hooks.inverts_plain, Hooks.inverts_plain⟩ byName_run
    byName_calm ?_ fun request _ => Reference.deserialize_router _⟩
  intro request hmem id _
  rw [taken_byName] at hmem
  rcases List.mem_pair.mp hmem with rfl | rfl <;> decide

/-- A request without data, and one with data after it. -/
def emptyThenData : List (LinkEvent app (Unit × Unit) (Unit × Unit)) :=
  (sending [] 0).map .inl ++
    (hearing (echoMeta []) ++ echoing (echoMeta []) [] ++ hearing [] ++ refusing).map .inr ++
    (reading [] 0 ++ sending [1] 1 ++ reading malformed 1).map .inl ++
    (answering [1]).map .inr

theorem emptyThenData_run :
    LinkRun Reference.utils Reference.router ⟨0, 0⟩ ((), ()) ((), ()) 0 emptyThenData
      (resting [] [[1]]) := by
  have hclient := ((reading_run [] [] 0).append (sending_run [1] 1)).append
    (reading_run [1] malformed 1)
  refine Run.append (Run.append (Run.append
    (Duplex.run_left (Client.run_of_points (sending_run [] 0)) rfl ?_)
    (Duplex.run_right (Connection.run_of_points misheard_run) rfl ?_))
    (Duplex.run_left (Client.run_of_points hclient) rfl ?_))
    (Duplex.run_right (Connection.run_of_points (heard_run (by decide) [1])) rfl ?_)
  · simp [sending, posting, client]
  · simp [hearing, echoing, refusing, server]
  · simp [reading, sending, posting, client]
  · simp [answering, hearing, echoing, server]

theorem emptyThenData_calm : Calm plain plain emptyThenData := by
  apply calm_of_events
  · simp only [emptyThenData, lefts_append, lefts_map_inl, lefts_map_inr, List.append_nil,
      List.forall_mem_append]
    exact ⟨sending_calm _ _, ⟨reading_calm _ _, sending_calm _ _⟩, reading_calm _ _⟩
  · simp only [emptyThenData, rights_append, rights_map_inl, rights_map_inr, List.append_nil,
      List.nil_append, List.forall_mem_append]
    exact ⟨⟨⟨⟨hearing_calm _, echoing_calm _ _⟩, hearing_calm _⟩, refusing_calm⟩,
      answering_calm _⟩

/-- A request without data shifts the answers: the consumer `1` is handed the
refusal of the empty payload frame, and the reply to its request is left
unread. -/
theorem agreement_fails : ∃ s,
    LinkRun Reference.utils Reference.router ⟨0, 0⟩ ((), ()) ((), ()) 0 emptyThenData s ∧
      Calm plain plain emptyThenData ∧ Transparent plain plain ((), ()) ((), ()) ∧ AtRest s.left ∧
      taken (lefts emptyThenData) = [echoRequest [] 0, echoRequest [1] 1] ∧
      deliveries (lefts emptyThenData) = [(0, []), (1, malformed)] ∧ s.toLeft = [[1]] ∧
      ¬∃ done rounds, Agreement plain plain Reference.utils Reference.router ⟨0, 0⟩ emptyThenData s
        done rounds := by
  refine ⟨resting [] [[1]], emptyThenData_run, emptyThenData_calm,
    ⟨Hooks.inverts_plain, Hooks.inverts_plain⟩, .inl rfl, rfl, rfl, rfl, ?_⟩
  rintro ⟨done, rounds, h⟩
  obtain ⟨-, -, -, -, hunread⟩ := h.settled (.inl rfl)
  cases hunread

end Echo

end Link

end FourthServer
