import FourthServer.Library.Polling
import FourthServer.Link.Agreement

/-!
# Replies after a failed read

The client takes the next frame it reads for the reply to the request it has
just sent.  Here it talks to a server that gives one reply for each request, in
order, and some of the replies cannot be decoded.  The client gives up a
request whose read has failed, and goes on.  But the poll after an error yields
nothing, so the request after it fails without its reply having been read, and
that reply is read for the request after that.
-/

namespace FourthServer

open Resumption Trace Duplex

namespace Client

variable {A : App} {P : Type}

/-! ## The client's side -/

/-- The item an event takes off the socket: a frame, or one that could not be
decoded. -/
@[simp] def item? : ClientEvent A P → Option (Except ErrorKind Bytes)
  | ⟨.next, some item⟩ => some item
  | _ => none

/-- No send is rejected. -/
def Accepted : ClientEvent A P → Prop
  | ⟨.send _ _, res⟩ => res = .ok ()
  | _ => True

/-- A response goes to the consumer of the last request taken, and is what
`pre_process_traffic` made of the last frame read. -/
structure LastRead (before : List (ClientEvent A P)) (consumer : ℕ) (response : Bytes) : Prop where
  request : ∃ request, (taken before).getLast? = some request ∧ request.consumer = consumer
  frame : ∃ frame, (Polling.items (polls before)).getLast? = some (.ok frame) ∧
    (inputs before).getLast? = some frame ∧ (responses before).getLast? = some response

/-- A consumer is handed the reply of its own request's number. -/
def ownReply (before : List (ClientEvent A P)) : ClientEvent A P → Prop
  | ⟨.deliver consumer response, _⟩ => LastRead before consumer response ∧
      (Polling.items (polls before)).length = (taken before).length
  | _ => True

variable {utils : Utils A} {tr : List (ClientEvent A P)} {pt next : Point A P}
  {e : ClientEvent A P}

theorem items_polls (tr : List (ClientEvent A P)) :
    Polling.items (polls tr) = tr.filterMap item? := by
  rw [Polling.items, polls, List.filterMap_filterMap]
  congr 1
  funext ⟨op, answer⟩
  cases op with
  | next => cases answer <;> rfl
  | _ => rfl

/-- As many polls as requests, less those ahead; and the reads so far were in
step when the deliveries were. -/
structure Level (tr : List (ClientEvent A P)) (ahead : ℕ) : Prop where
  count : (taken tr).length = (polls tr).length + ahead
  agree : Along Polling.inStep (polls tr) ↔ Along ownReply tr

/-- A frame was read for the request, and not delivered yet. -/
structure Read (tr : List (ClientEvent A P)) (frame : Bytes) : Prop where
  count : (taken tr).length = (polls tr).length
  last : (Polling.items (polls tr)).getLast? = some (.ok frame)
  agree : Along Polling.inStep (polls tr) ↔
    Along ownReply tr ∧ (Polling.items (polls tr)).length = (taken tr).length

/-- How the reads and the deliveries stand at each control point. -/
def Standing (tr : List (ClientEvent A P)) : Point A P → Prop
  | .top _ => Level tr 0
  | .warning _ _ => Level tr 0
  | .returned => Level tr 0
  | .preparing _ _ _ _ => Level tr 1
  | .preparingData _ _ _ _ => Level tr 1
  | .metaSending _ _ _ _ _ => Level tr 1
  | .payloadSending _ _ _ _ => Level tr 1
  | .waiting _ _ _ => Level tr 1
  | .responseIn _ _ _ frame => Read tr frame
  | .delivering _ _ _ response => ∃ frame, Read tr frame ∧
      (inputs tr).getLast? = some frame ∧ (responses tr).getLast? = some response
  | _ => False

theorem Level.silent {ahead : ℕ} (h : Level tr ahead) (hpoll : poll? e = none)
    (htaken : taken? e = none) (hown : ownReply tr e) : Level (tr ++ [e]) ahead where
  count := by
    rw [taken_snoc, polls_snoc, hpoll, htaken, Option.toList_none, Option.toList_none,
      List.append_nil, List.append_nil]
    exact h.count
  agree := by
    rw [along_snoc, polls_snoc, hpoll, Option.toList_none, List.append_nil, h.agree]
    simp [hown]

theorem Level.take (h : Level tr 0) (request : ClientRequest A) :
    Level (tr ++ [⟨.recv, some request⟩]) 1 where
  count := by simpa using h.count
  agree := by simpa [along_snoc, ownReply] using h.agree

theorem Level.read (h : Level tr 1) (frame : Bytes) :
    Read (tr ++ [⟨.next, some (.ok frame)⟩]) frame where
  count := by simpa using h.count
  last := by simp
  agree := by
    have hpolls : polls (tr ++ [⟨.next, some (.ok frame)⟩]) = polls tr ++ [some (.ok frame)] :=
      polls_snoc _ _
    have hcount := h.count
    rw [hpolls, along_snoc, along_snoc, ← h.agree]
    simp [Polling.inStep, ownReply]
    omega

theorem Level.miss (h : Level tr 1) {answer : Option (Except ErrorKind Bytes)}
    (hanswer : ∀ frame, answer ≠ some (.ok frame)) : Level (tr ++ [⟨.next, answer⟩]) 0 where
  count := by simpa using h.count
  agree := by
    have hpolls : polls (tr ++ [⟨.next, answer⟩]) = polls tr ++ [answer] := polls_snoc _ _
    rw [hpolls, along_snoc, along_snoc, ← h.agree]
    match answer with
    | some (.ok frame) => exact absurd rfl (hanswer frame)
    | some (.error kind) => simp [Polling.inStep, ownReply]
    | none => simp [Polling.inStep, ownReply]

theorem Read.silent {frame : Bytes} (h : Read tr frame) (hpoll : poll? e = none)
    (htaken : taken? e = none) (hown : ownReply tr e) : Read (tr ++ [e]) frame where
  count := by
    rw [taken_snoc, polls_snoc, hpoll, htaken, Option.toList_none, Option.toList_none,
      List.append_nil, List.append_nil]
    exact h.count
  last := by
    rw [polls_snoc, hpoll, Option.toList_none, List.append_nil]
    exact h.last
  agree := by
    rw [along_snoc, taken_snoc, polls_snoc, hpoll, htaken, Option.toList_none, Option.toList_none,
      List.append_nil, List.append_nil, h.agree]
    simp [hown]

theorem Read.deliver {frame response : Bytes} {consumer : ℕ} (h : Read tr frame)
    (hlast : LastRead tr consumer response) (res : Except Bytes Unit) :
    Level (tr ++ [⟨.deliver consumer response, res⟩]) 0 where
  count := by simpa using h.count
  agree := by
    rw [along_snoc, polls_snoc]
    simp [ownReply, hlast, h.agree]

theorem standing_entry (htotal : utils.Total) (h : Level tr 1) (st : ClientState P)
    {request : ClientRequest A} (hid : request.req.handlerInfo.id ≠ none) :
    Standing tr (entry utils st request) := by
  obtain ⟨id, hid⟩ := Option.ne_none_iff_exists'.mp hid
  obtain ⟨message, hmessage⟩ := htotal.metaBytes (metaOf request id)
  simp only [entry, hid, afterId, hmessage]
  exact h

theorem next_standing (htotal : utils.Total) (hcurrent : Current tr pt) (h : Standing tr pt)
    (hnext : Next utils pt e next) (haccepted : Accepted e)
    (hids : ∀ request, taken? e = some request → request.req.handlerInfo.id ≠ none) :
    Standing (tr ++ [e]) next := by
  cases hnext with
  | taken st request => exact standing_entry htotal (Level.take h request) st (hids request rfl)
  | drained st => exact Level.silent h rfl rfl trivial
  | prepared | preparedData => exact Level.silent h rfl rfl trivial
  | metaSent | payloadSent => exact Level.silent h rfl rfl trivial
  | metaUnsent | payloadUnsent => cases haccepted
  | responseFrame st request id raw => exact Level.read h raw
  | responseError st request id kind => exact Level.miss h (by simp)
  | responseEnd st request id => exact Level.miss h (by simp)
  | responseRead st request id raw processor response =>
      exact ⟨raw, Read.silent h rfl rfl trivial, by simp, by simp⟩
  | delivered st request id response res =>
      obtain ⟨frame, hread, hinputs, hresponses⟩ := h
      obtain ⟨earlier, htaken⟩ := hcurrent request rfl
      have hlast : LastRead tr request.consumer response :=
        ⟨⟨request, by simp [htaken], rfl⟩, frame, hread.last, hinputs, hresponses⟩
      exact hread.deliver hlast res
  | warned st error => exact Level.silent h rfl rfl trivial
  | _ => exact h.elim

theorem run_standing (htotal : utils.Total) {processor : P}
    (run : Run (Next utils) (.top (initial processor)) tr pt) (haccepted : ∀ e ∈ tr, Accepted e)
    (hids : ∀ request ∈ taken tr, request.req.handlerInfo.id ≠ none) : Standing tr pt := by
  induction run with
  | nil => exact ⟨rfl, iff_of_true along_nil along_nil⟩
  | snoc hrun hnext ih =>
      rw [taken_snoc] at hids
      refine next_standing htotal (run_current hrun)
        (ih (fun e hmem => haccepted e (by simp [hmem]))
          fun request hmem => hids request (List.mem_append_left _ hmem))
        hnext (haccepted _ (by simp)) fun request htaken => hids request ?_
      rw [htaken]
      exact List.mem_append_right _ (List.mem_singleton_self request)

end Client

/-! ## A server that replies once to each request -/

namespace Link

variable {A : App} {P : Type}

/-- The frames a server has heard, and the requests it has replied to. -/
structure Replier where
  heard : ℕ
  answered : ℕ

inductive ReplierEvent
  | hear (frame : Bytes)
  | reply (item : Except ErrorKind Bytes)

/-- After each two frames one reply; the replies that the client cannot decode
are those foreseen. -/
inductive Replier.Step (rejects : ℕ → Bool) : Replier → ReplierEvent → Replier → Prop
  | hear (heard answered : ℕ) (frame : Bytes) :
      Step rejects ⟨heard, answered⟩ (.hear frame) ⟨heard + 1, answered⟩
  | reply (heard answered : ℕ) (item : Except ErrorKind Bytes)
      (due : 2 * (answered + 1) ≤ heard) (verdict : Polling.rejected item = rejects answered) :
      Step rejects ⟨heard, answered⟩ (.reply item) ⟨heard, answered + 1⟩

@[simp] def ReplierEvent.item? : ReplierEvent → Option (Except ErrorKind Bytes)
  | .hear _ => none
  | .reply item => some item

@[simp] def ReplierEvent.frame? : ReplierEvent → Option Bytes
  | .hear frame => some frame
  | .reply _ => none

def replier (rejects : ℕ → Bool) :
    Party Replier ReplierEvent (Except ErrorKind Bytes) Bytes where
  step := Replier.Step rejects
  put := ReplierEvent.item?
  take := ReplierEvent.frame?
  eof _ := False
  ended _ := False

/-- The client task, which takes the replies as its decoder yields them. -/
def reader (utils : Utils A) :
    Party (ClientM A P (ClientState P ⊕ Unit)) (ClientEvent A P) Bytes
      (Except ErrorKind Bytes) where
  step := Client.Step utils
  put := Client.wire?
  take := Client.item?
  eof _ := False
  ended task := task = .ret (.inr ())

/-- A run of the client and the server that replies. -/
abbrev ReaderRun (utils : Utils A) (rejects : ℕ → Bool) (processor : P)
    (tr : List (ClientEvent A P ⊕ ReplierEvent))
    (s : State (ClientM A P (ClientState P ⊕ Unit)) Replier Bytes (Except ErrorKind Bytes)) :
    Prop :=
  Run (Duplex.Step (reader utils) (replier rejects))
    (State.start (Client.connectionMain utils processor) ⟨0, 0⟩) tr s

theorem run_foreseen {rejects : ℕ → Bool} {events : List ReplierEvent} {s : Replier}
    (run : Run (Replier.Step rejects) ⟨0, 0⟩ events s) :
    (events.filterMap ReplierEvent.item?).length = s.answered ∧
      Polling.Foreseen rejects (events.filterMap ReplierEvent.item?) := by
  refine run.invariant (I := fun events s =>
    (events.filterMap ReplierEvent.item?).length = s.answered ∧
      Polling.Foreseen rejects (events.filterMap ReplierEvent.item?))
    ⟨rfl, fun i item hitem => nomatch hitem⟩ ?_
  rintro events s e next - ⟨hlength, hforeseen⟩ step
  cases step with
  | hear heard answered frame =>
      rw [filterMap_snoc, ReplierEvent.item?, Option.toList_none, List.append_nil]
      exact ⟨hlength, hforeseen⟩
  | reply heard answered item due verdict =>
      rw [filterMap_snoc, ReplierEvent.item?, Option.toList_some]
      exact ⟨by simpa using hlength, hforeseen.snoc (hlength ▸ verdict)⟩

/-- **No stale reply.**  In every run in which all sends are accepted, the
consumers are handed the replies to their own requests if, and when the client
is between two requests only if, every reply it has read from the first
rejected one on was rejected. -/
theorem run_ownReply {utils : Utils A} {rejects : ℕ → Bool} {processor : P}
    {tr : List (ClientEvent A P ⊕ ReplierEvent)}
    {s : State (ClientM A P (ClientState P ⊕ Unit)) Replier Bytes (Except ErrorKind Bytes)}
    (htotal : utils.Total) (run : ReaderRun utils rejects processor tr s)
    (haccepted : ∀ e ∈ lefts tr, Client.Accepted e)
    (hpauses : Along Polling.pauses (Client.polls (lefts tr)))
    (hids : ∀ request ∈ Client.taken (lefts tr), request.req.handlerInfo.id ≠ none) :
    (Polling.Harmless rejects (Client.taken (lefts tr)).length →
      Along Client.ownReply (lefts tr)) ∧
    (AtRest s.left → Along Client.ownReply (lefts tr) →
      Polling.Harmless rejects (Client.taken (lefts tr)).length) := by
  obtain ⟨hleft, hright, -, htoLeft⟩ := project run
  obtain ⟨pt, hclient, htask⟩ := Client.run_points hleft
  have hforeseen : Polling.Foreseen rejects (Polling.items (Client.polls (lefts tr))) := by
    have hall := (run_foreseen hright).2
    rw [Client.items_polls]
    exact (htoLeft ▸ hall : Polling.Foreseen rejects (_ ++ _)).initial
  have hiff := Polling.inStep_iff_harmless hpauses hforeseen
  -- where the client stands says how its polls and its requests are aligned
  have hstanding := Client.run_standing htotal hclient haccepted hids
  have hlevel {ahead : ℕ} (h : Client.Level (lefts tr) ahead) :
      Polling.Harmless rejects (Client.taken (lefts tr)).length →
        Along Client.ownReply (lefts tr) :=
    fun hharmless => h.agree.mp (hiff.mpr (hharmless.mono (by have := h.count; omega)))
  have hread {frame : Bytes} (h : Client.Read (lefts tr) frame) :
      Polling.Harmless rejects (Client.taken (lefts tr)).length →
        Along Client.ownReply (lefts tr) :=
    fun hharmless => (h.agree.mp (hiff.mpr (h.count ▸ hharmless))).1
  constructor
  · cases pt with
    | responseIn => exact hread hstanding
    | delivering => exact hread hstanding.choose_spec.1
    | routing | routeSending | routeWaiting | routeIn | learning => exact hstanding.elim
    | _ => exact hlevel hstanding
  · intro hrest hown
    have hatRest : Client.Level (lefts tr) 0 := by
      rw [htask] at hrest
      cases pt with
      | top => exact hstanding
      | warning => exact hstanding
      | returned => exact hstanding
      | _ => rcases hrest with hrest | hrest <;> cases hrest
    have hcount := hatRest.count
    rw [Nat.add_zero] at hcount
    exact hcount ▸ hiff.mp (hatRest.agree.mpr hown)

section Echo

open Reference (app)

theorem sending_accepted (data : Bytes) (consumer : ℕ) :
    ∀ e ∈ sending data consumer, Client.Accepted e := by
  simp [sending, posting, Client.Accepted]
  exact ⟨rfl, rfl⟩

theorem reading_accepted (frame : Bytes) (consumer : ℕ) :
    ∀ e ∈ reading frame consumer, Client.Accepted e := by
  simp [reading, Client.Accepted]

/-- The server hears a request and replies. -/
def replying (data : Bytes) (item : Except ErrorKind Bytes) : List ReplierEvent :=
  [.hear (echoMeta data), .hear data, .reply item]

theorem replying_run {rejects : ℕ → Bool} (answered : ℕ) (data : Bytes)
    {item : Except ErrorKind Bytes} (hverdict : Polling.rejected item = rejects answered) :
    Run (Replier.Step rejects) ⟨2 * answered, answered⟩ (replying data item)
      ⟨2 * (answered + 1), answered + 1⟩ :=
  Run.cons (.hear _ _ _) <| Run.cons (.hear _ _ _) <|
    Run.cons (.reply _ _ _ (le_refl _) hverdict) Run.nil

/-- A read fails, and the client gives up the request. -/
def failing (answer : Option (Except ErrorKind Bytes)) (error : ClientError) :
    List (ClientEvent app (Unit × Unit)) :=
  [⟨.next, answer⟩, ⟨.warn error, ()⟩]

theorem failing_accepted (answer : Option (Except ErrorKind Bytes)) (error : ClientError) :
    ∀ e ∈ failing answer error, Client.Accepted e := by
  simp [failing, Client.Accepted]

theorem failing_run (data : Bytes) (consumer : ℕ) (kind : ErrorKind) :
    Run (Client.Next Reference.utils)
      (.waiting (Client.initial ((), ())) (echoRequest data consumer) 0)
      (failing (some (.error kind)) (.codec kind)) (.top (Client.initial ((), ()))) :=
  Run.cons (.responseError _ _ _ _) <| Run.cons (.warned _ _) Run.nil

/-- A request with its reply, and one whose reply is rejected. -/
def exchanges : List (ClientEvent app (Unit × Unit) ⊕ ReplierEvent) :=
  (sending [1] 0).map .inl ++ (replying [1] (.ok [1])).map .inr ++
    (reading [1] 0 ++ sending [2] 1).map .inl ++ (replying [2] (.error .invalidData)).map .inr ++
    (failing (some (.error .invalidData)) (.codec .invalidData)).map .inl

theorem exchanges_run : ReaderRun Reference.utils (fun i => i == 1) ((), ()) exchanges
    ⟨Client.connectionMain Reference.utils ((), ()), ⟨4, 2⟩, [], []⟩ := by
  refine Run.append (Run.append (Run.append (Run.append
    (Duplex.run_left (Client.run_of_points (sending_run [1] 0)) rfl fun _ _ => id)
    (Duplex.run_right (replying_run 0 [1] rfl) rfl fun _ _ => id))
    (Duplex.run_left (Client.run_of_points ((reading_run [1] [1] 0).append (sending_run [2] 1)))
      rfl fun _ _ => id))
    (Duplex.run_right (replying_run 1 [2] rfl) rfl fun _ _ => id))
    (Duplex.run_left (Client.run_of_points (failing_run [2] 1 .invalidData)) rfl fun _ _ => id)

theorem run_ownReply_exchanges :
    Client.deliveries (lefts exchanges) = [(0, [1])] ∧
      (Polling.Harmless (fun i => i == 1) 2 → Along Client.ownReply (lefts exchanges)) ∧
      (AtRest (Client.connectionMain Reference.utils ((), ())) →
        Along Client.ownReply (lefts exchanges) → Polling.Harmless (fun i => i == 1) 2) := by
  have hlefts : lefts exchanges = sending [1] 0 ++ (reading [1] 0 ++ sending [2] 1) ++
    failing (some (.error .invalidData)) (.codec .invalidData) := rfl
  refine ⟨rfl, run_ownReply Reference.total exchanges_run ?_ ?_ ?_⟩
  · rw [hlefts]
    simp only [List.forall_mem_append]
    exact ⟨⟨sending_accepted _ _, reading_accepted _ _, sending_accepted _ _⟩,
      failing_accepted _ _⟩
  · have hpolls : Client.polls (lefts exchanges) =
        [some (.ok [1]), some (.error .invalidData)] := rfl
    simp [hpolls, along_cons, along_nil, Polling.pauses, Polling.Broken]
  · have htaken : Client.taken (lefts exchanges) = [echoRequest [1] 0, echoRequest [2] 1] := rfl
    simp [htaken, echoRequest, HandlerInfo.newId]

/-- The first reply is rejected; the second one is read for the third. -/
def shifting : List (ClientEvent app (Unit × Unit) ⊕ ReplierEvent) :=
  (sending [1] 0).map .inl ++ (replying [1] (.error .invalidData)).map .inr ++
    (failing (some (.error .invalidData)) (.codec .invalidData) ++ sending [2] 1).map .inl ++
    (replying [2] (.ok [2])).map .inr ++
    (failing none (.protocol "Connection closed") ++ sending [3] 2 ++ reading [2] 2).map .inl

theorem shifting_run : ReaderRun Reference.utils (fun i => i == 0) ((), ()) shifting
    ⟨Client.connectionMain Reference.utils ((), ()), ⟨4, 2⟩, [echoMeta [3], [3]], []⟩ := by
  have herror := failing_run [1] 0 .invalidData
  have hpause : Run (Client.Next Reference.utils)
      (.waiting (Client.initial ((), ())) (echoRequest [2] 1) 0)
      (failing none (.protocol "Connection closed")) (.top (Client.initial ((), ()))) :=
    Run.cons (.responseEnd _ _ _) <| Run.cons (.warned _ _) Run.nil
  exact Run.append (Run.append (Run.append (Run.append
    (Duplex.run_left (Client.run_of_points (sending_run [1] 0)) rfl fun _ _ => id)
    (Duplex.run_right (replying_run 0 [1] rfl) rfl fun _ _ => id))
    (Duplex.run_left (Client.run_of_points (herror.append (sending_run [2] 1))) rfl fun _ _ => id))
    (Duplex.run_right (replying_run 1 [2] rfl) rfl fun _ _ => id))
    (Duplex.run_left (Client.run_of_points ((hpause.append (sending_run [3] 2)).append
      (reading_run [3] [2] 2))) rfl fun _ _ => id)

/-- The consumer of the third request is handed the second reply. -/
theorem ownReply_fails : ∃ s,
    ReaderRun Reference.utils (fun i => i == 0) ((), ()) shifting s ∧ AtRest s.left ∧
      (∀ e ∈ lefts shifting, Client.Accepted e) ∧
      Along Polling.pauses (Client.polls (lefts shifting)) ∧
      Client.taken (lefts shifting) = [echoRequest [1] 0, echoRequest [2] 1, echoRequest [3] 2] ∧
      (rights shifting).filterMap ReplierEvent.item? = [.error .invalidData, .ok [2]] ∧
      Client.deliveries (lefts shifting) = [(2, [2])] ∧
      ¬Along Client.ownReply (lefts shifting) := by
  refine ⟨_, shifting_run, .inl rfl, ?_, ?_, rfl, rfl, rfl, fun h => ?_⟩
  · have hlefts : lefts shifting =
        sending [1] 0 ++ failing (some (.error .invalidData)) (.codec .invalidData) ++
          sending [2] 1 ++ failing none (.protocol "Connection closed") ++ sending [3] 2 ++
          reading [2] 2 := rfl
    simp only [hlefts, List.forall_mem_append]
    exact ⟨⟨⟨⟨⟨sending_accepted _ _, failing_accepted _ _⟩, sending_accepted _ _⟩,
      failing_accepted _ _⟩, sending_accepted _ _⟩, reading_accepted _ _⟩
  · have hpolls : Client.polls (lefts shifting) =
        [some (.error .invalidData), none, some (.ok [2])] := rfl
    simp [hpolls, along_cons, along_nil, Polling.pauses, Polling.Broken]
  · have hlefts : lefts shifting =
        (sending [1] 0 ++ failing (some (.error .invalidData)) (.codec .invalidData) ++
          sending [2] 1 ++ failing none (.protocol "Connection closed") ++ sending [3] 2 ++
          [⟨.next, some (.ok [2])⟩, ⟨.preProcess ((), ()) [2], (((), ()), [2])⟩]) ++
          [⟨.deliver 2 [2], .ok ()⟩] := rfl
    rw [hlefts] at h
    have hnumber := (along_snoc.mp h).2.2
    exact absurd hnumber (by decide)

end Echo

end Link

end FourthServer
