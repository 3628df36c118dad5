import FourthServer.Model.Router

/-!
# A reference serialisation

The laws of `Utils` can be met.  A packet is written as a list of numbers, the
first of which tells the kinds of packet apart, and each number as that many
ones and a zero.  Reading this back is exact, and all of it evaluates.
-/

namespace FourthServer

namespace Reference

/-- Each number as that many ones, ended by a zero. -/
def write (numbers : List ℕ) : Bytes :=
  numbers.flatMap fun number => List.replicate number 1 ++ [0]

/-- The numbers of a frame; the first argument counts the ones read so far. -/
def read : ℕ → Bytes → List ℕ
  | _, [] => []
  | count, byte :: rest => if byte = 0 then count :: read 0 rest else read (count + 1) rest

theorem read_replicate (count number : ℕ) (rest : Bytes) :
    read count (List.replicate number 1 ++ 0 :: rest) = (count + number) :: read 0 rest := by
  induction number generalizing count with
  | zero => simp [read]
  | succ number ih =>
      rw [List.replicate_succ, List.cons_append, read, if_neg (by decide), ih]
      congr 1
      omega

@[simp] theorem read_write (numbers : List ℕ) : read 0 (write numbers) = numbers := by
  induction numbers with
  | nil => rfl
  | cons number rest ih =>
      have hcons : write (number :: rest) = List.replicate number 1 ++ 0 :: write rest := by
        simp [write]
      rw [hcons, read_replicate, ih, Nat.zero_add]

def sTypeNumber : SystemSType → ℕ
  | .packetMeta => 0
  | .handlerMetaReq => 1
  | .handlerMetaAns => 2

def sTypeOf : ℕ → SystemSType
  | 0 => .packetMeta
  | 1 => .handlerMetaReq
  | _ => .handlerMetaAns

@[simp] theorem sTypeOf_sTypeNumber (sType : SystemSType) :
    sTypeOf (sTypeNumber sType) = sType := by
  cases sType <;> rfl

/-- An error as its kind and its data. -/
def errNumbers : ServerErrorEn → List ℕ
  | .noSuchHandler data => 0 :: dataNumbers data
  | .malformedMetaInfo data => 1 :: dataNumbers data
  | .internalError data => 2 :: dataNumbers data
where
  dataNumbers : Option Bytes → List ℕ
    | none => [0]
    | some data => 1 :: data.map UInt8.toNat

def metaBytes (packet : PacketMeta) : Bytes :=
  write [0, sTypeNumber packet.sType, packet.sTypeReq, packet.handlerId, packet.hasPayload.toNat]

def reqBytes (packet : HandlerMetaReq) : Bytes :=
  write (1 :: sTypeNumber packet.sType :: packet.handlerName.toList.map Char.toNat)

def ansBytes (packet : HandlerMetaAns) : Bytes :=
  write [2, sTypeNumber packet.sType, packet.id]

def errBytes (error : ServerError) : Bytes :=
  write (3 :: errNumbers error.en)

def accessMeta (frame : Bytes) : Except String PacketMeta :=
  match read 0 frame with
  | [0, sType, sTypeReq, handlerId, payload] =>
    .ok ⟨sTypeOf sType, sTypeReq, handlerId, payload == 1⟩
  | _ => .error "no PacketMeta"

def accessReq (frame : Bytes) : Except String HandlerMetaReq :=
  match read 0 frame with
  | 1 :: sType :: name => .ok ⟨sTypeOf sType, String.ofList (name.map Char.ofNat)⟩
  | _ => .error "no HandlerMetaReq"

def accessAns (frame : Bytes) : Except String HandlerMetaAns :=
  match read 0 frame with
  | [2, sType, id] => .ok ⟨sTypeOf sType, id⟩
  | _ => .error "no HandlerMetaAns"

/-- An application with two structure types, its functions and states named by
numbers. -/
def app : App where
  State := ℕ
  SType := Bool
  ServeFn := ℕ
  AcceptFn := ℕ
  serialize := Bool.toNat

/-- Two keys are the same when they have the id and some structure type in
common. -/
def sameTuple (first second : TypeTuple app) : Bool :=
  decide (first.handlerId = second.handlerId) &&
    decide (∃ sType ∈ first.sTypes, sType ∈ second.sTypes)

def utils : Utils app where
  toBytesMeta packet := some (metaBytes packet)
  toBytesReq packet := some (reqBytes packet)
  toBytesAns packet := some (ansBytes packet)
  toBytesErr error := some (errBytes error)
  accessMeta := accessMeta
  accessReq := accessReq
  accessAns := accessAns
  sameTuple := sameTuple

theorem accessMeta_metaBytes (packet : PacketMeta) :
    accessMeta (metaBytes packet) = .ok packet := by
  obtain ⟨sType, sTypeReq, handlerId, hasPayload⟩ := packet
  cases hasPayload <;> simp [accessMeta, metaBytes]

theorem accessReq_reqBytes (packet : HandlerMetaReq) :
    accessReq (reqBytes packet) = .ok packet := by
  simp [accessReq, reqBytes, Function.comp_def, String.ofList_toList]

theorem accessAns_ansBytes (packet : HandlerMetaAns) :
    accessAns (ansBytes packet) = .ok packet := by
  simp [accessAns, ansBytes]

theorem total : utils.Total where
  metaBytes packet := ⟨metaBytes packet, rfl⟩
  reqBytes packet := ⟨reqBytes packet, rfl⟩
  ansBytes packet := ⟨ansBytes packet, rfl⟩
  errBytes error := ⟨errBytes error, rfl⟩

theorem lawful : utils.Lawful where
  toTotal := total
  access_meta := by
    rintro packet bytes ⟨⟩
    exact accessMeta_metaBytes packet
  access_req := by
    rintro packet bytes ⟨⟩
    exact accessReq_reqBytes packet
  access_ans := by
    rintro packet bytes ⟨⟩
    exact accessAns_ansBytes packet
  meta_rejects_req := by
    rintro packet bytes ⟨⟩
    exact ⟨"no PacketMeta", by simp [utils, accessMeta, reqBytes]⟩
  ans_rejects_err := by
    rintro error bytes ⟨⟩
    exact ⟨"no HandlerMetaAns", by simp [utils, accessAns, errBytes]⟩
  meta_rejects_empty := ⟨_, rfl⟩
  req_rejects_empty := ⟨_, rfl⟩

theorem tupleLawful : utils.TupleLawful where
  probe := by
    intro sType id stored
    simp [utils, sameTuple]
  sameId := by
    intro first second h
    have hboth : decide (first.handlerId = second.handlerId) = true ∧ _ := Bool.and_eq_true_iff.mp h
    exact of_decide_eq_true hboth.1

/-- The number `1` stands for one structure type, every other number for the
other one. -/
def deserialize (number : ℕ) : Option app.SType := some (number == 1)

def echo : Route app := ⟨(0 : ℕ), (0 : ℕ)⟩

/-- A router that serves the structure type `1` under the name `"echo"`. -/
def router : TfServerRouter app :=
  ((TfServerRouter.new deserialize).addRoute echo "echo" [true]).commitRoutes utils

/-- A meta frame that calls the handler `"echo"` without a payload. -/
def echoFrame : Bytes := metaBytes ⟨.packetMeta, 1, 0, false⟩

/-- The call it leads to on a connection with the channel `0`. -/
def echoCall : ServeCall app := ⟨echo.serve, echo.state, ⟨0, 0⟩, some ⟨0⟩, true, []⟩

theorem deserialize_router (number : ℕ) : router.deserialize number ≠ none := by
  simp [router, TfServerRouter.commitRoutes, TfServerRouter.addRoute, TfServerRouter.new,
    deserialize]

end Reference

end FourthServer
