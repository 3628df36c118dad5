import FourthServer.Library.Resumption
import Mathlib.Data.Finset.Insert

/-!
# What goes over the wire

The data both ends of a connection share: frames, the packets of the framing
protocol, and what the code uses of its two foreign parts.

* `App` is the user's application: its states, its structure types with their
  number, and the function pointers it registers.  A function pointer is only
  named here; what a call to it does is an answer of the surroundings.
* `Utils` is the serialisation and key comparison of the utility crate.
  `Utils.Lawful` collects what the code relies on: a serialised value is read
  back, and a reader refuses the other kinds of packet and the empty frame.

Numbers that are `u64` in the source are natural numbers: the code compares and
copies them, and the one counter it increments would need `2^64` registered
routes to overflow.
-/

namespace FourthServer

/-- The contents of a frame (`Bytes`, `BytesMut`). -/
abbrev Bytes := List UInt8

/-- The error kinds `receive_message` tells apart, and the rest. -/
inductive ErrorKind
  | connectionReset
  | connectionAborted
  | brokenPipe
  | unexpectedEof
  | invalidData
  | other (code : ℕ)
  deriving DecidableEq, Repr

structure SocketAddr where
  ip : ℕ
  port : ℕ
  deriving DecidableEq, Repr

/-- The tag every packet of the system carries. -/
inductive SystemSType
  | packetMeta
  | handlerMetaReq
  | handlerMetaAns
  deriving DecidableEq, Repr

structure PacketMeta where
  sType : SystemSType
  sTypeReq : ℕ
  handlerId : ℕ
  hasPayload : Bool
  deriving DecidableEq, Repr

structure HandlerMetaReq where
  sType : SystemSType
  handlerName : String
  deriving DecidableEq, Repr

structure HandlerMetaAns where
  sType : SystemSType
  id : ℕ
  deriving DecidableEq, Repr

inductive ServerErrorEn
  | noSuchHandler (data : Option Bytes)
  | malformedMetaInfo (data : Option Bytes)
  | internalError (data : Option Bytes)
  deriving DecidableEq, Repr

structure ServerError where
  en : ServerErrorEn
  deriving DecidableEq, Repr

/-- The application that uses the library. -/
structure App where
  /-- `S`, the state handed to handlers. -/
  State : Type
  /-- The implementors of `StructureType`. -/
  SType : Type
  [decidableEqSType : DecidableEq SType]
  /-- Function pointers of type `ServeFn`. -/
  ServeFn : Type
  /-- Function pointers of type `AcceptFn`. -/
  AcceptFn : Type
  /-- `get_serialize_function`: the number of a structure type. -/
  serialize : SType → ℕ

instance (A : App) : DecidableEq A.SType := A.decidableEqSType

/-- The key of the route table: a set of structure types and a handler id. -/
structure TypeTuple (A : App) where
  sTypes : Finset A.SType
  handlerId : ℕ

/-- What the code uses of the utility crate: `s_type::to_bytes` and
`s_type::access` at the packets of the system, and the equality of
`TypeTuple`. -/
structure Utils (A : App) where
  toBytesMeta : PacketMeta → Option Bytes
  toBytesReq : HandlerMetaReq → Option Bytes
  toBytesAns : HandlerMetaAns → Option Bytes
  toBytesErr : ServerError → Option Bytes
  accessMeta : Bytes → Except String PacketMeta
  accessReq : Bytes → Except String HandlerMetaReq
  accessAns : Bytes → Except String HandlerMetaAns
  sameTuple : TypeTuple A → TypeTuple A → Bool

namespace Utils

variable {A : App}

/-- Values of the system's own packet types can be serialised; the server
unwraps the result of `to_bytes`. -/
structure Total (utils : Utils A) : Prop where
  metaBytes : ∀ packet, ∃ bytes, utils.toBytesMeta packet = some bytes
  reqBytes : ∀ packet, ∃ bytes, utils.toBytesReq packet = some bytes
  ansBytes : ∀ packet, ∃ bytes, utils.toBytesAns packet = some bytes
  errBytes : ∀ error, ∃ bytes, utils.toBytesErr error = some bytes

/-- What both ends rely on in `to_bytes` and `access`: a serialised value is
read back as itself, and a reader accepts neither the other kinds of packet it
may meet nor an empty frame. -/
structure Lawful (utils : Utils A) : Prop extends Total utils where
  access_meta : ∀ {packet bytes}, utils.toBytesMeta packet = some bytes →
    utils.accessMeta bytes = .ok packet
  access_req : ∀ {packet bytes}, utils.toBytesReq packet = some bytes →
    utils.accessReq bytes = .ok packet
  access_ans : ∀ {packet bytes}, utils.toBytesAns packet = some bytes →
    utils.accessAns bytes = .ok packet
  meta_rejects_req : ∀ {packet bytes}, utils.toBytesReq packet = some bytes →
    ∃ text, utils.accessMeta bytes = .error text
  ans_rejects_err : ∀ {error bytes}, utils.toBytesErr error = some bytes →
    ∃ text, utils.accessAns bytes = .error text
  meta_rejects_empty : ∃ text, utils.accessMeta [] = .error text
  req_rejects_empty : ∃ text, utils.accessReq [] = .error text

/-- What the route table relies on in the equality of `TypeTuple`: a probe with
one structure type matches the stored keys of its id whose set contains the
type, and keys of different ids never match. -/
structure TupleLawful (utils : Utils A) : Prop where
  probe : ∀ (sType : A.SType) (id : ℕ) (stored : TypeTuple A),
    utils.sameTuple ⟨{sType}, id⟩ stored = true ↔ id = stored.handlerId ∧ sType ∈ stored.sTypes
  sameId : ∀ first second : TypeTuple A,
    utils.sameTuple first second = true → first.handlerId = second.handlerId

end Utils

end FourthServer
