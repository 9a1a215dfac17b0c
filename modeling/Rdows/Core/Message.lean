import Rdows.Core.Basic

/-!
# Messages and their wire format

One structure per payload, with the encoder and the decoder the source gives it, and `RdowsMessage`,
the union of the twenty variants.  An encoder is the bytes it appends to the buffer; a decoder is a
`Reader` over the bytes after the header.

## Lengths that are cut off

Three length fields are computed by casts that may lose high bits: the 16-bit entry count of SEND,
the 16-bit length of a description, and the 32-bit payload length of every frame.  The casts are
modelled as they are, by `UInt16.ofNat` and `UInt32.ofNat`, and encoders stay total; which messages
survive the trip is a question for the round trip.

## Lengths that are not checked

Two decoders subtract the width of their fixed part from the header's `payload_length`
(`WritePayload.decode`, `ReadRespPayload.decode`).  The header field is the sender's and has not
been compared with anything at that point, so the subtraction is a checked one here, as it is in the
program: it can panic.  Of the other decoders only those of MR_REG and of the two data frames look
at the announced length at all.

## What decoders forgive

Reserved fields are read and dropped.  An unknown error code becomes `ErrInternal`, a description
that is longer than the frame is dropped altogether, and bytes behind the payload are not looked at.

## Numbering

`Numbered` says that a list of messages carries consecutive sequence numbers, modulo `2 ^ 32`.  It
is stated here because both ends of a connection are held to it.
-/

namespace Rdows

open Rust

/-! ### Payloads -/

/-- CONNECT / CONNECT_ACK payload (16 bytes): what a side proposes, or what was agreed. -/
structure ConnectPayload where
  pd : ProtectionDomain
  capabilityFlags : UInt32
  maxMsgSize : UInt32
  icc : UInt32
  deriving DecidableEq, Repr

namespace ConnectPayload

/-- `ConnectPayload::encode`. -/
def encode (p : ConnectPayload) : Bytes :=
  putU32 p.pd.value ++ putU32 p.capabilityFlags ++ putU32 p.maxMsgSize ++ putU32 p.icc

/-- `ConnectPayload::decode`. -/
def decode : Reader RdowsError ConnectPayload := do
  requireRemaining 16
  let pd ← Reader.getU32
  let capabilityFlags ← Reader.getU32
  let maxMsgSize ← Reader.getU32
  let icc ← Reader.getU32
  return { pd := ⟨pd⟩, capabilityFlags, maxMsgSize, icc }

end ConnectPayload

/-- MR_REG payload (16 or 20 bytes).  The suggested key is written only if there is one. -/
structure MrRegPayload where
  pd : ProtectionDomain
  accessFlags : AccessFlags
  regionLen : UInt64
  suggestedLkey : Option LKey
  deriving DecidableEq, Repr

namespace MrRegPayload

/-- `MrRegPayload::encode`.  The region length is written as two halves, the high one first. -/
def encode (p : MrRegPayload) : Bytes :=
  putU32 p.pd.value ++ putU32 p.accessFlags.bits ++ putU32 (p.regionLen >>> 32).toUInt32 ++
    putU32 p.regionLen.toUInt32 ++
    match p.suggestedLkey with
    | some lkey => putU32 lkey.value
    | none => []

/-- `MrRegPayload::decode`.  The optional key is read if it was announced and four bytes are left
for it. -/
def decode (payloadLength : UInt32) : Reader RdowsError MrRegPayload := do
  requireRemaining 16
  let pd ← Reader.getU32
  let accessFlags ← Reader.getU32
  let high ← Reader.getU32
  let low ← Reader.getU32
  let regionLen := high.toUInt64 <<< 32 ||| low.toUInt64
  let left ← Reader.remaining
  if payloadLength ≥ 20 ∧ left ≥ 4 then
    let lkey ← Reader.getU32
    return { pd := ⟨pd⟩, accessFlags := ⟨accessFlags⟩, regionLen, suggestedLkey := some ⟨lkey⟩ }
  else
    return { pd := ⟨pd⟩, accessFlags := ⟨accessFlags⟩, regionLen, suggestedLkey := none }

end MrRegPayload

/-- MR_REG_ACK payload (16 bytes): the keys of the new region, or an error code in `status`. -/
structure MrRegAckPayload where
  pd : ProtectionDomain
  lkey : LKey
  rkey : RKey
  status : UInt16
  deriving DecidableEq, Repr

namespace MrRegAckPayload

/-- `MrRegAckPayload::encode`. -/
def encode (p : MrRegAckPayload) : Bytes :=
  putU32 p.pd.value ++ putU32 p.lkey.value ++ putU32 p.rkey.value ++ putU16 p.status ++ putU16 0

/-- `MrRegAckPayload::decode`. -/
def decode : Reader RdowsError MrRegAckPayload := do
  requireRemaining 16
  let pd ← Reader.getU32
  let lkey ← Reader.getU32
  let rkey ← Reader.getU32
  let status ← Reader.getU16
  let _reserved ← Reader.getU16
  return { pd := ⟨pd⟩, lkey := ⟨lkey⟩, rkey := ⟨rkey⟩, status }

end MrRegAckPayload

/-- MR_DEREG payload (8 bytes). -/
structure MrDeregPayload where
  pd : ProtectionDomain
  lkey : LKey
  deriving DecidableEq, Repr

namespace MrDeregPayload

/-- `MrDeregPayload::encode`. -/
def encode (p : MrDeregPayload) : Bytes := putU32 p.pd.value ++ putU32 p.lkey.value

/-- `MrDeregPayload::decode`. -/
def decode : Reader RdowsError MrDeregPayload := do
  requireRemaining 8
  let pd ← Reader.getU32
  let lkey ← Reader.getU32
  return { pd := ⟨pd⟩, lkey := ⟨lkey⟩ }

end MrDeregPayload

/-- MR_DEREG_ACK payload (8 bytes). -/
structure MrDeregAckPayload where
  status : UInt16
  deriving DecidableEq, Repr

namespace MrDeregAckPayload

/-- `MrDeregAckPayload::encode`. -/
def encode (p : MrDeregAckPayload) : Bytes := putU16 p.status ++ putZeros 6

/-- `MrDeregAckPayload::decode`. -/
def decode : Reader RdowsError MrDeregAckPayload := do
  requireRemaining 8
  let status ← Reader.getU16
  Reader.advance 6
  return { status }

end MrDeregAckPayload

/-- The scatter/gather entries of a list, one after the other. -/
def encodeSgList (entries : List ScatterGatherEntry) : Bytes :=
  entries.flatMap ScatterGatherEntry.encode

/-- The loop `for _ in 0..count { sg_list.push(ScatterGatherEntry::decode(buf)?) }`.  Every entry
checks its own sixteen bytes. -/
def decodeSgList : ℕ → Reader RdowsError (List ScatterGatherEntry)
  | 0 => return []
  | count + 1 => do
      let entry ← ScatterGatherEntry.decode
      let entries ← decodeSgList count
      return entry :: entries

/-- SEND payload (4 + 16·N bytes): where the data that follows in SEND_DATA comes from. -/
structure SendPayload where
  sgList : List ScatterGatherEntry
  deriving DecidableEq, Repr

namespace SendPayload

/-- `SendPayload::encode`; the entry count is truncated to 16 bits. -/
def encode (p : SendPayload) : Bytes :=
  putU16 (UInt16.ofNat p.sgList.length) ++ putU16 0 ++ encodeSgList p.sgList

/-- `SendPayload::decode`.  The count is compared with what is left before the vector is
allocated. -/
def decode : Reader RdowsError SendPayload := do
  requireRemaining 4
  let count ← Reader.getU16
  let _reserved ← Reader.getU16
  let needed := count.toNat * sgEntrySize
  let left ← Reader.remaining
  if left < needed then
    Method.throw (.payloadTooShort (4 + needed) (4 + left))
  else
    Method.lift (withCapacity count.toNat sgEntrySize)
    let sgList ← decodeSgList count.toNat
    return { sgList }

end SendPayload

/-- WRITE payload (24 + 16·N bytes): where the data that follows in WRITE_DATA is to go. -/
structure WritePayload where
  rkey : RKey
  remoteVa : UInt64
  length : UInt64
  sgList : List ScatterGatherEntry
  deriving DecidableEq, Repr

namespace WritePayload

/-- `WRITE_HEADER_SIZE`. -/
def writeHeaderSize : ℕ := 24

/-- `WritePayload::encode`; the entry count is not on the wire. -/
def encode (p : WritePayload) : Bytes :=
  putU32 p.rkey.value ++ putU32 0 ++ putU64 p.remoteVa ++ putU64 p.length ++
    encodeSgList p.sgList

/-- `WritePayload::decode`.  The number of entries is what the announced length has room for,
rounded down, and nothing compares it with the bytes that are there before the vector is
allocated. -/
def decode (payloadLength : UInt32) : Reader RdowsError WritePayload := do
  requireRemaining writeHeaderSize
  let rkey ← Reader.getU32
  let _reserved ← Reader.getU32
  let remoteVa ← Reader.getU64
  let length ← Reader.getU64
  -- the announced length is the sender's word; `usize` subtraction panics below zero
  let sgBytes ← Method.lift <|
    Outcome.orPanic .arithmeticOverflow (checkedSubUsize payloadLength.toNat writeHeaderSize)
  let count := sgBytes / sgEntrySize
  Method.lift (withCapacity count sgEntrySize)
  let sgList ← decodeSgList count
  return { rkey := ⟨rkey⟩, remoteVa, length, sgList }

end WritePayload

/-- READ_REQ payload (40 bytes). -/
structure ReadReqPayload where
  rkey : RKey
  remoteVa : UInt64
  readLen : UInt64
  localLkey : LKey
  localVa : UInt64
  deriving DecidableEq, Repr

namespace ReadReqPayload

/-- `ReadReqPayload::encode`. -/
def encode (p : ReadReqPayload) : Bytes :=
  putU32 p.rkey.value ++ putU32 0 ++ putU64 p.remoteVa ++ putU64 p.readLen ++
    putU32 p.localLkey.value ++ putU32 0 ++ putU64 p.localVa

/-- `ReadReqPayload::decode`. -/
def decode : Reader RdowsError ReadReqPayload := do
  requireRemaining 40
  let rkey ← Reader.getU32
  let _reserved ← Reader.getU32
  let remoteVa ← Reader.getU64
  let readLen ← Reader.getU64
  let localLkey ← Reader.getU32
  let _reserved2 ← Reader.getU32
  let localVa ← Reader.getU64
  return { rkey := ⟨rkey⟩, remoteVa, readLen, localLkey := ⟨localLkey⟩, localVa }

end ReadReqPayload

/-- READ_RESP payload (8 + variable): a fragment of the data that was read, and where it belongs. -/
structure ReadRespPayload where
  fragmentOffset : UInt64
  data : Bytes
  deriving DecidableEq, Repr

namespace ReadRespPayload

/-- `ReadRespPayload::encode`. -/
def encode (p : ReadRespPayload) : Bytes := putU64 p.fragmentOffset ++ p.data

/-- `ReadRespPayload::decode`.  The data is as long as the announced length says, less the offset
field. -/
def decode (payloadLength : UInt32) : Reader RdowsError ReadRespPayload := do
  requireRemaining 8
  let fragmentOffset ← Reader.getU64
  -- the same subtraction, and only then the comparison with what is left
  let dataLen ← Method.lift <|
    Outcome.orPanic .arithmeticOverflow (checkedSubUsize payloadLength.toNat 8)
  let left ← Reader.remaining
  if left < dataLen then
    Method.throw (.payloadTooShort payloadLength.toNat (8 + left))
  else
    let data ← Reader.copyToBytes dataLen
    return { fragmentOffset, data }

end ReadRespPayload

/-- ERROR payload (10 + variable).  `failingSeq` is the sequence number of the frame that is
complained about. -/
structure ErrorPayload where
  errorCode : ErrorCode
  failingSeq : UInt32
  description : String
  deriving DecidableEq, Repr

namespace ErrorPayload

/-- `ErrorPayload::encode`; the description's length is truncated to 16 bits. -/
def encode (p : ErrorPayload) : Bytes :=
  putU16 p.errorCode.toU16 ++ putU16 0 ++ putU32 p.failingSeq ++
    putU16 (UInt16.ofNat (utf8Bytes p.description).length) ++ utf8Bytes p.description

/-- `ErrorPayload::decode`.  A description that is not all there is dropped without an error. -/
def decode : Reader RdowsError ErrorPayload := do
  requireRemaining 10
  let codeVal ← Reader.getU16
  let errorCode := ErrorCode.tryFromOrInternal codeVal
  let _reserved ← Reader.getU16
  let failingSeq ← Reader.getU32
  let descLen ← Reader.getU16
  let left ← Reader.remaining
  -- otherwise the description is taken to be empty, also if it was announced
  if 0 < descLen.toNat ∧ descLen.toNat ≤ left then
    let descBytes ← Reader.copyToBytes descLen.toNat
    return { errorCode, failingSeq, description := fromUtf8Lossy descBytes }
  else
    return { errorCode, failingSeq, description := "" }

end ErrorPayload

/-- CREDIT_UPDATE payload (8 bytes): how many credits the sender of the frame hands back. -/
structure CreditUpdatePayload where
  creditIncrement : UInt32
  deriving DecidableEq, Repr

namespace CreditUpdatePayload

/-- `CreditUpdatePayload::encode`. -/
def encode (p : CreditUpdatePayload) : Bytes := putU32 p.creditIncrement ++ putU32 0

/-- `CreditUpdatePayload::decode`. -/
def decode : Reader RdowsError CreditUpdatePayload := do
  requireRemaining 8
  let creditIncrement ← Reader.getU32
  let _reserved ← Reader.getU32
  return { creditIncrement }

end CreditUpdatePayload

/-- ATOMIC_REQ payload (32 bytes).  `atomicType` is not checked by the decoder; the server decides
on it. -/
structure AtomicReqPayload where
  rkey : RKey
  atomicType : UInt8
  remoteVa : UInt64
  operand1 : UInt64
  operand2 : UInt64
  deriving DecidableEq, Repr

/-- `ATOMIC_TYPE_CAS`. -/
def atomicTypeCas : UInt8 := 0x01

/-- `ATOMIC_TYPE_FAA`. -/
def atomicTypeFaa : UInt8 := 0x02

namespace AtomicReqPayload

/-- `AtomicReqPayload::encode`. -/
def encode (p : AtomicReqPayload) : Bytes :=
  putU32 p.rkey.value ++ putU8 p.atomicType ++ putZeros 3 ++ putU64 p.remoteVa ++
    putU64 p.operand1 ++ putU64 p.operand2

/-- `AtomicReqPayload::decode`. -/
def decode : Reader RdowsError AtomicReqPayload := do
  requireRemaining 32
  let rkey ← Reader.getU32
  let atomicType ← Reader.getU8
  Reader.advance 3
  let remoteVa ← Reader.getU64
  let operand1 ← Reader.getU64
  let operand2 ← Reader.getU64
  return { rkey := ⟨rkey⟩, atomicType, remoteVa, operand1, operand2 }

end AtomicReqPayload

/-- ATOMIC_RESP payload (16 bytes). -/
structure AtomicRespPayload where
  originalValue : UInt64
  status : UInt16
  deriving DecidableEq, Repr

namespace AtomicRespPayload

/-- `AtomicRespPayload::encode`. -/
def encode (p : AtomicRespPayload) : Bytes :=
  putU64 p.originalValue ++ putU16 p.status ++ putZeros 6

/-- `AtomicRespPayload::decode`. -/
def decode : Reader RdowsError AtomicRespPayload := do
  requireRemaining 16
  let originalValue ← Reader.getU64
  let status ← Reader.getU16
  Reader.advance 6
  return { originalValue, status }

end AtomicRespPayload

/-- SEND_DATA / WRITE_DATA payload (raw bytes): the announced length is all that delimits it. -/
structure DataPayload where
  data : Bytes
  deriving DecidableEq, Repr

namespace DataPayload

/-- `DataPayload::encode`. -/
def encode (p : DataPayload) : Bytes := p.data

/-- `DataPayload::decode`. -/
def decode (payloadLength : UInt32) : Reader RdowsError DataPayload := do
  requireRemaining payloadLength.toNat
  let data ← Reader.copyToBytes payloadLength.toNat
  return { data }

end DataPayload

/-! ### The unified message -/

/-- A message: the header and the payload of its variant.  The opcode of the header is not tied to
the variant; `decode` makes them agree. -/
inductive RdowsMessage where
  | connect (header : RdowsHeader) (payload : ConnectPayload)
  | connectAck (header : RdowsHeader) (payload : ConnectPayload)
  | disconnect (header : RdowsHeader)
  | mrReg (header : RdowsHeader) (payload : MrRegPayload)
  | mrRegAck (header : RdowsHeader) (payload : MrRegAckPayload)
  | mrDereg (header : RdowsHeader) (payload : MrDeregPayload)
  | mrDeregAck (header : RdowsHeader) (payload : MrDeregAckPayload)
  | send (header : RdowsHeader) (payload : SendPayload)
  | sendData (header : RdowsHeader) (payload : DataPayload)
  | recvComp (header : RdowsHeader)
  | write (header : RdowsHeader) (payload : WritePayload)
  | writeData (header : RdowsHeader) (payload : DataPayload)
  | writeComp (header : RdowsHeader)
  | readReq (header : RdowsHeader) (payload : ReadReqPayload)
  | readResp (header : RdowsHeader) (payload : ReadRespPayload)
  | atomicReq (header : RdowsHeader) (payload : AtomicReqPayload)
  | atomicResp (header : RdowsHeader) (payload : AtomicRespPayload)
  | ack (header : RdowsHeader)
  | creditUpdate (header : RdowsHeader) (payload : CreditUpdatePayload)
  | error (header : RdowsHeader) (payload : ErrorPayload)
  deriving DecidableEq, Repr

namespace RdowsMessage

/-- `RdowsMessage::header`. -/
def header : RdowsMessage → RdowsHeader
  | connect h _ => h
  | connectAck h _ => h
  | disconnect h => h
  | mrReg h _ => h
  | mrRegAck h _ => h
  | mrDereg h _ => h
  | mrDeregAck h _ => h
  | send h _ => h
  | sendData h _ => h
  | recvComp h => h
  | write h _ => h
  | writeData h _ => h
  | writeComp h => h
  | readReq h _ => h
  | readResp h _ => h
  | atomicReq h _ => h
  | atomicResp h _ => h
  | ack h => h
  | creditUpdate h _ => h
  | error h _ => h

/-- The payload half of `RdowsMessage::encode`: the bytes of `payload_buf`. -/
def encodePayload : RdowsMessage → Bytes
  | connect _ p => p.encode
  | connectAck _ p => p.encode
  | disconnect _ => []
  | mrReg _ p => p.encode
  | mrRegAck _ p => p.encode
  | mrDereg _ p => p.encode
  | mrDeregAck _ p => p.encode
  | send _ p => p.encode
  | sendData _ p => p.encode
  | recvComp _ => []
  | write _ p => p.encode
  | writeData _ p => p.encode
  | writeComp _ => []
  | readReq _ p => p.encode
  | readResp _ p => p.encode
  | atomicReq _ p => p.encode
  | atomicResp _ p => p.encode
  | ack _ => []
  | creditUpdate _ p => p.encode
  | error _ p => p.encode

/-- `RdowsMessage::encode`; the payload is encoded first, and its length, truncated to 32 bits,
replaces the one in the header. -/
def encode (m : RdowsMessage) : Bytes :=
  { m.header with payloadLength := UInt32.ofNat m.encodePayload.length }.encode ++
    m.encodePayload

/-- The payload half of `RdowsMessage::decode`, after the header.  The opcode selects the decoder
and thereby the variant. -/
def decodePayload (h : RdowsHeader) : Reader RdowsError RdowsMessage :=
  match h.opcode with
  | .connect => do return connect h (← ConnectPayload.decode)
  | .connectAck => do return connectAck h (← ConnectPayload.decode)
  | .disconnect => return disconnect h
  | .mrReg => do return mrReg h (← MrRegPayload.decode h.payloadLength)
  | .mrRegAck => do return mrRegAck h (← MrRegAckPayload.decode)
  | .mrDereg => do return mrDereg h (← MrDeregPayload.decode)
  | .mrDeregAck => do return mrDeregAck h (← MrDeregAckPayload.decode)
  | .send => do return send h (← SendPayload.decode)
  | .sendData => do return sendData h (← DataPayload.decode h.payloadLength)
  | .recvComp => return recvComp h
  | .write => do return write h (← WritePayload.decode h.payloadLength)
  | .writeData => do return writeData h (← DataPayload.decode h.payloadLength)
  | .writeComp => return writeComp h
  | .readReq => do return readReq h (← ReadReqPayload.decode)
  | .readResp => do return readResp h (← ReadRespPayload.decode h.payloadLength)
  | .atomicReq => do return atomicReq h (← AtomicReqPayload.decode)
  | .atomicResp => do return atomicResp h (← AtomicRespPayload.decode)
  | .ack => return ack h
  | .creditUpdate => do return creditUpdate h (← CreditUpdatePayload.decode)
  | .error => do return error h (← ErrorPayload.decode)

/-- `RdowsMessage::decode`.  What is left behind the payload is dropped. -/
def decode (data : Bytes) : Outcome RdowsError RdowsMessage :=
  ((do decodePayload (← RdowsHeader.decode) : Reader RdowsError RdowsMessage).run data).1

end RdowsMessage

/-! ### Numbering -/

/-- The messages are numbered consecutively from the first number up to, but not including,
the last one; modulo `2 ^ 32`. -/
def Numbered : UInt32 → List RdowsMessage → UInt32 → Prop
  | seq, [], next => next = seq
  | seq, m :: rest, next => m.header.sequence = seq ∧ Numbered (seq + 1) rest next

theorem Numbered.append {a b c : UInt32} {front back : List RdowsMessage}
    (hfront : Numbered a front b) (hback : Numbered b back c) : Numbered a (front ++ back) c := by
  induction front generalizing a with
  | nil =>
      cases hfront
      exact hback
  | cons m front ih => exact ⟨hfront.1, ih hfront.2⟩

theorem Numbered.split {a c : UInt32} {front back : List RdowsMessage}
    (h : Numbered a (front ++ back) c) : ∃ b, Numbered a front b ∧ Numbered b back c := by
  induction front generalizing a with
  | nil => exact ⟨a, rfl, h⟩
  | cons m front ih =>
      obtain ⟨b, hfront, hback⟩ := ih h.2
      exact ⟨b, ⟨h.1, hfront⟩, hback⟩

/-- The number of the message at a position. -/
theorem Numbered.sequence_of_getElem? {a b : UInt32} {messages : List RdowsMessage} {i : ℕ}
    {m : RdowsMessage} (h : Numbered a messages b) (at_i : messages[i]? = some m) :
    m.header.sequence = a + UInt32.ofNat i := by
  induction messages generalizing a i with
  | nil => simp at at_i
  | cons first rest ih =>
      rcases i with _ | i
      · cases at_i
        rw [h.1]
        exact (UInt32.add_zero a).symm
      · rw [ih h.2 at_i, UInt32.add_assoc, Nat.add_comm i 1, UInt32.ofNat_add]
        rfl

end Rdows
