import Rdows.Lib.Utf8

/-!
# Opcodes, error codes, keys and the frame header

The vocabulary of the protocol: the twenty opcodes and the wire error codes with their conversions,
the access flags and keys of a memory region, the scatter/gather entry, the completion queue entry,
and the fixed 24-byte header that starts every frame.

## Numbers and enumerations

Fields keep the widths they have in the source, as `UInt8` to `UInt64`, because the wire format and
the wrap-around of sequence numbers depend on them.  Opcodes and error codes are inductive types and
not numbers, so a handler is a match over them and a byte that is no opcode cannot get past the
decoder.  The conversions to and from bytes are mutually inverse where they are defined
(`Opcode.tryFrom_toU8`, `Opcode.toU8_of_tryFrom`); the one lossy conversion is that of an error code
nobody knows, which becomes `ErrInternal`.

## Decoders

A decoder is a `Reader`: it consumes the unread bytes of the frame, and a read past the end would be
a panic.  The source guards its reads with a check of what remains, which is `requireRemaining`
here. Each codec comes with the fact that decoding its own encoding gives the value back and leaves
the following bytes alone, so that payloads may be put together in any order.  For the header this
holds under one condition, that it is of this protocol version: any other version is refused.
-/

namespace Rdows

open Rust

/-- `RDOWS_VERSION`, the only version a header may carry. -/
def rdowsVersion : UInt8 := 0x01

/-- `HEADER_SIZE`, in bytes.  Payload offsets in the dissector are counted from here. -/
def headerSize : ℕ := 24

/-- `DEFAULT_MAX_MSG_SIZE`: 16 MiB.  A client proposes it in CONNECT, and a server agrees to no
more. -/
def defaultMaxMsgSize : UInt32 := 16 * 1024 * 1024

/-- `DEFAULT_ICC`, the initial credit count that either side announces when a connection is set
up. -/
def defaultIcc : UInt32 := 65535

/-! ### Opcodes -/

/-- RDoWS opcodes, in the order of the source.  Each frame is of exactly one of them. -/
inductive Opcode where
  | connect | connectAck | disconnect
  | mrReg | mrRegAck | mrDereg | mrDeregAck
  | send | sendData | recvComp
  | write | writeData | writeComp
  | readReq | readResp
  | atomicReq | atomicResp
  | ack | creditUpdate | error
  deriving DecidableEq, Repr

/-- `InvalidOpcode`, the error of a byte that stands for no opcode. -/
structure InvalidOpcode where
  value : UInt8
  deriving DecidableEq, Repr

namespace Opcode

/-- `u8::from(op)`. -/
def toU8 : Opcode → UInt8
  | connect => 0x01
  | connectAck => 0x02
  | disconnect => 0x03
  | mrReg => 0x10
  | mrRegAck => 0x11
  | mrDereg => 0x12
  | mrDeregAck => 0x13
  | send => 0x20
  | sendData => 0x21
  | recvComp => 0x22
  | write => 0x30
  | writeData => 0x31
  | writeComp => 0x32
  | readReq => 0x40
  | readResp => 0x41
  | atomicReq => 0x50
  | atomicResp => 0x51
  | ack => 0x60
  | creditUpdate => 0x61
  | error => 0xF0

/-- `Opcode::try_from`.  Twenty of the 256 bytes are accepted, all others are handed back in the
error. -/
def tryFrom (value : UInt8) : Except InvalidOpcode Opcode :=
  match value with
  | 0x01 => .ok connect
  | 0x02 => .ok connectAck
  | 0x03 => .ok disconnect
  | 0x10 => .ok mrReg
  | 0x11 => .ok mrRegAck
  | 0x12 => .ok mrDereg
  | 0x13 => .ok mrDeregAck
  | 0x20 => .ok send
  | 0x21 => .ok sendData
  | 0x22 => .ok recvComp
  | 0x30 => .ok write
  | 0x31 => .ok writeData
  | 0x32 => .ok writeComp
  | 0x40 => .ok readReq
  | 0x41 => .ok readResp
  | 0x50 => .ok atomicReq
  | 0x51 => .ok atomicResp
  | 0x60 => .ok ack
  | 0x61 => .ok creditUpdate
  | 0xF0 => .ok error
  | _ => .error ⟨value⟩

@[simp] theorem tryFrom_toU8 (op : Opcode) : tryFrom op.toU8 = .ok op := by
  cases op <;> rfl

/-- Different opcodes are written as different bytes. -/
theorem toU8_injective : Function.Injective toU8 := by
  intro op op' same
  have read := congrArg tryFrom same
  rw [tryFrom_toU8, tryFrom_toU8, Except.ok.injEq] at read
  exact read

/-- The byte an opcode was read from is the byte it is written as, so no two bytes are read as one
opcode. -/
theorem toU8_of_tryFrom {value : UInt8} {op : Opcode} (h : tryFrom value = .ok op) :
    op.toU8 = value := by
  unfold tryFrom at h
  split at h <;> simp_all <;> subst h <;> rfl

end Opcode

/-! ### Error codes -/

/-- Wire-level error codes.  They stand in ERROR frames and in the status fields of
acknowledgements. -/
inductive ErrorCode where
  | success | errProtoVersion | errUnknownOpcode | errInvalidPd | errInvalidLkey
  | errInvalidMkey | errAccessDenied | errBounds | errAlignment | errPayloadSize
  | errRnr | errCqOverflow | errSeqGap | errTimeout | errInternal
  deriving DecidableEq, Repr

/-- `InvalidErrorCode`. -/
structure InvalidErrorCode where
  value : UInt16
  deriving DecidableEq, Repr

namespace ErrorCode

/-- `u16::from(code)`. -/
def toU16 : ErrorCode → UInt16
  | success => 0x0000
  | errProtoVersion => 0x0001
  | errUnknownOpcode => 0x0002
  | errInvalidPd => 0x0003
  | errInvalidLkey => 0x0004
  | errInvalidMkey => 0x0005
  | errAccessDenied => 0x0006
  | errBounds => 0x0007
  | errAlignment => 0x0008
  | errPayloadSize => 0x0009
  | errRnr => 0x0010
  | errCqOverflow => 0x0020
  | errSeqGap => 0x0030
  | errTimeout => 0x0040
  | errInternal => 0xFFFF

/-- `ErrorCode::try_from`. -/
def tryFrom (value : UInt16) : Except InvalidErrorCode ErrorCode :=
  match value with
  | 0x0000 => .ok success
  | 0x0001 => .ok errProtoVersion
  | 0x0002 => .ok errUnknownOpcode
  | 0x0003 => .ok errInvalidPd
  | 0x0004 => .ok errInvalidLkey
  | 0x0005 => .ok errInvalidMkey
  | 0x0006 => .ok errAccessDenied
  | 0x0007 => .ok errBounds
  | 0x0008 => .ok errAlignment
  | 0x0009 => .ok errPayloadSize
  | 0x0010 => .ok errRnr
  | 0x0020 => .ok errCqOverflow
  | 0x0030 => .ok errSeqGap
  | 0x0040 => .ok errTimeout
  | 0xFFFF => .ok errInternal
  | _ => .error ⟨value⟩

/-- `ErrorCode::try_from(value).unwrap_or(ErrorCode::ErrInternal)`: a code of a newer peer is not an
error of the frame. -/
def tryFromOrInternal (value : UInt16) : ErrorCode :=
  match tryFrom value with
  | .ok code => code
  | .error _ => errInternal

@[simp] theorem tryFrom_toU16 (code : ErrorCode) : tryFrom code.toU16 = .ok code := by
  cases code <;> rfl

@[simp] theorem tryFromOrInternal_toU16 (code : ErrorCode) :
    tryFromOrInternal code.toU16 = code := by
  rw [tryFromOrInternal, tryFrom_toU16]

end ErrorCode

/-- Library-level errors, with the data their messages are made of.  `protocol` carries a wire error
code: one that the peer reported, or the one under which the client refuses a request itself. -/
inductive RdowsError where
  | invalidVersion (version : UInt8)
  | invalidOpcode (opcode : UInt8)
  | payloadTooShort (expected got : ℕ)
  | headerTooShort (got : ℕ)
  | protocol (code : ErrorCode)
  | sessionClosed
  | sendCreditsExhausted
  | unexpectedMessage (expected : String) (got : Opcode)
  | webSocket (reason : String)
  deriving DecidableEq, Repr

/-- The length check that opens a payload decoder.  Its error says how much was needed and how much
was there. -/
def requireRemaining (expected : ℕ) : Reader RdowsError PUnit := do
  let got ← Reader.remaining
  if got < expected then Method.throw (.payloadTooShort expected got) else return ⟨⟩

theorem run_requireRemaining_of_le {expected : ℕ} {buf : Bytes} (h : expected ≤ buf.length) :
    (requireRemaining expected).run buf = (.ok ⟨⟩, buf) := by
  simp [requireRemaining, h]

theorem run_requireRemaining_of_lt {expected : ℕ} {buf : Bytes} (h : buf.length < expected) :
    (requireRemaining expected).run buf =
      (.err (.payloadTooShort expected buf.length), buf) := by
  simp [requireRemaining, h]

/-! ### Memory regions and work requests -/

/-- Access flags of a memory region.  Bits without a meaning are kept as they come. -/
structure AccessFlags where
  bits : UInt32
  deriving DecidableEq, Repr

namespace AccessFlags

/-- `LOCAL_WRITE`. -/
def localWrite : AccessFlags := ⟨0x01⟩

/-- `REMOTE_WRITE`. -/
def remoteWrite : AccessFlags := ⟨0x02⟩

/-- `REMOTE_READ`. -/
def remoteRead : AccessFlags := ⟨0x04⟩

/-- `REMOTE_ATOMIC`. -/
def remoteAtomic : AccessFlags := ⟨0x08⟩

/-- `AccessFlags::contains`: all bits of the other set are present. -/
def contains (self flag : AccessFlags) : Bool := self.bits &&& flag.bits == flag.bits

/-- `BitOr`. -/
instance : OrOp AccessFlags := ⟨fun self rhs => ⟨self.bits ||| rhs.bits⟩⟩

end AccessFlags

/-- Protection domain: the number that a connection is set up with, and under which its regions are
registered. -/
structure ProtectionDomain where
  value : UInt32
  deriving DecidableEq, Repr

/-- Local key, under which a client names a region in its own requests. -/
structure LKey where
  value : UInt32
  deriving DecidableEq, Repr

/-- Remote key, under which a region is named by whoever accesses it over the wire. -/
@[ext]
structure RKey where
  value : UInt32
  deriving DecidableEq, Repr

/-- Scatter/gather entry, 16 bytes on the wire: a stretch of the region with the given local key. -/
structure ScatterGatherEntry where
  lkey : LKey
  offset : UInt64
  length : UInt32
  deriving DecidableEq, Repr

/-- `SG_ENTRY_SIZE`; also `size_of::<ScatterGatherEntry>()`. -/
def sgEntrySize : ℕ := 16

namespace ScatterGatherEntry

/-- `ScatterGatherEntry::encode`. -/
def encode (e : ScatterGatherEntry) : Bytes :=
  putU32 e.lkey.value ++ putU64 e.offset ++ putU32 e.length

/-- `ScatterGatherEntry::decode`. -/
def decode : Reader RdowsError ScatterGatherEntry := do
  requireRemaining sgEntrySize
  let lkey ← Reader.getU32
  let offset ← Reader.getU64
  let length ← Reader.getU32
  return { lkey := ⟨lkey⟩, offset, length }

@[simp] theorem length_encode (e : ScatterGatherEntry) : e.encode.length = sgEntrySize := by
  simp [encode, sgEntrySize]

@[simp] theorem run_decode_encode (e : ScatterGatherEntry) (rest : Bytes) :
    decode.run (e.encode ++ rest) = (.ok e, rest) := by
  rw [decode, Method.run_bind_of_ok (run_requireRemaining_of_le (by simp))]
  simp [encode]

end ScatterGatherEntry

/-- Completion queue entry: what a client is told when a work request has finished. -/
structure CompletionQueueEntry where
  wrid : UInt64
  status : UInt16
  opcode : Opcode
  vendorError : UInt8
  byteCount : UInt32
  qpNumber : UInt32
  deriving DecidableEq, Repr

/-! ### The frame header -/

/-- The fixed 24-byte frame header.  `payloadLength` is what the sender announces; decoding the
header does not compare it with what follows. -/
structure RdowsHeader where
  version : UInt8
  opcode : Opcode
  flags : UInt16
  sessionId : UInt32
  sequence : UInt32
  wrid : UInt64
  payloadLength : UInt32
  deriving DecidableEq, Repr

/-- `FLAG_F`: fragment. -/
def flagF : UInt16 := 0x8000

/-- `FLAG_L`: last fragment. -/
def flagL : UInt16 := 0x4000

/-- `FLAG_S`: solicited event. -/
def flagS : UInt16 := 0x2000

namespace RdowsHeader

/-- `RdowsHeader::is_fragment`. -/
def isFragment (h : RdowsHeader) : Bool := h.flags &&& flagF != 0

/-- `RdowsHeader::is_last_fragment`. -/
def isLastFragment (h : RdowsHeader) : Bool := h.flags &&& flagL != 0

/-- `RdowsHeader::is_solicited`. -/
def isSolicited (h : RdowsHeader) : Bool := h.flags &&& flagS != 0

/-- `RdowsHeader::new`.  The payload length is left zero and is filled in when the message is
encoded. -/
def new (opcode : Opcode) (sessionId sequence : UInt32) (wrid : UInt64) : RdowsHeader where
  version := rdowsVersion
  opcode := opcode
  flags := 0
  sessionId := sessionId
  sequence := sequence
  wrid := wrid
  payloadLength := 0

/-- `RdowsHeader::encode`. -/
def encode (h : RdowsHeader) : Bytes :=
  putU8 h.version ++ putU8 h.opcode.toU8 ++ putU16 h.flags ++ putU32 h.sessionId ++
    putU32 h.sequence ++ putU64 h.wrid ++ putU32 h.payloadLength

/-- `RdowsHeader::decode`.  The length is checked first, then the version and the opcode, and the
rest is taken as it comes. -/
def decode : Reader RdowsError RdowsHeader := do
  let got ← Reader.remaining
  if got < headerSize then
    Method.throw (.headerTooShort got)
  else
    let version ← Reader.getU8
    if version ≠ rdowsVersion then
      Method.throw (.invalidVersion version)
    else
      let opcodeByte ← Reader.getU8
      match Opcode.tryFrom opcodeByte with
      -- the byte itself is reported, not the error of the conversion
      | .error _ => Method.throw (.invalidOpcode opcodeByte)
      | .ok opcode =>
        let flags ← Reader.getU16
        let sessionId ← Reader.getU32
        let sequence ← Reader.getU32
        let wrid ← Reader.getU64
        let payloadLength ← Reader.getU32
        return { version, opcode, flags, sessionId, sequence, wrid, payloadLength }

@[simp] theorem length_encode (h : RdowsHeader) : h.encode.length = headerSize := by
  simp [encode, headerSize]

/-- A header of this protocol version decodes to itself, whatever bytes follow it.  Any other
version is written as it is and refused when it is read. -/
theorem run_decode_encode (h : RdowsHeader) (hversion : h.version = rdowsVersion)
    (rest : Bytes) : decode.run (h.encode ++ rest) = (.ok h, rest) := by
  have hlen : ¬ (h.encode ++ rest).length < headerSize := by simp
  rw [decode, Method.run_bind_of_ok (Reader.run_remaining _), Method.run_ite, if_neg hlen]
  obtain ⟨version, opcode, flags, sessionId, sequence, wrid, payloadLength⟩ := h
  subst hversion
  simp [encode]

end RdowsHeader

end Rdows
