import Rdows.Core.Message

/-!
# The wire round trip

Every payload decoder inverts its encoder and leaves the following bytes alone; `decode_encode`
assembles these into the round trip of whole messages.

## What a message has to satisfy

`WithinFormat`: it is built for this protocol version under the opcode of its variant, and its
variable parts fit the length fields that describe them (the 16-bit SEND entry count, the 16-bit
description length, the 32-bit payload length).  None of these is enforced by the types of the
source.  A message under another version is written and then refused; one under a foreign opcode is
decoded as another variant; and a list or text that is too long is cut where the length field wraps
around.  Most variants are `isPlain`: they have no 16-bit length of their own, and only have to fit
the payload length.

## What is lost outside the format

SEND is treated without the bound on its entry count first (`SendPayload.run_decode_encode`): the
count on the wire is the true count modulo 2^16, and the decoder reads that many entries of the
list.  READ_RESP beyond the 32-bit length panics or loses data, but is never refused
(`decode_encode_readResp`).  Both are needed where a message comes from a component that does not
promise to stay within the format.

The payload length is zero in a message that was built and right in one that was decoded, so the
round trip returns the `canonical` form of a message, which differs in that field only.
-/

namespace Rdows

open Rust

/-! ### Payload by payload -/

namespace ConnectPayload

@[simp] theorem length_encode (p : ConnectPayload) : p.encode.length = 16 := by simp [encode]

@[simp] theorem run_decode_encode (p : ConnectPayload) (rest : Bytes) :
    decode.run (p.encode ++ rest) = (.ok p, rest) := by
  rw [decode, Method.run_bind_of_ok (run_requireRemaining_of_le (by simp))]
  simp [encode]

end ConnectPayload

/-- Splitting a 64-bit number into two 32-bit halves loses nothing, which is how MR_REG carries its
region length. -/
theorem shiftLeft_or_halves (x : UInt64) :
    (x >>> 32).toUInt32.toUInt64 <<< 32 ||| x.toUInt32.toUInt64 = x := by
  apply UInt64.toNat_inj.mp
  have hx : x.toNat < 2 ^ 64 := x.toNat_lt
  have hhigh : x.toNat / 2 ^ 32 % 2 ^ 32 = x.toNat / 2 ^ 32 := by omega
  simp only [UInt64.toNat_or, UInt64.toNat_shiftLeft, UInt32.toNat_toUInt64,
    UInt64.toNat_toUInt32, UInt64.toNat_shiftRight]
  have hshift : (UInt64.toNat 32) % 64 = 32 := rfl
  rw [hshift, Nat.shiftRight_eq_div_pow, hhigh]
  have hfit : (x.toNat / 2 ^ 32) <<< 32 % 2 ^ 64 = (x.toNat / 2 ^ 32) <<< 32 := by
    rw [Nat.shiftLeft_eq]
    omega
  rw [hfit, ← Nat.shiftLeft_add_eq_or_of_lt (Nat.mod_lt _ (by decide)), Nat.shiftLeft_eq]
  omega

namespace MrRegPayload

theorem length_encode (p : MrRegPayload) :
    p.encode.length = if p.suggestedLkey.isSome then 20 else 16 := by
  cases h : p.suggestedLkey <;> simp [encode, h]

/-- The optional key is read back exactly when it was written, because the header
announces its four bytes. -/
theorem run_decode_encode (p : MrRegPayload) (rest : Bytes) :
    (decode (UInt32.ofNat p.encode.length)).run (p.encode ++ rest) = (.ok p, rest) := by
  have hlen : 16 ≤ (p.encode ++ rest).length := by
    rw [List.length_append, length_encode]
    split <;> omega
  rw [decode, Method.run_bind_of_ok (run_requireRemaining_of_le hlen), length_encode]
  obtain ⟨pd, accessFlags, regionLen, suggestedLkey⟩ := p
  simp only [encode, List.append_assoc]
  rw [Method.run_bind_of_ok (Reader.run_getU32_append _ _),
    Method.run_bind_of_ok (Reader.run_getU32_append _ _),
    Method.run_bind_of_ok (Reader.run_getU32_append _ _),
    Method.run_bind_of_ok (Reader.run_getU32_append _ _),
    Method.run_bind_of_ok (Reader.run_remaining _), shiftLeft_or_halves, Method.run_ite]
  cases suggestedLkey with
  | none => rw [if_neg (by simp)]; rfl
  | some lkey =>
      rw [if_pos (by simp), Method.run_bind_of_ok (Reader.run_getU32_append _ _)]
      rfl

end MrRegPayload

namespace MrRegAckPayload

@[simp] theorem length_encode (p : MrRegAckPayload) : p.encode.length = 16 := by simp [encode]

@[simp] theorem run_decode_encode (p : MrRegAckPayload) (rest : Bytes) :
    decode.run (p.encode ++ rest) = (.ok p, rest) := by
  rw [decode, Method.run_bind_of_ok (run_requireRemaining_of_le (by simp))]
  simp [encode]

end MrRegAckPayload

namespace MrDeregPayload

@[simp] theorem length_encode (p : MrDeregPayload) : p.encode.length = 8 := by simp [encode]

@[simp] theorem run_decode_encode (p : MrDeregPayload) (rest : Bytes) :
    decode.run (p.encode ++ rest) = (.ok p, rest) := by
  rw [decode, Method.run_bind_of_ok (run_requireRemaining_of_le (by simp))]
  simp [encode]

end MrDeregPayload

namespace MrDeregAckPayload

@[simp] theorem length_encode (p : MrDeregAckPayload) : p.encode.length = 8 := by simp [encode]

@[simp] theorem run_decode_encode (p : MrDeregAckPayload) (rest : Bytes) :
    decode.run (p.encode ++ rest) = (.ok p, rest) := by
  rw [decode, Method.run_bind_of_ok (run_requireRemaining_of_le (by simp))]
  simp [encode]

end MrDeregAckPayload

/-! ### Scatter/gather lists -/

@[simp] theorem length_encodeSgList (entries : List ScatterGatherEntry) :
    (encodeSgList entries).length = entries.length * sgEntrySize := by
  induction entries with
  | nil => simp [encodeSgList]
  | cons e entries ih =>
      have hcons : encodeSgList (e :: entries) = e.encode ++ encodeSgList entries := rfl
      rw [hcons, List.length_append, ih, ScatterGatherEntry.length_encode, List.length_cons,
        Nat.succ_mul, Nat.add_comm]

/-- Reading `count` entries off an encoded list gives its first `count` entries. -/
theorem run_decodeSgList (count : ℕ) :
    ∀ (entries : List ScatterGatherEntry) (rest : Bytes), count ≤ entries.length →
      (decodeSgList count).run (encodeSgList entries ++ rest) =
        (.ok (entries.take count), encodeSgList (entries.drop count) ++ rest) := by
  induction count with
  | zero => intro entries rest _; simp [decodeSgList]
  | succ count ih =>
      intro entries rest hcount
      cases entries with
      | nil => simp at hcount
      | cons e entries =>
          have hcons : encodeSgList (e :: entries) ++ rest =
              e.encode ++ (encodeSgList entries ++ rest) := by
            simp [encodeSgList, List.append_assoc]
          have htail := ih entries rest (by simpa using hcount)
          rw [decodeSgList, hcons,
            Method.run_bind_of_ok (ScatterGatherEntry.run_decode_encode e _),
            Method.run_bind_of_ok htail]
          simp

/-- A vector of at most 2^28 entries can be allocated.  Every count that a 32-bit payload length
allows is below that. -/
theorem withCapacity_sgEntrySize {count : ℕ} (h : count ≤ 2 ^ 28) :
    (withCapacity count sgEntrySize : Outcome RdowsError PUnit) = .ok ⟨⟩ :=
  if_pos (by simp only [sgEntrySize, isizeMax]; omega)

namespace SendPayload

@[simp] theorem length_encode (p : SendPayload) :
    p.encode.length = 4 + p.sgList.length * sgEntrySize := by
  simp [encode, ← Nat.add_assoc]

/-- The decoder reads as many entries as the truncated count says. -/
theorem run_decode_encode (p : SendPayload) :
    ∃ left, decode.run p.encode =
      (.ok { sgList := p.sgList.take (p.sgList.length % 2 ^ 16) }, left) := by
  have hle : p.sgList.length % 2 ^ 16 ≤ p.sgList.length := Nat.mod_le _ _
  have hlt : p.sgList.length % 2 ^ 16 < 2 ^ 16 := Nat.mod_lt _ (by decide)
  have hcount : (UInt16.ofNat p.sgList.length).toNat = p.sgList.length % 2 ^ 16 :=
    UInt16.toNat_ofNat'
  have hneeded : ¬ (encodeSgList p.sgList).length <
      p.sgList.length % 2 ^ 16 * sgEntrySize := by
    rw [length_encodeSgList]
    exact not_lt.mpr (Nat.mul_le_mul_right _ hle)
  have hentries := run_decodeSgList _ p.sgList [] hle
  rw [List.append_nil] at hentries
  refine ⟨encodeSgList (p.sgList.drop (p.sgList.length % 2 ^ 16)) ++ [], ?_⟩
  rw [decode, Method.run_bind_of_ok (run_requireRemaining_of_le (by simp)), encode,
    List.append_assoc, Method.run_bind_of_ok (Reader.run_getU16_append _ _),
    Method.run_bind_of_ok (Reader.run_getU16_append _ _), hcount,
    Method.run_bind_of_ok (Reader.run_remaining _), Method.run_ite, if_neg hneeded,
    withCapacity_sgEntrySize (by omega), Method.run_bind_of_ok (Method.run_lift _ _),
    Method.run_bind_of_ok hentries, Method.run_pure]

end SendPayload

namespace WritePayload

@[simp] theorem length_encode (p : WritePayload) :
    p.encode.length = writeHeaderSize + p.sgList.length * sgEntrySize := by
  simp [encode, writeHeaderSize, ← Nat.add_assoc]

/-- The entry count is recovered from the payload length. -/
theorem run_decode_encode (p : WritePayload) (hfit : p.encode.length < 2 ^ 32) :
    (decode (UInt32.ofNat p.encode.length)).run p.encode = (.ok p, []) := by
  have hlength : (UInt32.ofNat p.encode.length).toNat = p.encode.length :=
    UInt32.toNat_ofNat_of_lt' hfit
  rw [length_encode] at hfit
  -- the decoder recovers the number of entries from the length of the payload
  have hsub : checkedSubUsize (writeHeaderSize + p.sgList.length * sgEntrySize) writeHeaderSize
      = some (p.sgList.length * sgEntrySize) := by
    rw [checkedSubUsize, if_pos (Nat.le_add_right _ _), Nat.add_sub_cancel_left]
  have hcount : p.sgList.length * sgEntrySize / sgEntrySize = p.sgList.length :=
    Nat.mul_div_cancel _ (by decide)
  have hcap : p.sgList.length ≤ 2 ^ 28 := by
    simp only [writeHeaderSize, sgEntrySize] at hfit
    omega
  have hentries := run_decodeSgList _ p.sgList [] le_rfl
  rw [List.append_nil, List.take_length, List.drop_length] at hentries
  rw [decode, hlength, length_encode,
    Method.run_bind_of_ok (run_requireRemaining_of_le (by simp)), hsub, encode]
  simp only [List.append_assoc]
  rw [Method.run_bind_of_ok (Reader.run_getU32_append _ _),
    Method.run_bind_of_ok (Reader.run_getU32_append _ _),
    Method.run_bind_of_ok (Reader.run_getU64_append _ _),
    Method.run_bind_of_ok (Reader.run_getU64_append _ _), Outcome.orPanic_some,
    Method.run_bind_of_ok (Method.run_lift _ _), hcount,
    withCapacity_sgEntrySize hcap, Method.run_bind_of_ok (Method.run_lift _ _),
    Method.run_bind_of_ok hentries, Method.run_pure]
  rfl

end WritePayload

namespace ReadReqPayload

@[simp] theorem length_encode (p : ReadReqPayload) : p.encode.length = 40 := by simp [encode]

@[simp] theorem run_decode_encode (p : ReadReqPayload) (rest : Bytes) :
    decode.run (p.encode ++ rest) = (.ok p, rest) := by
  rw [decode, Method.run_bind_of_ok (run_requireRemaining_of_le (by simp))]
  simp [encode]

end ReadReqPayload

namespace ReadRespPayload

@[simp] theorem length_encode (p : ReadRespPayload) : p.encode.length = 8 + p.data.length := by
  simp [encode]

/-- The data block is delimited by the payload length. -/
theorem run_decode_encode (p : ReadRespPayload) (hfit : p.encode.length < 2 ^ 32) :
    (decode (UInt32.ofNat p.encode.length)).run p.encode = (.ok p, []) := by
  have hlength : (UInt32.ofNat p.encode.length).toNat = p.encode.length :=
    UInt32.toNat_ofNat_of_lt' hfit
  have hsub : checkedSubUsize (8 + p.data.length) 8 = some p.data.length := by
    rw [checkedSubUsize, if_pos (Nat.le_add_right _ _), Nat.add_sub_cancel_left]
  have hdata := Reader.run_copyToBytes_append (ε := RdowsError) p.data []
  rw [List.append_nil] at hdata
  rw [decode, hlength, length_encode,
    Method.run_bind_of_ok (run_requireRemaining_of_le (by simp)), hsub, encode,
    Method.run_bind_of_ok (Reader.run_getU64_append _ _), Outcome.orPanic_some,
    Method.run_bind_of_ok (Method.run_lift _ _),
    Method.run_bind_of_ok (Reader.run_remaining _), Method.run_ite,
    if_neg (Nat.lt_irrefl _), Method.run_bind_of_ok hdata, Method.run_pure]

/-- Without the bound on the length the decoder panics or reads the data that the truncated length
announces, but it never reports an error. -/
theorem decode_encode_ne_err (p : ReadRespPayload) (e : RdowsError) :
    ((decode (UInt32.ofNat p.encode.length)).run p.encode).1 ≠ .err e := by
  have long : 8 ≤ p.encode.length := by
    rw [length_encode]
    exact Nat.le_add_right _ _
  have short : (UInt32.ofNat p.encode.length).toNat ≤ 8 + p.data.length := by
    rw [UInt32.toNat_ofNat', ← length_encode]
    exact Nat.mod_le _ _
  generalize UInt32.ofNat p.encode.length = announced at short
  rw [decode, Method.run_bind_of_ok (run_requireRemaining_of_le long), encode,
    Method.run_bind_of_ok (Reader.run_getU64_append _ _), checkedSubUsize]
  by_cases above : 8 ≤ announced.toNat
  · obtain ⟨data, run⟩ := (Reader.takes_copyToBytes (ε := RdowsError) (announced.toNat - 8)).reads
      p.data (by omega)
    rw [if_pos above, Outcome.orPanic_some, Method.run_bind_of_ok (Method.run_lift _ _),
      Method.run_bind_of_ok (Reader.run_remaining _), Method.run_ite, if_neg (by omega),
      Method.run_bind_of_ok run, Method.run_pure]
    simp
  · rw [if_neg above]
    intro failed
    cases failed

end ReadRespPayload

namespace ErrorPayload

@[simp] theorem length_encode (p : ErrorPayload) :
    p.encode.length = 10 + (utf8Bytes p.description).length := by
  simp [encode, ← Nat.add_assoc]

/-- The description is read back, also when it is empty and no text is read. -/
theorem run_decode_encode (p : ErrorPayload)
    (hdesc : (utf8Bytes p.description).length ≤ 65535) :
    decode.run p.encode = (.ok p, []) := by
  have hlen : (UInt16.ofNat (utf8Bytes p.description).length).toNat =
      (utf8Bytes p.description).length := UInt16.toNat_ofNat_of_lt' (Nat.lt_succ_of_le hdesc)
  rw [decode, Method.run_bind_of_ok (run_requireRemaining_of_le (by simp)), encode]
  simp only [List.append_assoc]
  rw [Method.run_bind_of_ok (Reader.run_getU16_append _ _),
    Method.run_bind_of_ok (Reader.run_getU16_append _ _),
    Method.run_bind_of_ok (Reader.run_getU32_append _ _),
    Method.run_bind_of_ok (Reader.run_getU16_append _ _), hlen,
    Method.run_bind_of_ok (Reader.run_remaining _), Method.run_ite,
    ErrorCode.tryFromOrInternal_toU16]
  by_cases hempty : utf8Bytes p.description = []
  · rw [hempty, if_neg (by simp), Method.run_pure]
    rw [utf8Bytes_eq_nil_iff] at hempty
    rw [← hempty]
  · have hdata := Reader.run_copyToBytes_append (ε := RdowsError) (utf8Bytes p.description) []
    rw [List.append_nil] at hdata
    rw [if_pos ⟨List.length_pos_iff.mpr hempty, le_rfl⟩, Method.run_bind_of_ok hdata,
      Method.run_pure, fromUtf8Lossy_utf8Bytes]

end ErrorPayload

namespace CreditUpdatePayload

@[simp] theorem length_encode (p : CreditUpdatePayload) : p.encode.length = 8 := by simp [encode]

@[simp] theorem run_decode_encode (p : CreditUpdatePayload) (rest : Bytes) :
    decode.run (p.encode ++ rest) = (.ok p, rest) := by
  rw [decode, Method.run_bind_of_ok (run_requireRemaining_of_le (by simp))]
  simp [encode]

end CreditUpdatePayload

namespace AtomicReqPayload

@[simp] theorem length_encode (p : AtomicReqPayload) : p.encode.length = 32 := by simp [encode]

@[simp] theorem run_decode_encode (p : AtomicReqPayload) (rest : Bytes) :
    decode.run (p.encode ++ rest) = (.ok p, rest) := by
  rw [decode, Method.run_bind_of_ok (run_requireRemaining_of_le (by simp))]
  simp [encode]

end AtomicReqPayload

namespace AtomicRespPayload

@[simp] theorem length_encode (p : AtomicRespPayload) : p.encode.length = 16 := by simp [encode]

@[simp] theorem run_decode_encode (p : AtomicRespPayload) (rest : Bytes) :
    decode.run (p.encode ++ rest) = (.ok p, rest) := by
  rw [decode, Method.run_bind_of_ok (run_requireRemaining_of_le (by simp))]
  simp [encode]

end AtomicRespPayload

namespace DataPayload

theorem run_decode_encode (p : DataPayload) (hfit : p.encode.length < 2 ^ 32) :
    (decode (UInt32.ofNat p.encode.length)).run p.encode = (.ok p, []) := by
  have hlength : (UInt32.ofNat p.encode.length).toNat = p.encode.length :=
    UInt32.toNat_ofNat_of_lt' hfit
  have hdata := Reader.run_copyToBytes_append (ε := RdowsError) p.encode []
  rw [List.append_nil] at hdata
  rw [decode, hlength, Method.run_bind_of_ok (run_requireRemaining_of_le le_rfl),
    Method.run_bind_of_ok hdata, Method.run_pure]
  rfl

end DataPayload

/-! ### Whole messages -/

namespace RdowsMessage

/-- The opcode that belongs to a variant.  A header may carry another one; then the frame is decoded
as something else. -/
def variantOpcode : RdowsMessage → Opcode
  | connect _ _ => .connect
  | connectAck _ _ => .connectAck
  | disconnect _ => .disconnect
  | mrReg _ _ => .mrReg
  | mrRegAck _ _ => .mrRegAck
  | mrDereg _ _ => .mrDereg
  | mrDeregAck _ _ => .mrDeregAck
  | send _ _ => .send
  | sendData _ _ => .sendData
  | recvComp _ => .recvComp
  | write _ _ => .write
  | writeData _ _ => .writeData
  | writeComp _ => .writeComp
  | readReq _ _ => .readReq
  | readResp _ _ => .readResp
  | atomicReq _ _ => .atomicReq
  | atomicResp _ _ => .atomicResp
  | ack _ => .ack
  | creditUpdate _ _ => .creditUpdate
  | error _ _ => .error

/-- The same message under another header. -/
def withHeader (h : RdowsHeader) : RdowsMessage → RdowsMessage
  | connect _ p => connect h p
  | connectAck _ p => connectAck h p
  | disconnect _ => disconnect h
  | mrReg _ p => mrReg h p
  | mrRegAck _ p => mrRegAck h p
  | mrDereg _ p => mrDereg h p
  | mrDeregAck _ p => mrDeregAck h p
  | send _ p => send h p
  | sendData _ p => sendData h p
  | recvComp _ => recvComp h
  | write _ p => write h p
  | writeData _ p => writeData h p
  | writeComp _ => writeComp h
  | readReq _ p => readReq h p
  | readResp _ p => readResp h p
  | atomicReq _ p => atomicReq h p
  | atomicResp _ p => atomicResp h p
  | ack _ => ack h
  | creditUpdate _ p => creditUpdate h p
  | error _ p => error h p

@[simp] theorem header_withHeader (h : RdowsHeader) (m : RdowsMessage) :
    (m.withHeader h).header = h := by
  cases m <;> rfl

/-- The header that `encode` puts on the wire: the payload length is computed, the rest is as it was
given. -/
def wireHeader (m : RdowsMessage) : RdowsHeader :=
  { m.header with payloadLength := UInt32.ofNat m.encodePayload.length }

/-- The message with its payload length filled in, which is what its receiver will see. -/
def canonical (m : RdowsMessage) : RdowsMessage := m.withHeader m.wireHeader

/-- What a message must satisfy for the wire format to describe it.  The bounds are those of the
length fields, and the encoder checks none of them. -/
structure WithinFormat (m : RdowsMessage) : Prop where
  /-- It is built for this protocol version. -/
  version : m.header.version = rdowsVersion
  /-- Its header carries the opcode of its variant. -/
  opcode : m.header.opcode = m.variantOpcode
  /-- A SEND list's length fits its 16-bit count. -/
  sgCount : ∀ h p, m = send h p → p.sgList.length ≤ 65535
  /-- An ERROR description's length fits its 16-bit field. -/
  description : ∀ h p, m = error h p → (utf8Bytes p.description).length ≤ 65535
  /-- The payload's length fits its 32-bit field. -/
  payload : m.encodePayload.length < 2 ^ 32

/-- The message has no 16-bit length field of its own, so it only has to fit the payload length. -/
def isPlain : RdowsMessage → Bool
  | send _ _ | error _ _ => false
  | _ => true

/-- A plain message only has to fit its payload length. -/
theorem WithinFormat.of_isPlain {m : RdowsMessage} (version : m.header.version = rdowsVersion)
    (opcode : m.header.opcode = m.variantOpcode) (plain : m.isPlain = true)
    (payload : m.encodePayload.length < 2 ^ 32) : m.WithinFormat where
  version := version
  opcode := opcode
  sgCount h p same := by rw [same] at plain; cases plain
  description h p same := by rw [same] at plain; cases plain
  payload := payload

/-- A plain message under a fresh header. -/
theorem WithinFormat.of_header {m : RdowsMessage} {sessionId sequence : UInt32} {wrid : UInt64}
    (header : m.header = RdowsHeader.new m.variantOpcode sessionId sequence wrid)
    (plain : m.isPlain = true) (payload : m.encodePayload.length < 2 ^ 32) : m.WithinFormat :=
  .of_isPlain (by rw [header]; rfl) (by rw [header]; rfl) plain payload

/-- Decoding a well-formed header goes on to the payload. -/
theorem decode_header_append {h : RdowsHeader} (hversion : h.version = rdowsVersion)
    (payload : Bytes) : decode (h.encode ++ payload) = ((decodePayload h).run payload).1 := by
  rw [decode, Method.run_bind_of_ok (RdowsHeader.run_decode_encode h hversion payload)]

/-- A payload decoder that returned, wrapped into its variant. -/
theorem run_wrap {α : Type} {x : Reader RdowsError α} {buf left : Bytes} {a : α}
    (wrap : α → RdowsMessage) (h : x.run buf = (.ok a, left)) :
    (do return wrap (← x) : Reader RdowsError RdowsMessage).run buf = (.ok (wrap a), left) := by
  rw [Method.run_bind_of_ok h, Method.run_pure]

/-- The same, for a payload that the frame ends with. -/
theorem run_wrap_of_append {α : Type} {x : Reader RdowsError α} {payload : Bytes} {a : α}
    (wrap : α → RdowsMessage) (h : ∀ rest, x.run (payload ++ rest) = (.ok a, rest)) :
    (do return wrap (← x) : Reader RdowsError RdowsMessage).run payload = (.ok (wrap a), []) := by
  have hnil := h []
  rw [List.append_nil] at hnil
  exact run_wrap wrap hnil

/-- The payload decoder reads the payload that was written; only a SEND can leave
bytes behind, none within the format. -/
theorem run_decodePayload_encodePayload {m : RdowsMessage} (h : m.WithinFormat) :
    ∃ left, (decodePayload m.wireHeader).run m.encodePayload = (.ok m.canonical, left) := by
  have hop : m.wireHeader.opcode = m.variantOpcode := h.opcode
  have hfit := h.payload
  rw [decodePayload, hop]
  cases m with
  | connect hd p => exact ⟨_, run_wrap_of_append _ p.run_decode_encode⟩
  | connectAck hd p => exact ⟨_, run_wrap_of_append _ p.run_decode_encode⟩
  | disconnect hd => exact ⟨_, rfl⟩
  | mrReg hd p => exact ⟨_, run_wrap_of_append _ p.run_decode_encode⟩
  | mrRegAck hd p => exact ⟨_, run_wrap_of_append _ p.run_decode_encode⟩
  | mrDereg hd p => exact ⟨_, run_wrap_of_append _ p.run_decode_encode⟩
  | mrDeregAck hd p => exact ⟨_, run_wrap_of_append _ p.run_decode_encode⟩
  | send hd p =>
      obtain ⟨left, hrun⟩ := p.run_decode_encode
      -- the count on the wire is taken modulo `2 ^ 16`, and the form asks that nothing is lost by
      -- that
      have hcount : p.sgList.length % 2 ^ 16 = p.sgList.length :=
        Nat.mod_eq_of_lt (Nat.lt_succ_of_le (h.sgCount hd p rfl))
      rw [hcount, List.take_length] at hrun
      exact ⟨left, run_wrap _ hrun⟩
  | sendData hd p => exact ⟨_, run_wrap _ (p.run_decode_encode hfit)⟩
  | recvComp hd => exact ⟨_, rfl⟩
  | write hd p => exact ⟨_, run_wrap _ (p.run_decode_encode hfit)⟩
  | writeData hd p => exact ⟨_, run_wrap _ (p.run_decode_encode hfit)⟩
  | writeComp hd => exact ⟨_, rfl⟩
  | readReq hd p => exact ⟨_, run_wrap_of_append _ p.run_decode_encode⟩
  | readResp hd p => exact ⟨_, run_wrap _ (p.run_decode_encode hfit)⟩
  | atomicReq hd p => exact ⟨_, run_wrap_of_append _ p.run_decode_encode⟩
  | atomicResp hd p => exact ⟨_, run_wrap_of_append _ p.run_decode_encode⟩
  | ack hd => exact ⟨_, rfl⟩
  | creditUpdate hd p => exact ⟨_, run_wrap_of_append _ p.run_decode_encode⟩
  | error hd p => exact ⟨_, run_wrap _ (p.run_decode_encode (h.description hd p rfl))⟩

/-- Decoding an encoded message within the format gives it back, up to the payload length that is
filled in. -/
theorem decode_encode_eq {m : RdowsMessage} (h : m.WithinFormat) :
    decode m.encode = .ok m.canonical := by
  obtain ⟨left, hrun⟩ := run_decodePayload_encodePayload h
  have hversion : m.wireHeader.version = rdowsVersion := h.version
  rw [show m.encode = m.wireHeader.encode ++ m.encodePayload from rfl,
    decode_header_append hversion, hrun]

/-- A SEND is decoded whatever the number of its entries; those beyond the truncated count are
lost. -/
theorem decode_encode_send {h : RdowsHeader} {p : SendPayload} (version : h.version = rdowsVersion)
    (opcode : h.opcode = .send) :
    decode (send h p).encode = .ok (send (send h p).wireHeader
      { sgList := p.sgList.take (p.sgList.length % 2 ^ 16) }) := by
  obtain ⟨left, run⟩ := p.run_decode_encode
  have onWire : (send h p).wireHeader.version = rdowsVersion := version
  rw [show (send h p).encode = (send h p).wireHeader.encode ++ p.encode from rfl,
    decode_header_append onWire, decodePayload,
    show (send h p).wireHeader.opcode = .send from opcode]
  exact congrArg Prod.fst (run_wrap _ run)

/-- A READ_RESP of any length: what is decoded has the header that was written, or decoding
panics. -/
theorem decode_encode_readResp {h : RdowsHeader} {p : ReadRespPayload}
    (version : h.version = rdowsVersion) (opcode : h.opcode = .readResp) :
    (∃ q, decode (readResp h p).encode = .ok (readResp (readResp h p).wireHeader q)) ∨
      ∃ c, decode (readResp h p).encode = .panic c := by
  have onWire : (readResp h p).wireHeader.version = rdowsVersion := version
  rw [show (readResp h p).encode = (readResp h p).wireHeader.encode ++ p.encode from rfl,
    decode_header_append onWire, decodePayload,
    show (readResp h p).wireHeader.opcode = .readResp from opcode]
  have never := p.decode_encode_ne_err
  rcases run : (ReadRespPayload.decode (readResp h p).wireHeader.payloadLength).run p.encode
    with ⟨q | e | c, left⟩
  · exact .inl ⟨q, congrArg Prod.fst (run_wrap _ run)⟩
  · exact absurd (congrArg Prod.fst run) (never e)
  · refine .inr ⟨c, ?_⟩
    dsimp only
    rw [Method.run_bind, run]

/-- A frame is its header and its payload. -/
theorem length_encode (m : RdowsMessage) :
    m.encode.length = headerSize + m.encodePayload.length := by
  rw [encode, List.length_append, RdowsHeader.length_encode]

/-- **The wire round trip.**  Within the format, decoding an encoded message gives
the message with its payload length filled in, and the frame is the header
followed by exactly that many bytes. -/
theorem decode_encode (m : RdowsMessage) (h : m.WithinFormat) :
    decode m.encode = .ok m.canonical ∧
      m.canonical = m.withHeader { m.header with
        payloadLength := UInt32.ofNat m.encodePayload.length } ∧
      m.canonical.header.payloadLength.toNat = m.encodePayload.length ∧
      m.encode.length = 24 + m.canonical.header.payloadLength.toNat := by
  have hlength : m.canonical.header.payloadLength.toNat = m.encodePayload.length := by
    rw [canonical, header_withHeader]
    exact UInt32.toNat_ofNat_of_lt' h.payload
  exact ⟨decode_encode_eq h, rfl, hlength, by rw [hlength]; exact length_encode m⟩

/-- The round trip of an ERROR whose description is not ASCII, with flag bits set: the length counts
bytes and not characters, and flags are not interpreted. -/
theorem decode_encode_error_naive :
    let m : RdowsMessage := .error
      { RdowsHeader.new .error 0xABCD 7 0 with flags := 0xFFFF }
      { errorCode := .errBounds, failingSeq := 6, description := "naïve ✓" }
    m.WithinFormat ∧ decode m.encode = .ok m.canonical := by
  intro m
  have h : m.WithinFormat :=
    { version := rfl
      opcode := rfl
      sgCount := by intro h p hm; simp [m] at hm
      description := by
        intro h p hm
        rw [← (RdowsMessage.error.inj hm).2]
        decide
      payload := by decide }
  exact ⟨h, (decode_encode m h).1⟩

end RdowsMessage

end Rdows
