import Mathlib.Tactic.FieldSimp
import Rdows.Core.RoundTrip
import Rdows.Lib.Layout
import Rdows.Wireshark.Dissector

/-!
# The dissector shows what was encoded

The encoder implies its offsets by the order in which it writes; the dissector has them as literals.
The two are compared through a third description of the format, which neither of them uses.

* `RdowsMessage.layout` lists the fields of a message in the order of the encoder, and
  `layoutBytes_layout` says that they are the whole frame.
* `RdowsMessage.infoValues` lists the values of the message that the info column mentions.  The
  words around them belong to the script alone and are not stated.
* `Shows x a rows info` is what is proved about a piece of the script: it returns `a`, shows the
  fields `rows`, and puts the values `info` into the info column, or leaves it alone.
* `dissector_encode` is the agreement: run on an encoded message, the dissector does not fail, the
  fields it shows are those of the layout, each at its offset, with its width and its value, and the
  info column has the values of the message.

All of this holds for every `TextDecoding`.  What is said about the description of an ERROR is that
exactly its bytes are decoded, once for the field and once for the info column.

## How a branch is proved

A branch of the dissector is a sequence of steps, and each kind of step has one lemma about `Shows`:
reading a number (`shows_uint`), showing it (`shows_number`), showing a bit of it (`shows_flag`) or
a block (`shows_block`).  All of them ask that the piece of the layout stands in the buffer at the
offset of the step, which `HoldsAt` provides for all pieces at once.  `Shows.silent`, `Shows.one`,
`Shows.last` and `Shows.bind` put the steps together.  So the proof of a branch lists the pieces of
its payload in the order in which the script visits them, and a wrong offset, width or field in the
script would leave a piece that does not stand where the step reads.
-/

namespace Rdows

open Rust

/-! ### The layout of a message -/

open Wireshark (Field)

/-- The fields of the header.  The flags stand there four times: as a number, which has the bytes,
and as its three bits, which have none of their own. -/
def RdowsHeader.layout (h : RdowsHeader) : List (Piece Field) :=
  [.u8 .version h.version, .u8 .opcode h.opcode.toU8, .u16 .flags h.flags,
    .flag .flagF 2 h.isFragment, .flag .flagL 2 h.isLastFragment, .flag .flagS 2 h.isSolicited,
    .u32 .sessionId h.sessionId, .u32 .sequence h.sequence, .u64 .wrid h.wrid,
    .u32 .payloadLen h.payloadLength]

/-- The fields of CONNECT and CONNECT_ACK, four 32-bit numbers. -/
def ConnectPayload.layout (p : ConnectPayload) : List (Piece Field) :=
  [.u32 .pdHandle p.pd.value, .u32 .capFlags p.capabilityFlags, .u32 .maxMsgSize p.maxMsgSize,
    .u32 .icc p.icc]

/-- The fields of a scatter/gather entry: L_Key, offset and length. -/
def ScatterGatherEntry.layout (e : ScatterGatherEntry) : List (Piece Field) :=
  [.u32 .sgLkey e.lkey.value, .u64 .sgOffset e.offset, .u32 .sgLength e.length]

/-- The fields of a list of entries, one entry behind the other with nothing in between. -/
def sgLayout (entries : List ScatterGatherEntry) : List (Piece Field) :=
  entries.flatMap ScatterGatherEntry.layout

namespace RdowsMessage

/-- The fields of the payload.  Reserved bytes have no field: they are written as zeros, and no row
shows them. -/
def payloadLayout : RdowsMessage → List (Piece Field)
  | connect _ p => p.layout
  | connectAck _ p => p.layout
  | mrReg _ p =>
      [.u32 .pdHandle p.pd.value, .u32 .accessFlags p.accessFlags.bits,
        .u64 .regionLen p.regionLen] ++
        match p.suggestedLkey with
        | some lkey => [.u32 .lkey lkey.value]
        | none => []
  | mrRegAck _ p =>
      [.u32 .pdHandle p.pd.value, .u32 .lkey p.lkey.value, .u32 .rkey p.rkey.value,
        .u16 .status p.status, .reserved 2]
  | mrDereg _ p => [.u32 .pdHandle p.pd.value, .u32 .lkey p.lkey.value]
  | mrDeregAck _ p => [.u16 .status p.status, .reserved 6]
  | send _ p =>
      [.u16 .sgCount (UInt16.ofNat p.sgList.length), .reserved 2] ++ sgLayout p.sgList
  | sendData _ p => [.block .data p.data]
  | write _ p =>
      [.u32 .rkey p.rkey.value, .reserved 4, .u64 .remoteVa p.remoteVa, .u64 .writeLen p.length] ++
        sgLayout p.sgList
  | writeData _ p => [.block .data p.data]
  | readReq _ p =>
      [.u32 .rkey p.rkey.value, .reserved 4, .u64 .remoteVa p.remoteVa, .u64 .readLen p.readLen,
        .u32 .localLkey p.localLkey.value, .reserved 4, .u64 .localVa p.localVa]
  | readResp _ p => [.u64 .fragOffset p.fragmentOffset, .block .data p.data]
  | atomicReq _ p =>
      [.u32 .rkey p.rkey.value, .u8 .atomicType p.atomicType, .reserved 3,
        .u64 .remoteVa p.remoteVa, .u64 .operand1 p.operand1, .u64 .operand2 p.operand2]
  | atomicResp _ p => [.u64 .origValue p.originalValue, .u16 .status p.status, .reserved 6]
  | creditUpdate _ p => [.u32 .creditInc p.creditIncrement, .reserved 4]
  | error _ p =>
      [.u16 .errorCode p.errorCode.toU16, .reserved 2, .u32 .failingSeq p.failingSeq,
        .u16 .descLen (UInt16.ofNat (utf8Bytes p.description).length),
        .block .desc (utf8Bytes p.description)]
  | disconnect _ | recvComp _ | writeComp _ | ack _ => []

/-- The fields of a message, in the order in which they are written: those of the header as it goes
on the wire, then those of the payload. -/
def layout (m : RdowsMessage) : List (Piece Field) := m.wireHeader.layout ++ m.payloadLayout

open Wireshark in
/-- The values of a message that the info column mentions, in order.  A status or an atomic type is
mentioned by its name if the script has one for it, and by its number otherwise; a description that
decodes to the empty text is left out. -/
def infoValues [TextDecoding] : RdowsMessage → List Value
  | connect h p => [.uint h.sessionId.toNat, .uint p.maxMsgSize.toNat]
  | connectAck h p => [.uint h.sessionId.toNat, .uint p.icc.toNat]
  | disconnect h => [.uint h.sessionId.toNat]
  | mrReg _ p => [.uint p.pd.value.toNat, .uint p.regionLen.toNat]
  | mrRegAck _ p => [.uint p.lkey.value.toNat, .uint p.rkey.value.toNat]
  | mrDereg _ p => [.uint p.pd.value.toNat, .uint p.lkey.value.toNat]
  | mrDeregAck _ p => (errorName p.status.toNat).values
  | send _ p => [.uint p.sgList.length, .uint (p.sgList.map fun e => e.length.toNat).sum]
  | sendData _ p => [.uint (UInt32.ofNat p.data.length).toNat]
  | recvComp h => [.uint h.wrid.toNat]
  | write _ p => [.uint p.rkey.value.toNat, .uint p.remoteVa.toNat, .uint p.length.toNat]
  | writeData _ p => [.uint (UInt32.ofNat p.data.length).toNat]
  | writeComp h => [.uint h.wrid.toNat]
  | readReq _ p => [.uint p.rkey.value.toNat, .uint p.remoteVa.toNat, .uint p.readLen.toNat]
  | readResp _ p => [.uint p.fragmentOffset.toNat, .uint p.data.length]
  | atomicReq _ p =>
      (atomicShortName p.atomicType.toNat).values ++
        [.uint p.rkey.value.toNat, .uint p.remoteVa.toNat]
  | atomicResp _ p => [.uint p.originalValue.toNat]
  | ack h => [.uint h.sequence.toNat]
  | creditUpdate _ p => [.uint p.creditIncrement.toNat]
  | error _ p =>
      let descStr :=
        if p.description = "" then "" else TextDecoding.ofRange (utf8Bytes p.description)
      (errorName p.errorCode.toU16.toNat).values ++ .uint p.failingSeq.toNat ::
        if descStr = "" then [] else [.text descStr]

end RdowsMessage

/-- The layout of a header is what `RdowsHeader::encode` writes. -/
theorem RdowsHeader.layoutBytes_layout (h : RdowsHeader) : layoutBytes h.layout = h.encode := by
  simp [layout, encode]

/-- The layout of a list of entries is what the encoder writes for it. -/
theorem layoutBytes_sgLayout (entries : List ScatterGatherEntry) :
    layoutBytes (sgLayout entries) = encodeSgList entries := by
  -- over the entries that are left; the offset moves on by one entry with the index
  induction entries with
  | nil => rfl
  | cons e entries ih =>
      have front : layoutBytes e.layout = e.encode := by
        simp [ScatterGatherEntry.layout, ScatterGatherEntry.encode]
      rw [sgLayout, List.flatMap_cons, layoutBytes_append, front]
      exact congrArg (e.encode ++ ·) ih

/-- A 64-bit number is written as its two halves, the upper one first. -/
theorem putU64_halves (v : UInt64) :
    putU32 (v >>> 32).toUInt32 ++ putU32 v.toUInt32 = putU64 v := by
  have high : (v >>> 32).toUInt32.toNat = v.toNat / 2 ^ 32 := by
    have small := v.toNat_lt
    rw [UInt64.toNat_toUInt32, UInt64.toNat_shiftRight,
      show UInt64.toNat 32 % 64 = 32 from rfl, Nat.shiftRight_eq_div_pow]
    omega
  have low : toBE 4 v.toUInt32.toNat = toBE 4 v.toNat := by
    rw [UInt64.toNat_toUInt32]
    exact toBE_mod le_rfl v.toNat
  rw [putU32, putU32, putU64, toBE_add 4 4, high, low, show 256 ^ 4 = 2 ^ 32 from rfl]

namespace RdowsMessage

/-- The layout of a payload is what the encoder writes for it, variant by variant. -/
theorem layoutBytes_payloadLayout (m : RdowsMessage) :
    layoutBytes m.payloadLayout = m.encodePayload := by
  -- the encoder writes a length of a region in two halves, and reserved fields as numbers that are
  -- 0
  cases m with
  | connect h p => simp [payloadLayout, encodePayload, ConnectPayload.layout, ConnectPayload.encode]
  | connectAck h p =>
      simp [payloadLayout, encodePayload, ConnectPayload.layout, ConnectPayload.encode]
  | mrReg h p =>
      have halves := putU64_halves p.regionLen
      cases lkey : p.suggestedLkey <;>
        simp [payloadLayout, encodePayload, MrRegPayload.encode, lkey, ← halves]
  | mrRegAck h p => simp [payloadLayout, encodePayload, MrRegAckPayload.encode, Piece.putU16_zero]
  | mrDereg h p => simp [payloadLayout, encodePayload, MrDeregPayload.encode]
  | mrDeregAck h p => simp [payloadLayout, encodePayload, MrDeregAckPayload.encode]
  | send h p =>
      rw [payloadLayout, layoutBytes_append, layoutBytes_sgLayout]
      simp [encodePayload, SendPayload.encode, Piece.putU16_zero]
  | sendData h p => simp [payloadLayout, encodePayload, DataPayload.encode]
  | write h p =>
      rw [payloadLayout, layoutBytes_append, layoutBytes_sgLayout]
      simp [encodePayload, WritePayload.encode, Piece.putU32_zero]
  | writeData h p => simp [payloadLayout, encodePayload, DataPayload.encode]
  | readReq h p => simp [payloadLayout, encodePayload, ReadReqPayload.encode, Piece.putU32_zero]
  | readResp h p => simp [payloadLayout, encodePayload, ReadRespPayload.encode]
  | atomicReq h p => simp [payloadLayout, encodePayload, AtomicReqPayload.encode]
  | atomicResp h p => simp [payloadLayout, encodePayload, AtomicRespPayload.encode]
  | creditUpdate h p =>
      simp [payloadLayout, encodePayload, CreditUpdatePayload.encode, Piece.putU32_zero]
  | error h p => simp [payloadLayout, encodePayload, ErrorPayload.encode, Piece.putU16_zero]
  | disconnect h => rfl
  | recvComp h => rfl
  | writeComp h => rfl
  | ack h => rfl

/-- The layout of a message is its frame. -/
theorem layoutBytes_layout (m : RdowsMessage) : layoutBytes m.layout = m.encode := by
  rw [layout, layoutBytes_append, RdowsHeader.layoutBytes_layout, layoutBytes_payloadLayout]
  rfl

end RdowsMessage

namespace Wireshark

/-! ### What a piece of the script shows -/

/-- The value of a block: the bytes themselves, or what Wireshark makes of the bytes of the
description. -/
def blockValue [TextDecoding] (f : Field) (bytes : Bytes) : Value :=
  if f = .desc then .text (TextDecoding.ofField bytes) else .bytes bytes

/-- The row of a piece at its offset.  An empty block has none. -/
def pieceRow [TextDecoding] : ℕ × Piece Field → List FieldRow
  | (o, .number f width value _) => [⟨f, o, width, .uint value⟩]
  | (o, .flag f width set) => [⟨f, o - width, width, .flag set⟩]
  | (o, .block f bytes) => if bytes = [] then [] else [⟨f, o, bytes.length, blockValue f bytes⟩]
  | (_, .reserved _) => []

/-- The rows of pieces that stand from offset `o` on, each at the offset that the pieces before it
leave. -/
def layoutRows [TextDecoding] (o : ℕ) (pieces : List (Piece Field)) : List FieldRow :=
  (placed o pieces).flatMap pieceRow

/-- **What a piece of the script does, whatever is on the screen already**: it ends without a range
error and returns `a`; it adds the fields `rows` behind those that are shown; and it puts the values
`info` into the info column, or leaves the column alone if there are none to be put. -/
def Shows {α : Type} (x : Script α) (a : α) (rows : List FieldRow) (info : Option (List Value)) :
    Prop :=
  ∀ d, ∃ d', x.run d = (.ok a, d') ∧ d'.fields = d.fields ++ rows ∧
    d'.info.values = info.getD d.info.values

section Rules

variable {α β : Type} {x : Script α} {f : α → Script β} {a : α} {c : β}
  {rows rows' : List FieldRow} {info : Option (List Value)} {b : Bytes} {o : ℕ}

theorem shows_pure (a : α) : Shows (pure a) a [] none :=
  fun d => ⟨d, rfl, (List.append_nil _).symm, rfl⟩

/-- A step that shows some fields, and what comes behind it. -/
theorem Shows.bind (first : Shows x a rows none) (second : Shows (f a) c rows' info) :
    Shows (x >>= f) c (rows ++ rows') info := by
  intro d
  obtain ⟨d₁, run₁, fields₁, info₁⟩ := first d
  obtain ⟨d₂, run₂, fields₂, info₂⟩ := second d₁
  refine ⟨d₂, by rw [Method.run_bind_of_ok run₁, run₂], ?_, ?_⟩
  · rw [fields₂, fields₁, List.append_assoc]
  · rw [info₂, info₁]
    rfl

/-- A step that shows no field. -/
theorem Shows.silent (first : Shows x a [] none) (second : Shows (f a) c rows info) :
    Shows (x >>= f) c rows info :=
  first.bind second

/-- A step that shows one field. -/
theorem Shows.one {row : FieldRow} (first : Shows x a [row] none)
    (second : Shows (f a) c rows info) : Shows (x >>= f) c (row :: rows) info :=
  first.bind second

/-- A step that shows the last fields. -/
theorem Shows.last (first : Shows x a rows none) (second : Shows (f a) c [] info) :
    Shows (x >>= f) c rows info := by
  simpa using first.bind second

theorem shows_setInfo (text : Text) : Shows (setInfo text) ⟨⟩ [] (some text.values) :=
  fun _ => ⟨_, rfl, (List.append_nil _).symm, rfl⟩

theorem shows_setInfo_of_values {text : Text} {values : List Value} (same : text.values = values) :
    Shows (setInfo text) ⟨⟩ [] (some values) :=
  same ▸ shows_setInfo text

theorem shows_protocol (name : String) :
    Shows (Method.modify fun d => { d with protocol := name }) ⟨⟩ [] none :=
  fun _ => ⟨_, rfl, (List.append_nil _).symm, rfl⟩

/-- A range inside the buffer is read without an error. -/
theorem shows_range {width : ℕ} (inside : o + width ≤ b.length) :
    Shows (range b o width) ((b.drop o).take width) [] none := by
  rw [range, if_pos inside]
  exact shows_pure _

theorem shows_subtree {width : ℕ} (depth : ℕ) (text : Text) (inside : o + width ≤ b.length) :
    Shows (addSubtree depth b o width text) ⟨⟩ [] none := by
  have shown : Shows (addRow (.subtree depth o width text)) ⟨⟩ [] none :=
    fun d => ⟨_, rfl, by simp [Display.fields], rfl⟩
  rw [addSubtree]
  exact (shows_range inside).silent shown

/-- Reading a number that stands there. -/
theorem shows_uint {name : Field} {width value : ℕ} {fits : value < 256 ^ width}
    (stands : (Piece.number name width value fits).StandsAt b o) :
    Shows (uint b o width) value [] none := by
  have read : ofBE ((b.drop o).take width) = value := by
    rw [show (b.drop o).take width = toBE width value from stands.2, ofBE_toBE,
      Nat.mod_eq_of_lt fits]
  rw [uint, ← read]
  exact (shows_range stands.1).silent (shows_pure _)

variable [TextDecoding]

theorem shows_addField {width : ℕ} (depth : ℕ) (field : Field) (text : Text)
    (inside : o + width ≤ b.length) :
    Shows (addField depth field b o width text) ⟨⟩
      [⟨field, o, width, field.value ((b.drop o).take width)⟩] none := by
  have shown : ∀ row, Shows (addRow (.field depth row text)) ⟨⟩ [row] none :=
    fun row d => ⟨_, rfl, by simp [Display.fields], rfl⟩
  rw [addField]
  exact (shows_range inside).silent (shown _)

/-- Showing a number that stands there. -/
theorem shows_number {field : Field} {width value : ℕ} {fits : value < 256 ^ width}
    (stands : (Piece.number field width value fits).StandsAt b o) (isNumber : field.type = .uint)
    (depth : ℕ) (text : Text) :
    Shows (addField depth field b o width text) ⟨⟩ [⟨field, o, width, .uint value⟩] none := by
  have read : field.value ((b.drop o).take width) = .uint value := by
    rw [Field.value, isNumber, show (b.drop o).take width = toBE width value from stands.2,
      ofBE_toBE, Nat.mod_eq_of_lt fits]
  exact read ▸ shows_addField depth field text stands.1

/-- Showing a bit of a number that stands there. -/
theorem shows_flag {name field : Field} {width value mask : ℕ} {fits : value < 256 ^ width}
    (stands : (Piece.number name width value fits).StandsAt b o)
    (isFlag : field.type = .bool mask) (depth : ℕ) :
    Shows (addField depth field b o width []) ⟨⟩
      [⟨field, o, width, .flag (value &&& mask != 0)⟩] none := by
  have read : field.value ((b.drop o).take width) = .flag (value &&& mask != 0) := by
    rw [Field.value, isFlag, show (b.drop o).take width = toBE width value from stands.2, ofBE_toBE,
      Nat.mod_eq_of_lt fits]
  exact read ▸ shows_addField depth field [] stands.1

/-- Showing a block that stands there. -/
theorem shows_block {field : Field} {bytes : Bytes}
    (stands : (Piece.block field bytes).StandsAt b o) (isBlock : field = .data ∨ field = .desc)
    (depth : ℕ) :
    Shows (addField depth field b o bytes.length []) ⟨⟩
      [⟨field, o, bytes.length, blockValue field bytes⟩] none := by
  have read : field.value ((b.drop o).take bytes.length) = blockValue field bytes := by
    rw [show (b.drop o).take bytes.length = bytes from stands.2]
    rcases isBlock with rfl | rfl <;> rfl
  exact read ▸ shows_addField depth field [] stands.1

/-- A data block is shown unless it is empty. -/
theorem shows_anyBlock {bytes : Bytes} (stands : (Piece.block Field.data bytes).StandsAt b o)
    (depth : ℕ) :
    Shows (whenever (bytes.length > 0) (addField depth .data b o bytes.length [])) ⟨⟩
      (pieceRow (o, .block .data bytes)) none := by
  rw [whenever, pieceRow]
  by_cases empty : bytes = []
  · rw [if_pos empty, if_neg (by rw [empty]; decide)]
    exact shows_pure _
  · rw [if_neg empty, if_pos (List.length_pos_iff.mpr empty)]
    exact shows_block stands (.inl rfl) depth

end Rules

/-! ### Branch by branch -/

section Branches

variable [TextDecoding] {b : Bytes} {remaining : ℕ} (len : b.length = 24 + remaining)

include len

/-- The four rows of CONNECT and CONNECT_ACK. -/
theorem shows_connectRows {p : ConnectPayload} (holds : HoldsAt b 24 p.layout)
    (room : 16 ≤ remaining) (label : String) :
    Shows (connectRows b label) ⟨⟩ (layoutRows 24 p.layout) none := by
  obtain ⟨pd, caps, size, icc, -⟩ := holds
  refine (shows_subtree 1 _ (by rw [len, payloadOffset]; omega)).silent ?_
  refine (shows_number pd rfl 2 []).one ?_
  refine (shows_number caps rfl 2 []).one ?_
  refine (shows_number size rfl 2 []).one ?_
  exact shows_number icc rfl 2 []

theorem shows_connect {h : RdowsHeader} {p : ConnectPayload} (holds : HoldsAt b 24 p.layout)
    (room : 16 ≤ remaining) :
    Shows (connect b remaining h.sessionId.toNat) ⟨⟩ (layoutRows 24 p.layout)
      (some (RdowsMessage.connect h p).infoValues) := by
  rw [connect, if_pos room]
  refine (shows_connectRows len holds room _).last ?_
  obtain ⟨-, -, size, -⟩ := holds
  exact (shows_uint size).silent (shows_setInfo _)

theorem shows_connectAck {h : RdowsHeader} {p : ConnectPayload} (holds : HoldsAt b 24 p.layout)
    (room : 16 ≤ remaining) :
    Shows (connectAck b remaining h.sessionId.toNat) ⟨⟩ (layoutRows 24 p.layout)
      (some (RdowsMessage.connectAck h p).infoValues) := by
  rw [connectAck, if_pos room]
  refine (shows_connectRows len holds room _).last ?_
  obtain ⟨-, -, -, icc, -⟩ := holds
  exact (shows_uint icc).silent (shows_setInfo _)

theorem shows_mrRegAck {h : RdowsHeader} {p : MrRegAckPayload}
    (holds : HoldsAt b 24 (RdowsMessage.mrRegAck h p).payloadLayout) (room : 16 ≤ remaining) :
    Shows (mrRegAck b remaining) ⟨⟩ (layoutRows 24 (RdowsMessage.mrRegAck h p).payloadLayout)
      (some (RdowsMessage.mrRegAck h p).infoValues) := by
  obtain ⟨pd, lkey, rkey, status, -⟩ := holds
  rw [mrRegAck, if_pos room]
  refine (shows_subtree 1 _ (by rw [len, payloadOffset]; omega)).silent ?_
  refine (shows_number pd rfl 2 []).one ?_
  refine (shows_number lkey rfl 2 []).one ?_
  refine (shows_number rkey rfl 2 []).one ?_
  refine (shows_number status rfl 2 []).one ?_
  refine (shows_uint lkey).silent ?_
  exact (shows_uint rkey).silent (shows_setInfo _)

theorem shows_mrDereg {h : RdowsHeader} {p : MrDeregPayload}
    (holds : HoldsAt b 24 (RdowsMessage.mrDereg h p).payloadLayout) (room : 8 ≤ remaining) :
    Shows (mrDereg b remaining) ⟨⟩ (layoutRows 24 (RdowsMessage.mrDereg h p).payloadLayout)
      (some (RdowsMessage.mrDereg h p).infoValues) := by
  obtain ⟨pd, lkey, -⟩ := holds
  rw [mrDereg, if_pos room]
  refine (shows_subtree 1 _ (by rw [len, payloadOffset]; omega)).silent ?_
  refine (shows_number pd rfl 2 []).one ?_
  refine (shows_number lkey rfl 2 []).one ?_
  refine (shows_uint pd).silent ?_
  exact (shows_uint lkey).silent (shows_setInfo _)

theorem shows_mrDeregAck {h : RdowsHeader} {p : MrDeregAckPayload}
    (holds : HoldsAt b 24 (RdowsMessage.mrDeregAck h p).payloadLayout) (room : 8 ≤ remaining) :
    Shows (mrDeregAck b remaining) ⟨⟩ (layoutRows 24 (RdowsMessage.mrDeregAck h p).payloadLayout)
      (some (RdowsMessage.mrDeregAck h p).infoValues) := by
  obtain ⟨status, -⟩ := holds
  rw [mrDeregAck, if_pos room]
  refine (shows_subtree 1 _ (by rw [len, payloadOffset]; omega)).silent ?_
  refine (shows_uint status).silent ?_
  exact (shows_number status rfl 2 []).one (shows_setInfo _)

theorem shows_readReq {h : RdowsHeader} {p : ReadReqPayload}
    (holds : HoldsAt b 24 (RdowsMessage.readReq h p).payloadLayout) (room : 40 ≤ remaining) :
    Shows (readReq b remaining) ⟨⟩ (layoutRows 24 (RdowsMessage.readReq h p).payloadLayout)
      (some (RdowsMessage.readReq h p).infoValues) := by
  obtain ⟨rkey, -, remoteVa, readLen, lkey, -, localVa, -⟩ := holds
  rw [readReq, if_pos room]
  refine (shows_subtree 1 _ (by rw [len, payloadOffset]; omega)).silent ?_
  refine (shows_number rkey rfl 2 []).one ?_
  refine (shows_number remoteVa rfl 2 []).one ?_
  refine (shows_number readLen rfl 2 []).one ?_
  refine (shows_number lkey rfl 2 []).one ?_
  refine (shows_number localVa rfl 2 []).one ?_
  refine (shows_uint rkey).silent ?_
  refine (shows_uint remoteVa).silent ?_
  exact (shows_uint readLen).silent (shows_setInfo _)

theorem shows_atomicReq {h : RdowsHeader} {p : AtomicReqPayload}
    (holds : HoldsAt b 24 (RdowsMessage.atomicReq h p).payloadLayout) (room : 32 ≤ remaining) :
    Shows (atomicReq b remaining) ⟨⟩ (layoutRows 24 (RdowsMessage.atomicReq h p).payloadLayout)
      (some (RdowsMessage.atomicReq h p).infoValues) := by
  obtain ⟨rkey, type, -, remoteVa, operand1, operand2, -⟩ := holds
  rw [atomicReq, if_pos room]
  refine (shows_subtree 1 _ (by rw [len, payloadOffset]; omega)).silent ?_
  refine (shows_number rkey rfl 2 []).one ?_
  refine (shows_uint type).silent ?_
  refine (shows_number type rfl 2 _).one ?_
  refine (shows_number remoteVa rfl 2 []).one ?_
  refine (shows_number operand1 rfl 2 []).one ?_
  refine (shows_number operand2 rfl 2 []).one ?_
  refine (shows_uint rkey).silent ?_
  exact (shows_uint remoteVa).silent
    (shows_setInfo_of_values (by simp [Text.values, RdowsMessage.infoValues]))

theorem shows_atomicResp {h : RdowsHeader} {p : AtomicRespPayload}
    (holds : HoldsAt b 24 (RdowsMessage.atomicResp h p).payloadLayout) (room : 16 ≤ remaining) :
    Shows (atomicResp b remaining) ⟨⟩ (layoutRows 24 (RdowsMessage.atomicResp h p).payloadLayout)
      (some (RdowsMessage.atomicResp h p).infoValues) := by
  obtain ⟨value, status, -⟩ := holds
  rw [atomicResp, if_pos room]
  refine (shows_subtree 1 _ (by rw [len, payloadOffset]; omega)).silent ?_
  refine (shows_number value rfl 2 []).one ?_
  refine (shows_number status rfl 2 []).one ?_
  exact (shows_uint value).silent (shows_setInfo _)

theorem shows_creditUpdate {h : RdowsHeader} {p : CreditUpdatePayload}
    (holds : HoldsAt b 24 (RdowsMessage.creditUpdate h p).payloadLayout) (room : 8 ≤ remaining) :
    Shows (creditUpdate b remaining) ⟨⟩
      (layoutRows 24 (RdowsMessage.creditUpdate h p).payloadLayout)
      (some (RdowsMessage.creditUpdate h p).infoValues) := by
  obtain ⟨increment, -⟩ := holds
  rw [creditUpdate, if_pos (show remaining ≥ 4 by omega)]
  refine (shows_subtree 1 _ (by rw [len, payloadOffset]; omega)).silent ?_
  refine (shows_number increment rfl 2 []).one ?_
  exact (shows_uint increment).silent (shows_setInfo _)

theorem shows_mrReg {h : RdowsHeader} {p : MrRegPayload}
    (holds : HoldsAt b 24 (RdowsMessage.mrReg h p).payloadLayout)
    (room : remaining = if p.suggestedLkey.isSome then 20 else 16) :
    Shows (mrReg b remaining) ⟨⟩ (layoutRows 24 (RdowsMessage.mrReg h p).payloadLayout)
      (some (RdowsMessage.mrReg h p).infoValues) := by
  obtain ⟨pd, flags, regionLen, key⟩ := holds
  have least : remaining ≥ 16 := by rw [room]; split <;> decide
  rw [mrReg, if_pos least]
  refine (shows_subtree 1 _ (by rw [len, payloadOffset]; omega)).silent ?_
  refine (shows_number pd rfl 2 []).one ?_
  refine (shows_uint flags).silent ?_
  refine (shows_number flags rfl 2 _).one ?_
  refine (shows_number regionLen rfl 2 []).one ?_
  -- the info column is set in the same way with and without a suggested key
  have names : Shows (do
      let rlen ← uint b (payloadOffset + 8) 8
      let pd ← uint b payloadOffset 4
      setInfo [.str "MR_REG PD=0x", .hex 8 pd, .str " Len=", .dec rlen, .str " Flags=",
        .str (accessFlagsStr p.accessFlags.bits.toNat)]) ⟨⟩ []
      (some (RdowsMessage.mrReg h p).infoValues) :=
    (shows_uint regionLen).silent ((shows_uint pd).silent (shows_setInfo _))
  cases suggested : p.suggestedLkey with
  | none =>
      rw [suggested] at room
      rw [room]
      exact (shows_pure _).silent names
  | some lkey =>
      rw [suggested] at room key
      rw [room]
      exact (shows_number key.1 rfl 2 _).one names

theorem shows_dataBlock {data : Bytes} (holds : HoldsAt b 24 [.block Field.data data])
    (room : remaining = data.length) (payloadLen : ℕ) (name : String) :
    Shows (dataBlock b remaining payloadLen name) ⟨⟩ (layoutRows 24 [.block .data data])
      (some [.uint payloadLen]) := by
  subst room
  exact (shows_anyBlock holds.1 1).bind (shows_setInfo _)

theorem shows_readResp {h : RdowsHeader} {p : ReadRespPayload}
    (holds : HoldsAt b 24 (RdowsMessage.readResp h p).payloadLayout)
    (room : remaining = 8 + p.data.length) :
    Shows (readResp b remaining) ⟨⟩ (layoutRows 24 (RdowsMessage.readResp h p).payloadLayout)
      (some (RdowsMessage.readResp h p).infoValues) := by
  obtain ⟨offset, data, -⟩ := holds
  have rest : remaining - 8 = p.data.length := by omega
  rw [readResp, if_pos (show remaining ≥ 8 by omega), rest]
  refine (shows_uint offset).silent ?_
  refine (shows_subtree 1 _ (by rw [len, payloadOffset])).silent ?_
  refine (shows_number offset rfl 2 []).one ?_
  exact (shows_anyBlock data 2).bind (shows_setInfo _)

omit len in
/-- The loop over the entries, from any index and total: it shows the entries that are left and adds
their lengths to the total. -/
theorem shows_parseSgLoop (offset : ℕ) (entries : List ScatterGatherEntry) :
    ∀ i total, HoldsAt b (offset + i * sgEntrySize) (sgLayout entries) →
      Shows (parseSgLoop b offset entries.length i total)
        (total + (entries.map fun e => e.length.toNat).sum)
        (layoutRows (offset + i * sgEntrySize) (sgLayout entries)) none := by
  induction entries with
  | nil => intro i total holds; exact shows_pure _
  | cons e entries ih =>
      intro i total holds
      obtain ⟨lkey, entryOffset, length, later⟩ := holds
      have next := ih (i + 1) (total + e.length.toNat)
        (by rw [Nat.succ_mul, ← Nat.add_assoc]; exact later)
      rw [Nat.succ_mul, ← Nat.add_assoc] at next
      have inside : offset + i * sgEntrySize + sgEntrySize ≤ b.length := length.1
      rw [List.length_cons, parseSgLoop, if_neg (not_lt.mpr inside), List.map_cons, List.sum_cons,
        ← Nat.add_assoc]
      refine (shows_subtree 2 _ inside).silent ?_
      refine (shows_number lkey rfl 3 []).one ?_
      refine (shows_number entryOffset rfl 3 []).one ?_
      refine (shows_number length rfl 3 []).one ?_
      exact (shows_uint length).silent next

omit len in
/-- All entries of a list are shown, for any count that has the right integer part. -/
theorem shows_parseSgEntries {offset : ℕ} {entries : List ScatterGatherEntry} {count : ℚ}
    (holds : HoldsAt b offset (sgLayout entries)) (whole : ⌊count⌋₊ = entries.length) :
    Shows (parseSgEntries b offset count) (entries.map fun e => e.length.toNat).sum
      (layoutRows offset (sgLayout entries)) none := by
  have loop := shows_parseSgLoop (b := b) offset entries 0 0
  rw [Nat.zero_mul, Nat.add_zero, Nat.zero_add] at loop
  rw [parseSgEntries, whole]
  exact loop holds

theorem shows_send {h : RdowsHeader} {p : SendPayload}
    (holds : HoldsAt b 24 (RdowsMessage.send h p).payloadLayout) (short : p.sgList.length ≤ 65535)
    (room : remaining = 4 + p.sgList.length * sgEntrySize) :
    Shows (send b remaining) ⟨⟩ (layoutRows 24 (RdowsMessage.send h p).payloadLayout)
      (some (RdowsMessage.send h p).infoValues) := by
  obtain ⟨count, -, entries⟩ := holds
  have value : (UInt16.ofNat p.sgList.length).toNat = p.sgList.length :=
    UInt16.toNat_ofNat_of_lt' (Nat.lt_succ_of_le short)
  rw [send, if_pos (show remaining ≥ 4 by omega)]
  refine (shows_uint count).silent ?_
  refine (shows_subtree 1 _ (by rw [len, payloadOffset]; omega)).silent ?_
  refine (shows_number count rfl 2 []).one ?_
  rw [value]
  exact (shows_parseSgEntries entries (Nat.floor_natCast _)).last (shows_setInfo _)

theorem shows_write {h : RdowsHeader} {p : WritePayload}
    (holds : HoldsAt b 24 (RdowsMessage.write h p).payloadLayout)
    (room : remaining = 24 + p.sgList.length * sgEntrySize) (payloadLen : ℕ) :
    Shows (write b remaining payloadLen) ⟨⟩ (layoutRows 24 (RdowsMessage.write h p).payloadLayout)
      (some (RdowsMessage.write h p).infoValues) := by
  obtain ⟨rkey, -, remoteVa, length, entries⟩ := holds
  rw [write, if_pos (show remaining ≥ 24 by omega)]
  refine (shows_uint rkey).silent ?_
  refine (shows_uint remoteVa).silent ?_
  refine (shows_uint length).silent ?_
  refine (shows_subtree 1 _ (by rw [len, payloadOffset]; omega)).silent ?_
  refine (shows_number rkey rfl 2 []).one ?_
  refine (shows_number remoteVa rfl 2 []).one ?_
  refine (shows_number length rfl 2 []).one ?_
  have shown : Shows (whenever (remaining > 24) do
      let sgCount : ℚ := (remaining - 24) / sgEntrySize
      let _ ← parseSgEntries b (payloadOffset + 24) sgCount
      return ⟨⟩) ⟨⟩ (layoutRows 48 (sgLayout p.sgList)) none := by
    rw [whenever]
    cases list : p.sgList with
    | nil =>
        rw [list] at room
        rw [if_neg (by rw [room]; decide)]
        exact shows_pure _
    | cons e rest =>
        rw [list] at room entries
        have whole : ⌊((remaining : ℚ) - 24) / sgEntrySize⌋₊ = (e :: rest).length := by
          -- nothing is left behind the last entry, so the quotient is a whole number
          have quotient : ((remaining : ℚ) - 24) / sgEntrySize = ((e :: rest).length : ℕ) := by
            rw [room, sgEntrySize]
            push_cast
            ring
          rw [quotient, Nat.floor_natCast]
        rw [if_pos (by rw [room, List.length_cons, sgEntrySize]; omega)]
        exact (shows_parseSgEntries entries whole).last (shows_pure _)
  exact shown.last (shows_setInfo _)

omit len in
/-- The description is shown with its text, unless it is empty. -/
theorem shows_errorDesc {description : String}
    (stands : (Piece.block Field.desc (utf8Bytes description)).StandsAt b 34)
    (room : remaining = 10 + (utf8Bytes description).length) :
    Shows (errorDesc b remaining (utf8Bytes description).length)
      (if description = "" then "" else TextDecoding.ofRange (utf8Bytes description))
      (pieceRow (34, .block .desc (utf8Bytes description))) none := by
  rw [errorDesc, pieceRow]
  by_cases empty : description = ""
  · have none : utf8Bytes description = [] := utf8Bytes_eq_nil_iff.mpr empty
    rw [if_pos empty, if_pos none, none, if_neg fun both => absurd both.1 (by decide)]
    exact shows_pure _
  · have some : utf8Bytes description ≠ [] := fun nil => empty (utf8Bytes_eq_nil_iff.mp nil)
    rw [if_neg empty, if_neg some, if_pos ⟨List.length_pos_iff.mpr some, room.ge⟩]
    refine (shows_block stands (.inr rfl) 2).one ?_
    have bytes := shows_range stands.1
    rw [stands.2] at bytes
    exact bytes.silent (shows_pure _)

theorem shows_error {h : RdowsHeader} {p : ErrorPayload}
    (holds : HoldsAt b 24 (RdowsMessage.error h p).payloadLayout)
    (short : (utf8Bytes p.description).length ≤ 65535)
    (room : remaining = 10 + (utf8Bytes p.description).length) :
    Shows (error b remaining) ⟨⟩ (layoutRows 24 (RdowsMessage.error h p).payloadLayout)
      (some (RdowsMessage.error h p).infoValues) := by
  obtain ⟨code, -, failingSeq, descLen, desc, -⟩ := holds
  have value : (UInt16.ofNat (utf8Bytes p.description).length).toNat =
      (utf8Bytes p.description).length := UInt16.toNat_ofNat_of_lt' (Nat.lt_succ_of_le short)
  rw [error, if_pos (show remaining ≥ 10 by omega)]
  refine (shows_uint code).silent ?_
  refine (shows_uint failingSeq).silent ?_
  refine (shows_uint descLen).silent ?_
  refine (shows_subtree 1 _ (by rw [len, payloadOffset]; omega)).silent ?_
  refine (shows_number code rfl 2 _).one ?_
  refine (shows_number failingSeq rfl 2 []).one ?_
  refine (shows_number descLen rfl 2 []).one ?_
  rw [value]
  show Shows _ _ (layoutRows 34 [.block Field.desc (utf8Bytes p.description)]) _
  rw [layoutRows, placed, placed, List.flatMap_singleton]
  refine (shows_errorDesc desc room).last ?_
  -- the column has the description as it was decoded, unless that is empty
  generalize text : (if p.description = "" then ""
    else TextDecoding.ofRange (utf8Bytes p.description)) = descStr
  rw [RdowsMessage.infoValues, text]
  by_cases blank : descStr = ""
  · rw [if_pos blank, blank]
    exact shows_setInfo_of_values (by simp [Text.values])
  · have long : descStr.length > 0 :=
      Nat.pos_of_ne_zero fun zero => blank (String.length_eq_zero_iff.mp zero)
    rw [if_neg blank, if_pos long]
    exact shows_setInfo_of_values (by simp [Text.values])

end Branches

/-! ### Whole frames -/

section Frames

variable [TextDecoding]

/-- The rows of the header are the fields of its layout, for any name of the opcode. -/
theorem shows_headerRows {b : Bytes} {h : RdowsHeader} (holds : HoldsAt b 0 h.layout)
    (name : Text) :
    Shows (headerRows b name) ⟨⟩ (layoutRows 0 h.layout) none := by
  obtain ⟨version, opcode, flags, -, -, -, sessionId, sequence, wrid, payloadLen, -⟩ := holds
  have bit : ∀ mask : UInt16, (h.flags.toNat &&& mask.toNat != 0) = (h.flags &&& mask != 0) := by
    intro mask
    rw [← UInt16.toNat_and, Bool.eq_iff_iff, bne_iff_ne, bne_iff_ne, ne_eq, ne_eq,
      ← UInt16.toNat_zero, UInt16.toNat_inj]
  refine (shows_subtree 0 _ (by omega)).silent ?_
  refine (shows_subtree 1 _ (show 0 + 24 ≤ b.length from payloadLen.1)).silent ?_
  refine (shows_number version rfl 2 []).one ?_
  refine (shows_number opcode rfl 2 _).one ?_
  refine (shows_number flags rfl 2 []).one ?_
  refine Shows.one (bit flagF ▸ shows_flag flags rfl 3) ?_
  refine Shows.one (bit flagL ▸ shows_flag flags rfl 3) ?_
  refine Shows.one (bit flagS ▸ shows_flag flags rfl 3) ?_
  refine (shows_number sessionId rfl 2 []).one ?_
  refine (shows_number sequence rfl 2 []).one ?_
  refine (shows_number wrid rfl 2 []).one ?_
  exact shows_number payloadLen rfl 2 []

/-- The branch of the opcode shows the payload.  The hypotheses about SEND and ERROR are those of
`dissector_encode`. -/
theorem shows_payloadRows {m : RdowsMessage} {b : Bytes} {remaining : ℕ}
    (opcode : m.header.opcode = m.variantOpcode)
    (sgCount : ∀ h p, m = .send h p → p.sgList.length ≤ 65535)
    (description : ∀ h p, m = .error h p → (utf8Bytes p.description).length ≤ 65535)
    (len : b.length = 24 + remaining) (holds : HoldsAt b 24 m.payloadLayout)
    (room : remaining = m.encodePayload.length) :
    Shows (payloadRows b m.header.opcode.toU8.toNat m.header.sessionId.toNat
      m.header.sequence.toNat m.header.wrid.toNat (UInt32.ofNat m.encodePayload.length).toNat
      remaining) ⟨⟩ (layoutRows 24 m.payloadLayout) (some m.infoValues) := by
  rw [opcode]
  -- the opcode of the header picks the branch of the variant
  cases m with
  | connect h p => exact shows_connect len holds (by rw [room]; exact p.length_encode.ge)
  | connectAck h p => exact shows_connectAck len holds (by rw [room]; exact p.length_encode.ge)
  | disconnect h => exact shows_setInfo _
  | mrReg h p => exact shows_mrReg len holds (room.trans p.length_encode)
  | mrRegAck h p => exact shows_mrRegAck len holds (by rw [room]; exact p.length_encode.ge)
  | mrDereg h p => exact shows_mrDereg len holds (by rw [room]; exact p.length_encode.ge)
  | mrDeregAck h p => exact shows_mrDeregAck len holds (by rw [room]; exact p.length_encode.ge)
  | send h p => exact shows_send len holds (sgCount h p rfl) (room.trans p.length_encode)
  | sendData h p => exact shows_dataBlock len holds room _ _
  | recvComp h => exact shows_setInfo _
  | write h p => exact shows_write len holds (room.trans p.length_encode) _
  | writeData h p => exact shows_dataBlock len holds room _ _
  | writeComp h => exact shows_setInfo _
  | readReq h p => exact shows_readReq len holds (by rw [room]; exact p.length_encode.ge)
  | readResp h p => exact shows_readResp len holds (room.trans p.length_encode)
  | atomicReq h p => exact shows_atomicReq len holds (by rw [room]; exact p.length_encode.ge)
  | atomicResp h p => exact shows_atomicResp len holds (by rw [room]; exact p.length_encode.ge)
  | ack h => exact shows_setInfo _
  | creditUpdate h p => exact shows_creditUpdate len holds (by rw [room]; exact p.length_encode.ge)
  | error h p => exact shows_error len holds (description h p rfl) (room.trans p.length_encode)

/-- **The dissector agrees with the encoder.**  Let Wireshark decode texts in any way.  The layout
of a message is its frame, and the dissector shows the fields of the layout: every field at the
offset at which it was written, with its width and its value, in order and number; the description
of an ERROR as Wireshark decodes exactly its bytes; and it takes the values of the info column from
the message.

The hypotheses are what the format can express: a message under the opcode of its variant (the
decoder dispatches on the opcode, the encoder does not look at it), a SEND whose 16-bit count is
exact, and an ERROR whose 16-bit length of the description is. -/
theorem dissector_encode (m : RdowsMessage) (opcode : m.header.opcode = m.variantOpcode)
    (sgCount : ∀ h p, m = .send h p → p.sgList.length ≤ 65535)
    (description : ∀ h p, m = .error h p → (utf8Bytes p.description).length ≤ 65535) :
    layoutBytes m.layout = m.encode ∧
      ∀ before, ∃ shown, (dissector m.encode).run before = (.ok ⟨⟩, shown) ∧
        shown.fields = before.fields ++ (placed 0 m.layout).flatMap pieceRow ∧
        shown.info.values = m.infoValues := by
  refine ⟨m.layoutBytes_layout, ?_⟩
  have holds := holdsAt_layoutBytes [] [] m.layout
  rw [List.append_nil, List.nil_append, m.layoutBytes_layout, RdowsMessage.layout,
    List.length_nil] at holds
  obtain ⟨header, payload⟩ := holds.append
  have headerWidth : (layoutBytes m.wireHeader.layout).length = 24 := by
    rw [RdowsHeader.layoutBytes_layout, RdowsHeader.length_encode, headerSize]
  rw [headerWidth] at payload
  have len : m.encode.length = 24 + m.encodePayload.length := m.length_encode
  have rows : (placed 0 m.layout).flatMap pieceRow =
      layoutRows 0 m.wireHeader.layout ++ layoutRows 24 m.payloadLayout := by
    rw [RdowsMessage.layout, placed_append, headerWidth, List.flatMap_append]
    rfl
  have all : Shows (dissector m.encode) ⟨⟩ ((placed 0 m.layout).flatMap pieceRow)
      (some m.infoValues) := by
    have rest : m.encode.length - payloadOffset = m.encodePayload.length := by
      rw [len, payloadOffset, Nat.add_sub_cancel_left]
    have present : ¬ (m.encodePayload.length ≤ 0 ∧ m.wireHeader.payloadLength.toNat > 0) := by
      rintro ⟨empty, announced⟩
      rw [RdowsMessage.wireHeader, Nat.le_zero.mp empty] at announced
      exact absurd announced (Nat.lt_irrefl 0)
    rw [rows, dissector, if_neg (by omega)]
    -- the script reads the header into variables first, without showing anything
    obtain ⟨version, op, flags, -, -, -, sessionId, sequence, wrid, payloadLen, -⟩ := header
    refine (shows_uint version).silent ?_
    refine (shows_uint op).silent ?_
    refine (shows_uint flags).silent ?_
    refine (shows_uint sessionId).silent ?_
    refine (shows_uint sequence).silent ?_
    refine (shows_uint wrid).silent ?_
    refine (shows_uint payloadLen).silent ?_
    refine (shows_protocol "RDoWS").silent ?_
    refine (shows_headerRows holds.append.1 _).bind ?_
    rw [rest, if_neg present]
    exact shows_payloadRows opcode sgCount description len payload rfl
  exact all

end Frames

/-- A Wireshark that takes every byte for a character of its own, for examples: on ASCII it shows
what was written. -/
@[reducible]
def bytewise : TextDecoding where
  ofField b := .ofList (b.map fun c => .ofNat c.toNat)
  ofRange b := .ofList (b.map fun c => .ofNat c.toNat)

/-- A SEND of two entries, whose count and entries are shown behind the ten fields of the header,
and whose lengths 4 and 8 are added up in the info column; and an ERROR with a description, seen by
a Wireshark that decodes every byte as a character of its own.  Both messages are under their own
opcode, and the count and the length of the description fit into 16 bits. -/
theorem dissector_encode_two_entries :
    letI := bytewise
    (let m : RdowsMessage := .send (RdowsHeader.new .send 7 3 9)
        { sgList := [⟨⟨1⟩, 16, 4⟩, ⟨⟨2⟩, 0, 8⟩] }
     ∃ shown, (dissector m.encode).run ⟨"", [], []⟩ = (.ok ⟨⟩, shown) ∧
      shown.fields.drop 10 = [⟨.sgCount, 24, 2, .uint 2⟩, ⟨.sgLkey, 28, 4, .uint 1⟩,
        ⟨.sgOffset, 32, 8, .uint 16⟩, ⟨.sgLength, 40, 4, .uint 4⟩, ⟨.sgLkey, 44, 4, .uint 2⟩,
        ⟨.sgOffset, 48, 8, .uint 0⟩, ⟨.sgLength, 56, 4, .uint 8⟩] ∧
      shown.info.values = [.uint 2, .uint 12]) ∧
    (let m : RdowsMessage := .error (RdowsHeader.new .error 7 3 9)
        { errorCode := .errRnr, failingSeq := 5, description := "no receive" }
     ∃ shown, (dissector m.encode).run ⟨"", [], []⟩ = (.ok ⟨⟩, shown) ∧
      shown.fields.drop 10 = [⟨.errorCode, 24, 2, .uint 16⟩, ⟨.failingSeq, 28, 4, .uint 5⟩,
        ⟨.descLen, 32, 2, .uint 10⟩, ⟨.desc, 34, 10, .text "no receive"⟩] ∧
      shown.info.values = [.uint 5, .text "no receive"]) := by
  let := bytewise
  constructor
  · intro m
    obtain ⟨-, all⟩ := dissector_encode m rfl
      (fun h p same => by rw [← (RdowsMessage.send.inj same).2]; decide)
      (fun h p same => by simp [m] at same)
    obtain ⟨shown, run, fields, info⟩ := all ⟨"", [], []⟩
    exact ⟨shown, run, by rw [fields]; rfl, by rw [info]; rfl⟩
  · intro m
    obtain ⟨-, all⟩ := dissector_encode m rfl (fun h p same => by simp [m] at same)
      (fun h p same => by rw [← (RdowsMessage.error.inj same).2]; decide +kernel)
    obtain ⟨shown, run, fields, info⟩ := all ⟨"", [], []⟩
    exact ⟨shown, run, by rw [fields]; decide +kernel, by rw [info]; decide +kernel⟩

end Wireshark

end Rdows
