import Mathlib.Data.Rat.Floor
import Rdows.Core.Basic

/-!
# The Wireshark dissector

The function `rdows_proto.dissector` of the Lua script, branch by branch.

## The script as a method

The script reads ranges of the buffer, adds rows to the packet tree and sets the columns of the
packet list; a range that is not inside the buffer is an error and ends it, with what has been
displayed so far left on the screen.  A script is therefore a `Method` whose receiver is the
`Display`.  A row's depth is one more than that of the tree item it is added to, so the rows in the
order in which they are added are the tree.

## Branches

There is one definition for each branch of the opcode, under the name of its message.  A branch that
shows fields tests first how many bytes are left behind the header, and sets a text without values
if there are too few, so that of a frame that was cut off the header is shown and no range error
ends the script.  Only the expert row of `dissector` tells of a payload that is missing altogether.
Offsets and widths are the literals of the script; that they are those of the encoder is what
`Wireshark.Agreement` is about.

## Numbers and texts

Of Wireshark it is assumed that `uint()`, `uint64()` and the numeric fields read their bytes
big-endian.  Nothing is assumed about how it turns bytes into text: the script names no encoding,
neither for the field of the description nor for `TvbRange:string()`, so both are a parameter of the
whole module, `TextDecoding`.

Formatted texts are kept as the parts that `string.format` puts together: the development is about
the values in them, not about their digits.  Lua's numbers are doubles; those of the dissector are
far below `2 ^ 53`, and `/` is the exact quotient.
-/

namespace Rdows.Wireshark

open Rust

/-! ### Fields, rows and columns -/

/-- The fields of the protocol, under the names of their variables in the script; the groups are
those of its declarations. -/
inductive Field where
  | version | opcode | flags | flagF | flagL | flagS | sessionId | sequence | wrid | payloadLen
  | pdHandle | capFlags | maxMsgSize | icc
  | accessFlags | regionLen
  | lkey | rkey | status
  | remoteVa | writeLen
  | readLen | localLkey | localVa
  | fragOffset
  | atomicType | operand1 | operand2
  | origValue
  | errorCode | failingSeq | descLen | desc
  | creditInc
  | sgCount | sgLkey | sgOffset | sgLength
  | data
  deriving DecidableEq, Repr

/-- The constructors of `ProtoField` that are used.  The range a number is added with decides its
width, so the unsigned types are one constructor here. -/
inductive FieldType where
  /-- `uint8`, `uint16`, `uint32`, `uint64`. -/
  | uint
  /-- `bool`, with its mask. -/
  | bool (mask : ℕ)
  | string
  | bytes
  deriving DecidableEq, Repr

/-- The type a field is declared with.  The three flags of the header are bits of one 16-bit
number. -/
def Field.type : Field → FieldType
  | flagF => .bool 0x8000
  | flagL => .bool 0x4000
  | flagS => .bool 0x2000
  | desc => .string
  | data => .bytes
  | _ => .uint

/-- How Wireshark turns bytes into text.  The script leaves the encoding to the default, so what it
is depends on Wireshark alone. -/
class TextDecoding where
  /-- The text of a field of type `ProtoField.string`. -/
  ofField : Bytes → String
  /-- `TvbRange:string()`. -/
  ofRange : Bytes → String

/-- What a field shows: a number, a bit of a number, a text or the bytes themselves. -/
inductive Value where
  | uint (n : ℕ)
  | flag (set : Bool)
  | text (s : String)
  | bytes (b : Bytes)
  deriving DecidableEq, Repr

/-- What a field shows of the bytes it is added with.  Numbers are big-endian, and a flag is set if
the masked number is not 0. -/
def Field.value [TextDecoding] (f : Field) (b : Bytes) : Value :=
  match f.type with
  | .uint => .uint (ofBE b)
  | .bool mask => .flag (ofBE b &&& mask != 0)
  | .string => .text (TextDecoding.ofField b)
  | .bytes => .bytes b

/-- A piece of a formatted text.  The constructors tell apart what the script wrote itself from what
it took out of the buffer. -/
inductive Part where
  /-- Literal text, or `%s` of a name out of the script's tables. -/
  | str (s : String)
  /-- `%d`, or `tostring` of a `UInt64`. -/
  | dec (n : ℕ)
  /-- `%02X`, `%04X`, `%08X`. -/
  | hex (digits n : ℕ)
  /-- `%s` of a string out of the buffer. -/
  | text (s : String)
  deriving DecidableEq, Repr

/-- A formatted text. -/
abbrev Text := List Part

/-- The values that have been put into a text, in order, without the words around them. -/
def Text.values (text : Text) : List Value :=
  text.filterMap fun
    | .str _ => none
    | .dec n => some (.uint n)
    | .hex _ n => some (.uint n)
    | .text s => some (.text s)

/-- A field in the tree: the range of the buffer it highlights and what it shows. -/
structure FieldRow where
  field : Field
  offset : ℕ
  width : ℕ
  value : Value
  deriving DecidableEq, Repr

/-- A row of the packet tree: an item that groups others, a field with the text that is appended to
it, or an expert information. -/
inductive Row where
  | subtree (depth offset width : ℕ) (text : Text)
  | field (depth : ℕ) (row : FieldRow) (appended : Text)
  | expert (depth : ℕ) (text : String)
  deriving DecidableEq, Repr

/-- What is on the screen: the two columns of the packet list that the script sets, and the packet
tree, in the order in which its rows are added. -/
structure Display where
  protocol : String
  info : Text
  rows : List Row
  deriving DecidableEq, Repr

/-- The fields that are shown, in order. -/
def Display.fields (d : Display) : List FieldRow :=
  d.rows.filterMap fun
    | .field _ row _ => some row
    | _ => none

/-- The error `Range is out of bounds`, with the range that was asked for. -/
structure RangeError where
  offset : ℕ
  width : ℕ
  deriving DecidableEq, Repr

/-- A script changes the display and may end with a range error; what it had displayed by then
stays. -/
abbrev Script (α : Type) := Method Display RangeError α

/-- `buffer(offset, width)`: the bytes of a range, or an error if they are not all there. -/
def range (b : Bytes) (offset width : ℕ) : Script Bytes :=
  if offset + width ≤ b.length then return (b.drop offset).take width
  else Method.throw ⟨offset, width⟩

/-- `buffer(offset, width):uint()` and `:uint64()`: the number that stands in a range. -/
def uint (b : Bytes) (offset width : ℕ) : Script ℕ := do return ofBE (← range b offset width)

/-- Add a row behind those that are there. -/
def addRow (row : Row) : Script PUnit :=
  Method.modify fun d => { d with rows := d.rows ++ [row] }

/-- `tree:add(rdows_proto, buffer(offset, width), text)`: an item that groups the rows below it.
Its range is evaluated first, so that it may end the script. -/
def addSubtree (depth : ℕ) (b : Bytes) (offset width : ℕ) (text : Text) : Script PUnit := do
  let _ ← range b offset width
  addRow (.subtree depth offset width text)

/-- `tree:add(field, buffer(offset, width)):append_text(text)`: a field with what it shows of its
range.  Without `append_text` the text is empty. -/
def addField [TextDecoding] (depth : ℕ) (f : Field) (b : Bytes) (offset width : ℕ) (text : Text) :
    Script PUnit := do
  let bytes ← range b offset width
  addRow (.field depth ⟨f, offset, width, f.value bytes⟩ text)

/-- `pinfo.cols.info = text`: the info column, which each branch sets once. -/
def setInfo (text : Text) : Script PUnit := Method.modify fun d => { d with info := text }

/-- `if c then … end`, a branch without an alternative. -/
def whenever (c : Prop) [Decidable c] (x : Script PUnit) : Script PUnit :=
  if c then x else return ⟨⟩

/-! ### Lookup tables -/

/-- `opcode_names[opcode] or string.format("UNKNOWN(0x%02X)", opcode)`. -/
def opName (opcode : ℕ) : Text :=
  match opcode with
  | 0x01 => [.str "CONNECT"]
  | 0x02 => [.str "CONNECT_ACK"]
  | 0x03 => [.str "DISCONNECT"]
  | 0x10 => [.str "MR_REG"]
  | 0x11 => [.str "MR_REG_ACK"]
  | 0x12 => [.str "MR_DEREG"]
  | 0x13 => [.str "MR_DEREG_ACK"]
  | 0x20 => [.str "SEND"]
  | 0x21 => [.str "SEND_DATA"]
  | 0x22 => [.str "RECV_COMP"]
  | 0x30 => [.str "WRITE"]
  | 0x31 => [.str "WRITE_DATA"]
  | 0x32 => [.str "WRITE_COMP"]
  | 0x40 => [.str "READ_REQ"]
  | 0x41 => [.str "READ_RESP"]
  | 0x50 => [.str "ATOMIC_REQ"]
  | 0x51 => [.str "ATOMIC_RESP"]
  | 0x60 => [.str "ACK"]
  | 0x61 => [.str "CREDIT_UPDATE"]
  | 0xF0 => [.str "ERROR"]
  | _ => [.str "UNKNOWN(0x", .hex 2 opcode, .str ")"]

/-- `error_names[code] or string.format("0x%04X", code)`. -/
def errorName (code : ℕ) : Text :=
  match code with
  | 0x0000 => [.str "SUCCESS"]
  | 0x0001 => [.str "ERR_PROTO_VERSION"]
  | 0x0002 => [.str "ERR_UNKNOWN_OPCODE"]
  | 0x0003 => [.str "ERR_INVALID_PD"]
  | 0x0004 => [.str "ERR_INVALID_LKEY"]
  | 0x0005 => [.str "ERR_INVALID_MKEY"]
  | 0x0006 => [.str "ERR_ACCESS_DENIED"]
  | 0x0007 => [.str "ERR_BOUNDS"]
  | 0x0008 => [.str "ERR_ALIGNMENT"]
  | 0x0009 => [.str "ERR_PAYLOAD_SIZE"]
  | 0x0010 => [.str "ERR_RNR"]
  | 0x0020 => [.str "ERR_CQ_OVERFLOW"]
  | 0x0030 => [.str "ERR_SEQ_GAP"]
  | 0x0040 => [.str "ERR_TIMEOUT"]
  | 0xFFFF => [.str "ERR_INTERNAL"]
  | _ => [.str "0x", .hex 4 code]

/-- `atomic_type_names[type] or string.format("0x%02X", type)`. -/
def atomicTypeName (type : ℕ) : Text :=
  match type with
  | 0x01 => [.str "Compare-and-Swap"]
  | 0x02 => [.str "Fetch-and-Add"]
  | _ => [.str "0x", .hex 2 type]

/-- `at == 0x01 and "CAS" or (at == 0x02 and "FAA" or at_name)`. -/
def atomicShortName (type : ℕ) : Text :=
  match type with
  | 0x01 => [.str "CAS"]
  | 0x02 => [.str "FAA"]
  | _ => atomicTypeName type

/-- `access_flags_str`: the names of the bits that are set, separated by bars.  Bits without a name
are not shown. -/
def accessFlagsStr (flags : ℕ) : String :=
  let parts := (if flags &&& 0x01 ≠ 0 then ["LOCAL_WRITE"] else []) ++
    (if flags &&& 0x02 ≠ 0 then ["REMOTE_WRITE"] else []) ++
    (if flags &&& 0x04 ≠ 0 then ["REMOTE_READ"] else []) ++
    (if flags &&& 0x08 ≠ 0 then ["REMOTE_ATOMIC"] else [])
  if parts.isEmpty then "NONE" else "|".intercalate parts

/-! ### Scatter/gather entries -/

variable [TextDecoding]

/-- The loop of `parse_sg_entries`: the passes that are left, the index and the running total of the
lengths.  It leaves early at the first entry that is not all in the buffer, without an error. -/
def parseSgLoop (b : Bytes) (offset : ℕ) : ℕ → ℕ → ℕ → Script ℕ
  | 0, _, total => return total
  | passes + 1, i, total => do
      let base := offset + i * sgEntrySize
      -- the script leaves the loop here with `break`
      if base + sgEntrySize > b.length then
        return total
      else
        addSubtree 2 b base sgEntrySize [.str "SG Entry [", .dec i, .str "]"]
        addField 3 .sgLkey b base 4 []
        addField 3 .sgOffset b (base + 4) 8 []
        addField 3 .sgLength b (base + 12) 4 []
        let length ← uint b (base + 12) 4
        parseSgLoop b offset passes (i + 1) (total + length)

/-- `parse_sg_entries`: `for i = 0, count - 1` runs for the integers up to a limit that need not be
one. -/
def parseSgEntries (b : Bytes) (offset : ℕ) (count : ℚ) : Script ℕ :=
  parseSgLoop b offset ⌊count⌋₊ 0 0

/-! ### The branches of the dissector

In all of them `remaining` is the number of bytes behind the header. -/

/-- `payload_offset`: the payload stands right behind the header. -/
def payloadOffset : ℕ := 24

/-- The rows of CONNECT and CONNECT_ACK, which differ in their labels only. -/
def connectRows (b : Bytes) (label : String) : Script PUnit := do
  addSubtree 1 b payloadOffset 16 [.str label]
  addField 2 .pdHandle b payloadOffset 4 []
  addField 2 .capFlags b (payloadOffset + 4) 4 []
  addField 2 .maxMsgSize b (payloadOffset + 8) 4 []
  addField 2 .icc b (payloadOffset + 12) 4 []

/-- CONNECT; the info column tells the size that is proposed, or 0 if there is no payload. -/
def connect (b : Bytes) (remaining sessionId : ℕ) : Script PUnit := do
  if remaining ≥ 16 then
    connectRows b "Connect Payload"
    let maxMsg ← uint b (payloadOffset + 8) 4
    setInfo [.str "CONNECT Session=0x", .hex 8 sessionId, .str " MaxMsg=", .dec maxMsg]
  else
    setInfo [.str "CONNECT Session=0x", .hex 8 sessionId, .str " MaxMsg=", .dec 0]

/-- CONNECT_ACK; the info column tells the initial credit count, or 0 if there is no payload. -/
def connectAck (b : Bytes) (remaining sessionId : ℕ) : Script PUnit := do
  if remaining ≥ 16 then
    connectRows b "Connect Ack Payload"
    let icc ← uint b (payloadOffset + 12) 4
    setInfo [.str "CONNECT_ACK Session=0x", .hex 8 sessionId, .str " ICC=", .dec icc]
  else
    setInfo [.str "CONNECT_ACK Session=0x", .hex 8 sessionId, .str " ICC=", .dec 0]

/-- MR_REG; the suggested L_Key is shown if the payload is long enough to have one, whatever the
encoder meant by its last four bytes. -/
def mrReg (b : Bytes) (remaining : ℕ) : Script PUnit := do
  if remaining ≥ 16 then
    addSubtree 1 b payloadOffset (min remaining 20) [.str "MR_REG Payload"]
    addField 2 .pdHandle b payloadOffset 4 []
    let af ← uint b (payloadOffset + 4) 4
    addField 2 .accessFlags b (payloadOffset + 4) 4 [.str " (", .str (accessFlagsStr af), .str ")"]
    addField 2 .regionLen b (payloadOffset + 8) 8 []
    whenever (remaining ≥ 20) (addField 2 .lkey b (payloadOffset + 16) 4 [.str " (suggested)"])
    let rlen ← uint b (payloadOffset + 8) 8
    let pd ← uint b payloadOffset 4
    setInfo [.str "MR_REG PD=0x", .hex 8 pd, .str " Len=", .dec rlen, .str " Flags=",
      .str (accessFlagsStr af)]
  else
    setInfo [.str "MR_REG"]

/-- MR_REG_ACK; the status is a row of the tree and is not in the info column. -/
def mrRegAck (b : Bytes) (remaining : ℕ) : Script PUnit := do
  if remaining ≥ 16 then
    addSubtree 1 b payloadOffset 16 [.str "MR_REG_ACK Payload"]
    addField 2 .pdHandle b payloadOffset 4 []
    addField 2 .lkey b (payloadOffset + 4) 4 []
    addField 2 .rkey b (payloadOffset + 8) 4 []
    addField 2 .status b (payloadOffset + 12) 2 []
    let lkey ← uint b (payloadOffset + 4) 4
    let rkey ← uint b (payloadOffset + 8) 4
    setInfo [.str "MR_REG_ACK L_Key=0x", .hex 8 lkey, .str " R_Key=0x", .hex 8 rkey]
  else
    setInfo [.str "MR_REG_ACK"]

/-- MR_DEREG, with the domain and the L_Key in the info column. -/
def mrDereg (b : Bytes) (remaining : ℕ) : Script PUnit := do
  if remaining ≥ 8 then
    addSubtree 1 b payloadOffset 8 [.str "MR_DEREG Payload"]
    addField 2 .pdHandle b payloadOffset 4 []
    addField 2 .lkey b (payloadOffset + 4) 4 []
    let pd ← uint b payloadOffset 4
    let lkey ← uint b (payloadOffset + 4) 4
    setInfo [.str "MR_DEREG PD=0x", .hex 8 pd, .str " L_Key=0x", .hex 8 lkey]
  else
    setInfo [.str "MR_DEREG"]

/-- MR_DEREG_ACK, with the name of the status in the info column. -/
def mrDeregAck (b : Bytes) (remaining : ℕ) : Script PUnit := do
  if remaining ≥ 8 then
    addSubtree 1 b payloadOffset 8 [.str "MR_DEREG_ACK Payload"]
    let st ← uint b payloadOffset 2
    addField 2 .status b payloadOffset 2 []
    setInfo (.str "MR_DEREG_ACK Status=" :: errorName st)
  else
    setInfo [.str "MR_DEREG_ACK"]

/-- SEND; the number of entries is the one the payload states, and the info column tells the total
of the entries that are there. -/
def send (b : Bytes) (remaining : ℕ) : Script PUnit := do
  if remaining ≥ 4 then
    let sgCount ← uint b payloadOffset 2
    let sgDataLen := min remaining (4 + sgCount * sgEntrySize)
    addSubtree 1 b payloadOffset sgDataLen [.str "Send Payload"]
    addField 2 .sgCount b payloadOffset 2 []
    let totalBytes ← parseSgEntries b (payloadOffset + 4) sgCount
    setInfo [.str "SEND [", .dec sgCount, .str " SG entr",
      .str (if sgCount = 1 then "y" else "ies"), .str ", ", .dec totalBytes, .str " bytes]"]
  else
    setInfo [.str "SEND"]

/-- SEND_DATA and WRITE_DATA.  The block that is shown is what is left of the frame; the number of
bytes in the info column is the one the header declares. -/
def dataBlock (b : Bytes) (remaining payloadLen : ℕ) (name : String) : Script PUnit := do
  whenever (remaining > 0) (addField 1 .data b payloadOffset remaining [])
  setInfo [.str name, .str " [", .dec payloadLen, .str " bytes]"]

/-- WRITE.  The payload states no number of entries: it is the quotient of what is left by the size
of an entry, a quotient of doubles. -/
def write (b : Bytes) (remaining payloadLen : ℕ) : Script PUnit := do
  if remaining ≥ 24 then
    let rk ← uint b payloadOffset 4
    let va ← uint b (payloadOffset + 8) 8
    let wlen ← uint b (payloadOffset + 16) 8
    addSubtree 1 b payloadOffset (min remaining payloadLen) [.str "Write Payload"]
    addField 2 .rkey b payloadOffset 4 []
    addField 2 .remoteVa b (payloadOffset + 8) 8 []
    addField 2 .writeLen b (payloadOffset + 16) 8 []
    whenever (remaining > 24) do
      -- not an integer if bytes of half an entry are left
      let sgCount : ℚ := (remaining - 24) / sgEntrySize
      let _ ← parseSgEntries b (payloadOffset + 24) sgCount
      return ⟨⟩
    setInfo [.str "WRITE R_Key=0x", .hex 8 rk, .str " VA=0x", .dec va, .str " ", .dec wlen,
      .str " bytes"]
  else
    setInfo [.str "WRITE"]

/-- READ_REQ, with the remote region and the local one the data is meant for. -/
def readReq (b : Bytes) (remaining : ℕ) : Script PUnit := do
  if remaining ≥ 40 then
    addSubtree 1 b payloadOffset 40 [.str "Read Request Payload"]
    addField 2 .rkey b payloadOffset 4 []
    addField 2 .remoteVa b (payloadOffset + 8) 8 []
    addField 2 .readLen b (payloadOffset + 16) 8 []
    addField 2 .localLkey b (payloadOffset + 24) 4 []
    addField 2 .localVa b (payloadOffset + 32) 8 []
    let rk ← uint b payloadOffset 4
    let va ← uint b (payloadOffset + 8) 8
    let rlen ← uint b (payloadOffset + 16) 8
    setInfo [.str "READ_REQ R_Key=0x", .hex 8 rk, .str " VA=0x", .dec va, .str " Len=", .dec rlen]
  else
    setInfo [.str "READ_REQ"]

/-- READ_RESP; the data is what is left of the frame behind the offset of the fragment. -/
def readResp (b : Bytes) (remaining : ℕ) : Script PUnit := do
  if remaining ≥ 8 then
    let fo ← uint b payloadOffset 8
    let dataLen := remaining - 8
    addSubtree 1 b payloadOffset remaining [.str "Read Response Payload"]
    addField 2 .fragOffset b payloadOffset 8 []
    whenever (dataLen > 0) (addField 2 .data b (payloadOffset + 8) dataLen [])
    setInfo [.str "READ_RESP Offset=", .dec fo, .str " [", .dec dataLen, .str " bytes]"]
  else
    setInfo [.str "READ_RESP"]

/-- ATOMIC_REQ; the type has a long name in the tree and a short one in the info column. -/
def atomicReq (b : Bytes) (remaining : ℕ) : Script PUnit := do
  if remaining ≥ 32 then
    addSubtree 1 b payloadOffset 32 [.str "Atomic Request Payload"]
    addField 2 .rkey b payloadOffset 4 []
    let type ← uint b (payloadOffset + 4) 1
    addField 2 .atomicType b (payloadOffset + 4) 1
      ([.str " ("] ++ atomicTypeName type ++ [.str ")"])
    addField 2 .remoteVa b (payloadOffset + 8) 8 []
    addField 2 .operand1 b (payloadOffset + 16) 8 []
    addField 2 .operand2 b (payloadOffset + 24) 8 []
    let rk ← uint b payloadOffset 4
    let va ← uint b (payloadOffset + 8) 8
    setInfo ([.str "ATOMIC_REQ "] ++ atomicShortName type ++
      [.str " R_Key=0x", .hex 8 rk, .str " VA=0x", .dec va])
  else
    setInfo [.str "ATOMIC_REQ"]

/-- ATOMIC_RESP; the status is a row of the tree and is not in the info column. -/
def atomicResp (b : Bytes) (remaining : ℕ) : Script PUnit := do
  if remaining ≥ 16 then
    addSubtree 1 b payloadOffset 16 [.str "Atomic Response Payload"]
    addField 2 .origValue b payloadOffset 8 []
    addField 2 .status b (payloadOffset + 8) 2 []
    let ov ← uint b payloadOffset 8
    setInfo [.str "ATOMIC_RESP Original=", .dec ov]
  else
    setInfo [.str "ATOMIC_RESP"]

/-- CREDIT_UPDATE.  The script asks for four bytes of the eight that the encoder writes, the rest is
reserved. -/
def creditUpdate (b : Bytes) (remaining : ℕ) : Script PUnit := do
  if remaining ≥ 4 then
    addSubtree 1 b payloadOffset (min remaining 8) [.str "Credit Update Payload"]
    addField 2 .creditInc b payloadOffset 4 []
    let inc ← uint b payloadOffset 4
    setInfo [.str "CREDIT_UPDATE +", .dec inc]
  else
    setInfo [.str "CREDIT_UPDATE"]

/-- `desc_str`: the description is shown and read if all of it is there. -/
def errorDesc (b : Bytes) (remaining dlen : ℕ) : Script String := do
  if dlen > 0 ∧ remaining ≥ 10 + dlen then
    addField 2 .desc b (payloadOffset + 10) dlen []
    return TextDecoding.ofRange (← range b (payloadOffset + 10) dlen)
  else
    return ""

/-- ERROR; the description is in the info column unless it is empty or cut off. -/
def error (b : Bytes) (remaining : ℕ) : Script PUnit := do
  if remaining ≥ 10 then
    let ec ← uint b payloadOffset 2
    let fseq ← uint b (payloadOffset + 4) 4
    let dlen ← uint b (payloadOffset + 8) 2
    addSubtree 1 b payloadOffset (min remaining (10 + dlen)) [.str "Error Payload"]
    addField 2 .errorCode b payloadOffset 2 ([.str " ("] ++ errorName ec ++ [.str ")"])
    addField 2 .failingSeq b (payloadOffset + 4) 4 []
    addField 2 .descLen b (payloadOffset + 8) 2 []
    let descStr ← errorDesc b remaining dlen
    if descStr.length > 0 then
      setInfo ([.str "ERROR "] ++ errorName ec ++
        [.str " Seq=", .dec fseq, .str " \"", .text descStr, .str "\""])
    else
      setInfo ([.str "ERROR "] ++ errorName ec ++ [.str " Seq=", .dec fseq])
  else
    setInfo [.str "ERROR"]

/-! ### The dissector -/

/-- The rows of the header.  The three flags have the same range as the number they are bits of, and
stand one level below it. -/
def headerRows (b : Bytes) (name : Text) : Script PUnit := do
  addSubtree 0 b 0 b.length (.str "RDoWS " :: name)
  addSubtree 1 b 0 24 [.str "Header"]
  addField 2 .version b 0 1 []
  addField 2 .opcode b 1 1 ([.str " ("] ++ name ++ [.str ")"])
  addField 2 .flags b 2 2 []
  addField 3 .flagF b 2 2 []
  addField 3 .flagL b 2 2 []
  addField 3 .flagS b 2 2 []
  addField 2 .sessionId b 4 4 []
  addField 2 .sequence b 8 4 []
  addField 2 .wrid b 12 8 []
  addField 2 .payloadLen b 20 4 []

/-- The chain of branches on the opcode.  DISCONNECT, RECV_COMP, WRITE_COMP and ACK have no payload,
so they only set the info column. -/
def payloadRows (b : Bytes) (opcode sessionId seq wrid payloadLen remaining : ℕ) : Script PUnit :=
  match opcode with
  | 0x01 => connect b remaining sessionId
  | 0x02 => connectAck b remaining sessionId
  | 0x03 => setInfo [.str "DISCONNECT Session=0x", .hex 8 sessionId]
  | 0x10 => mrReg b remaining
  | 0x11 => mrRegAck b remaining
  | 0x12 => mrDereg b remaining
  | 0x13 => mrDeregAck b remaining
  | 0x20 => send b remaining
  | 0x21 => dataBlock b remaining payloadLen "SEND_DATA"
  | 0x22 => setInfo [.str "RECV_COMP WRID=", .dec wrid]
  | 0x30 => write b remaining payloadLen
  | 0x31 => dataBlock b remaining payloadLen "WRITE_DATA"
  | 0x32 => setInfo [.str "WRITE_COMP WRID=", .dec wrid]
  | 0x40 => readReq b remaining
  | 0x41 => readResp b remaining
  | 0x50 => atomicReq b remaining
  | 0x51 => atomicResp b remaining
  | 0x60 => setInfo [.str "ACK Seq=", .dec seq]
  | 0x61 => creditUpdate b remaining
  | 0xF0 => error b remaining
  | _ => setInfo ([.str "RDoWS "] ++ opName opcode ++ [.str " Seq=", .dec seq])

/-- `rdows_proto.dissector`.  A buffer that is shorter than a header is left alone.  The version is
read and shown, but not checked. -/
def dissector (b : Bytes) : Script PUnit := do
  if b.length < 24 then
    return ⟨⟩
  else
    let _version ← uint b 0 1
    let opcode ← uint b 1 1
    let _flags ← uint b 2 2
    let sessionId ← uint b 4 4
    let seq ← uint b 8 4
    let wrid ← uint b 12 8
    let payloadLen ← uint b 20 4
    Method.modify fun d => { d with protocol := "RDoWS" }
    headerRows b (opName opcode)
    let remaining := b.length - payloadOffset
    -- a header that declares a payload of which nothing was captured
    if remaining ≤ 0 ∧ payloadLen > 0 then
      addRow (.expert 1 "Payload missing")
      setInfo (opName opcode)
    else
      payloadRows b opcode sessionId seq wrid payloadLen remaining

end Rdows.Wireshark
