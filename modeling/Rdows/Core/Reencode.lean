import Rdows.Core.Extent

/-!
# Accepted frames can be encoded again

`decode` is lenient: it ignores reserved bytes and what comes behind the payload, replaces an error
code it does not know, drops a description that is longer than the frame, and rounds the length of a
WRITE down to whole entries.  Whatever it makes of a frame is nevertheless a message that the wire
format describes (`withinFormat_of_decode`), so encoding and decoding it once more changes nothing
but the payload length.

## What this means for a relay

A component that decodes a frame, looks at it and sends it on does not change its meaning, even if
the bytes change: the second receiver obtains the message that the first did.  The bytes settle
after one trip, so a second relay changes nothing any more (`decode_encode_of_decode`).

## The exception

A description that is not UTF-8 is decoded with replacement characters.  Every bad byte is replaced
by three, and the new text need not fit the 16-bit length.  Such frames are left out by
`ValidDescription`; for a frame that is no ERROR the condition is void
(`withinFormat_of_decode_of_ne_error`).

The proofs invert the decoders: from a decoder that returned, each lemma `length_..._of_run` bounds
the variable part of what it returned by the field that delimited it.
-/

namespace Rdows

open Rust Reader

/-! ### What the decoders of the variable parts return -/

theorem length_of_run_decodeSgList {count : ℕ} {buf left : Bytes}
    {entries : List ScatterGatherEntry} (run : (decodeSgList count).run buf = (.ok entries, left)) :
    entries.length = count := by
  induction count generalizing buf entries with
  | zero =>
      cases run
      rfl
  | succ count ih =>
      obtain ⟨entry, rest, -, run⟩ := Method.run_bind_eq_ok.mp run
      obtain ⟨later, last, tail, run⟩ := Method.run_bind_eq_ok.mp run
      cases run
      rw [List.length_cons, ih tail]

/-- A payload that was read passed the check of its fixed part, and the rest of the decoder ran on
the same bytes. -/
theorem le_of_run_requireRemaining {α : Type} {n : ℕ} {body : Reader RdowsError α}
    {buf left : Bytes} {a : α}
    (run : (requireRemaining n >>= fun _ => body).run buf = (.ok a, left)) :
    n ≤ buf.length ∧ body.run buf = (.ok a, left) := by
  by_cases full : n ≤ buf.length
  · rw [Method.run_bind_of_ok (run_requireRemaining_of_le full)] at run
    exact ⟨full, run⟩
  · rw [Method.run_bind, run_requireRemaining_of_lt (Nat.lt_of_not_le full)] at run
    cases run

/-- The same, for a payload whose variable part comes behind the fixed one. -/
theorem run_tail_of_leads {α β : Type} {n : ℕ} {x body : Reader RdowsError α}
    {f : β → Reader RdowsError α} (leads : Leads n body f)
    (same : x = (requireRemaining n >>= fun _ => body)) {buf left : Bytes} {a : α}
    (run : x.run buf = (.ok a, left)) : ∃ fixed rest, (f fixed).run rest = (.ok a, left) := by
  rw [same] at run
  obtain ⟨full, run⟩ := le_of_run_requireRemaining run
  obtain ⟨front, rest, fits, rfl⟩ := exists_append_of_le full
  obtain ⟨fixed, behind⟩ := leads front fits
  exact ⟨fixed, rest, by rw [← behind, run]⟩

/-- A SEND list is no longer than its 16-bit count says. -/
theorem SendPayload.length_sgList_of_run {buf left : Bytes} {p : SendPayload}
    (run : SendPayload.decode.run buf = (.ok p, left)) : p.sgList.length ≤ 65535 := by
  obtain ⟨-, run⟩ := le_of_run_requireRemaining run
  obtain ⟨count, _, -, run⟩ := Method.run_bind_eq_ok.mp run
  obtain ⟨_, _, -, run⟩ := Method.run_bind_eq_ok.mp run
  obtain ⟨room, _, -, run⟩ := Method.run_bind_eq_ok.mp run
  rw [Method.run_ite] at run
  split at run
  · cases run
  obtain ⟨_, _, -, run⟩ := Method.run_bind_eq_ok.mp run
  obtain ⟨entries, _, tail, run⟩ := Method.run_bind_eq_ok.mp run
  cases run
  have small := count.toNat_lt
  rw [length_of_run_decodeSgList tail]
  omega

/-- A WRITE is no longer than was announced; the rest below a whole entry is dropped. -/
theorem WritePayload.length_encode_of_run {payloadLength : UInt32} {buf left : Bytes}
    {p : WritePayload} (run : (WritePayload.decode payloadLength).run buf = (.ok p, left)) :
    p.encode.length ≤ payloadLength.toNat := by
  obtain ⟨body, leads, same⟩ := WritePayload.leads_decode payloadLength
  obtain ⟨fixed, rest, run⟩ := run_tail_of_leads leads same run
  obtain ⟨sgBytes, room, run⟩ := Method.run_lift_bind_eq_ok.mp run
  obtain ⟨_, -, run⟩ := Method.run_lift_bind_eq_ok.mp run
  obtain ⟨entries, _, tail, run⟩ := Method.run_bind_eq_ok.mp run
  cases run
  rw [checkedSubUsize] at room
  split at room
  · rename_i wide
    cases room
    have whole :=
      Nat.div_mul_le_self (payloadLength.toNat - WritePayload.writeHeaderSize) sgEntrySize
    rw [WritePayload.length_encode, length_of_run_decodeSgList tail]
    omega
  · cases room

theorem length_of_run_copyToBytes {n : ℕ} {buf left data : Bytes}
    (run : (copyToBytes n : Reader RdowsError Bytes).run buf = (.ok data, left)) :
    data.length = n := by
  rw [Method.run, copyToBytes] at run
  split at run
  · rename_i inside
    cases run
    exact List.length_take_of_le inside
  · cases run

theorem DataPayload.length_encode_of_run {payloadLength : UInt32} {buf left : Bytes}
    {p : DataPayload} (run : (DataPayload.decode payloadLength).run buf = (.ok p, left)) :
    p.encode.length = payloadLength.toNat := by
  obtain ⟨-, run⟩ := le_of_run_requireRemaining run
  obtain ⟨data, _, copied, run⟩ := Method.run_bind_eq_ok.mp run
  cases run
  exact length_of_run_copyToBytes copied

/-- A READ_RESP is exactly as long as was announced. -/
theorem ReadRespPayload.length_encode_of_run {payloadLength : UInt32} {buf left : Bytes}
    {p : ReadRespPayload} (run : (ReadRespPayload.decode payloadLength).run buf = (.ok p, left)) :
    p.encode.length = payloadLength.toNat := by
  obtain ⟨body, leads, same⟩ := ReadRespPayload.leads_decode payloadLength
  obtain ⟨offset, rest, run⟩ := run_tail_of_leads leads same run
  obtain ⟨dataLen, room, run⟩ := Method.run_lift_bind_eq_ok.mp run
  obtain ⟨_, _, -, run⟩ := Method.run_bind_eq_ok.mp run
  rw [Method.run_ite] at run
  split at run
  · cases run
  obtain ⟨data, _, copied, run⟩ := Method.run_bind_eq_ok.mp run
  cases run
  rw [checkedSubUsize] at room
  split at room
  · rename_i wide
    cases room
    rw [ReadRespPayload.length_encode, length_of_run_copyToBytes copied]
    omega
  · cases room

/-- A description that is UTF-8 is no longer than its 16-bit length says. -/
theorem ErrorPayload.length_description_of_run {buf left : Bytes} {p : ErrorPayload}
    (run : ErrorPayload.decode.run buf = (.ok p, left))
    (valid : descriptionLength buf ≤ buf.length - 10 →
      ∃ text, utf8Bytes text = (buf.drop 10).take (descriptionLength buf)) :
    (utf8Bytes p.description).length ≤ 65535 := by
  have full := (le_of_run_requireRemaining run).1
  obtain ⟨front, rest, fits, rfl⟩ := exists_append_of_le full
  obtain ⟨fixed, behind⟩ := run_decode_append fits
  have small := ofBE_lt ((front.drop 8).take 2)
  rw [List.length_take_of_le (by rw [List.length_drop]; omega)] at small
  have here : descriptionLength (front ++ rest) = ofBE ((front.drop 8).take 2) := by
    rw [descriptionLength, List.drop_append_of_le_length (by omega),
      List.take_append_of_le_length (by rw [List.length_drop]; omega)]
  have value := run_decodeTail fixed (UInt16.ofNat (ofBE ((front.drop 8).take 2))) rest
  rw [behind, descriptionLength] at run
  rw [run, Outcome.ok.injEq, UInt16.toNat_ofNat_of_lt' small, ← here] at value
  rw [List.drop_left' fits, List.length_append, fits, Nat.add_sub_cancel_left] at valid
  rw [value]
  dsimp only
  -- the description is read only if all of it is there, and then it has the length of its field
  split
  · rename_i inside
    obtain ⟨text, bytes⟩ := valid inside
    rw [← bytes, fromUtf8Lossy_utf8Bytes, bytes, List.length_take]
    omega
  · exact Nat.zero_le _

/-- A header that was read is of this protocol version. -/
theorem RdowsHeader.version_of_run {buf left : Bytes} {h : RdowsHeader}
    (run : RdowsHeader.decode.run buf = (.ok h, left)) : h.version = rdowsVersion := by
  obtain ⟨_, _, -, run⟩ := Method.run_bind_eq_ok.mp run
  rw [Method.run_ite] at run
  split at run
  · cases run
  obtain ⟨version, _, -, run⟩ := Method.run_bind_eq_ok.mp run
  rw [Method.run_ite] at run
  split at run
  · cases run
  rename_i current
  obtain ⟨opcodeByte, _, -, run⟩ := Method.run_bind_eq_ok.mp run
  split at run
  · cases run
  obtain ⟨_, _, -, run⟩ := Method.run_bind_eq_ok.mp run
  obtain ⟨_, _, -, run⟩ := Method.run_bind_eq_ok.mp run
  obtain ⟨_, _, -, run⟩ := Method.run_bind_eq_ok.mp run
  obtain ⟨_, _, -, run⟩ := Method.run_bind_eq_ok.mp run
  obtain ⟨_, _, -, run⟩ := Method.run_bind_eq_ok.mp run
  cases run
  exact not_not.mp current

/-! ### Whole messages -/

namespace RdowsMessage

/-- A payload decoder that returned a message of its variant. -/
theorem eq_wrap_of_run {α : Type} {x : Reader RdowsError α} {buf : Bytes} {m : RdowsMessage}
    {wrap : α → RdowsMessage}
    (run : ((do return wrap (← x) : Reader RdowsError RdowsMessage).run buf).1 = .ok m) :
    ∃ p left, x.run buf = (.ok p, left) ∧ wrap p = m := by
  rw [Method.run_bind] at run
  rcases result : x.run buf with ⟨p | e | c, left⟩ <;> rw [result] at run
  · exact ⟨p, left, rfl, Outcome.ok.inj run⟩
  · cases run
  · cases run

/-- The variant of a decoded message is the one its opcode stands for: the payload decoder branches
on nothing else. -/
theorem variantOpcode_of_decodePayload {h : RdowsHeader} {buf : Bytes} {m : RdowsMessage} :
    ((decodePayload h).run buf).1 = .ok m → m.variantOpcode = h.opcode := by
  have wrapped {α : Type} {x : Reader RdowsError α} {wrap : α → RdowsMessage} {opcode : Opcode}
      (variant : ∀ p, (wrap p).variantOpcode = opcode)
      (run : ((do return wrap (← x) : Reader RdowsError RdowsMessage).run buf).1 = .ok m) :
      m.variantOpcode = opcode := by
    obtain ⟨p, left, -, rfl⟩ := eq_wrap_of_run run
    exact variant p
  have bare {m' : RdowsMessage} {opcode : Opcode} (variant : m'.variantOpcode = opcode)
      (run : ((pure m' : Reader RdowsError RdowsMessage).run buf).1 = .ok m) :
      m.variantOpcode = opcode := by
    cases run
    exact variant
  rw [decodePayload]
  cases h.opcode with
  | disconnect => exact bare rfl
  | recvComp => exact bare rfl
  | writeComp => exact bare rfl
  | ack => exact bare rfl
  | _ => exact wrapped fun _ => rfl

/-- A frame decodes to the variant it was encoded from, if it decodes at all; this needs no bound on
the lengths. -/
theorem variantOpcode_of_decode_encode {m m' : RdowsMessage}
    (version : m.header.version = rdowsVersion) (opcode : m.header.opcode = m.variantOpcode)
    (decoded : decode m.encode = .ok m') : m'.variantOpcode = m.variantOpcode := by
  have onWire : m.wireHeader.version = rdowsVersion := version
  rw [show m.encode = m.wireHeader.encode ++ m.encodePayload from rfl,
    decode_header_append onWire] at decoded
  exact (variantOpcode_of_decodePayload decoded).trans opcode

/-- A plain message that was decoded is within the format if its payload is short enough. -/
theorem withinFormat_of_wrap {α : Type} {x : Reader RdowsError α} {buf : Bytes} {m : RdowsMessage}
    {h : RdowsHeader} {wrap : α → RdowsMessage} (version : h.version = rdowsVersion)
    (header : ∀ p, (wrap p).header = h) (variant : ∀ p, h.opcode = (wrap p).variantOpcode)
    (plain : ∀ p, (wrap p).isPlain = true)
    (bound : ∀ p left, x.run buf = (.ok p, left) → (wrap p).encodePayload.length < 2 ^ 32)
    (run : ((do return wrap (← x) : Reader RdowsError RdowsMessage).run buf).1 = .ok m) :
    m.WithinFormat := by
  obtain ⟨p, left, read, rfl⟩ := eq_wrap_of_run run
  exact .of_isPlain (by rw [header, version]) (by rw [header, variant]) (plain p)
    (bound p left read)

/-- What the payload decoder returns is within the format. -/
theorem withinFormat_of_decodePayload {h : RdowsHeader} {buf : Bytes} {m : RdowsMessage}
    (version : h.version = rdowsVersion)
    (valid : h.opcode = .error → ErrorPayload.descriptionLength buf ≤ buf.length - 10 →
      ∃ text, utf8Bytes text = (buf.drop 10).take (ErrorPayload.descriptionLength buf)) :
    ((decodePayload h).run buf).1 = .ok m → m.WithinFormat := by
  have fits := h.payloadLength.toNat_lt
  have bare : ∀ m' : RdowsMessage, m'.header = h → h.opcode = m'.variantOpcode →
      m'.isPlain = true → m'.encodePayload = [] →
      ((pure m' : Reader RdowsError RdowsMessage).run buf).1 = .ok m → m.WithinFormat := by
    intro m' header variant plain empty run
    cases run
    exact .of_isPlain (by rw [header, version]) (by rw [header, variant]) plain
      (by rw [empty]; decide)
  -- One case per opcode: fixed sizes first, then those that the announced length bounds.
  rw [decodePayload]
  cases opcode : h.opcode with
  | connect =>
      exact withinFormat_of_wrap version (fun _ => rfl) (fun _ => opcode) (fun _ => rfl)
        fun p _ _ => by rw [encodePayload, p.length_encode]; decide
  | connectAck =>
      exact withinFormat_of_wrap version (fun _ => rfl) (fun _ => opcode) (fun _ => rfl)
        fun p _ _ => by rw [encodePayload, p.length_encode]; decide
  | mrReg =>
      exact withinFormat_of_wrap version (fun _ => rfl) (fun _ => opcode) (fun _ => rfl)
        fun p _ _ => by rw [encodePayload, p.length_encode]; split <;> decide
  | mrRegAck =>
      exact withinFormat_of_wrap version (fun _ => rfl) (fun _ => opcode) (fun _ => rfl)
        fun p _ _ => by rw [encodePayload, p.length_encode]; decide
  | mrDereg =>
      exact withinFormat_of_wrap version (fun _ => rfl) (fun _ => opcode) (fun _ => rfl)
        fun p _ _ => by rw [encodePayload, p.length_encode]; decide
  | mrDeregAck =>
      exact withinFormat_of_wrap version (fun _ => rfl) (fun _ => opcode) (fun _ => rfl)
        fun p _ _ => by rw [encodePayload, p.length_encode]; decide
  | readReq =>
      exact withinFormat_of_wrap version (fun _ => rfl) (fun _ => opcode) (fun _ => rfl)
        fun p _ _ => by rw [encodePayload, p.length_encode]; decide
  | atomicReq =>
      exact withinFormat_of_wrap version (fun _ => rfl) (fun _ => opcode) (fun _ => rfl)
        fun p _ _ => by rw [encodePayload, p.length_encode]; decide
  | atomicResp =>
      exact withinFormat_of_wrap version (fun _ => rfl) (fun _ => opcode) (fun _ => rfl)
        fun p _ _ => by rw [encodePayload, p.length_encode]; decide
  | creditUpdate =>
      exact withinFormat_of_wrap version (fun _ => rfl) (fun _ => opcode) (fun _ => rfl)
        fun p _ _ => by rw [encodePayload, p.length_encode]; decide
  | sendData =>
      exact withinFormat_of_wrap version (fun _ => rfl) (fun _ => opcode) (fun _ => rfl)
        fun p _ read => (DataPayload.length_encode_of_run read).trans_lt fits
  | writeData =>
      exact withinFormat_of_wrap version (fun _ => rfl) (fun _ => opcode) (fun _ => rfl)
        fun p _ read => (DataPayload.length_encode_of_run read).trans_lt fits
  | write =>
      exact withinFormat_of_wrap version (fun _ => rfl) (fun _ => opcode) (fun _ => rfl)
        fun p _ read => (WritePayload.length_encode_of_run read).trans_lt fits
  | readResp =>
      exact withinFormat_of_wrap version (fun _ => rfl) (fun _ => opcode) (fun _ => rfl)
        fun p _ read => (ReadRespPayload.length_encode_of_run read).trans_lt fits
  | disconnect => exact bare _ rfl opcode rfl rfl
  | recvComp => exact bare _ rfl opcode rfl rfl
  | writeComp => exact bare _ rfl opcode rfl rfl
  | ack => exact bare _ rfl opcode rfl rfl
  | send =>
      intro run
      obtain ⟨p, left, read, rfl⟩ := eq_wrap_of_run run
      have short := SendPayload.length_sgList_of_run read
      refine ⟨version, opcode, fun _ _ same => ?_, fun _ _ same => ?_, ?_⟩
      · cases same
        exact short
      · cases same
      · rw [encodePayload, p.length_encode, sgEntrySize]
        omega
  | error =>
      intro run
      obtain ⟨p, left, read, rfl⟩ := eq_wrap_of_run run
      have short := ErrorPayload.length_description_of_run read (valid opcode)
      refine ⟨version, opcode, fun _ _ same => ?_, fun _ _ same => ?_, ?_⟩
      · cases same
      · cases same
        exact short
      · rw [encodePayload, p.length_encode]
        omega

/-- The description of an ERROR frame is UTF-8, if the frame holds all of it.  Frames of other
opcodes, and descriptions that are dropped, are not restricted. -/
def ValidDescription (b : Bytes) : Prop :=
  b[1]? = some Opcode.error.toU8 →
    ErrorPayload.descriptionLength (b.drop 24) ≤ (b.drop 24).length - 10 →
      ∃ text, utf8Bytes text = (b.drop 34).take (ErrorPayload.descriptionLength (b.drop 24))

/-- Everything that is accepted is within the format: version and opcode were checked, and every
variable part was delimited by the field that describes it. -/
theorem withinFormat_of_decode {b : Bytes} {m : RdowsMessage} (valid : ValidDescription b)
    (accepted : decode b = .ok m) : m.WithinFormat := by
  rcases run_decode_header b with ⟨e, left, run, -⟩ | ⟨h, run, -, -, byte, -⟩
  · rw [decode, Method.run_bind, run] at accepted
    cases accepted
  · rw [decode, Method.run_bind_of_ok run] at accepted
    refine withinFormat_of_decodePayload (RdowsHeader.version_of_run run) (fun isError => ?_)
      accepted
    rw [List.drop_drop]
    exact valid (by rw [byte, isError])

/-- An accepted message that is no ERROR has no text in it, and is within the format whatever the
frame holds. -/
theorem withinFormat_of_decode_of_ne_error {b : Bytes} {m : RdowsMessage}
    (accepted : decode b = .ok m) (other : m.variantOpcode ≠ .error) : m.WithinFormat := by
  rcases run_decode_header b with ⟨e, left, run, -⟩ | ⟨h, run, -⟩
  · rw [decode, Method.run_bind, run] at accepted
    cases accepted
  · rw [decode, Method.run_bind_of_ok run] at accepted
    refine withinFormat_of_decodePayload (RdowsHeader.version_of_run run) (fun isError => ?_)
      accepted
    exact absurd ((variantOpcode_of_decodePayload accepted).trans isError) other

theorem encodePayload_withHeader (h : RdowsHeader) (m : RdowsMessage) :
    (m.withHeader h).encodePayload = m.encodePayload := by
  cases m <;> rfl

/-- Filling in the payload length does not change what is written. -/
theorem encode_canonical (m : RdowsMessage) : m.canonical.encode = m.encode := by
  rw [encode, encode, canonical, header_withHeader, encodePayload_withHeader]
  rfl

/-- **Accepted frames are encoded faithfully.**  Whatever the decoder makes of a frame, encoding it
and decoding it again gives the same message with its payload length filled in, and encoding that
gives the same bytes. -/
theorem decode_encode_of_decode (b : Bytes) (m : RdowsMessage) (valid : ValidDescription b)
    (accepted : decode b = .ok m) :
    decode m.encode = .ok m.canonical ∧
      m.canonical = m.withHeader { m.header with
        payloadLength := UInt32.ofNat m.encodePayload.length } ∧
      m.canonical.header.payloadLength.toNat = m.encodePayload.length ∧
      m.canonical.encode = m.encode := by
  have within := withinFormat_of_decode valid accepted
  refine ⟨decode_encode_eq within, rfl, ?_, encode_canonical m⟩
  rw [canonical, header_withHeader]
  exact UInt32.toNat_ofNat_of_lt' within.payload

/-- An ERROR frame with an unknown code, reserved bytes that are set, no announced payload and two
bytes behind its description: all four kinds of leniency at once. -/
theorem decode_encode_of_decode_unknown_code :
    let b : Bytes := [0x01, 0xF0] ++ List.replicate 22 0 ++
      [0x12, 0x34, 0xAA, 0xAA, 0, 0, 0, 5, 0, 2, 0x6F, 0x6B, 9, 9]
    ∃ m, ValidDescription b ∧ decode b = .ok m ∧ decode m.encode = .ok m.canonical ∧
      m.canonical.encode = m.encode := by
  intro b
  have valid : ValidDescription b := fun _ _ => ⟨"ok", by decide⟩
  have accepted : (decode b).IsOk := by decide
  rcases result : decode b with m | e | c
  · obtain ⟨again, -, -, same⟩ := decode_encode_of_decode b m valid result
    exact ⟨m, valid, rfl, again, same⟩
  · rw [result] at accepted
    exact accepted.elim
  · rw [result] at accepted
    exact accepted.elim

end RdowsMessage

end Rdows
