import Rdows.Core.RoundTrip

/-!
# When decoding panics

`RdowsMessage::decode` is the first code that sees a peer's bytes.  All its reads are preceded by a
check of the bytes that remain, with two exceptions that have nothing to do with reading: WRITE and
READ_RESP compute the length of their variable part as `payload_length - 24` and `payload_length -
8`, and the header field may be smaller.

## The result

`decode_not_isPanic_iff` is the exact condition: decoding panics on the frames of
`UnderflowingWrite` and `UnderflowingReadResp` and on no other byte string.  Both are stated on the
raw bytes, since a frame that makes the decoder panic has no decoded form to speak of.  A peer that
wants to bring a task down needs one frame of 48 or of 32 bytes.

## How it is proved

Most payloads are `Fixed`: one check of the whole width, then reads that add up to it.  Their
decoders take exactly that many bytes, so they cannot panic, and the widths are computed along the
binds.  The lists and texts of SEND and ERROR are delimited by a count inside the payload, which is
compared with what is left before it is used.  What remains are the two subtractions, and
`isPanic_decodePayload_iff` collects the cases.  `run_decode_header` connects the fields of the
decoded header with the bytes of the frame.
-/

namespace Rdows

open Rust

/-! ### Payloads of fixed size -/

/-- A payload of fixed size: the width is checked, then exactly that much is read.  Eight of the
payloads are of this form, and each entry of a list. -/
def Fixed {α : Type} (n : ℕ) (x : Reader RdowsError α) : Prop :=
  ∃ body, Reader.Takes n body ∧ x = (requireRemaining n >>= fun _ => body)

namespace Fixed

variable {α : Type} {n : ℕ} {x : Reader RdowsError α}

/-- It is refused when it is too short. -/
theorem run_of_lt (fixed : Fixed n x) {buf : Bytes} (short : buf.length < n) :
    x.run buf = (.err (.payloadTooShort n buf.length), buf) := by
  obtain ⟨body, -, rfl⟩ := fixed
  rw [Method.run_bind, run_requireRemaining_of_lt short]

/-- When its bytes are there it is what they say, whatever comes behind them. -/
theorem takes (fixed : Fixed n x) : Reader.Takes n x := by
  obtain ⟨body, takes, rfl⟩ := fixed
  intro front full
  obtain ⟨a, run⟩ := takes front full
  refine ⟨a, fun rest => ?_⟩
  rw [Method.run_bind_of_ok (run_requireRemaining_of_le (by rw [List.length_append]; omega)),
    run]

theorem not_isPanic (fixed : Fixed n x) (buf : Bytes) : ¬ (x.run buf).1.IsPanic := by
  by_cases h : n ≤ buf.length
  · exact fixed.takes.reads.not_isPanic h
  · rw [fixed.run_of_lt (Nat.lt_of_not_le h)]
    exact id

end Fixed

open Reader in
theorem ConnectPayload.fixed_decode : Fixed 16 ConnectPayload.decode :=
  ⟨_, takes_getU32.bind fun _ => takes_getU32.bind fun _ => takes_getU32.bind fun _ =>
    takes_getU32.bind fun _ => Takes.pure _, rfl⟩

open Reader in
theorem MrRegAckPayload.fixed_decode : Fixed 16 MrRegAckPayload.decode :=
  ⟨_, takes_getU32.bind fun _ => takes_getU32.bind fun _ => takes_getU32.bind fun _ =>
    takes_getU16.bind fun _ => takes_getU16.bind fun _ => Takes.pure _, rfl⟩

open Reader in
theorem MrDeregPayload.fixed_decode : Fixed 8 MrDeregPayload.decode :=
  ⟨_, takes_getU32.bind fun _ => takes_getU32.bind fun _ => Takes.pure _, rfl⟩

open Reader in
theorem MrDeregAckPayload.fixed_decode : Fixed 8 MrDeregAckPayload.decode :=
  ⟨_, takes_getU16.bind fun _ => (takes_advance 6).bind fun _ => Takes.pure _, rfl⟩

open Reader in
theorem ReadReqPayload.fixed_decode : Fixed 40 ReadReqPayload.decode :=
  ⟨_, takes_getU32.bind fun _ => takes_getU32.bind fun _ => takes_getU64.bind fun _ =>
    takes_getU64.bind fun _ => takes_getU32.bind fun _ => takes_getU32.bind fun _ =>
    takes_getU64.bind fun _ => Takes.pure _, rfl⟩

open Reader in
theorem CreditUpdatePayload.fixed_decode : Fixed 8 CreditUpdatePayload.decode :=
  ⟨_, takes_getU32.bind fun _ => takes_getU32.bind fun _ => Takes.pure _, rfl⟩

open Reader in
theorem AtomicReqPayload.fixed_decode : Fixed 32 AtomicReqPayload.decode :=
  ⟨_, takes_getU32.bind fun _ => takes_getU8.bind fun _ => (takes_advance 3).bind fun _ =>
    takes_getU64.bind fun _ => takes_getU64.bind fun _ => takes_getU64.bind fun _ =>
    Takes.pure _, rfl⟩

open Reader in
theorem AtomicRespPayload.fixed_decode : Fixed 16 AtomicRespPayload.decode :=
  ⟨_, takes_getU64.bind fun _ => takes_getU16.bind fun _ => (takes_advance 6).bind fun _ =>
    Takes.pure _, rfl⟩

open Reader in
theorem DataPayload.fixed_decode (payloadLength : UInt32) :
    Fixed payloadLength.toNat (DataPayload.decode payloadLength) :=
  ⟨_, (takes_copyToBytes _).bind fun _ => Takes.pure _, rfl⟩

open Reader in
theorem ScatterGatherEntry.fixed_decode : Fixed sgEntrySize ScatterGatherEntry.decode :=
  ⟨_, takes_getU32.bind fun _ => takes_getU64.bind fun _ => takes_getU32.bind fun _ =>
    Takes.pure _, rfl⟩

/-! ### Payloads that are read safely -/

/-- A payload with more than a fixed part: the width of that part is checked first. -/
theorem not_isPanic_requireRemaining {α : Type} {n : ℕ} {body : Reader RdowsError α}
    (hbody : ∀ buf : Bytes, n ≤ buf.length → ¬ (body.run buf).1.IsPanic) (buf : Bytes) :
    ¬ ((requireRemaining n >>= fun _ => body).run buf).1.IsPanic := by
  by_cases h : n ≤ buf.length
  · rw [Method.run_bind_of_ok (run_requireRemaining_of_le h)]
    exact hbody buf h
  · simp [requireRemaining, Nat.lt_of_not_le h]

/-- Every entry of a list checks its own sixteen bytes, so a list never panics,
whatever count it is asked for. -/
theorem not_isPanic_decodeSgList (count : ℕ) :
    ∀ buf : Bytes, ¬ ((decodeSgList count).run buf).1.IsPanic := by
  induction count with
  | zero => intro buf; simp [decodeSgList]
  | succ count ih =>
      intro buf
      refine Method.not_isPanic_bind (ScatterGatherEntry.fixed_decode.not_isPanic buf) ?_
      intro entry rest _
      refine Method.not_isPanic_bind (ih rest) ?_
      intro entries left _
      simp

theorem MrRegPayload.not_isPanic_decode (payloadLength : UInt32) (buf : Bytes) :
    ¬ ((MrRegPayload.decode payloadLength).run buf).1.IsPanic := by
  refine not_isPanic_requireRemaining (n := 16) (fun buf h => ?_) buf
  rw [Method.run_bind_of_ok (Reader.run_getU32_of_le (by omega)),
    Method.run_bind_of_ok (Reader.run_getU32_of_le (by simp; omega)),
    Method.run_bind_of_ok (Reader.run_getU32_of_le (by simp; omega)),
    Method.run_bind_of_ok (Reader.run_getU32_of_le (by simp; omega)),
    Method.run_bind_of_ok (Reader.run_remaining _), Method.run_ite]
  split
  · rename_i hleft
    rw [Method.run_bind_of_ok (Reader.run_getU32_of_le hleft.2)]
    simp
  · simp

theorem SendPayload.not_isPanic_decode (buf : Bytes) :
    ¬ (SendPayload.decode.run buf).1.IsPanic := by
  refine not_isPanic_requireRemaining (n := 4) (fun buf h => ?_) buf
  rw [Method.run_bind_of_ok (Reader.run_getU16_of_le (by omega)),
    Method.run_bind_of_ok (Reader.run_getU16_of_le (by simp; omega)),
    Method.run_bind_of_ok (Reader.run_remaining _), Method.run_ite]
  split
  · simp
  · -- a 16-bit count is far below the allocation limit
    have hcount := (UInt16.ofNat (ofBE (buf.take 2))).toNat_lt
    rw [withCapacity_sgEntrySize (by omega), Method.run_bind_of_ok (Method.run_lift _ _)]
    refine Method.not_isPanic_bind (not_isPanic_decodeSgList _ _) ?_
    intro entries left _
    simp

theorem ErrorPayload.not_isPanic_decode (buf : Bytes) :
    ¬ (ErrorPayload.decode.run buf).1.IsPanic := by
  refine not_isPanic_requireRemaining (n := 10) (fun buf h => ?_) buf
  rw [Method.run_bind_of_ok (Reader.run_getU16_of_le (by omega)),
    Method.run_bind_of_ok (Reader.run_getU16_of_le (by simp; omega)),
    Method.run_bind_of_ok (Reader.run_getU32_of_le (by simp; omega)),
    Method.run_bind_of_ok (Reader.run_getU16_of_le (by simp; omega)),
    Method.run_bind_of_ok (Reader.run_remaining _), Method.run_ite]
  split
  · rename_i hleft
    exact ((Reader.takes_copyToBytes _).bind fun _ => Reader.Takes.pure _).reads.not_isPanic hleft.2
  · simp

/-! ### The two subtractions -/

/-- A WRITE payload panics exactly when its fixed part is there and the announced
length does not cover it. -/
theorem WritePayload.isPanic_decode_iff (payloadLength : UInt32) (buf : Bytes) :
    ((WritePayload.decode payloadLength).run buf).1.IsPanic ↔
      24 ≤ buf.length ∧ payloadLength.toNat < 24 := by
  by_cases h : 24 ≤ buf.length
  · have hfixed : writeHeaderSize ≤ buf.length := h
    rw [WritePayload.decode, Method.run_bind_of_ok (run_requireRemaining_of_le hfixed),
      Method.run_bind_of_ok (Reader.run_getU32_of_le (by omega)),
      Method.run_bind_of_ok (Reader.run_getU32_of_le (by simp; omega)),
      Method.run_bind_of_ok (Reader.run_getU64_of_le (by simp; omega)),
      Method.run_bind_of_ok (Reader.run_getU64_of_le (by simp; omega))]
    -- the subtraction of the header size from the declared length is not checked by the source
    by_cases hlength : payloadLength.toNat < 24
    · have hsub : checkedSubUsize payloadLength.toNat writeHeaderSize = none :=
        if_neg (not_le.mpr hlength)
      simp [hsub, h, hlength]
    · have hsub : checkedSubUsize payloadLength.toNat writeHeaderSize
          = some (payloadLength.toNat - 24) := if_pos (not_lt.mp hlength)
      have hcount : (payloadLength.toNat - 24) / sgEntrySize ≤ 2 ^ 28 := by
        have hlt := payloadLength.toNat_lt
        simp only [sgEntrySize]
        omega
      rw [hsub, Outcome.orPanic_some, Method.run_bind_of_ok (Method.run_lift _ _)]
      dsimp only
      rw [withCapacity_sgEntrySize hcount, Method.run_bind_of_ok (Method.run_lift _ _)]
      refine iff_of_false ?_ fun hc => hlength hc.2
      refine Method.not_isPanic_bind (not_isPanic_decodeSgList _ _) ?_
      intro entries left _
      simp
  · have hshort : buf.length < writeHeaderSize := Nat.lt_of_not_le h
    rw [WritePayload.decode, Method.run_bind, run_requireRemaining_of_lt hshort]
    simp [h]

/-- The same for READ_RESP, whose fixed part is eight bytes. -/
theorem ReadRespPayload.isPanic_decode_iff (payloadLength : UInt32) (buf : Bytes) :
    ((ReadRespPayload.decode payloadLength).run buf).1.IsPanic ↔
      8 ≤ buf.length ∧ payloadLength.toNat < 8 := by
  by_cases h : 8 ≤ buf.length
  · rw [ReadRespPayload.decode, Method.run_bind_of_ok (run_requireRemaining_of_le h),
      Method.run_bind_of_ok (Reader.run_getU64_of_le h)]
    by_cases hlength : payloadLength.toNat < 8
    · have hsub : checkedSubUsize payloadLength.toNat 8 = none := if_neg (not_le.mpr hlength)
      simp [hsub, h, hlength]
    · have hsub : checkedSubUsize payloadLength.toNat 8 = some (payloadLength.toNat - 8) :=
        if_pos (not_lt.mp hlength)
      rw [hsub, Outcome.orPanic_some, Method.run_bind_of_ok (Method.run_lift _ _),
        Method.run_bind_of_ok (Reader.run_remaining _), Method.run_ite]
      refine iff_of_false ?_ fun hc => hlength hc.2
      split
      · simp
      · rename_i hleft
        exact ((Reader.takes_copyToBytes _).bind fun _ => Reader.Takes.pure _).reads.not_isPanic
          (not_lt.mp hleft)
  · rw [ReadRespPayload.decode, Method.run_bind,
      run_requireRemaining_of_lt (Nat.lt_of_not_le h)]
    simp [h]

/-! ### Headers -/

/-- The header's `payload_length` field, read off the frame.  It is the sender's number, and may be
anything. -/
def declaredLength (b : Bytes) : ℕ := ofBE ((b.drop 20).take 4)

/-- The head of a byte string, as the one-byte number that is read off it. -/
theorem ofNat_ofBE_take_one {b : Bytes} (h : 1 ≤ b.length) :
    b[0]? = some (UInt8.ofNat (ofBE (b.take 1))) := by
  cases b with
  | nil => simp at h
  | cons x rest => simp [ofBE]

/-- What decoding the header of a byte string can do: fail, or return a header that agrees with the
bytes and leave the payload.  It fails exactly if the frame is short, of another version, or of no
opcode. -/
theorem run_decode_header (b : Bytes) :
    (∃ e left, RdowsHeader.decode.run b = (.err e, left) ∧
        ¬ (24 ≤ b.length ∧ b[0]? = some 0x01 ∧ ∃ op : Opcode, b[1]? = some op.toU8)) ∨
      ∃ h, RdowsHeader.decode.run b = (.ok h, b.drop 24) ∧ 24 ≤ b.length ∧
        b[0]? = some 0x01 ∧ b[1]? = some h.opcode.toU8 ∧
        h.payloadLength.toNat = declaredLength b := by
  rw [RdowsHeader.decode, Method.run_bind_of_ok (Reader.run_remaining _), Method.run_ite]
  by_cases hlen : b.length < headerSize
  · refine .inl ⟨_, _, by rw [if_pos hlen, Method.run_throw], fun hb => ?_⟩
    exact absurd hb.1 (not_le.mpr hlen)
  · rw [if_neg hlen]
    have hlen : 24 ≤ b.length := not_lt.mp hlen
    -- the bytes that decide are the first two, and both are there
    have hb₀ := ofNat_ofBE_take_one (b := b) (by omega)
    have hb₁ := ofNat_ofBE_take_one (b := b.drop 1) (by simp; omega)
    rw [List.getElem?_drop] at hb₁
    rw [Method.run_bind_of_ok (Reader.run_getU8_of_le (by omega)), Method.run_ite]
    by_cases hversion : UInt8.ofNat (ofBE (b.take 1)) = rdowsVersion
    · rw [if_neg (not_not.mpr hversion),
        Method.run_bind_of_ok (Reader.run_getU8_of_le (by simp; omega))]
      rw [hversion] at hb₀
      cases hop : Opcode.tryFrom (UInt8.ofNat (ofBE ((b.drop 1).take 1))) with
      | error _ =>
          refine .inl ⟨_, _, by simp only [Method.run_throw]; rfl, ?_⟩
          rintro ⟨-, -, op, hbyte⟩
          rw [hb₁, Option.some.injEq] at hbyte
          rw [hbyte, Opcode.tryFrom_toU8] at hop
          cases hop
      | ok op =>
          refine .inr ⟨_, by
            rw [Method.run_bind_of_ok (Reader.run_getU16_of_le (by simp; omega)),
              Method.run_bind_of_ok (Reader.run_getU32_of_le (by simp; omega)),
              Method.run_bind_of_ok (Reader.run_getU32_of_le (by simp; omega)),
              Method.run_bind_of_ok (Reader.run_getU64_of_le (by simp; omega)),
              Method.run_bind_of_ok (Reader.run_getU32_of_le (by simp; omega)),
              Method.run_pure]
            simp only [List.drop_drop]
            rfl, hlen, hb₀, ?_, ?_⟩
          · rw [hb₁, Opcode.toU8_of_tryFrom hop]
          · have hlt := ofBE_lt ((b.drop 20).take 4)
            rw [List.length_take, List.length_drop, Nat.min_eq_left (by omega)] at hlt
            exact UInt32.toNat_ofNat_of_lt' hlt
    · refine .inl ⟨_, _, by rw [if_pos hversion, Method.run_throw], fun hb => ?_⟩
      rw [hb₀, Option.some.injEq] at hb
      exact hversion hb.2.1

/-! ### Whole frames -/

namespace RdowsMessage

/-- A WRITE frame that has its fixed 24 bytes of payload but announces fewer. -/
def UnderflowingWrite (b : Bytes) : Prop :=
  48 ≤ b.length ∧ b[0]? = some 0x01 ∧ b[1]? = some 0x30 ∧ declaredLength b < 24

/-- A READ_RESP frame that has its fixed 8 bytes of payload but announces fewer. -/
def UnderflowingReadResp (b : Bytes) : Prop :=
  32 ≤ b.length ∧ b[0]? = some 0x01 ∧ b[1]? = some 0x41 ∧ declaredLength b < 8

/-- A payload decoder that does not panic, wrapped into its variant. -/
theorem not_isPanic_wrap {α : Type} {x : Reader RdowsError α} {buf : Bytes}
    (wrap : α → RdowsMessage) (h : ¬ (x.run buf).1.IsPanic) :
    ¬ ((do return wrap (← x) : Reader RdowsError RdowsMessage).run buf).1.IsPanic :=
  Method.not_isPanic_bind h fun a left _ => by simp

/-- Wrapping a payload into its variant neither adds nor removes a panic. -/
theorem isPanic_wrap_iff {α : Type} {x : Reader RdowsError α} {buf : Bytes}
    (wrap : α → RdowsMessage) :
    ((do return wrap (← x) : Reader RdowsError RdowsMessage).run buf).1.IsPanic ↔
      (x.run buf).1.IsPanic := by
  rw [Method.run_bind]
  rcases x.run buf with ⟨a | e | p, left⟩ <;> simp

/-- The payload decoder panics exactly at the two subtractions, under the opcodes that have them. -/
theorem isPanic_decodePayload_iff (h : RdowsHeader) (buf : Bytes) :
    ((decodePayload h).run buf).1.IsPanic ↔
      (h.opcode = .write ∧ 24 ≤ buf.length ∧ h.payloadLength.toNat < 24) ∨
        (h.opcode = .readResp ∧ 8 ≤ buf.length ∧ h.payloadLength.toNat < 8) := by
  rw [decodePayload]
  -- two payloads subtract from the declared length; the others never panic
  cases hop : h.opcode with
  | write => simp [isPanic_wrap_iff, WritePayload.isPanic_decode_iff, -Method.run_bind]
  | readResp => simp [isPanic_wrap_iff, ReadRespPayload.isPanic_decode_iff, -Method.run_bind]
  | connect => simpa using not_isPanic_wrap _ (ConnectPayload.fixed_decode.not_isPanic buf)
  | connectAck => simpa using not_isPanic_wrap _ (ConnectPayload.fixed_decode.not_isPanic buf)
  | mrReg => simpa using not_isPanic_wrap _ (MrRegPayload.not_isPanic_decode _ buf)
  | mrRegAck => simpa using not_isPanic_wrap _ (MrRegAckPayload.fixed_decode.not_isPanic buf)
  | mrDereg => simpa using not_isPanic_wrap _ (MrDeregPayload.fixed_decode.not_isPanic buf)
  | mrDeregAck => simpa using not_isPanic_wrap _ (MrDeregAckPayload.fixed_decode.not_isPanic buf)
  | send => simpa using not_isPanic_wrap _ (SendPayload.not_isPanic_decode buf)
  | sendData => simpa using not_isPanic_wrap _ ((DataPayload.fixed_decode _).not_isPanic buf)
  | writeData => simpa using not_isPanic_wrap _ ((DataPayload.fixed_decode _).not_isPanic buf)
  | readReq => simpa using not_isPanic_wrap _ (ReadReqPayload.fixed_decode.not_isPanic buf)
  | atomicReq => simpa using not_isPanic_wrap _ (AtomicReqPayload.fixed_decode.not_isPanic buf)
  | atomicResp => simpa using not_isPanic_wrap _ (AtomicRespPayload.fixed_decode.not_isPanic buf)
  | creditUpdate =>
      simpa using not_isPanic_wrap _ (CreditUpdatePayload.fixed_decode.not_isPanic buf)
  | error => simpa using not_isPanic_wrap _ (ErrorPayload.not_isPanic_decode buf)
  | disconnect => simp
  | recvComp => simp
  | writeComp => simp
  | ack => simp

/-- **Decoding panics on exactly two kinds of frames.**  On every byte string
`decode` returns a message or an error, unless the string is a WRITE frame of at
least 48 bytes whose header announces fewer than 24, or a READ_RESP frame of at
least 32 bytes whose header announces fewer than 8. -/
theorem decode_not_isPanic_iff (b : Bytes) :
    ¬ (decode b).IsPanic ↔ ¬ UnderflowingWrite b ∧ ¬ UnderflowingReadResp b := by
  rw [← not_or, not_iff_not, decode]
  rcases run_decode_header b with ⟨e, left, hrun, hbad⟩ | ⟨h, hrun, hlen, hb₀, hb₁, hdeclared⟩
  · rw [Method.run_bind, hrun]
    refine iff_of_false (by simp) ?_
    rintro (hw | hr)
    · exact hbad ⟨by have := hw.1; omega, hw.2.1, .write, hw.2.2.1⟩
    · exact hbad ⟨by have := hr.1; omega, hr.2.1, .readResp, hr.2.2.1⟩
  -- the opcode of the header is the second byte, by which the two conditions are stated
  · have hopcode : ∀ op : Opcode, h.opcode = op ↔ b[1]? = some op.toU8 := by
      intro op
      rw [hb₁, Option.some.injEq, Opcode.toU8_injective.eq_iff]
    rw [Method.run_bind_of_ok hrun, isPanic_decodePayload_iff, hopcode, hopcode,
      List.length_drop, hdeclared, UnderflowingWrite, UnderflowingReadResp]
    simp only [hb₀, true_and, Opcode.toU8]
    constructor
    · rintro (⟨hop, hle, hlt⟩ | ⟨hop, hle, hlt⟩)
      · exact .inl ⟨by omega, hop, hlt⟩
      · exact .inr ⟨by omega, hop, hlt⟩
    · rintro (⟨hle, hop, hlt⟩ | ⟨hle, hop, hlt⟩)
      · exact .inl ⟨hop, by omega, hlt⟩
      · exact .inr ⟨hop, by omega, hlt⟩

/-- A WRITE frame of 48 bytes with `payload_length = 0` makes the decoder panic: the fixed part is
there, so the length check passes, and `0 - 24` underflows. -/
theorem decode_write_zero_length_panics :
    (decode ([0x01, 0x30] ++ List.replicate 46 0)).IsPanic := by
  decide

end RdowsMessage

end Rdows
