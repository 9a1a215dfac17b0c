import Rdows.Core.DecodeSafety

/-!
# How far decoding looks

A frame announces the length of its payload in its header, and a WebSocket message may be longer.
Cutting the message after the announced payload changes nothing as long as the decoder of the opcode
needs no more than was announced.  What it needs is its `Opcode.extent`: the width of the fixed
part, and for SEND and ERROR what a count inside the payload adds to it.

## Why the announced length does not delimit a frame

Only the decoders of MR_REG, SEND_DATA, WRITE_DATA, WRITE and READ_RESP look at the announced
length, and only the last four of them take their extent from it.  All the others read on behind the
announced payload, so a CONNECT that announces no payload is accepted if sixteen bytes follow it.
`decode_take_iff` says exactly when the announced length delimits a frame, and has a condition on
the right for that reason.

## How it is proved

`CutAt k extent x` is the same statement about one payload: cutting it after `k` bytes changes
nothing exactly if nothing is cut off, or `x` needs no more.  Both directions are needed, so it is
not enough that a reader ignores what it does not need; it also has to notice when something it
needs is gone.  For a reader with a fixed part, the refusal of a short payload names the length it
was given, which differs from whatever the uncut payload yields.  `cutAt_of_leads` composes a fixed
part with a variable one, and the payloads follow one by one.
-/

namespace Rdows

open Rust Reader

/-! ### Payloads that are cut -/

section Cut

variable {α β : Type} {k n : ℕ} {x body : Reader RdowsError α} {extent : Bytes → ℕ}

/-- Cutting the payload after `k` bytes changes nothing exactly if nothing is cut off, or the reader
needs no more than `k` bytes.  Results are compared, errors included, but not what is left
unread. -/
def CutAt (k : ℕ) (extent : Bytes → ℕ) (x : Reader RdowsError α) : Prop :=
  ∀ buf : Bytes, k ≤ buf.length →
    ((x.run buf).1 = (x.run (buf.take k)).1 ↔ k = buf.length ∨ extent buf ≤ k)

/-- A reader that checks the width `n` of its fixed part first.  A payload cut below that width is
refused, and the refusal tells where it was cut. -/
theorem cutAt_requireRemaining (least : ∀ buf, n ≤ extent buf)
    (passes : k < n → ∀ buf : Bytes, n ≤ buf.length →
      (body.run buf).1 ≠ .err (.payloadTooShort n k))
    (behind : n ≤ k → CutAt k extent body) :
    CutAt k extent (requireRemaining n >>= fun _ => body) := by
  intro buf inside
  have cut : (buf.take k).length = k := List.length_take_of_le inside
  -- a cut behind the required bytes is not seen here; one before them is reported, with the length
  -- that is left
  by_cases wide : n ≤ k
  · rw [Method.run_bind_of_ok (run_requireRemaining_of_le (by omega)),
      Method.run_bind_of_ok (run_requireRemaining_of_le (by omega))]
    exact behind wide buf inside
  rw [Method.run_bind (requireRemaining n) _ (buf.take k), run_requireRemaining_of_lt (by omega),
    cut]
  have far := least buf
  constructor
  · intro same
    refine .inl (Nat.le_antisymm inside (Nat.le_of_not_lt fun longer => ?_))
    by_cases full : n ≤ buf.length
    · rw [Method.run_bind_of_ok (run_requireRemaining_of_le full)] at same
      exact passes (Nat.lt_of_not_le wide) buf full same
    · rw [Method.run_bind, run_requireRemaining_of_lt (Nat.lt_of_not_le full)] at same
      simp only [Outcome.err.injEq, RdowsError.payloadTooShort.injEq] at same
      omega
  · rintro (rfl | short)
    · rw [Method.run_bind, run_requireRemaining_of_lt (by omega)]
    · omega

/-- A reader that goes on as `f` behind its fixed part: what is needed behind it adds up. -/
theorem cutAt_of_leads {f : β → Reader RdowsError α} {g : β → Bytes → ℕ}
    (leads : ∀ front : Bytes, front.length = n → ∃ a, ∀ rest,
      body.run (front ++ rest) = (f a).run rest ∧ extent (front ++ rest) = n + g a rest)
    (least : ∀ buf, n ≤ extent buf)
    (passes : k < n → ∀ a rest, ((f a).run rest).1 ≠ .err (.payloadTooShort n k))
    (tail : n ≤ k → ∀ a, CutAt (k - n) (g a) (f a)) :
    CutAt k extent (requireRemaining n >>= fun _ => body) := by
  refine cutAt_requireRemaining least (fun short buf full => ?_) (fun wide buf inside => ?_)
  · obtain ⟨front, rest, fits, rfl⟩ := exists_append_of_le full
    obtain ⟨a, run⟩ := leads front fits
    rw [(run rest).1]
    exact passes short a rest
  · obtain ⟨front, rest, fits, rfl⟩ := exists_append_of_le (Nat.le_trans wide inside)
    obtain ⟨a, run⟩ := leads front fits
    rw [List.length_append] at inside ⊢
    rw [List.take_append, List.take_of_length_le (by omega), (run rest).1, (run _).1, fits,
      (run rest).2, tail wide a rest (by omega)]
    omega

/-- The same where a cut of the rest changes nothing. -/
theorem cutAt_of_leads_fixed {f : β → Reader RdowsError α} (leads : Leads n body f)
    (passes : k < n → ∀ a rest, ((f a).run rest).1 ≠ .err (.payloadTooShort n k))
    (same : n ≤ k → ∀ a (rest : Bytes), k - n ≤ rest.length →
      ((f a).run rest).1 = ((f a).run (rest.take (k - n))).1) :
    CutAt k (fun _ => n) (requireRemaining n >>= fun _ => body) := by
  refine cutAt_of_leads (g := fun _ _ => 0) (fun front full => ?_) (fun _ => le_rfl) passes
    fun wide a rest inside => iff_of_true (same wide a rest inside) (.inr (Nat.zero_le _))
  exact (leads front full).imp fun a run rest => ⟨run rest, rfl⟩

/-- A payload of fixed size needs its size. -/
theorem Fixed.cutAt (fixed : Fixed n x) (k : ℕ) : CutAt k (fun _ => n) x := by
  obtain ⟨body, takes, rfl⟩ := fixed
  refine cutAt_requireRemaining (fun _ => le_rfl) (fun _ buf full failed => ?_)
    (fun wide buf inside => iff_of_true (takes.run_take wide inside) (.inr wide))
  obtain ⟨a, run⟩ := takes.reads buf full
  rw [run] at failed
  cases failed

/-- Wrapping a payload into its variant does not change how far is looked. -/
theorem CutAt.wrap {wrap : α → RdowsMessage} (injective : Function.Injective wrap)
    (cut : CutAt k extent x) :
    CutAt k extent (do return wrap (← x) : Reader RdowsError RdowsMessage) := by
  intro buf inside
  rw [← cut buf inside, Method.run_bind, Method.run_bind]
  rcases x.run buf with ⟨a | e | p, left⟩ <;>
    rcases x.run (buf.take k) with ⟨a' | e' | p', left'⟩ <;> simp [injective.eq_iff]

end Cut

/-! ### Payload by payload -/

namespace MrRegPayload

/-- The end of `decode`, behind the fixed part: the optional key. -/
def decodeTail (payloadLength : UInt32) (fixed : MrRegPayload) :
    Reader RdowsError MrRegPayload := do
  let left ← Reader.remaining
  if payloadLength ≥ 20 ∧ left ≥ 4 then
    let lkey ← Reader.getU32
    return { fixed with suggestedLkey := some ⟨lkey⟩ }
  else
    return fixed

theorem leads_decode (payloadLength : UInt32) : ∃ body, Leads 16 body (decodeTail payloadLength) ∧
    decode payloadLength = (requireRemaining 16 >>= fun _ => body) :=
  ⟨_, takes_getU32.leads fun pd => takes_getU32.leads fun flags => takes_getU32.leads fun high =>
    takes_getU32.leads fun low => Leads.here (decodeTail payloadLength)
      ⟨⟨pd⟩, ⟨flags⟩, high.toUInt64 <<< 32 ||| low.toUInt64, none⟩, rfl⟩

/-- The key is read only if it was announced, so a cut behind the announced payload cannot take
it away. -/
theorem cutAt_decode (payloadLength : UInt32) :
    CutAt payloadLength.toNat (fun _ => 16) (decode payloadLength) := by
  obtain ⟨body, leads, same⟩ := leads_decode payloadLength
  rw [same]
  refine cutAt_of_leads_fixed leads (fun _ fixed rest failed => ?_) fun wide fixed buf inside => ?_
  · rw [decodeTail, Method.run_bind_of_ok (run_remaining _), Method.run_ite] at failed
    split at failed
    · rename_i there
      rw [Method.run_bind_of_ok (run_getU32_of_le there.2)] at failed
      cases failed
    · cases failed
  · rw [decodeTail, Method.run_bind_of_ok (run_remaining _),
      Method.run_bind_of_ok (run_remaining _), Method.run_ite, Method.run_ite,
      List.length_take_of_le inside]
    -- the suggested key is read only if the declared length announces it, so the cut is not seen
    have announced : payloadLength ≥ 20 ↔ 20 ≤ payloadLength.toNat := UInt32.le_iff_toNat_le
    by_cases there : payloadLength ≥ 20
    · have room := announced.mp there
      rw [if_pos ⟨there, by omega⟩, if_pos ⟨there, by omega⟩,
        Method.run_bind_of_ok (run_getU32_of_le (by omega)),
        Method.run_bind_of_ok (run_getU32_of_le (by rw [List.length_take]; omega)),
        List.take_take, Nat.min_eq_left (by omega)]
      rfl
    · rw [if_neg fun both => there both.1, if_neg fun both => there both.1]
      rfl

end MrRegPayload

theorem takes_decodeSgList (count : ℕ) : Takes (count * sgEntrySize) (decodeSgList count) := by
  induction count with
  | zero =>
      rw [Nat.zero_mul]
      exact Takes.pure []
  | succ count ih =>
      rw [Nat.succ_mul, Nat.add_comm]
      exact ScatterGatherEntry.fixed_decode.takes.bind fun _ => ih.bind fun _ => Takes.pure _

/-- Reading the entries of a list that fits into memory. -/
theorem takes_entries {β : Type} {count : ℕ} (small : count ≤ 2 ^ 28)
    (wrap : List ScatterGatherEntry → β) :
    Takes (count * sgEntrySize) (do
      Method.lift (withCapacity count sgEntrySize)
      let sgList ← decodeSgList count
      return wrap sgList : Reader RdowsError β) := by
  rw [withCapacity_sgEntrySize small]
  exact (takes_decodeSgList count).bind fun _ => Takes.pure _

namespace SendPayload

/-- The end of `decode`, behind the count. -/
def decodeTail (count : UInt16) : Reader RdowsError SendPayload := do
  let needed := count.toNat * sgEntrySize
  let left ← Reader.remaining
  if left < needed then
    Method.throw (.payloadTooShort (4 + needed) (4 + left))
  else
    Method.lift (withCapacity count.toNat sgEntrySize)
    let sgList ← decodeSgList count.toNat
    return { sgList }

/-- The bytes of a SEND payload: the count, and the entries it announces. -/
def extent (payload : Bytes) : ℕ := 4 + ofBE (payload.take 2) * sgEntrySize

/-- A 16-bit count is far below the allocation limit. -/
theorem toNat_count_le (count : UInt16) : count.toNat ≤ 2 ^ 28 := by
  have := count.toNat_lt
  omega

theorem cutAt_decodeTail (count : UInt16) (k : ℕ) :
    CutAt k (fun _ => count.toNat * sgEntrySize) (decodeTail count) := by
  intro buf inside
  dsimp only
  rw [decodeTail, Method.run_bind_of_ok (run_remaining _), Method.run_bind_of_ok (run_remaining _),
    Method.run_ite, Method.run_ite, List.length_take_of_le inside]
  by_cases there : count.toNat * sgEntrySize ≤ k
  · rw [if_neg (by omega), if_neg (by omega)]
    exact iff_of_true ((takes_entries (toNat_count_le count) SendPayload.mk).run_take there inside)
      (.inr there)
  · rw [if_pos (Nat.lt_of_not_le there), Method.run_throw]
    by_cases whole : buf.length < count.toNat * sgEntrySize
    · rw [if_pos whole, Method.run_throw]
      simp only [Outcome.err.injEq, RdowsError.payloadTooShort.injEq, true_and]
      omega
    · obtain ⟨p, run⟩ := (takes_entries (toNat_count_le count) SendPayload.mk).reads buf
        (not_lt.mp whole)
      rw [if_neg whole, run]
      refine iff_of_false (fun same => ?_) (by omega)
      cases same

theorem cutAt_decode (k : ℕ) : CutAt k extent decode := by
  refine cutAt_of_leads (f := decodeTail) (g := fun count _ => count.toNat * sgEntrySize)
    (fun front full => ⟨UInt16.ofNat (ofBE (front.take 2)), fun rest => ⟨?_, ?_⟩⟩)
    (fun _ => Nat.le_add_right _ _) (fun short count rest failed => ?_)
    (fun _ count => cutAt_decodeTail count _)
  · rw [Method.run_bind_of_ok (run_getU16_of_le (by rw [List.length_append]; omega)),
      Method.run_bind_of_ok
        (run_getU16_of_le (by rw [List.length_drop, List.length_append]; omega)),
      List.drop_drop, List.drop_left' full, List.take_append_of_le_length (by omega)]
    rfl
  · have small := ofBE_lt (front.take 2)
    rw [List.length_take_of_le (by omega)] at small
    rw [extent, List.take_append_of_le_length (by omega), UInt16.toNat_ofNat_of_lt' small]
  -- what fails behind the count fails with another number of bytes
  · rw [decodeTail, Method.run_bind_of_ok (run_remaining _), Method.run_ite] at failed
    split at failed
    · simp only [Method.run_throw, Outcome.err.injEq, RdowsError.payloadTooShort.injEq] at failed
      omega
    · rename_i there
      obtain ⟨p, run⟩ := (takes_entries (toNat_count_le count) SendPayload.mk).reads rest
        (not_lt.mp there)
      rw [run] at failed
      cases failed

end SendPayload

namespace WritePayload

/-- The end of `decode`, behind the fixed part: as many entries as the announced length has room
for. -/
def decodeTail (payloadLength : UInt32) (fixed : WritePayload) :
    Reader RdowsError WritePayload := do
  let sgBytes ← Method.lift <|
    Outcome.orPanic .arithmeticOverflow (checkedSubUsize payloadLength.toNat writeHeaderSize)
  let count := sgBytes / sgEntrySize
  Method.lift (withCapacity count sgEntrySize)
  let sgList ← decodeSgList count
  return { fixed with sgList }

theorem leads_decode (payloadLength : UInt32) : ∃ body, Leads 24 body (decodeTail payloadLength) ∧
    decode payloadLength = (requireRemaining 24 >>= fun _ => body) :=
  ⟨_, takes_getU32.leads fun rkey => takes_getU32.leads fun _ => takes_getU64.leads fun remoteVa =>
    takes_getU64.leads fun length => Leads.here (decodeTail payloadLength)
      ⟨⟨rkey⟩, remoteVa, length, []⟩, rfl⟩

theorem takes_decodeTail {payloadLength : UInt32} (wide : 24 ≤ payloadLength.toNat)
    (fixed : WritePayload) :
    Takes ((payloadLength.toNat - 24) / sgEntrySize * sgEntrySize)
      (decodeTail payloadLength fixed) := by
  have small : (payloadLength.toNat - 24) / sgEntrySize ≤ 2 ^ 28 := by
    have := payloadLength.toNat_lt
    simp only [sgEntrySize]
    omega
  rw [decodeTail, checkedSubUsize, writeHeaderSize, if_pos wide, Outcome.orPanic_some]
  exact takes_entries small fun sgList => { fixed with sgList }

theorem cutAt_decode (payloadLength : UInt32) :
    CutAt payloadLength.toNat (fun _ => 24) (decode payloadLength) := by
  obtain ⟨body, leads, same⟩ := leads_decode payloadLength
  rw [same]
  refine cutAt_of_leads_fixed leads (fun short fixed rest failed => ?_)
    fun wide fixed buf inside => ?_
  · rw [decodeTail, checkedSubUsize, writeHeaderSize, if_neg (by omega)] at failed
    cases failed
  · exact (takes_decodeTail wide fixed).run_take (Nat.div_mul_le_self _ _) inside

end WritePayload

namespace ReadRespPayload

/-- The end of `decode`, behind the offset: the data that was announced. -/
def decodeTail (payloadLength : UInt32) (fragmentOffset : UInt64) :
    Reader RdowsError ReadRespPayload := do
  let dataLen ← Method.lift <|
    Outcome.orPanic .arithmeticOverflow (checkedSubUsize payloadLength.toNat 8)
  let left ← Reader.remaining
  if left < dataLen then
    Method.throw (.payloadTooShort payloadLength.toNat (8 + left))
  else
    let data ← Reader.copyToBytes dataLen
    return { fragmentOffset, data }

theorem leads_decode (payloadLength : UInt32) : ∃ body, Leads 8 body (decodeTail payloadLength) ∧
    decode payloadLength = (requireRemaining 8 >>= fun _ => body) :=
  ⟨_, takes_getU64.leads fun offset => Leads.here (decodeTail payloadLength) offset, rfl⟩

theorem run_decodeTail {payloadLength : UInt32} (wide : 8 ≤ payloadLength.toNat)
    (offset : UInt64) {buf : Bytes} (inside : payloadLength.toNat - 8 ≤ buf.length) :
    ((decodeTail payloadLength offset).run buf).1
      = .ok ⟨offset, buf.take (payloadLength.toNat - 8)⟩ := by
  rw [decodeTail, checkedSubUsize, if_pos wide, Outcome.orPanic_some,
    Method.run_bind_of_ok (Method.run_lift _ _), Method.run_bind_of_ok (run_remaining _),
    Method.run_ite, if_neg (not_lt.mpr inside), Method.run_bind,
    show (copyToBytes _ : Reader RdowsError Bytes).run buf = _ from if_pos inside]
  rfl

theorem cutAt_decode (payloadLength : UInt32) :
    CutAt payloadLength.toNat (fun _ => 8) (decode payloadLength) := by
  obtain ⟨body, leads, same⟩ := leads_decode payloadLength
  rw [same]
  refine cutAt_of_leads_fixed leads (fun short offset rest failed => ?_)
    fun wide offset buf inside => ?_
  · rw [decodeTail, checkedSubUsize, if_neg (by omega)] at failed
    cases failed
  · rw [run_decodeTail wide offset inside,
      run_decodeTail wide offset (by rw [List.length_take_of_le inside]), List.take_take,
      Nat.min_self]

end ReadRespPayload

namespace ErrorPayload

/-- The end of `decode`, behind the description's length. -/
def decodeTail (fixed : ErrorPayload) (descLen : UInt16) : Reader RdowsError ErrorPayload := do
  let left ← Reader.remaining
  if 0 < descLen.toNat ∧ descLen.toNat ≤ left then
    let descBytes ← Reader.copyToBytes descLen.toNat
    return { fixed with description := fromUtf8Lossy descBytes }
  else
    return { fixed with description := "" }

/-- The description's length, read off the payload.  Like every such field it may be larger than the
frame. -/
def descriptionLength (payload : Bytes) : ℕ := ofBE ((payload.drop 8).take 2)

/-- The bytes of an ERROR payload: the fixed part, and a description that is all there. -/
def extent (payload : Bytes) : ℕ :=
  10 + if descriptionLength payload ≤ payload.length - 10 then descriptionLength payload else 0

theorem run_decodeTail (fixed : ErrorPayload) (descLen : UInt16) (buf : Bytes) :
    ((decodeTail fixed descLen).run buf).1 = .ok { fixed with description :=
      (if descLen.toNat ≤ buf.length then fromUtf8Lossy (buf.take descLen.toNat) else "") } := by
  rw [decodeTail, Method.run_bind_of_ok (run_remaining _), Method.run_ite]
  by_cases there : 0 < descLen.toNat ∧ descLen.toNat ≤ buf.length
  · rw [if_pos there, if_pos there.2, Method.run_bind,
      show (copyToBytes _ : Reader RdowsError Bytes).run buf = _ from if_pos there.2]
    rfl
  · rw [if_neg there]
    by_cases short : descLen.toNat ≤ buf.length
    · have empty : descLen.toNat = 0 := by omega
      rw [if_pos short, empty]
      rfl
    · rw [if_neg short]
      rfl

/-- A description is dropped by a cut exactly if it is there, not empty, and longer than what the
cut leaves. -/
theorem cutAt_decodeTail (fixed : ErrorPayload) (descLen : UInt16) (k : ℕ) :
    CutAt k (fun buf => if descLen.toNat ≤ buf.length then descLen.toNat else 0)
      (decodeTail fixed descLen) := by
  intro buf inside
  dsimp only
  rw [run_decodeTail, run_decodeTail, List.length_take_of_le inside, List.take_take]
  by_cases there : descLen.toNat ≤ k
  · rw [if_pos (Nat.le_trans there inside), if_pos there, if_pos (Nat.le_trans there inside),
      Nat.min_eq_left there]
    exact iff_of_true rfl (.inr there)
  · rw [if_neg there]
    by_cases whole : descLen.toNat ≤ buf.length
    -- The cut drops a description that is not empty, and so is its lossy reading.
    · rw [if_pos whole, if_pos whole]
      refine iff_of_false (fun same => ?_) (by omega)
      simp only [Outcome.ok.injEq, ErrorPayload.mk.injEq, true_and,
        fromUtf8Lossy_eq_empty_iff] at same
      have := congrArg List.length same
      rw [List.length_take_of_le whole, List.length_nil] at this
      omega
    · rw [if_neg whole, if_neg whole]
      exact iff_of_true rfl (.inr (Nat.zero_le _))

/-- The fixed part of an ERROR payload. -/
theorem run_decode_append {front : Bytes} (full : front.length = 10) :
    ∃ fixed, ∀ rest, decode.run (front ++ rest)
      = (decodeTail fixed (UInt16.ofNat (descriptionLength front))).run rest := by
  refine ⟨⟨ErrorCode.tryFromOrInternal (UInt16.ofNat (ofBE (front.take 2))),
    UInt32.ofNat (ofBE ((front.drop 4).take 4)), ""⟩, fun rest => ?_⟩
  have shorter : ∀ n, n ≤ 10 → ((front ++ rest).drop n).length = 10 - n + rest.length := by
    intro n short
    rw [List.length_drop, List.length_append]
    omega
  rw [decode,
    Method.run_bind_of_ok (run_requireRemaining_of_le (by rw [List.length_append]; omega)),
    Method.run_bind_of_ok (run_getU16_of_le (by rw [List.length_append]; omega)),
    Method.run_bind_of_ok (run_getU16_of_le (by rw [shorter] <;> omega)), List.drop_drop,
    Method.run_bind_of_ok (run_getU32_of_le (by rw [shorter] <;> omega)), List.drop_drop,
    Method.run_bind_of_ok (run_getU16_of_le (by rw [shorter] <;> omega)), List.drop_drop,
    List.drop_left' full, List.take_append_of_le_length (by omega),
    List.drop_append_of_le_length (by omega), List.drop_append_of_le_length (by omega),
    List.take_append_of_le_length (by rw [List.length_drop]; omega),
    List.take_append_of_le_length (by rw [List.length_drop]; omega)]
  rfl

theorem cutAt_decode (k : ℕ) : CutAt k extent decode := by
  refine cutAt_of_leads (f := fun a : ErrorPayload × UInt16 => decodeTail a.1 a.2)
    (g := fun a buf => if a.2.toNat ≤ buf.length then a.2.toNat else 0) (fun front full => ?_)
    (fun _ => Nat.le_add_right _ _) (fun _ a rest failed => ?_)
    (fun _ a => cutAt_decodeTail a.1 a.2 _)
  · obtain ⟨fixed, run⟩ := run_decode_append full
    refine ⟨(fixed, UInt16.ofNat (descriptionLength front)), fun rest => ⟨?_, ?_⟩⟩
    · rw [← run rest, decode, Method.run_bind_of_ok
        (run_requireRemaining_of_le (by rw [List.length_append]; omega))]
    · have small := ofBE_lt ((front.drop 8).take 2)
      rw [List.length_take_of_le (by rw [List.length_drop]; omega)] at small
      rw [extent, descriptionLength, descriptionLength, List.drop_append_of_le_length (by omega),
        List.take_append_of_le_length (by rw [List.length_drop]; omega),
        UInt16.toNat_ofNat_of_lt' small, List.length_append, full, Nat.add_sub_cancel_left]
  · rw [run_decodeTail] at failed
    cases failed

end ErrorPayload

/-! ### Whole frames -/

/-- How many bytes of a payload its decoder takes whatever length was announced.  For the payloads
that are delimited by the announced length it is the fixed part only. -/
def Opcode.extent : Opcode → Bytes → ℕ
  | connect, _ | connectAck, _ | mrReg, _ | mrRegAck, _ | atomicResp, _ => 16
  | mrDereg, _ | mrDeregAck, _ | readResp, _ | creditUpdate, _ => 8
  | write, _ => 24
  | readReq, _ => 40
  | atomicReq, _ => 32
  | send, payload => SendPayload.extent payload
  | error, payload => ErrorPayload.extent payload
  | sendData, _ | writeData, _ | disconnect, _ | recvComp, _ | writeComp, _ | ack, _ => 0

/-- The first 24 bytes settle what the header is, so a cut behind them is not seen by its
decoder. -/
theorem RdowsHeader.settles_decode : Settles 24 RdowsHeader.decode := by
  have checked : ∃ body, Settles 24 body ∧ RdowsHeader.decode =
      (remaining >>= fun got => if got < headerSize then Method.throw (.headerTooShort got)
        else body : Reader RdowsError RdowsHeader) := by
    refine ⟨_, takes_getU8.settles_bind (n := 23) fun version => ?_, rfl⟩
    split
    · exact settles_throw _ _
    refine takes_getU8.settles_bind (n := 22) fun opcodeByte => ?_
    split
    · exact settles_throw _ _
    · exact (takes_getU16.bind fun _ => takes_getU32.bind fun _ => takes_getU32.bind fun _ =>
        takes_getU64.bind fun _ => takes_getU32.bind fun _ => Takes.pure _).settles
  obtain ⟨body, settles, same⟩ := checked
  intro front full
  have run : ∀ rest, RdowsHeader.decode.run (front ++ rest) = body.run (front ++ rest) := by
    intro rest
    rw [same, Method.run_bind_of_ok (run_remaining _), Method.run_ite,
      if_neg (by rw [List.length_append, full]; exact not_lt.mpr (Nat.le_add_right _ _))]
  simpa only [run] using settles front full

namespace RdowsMessage

/-- How far the payload decoder looks: the extent of the opcode, compared with the announced
length. -/
theorem cutAt_decodePayload (h : RdowsHeader) :
    CutAt h.payloadLength.toNat h.opcode.extent (decodePayload h) := by
  have nothing : ∀ m : RdowsMessage, CutAt h.payloadLength.toNat (fun _ => 0)
      (pure m : Reader RdowsError RdowsMessage) :=
    fun m buf _ => iff_of_true rfl (.inr (Nat.zero_le _))
  have data : CutAt h.payloadLength.toNat (fun _ => 0) (DataPayload.decode h.payloadLength) :=
    fun buf inside => iff_of_true
      ((DataPayload.fixed_decode h.payloadLength).takes.run_take le_rfl inside)
      (.inr (Nat.zero_le _))
  rw [decodePayload]
  -- a payload without an extent of its own takes what it gets
  cases opcode : h.opcode with
  | connect => exact (ConnectPayload.fixed_decode.cutAt _).wrap fun _ _ same => (connect.inj same).2
  | connectAck =>
      exact (ConnectPayload.fixed_decode.cutAt _).wrap fun _ _ same => (connectAck.inj same).2
  | mrReg => exact (MrRegPayload.cutAt_decode _).wrap fun _ _ same => (mrReg.inj same).2
  | mrRegAck =>
      exact (MrRegAckPayload.fixed_decode.cutAt _).wrap fun _ _ same => (mrRegAck.inj same).2
  | mrDereg => exact (MrDeregPayload.fixed_decode.cutAt _).wrap fun _ _ same => (mrDereg.inj same).2
  | mrDeregAck =>
      exact (MrDeregAckPayload.fixed_decode.cutAt _).wrap fun _ _ same => (mrDeregAck.inj same).2
  | send => exact (SendPayload.cutAt_decode _).wrap fun _ _ same => (send.inj same).2
  | sendData => exact data.wrap fun _ _ same => (sendData.inj same).2
  | write => exact (WritePayload.cutAt_decode _).wrap fun _ _ same => (write.inj same).2
  | writeData => exact data.wrap fun _ _ same => (writeData.inj same).2
  | readReq => exact (ReadReqPayload.fixed_decode.cutAt _).wrap fun _ _ same => (readReq.inj same).2
  | readResp => exact (ReadRespPayload.cutAt_decode _).wrap fun _ _ same => (readResp.inj same).2
  | atomicReq =>
      exact (AtomicReqPayload.fixed_decode.cutAt _).wrap fun _ _ same => (atomicReq.inj same).2
  | atomicResp =>
      exact (AtomicRespPayload.fixed_decode.cutAt _).wrap fun _ _ same => (atomicResp.inj same).2
  | creditUpdate =>
      exact (CreditUpdatePayload.fixed_decode.cutAt _).wrap fun _ _ same =>
        (creditUpdate.inj same).2
  | error => exact (ErrorPayload.cutAt_decode _).wrap fun _ _ same => (error.inj same).2
  | disconnect => exact nothing _
  | recvComp => exact nothing _
  | writeComp => exact nothing _
  | ack => exact nothing _

/-- The announced length delimits the frame: nothing comes behind it, the header is refused, or the
decoder of the opcode needs no more than was announced. -/
def Delimited (b : Bytes) : Prop :=
  b.length = 24 + declaredLength b ∨ b[0]? ≠ some 0x01 ∨
    ∀ op : Opcode, b[1]? = some op.toU8 → op.extent (b.drop 24) ≤ declaredLength b

/-- **When the announced length delimits a frame.**  Cutting a frame behind its announced payload
changes neither whether it is accepted nor the message it yields, exactly if it is `Delimited`. -/
theorem decode_take_iff (b : Bytes) (long : 24 + declaredLength b ≤ b.length) :
    decode b = decode (b.take (24 + declaredLength b)) ↔ Delimited b := by
  generalize cut : b.take (24 + declaredLength b) = short
  obtain ⟨front, payload, full, rfl⟩ := exists_append_of_le (show 24 ≤ b.length by omega)
  rw [List.take_append, List.take_of_length_le (by omega), full, Nat.add_sub_cancel_left] at cut
  rw [List.length_append, full] at long
  subst cut
  -- the header is the same on both sides, whatever comes behind it
  rcases RdowsHeader.settles_decode front full with ⟨e, fails⟩ | ⟨h, run⟩
  · have refused : ∀ rest, decode (front ++ rest) = .err e := by
      intro rest
      have := fails rest
      rw [decode, Method.run_bind]
      generalize RdowsHeader.decode.run (front ++ rest) = result at this
      obtain ⟨outcome, left⟩ := result
      subst this
      rfl
    rw [refused, refused]
    refine iff_of_true rfl (.inr ?_)
    rcases run_decode_header (front ++ payload) with ⟨-, -, -, bad⟩ | ⟨h, run, -⟩
    · by_contra delimited
      push Not at delimited
      obtain ⟨version, op, byte, -⟩ := delimited
      exact bad ⟨by rw [List.length_append]; omega, version, op, byte⟩
    · have := fails payload
      rw [run] at this
      cases this
  · have accepted : ∀ rest, decode (front ++ rest) = ((decodePayload h).run rest).1 := by
      intro rest
      rw [decode, Method.run_bind_of_ok (run rest)]
    rcases run_decode_header (front ++ payload) with ⟨e, left, failed, -⟩ | ⟨h', run', facts⟩
    · rw [run] at failed
      cases failed
    obtain ⟨-, version, byte, announced⟩ := facts
    obtain rfl : h = h' := by
      rw [run, Prod.mk.injEq, Outcome.ok.injEq] at run'
      exact run'.1
    rw [accepted, accepted, ← announced, cutAt_decodePayload h payload (by omega), Delimited,
      ← announced, List.length_append, full, List.drop_left' full]
    -- The opcode byte determines the opcode, so the condition is about the decoded one.
    have sameOpcode : (∀ op : Opcode, (front ++ payload)[1]? = some op.toU8 →
        op.extent payload ≤ h.payloadLength.toNat) ↔
        h.opcode.extent payload ≤ h.payloadLength.toNat := by
      simp only [byte, Option.some.injEq, Opcode.toU8_injective.eq_iff, forall_eq']
    rw [sameOpcode]
    simp only [version, ne_eq, not_true_eq_false, false_or]
    omega

/-- A CONNECT that announces its sixteen bytes is delimited, with four more bytes behind it that no
one looks at. -/
theorem decode_take_connect :
    let b : Bytes := [0x01, 0x01] ++ List.replicate 21 0 ++ [16] ++ List.replicate 20 0xFF
    24 + declaredLength b ≤ b.length ∧ decode b = decode (b.take (24 + declaredLength b)) := by
  intro b
  have long : 24 + declaredLength b ≤ b.length := by decide
  refine ⟨long, (decode_take_iff b long).mpr (.inr (.inr fun op => ?_))⟩
  cases op <;> decide

/-- A CONNECT that announces no payload is accepted with the sixteen bytes that come behind, and
refused without them.  The condition of the equivalence is therefore not void. -/
theorem decode_take_unannounced_connect :
    ∃ b : Bytes, 24 + declaredLength b ≤ b.length ∧ (decode b).IsOk ∧
      decode (b.take (24 + declaredLength b)) = .err (.payloadTooShort 16 0) ∧ ¬ Delimited b := by
  refine ⟨[0x01, 0x01] ++ List.replicate 38 0, by decide, by decide, by decide, ?_⟩
  rintro (whole | version | needs)
  · exact absurd whole (by decide)
  · exact version rfl
  · exact absurd (needs .connect rfl) (by decide)

end RdowsMessage

end Rdows
