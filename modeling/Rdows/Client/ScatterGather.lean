import Rdows.Client.Completions
import Rdows.Core.Reencode

/-!
# Scatter/gather lists on the wire

`post_send` and `rdma_write` put two frames on the wire: one with the scatter/gather list of the
call, and one with the bytes that were gathered from it.  Neither verb looks at the length of the
list or at the number of bytes, while the wire format has 16 bits for the entries of a SEND and 32
bits for the length of any payload.

## What is to survive

`SendSurvives`, `WriteSurvives`: the frames decode to the list and to the bytes of the call, and the
byte counts that are computed from them are right.  The counts are part of it because the completion
is what the application sees: `data.len() as u32` is cut off just like the length fields.

## When it does

`sg_lists_survive`: this is so exactly if the list and the bytes fit their fields.  One direction is
the round trip of the wire format.  The other one needs no look at what the encoder cuts off:
whatever is decoded is within the format (`withinFormat_of_decode_of_ne_error`), so that a list that
is not cannot be the one that arrives.

`long_sg_list_lost`: a SEND of `2 ^ 16` entries is where a list is lost first; the count on the wire
is zero, and so is the number of entries that the server reads.  The entries of a WRITE are counted
by the payload length, so that a WRITE keeps a list of that length.
-/

namespace Rdows

open Rust

namespace RdowsConnection

variable {c : RdowsConnection} {wrid : UInt64} {entries : List ScatterGatherEntry} {data : Bytes}

/-! ### The frames -/

section Frames

variable (c wrid)

/-- A SEND keeps its list exactly as long as the 16-bit count can express it.  Beyond that it is
decoded with fewer entries, not refused. -/
theorem decode_send_iff :
    (∃ header, RdowsMessage.decode
        (RdowsMessage.send (c.headerFor .send wrid) { sgList := entries }).encode
      = .ok (.send header { sgList := entries })) ↔ entries.length ≤ 65535 := by
  constructor
  · rintro ⟨header, decoded⟩
    exact (RdowsMessage.withinFormat_of_decode_of_ne_error decoded nofun).sgCount _ _ rfl
  · intro count
    refine ⟨(RdowsMessage.send (c.headerFor .send wrid) { sgList := entries }).wireHeader, ?_⟩
    have exact_count : entries.length % 2 ^ 16 = entries.length := Nat.mod_eq_of_lt (by omega)
    rw [RdowsMessage.decode_encode_send rfl rfl, exact_count, List.take_length]

/-- A WRITE keeps its list as long as the payload length can express it, which is the whole of what
delimits it. -/
theorem decode_write {p : WritePayload} (size : 24 + p.sgList.length * 16 < 2 ^ 32) :
    ∃ header, RdowsMessage.decode (RdowsMessage.write (c.headerFor .write wrid) p).encode
      = .ok (.write header p) := by
  refine ⟨_, RdowsMessage.decode_encode_eq (.of_header rfl rfl ?_)⟩
  show p.encode.length < 2 ^ 32
  rw [WritePayload.length_encode]
  exact size

/-- A data frame keeps its bytes exactly as long as the payload length can express them. -/
theorem decode_sendData_iff :
    (∃ header, RdowsMessage.decode
        (RdowsMessage.sendData (c.headerFor .sendData wrid) { data }).encode
      = .ok (.sendData header { data })) ↔ data.length < 2 ^ 32 :=
  ⟨fun ⟨_, decoded⟩ => (RdowsMessage.withinFormat_of_decode_of_ne_error decoded nofun).payload,
    fun size => ⟨_, RdowsMessage.decode_encode_eq (.of_header rfl rfl size)⟩⟩

@[inherit_doc decode_sendData_iff]
theorem decode_writeData_iff :
    (∃ header, RdowsMessage.decode
        (RdowsMessage.writeData (c.headerFor .writeData wrid) { data }).encode
      = .ok (.writeData header { data })) ↔ data.length < 2 ^ 32 :=
  ⟨fun ⟨_, decoded⟩ => (RdowsMessage.withinFormat_of_decode_of_ne_error decoded nofun).payload,
    fun size => ⟨_, RdowsMessage.decode_encode_eq (.of_header rfl rfl size)⟩⟩

end Frames

end RdowsConnection

/-! ### Whole calls -/

/-- The call succeeded, and the completion it pushed counts so many bytes: the last entry of the
queue it leaves. -/
def Exchange.Counts (x : Exchange) (count : ℕ) : Prop :=
  x.result = .ok .unit ∧ ∃ cqe : CompletionQueueEntry,
    x.after.cq.entries = x.before.cq.entries ++ [cqe] ∧ cqe.status = 0 ∧
    cqe.byteCount.toNat = count

/-- **A `post_send` survives the wire**: its first frame decodes to a SEND with exactly the list,
its second one to exactly the gathered bytes; and if there are less than `2 ^ 32` of them, the
completion of a RECV_COMP counts as many as the entries have together. -/
structure Exchange.SendSurvives (x : Exchange) (entries : List ScatterGatherEntry) (data : Bytes) :
    Prop where
  frames : ∃ first second, x.sent = [first, second] ∧
    (∃ header, RdowsMessage.decode first = .ok (.send header { sgList := entries })) ∧
    ∃ header, RdowsMessage.decode second = .ok (.sendData header { data })
  counts : totalLength entries < 2 ^ 32 →
    ∀ header, x.consumed = some (.recvComp header) → x.Counts (totalLength entries)

/-- **An `rdma_write` survives the wire**, in the same way; the length that its WRITE declares is
that of the entries together, if there are less than `2 ^ 32` bytes. -/
structure Exchange.WriteSurvives (x : Exchange) (rkey : RKey) (remoteVa : UInt64)
    (entries : List ScatterGatherEntry) (data : Bytes) : Prop where
  frames : ∃ first second, x.sent = [first, second] ∧
    (∃ header length, RdowsMessage.decode first
        = .ok (.write header { rkey, remoteVa, length, sgList := entries }) ∧
      (totalLength entries < 2 ^ 32 → length.toNat = totalLength entries)) ∧
    ∃ header, RdowsMessage.decode second = .ok (.writeData header { data })
  counts : totalLength entries < 2 ^ 32 →
    ∀ header, x.consumed = some (.writeComp header) → x.Counts (totalLength entries)

namespace RdowsConnection

variable {d : RdowsConnection} {wrid : UInt64}

/-- The connection with one more completion in its queue, at the end. -/
def queued (d : RdowsConnection) (wrid : UInt64) (status : UInt16) (opcode : Opcode)
    (byteCount : UInt32) : RdowsConnection :=
  { d with cq := { d.cq with
    entries := d.cq.entries ++ [⟨wrid, status, opcode, 0, byteCount, d.sessionId⟩] } }

/-- A completion is stored if there is room. -/
theorem run_pushCqe (room : d.cq.isFull = false) (status : UInt16) (opcode : Opcode)
    (byteCount : UInt32) :
    (pushCqe wrid status opcode byteCount).run d
      = (.ok (), d.queued wrid status opcode byteCount) := by
  have below : ¬ d.cq.capacity ≤ d.cq.entries.length := by
    simpa [CompletionQueue.isFull] using room
  rw [pushCqe, Method.run_modify, CompletionQueue.push, if_neg below, queued]

/-- The ends of a call that is answered with success. -/
theorem run_onRecvComp {totalLen : UInt32} {header : RdowsHeader} (room : d.cq.isFull = false)
    (credits : d.sendCredits ≠ 0) :
    (onRecvComp wrid totalLen (.recvComp header)).run d
      = (.ok (), { d with sendCredits := d.sendCredits - 1 }.queued wrid 0 .send totalLen) := by
  rw [run_onRecvComp_push credits]
  exact run_pushCqe (d := { d with sendCredits := d.sendCredits - 1 }) room _ _ _

@[inherit_doc run_onRecvComp]
theorem run_onWriteComp {totalLen : UInt64} {header : RdowsHeader} (room : d.cq.isFull = false) :
    (onWriteComp wrid totalLen (.writeComp header)).run d
      = (.ok (), d.queued wrid 0 .write totalLen.toUInt32) :=
  run_pushCqe room _ _ _

/-- The end of a call that pushes a completion with status 0. -/
theorem counts_of_queued {x : Exchange} {y : Local Unit} {d e : RdowsConnection} {wrid : UInt64}
    {opcode : Opcode} {byteCount : UInt32}
    (run : y.run d = (.ok (), e.queued wrid 0 opcode byteCount)) (same : e.cq = x.before.cq)
    (ends : (x.result, x.after) = (y.mapValue fun _ => VerbValue.unit).run d) :
    x.Counts byteCount.toNat := by
  rw [Method.run_mapValue, run] at ends
  obtain ⟨result, after⟩ := Prod.mk.inj ends
  refine ⟨result, ⟨wrid, 0, opcode, 0, byteCount, e.sessionId⟩, ?_, rfl, rfl⟩
  rw [after, ← same]
  rfl

/-- **Scatter/gather lists survive the wire exactly if they fit it.**  Take any connection, any
list, and whatever arrives while the call waits.  Whenever `post_send` puts frames on the wire, it
gathered the bytes of the entries' ranges in order, and the call survives if and only if the list
has at most 65535 entries (the count of a SEND has 16 bits) and there are less than `2 ^ 32` bytes
(the payload length has 32).  Whenever `rdma_write` does, it survives if and only if the payload of
the WRITE, 24 bytes and 16 for every entry, and the gathered bytes are shorter than `2 ^ 32`. -/
theorem sg_lists_survive (c : RdowsConnection) (wrid : UInt64) (entries : List ScatterGatherEntry)
    (incoming : List StreamItem) :
    (let x := (c.exchange (.postSend wrid entries, incoming)).1
     x.sent ≠ [] → c.gatherSgData entries = .ok (entries.flatMap c.entryBytes) ∧
      (x.SendSurvives entries (entries.flatMap c.entryBytes) ↔
        entries.length ≤ 65535 ∧ totalLength entries < 2 ^ 32)) ∧
    ∀ rkey remoteVa,
      let x := (c.exchange (.rdmaWrite wrid rkey remoteVa entries, incoming)).1
      x.sent ≠ [] → c.gatherSgData entries = .ok (entries.flatMap c.entryBytes) ∧
        (x.WriteSurvives rkey remoteVa entries (entries.flatMap c.entryBytes) ↔
          24 + entries.length * 16 < 2 ^ 32 ∧ totalLength entries < 2 ^ 32) := by
  constructor
  · intro x onWire
    rcases c.exchange_cases (.postSend wrid entries) incoming with ⟨silent, -⟩ |
      ⟨-, -, messages, finish, d, sent, requests, passes, waits, ends⟩
    · exact absurd silent onWire
    cases requests with
    | postSend _ _ data gathered =>
        have length := length_of_gatherSgData gathered
        obtain rfl := (gatherSgData_eq_ok gathered).2
        refine ⟨gathered, ?_⟩
        constructor
        · rintro ⟨⟨first, second, frames, list, bytes⟩, -⟩
          cases sent.symm.trans frames
          rw [← length]
          exact ⟨(c.decode_send_iff wrid).mp list, (c.bump.decode_sendData_iff wrid).mp bytes⟩
        · rintro ⟨count, small⟩
          refine ⟨⟨_, _, sent, (c.decode_send_iff wrid).mpr count,
            (c.bump.decode_sendData_iff wrid).mpr (by rwa [length])⟩, fun _ header consumed => ?_⟩
          have counts := counts_of_queued
            (run_onRecvComp (waits.cq ▸ passes.1) (waits.credits passes.2)) waits.cq
            (Exchange.ends_of_consumed ends consumed)
          rwa [length, UInt32.toNat_ofNat_of_lt' small] at counts
  · intro rkey remoteVa x onWire
    rcases c.exchange_cases (.rdmaWrite wrid rkey remoteVa entries) incoming with ⟨silent, -⟩ |
      ⟨-, -, messages, finish, d, sent, requests, passes, waits, ends⟩
    · exact absurd silent onWire
    cases requests with
    | rdmaWrite _ _ _ _ data gathered =>
        have length := length_of_gatherSgData gathered
        obtain rfl := (gatherSgData_eq_ok gathered).2
        refine ⟨gathered, ?_⟩
        constructor
        · rintro ⟨⟨first, second, frames, ⟨header, declared, list, -⟩, bytes⟩, -⟩
          cases sent.symm.trans frames
          have fits := (RdowsMessage.withinFormat_of_decode_of_ne_error list nofun).payload
          rw [RdowsMessage.encodePayload, WritePayload.length_encode] at fits
          rw [← length]
          exact ⟨fits, (c.bump.decode_writeData_iff wrid).mp bytes⟩
        · rintro ⟨size, small⟩
          -- The length is announced in 64 bits; only the completion narrows it to 32.
          have announced : (UInt64.ofNat (entries.flatMap c.entryBytes).length).toNat
              = totalLength entries := by
            rw [length]
            exact UInt64.toNat_ofNat_of_lt' (Nat.lt_trans small (by decide))
          obtain ⟨header, decoded⟩ := c.decode_write wrid
            (p := ⟨rkey, remoteVa, .ofNat (entries.flatMap c.entryBytes).length, entries⟩) size
          refine ⟨⟨_, _, sent, ⟨header, _, decoded, fun _ => announced⟩,
            (c.bump.decode_writeData_iff wrid).mpr (by rwa [length])⟩, fun _ header consumed => ?_⟩
          have counts := counts_of_queued (run_onWriteComp (waits.cq ▸ passes)) waits.cq
            (Exchange.ends_of_consumed ends consumed)
          rwa [UInt64.toNat_toUInt32, announced, Nat.mod_eq_of_lt small] at counts

/-- Four entries of the region of `fourBytes`: two overlap, one is empty, one comes twice.  None of
this matters to the wire format. -/
def overlapping : List ScatterGatherEntry :=
  [⟨⟨1⟩, 0, 3⟩, ⟨⟨1⟩, 2, 2⟩, ⟨⟨1⟩, 4, 0⟩, ⟨⟨1⟩, 0, 3⟩]

/-- The four entries as the list of a `post_send` and of an `rdma_write`: the data is as long as the
entries together, and both calls survive. -/
theorem sg_lists_survive_overlapping :
    (let x := (fourBytes.exchange (.postSend 1 overlapping,
        [.ok (RdowsMessage.recvComp (.new .recvComp 7 0 1)).encode])).1
     x.sent ≠ [] ∧ x.Counts 8 ∧ x.SendSurvives overlapping [10, 20, 30, 30, 40, 10, 20, 30]) ∧
    (let x := (fourBytes.exchange (.rdmaWrite 1 ⟨9⟩ 0 overlapping,
        [.ok (RdowsMessage.writeComp (.new .writeComp 7 0 1)).encode])).1
     x.sent ≠ [] ∧ x.Counts 8 ∧
      x.WriteSurvives ⟨9⟩ 0 overlapping [10, 20, 30, 30, 40, 10, 20, 30]) := by
  constructor
  · have onWire : (fourBytes.exchange (.postSend 1 overlapping,
        [.ok (RdowsMessage.recvComp (.new .recvComp 7 0 1)).encode])).1.sent ≠ [] := by
      decide +kernel
    have survives := ((sg_lists_survive fourBytes 1 overlapping _).1 onWire).2.mpr (by decide)
    exact ⟨onWire, survives.counts (by decide) (.new .recvComp 7 0 1) (by decide +kernel), survives⟩
  · have onWire : (fourBytes.exchange (.rdmaWrite 1 ⟨9⟩ 0 overlapping,
        [.ok (RdowsMessage.writeComp (.new .writeComp 7 0 1)).encode])).1.sent ≠ [] := by
      decide +kernel
    have survives := ((sg_lists_survive fourBytes 1 overlapping _).2 ⟨9⟩ 0 onWire).2.mpr (by decide)
    exact ⟨onWire, survives.counts (by decide) (.new .writeComp 7 0 1) (by decide +kernel),
      survives⟩

/-- **A SEND of `2 ^ 16` entries arrives with none.**  They are empty entries of a region that the
connection has, so that the call passes all its checks. -/
theorem long_sg_list_lost :
    let entries : List ScatterGatherEntry := List.replicate 65536 ⟨⟨1⟩, 0, 0⟩
    let x := (fourBytes.exchange (.postSend 1 entries, [])).1
    entries ≠ [] ∧ ∃ first second header, x.sent = [first, second] ∧
      RdowsMessage.decode first = .ok (.send header { sgList := [] }) := by
  intro entries x
  have length : entries.length = 2 ^ 16 := List.length_replicate
  have gathered : fourBytes.gatherSgData entries = .ok [] :=
    gatherSgData_replicate ⟨1⟩ (c := fourBytes) rfl 65536
  have decoded := RdowsMessage.decode_encode_send (h := fourBytes.headerFor .send 1)
    (p := { sgList := entries }) rfl rfl
  rw [length, Nat.mod_self, List.take_zero] at decoded
  have sent := sent_exchange fourBytes (.postSend 1 entries, [])
  rw [Verb.start_postSend gathered (by decide) (by decide), Talk.frames_request] at sent
  exact ⟨List.ne_nil_of_length_pos (by omega), _, _, _, sent, decoded⟩

end RdowsConnection

end Rdows
