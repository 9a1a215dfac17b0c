import Mathlib.Data.List.AList
import Rdows.Core.Message
import Rdows.Lib.Dialogue

/-!
# The client's connection

The state of an `RdowsConnection` and the methods that only touch that state: the completion queue,
the local memory regions, headers and sequence numbers, and one turn of the loop of
`recv_app_message`.

## Where the network is cut off

The two halves of the WebSocket are not part of the state.  A method that uses them is an agent (see
the client's verbs); what is left here are methods in the sense of `Method`, which can be run by
themselves.  `connect` splits at the network: `connectMessage` is what it sends, `connected` what it
makes of the answer.  The loop of `recv_app_message` splits into turns: `recvTurn` is given what the
stream yields next, and returns nothing if the loop has to go on.

## What the client keeps

* `nextSeq` numbers the frames it sends, and wraps around; `expectedRemoteSeq` is the number that
  the next frame of the server must have.  A frame with another number ends the call that waits with
  `ErrSeqGap` and leaves the expectation as it was.
* `sendCredits` is used up by completed SENDs and refilled by CREDIT_UPDATEs.  Both are checked
  arithmetic: a peer that hands out too many credits causes a panic.
* `localMrs` are the client's own buffers, by L_Key.  A `MemoryRegionHandle` that the application
  holds is a copy; the buffer here is the one that is sent from and read into.

Local accesses compute the end of their range with a plain addition before they compare it
(`checkRange`), which is where a range at the end of the address space panics.
-/

namespace Rdows

open Rust

/-! ### The completion queue -/

/-- `CompletionQueue`.  The source uses a `VecDeque`; the front of the list is its front. -/
structure CompletionQueue where
  entries : List CompletionQueueEntry
  capacity : ℕ

namespace CompletionQueue

/-- `CompletionQueue::new`. -/
def new (capacity : ℕ) : CompletionQueue := ⟨[], capacity⟩

/-- `is_full`.  Work requests ask for it before they put anything on the wire. -/
def isFull (q : CompletionQueue) : Bool := q.capacity ≤ q.entries.length

/-- `push`: whether the entry was stored, and the queue.  A full queue refuses the entry and keeps
those it has. -/
def push (q : CompletionQueue) (cqe : CompletionQueueEntry) : Bool × CompletionQueue :=
  if q.capacity ≤ q.entries.length then (false, q)
  else (true, { q with entries := q.entries ++ [cqe] })

/-- `poll_cq`: take out the oldest entries, at most `max` of them. -/
def pollCq (q : CompletionQueue) (max : ℕ) : List CompletionQueueEntry × CompletionQueue :=
  let n := min max q.entries.length
  (q.entries.take n, { q with entries := q.entries.drop n })

end CompletionQueue

/-! ### The connection -/

/-- `MemoryRegionHandle`: the two keys of a region, its length as it was asked for, and a local
buffer of that length. -/
structure MemoryRegionHandle where
  lkey : LKey
  rkey : RKey
  len : UInt64
  localBuf : Bytes
  deriving DecidableEq, Repr

/-- `RdowsConnection`, without the two halves of the WebSocket.  Regions are found by the number of
their L_Key. -/
structure RdowsConnection where
  sessionId : UInt32
  pd : ProtectionDomain
  maxMsgSize : UInt32
  nextSeq : UInt32
  expectedRemoteSeq : Option UInt32
  sendCredits : UInt32
  cq : CompletionQueue
  localMrs : AList fun _ : UInt32 => MemoryRegionHandle

/-- What the client's half of the WebSocket yields: the data of a binary message, or the text of an
error.  Text messages, pings and pongs are skipped, and a Close is taken for the end of the
stream. -/
abbrev StreamItem := Except String Bytes

namespace RdowsConnection

/-- A method of the connection that does not use the network. -/
abbrev Local := Method RdowsConnection RdowsError

/-- The CONNECT that `connect` sends, under the sequence number 0.  The session number is drawn at
random by the caller. -/
def connectMessage (sessionId : UInt32) : RdowsMessage :=
  .connect (RdowsHeader.new .connect sessionId 0 0)
    { pd := ⟨1⟩, capabilityFlags := 0, maxMsgSize := defaultMaxMsgSize, icc := defaultIcc }

/-- What `connect` and `connect_with_config` make of the first answer.  The size limit is the
smaller of the two proposals; the protection domain and the credits are taken over as the server
states them. -/
def connected (sessionId : UInt32) (cqCapacity : ℕ) :
    RdowsMessage → Outcome RdowsError RdowsConnection
  | .connectAck ackHeader payload => .ok {
      sessionId
      pd := payload.pd
      maxMsgSize := min payload.maxMsgSize defaultMaxMsgSize
      nextSeq := 1
      expectedRemoteSeq := some (ackHeader.sequence + 1)
      sendCredits := payload.icc
      cq := .new cqCapacity
      localMrs := ∅ }
  | .error _ err => .err (.protocol err.errorCode)
  | other => .err (.unexpectedMessage "CONNECT_ACK" other.header.opcode)

/-- `next_header`.  The number is spent as soon as the header is made, also if the frame is never
sent. -/
def nextHeader (opcode : Opcode) (wrid : UInt64) : Local RdowsHeader := do
  let c ← Method.get
  Method.modify fun c => { c with nextSeq := c.nextSeq + 1 }
  return RdowsHeader.new opcode c.sessionId c.nextSeq wrid

/-- `validate_remote_seq`.  The expectation moves on only if the number is the expected one, or if
there is none yet. -/
def validateRemoteSeq (msg : RdowsMessage) : Local Unit := do
  let c ← Method.get
  let advance : Local Unit :=
    Method.modify fun c => { c with expectedRemoteSeq := some (msg.header.sequence + 1) }
  match c.expectedRemoteSeq with
  | some expected =>
      if msg.header.sequence ≠ expected then Method.throw (.protocol .errSeqGap) else advance
  | none => advance

/-- One turn of the loop of `recv_app_message`, on what the stream yields next or on its end.  A
CREDIT_UPDATE is taken in and the loop goes on. -/
def recvTurn : Option StreamItem → Local (Option RdowsMessage)
  | none => Method.throw .sessionClosed
  | some (.error reason) => Method.throw (.webSocket reason)
  | some (.ok data) => do
      -- a frame that does not decode ends the call; its number is not taken note of
      let resp ← Method.lift (RdowsMessage.decode data)
      validateRemoteSeq resp
      match resp with
      | .creditUpdate _ payload => do
          let c ← Method.get
          let credits ← Method.lift
            -- `self.send_credits += payload.credit_increment`
            (.orPanic .arithmeticOverflow (checkedAdd32 c.sendCredits payload.creditIncrement))
          Method.modify fun c => { c with sendCredits := credits }
          return none
      | other => return some other

/-- `self.cq.push`; the result is ignored, so an entry that is refused is lost without a trace. -/
def pushCqe (wrid : UInt64) (status : UInt16) (opcode : Opcode) (byteCount : UInt32) :
    Local Unit :=
  Method.modify fun c => { c with
    cq := (c.cq.push
      { wrid, status, opcode, vendorError := 0, byteCount, qpNumber := c.sessionId }).2 }

/-- `poll_cq`. -/
def pollCq (max : ℕ) : Local (List CompletionQueueEntry) := do
  let c ← Method.get
  Method.modify fun c => { c with cq := (c.cq.pollCq max).2 }
  return (c.cq.pollCq max).1

/-! ### Local memory regions -/

/-- `start + len` and the check against the buffer, shared by all local accesses.  The addition
comes first and is not a `checked_add`. -/
def checkRange (mr : MemoryRegionHandle) (start len : ℕ) : Outcome RdowsError ℕ := do
  let stop ← .orPanic .arithmeticOverflow (checkedAddUsize start len)
  if mr.localBuf.length < stop then .err (.protocol .errBounds) else return stop

/-- The region of a local key, or the error that all local accesses report for an unknown one. -/
def localMr (c : RdowsConnection) (lkey : LKey) : Outcome RdowsError MemoryRegionHandle :=
  .okOr (.protocol .errInvalidLkey) (c.localMrs.lookup lkey.value)

/-- `gather_sg_data`: the ranges of the entries, one after the other.  The first entry that fails
ends the loop. -/
def gatherSgData (c : RdowsConnection) : List ScatterGatherEntry → Outcome RdowsError Bytes
  | [] => return []
  | sg :: rest => do
      let mr ← c.localMr sg.lkey
      let stop ← checkRange mr sg.offset.toNat sg.length.toNat
      let data ← slice mr.localBuf sg.offset.toNat stop
      return data ++ (← c.gatherSgData rest)

/-- Copy data into a local region: the body of `write_local_mr`, and what `rdma_read` does with the
data that arrives. -/
def copyToLocalMr (lkey : LKey) (start : ℕ) (data : Bytes) : Local Unit := do
  let c ← Method.get
  let mr ← Method.lift (c.localMr lkey)
  let stop ← Method.lift (checkRange mr start data.length)
  let localBuf ← Method.lift (copyFromSlice mr.localBuf start stop data)
  Method.modify fun c => { c with localMrs := c.localMrs.insert lkey.value { mr with localBuf } }

/-- `write_local_mr`. -/
def writeLocalMr (lkey : LKey) (offset : ℕ) (data : Bytes) : Local Unit :=
  copyToLocalMr lkey offset data

/-- `read_local_mr`. -/
def readLocalMr (c : RdowsConnection) (lkey : LKey) (offset len : ℕ) :
    Outcome RdowsError Bytes := do
  let mr ← c.localMr lkey
  let stop ← checkRange mr offset len
  slice mr.localBuf offset stop

theorem checkRange_eq_ok {mr : MemoryRegionHandle} {start len stop : ℕ} :
    checkRange mr start len = .ok stop ↔
      start + len = stop ∧ stop ≤ mr.localBuf.length ∧ stop < usizeBound := by
  unfold checkRange checkedAddUsize
  by_cases fits : start + len < usizeBound
  · by_cases inside : mr.localBuf.length < start + len
    · simp [fits, inside]
      omega
    · simp [fits, inside]
      omega
  · simp [fits]
    omega

/-- **Data copied into a local region is read back** by an access to the same range.  Nothing is
said of other ranges here. -/
theorem readLocalMr_of_copyToLocalMr {c c' : RdowsConnection} {lkey : LKey} {start : ℕ}
    {data : Bytes} (run : (copyToLocalMr lkey start data).run c = (.ok (), c')) :
    c'.readLocalMr lkey start data.length = .ok data := by
  rw [copyToLocalMr, Method.run_bind_of_ok (Method.run_get _)] at run
  obtain ⟨mr, found, run⟩ := Method.run_lift_bind_eq_ok.mp run
  obtain ⟨stop, checked, run⟩ := Method.run_lift_bind_eq_ok.mp run
  obtain ⟨localBuf, copied, run⟩ := Method.run_lift_bind_eq_ok.mp run
  obtain ⟨rfl, inside, small⟩ := checkRange_eq_ok.mp checked
  rw [copyFromSlice_eq_ok inside] at copied
  cases copied
  cases run
  -- the copy keeps the length of the buffer, so the checks that passed pass again
  have length := length_splice inside
  have stored (handle : MemoryRegionHandle) :
      localMr { c with localMrs := c.localMrs.insert lkey.value handle } lkey = .ok handle := by
    rw [localMr, AList.lookup_insert]
    rfl
  have range : checkRange { mr with localBuf := splice mr.localBuf start data } start data.length
      = .ok (start + data.length) := by
    refine checkRange_eq_ok.mpr ⟨rfl, ?_, small⟩
    show start + data.length ≤ (splice mr.localBuf start data).length
    rw [length]
    exact inside
  rw [readLocalMr, stored, Outcome.ok_bind, range, Outcome.ok_bind,
    slice_eq_ok (Nat.le_add_right _ _) (by rw [length]; exact inside), Nat.add_sub_cancel_left,
    segment_splice_self inside]

end RdowsConnection

end Rdows
